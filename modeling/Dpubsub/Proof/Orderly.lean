import Dpubsub.Proof.Bounds
import Dpubsub.Proof.Dpubsub
import Dpubsub.Proof.Settings

/-!
# Runs of an orderly application

It gives the setters strings that are not the client's own, uses no buffer that has been freed, and
publishes and unsubscribes only with strings whose packets have room. Whatever it calls, in whatever
order, no call leaves its memory, the getters show the settings that the calls amount to, and no block
is lost.
-/

namespace Dpubsub.Proof
open Dpubsub.Lib Dpubsub.Model Dpubsub.Spec

def changeOf : ClientCall → World → Option Change
  | .call (.setClientId p granted), w =>
      some (.clientId (if granted then w.heap.string? p else none))
  | .call (.setBrokerIp p granted), w =>
      some (.ipBroker (if granted then w.heap.string? p else none))
  | .call (.setConfig (some config) grantsId grantsIp), w =>
      some (if CopyFails config grantsId grantsIp then .noStrings
        else .all (w.heap.string? config.clientId) (w.heap.string? config.ipBroker)
          config.keepAlive config.portBroker config.defaultQos)
  | .call (.setBufferSize size), _ => some (.bufferSize size)
  | .call (.receiveMessage .tcp _ _), w =>
      if 0 ≤ w.client.socket then some (.bufferSize (bufferSizeOf w.client.bufferSize)) else none
  | .call (.destroyClient _), _ => some .noStrings
  | .call (.clientDisconnect _ sends _ _), w =>
      if 0 ≤ w.client.socket ∧ accepts 2 sends = true then some .noStrings else none
  | .setQos qos, _ => some (.defaultQos qos)
  | .setKeepAlive t, _ => some (.keepAlive t)
  | .setBrokerPort port, _ => some (.portBroker port)
  | _, _ => none

def BufferLive (w : World) : Prop := ∀ b, w.client.buffer = some b → w.heap.live b = true

def Orderly : ClientCall → World → Prop
  | .call (.setClientId p _), w | .call (.setBrokerIp p _), w => ForeignString w p
  | .call (.setConfig config grantsId grantsIp), w => ∀ c ∈ config,
      ForeignField w c.clientId ∧ ForeignField w c.ipBroker ∧ FailsAlone c grantsId grantsIp w
  | .call (.setBuffer p), w => BufferLive w ∧ (p = none ∨ ForeignBlock w p)
  | .call (.receiveMessage .tcp _ _), w => 0 ≤ w.client.socket →
      ∀ b, w.client.buffer = some b → bufferSizeOf w.client.bufferSize ≤ w.heap.capacity b
  | .call (.destroyClient _), w => BufferLive w
  | .call (.clientDisconnect _ sends _ _), w =>
      0 ≤ w.client.socket ∧ accepts 2 sends = true → BufferLive w
  | .call (.connectClient .tcp _), w => w.client.config.ipBroker ≠ none
  | .call (.clientConnect ..), w => w.client.config.ipBroker ≠ none ∧
      ∀ clientId ∈ w.heap.string? w.client.config.clientId, strlen clientId < 2 ^ 62
  | .call (.clientPublish topic message ..), w =>
      FitsBuffer3 topic message w.client.config.defaultQos
  | .call (.clientUnsubscribe topic ..), _ => Unsubscribes topic
  | _, _ => True

/-- The packet that a call lays down in its local array, and the size of the array. -/
def localArray : ClientCall → World → Option ((Int × Option Buffer) × Nat)
  | .call (.clientConnect _ stack _), w =>
      some (serializeConnect .connect (some (Buffer.fresh stack)) 128
        (w.heap.string? w.client.config.clientId) w.client.config.keepAlive 0x04, 128)
  | .call (.clientDisconnect stack ..), _ =>
      some (serializeDisconnect .disconnect (some (Buffer.fresh stack)) 2, 2)
  | .call (.clientPublish topic message messageId retain dup stack _), w =>
      some (serialized topic message messageId retain dup stack w, 256)
  | .call (.clientUnsubscribe topic messageId stack _), _ => topic.map fun t =>
      (serializeUnsubscribe .unsubscribe (some (Buffer.fresh stack)) (6 + strlen t) (some t)
        messageId, 6 + strlen t)
  | .call (.clientPingreq stack _), _ =>
      some (serializePingreq .pingreq (some (Buffer.fresh stack)) 2, 2)
  | _, _ => none

theorem serializeConnect_inside (stack : Nat → UInt8) {clientId : Option CString}
    (bound : ∀ id ∈ clientId, strlen id < 2 ^ 62) (keepAlive : UInt16) :
    StaysInside (serializeConnect .connect (some (Buffer.fresh stack)) 128 clientId keepAlive 0x04)
      128 := by
  cases clientId with
  | none => exact staysInside_refused (by decide) stack 128
  | some id =>
      have bound := bound id rfl
      by_cases short : 14 + strlen id ≤ 128
      · rw [serializeConnect_writes _ _ _ _ (by omega) short, ← connectPacket_length id keepAlive]
        rw [← connectPacket_length id keepAlive] at short
        exact (staysInside_packet (by rw [connectPacket_length]; omega)).mpr short
      · rw [serializeConnect_refuses _ _ _ _ (by omega) (Nat.not_le.mp short)]
        exact staysInside_refused (by decide) stack 128

theorem serializeHeaderOnly_inside (packetType : PacketTypeCode) (stack : Nat → UInt8) :
    StaysInside (serializeHeaderOnly packetType (some (Buffer.fresh stack)) 2) 2 := by
  rw [serializeHeaderOnly_lays _ _ _ le_rfl]
  exact (staysInside_packet (p := headerOnly packetType) Nat.zero_lt_two).mpr le_rfl

theorem serialized_inside {w : World} {t m : CString}
    (room : 2 + strlen t + strlen m + (if w.client.config.defaultQos > 0 then 2 else 0) ≤ 253)
    (messageId : UInt16) (retain dup : UInt8) (stack : Nat → UInt8) :
    StaysInside (serialized (some t) (some m) messageId retain dup stack w) 256 := by
  rw [← publishBody_length t m messageId] at room
  have digits := Varint.encode_length_le (k := 1)
    (n := (publishBody t m messageId w.client.config.defaultQos).length) (by omega)
  refine (serializePublish_staysInside_iff _ _ _ (by decide) _ _ _ _ _ _ ?_).mpr (.inr (by omega))
  rw [packet_length]
  omega

theorem localArray_inside {c : ClientCall} {w : World} (orderly : Orderly c w)
    {laid : Int × Option Buffer} {size : Nat} (array : localArray c w = some (laid, size)) :
    StaysInside laid size := by
  unfold localArray at array
  split at array
  · obtain ⟨rfl, rfl⟩ := Prod.mk.inj (Option.some.inj array)
    exact serializeConnect_inside _ orderly.2 _
  · obtain ⟨rfl, rfl⟩ := Prod.mk.inj (Option.some.inj array)
    exact serializeHeaderOnly_inside _ _
  · obtain ⟨rfl, rfl⟩ := Prod.mk.inj (Option.some.inj array)
    obtain ⟨t, m, rfl, rfl, room⟩ := orderly
    exact serialized_inside room _ _ _ _
  · obtain ⟨t, rfl, small⟩ := orderly
    obtain ⟨rfl, rfl⟩ := Prod.mk.inj (Option.some.inj array)
    exact (requests_stayInside_iff _ _ _ t (by omega) _ 0).2.mpr (by omega)
  · obtain ⟨rfl, rfl⟩ := Prod.mk.inj (Option.some.inj array)
    exact serializeHeaderOnly_inside _ _
  · cases array

section
variable {mine : Nat → Prop} {w : World} {stack : Nat → UInt8} {sends : List Int}
  {a : ConnectAnswers} {answer : CloseAnswer}

theorem sendLoop_defined (fd : Int) (dataLen total : Nat) (answers : List Int) :
    (sendLoop fd dataLen total answers).2 ≠ .undefined := by
  induction answers generalizing total with
  | nil =>
      by_cases more : total < dataLen
      · rw [sendLoop_waits more]
        simp
      · rw [sendLoop_done (Nat.not_lt.mp more)]
        simp
  | cons answer answers ih =>
      unfold sendLoop
      split
      · simp only
        split
        · simp
        · exact ih _
      · simp

theorem reported_defined (fd : Int) (dataLen : Nat) (answers : List Int) :
    reported (sendLoop fd dataLen 0 answers).2 ≠ .undefined := by
  have defined := sendLoop_defined fd dataLen 0 answers
  generalize (sendLoop fd dataLen 0 answers).2 = o at defined
  cases o with
  | ret r => simp [reported, Outcome.map]
  | pending => simp [reported, Outcome.map]
  | undefined => exact absurd rfl defined

theorem announce_defined (stack : Nat → UInt8) (sends : List Int)
    (readable : w.client.config.clientId ≠ none →
      w.heap.string? w.client.config.clientId ≠ none)
    (bound : ∀ clientId ∈ w.heap.string? w.client.config.clientId, strlen clientId < 2 ^ 62) :
    (announce stack sends w).1 ≠ .undefined := by
  by_cases null : w.client.config.clientId = none
  · have none : onHeap (stringArg w.client.config.clientId) w = (.ret none, w) := by
      rw [null]
      rfl
    rw [announce_eq, Prog.bind_ret none]
    simp only [serializeConnect]
    exact fun same => by cases same
  · obtain ⟨clientId, string⟩ := Option.ne_none_iff_exists'.mp (readable null)
    by_cases short : strlen clientId ≤ 114
    · rw [announce_begins stack sends string short]
      exact reported_defined _ _ _
    · rw [announce_refuses stack sends string (Nat.not_le.mp short) (bound clientId string)]
      simp

theorem announce_ordered (stack : Nat → UInt8) (sends : List Int) (tidy : Tidy mine w)
    (bound : ∀ clientId ∈ w.heap.string? w.client.config.clientId, strlen clientId < 2 ^ 62) :
    Ordered mine w none (announce stack sends w) := by
  have defined := announce_defined stack sends tidy.clientId bound
  obtain ⟨o, silent | ⟨data, length, sent⟩⟩ := announce_sends stack sends w
  · rw [silent] at defined ⊢
    exact keeps_ordered tidy defined rfl rfl rfl
  · rw [sent] at defined ⊢
    exact keeps_ordered tidy defined rfl rfl rfl

theorem connectClientTcp_returns (address : w.heap.string? w.client.config.ipBroker ≠ none) :
    ∃ r n fd, connectClientTcp a w = (.ret r, withSocket w n fd) := by
  by_cases connects : Connects a w
  · exact ⟨0, _, _, connectClientTcp_connects connects⟩
  · obtain ⟨o, n, ends, fails⟩ := connectClientTcp_fails connects
    cases ends with
    | refused => exact ⟨-1, w.net, w.client.socket, fails⟩
    | unreadable nonneg unreadable => exact absurd unreadable address
    | closed nonneg unused => exact ⟨-1, _, w.client.socket, fails⟩

theorem connectClientTcp_ordered (tidy : Tidy mine w)
    (address : w.client.config.ipBroker ≠ none) :
    Ordered mine w none (connectClientTcp a w) := by
  obtain ⟨r, n, fd, returns⟩ := connectClientTcp_returns (a := a) (tidy.ipBroker address)
  rw [returns]
  exact ret_ordered tidy rfl rfl rfl

theorem clientConnect_ordered (stack : Nat → UInt8) (sends : List Int) (tidy : Tidy mine w)
    (address : w.client.config.ipBroker ≠ none)
    (bound : ∀ clientId ∈ w.heap.string? w.client.config.clientId, strlen clientId < 2 ^ 62) :
    Ordered mine w none (clientConnect a stack sends w) := by
  obtain ⟨r, n, fd, returns⟩ := connectClientTcp_returns (a := a) (tidy.ipBroker address)
  have connected : Tidy mine (withSocket w n fd) :=
    ⟨tidy.owns, tidy.clientId, tidy.ipBroker, tidy.buffer_lt⟩
  rw [clientConnect_eq, Prog.bind_ret returns]
  have ends := announce_ordered stack sends connected bound
  exact ⟨ends.defined, ends.tidy, ends.shown⟩

theorem disconnectClientTcp_ordered (tidy : Tidy mine w) :
    Ordered mine w none (disconnectClientTcp answer w) := by
  by_cases unset : w.client.socket < 0
  · rw [disconnectClientTcp_refuses unset]
    exact ret_ordered tidy rfl rfl rfl
  · obtain ⟨callbacks, closes⟩ := disconnectClientTcp_closes answer (Int.not_lt.mp unset)
    rw [closes]
    refine keeps_ordered tidy ?_ rfl rfl rfl
    split <;> simp

theorem publish_defined (topic message : Option CString) (messageId : UInt16)
    (retain dup : UInt8) (stack : Nat → UInt8) (sends : List Int) (w : World) :
    (publish topic message messageId retain dup stack sends w).1 ≠ .undefined := by
  have defined := sendLoop_defined w.client.socket
    (sizeOfInt (serialized topic message messageId retain dup stack w).1) 0 sends
  rw [publish_eq]
  cases outcome : (sendLoop w.client.socket
    (sizeOfInt (serialized topic message messageId retain dup stack w).1) 0 sends).2 with
  | ret result =>
      rw [Prog.bind_ret (onNet_sendBytesToServer outcome _ w)]
      by_cases cut : result ≠ 0
      · rw [if_pos cut]
        simp
      · rw [if_neg cut, Prog.bind_ret (invoke_eq ..)]
        simp
  | pending =>
      rw [Prog.bind_pending (onNet_sendBytesToServer outcome _ w)]
      simp
  | undefined => exact absurd outcome defined

theorem clientPublish_ordered (topic message : Option CString) (messageId : UInt16)
    (retain dup : UInt8) (tidy : Tidy mine w) :
    Ordered mine w none (clientPublish topic message messageId retain dup stack sends w) := by
  obtain ⟨callbacks, state⟩ := publish_state topic message messageId retain dup stack sends w
  have defined : (clientPublish topic message messageId retain dup stack sends w).1 ≠
      .undefined := by
    have first := publish_defined topic message messageId retain dup stack sends w
    unfold clientPublish
    rcases outcome : publish topic message messageId retain dup stack sends w with ⟨o, w'⟩
    rw [outcome] at first
    cases o with
    | ret r =>
        rw [Prog.bind_ret outcome]
        split <;> simp
    | pending =>
        rw [Prog.bind_pending outcome]
        simp
    | undefined => exact absurd rfl first
  rw [← clientPublish_state] at state
  rcases outcome : clientPublish topic message messageId retain dup stack sends w with ⟨o, w'⟩
  rw [outcome] at state defined
  obtain rfl : w' = _ := state
  exact keeps_ordered tidy defined rfl rfl rfl

end

section
variable {mine : Nat → Prop} {w : World} {p : Ptr}

theorem Tidy.buffer_first (tidy : Tidy mine w) : Owns mine w.heap
    [w.heap.liveOnly w.client.buffer, w.client.config.ipBroker, w.client.config.clientId] :=
  tidy.owns.perm (List.reverse_perm _).symm

theorem setBuffer_frees (live : BufferLive w) (p : Ptr) : setBuffer p w =
    (.ret 0, { w with
      heap := released w.heap w.client.buffer
      client := { w.client with buffer := p } }) := by
  change (Prog.when w.client.buffer.isSome (onHeap (free w.client.buffer)) >>= _) w = _
  rw [Prog.bind_ret (freeField_live live)]
  rfl

theorem setBuffer_ordered (tidy : Tidy mine w) (live : BufferLive w)
    (given : p = none ∨ ForeignBlock w p) : Ordered mine w none (setBuffer p w) := by
  have owns := tidy.buffer_first
  rw [Heap.liveOnly_live live] at owns
  have kept := keptBut_released w.heap w.client.buffer
  have id := kept.owned owns (by simp) tidy.clientId
  have ip := kept.owned owns (by simp) tidy.ipBroker
  have alive : ∀ b, p = some b → (released w.heap w.client.buffer).live b = true := by
    rintro b rfl
    obtain ⟨outside, a, same, live⟩ := given.resolve_left (by simp)
    obtain rfl := Option.some.inj same
    rw [live_released, live, Bool.and_true, decide_eq_true_eq]
    intro buffer
    exact outside (by simp [fields, buffer])
  rw [setBuffer_frees live]
  refine ⟨by simp, ⟨?_, ?_, ?_, ?_⟩, Settings.ext id ip rfl rfl rfl rfl⟩
  · change Owns mine (released w.heap w.client.buffer) [w.client.config.clientId,
      w.client.config.ipBroker, (released w.heap w.client.buffer).liveOnly p]
    rw [Heap.liveOnly_live alive]
    have first : Owns mine (released w.heap w.client.buffer)
        [p, w.client.config.ipBroker, w.client.config.clientId] := by
      rcases given with rfl | ⟨outside, a, rfl, -⟩
      · exact owns.released.null
      · refine owns.released.adopt (alive a rfl) fun member => outside ?_
        simp only [fields, List.mem_cons, List.not_mem_nil, or_false] at member ⊢
        exact member.elim (fun ip => Or.inr (Or.inl ip)) Or.inl
    exact first.perm (List.reverse_perm _).symm
  · intro present
    exact id.trans_ne (tidy.clientId present)
  · intro present
    exact ip.trans_ne (tidy.ipBroker present)
  · exact fun b field => Heap.lt_next_of_live (alive b field)

def torn (w : World) (n : Net) : World := { w with
  heap := released (released (released w.heap w.client.buffer) w.client.config.ipBroker)
    w.client.config.clientId
  net := n
  client := { w.client with
    socket := -1
    config := { w.client.config with clientId := none, ipBroker := none } } }

theorem freeAndReset_live {f : Config → Config}
    (live : ∀ a, p = some a → w.heap.live a = true)
    (idle : p = none → f w.client.config = w.client.config) :
    Prog.when p.isSome (do
      onHeap (free p)
      setConfigField f) w = (.ret (), withHeap w (released w.heap p) (f w.client.config)) := by
  cases p with
  | none =>
      rw [idle rfl]
      rfl
  | some a =>
      rw [Prog.when, if_pos (Option.isSome_some ..),
        Prog.bind_ret (onHeap_eq (free_iff.mpr ⟨live, rfl⟩))]
      rfl

theorem reset_withSocket (w : World) (answer : CloseAnswer) :
    reset w answer = withSocket w (reset w answer).net (-1) := by
  unfold reset
  split
  · rfl
  · rw [withSocket, ← not_not.mp ‹¬w.client.socket ≠ -1›]

theorem destroyClient_tears (tidy : Tidy mine w) (live : BufferLive w)
    (answer : CloseAnswer) : destroyClient answer w = (.ret 0, torn w (reset w answer).net) ∧
      Owns mine (torn w (reset w answer).net).heap [] := by
  have owns := tidy.buffer_first
  rw [Heap.liveOnly_live live] at owns
  have buffer : onHeap (free w.client.buffer) (withSocket w (reset w answer).net (-1)) =
      (.ret (), _) := onHeap_eq (free_iff.mpr ⟨live, rfl⟩)
  refine ⟨?_, owns.released.released.released⟩
  rw [destroyClient_eq, reset_withSocket, freeBlocks, Prog.bind_ret buffer,
    Prog.bind_ret (freeAndReset_live owns.released.first_live fun null => ?_),
    Prog.bind_ret (freeAndReset_live owns.released.released.first_live fun null => ?_)]
  · rfl
  · rw [← null]
    rfl
  · rw [← null]
    rfl

theorem torn_dead {n : Net} : ∀ b, w.client.buffer = some b → (torn w n).heap.live b = false := by
  intro b buffer
  change (released (released (released w.heap w.client.buffer) w.client.config.ipBroker)
    w.client.config.clientId).live b = false
  simp [live_released, buffer]

theorem torn_tidy {n : Net} (tidy : Tidy mine w) (owns : Owns mine (torn w n).heap []) :
    Tidy mine (torn w n) := by
  have dead : (torn w n).heap.liveOnly (torn w n).client.buffer = none := by
    rw [Option.eq_none_iff_forall_ne_some]
    intro b here
    obtain ⟨buffer, live⟩ := Heap.liveOnly_eq_some.mp here
    rw [torn_dead (w := w) b buffer] at live
    cases live
  refine ⟨?_, fun present => absurd rfl present, fun present => absurd rfl present, ?_⟩
  · rw [dead]
    exact owns.null.null.null
  · intro b buffer
    change b < (released (released (released w.heap w.client.buffer) w.client.config.ipBroker)
      w.client.config.clientId).next
    rw [released_next, released_next, released_next]
    exact tidy.buffer_lt b buffer

theorem destroyClient_ordered (tidy : Tidy mine w) (live : BufferLive w)
    (answer : CloseAnswer) : Ordered mine w (some .noStrings) (destroyClient answer w) := by
  obtain ⟨tears, owns⟩ := destroyClient_tears tidy live answer
  rw [tears]
  exact ⟨by simp, torn_tidy tidy owns, rfl⟩

theorem clientDisconnect_ordered (stack : Nat → UInt8) (sends : List Int)
    (answer answer' : CloseAnswer) (tidy : Tidy mine w)
    (live : 0 ≤ w.client.socket ∧ accepts 2 sends = true → BufferLive w) :
    Ordered mine w (if 0 ≤ w.client.socket ∧ accepts 2 sends = true then some .noStrings else none)
      (clientDisconnect stack sends answer answer' w) := by
  by_cases whole : 0 ≤ w.client.socket ∧ accepts 2 sends = true
  · obtain ⟨w', destroys, client, heap, -⟩ :=
      clientDisconnect_destroys stack answer answer' whole.1 whole.2
    have tidy' : Tidy mine w' := by
      constructor
      · rw [client, heap]
        exact tidy.owns
      · rw [client, heap]
        exact tidy.clientId
      · rw [client, heap]
        exact tidy.ipBroker
      · rw [client, heap]
        exact tidy.buffer_lt
    have live' : BufferLive w' := by
      unfold BufferLive
      rw [client, heap]
      exact live whole
    obtain ⟨tears, owns⟩ := destroyClient_tears tidy' live' answer'
    rw [if_pos whole, destroys, Prog.bind_ret tears]
    refine ⟨by simp, torn_tidy tidy' owns, ?_⟩
    change shown (torn w' _) = _
    simp only [shown, torn, client]
    rfl
  · obtain ⟨o, ends, cut⟩ := clientDisconnect_cut stack answer answer' whole
    rw [if_neg whole, cut]
    refine keeps_ordered tidy ?_ rfl rfl rfl
    rcases ends with rfl | rfl <;> simp

def sizedBuffer (w : World) : World := { w with
  heap := w.heap.alloc (List.replicate (bufferSizeOf w.client.bufferSize) 0)
  client := { w.client with
    bufferSize := bufferSizeOf w.client.bufferSize
    buffer := some w.heap.next } }

theorem receiveMessageTcp_allocates (connected : 0 ≤ w.client.socket)
    (buffer : w.client.buffer = none) (answer : RecvAnswer) :
    receiveMessageTcp true answer w = receiveMessageTcp true answer (sizedBuffer w) := by
  have same : sized (sizedBuffer w) = sizedBuffer w := by
    unfold sized sizedBuffer
    simp only [bufferSizeOf_bufferSizeOf]
  have null : (sized w).client.buffer = none := buffer
  have given : (sizedBuffer w).client.buffer ≠ none := Option.some_ne_none _
  have allocates : Prog.when ((sized w).client.buffer = none) (do
      let buffer ← onHeap (malloc (sized w).client.bufferSize true)
      setClient ({ · with buffer := buffer })) (sized w) = (.ret (), sizedBuffer w) := by
    rw [Prog.when, if_pos null, Prog.bind_ret (onHeap_eq (malloc_granted _))]
    rfl
  have present : Prog.when ((sizedBuffer w).client.buffer = none) (do
      let buffer ← onHeap (malloc (sizedBuffer w).client.bufferSize true)
      setClient ({ · with buffer := buffer })) (sizedBuffer w) = (.ret (), sizedBuffer w) := by
    rw [Prog.when, if_neg given]
    rfl
  rw [receiveMessageTcp_eq connected, receiveMessageTcp_eq (w := sizedBuffer w) connected, same,
    receiveSized, getClient_bind, getClient_bind, Prog.bind_ret allocates, Prog.bind_ret present]

theorem receiveMessageTcp_refused (connected : 0 ≤ w.client.socket)
    (buffer : w.client.buffer = none) (answer : RecvAnswer) :
    receiveMessageTcp false answer w = (.ret (-1), sized w) := by
  have null : (sized w).client.buffer = none := buffer
  have refused : Prog.when ((sized w).client.buffer = none) (do
      let buffer ← onHeap (malloc (sized w).client.bufferSize false)
      setClient ({ · with buffer := buffer })) (sized w) = (.ret (), sized w) := by
    rw [Prog.when, if_pos null, Prog.bind_ret (onHeap_eq (malloc_refused _))]
    change (Outcome.ret (), { sized w with client := { (sized w).client with buffer := none } }) = _
    rw [← buffer]
    rfl
  have read : Prog.get (sized w) = (.ret (sized w), sized w) := rfl
  rw [receiveMessageTcp_eq connected, receiveSized, getClient_bind, Prog.bind_ret refused,
    Prog.bind_ret read]
  simp only [null]
  rfl

theorem storeReceived_returns {block : Nat} (answer : RecvAnswer) (w w' : World)
    (fits : bufferSizeOf w.client.bufferSize ≤ w.heap.capacity block) : ∃ r bytes,
    storeReceived block answer w w' =
      (.ret r, { w' with heap := w'.heap.overwrite block bytes }) := by
  have length := receivedBytes_length_le w.client.socket (bufferSizeOf w.client.bufferSize) answer
  unfold storeReceived
  rw [if_neg (Nat.not_lt.mpr (length.trans fits))]
  rcases receiveBytesFromServerStaticBuff w.client.socket (bufferSizeOf w.client.bufferSize)
    answer with ⟨bytesReceived, bytes⟩
  by_cases failed : bytesReceived < 0
  · exact ⟨-1, bytes, by simp [failed]⟩
  · exact ⟨bytesReceived, bytes, by simp [failed]⟩

theorem bufferSizeOf_pos (size : Nat) : 0 < bufferSizeOf size := by
  unfold bufferSizeOf initialBufferSize
  split
  · decide
  · exact Nat.pos_of_ne_zero ‹_›

theorem live_of_capacity {h : Heap} {a : Nat} (some : 0 < h.capacity a) : h.live a = true := by
  by_contra dead
  rw [Heap.live, Bool.not_eq_true, Option.isSome_eq_false_iff, Option.isNone_iff_eq_none] at dead
  simp [Heap.capacity, dead] at some

theorem receiveMessageTcp_stores {block : Nat} (granted : Bool) (answer : RecvAnswer)
    (tidy : Tidy mine w) (connected : 0 ≤ w.client.socket)
    (buffer : w.client.buffer = some block)
    (fits : bufferSizeOf w.client.bufferSize ≤ w.heap.capacity block) :
    Ordered mine w (some (.bufferSize (bufferSizeOf w.client.bufferSize)))
      (receiveMessageTcp granted answer w) := by
  have live : w.heap.live block = true := live_of_capacity ((bufferSizeOf_pos _).trans_le fits)
  have same : ∀ h : Heap, h.live block = true → h.liveOnly w.client.buffer = some block := by
    intro h live
    rw [buffer]
    exact Heap.liveOnly_live fun a here => Option.some.inj here ▸ live
  have owns := tidy.buffer_first
  rw [same _ live] at owns
  obtain ⟨r, bytes, stores⟩ := storeReceived_returns answer w (receiving w block) fits
  have kept : KeptBut (some block) w.heap (w.heap.overwrite block bytes) := by
    intro a _ other
    exact Function.update_of_ne (fun here => other (congrArg some here)) _ _
  have id := kept.owned owns (by simp) tidy.clientId
  have ip := kept.owned owns (by simp) tidy.ipBroker
  rw [receiveMessageTcp_reads connected buffer, stores]
  refine ⟨by simp, ⟨?_, ?_, ?_, ?_⟩, Settings.ext id ip rfl rfl rfl rfl⟩
  · change Owns mine (w.heap.overwrite block bytes) [w.client.config.clientId,
      w.client.config.ipBroker, (w.heap.overwrite block bytes).liveOnly w.client.buffer]
    rw [same _ ((Heap.live_overwrite _ _ _ _).trans live)]
    exact (owns.overwrite block bytes).perm (List.reverse_perm _).symm
  · intro present
    exact id.trans_ne (tidy.clientId present)
  · intro present
    exact ip.trans_ne (tidy.ipBroker present)
  · exact tidy.buffer_lt

theorem string?_alloc_kept {h : Heap} {p : Ptr} (readable : p ≠ none → h.string? p ≠ none)
    (bytes : List UInt8) : (h.alloc bytes).string? p = h.string? p := by
  cases p with
  | none => rfl
  | some a =>
      obtain ⟨s, string⟩ := Option.ne_none_iff_exists'.mp (readable (Option.some_ne_none a))
      exact string?_alloc_old string bytes

theorem sizedBuffer_tidy (tidy : Tidy mine w) (buffer : w.client.buffer = none) :
    Tidy mine (sizedBuffer w) ∧
      shown (sizedBuffer w) =
        (shown w).apply (.bufferSize (bufferSizeOf w.client.bufferSize)) := by
  have owns := tidy.buffer_first
  rw [buffer] at owns
  have id := string?_alloc_kept tidy.clientId
    (List.replicate (bufferSizeOf w.client.bufferSize) 0)
  have ip := string?_alloc_kept tidy.ipBroker
    (List.replicate (bufferSizeOf w.client.bufferSize) 0)
  have live : (sizedBuffer w).heap.live w.heap.next = true := by
    rw [sizedBuffer, Heap.live_alloc, decide_eq_true rfl, Bool.true_or]
  refine ⟨⟨?_, ?_, ?_, ?_⟩, Settings.ext id ip rfl rfl rfl rfl⟩
  · have same : (sizedBuffer w).heap.liveOnly (sizedBuffer w).client.buffer = some w.heap.next :=
      Heap.liveOnly_live fun a here => Option.some.inj here ▸ live
    rw [same]
    exact (owns.of_null.alloc _).perm (List.reverse_perm _).symm
  · intro present
    exact id.trans_ne (tidy.clientId present)
  · intro present
    exact ip.trans_ne (tidy.ipBroker present)
  · intro b here
    rw [← Option.some.inj here]
    exact Nat.lt_succ_self _

theorem receiveMessageTcp_ordered (granted : Bool) (answer : RecvAnswer) (tidy : Tidy mine w)
    (connected : 0 ≤ w.client.socket) (fits : ∀ b, w.client.buffer = some b →
      bufferSizeOf w.client.bufferSize ≤ w.heap.capacity b) :
    Ordered mine w (some (.bufferSize (bufferSizeOf w.client.bufferSize)))
      (receiveMessageTcp granted answer w) := by
  cases buffer : w.client.buffer with
  | some block =>
      exact receiveMessageTcp_stores granted answer tidy connected buffer (fits block buffer)
  | none =>
      cases granted with
      | true =>
          obtain ⟨tidy', shown'⟩ := sizedBuffer_tidy tidy buffer
          have room : (sizedBuffer w).heap.capacity w.heap.next =
              bufferSizeOf w.client.bufferSize := by
            rw [sizedBuffer, Heap.capacity_alloc_next, List.length_replicate]
          have size : bufferSizeOf (sizedBuffer w).client.bufferSize =
              bufferSizeOf w.client.bufferSize := bufferSizeOf_bufferSizeOf _
          have ends := receiveMessageTcp_stores true answer tidy' connected rfl
            (size.trans room.symm).le
          rw [receiveMessageTcp_allocates connected buffer]
          refine ⟨ends.defined, ends.tidy, ?_⟩
          rw [ends.shown, shown', size]
          rfl
      | false =>
          rw [receiveMessageTcp_refused connected buffer]
          exact ⟨by simp,
            ⟨tidy.owns, tidy.clientId, tidy.ipBroker, tidy.buffer_lt⟩, rfl⟩

end

section
variable {mine : Nat → Prop} {w w' : World} {change : Option Change}

theorem returning_apply (m : Prog World Int) (w : World) :
    returning m w = ((m w).1.map some, (m w).2) := by
  rcases outcome : m w with ⟨o, w'⟩
  cases o with
  | ret r => exact returning_ret outcome
  | pending => exact Prog.bind_pending outcome
  | undefined => exact returning_undefined outcome

theorem Ordered.returning {m : Prog World Int} (ordered : Ordered mine w change (m w)) :
    Ordered mine w change (Model.returning m w) := by
  have defined := ordered.defined
  rw [returning_apply]
  refine ⟨?_, ordered.tidy, ordered.shown⟩
  generalize (m w).1 = o at defined
  cases o with
  | ret r => simp [Outcome.map]
  | pending => simp [Outcome.map]
  | undefined => exact absurd rfl defined

end

section
variable {mine : Nat → Prop}

theorem exec_ordered (c : ClientCall) (w : World) (tidy : Tidy mine w)
    (orderly : Orderly c w) : Ordered mine w (changeOf c w) (c.exec w) := by
  cases c with
  | call c =>
      rw [ClientCall.exec]
      cases c with
      | connectClient protocol a =>
          cases protocol with
          | tcp => exact (connectClientTcp_ordered tidy orderly).returning
          | unknown => exact ret_ordered tidy rfl rfl rfl
      | disconnectClient protocol answer =>
          cases protocol with
          | tcp => exact disconnectClientTcp_ordered tidy
          | unknown => exact ret_ordered tidy rfl rfl rfl
      | destroyClient answer => exact (destroyClient_ordered tidy orderly answer).returning
      | receiveMessage protocol granted answer =>
          cases protocol with
          | tcp =>
              by_cases connected : 0 ≤ w.client.socket
              · apply Ordered.returning
                rw [changeOf, if_pos connected, receiveMessage_tcp connected]
                exact receiveMessageTcp_ordered granted answer tidy connected (orderly connected)
              · apply Ordered.returning
                rw [changeOf, if_neg connected,
                  receiveMessage_unread .tcp granted answer (Or.inl (Int.not_le.mp connected))]
                exact ret_ordered tidy rfl rfl rfl
          | unknown =>
              apply Ordered.returning
              rw [receiveMessage_unread .unknown granted answer (Or.inr rfl)]
              exact ret_ordered tidy rfl rfl rfl
      | setClientId p granted => exact (setClientId_ordered granted tidy orderly).returning
      | setBrokerIp p granted => exact (setBrokerIp_ordered granted tidy orderly).returning
      | setConfig config grantsId grantsIp =>
          cases config with
          | none => exact ret_ordered tidy rfl rfl rfl
          | some config =>
              obtain ⟨id, ip, alone⟩ := orderly config rfl
              exact (setConfig_ordered tidy id ip alone).returning
      | setBuffer p => exact (setBuffer_ordered tidy orderly.1 orderly.2).returning
      | setBufferSize size => exact ret_ordered tidy rfl rfl rfl
      | clientConnect a stack sends =>
          exact (clientConnect_ordered stack sends tidy orderly.1 orderly.2).returning
      | clientDisconnect stack sends answer answer' =>
          exact clientDisconnect_ordered stack sends answer answer' tidy orderly
      | clientPublish topic message messageId retain dup stack sends =>
          exact (clientPublish_ordered topic message messageId retain dup tidy).returning
      | clientUnsubscribe topic messageId stack sends =>
          obtain ⟨t, rfl, small⟩ := orderly
          apply Ordered.returning
          rw [clientUnsubscribe_begins stack sends w messageId (Nat.add_comm .. ▸ small)]
          exact keeps_ordered tidy (reported_defined _ _ _) rfl rfl rfl
      | clientPingreq stack sends =>
          apply Ordered.returning
          rw [clientPingreq_silent]
          exact ret_ordered tidy rfl rfl rfl
  | setQos qos => exact ret_ordered tidy rfl rfl rfl
  | setKeepAlive keepAlive => exact ret_ordered tidy rfl rfl rfl
  | setBrokerPort port => exact ret_ordered tidy rfl rfl rfl
  | setSocketFd fd => exact ret_ordered tidy rfl rfl rfl

theorem TearsDown.exec {c : ClientCall} {w w' : World} (tears : TearsDown c w w') :
    (c.exec w).2 = w' := by
  unfold TearsDown at tears
  split at tears
  · obtain ⟨r, call⟩ := tears
    rw [ClientCall.exec, Call.exec, returning_snd, call]
  · exact congrArg Prod.snd tears
  · exact tears.elim

theorem Tidy.destroyed {w w' : World} (tidy : Tidy mine w') (destroyed : Destroyed w w') :
    ∀ a, mine a → w'.heap.live a = false := by
  intro a isMine
  by_contra live
  have member := tidy.owns.all a isMine (Bool.not_eq_false _ ▸ live)
  rw [destroyed.clientId, destroyed.ipBroker] at member
  simp only [List.mem_cons, List.not_mem_nil, or_false, reduceCtorEq, false_or] at member
  obtain ⟨buffer, -⟩ := Heap.liveOnly_eq_some.mp member.symm
  exact live (destroyed.freed a (destroyed.buffer.symm.trans buffer))

theorem created_tidy {config : Config} {bufferSize : Nat} {before w : World} {id ip : CString}
    (readableId : before.heap.string? config.clientId = some id)
    (readableIp : before.heap.string? config.ipBroker = some ip)
    (created : Created config bufferSize before w) :
    Tidy (fun a => before.heap.next ≤ a) w ∧ shown w =
      ⟨some id, some ip, config.keepAlive, config.portBroker, config.defaultQos,
        bufferSizeOf bufferSize⟩ := by
  have owned := created_owns created
  obtain ⟨-, grantsId, grantsIp, grantsBuffer, returns⟩ := created
  have granted : grantsId = true ∧ grantsIp = true ∧ grantsBuffer = true := by
    by_contra refused
    have fails := createClient_refused bufferSize readableId readableIp refused
    rw [returns] at fails
    cases fails
  obtain ⟨rfl, rfl, rfl⟩ := granted
  rw [createClient_grants bufferSize readableId readableIp] at returns
  cases returns
  have first := allocated_id before.heap id ip bufferSize
  have second := allocated_ip before.heap id ip bufferSize
  have buffer : ∀ b, some (before.heap.next + 2) = some b →
      (allocated before.heap id ip bufferSize).live b = true := by
    intro b here
    apply owned.owns.live b
    rw [← here]
    exact List.mem_cons_of_mem _ (List.mem_cons_of_mem _ List.mem_cons_self)
  refine ⟨⟨?_, fun _ => ?_, fun _ => ?_, ?_⟩, Settings.ext first second rfl rfl rfl rfl⟩
  · change Owns _ (allocated before.heap id ip bufferSize) [some before.heap.next,
      some (before.heap.next + 1),
      (allocated before.heap id ip bufferSize).liveOnly (some (before.heap.next + 2))]
    rw [Heap.liveOnly_live buffer]
    exact owned.owns
  · exact first.trans_ne (Option.some_ne_none id)
  · exact second.trans_ne (Option.some_ne_none ip)
  · exact fun b here => Heap.lt_next_of_live (buffer b here)

end

structure StaysTidy (before w : World) (settings : Settings) (calls : List ClientCall) :
    Prop where
  defined : Prog.Meets ClientCall.exec (fun c w => (c.exec w).1 ≠ .undefined) calls w
  inside : Prog.Meets ClientCall.exec (fun c w => ∀ laid size,
    localArray c w = some (laid, size) → StaysInside laid size) calls w
  shown : shown (Prog.run ClientCall.exec calls w) =
    (Prog.reached ClientCall.exec calls w).foldl (fun s x => s.after (changeOf x.1 x.2)) settings
  tidy : Tidy (fun a => before.heap.next ≤ a) (Prog.run ClientCall.exec calls w)
  freed : ∀ c w', Orderly c (Prog.run ClientCall.exec calls w) →
    TearsDown c (Prog.run ClientCall.exec calls w) w' →
    ∀ a, before.heap.next ≤ a → w'.heap.live a = false

def orderlyCalls : List ClientCall :=
  [.setKeepAlive 30, .call (.setClientId (some 1) true), .call (.setBuffer none),
    .call (.setBufferSize 0), .call (.clientConnect connectsTo3 (fun _ => 0) [100]),
    .call (.receiveMessage .tcp true (.data [0x20, 0x02])), .call (.setBrokerIp (some 0) false)]

end Dpubsub.Proof
