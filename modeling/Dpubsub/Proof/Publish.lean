import Dpubsub.Proof.Layout
import Dpubsub.Proof.SendLoop
import Dpubsub.Model.Client

/-!
# `publish`
-/

namespace Dpubsub.Proof
open Dpubsub.Lib Dpubsub.Model Dpubsub.Spec

def calledBack (w : World) (callback : Option Callback) (message : Option Message) : World :=
  (invoke callback message w).2

theorem invoke_eq (w : World) (callback : Option Callback) (message : Option Message) :
    invoke callback message w = (.ret (), calledBack w callback message) := by
  cases callback <;> rfl

def acceptedSince (before after : World) : Nat :=
  ((after.net.transfers.drop before.net.transfers.length).map Transfer.accepted).sum

def calledSince (before after : World) : List CallbackCall :=
  after.callbacks.drop before.callbacks.length

theorem acceptedSince_sentBy (w : World) (fd : Int) (data : Nat → UInt8) (length : Nat)
    (sends : List Int) :
    acceptedSince w (sentBy w fd data length sends) = acceptedBy (sendLoop fd length 0 sends).1 := by
  simp [acceptedSince, sentBy, Net.transfer, Transfer.accepted]

theorem calledSince_sentBy (w : World) (fd : Int) (data : Nat → UInt8) (length : Nat)
    (sends : List Int) : calledSince w (sentBy w fd data length sends) = [] := by
  simp [calledSince, sentBy]

theorem calledSince_calledBack {w w' : World} (same : w'.callbacks = w.callbacks)
    (callback : Option Callback) (message : Option Message) :
    calledSince w (calledBack w' callback message) =
      callback.toList.map fun c => ⟨c, message⟩ := by
  cases callback <;> simp [calledSince, calledBack, invoke, same]

section Call
variable (topic message : Option CString) (messageId : UInt16) (retain dup : UInt8)
  (stack : Nat → UInt8) (sends : List Int) (w : World)

def serialized : Int × Option Buffer :=
  serializePublish .publish (some (Buffer.fresh stack)) 256 topic message messageId
    w.client.config.defaultQos retain dup

def publishedMessage : Message := ⟨topic, message, w.client.config.defaultQos, retain⟩

theorem publish_eq : publish topic message messageId retain dup stack sends w =
    (do
      let sent ← onNet (sendBytesToServer w.client.socket
        (contents (serialized topic message messageId retain dup stack w).2)
        (sizeOfInt (serialized topic message messageId retain dup stack w).1) sends)
      if sent ≠ 0 then return -1
      else do
        invoke w.client.config.callbacks.onPublish (some (publishedMessage topic message retain w))
        return 0 : Prog World Int) w := rfl

/-- Nothing is sent when the packet cannot be made; otherwise the result tells whether the packet
has been accepted whole. -/
structure ReportsExactly (n : Int) (onPublish : List CallbackCall) (before : World)
    (result : Outcome Int × World) : Prop where
  refused : n < 0 →
    result.1 = .ret (-1) ∧ acceptedSince before result.2 = 0 ∧ calledSince before result.2 = []
  whole : 0 ≤ n → (acceptedSince before result.2 : Int) = n →
    result.1 = .ret 0 ∧ calledSince before result.2 = onPublish
  part : 0 ≤ n → (acceptedSince before result.2 : Int) ≠ n →
    result.1 = .ret (-1) ∧ calledSince before result.2 = []

def onPublishCalls : List CallbackCall :=
  w.client.config.callbacks.onPublish.toList.map
    fun c => ⟨c, some (publishedMessage topic message retain w)⟩

def Reports : Prop :=
  ReportsExactly (serialized topic message messageId retain dup stack w).1
    (onPublishCalls topic message retain w) w
    (publish topic message messageId retain dup stack sends w)

theorem publish_whole
    (whole : (sendLoop w.client.socket
      (sizeOfInt (serialized topic message messageId retain dup stack w).1) 0 sends).2 = .ret 0) :
    publish topic message messageId retain dup stack sends w =
      (.ret 0, calledBack (sentBy w w.client.socket
        (contents (serialized topic message messageId retain dup stack w).2)
        (sizeOfInt (serialized topic message messageId retain dup stack w).1) sends)
        w.client.config.callbacks.onPublish (some (publishedMessage topic message retain w))) := by
  rw [publish_eq, Prog.bind_ret (onNet_sendBytesToServer whole _ w), if_neg (by decide),
    Prog.bind_ret (invoke_eq ..)]
  rfl

theorem publish_cut
    (cut : (sendLoop w.client.socket
      (sizeOfInt (serialized topic message messageId retain dup stack w).1) 0 sends).2 =
        .ret (-1)) :
    publish topic message messageId retain dup stack sends w =
      (.ret (-1), sentBy w w.client.socket
        (contents (serialized topic message messageId retain dup stack w).2)
        (sizeOfInt (serialized topic message messageId retain dup stack w).1) sends) := by
  rw [publish_eq, Prog.bind_ret (onNet_sendBytesToServer cut _ w), if_pos (by decide)]
  rfl

theorem publish_state : ∃ callbacks, (publish topic message messageId retain dup stack sends w).2 =
    { sentBy w w.client.socket (contents (serialized topic message messageId retain dup stack w).2)
        (sizeOfInt (serialized topic message messageId retain dup stack w).1) sends with
      callbacks := callbacks } := by
  rw [publish_eq]
  cases outcome : (sendLoop w.client.socket
    (sizeOfInt (serialized topic message messageId retain dup stack w).1) 0 sends).2 with
  | ret result =>
      rw [Prog.bind_ret (onNet_sendBytesToServer outcome _ w)]
      by_cases cut : result ≠ 0
      · rw [if_pos cut]
        exact ⟨w.callbacks, rfl⟩
      · rw [if_neg cut, Prog.bind_ret (invoke_eq ..), calledBack]
        cases w.client.config.callbacks.onPublish with
        | none => exact ⟨w.callbacks, rfl⟩
        | some callback => exact ⟨_, rfl⟩
  | pending =>
      rw [Prog.bind_pending (onNet_sendBytesToServer outcome _ w)]
      exact ⟨w.callbacks, rfl⟩
  | undefined =>
      rw [Prog.bind_undefined (onNet_sendBytesToServer outcome _ w)]
      exact ⟨w.callbacks, rfl⟩

theorem acceptedSince_publish :
    acceptedSince w (publish topic message messageId retain dup stack sends w).2 =
      acceptedBy (sendLoop w.client.socket
        (sizeOfInt (serialized topic message messageId retain dup stack w).1) 0 sends).1 := by
  obtain ⟨callbacks, state⟩ := publish_state topic message messageId retain dup stack sends w
  rw [state]
  exact acceptedSince_sentBy ..

theorem reports_of_serialized {n : Nat}
    (size : (serialized topic message messageId retain dup stack w).1 = n) (bound : n < 2 ^ 31)
    (nonzero : ∀ answer ∈ sends, answer ≠ 0) (enough : n ≤ sends.length) :
    Reports topic message messageId retain dup stack sends w := by
  have length : sizeOfInt (serialized topic message messageId retain dup stack w).1 = n := by
    rw [size, sizeOfInt_natCast (by omega)]
  have sent : Sent n (sendLoop w.client.socket n 0 sends) := sendLoop_sent sends (Nat.zero_le n) bound
  have returns : (sendLoop w.client.socket n 0 sends).2 ≠ .pending :=
    sendLoop_returns sends (Nat.zero_le n) bound nonzero enough
  have accepted := acceptedSince_publish topic message messageId retain dup stack sends w
  rw [length] at accepted
  have nonneg : ¬(serialized topic message messageId retain dup stack w).1 < 0 := by omega
  rcases outcome : sendLoop w.client.socket n 0 sends with ⟨calls, o⟩
  rw [outcome] at sent returns accepted
  cases sent with
  | whole _ all =>
      have run := publish_whole topic message messageId retain dup stack sends w
        (by rw [length, outcome])
      refine ⟨fun negative => absurd negative nonneg, fun _ _ => ?_, fun _ other => absurd ?_ other⟩
      · rw [run]
        refine ⟨rfl, calledSince_calledBack ?_ _ _⟩
        rfl
      · rw [accepted, all, size]
  | cut _ part =>
      have run := publish_cut topic message messageId retain dup stack sends w
        (by rw [length, outcome])
      refine ⟨fun negative => absurd negative nonneg, fun _ all => ?_, fun _ _ => ?_⟩
      · rw [accepted, size] at all
        exact absurd (Int.ofNat_inj.mp all) part.ne
      · rw [run]
        exact ⟨rfl, calledSince_sentBy ..⟩
  | waiting _ part => exact absurd rfl returns

theorem reports_refused_iff {answer : Int} {answers : List Int} (connected : 0 ≤ w.client.socket)
    (refused : (serialized topic message messageId retain dup stack w).1 < 0)
    (lower : -3 ≤ (serialized topic message messageId retain dup stack w).1)
    (nonzero : answer ≠ 0) :
    Reports topic message messageId retain dup stack (answer :: answers) w ↔ answer < 0 := by
  have length : 0 < sizeOfInt (serialized topic message messageId retain dup stack w).1 := by
    unfold sizeOfInt
    omega
  constructor
  · intro reports
    by_contra ok
    have accepted := (reports.refused refused).2.1
    have positive : 0 < answer := by omega
    have some := acceptedBy_sendLoop_pos answers connected length positive
    rw [acceptedSince_publish] at accepted
    omega
  · intro error
    have fails : sendLoop w.client.socket
        (sizeOfInt (serialized topic message messageId retain dup stack w).1) 0
        (answer :: answers) = _ := sendLoop_fails length (Or.inr error)
    have run := publish_cut topic message messageId retain dup stack (answer :: answers) w
      (by rw [fails])
    have accepted := acceptedSince_publish topic message messageId retain dup stack
      (answer :: answers) w
    rw [fails] at accepted
    refine ⟨fun _ => ⟨by rw [run], accepted, ?_⟩, fun nonneg => absurd nonneg (by omega),
      fun nonneg => absurd nonneg (by omega)⟩
    rw [run]
    exact calledSince_sentBy ..

def Serializable (qos : UInt8) : Prop :=
  ∃ t m, topic = some t ∧ message = some m ∧
    2 + strlen t + strlen m + (if qos > 0 then 2 else 0) ≤ 255

/-- The check lets through two more bytes than `buffer3` has room for. -/
def FitsBuffer3 (qos : UInt8) : Prop :=
  ∃ t m, topic = some t ∧ message = some m ∧
    2 + strlen t + strlen m + (if qos > 0 then 2 else 0) ≤ 253

variable {topic message} in
theorem FitsBuffer3.serializable {qos : UInt8} (fits : FitsBuffer3 topic message qos) :
    Serializable topic message qos := by
  obtain ⟨t, m, topic, message, room⟩ := fits
  exact ⟨t, m, topic, message, by omega⟩

instance (qos : UInt8) : Decidable (Serializable topic message qos) :=
  match topic, message with
  | some t, some m =>
      decidable_of_iff (2 + strlen t + strlen m + (if qos > 0 then 2 else 0) ≤ 255)
        ⟨fun fits => ⟨t, m, rfl, rfl, fits⟩, fun ⟨_, _, topic, message, fits⟩ => by
          cases topic
          cases message
          exact fits⟩
  | none, _ => isFalse (by simp [Serializable])
  | some _, none => isFalse (by simp [Serializable])

def publishPacket (t m : CString) : List UInt8 :=
  packet (publishHeader .publish w.client.config.defaultQos retain dup)
    (publishBody t m messageId w.client.config.defaultQos)

theorem serialized_eq {t m : CString}
    (fits : 2 + strlen t + strlen m + (if w.client.config.defaultQos > 0 then 2 else 0) ≤ 255) :
    serialized (some t) (some m) messageId retain dup stack w =
        (((publishPacket messageId retain dup w t m).length : Int),
          some ((Cursor.start (Buffer.fresh stack)).append
            (publishPacket messageId retain dup w t m)).buffer) ∧
      (publishPacket messageId retain dup w t m).length ≤ 258 := by
  rw [← publishBody_length t m messageId] at fits
  have digits := Varint.encode_length_le (k := 1)
    (n := (publishBody t m messageId w.client.config.defaultQos).length) (by omega)
  have total := packet_length (publishHeader .publish w.client.config.defaultQos retain dup)
    (publishBody t m messageId w.client.config.defaultQos)
  have small : (publishPacket messageId retain dup w t m).length ≤ 258 := by
    rw [publishPacket]
    omega
  refine ⟨?_, small⟩
  rw [serialized, serializePublish_writes _ _ _ _ _ _ _ _ _ (by omega) (by omega),
    ← publishPacket, intOfSize_of_lt (by omega)]

theorem serialized_of_serializable
    (h : Serializable topic message w.client.config.defaultQos) :
    ∃ n : Nat, (serialized topic message messageId retain dup stack w).1 = n ∧ n ≤ 258 := by
  obtain ⟨t, m, rfl, rfl, fits⟩ := h
  obtain ⟨eq, small⟩ := serialized_eq messageId retain dup stack w fits
  exact ⟨_, congrArg Prod.fst eq, small⟩

theorem serialized_refused (h : ¬Serializable topic message w.client.config.defaultQos)
    (topicBound : ∀ t ∈ topic, strlen t < 2 ^ 62) (messageBound : ∀ m ∈ message, strlen m < 2 ^ 62) :
    (serialized topic message messageId retain dup stack w).1 < 0 ∧
      -3 ≤ (serialized topic message messageId retain dup stack w).1 ∧
      (serialized topic message messageId retain dup stack w).2 = some (Buffer.fresh stack) := by
  suffices refused : ∃ n : Int, (n < 0 ∧ -3 ≤ n) ∧
      serialized topic message messageId retain dup stack w = (n, some (Buffer.fresh stack)) by
    obtain ⟨n, negative, eq⟩ := refused
    rw [eq]
    exact ⟨negative.1, negative.2, rfl⟩
  cases topic with
  | none => exact ⟨-1, by decide, rfl⟩
  | some t =>
      cases message with
      | none => exact ⟨-1, by decide, rfl⟩
      | some m =>
          have size := publishBody_length t m messageId w.client.config.defaultQos
          have large : 255 < (publishBody t m messageId w.client.config.defaultQos).length := by
            by_contra fits
            exact h ⟨t, m, rfl, rfl, by omega⟩
          have topicSize := topicBound t rfl
          have messageSize := messageBound m rfl
          refine ⟨-2, by decide, serializePublish_refuses _ _ _ _ _ _ _ _ _ ?_ (by omega)⟩
          rw [size]
          split <;> omega

end Call

/-- A negative result of `serialize_publish` is used as a length: `publish` then keeps its word
only when the first `send` fails. -/
theorem reports_iff (topic message : Option CString) (topicBound : ∀ t ∈ topic, strlen t < 2 ^ 62)
    (messageBound : ∀ m ∈ message, strlen m < 2 ^ 62) (messageId : UInt16) (retain dup : UInt8)
    (stack : Nat → UInt8) (answer : Int) (answers : List Int)
    (nonzero : ∀ a ∈ answer :: answers, a ≠ 0) (enough : 258 ≤ (answer :: answers).length)
    (w : World) (connected : w.net.held w.client.socket = true) :
    Reports topic message messageId retain dup stack (answer :: answers) w ↔
      (∃ t m, topic = some t ∧ message = some m ∧
        2 + strlen t + strlen m + (if w.client.config.defaultQos > 0 then 2 else 0) ≤ 255) ∨
      answer < 0 := by
  have nonneg : 0 ≤ w.client.socket := Net.nonneg_of_held connected
  by_cases fits : Serializable topic message w.client.config.defaultQos
  · refine iff_of_true ?_ (Or.inl fits)
    obtain ⟨n, size, small⟩ :=
      serialized_of_serializable topic message messageId retain dup stack w fits
    exact reports_of_serialized _ _ _ _ _ _ _ _ size (by omega) nonzero (small.trans enough)
  · obtain ⟨refused, lower, -⟩ := serialized_refused topic message messageId retain dup stack w fits
      topicBound messageBound
    rw [reports_refused_iff _ _ _ _ _ _ _ nonneg refused lower (nonzero answer (by simp))]
    exact (or_iff_right fits).symm

def connectedWorld : World where
  client := ⟨3, none, 0, ⟨none, 60, none, 1883, 0, defaultCallbacks⟩⟩
  heap := Heap.empty
  net := Net.empty.openConn 3 (by decide)
  callbacks := []
  recvs := []

theorem not_reports_300 : ¬Reports (some (CString.letters 1)) (some (CString.letters 300)) 1 0 0
    (fun _ => 0) (100 :: List.replicate 257 100) connectedWorld := by
  have refused := serialized_refused (some (CString.letters 1)) (some (CString.letters 300)) 1 0 0
    (fun _ => 0) connectedWorld
    (by rintro ⟨t, m, topic, message, fits⟩
        cases topic
        cases message
        simp [connectedWorld] at fits)
    (by rintro t ⟨⟩; simp) (by rintro m ⟨⟩; simp)
  rw [reports_refused_iff _ _ _ _ _ _ _ (by decide) refused.1 refused.2.1 (by decide)]
  decide

theorem reports_hi : Reports (some (CString.letters 1)) (some (CString.letters 2)) 1 0 0
    (fun _ => 0) (5 :: List.replicate 257 2) connectedWorld :=
  (reports_iff (some (CString.letters 1)) (some (CString.letters 2)) (by rintro t ⟨⟩; simp)
    (by rintro m ⟨⟩; simp) 1 0 0 (fun _ => 0) 5 (List.replicate 257 2)
    (by
      intro a member
      rcases List.mem_cons.mp member with rfl | later
      · decide
      · rw [List.eq_of_mem_replicate later]
        decide)
    (by rw [List.length_cons, List.length_replicate]) connectedWorld (by decide)).mpr
    (Or.inl ⟨CString.letters 1, CString.letters 2, rfl, rfl, by simp [connectedWorld]⟩)

end Dpubsub.Proof
