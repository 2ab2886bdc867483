import Dpubsub.Model.ClientTest
import Dpubsub.Proof.ClientPrograms
import Dpubsub.Proof.Dialogue
import Dpubsub.Proof.Dpubsub
import Dpubsub.Proof.Orderly
import Dpubsub.Proof.Serializers

/-!
# How the test of the client ends

Packets go out one after another until one of them fails: what the peer gets is a prefix of all of
them.
-/

namespace Dpubsub.Proof
open Dpubsub.Lib Dpubsub.Model Dpubsub.Spec

section Row
variable {w w' w'' : World} {fd : Int} {bytes bytes' : List UInt8}

theorem SentWhole.none (w : World) (connected : 0 ≤ fd) : SentWhole w w fd [] where
  client := rfl
  heap := rfl
  conns := rfl
  opened := rfl
  stream k := by simp
  connected := connected

theorem SentWhole.append (first : SentWhole w w' fd bytes) (second : SentWhole w' w'' fd bytes') :
    SentWhole w w'' fd (bytes ++ bytes') where
  client := second.client.trans first.client
  heap := second.heap.trans first.heap
  conns := second.conns.trans first.conns
  opened := second.opened.trans first.opened
  stream k := by
    rw [second.stream, first.stream, first.conns, List.append_assoc]
    congr 1
    split
    · rfl
    · rfl
  connected := first.connected

structure Parcel where
  result : Int × Option Buffer
  bytes : List UInt8
  sends : List Int
  length : result.1 = bytes.length
  laid : (List.range bytes.length).map (contents result.2) = bytes
  nonempty : 0 < bytes.length
  small : bytes.length < 2 ^ 31

def Parcel.accepted (p : Parcel) : Prop := accepts p.bytes.length p.sends = true

def transmitAll (parcels : List Parcel) (rest : Prog World Int) : Prog World Int :=
  parcels.foldr (fun p rest => transmit p.result p.sends rest) rest

/-- What becomes of `parcels`: all are sent and `rest` follows, or a proper part is. -/
inductive TransmitEnds (parcels : List Parcel) (rest : Prog World Int) (w : World) :
    Outcome Int × World → Prop where
  | whole {after} (accepted : ∀ p ∈ parcels, p.accepted)
      (sent : SentWhole w after w.client.socket (parcels.flatMap Parcel.bytes)) :
      TransmitEnds parcels rest w (rest after)
  | stops {o after part} (refused : ¬∀ p ∈ parcels, p.accepted) (out : o = .ret 1 ∨ o = .pending)
      (sent : SentWhole w after w.client.socket part)
      (within : part <+: parcels.flatMap Parcel.bytes)
      (proper : part ≠ parcels.flatMap Parcel.bytes) : TransmitEnds parcels rest w (o, after)

theorem transmit_accepted {p : Parcel} (connected : 0 ≤ w.client.socket) (accepted : p.accepted)
    (rest : Prog World Int) : ∃ w', transmit p.result p.sends rest w = rest w' ∧
      SentWhole w w' w.client.socket p.bytes := by
  have size : sizeOfInt p.result.1 = p.bytes.length := by
    rw [p.length]
    exact sizeOfInt_natCast (p.small.trans (by decide))
  have whole : (sendLoop w.client.socket p.bytes.length 0 p.sends).2 = .ret 0 :=
    (sendLoop_whole_iff p.sends p.nonempty p.small).mpr ⟨connected, accepted⟩
  refine ⟨_, ?_, sentWhole p.small p.nonempty p.laid whole w.callbacks⟩
  rw [transmit, getClient_bind, size]
  exact Prog.bind_ret (onNet_sendBytesToServer whole (contents p.result.2) w)

theorem transmit_refused {p : Parcel} (connected : 0 ≤ w.client.socket) (refused : ¬p.accepted)
    (rest : Prog World Int) : ∃ o w' part, transmit p.result p.sends rest w = (o, w') ∧
      (o = .ret 1 ∨ o = .pending) ∧ SentWhole w w' w.client.socket part ∧
      part <+: p.bytes ∧ part.length < p.bytes.length := by
  have size : sizeOfInt p.result.1 = p.bytes.length := by
    rw [p.length]
    exact sizeOfInt_natCast (p.small.trans (by decide))
  have sent : Sent p.bytes.length (sendLoop w.client.socket p.bytes.length 0 p.sends) :=
    sendLoop_sent p.sends (Nat.zero_le _) p.small
  have part := range_map_prefix (contents p.result.2) sent.atMost
  rw [p.laid] at part
  have notWhole : (sendLoop w.client.socket p.bytes.length 0 p.sends).2 ≠ .ret 0 := fun whole =>
    refused ((sendLoop_whole_iff p.sends p.nonempty p.small).mp whole).2
  have fewer := lt_of_le_of_ne sent.atMost fun all => notWhole (sent.whole_iff.mpr all)
  have taken := sentPart (w := w) (contents p.result.2) p.sends p.small connected w.callbacks
  have outcome : ∃ o, (o = .ret 1 ∨ o = .pending) ∧ transmit p.result p.sends rest w =
      (o, sentBy w w.client.socket (contents p.result.2) p.bytes.length p.sends) := by
    rw [transmit, getClient_bind, size]
    generalize same : sendLoop w.client.socket p.bytes.length 0 p.sends = r at sent notWhole
    cases sent with
    | whole calls all => exact absurd rfl notWhole
    | cut calls fewer =>
        refine ⟨.ret 1, Or.inl rfl, ?_⟩
        exact Prog.bind_ret (onNet_sendBytesToServer (congrArg Prod.snd same) _ w)
    | waiting calls fewer =>
        refine ⟨.pending, Or.inr rfl, ?_⟩
        exact Prog.bind_pending (onNet_sendBytesToServer (congrArg Prod.snd same) _ w)
  obtain ⟨o, out, ends⟩ := outcome
  exact ⟨o, _, _, ends, out, taken, part, by simpa using fewer⟩

theorem transmitAll_ends (parcels : List Parcel) (rest : Prog World Int)
    (connected : 0 ≤ w.client.socket) :
    TransmitEnds parcels rest w (transmitAll parcels rest w) := by
  induction parcels generalizing w with
  | nil => exact .whole nofun (SentWhole.none w connected)
  | cons p parcels ih =>
      by_cases accepted : p.accepted
      · obtain ⟨w', goes, sent⟩ := transmit_accepted connected accepted (transmitAll parcels rest)
        have client := sent.client
        have ends := ih (w := w') (by rwa [client])
        rw [← goes] at ends
        change TransmitEnds _ _ _ (transmit p.result p.sends (transmitAll parcels rest) w)
        generalize transmit p.result p.sends (transmitAll parcels rest) w = result at ends
        cases ends with
        | whole others more =>
            rw [client] at more
            exact .whole (List.forall_mem_cons.mpr ⟨accepted, others⟩) (sent.append more)
        | stops refused out more within proper =>
            rw [client] at more
            refine .stops (fun all => refused (List.forall_mem_cons.mp all).2) out
              (sent.append more) ?_ ?_
            · exact List.prefix_append_right_inj _ |>.mpr within
            · exact fun same => proper (List.append_cancel_left same)
      · obtain ⟨o, w', part, stops, out, sent, within, fewer⟩ :=
          transmit_refused connected accepted (transmitAll parcels rest)
        change TransmitEnds _ _ _ (transmit p.result p.sends (transmitAll parcels rest) w)
        rw [stops]
        refine .stops (fun all => accepted (List.forall_mem_cons.mp all).1) out sent
          (within.trans (List.prefix_append _ _)) ?_
        rintro rfl
        rw [List.flatMap_cons, List.length_append] at fewer
        omega

end Row

def testCode : TestPacket → PacketTypeCode
  | .connect => .connect
  | .publish => .publish
  | .pingreq => .pingreq
  | .subscribe => .subscribe
  | .unsubscribe => .unsubscribe
  | .disconnect => .disconnect

def testSerialization : TestPacket → Serialization
  | .connect => .connect (some clientTestId) 60 0x04
  | .publish => .publish (some mqttTcpTopic) (some clientTestMessage) 1 0 0 0
  | .pingreq => .pingreq
  | .subscribe => .subscribe (some mqttTcpTopic) 1 0
  | .unsubscribe => .unsubscribe (some mqttTcpTopic) 1
  | .disconnect => .disconnect

def testBufferSize : TestPacket → Nat
  | .connect => 128
  | .publish | .subscribe => 256
  | .unsubscribe => 13
  | .pingreq | .disconnect => 2

def testBytes : TestPacket → List UInt8
  | .connect => (connectOf clientTestId.bytes 60).encode
  | .publish => (publishOf (some mqttTcpTopic) (some clientTestMessage) 0 0).encode
  | .pingreq => [0xC0, 0x00]
  | .subscribe => (subscribeRequest mqttTcpTopic 1 .atMostOnce).encode
  | .unsubscribe => (unsubscribeOf (some mqttTcpTopic) 1).encode
  | .disconnect => ClientPacket.disconnect.encode

theorem testPacket_given (p : TestPacket) :
    (testSerialization p).Given (testCode p) (testBytes p) := by
  cases p with
  | connect =>
      rw [testBytes, connectOf_encode 60 (by decide)]
      exact .connect clientTestId 60 0x04
  | publish =>
      exact .publish mqttTcpTopic clientTestMessage 1 0 0 0
  | pingreq => exact .pingreq
  | subscribe =>
      have encode : topicRequest .subscribe mqttTcpTopic 1 [0] =
          (subscribeRequest mqttTcpTopic 1 .atMostOnce).encode := by
        rw [ControlPacket.encode, packet_of_short (by decide)]
        exact topicRequest_subscribe mqttTcpTopic 1 .atMostOnce
      rw [testBytes, ← encode]
      exact .subscribe mqttTcpTopic 1 0
  | unsubscribe =>
      have encode : topicRequest .unsubscribe mqttTcpTopic 1 [] =
          testBytes .unsubscribe := by
        change _ = packet _ _
        rw [packet_of_short (by decide)]
        exact topicRequest_unsubscribe mqttTcpTopic 1
      rw [← encode]
      exact .unsubscribe mqttTcpTopic 1
  | disconnect => exact .disconnect

theorem testPacket_room (p : TestPacket) : (testSerialization p).needed ≤ testBufferSize p := by
  cases p <;> decide

theorem testBytes_length (p : TestPacket) :
    0 < (testBytes p).length ∧ (testBytes p).length < 2 ^ 31 := by
  cases p <;> decide +kernel

def testParcel (a : ClientTestAnswers) (p : TestPacket) : Parcel where
  result := (testSerialization p).run (testCode p) (testBufferSize p)
    (some (Buffer.fresh (a.stack p)))
  bytes := testBytes p
  sends := a.sends p
  length := by
    rw [Serialization.run_lays (testPacket_given p) (testPacket_room p) (by cases p <;> decide)]
    rw [intOfSize_of_lt (testBytes_length p).2]
  laid := by
    rw [Serialization.run_lays (testPacket_given p) (testPacket_room p) (by cases p <;> decide)]
    exact Cursor.append_slice (testBytes p) (Buffer.fresh (a.stack p))
  nonempty := (testBytes_length p).1
  small := (testBytes_length p).2

def testPackets : List TestPacket :=
  [.connect, .publish, .pingreq, .subscribe, .unsubscribe, .disconnect]

def testSession : List UInt8 := testPackets.flatMap testBytes

theorem clientTestPackets_eq {client : Client} (keepAlive : client.config.keepAlive = 60)
    (qos : client.config.defaultQos = 0) (a : ClientTestAnswers) :
    clientTestPackets client (some clientTestId) a =
      transmitAll (testPackets.map (testParcel a)) (clientTestEnd a) := by
  have size : sizeOfInt (2 + 2 + (2 + intOfSize (strlen mqttTcpTopic))) = 13 := by decide
  rw [clientTestPackets, keepAlive, qos, size]
  rfl

section Fresh
variable {before w : World} {id ip : CString}

theorem allocated_live (h : Heap) (id ip : CString) (bufferSize b : Nat) :
    (allocated h id ip bufferSize).live b =
      (h.live b || decide (h.next ≤ b ∧ b < h.next + 3)) := by
  have blocks : (allocated h id ip bufferSize).live b = (decide (b = h.next + 2) ||
      (decide (b = h.next + 1) || (decide (b = h.next) || h.live b))) := by
    rw [allocated, Heap.live_alloc, Heap.live_alloc, Heap.live_alloc]
    rfl
  rw [blocks, Bool.eq_iff_iff]
  simp only [Bool.or_eq_true, decide_eq_true_eq]
  constructor
  · rintro (new | new | new | old)
    · exact Or.inr (by omega)
    · exact Or.inr (by omega)
    · exact Or.inr (by omega)
    · exact Or.inl old
  · rintro (old | new)
    · exact Or.inr (Or.inr (Or.inr old))
    · omega

structure Intact (before w : World) (id ip : CString) : Prop where
  buffer : w.client.buffer = some (before.heap.next + 2)
  clientId : w.client.config.clientId = some before.heap.next
  ipBroker : w.client.config.ipBroker = some (before.heap.next + 1)
  heap : w.heap = allocated before.heap id ip 0

theorem Intact.bufferLive (intact : Intact before w id ip) : BufferLive w := by
  intro b here
  rw [intact.buffer] at here
  cases here
  rw [intact.heap, allocated_live, Bool.or_eq_true, decide_eq_true_eq]
  exact Or.inr (by omega)

theorem Intact.tidy (intact : Intact before w id ip) : Tidy (fun _ => False) w := by
  have nothing : Owns (fun _ => False) before.heap [] := ⟨nofun, List.nodup_nil, nofun⟩
  have all := ((nothing.alloc (id.bytes ++ [0])).alloc (ip.bytes ++ [0])).alloc
    (List.replicate (bufferSizeOf 0) 0)
  constructor
  · rw [Heap.liveOnly_live intact.bufferLive, intact.buffer, intact.clientId, intact.ipBroker,
      intact.heap]
    exact all.perm (List.reverse_perm _).symm
  · intro _
    rw [intact.clientId, intact.heap, allocated_id]
    exact Option.some_ne_none id
  · intro _
    rw [intact.ipBroker, intact.heap, allocated_ip]
    exact Option.some_ne_none ip
  · exact fun b here => Heap.lt_next_of_live (intact.bufferLive b here)

theorem Intact.destroyed (intact : Intact before w id ip) (answer : CloseAnswer) :
    ∃ after, destroyClient answer w = (.ret 0, after) ∧ after.net = (reset w answer).net ∧
      ∀ b, after.heap.live b = before.heap.live b := by
  obtain ⟨tears, -⟩ := destroyClient_tears intact.tidy intact.bufferLive answer
  refine ⟨_, tears, rfl, fun b => ?_⟩
  change (released (released (released w.heap w.client.buffer) w.client.config.ipBroker)
    w.client.config.clientId).live b = _
  rw [live_released, live_released, live_released, intact.buffer, intact.clientId, intact.ipBroker,
    intact.heap, allocated_live]
  cases live : before.heap.live b with
  | true =>
      have old := Heap.lt_next_of_live live
      simp
      omega
  | false =>
      simp
      omega

end Fresh

def Grants (a : ClientTestAnswers) : Prop :=
  a.grantsId = true ∧ a.grantsIp = true ∧ a.grantsBuffer = true

def TakesAll (a : ClientTestAnswers) : Prop := ∀ p, accepts (testBytes p).length (a.sends p) = true

structure Returned (released : Prop) (before after : World) : Prop where
  heap : ∀ b, after.heap.live b = before.heap.live b
  conns : released → after.net.conns = before.net.conns

/-- How the test ends: what it has sent is the session or a part of it, and after the whole session its
result is up to the value that is read where `disconnect_client` has returned none. -/
inductive ClientTestEnds (a : ClientTestAnswers) (before : World) : Outcome Int × World → Prop where
  | refused {after} (refused : ¬Grants a) (silent : after.net = before.net)
      (returned : Returned True before after) : ClientTestEnds a before (.ret 1, after)
  | unconnected {after} (grants : Grants a) (failed : ¬Connected a.connect before.net)
      (silent : after.net.transfers = before.net.transfers)
      (returned : Returned (a.connect.close.releases = true) before after) :
      ClientTestEnds a before (.ret 1, after)
  | interrupted {o after} (grants : Grants a) (connected : Connected a.connect before.net)
      (failed : ¬TakesAll a) (out : o = .ret 1 ∨ o = .pending)
      (within : streamOn after.net before.net.opened <+: testSession)
      (proper : streamOn after.net before.net.opened ≠ testSession)
      -- nothing is given back
      (conn : after.net.conns a.connect.socket = some before.net.opened)
      (heap : ∀ b, after.heap.live b = (before.heap.live b ||
        decide (before.heap.next ≤ b ∧ b < before.heap.next + 3))) :
      ClientTestEnds a before (o, after)
  | finished {after} (grants : Grants a) (connected : Connected a.connect before.net)
      (taken : TakesAll a) (whole : streamOn after.net before.net.opened = testSession)
      -- the socket is closed a second time
      (closes : ∃ earlier, after.net.closes = earlier ++
        [⟨a.connect.socket, some before.net.opened⟩, ⟨a.connect.socket,
          if a.closeConnection.releases = true then none else some before.net.opened⟩])
      (returned : Returned (a.closeConnection.releases = true ∨ a.closeClient.releases = true)
        before after) :
      ClientTestEnds a before
        (.ret (if a.closeConnection = .done ∧ a.missing = 0 then 0 else 1), after)

section Main
variable {a : ClientTestAnswers} {before : World} {config : Config} {clientId ipBroker : Ptr}

theorem takesAll_iff : (∀ p ∈ testPackets.map (testParcel a), p.accepted) ↔ TakesAll a := by
  rw [List.forall_mem_map]
  constructor
  · intro all p
    exact all p (by cases p <;> decide)
  · intro all p _
    exact all p

theorem clientTestMain_eq : clientTestMain config clientId ipBroker a before =
    (do
      let created ← createClient (some (mainConfig config clientId ipBroker)) 0
        a.grantsId a.grantsIp a.grantsBuffer
      if created ≠ 0 then return 1
      else do
        let connected ← connectClientTcp a.connect
        if connected ≠ 0 then do
          let _ ← destroyClient a.closeClient
          return 1
        else clientTestSession a : Prog World Int) before := rfl

theorem clientTestMain_refused (readableId : before.heap.string? clientId = some clientTestId)
    (readableIp : before.heap.string? ipBroker = some mqttTcpIpBroker) (refused : ¬Grants a) :
    ClientTestEnds a before (clientTestMain config clientId ipBroker a before) := by
  have fails : (createClient (some (mainConfig config clientId ipBroker)) 0 a.grantsId a.grantsIp
    a.grantsBuffer before).1 = .ret (-1) := createClient_refused 0 readableId readableIp refused
  have ends := createClient_ends (mainConfig config clientId ipBroker) 0 a.grantsId a.grantsIp
    a.grantsBuffer before
  rw [clientTestMain_eq]
  rcases outcome : createClient (some (mainConfig config clientId ipBroker)) 0 a.grantsId a.grantsIp
    a.grantsBuffer before with ⟨o, w⟩
  rw [outcome] at fails ends
  cases ends with
  | created id ip => cases fails
  | unreadable w => cases fails
  | failed client h same =>
      rw [Prog.bind_ret outcome, if_pos (by decide)]
      exact .refused refused rfl ⟨same, fun _ => rfl⟩

def testClient (before : World) (config : Config) (clientId ipBroker : Ptr) : World :=
  fresh before (mainConfig config clientId ipBroker) clientTestId mqttTcpIpBroker

theorem testClient_intact (n : Net) (fd : Int) : Intact before
    (withSocket (testClient before config clientId ipBroker) n fd) clientTestId mqttTcpIpBroker :=
  ⟨rfl, rfl, rfl, rfl⟩

theorem testClient_connects_iff :
    Connects a.connect (testClient before config clientId ipBroker) ↔
      Connected a.connect before.net := by
  rw [testClient, fresh_connects_iff]
  exact ⟨fun c => ⟨c.1.1, c.1.2, c.2.1, c.2.2.1, c.2.2.2⟩,
    fun c => ⟨⟨c.nonneg, c.unused⟩, c.inetPton, c.connect, c.getsockname⟩⟩

theorem clientTestMain_granted (readableId : before.heap.string? clientId = some clientTestId)
    (readableIp : before.heap.string? ipBroker = some mqttTcpIpBroker) (grants : Grants a) :
    clientTestMain config clientId ipBroker a before =
      (do
        let connected ← connectClientTcp a.connect
        if connected ≠ 0 then do
          let _ ← destroyClient a.closeClient
          return 1
        else clientTestSession a : Prog World Int)
        (testClient before config clientId ipBroker) := by
  obtain ⟨id, ip, buffer⟩ := grants
  have created : createClient (some (mainConfig config clientId ipBroker)) 0 true true true before =
      (.ret 0, testClient before config clientId ipBroker) :=
    createClient_grants 0 readableId readableIp
  rw [clientTestMain_eq, id, ip, buffer, Prog.bind_ret created, if_neg (by decide)]

theorem clientTestMain_unconnected
    (readableId : before.heap.string? clientId = some clientTestId)
    (readableIp : before.heap.string? ipBroker = some mqttTcpIpBroker) (grants : Grants a)
    (failed : ¬Connected a.connect before.net) :
    ClientTestEnds a before (clientTestMain config clientId ipBroker a before) := by
  have refuses : ¬Connects a.connect (testClient before config clientId ipBroker) :=
    testClient_connects_iff.not.mpr failed
  obtain ⟨o, n, unconnected, fails⟩ := connectClientTcp_fails refuses
  have intact : Intact before (withSocket (testClient before config clientId ipBroker) n (-1))
    clientTestId mqttTcpIpBroker := testClient_intact n (-1)
  obtain ⟨after, destroys, net, heap⟩ := intact.destroyed a.closeClient
  have idle : (reset (withSocket (testClient before config clientId ipBroker) n (-1))
      a.closeClient).net = n := rfl
  have ends : ∀ r : Int, r ≠ 0 → o = .ret r →
      clientTestMain config clientId ipBroker a before = (.ret 1, after) := by
    rintro r nonzero rfl
    rw [clientTestMain_granted readableId readableIp grants, Prog.bind_ret fails, if_pos nonzero]
    exact Prog.bind_ret destroys
  rw [idle] at net
  cases unconnected with
  | refused =>
      rw [ends (-1) (by decide) rfl]
      exact .unconnected grants failed (congrArg Net.transfers net)
        ⟨heap, fun _ => congrArg Net.conns net⟩
  | unreadable nonneg address =>
      rw [testClient, fresh_ipBroker] at address
      cases address
  | closed nonneg unused =>
      have lends := Net.lends_openConn nonneg unused
      rw [ends (-1) (by decide) rfl]
      refine .unconnected grants failed ?_ ⟨heap, fun released => ?_⟩
      · rw [net, Net.closed_transfers]
        rfl
      · rw [net]
        exact lends.restores _ _ rfl released

def testConnected (before : World) (config : Config) (clientId ipBroker : Ptr) (fd : Int)
    (nonneg : 0 ≤ fd) : World :=
  withSocket (testClient before config clientId ipBroker) (before.net.openConn fd nonneg) fd

theorem clientTestMain_connected
    (readableId : before.heap.string? clientId = some clientTestId)
    (readableIp : before.heap.string? ipBroker = some mqttTcpIpBroker) (grants : Grants a)
    (connected : Connected a.connect before.net) :
    clientTestMain config clientId ipBroker a before =
      transmitAll (testPackets.map (testParcel a)) (clientTestEnd a)
        (testConnected before config clientId ipBroker a.connect.socket connected.nonneg) := by
  have connects : connectClientTcp a.connect (testClient before config clientId ipBroker) =
      (.ret 0, testConnected before config clientId ipBroker a.connect.socket connected.nonneg) :=
    connectClientTcp_connects (testClient_connects_iff.mpr connected)
  have readable : (testConnected before config clientId ipBroker a.connect.socket
      connected.nonneg).heap.string? (testConnected before config clientId ipBroker
        a.connect.socket connected.nonneg).client.config.clientId = some clientTestId :=
    fresh_clientId before (mainConfig config clientId ipBroker) clientTestId mqttTcpIpBroker
  rw [clientTestMain_granted readableId readableIp grants, Prog.bind_ret connects,
    if_neg (by decide), clientTestSession, getClient_bind]
  refine (Prog.bind_ret (onHeap_clientId readable)).trans ?_
  rw [clientTestPackets_eq rfl rfl]

section Connection
variable {w after : World} {fd : Int} {nonneg : 0 ≤ fd} {bytes : List UInt8}

theorem SentWhole.streamOn_new
    (sent : SentWhole (testConnected before config clientId ipBroker fd nonneg) w fd bytes) :
    streamOn w.net before.net.opened = bytes := by
  have conn : (testConnected before config clientId ipBroker fd nonneg).net.conns fd =
      some before.net.opened := Net.openConn_conns_self before.net fd nonneg
  have nothing : streamOn (testConnected before config clientId ipBroker fd nonneg).net
      before.net.opened = [] := by
    have same : (testConnected before config clientId ipBroker fd nonneg).net.log
        before.net.opened = before.net.log before.net.opened := rfl
    rw [streamOn, same, Net.log_unopened before.net le_rfl]
    rfl
  rw [sent.stream, conn, if_pos rfl, nothing, List.nil_append]

theorem SentWhole.intact
    (sent : SentWhole (testConnected before config clientId ipBroker fd nonneg) w fd bytes) :
    Intact before w clientTestId mqttTcpIpBroker where
  buffer := congrArg Client.buffer sent.client
  clientId := congrArg (·.config.clientId) sent.client
  ipBroker := congrArg (·.config.ipBroker) sent.client
  heap := sent.heap

end Connection

theorem streamOn_closed (n : Net) (fd : Int) (answer : CloseAnswer) (k : Nat) :
    streamOn (n.closed fd answer) k = streamOn n k := by
  rw [streamOn, Net.log_congr (Net.closed_transfers n fd answer), streamOn]

theorem closed_again {n n' later : Net} {fd : Int} (lends : n.Lends fd n')
    (unused : n.held fd = false) (same : later.conns = n'.conns) (answer answer' : CloseAnswer)
    (released : answer.releases = true ∨ answer'.releases = true) :
    ((later.closed fd answer).closed fd answer').conns = n.conns := by
  cases first : answer.releases with
  | true =>
      have once := lends.restores later answer same first
      cases second : answer'.releases with
      | true =>
          funext fd'
          rcases eq_or_ne fd' fd with rfl | ne
          · rw [Net.closed_conns_self _ _ _ second]
            exact (Option.not_isSome_iff_eq_none.mp (Bool.not_eq_true _ ▸ unused)).symm
          · rw [Net.closed_conns_of_ne _ _ _ ne, once]
      | false => rw [CloseAnswer.eq_kept second, Net.closed_kept, once]
  | false =>
      rw [CloseAnswer.eq_kept first]
      refine lends.restores _ answer' ((Net.closed_kept ..).trans same) (released.resolve_left ?_)
      rw [first]
      exact Bool.false_ne_true

theorem disconnectClient_closes {w : World} (answer : CloseAnswer)
    (connected : 0 ≤ w.client.socket) : ∃ after, disconnectClient .tcp answer w =
      (.ret (if answer = .done then none else some (-1)), after) ∧ after.client = w.client ∧
        after.heap = w.heap ∧ after.net = w.net.closed w.client.socket answer := by
  obtain ⟨callbacks, closes⟩ := disconnectClientTcp_closes answer connected
  exact ⟨_, closes, rfl, rfl, rfl⟩

theorem clientTestEnd_returns {w closed after : World}
    (closes : disconnectClient .tcp a.closeConnection w =
      (.ret (if a.closeConnection = .done then none else some (-1)), closed))
    (destroys : destroyClient a.closeClient closed = (.ret 0, after)) :
    clientTestEnd a w =
      (.ret (if a.closeConnection = .done ∧ a.missing = 0 then 0 else 1), after) := by
  rw [clientTestEnd, Prog.bind_ret closes]
  by_cases done : a.closeConnection = .done
  · rw [if_pos done, Option.getD_none]
    by_cases zero : a.missing = 0
    · rw [if_neg (not_not.mpr zero), if_pos ⟨done, zero⟩, Prog.bind_ret destroys]
      rfl
    · rw [if_pos zero, if_neg fun both => zero both.2]
      exact Prog.bind_ret destroys
  · rw [if_neg done, Option.getD_some, if_pos (by decide), if_neg fun both => done both.1]
    exact Prog.bind_ret destroys

theorem clientTestEnd_ends (grants : Grants a) (connected : Connected a.connect before.net)
    (taken : TakesAll a) {w : World}
    (sent : SentWhole (testConnected before config clientId ipBroker a.connect.socket
      connected.nonneg) w a.connect.socket testSession) :
    ClientTestEnds a before (clientTestEnd a w) := by
  have socket : w.client.socket = a.connect.socket := congrArg Client.socket sent.client
  have nonneg : 0 ≤ w.client.socket := socket ▸ connected.nonneg
  obtain ⟨closed, closes, client, heap, net⟩ := disconnectClient_closes a.closeConnection nonneg
  rw [socket] at net
  have same := sent.intact
  have intact : Intact before closed clientTestId mqttTcpIpBroker := by
    constructor
    · rw [client, same.buffer]
    · rw [client, same.clientId]
    · rw [client, same.ipBroker]
    · rw [heap, same.heap]
  obtain ⟨after, destroys, final, live⟩ := intact.destroyed a.closeClient
  have held : closed.client.socket ≠ -1 := by
    rw [client]
    omega
  rw [reset, if_pos held, client, socket, withSocket, net] at final
  rw [clientTestEnd_returns closes destroys]
  have conn : w.net.conns a.connect.socket = some before.net.opened := by
    rw [sent.conns]
    exact Net.openConn_conns_self before.net a.connect.socket connected.nonneg
  refine .finished grants connected taken ?_ ⟨w.net.closes, ?_⟩ ⟨live, fun released => ?_⟩
  · rw [final, streamOn_closed, streamOn_closed, sent.streamOn_new]
  · rw [final, Net.closed_closes, Net.closed_closes, conn, List.append_assoc]
    cases released : a.closeConnection.releases with
    | true => rw [Net.closed_conns_self _ _ _ released]; rfl
    | false => rw [CloseAnswer.eq_kept released, Net.closed_kept, conn]; rfl
  · have lends := Net.lends_openConn connected.nonneg connected.unused
    rw [final]
    exact closed_again lends connected.unused sent.conns _ _ released

theorem clientTestMain_ends (config : Config) (clientId ipBroker : Ptr) (a : ClientTestAnswers)
    (before : World) (readableId : before.heap.string? clientId = some clientTestId)
    (readableIp : before.heap.string? ipBroker = some mqttTcpIpBroker) :
    ClientTestEnds a before (clientTestMain config clientId ipBroker a before) := by
  by_cases grants : Grants a
  · by_cases connected : Connected a.connect before.net
    · have ends := transmitAll_ends (testPackets.map (testParcel a)) (clientTestEnd a)
        (w := testConnected before config clientId ipBroker a.connect.socket connected.nonneg)
        connected.nonneg
      rw [← clientTestMain_connected readableId readableIp grants connected] at ends
      generalize clientTestMain config clientId ipBroker a before = result at ends ⊢
      cases ends with
      | whole accepted sent => exact clientTestEnd_ends grants connected (takesAll_iff.mp accepted) sent
      | stops refused out sent within proper =>
          have stream := sent.streamOn_new
          refine .interrupted grants connected (takesAll_iff.not.mp refused) out ?_ ?_ ?_ ?_
          · rw [stream]
            exact within
          · rw [stream]
            exact proper
          · rw [sent.conns]
            exact Net.openConn_conns_self before.net a.connect.socket connected.nonneg
          · intro b
            rw [sent.heap]
            exact allocated_live before.heap clientTestId mqttTcpIpBroker 0 b
    · exact clientTestMain_unconnected readableId readableIp grants connected
  · exact clientTestMain_refused readableId readableIp grants

end Main

def testLiterals : World := { sampleWorld with
  heap := (Heap.empty.alloc (clientTestId.bytes ++ [0])).alloc (mqttTcpIpBroker.bytes ++ [0]) }

def hangingUp : ClientTestAnswers where
  missing := 0
  grantsId := true
  grantsIp := true
  grantsBuffer := true
  connect := connectsTo3
  stack _ _ := 0xFF
  sends p := if p = .unsubscribe then [5, -1] else [20, 20]
  closeConnection := .done
  closeClient := .done

theorem clientTestMain_hangingUp : ClientTestEnds hangingUp testLiterals
    (clientTestMain sampleConfig (some 0) (some 1) hangingUp testLiterals) :=
  clientTestMain_ends sampleConfig (some 0) (some 1) hangingUp testLiterals (by decide +kernel)
    (by decide +kernel)

end Dpubsub.Proof
