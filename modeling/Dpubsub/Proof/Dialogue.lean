import Dpubsub.Spec.Dialogue
import Dpubsub.Proof.Decoding
import Dpubsub.Proof.ConnectReport
import Dpubsub.Proof.Teardown

/-!
# Runs of the API as dialogues

While every call reports success and its packet can be expressed, a peer that reads a connection
packet by packet gets what the application has asked for, and each connection is a session.
-/

namespace Dpubsub.Proof
open Dpubsub.Lib Dpubsub.Model Dpubsub.Spec

def streamOn (n : Net) (k : Nat) : List UInt8 := (n.log k).flatMap Transfer.delivered

/-- The `bytes` have gone out whole on descriptor `fd`, and nothing else has changed. -/
structure SentWhole (w w' : World) (fd : Int) (bytes : List UInt8) : Prop where
  client : w'.client = w.client
  heap : w'.heap = w.heap
  conns : w'.net.conns = w.net.conns
  opened : w'.net.opened = w.net.opened
  stream : ∀ k, streamOn w'.net k =
    streamOn w.net k ++ if w.net.conns fd = some k then bytes else []
  connected : 0 ≤ fd

theorem sentPart {w : World} {fd : Int} (data : Nat → UInt8) {length : Nat} (sends : List Int)
    (bound : length < 2 ^ 31) (connected : 0 ≤ fd) (callbacks : List CallbackCall) :
    SentWhole w { sentBy w fd data length sends with callbacks := callbacks } fd
      ((List.range (acceptedBy (sendLoop fd length 0 sends).1)).map data) where
  client := rfl
  heap := rfl
  conns := rfl
  opened := rfl
  stream k := by
    have delivered := delivered_eq (w.net.conns fd) fd data sends bound
    change streamOn (w.net.transfer fd data length (sendLoop fd length 0 sends).1) k = _
    rw [streamOn, Net.log_transfer, List.flatMap_append]
    by_cases current : w.net.conns fd = some k
    · rw [if_pos current, if_pos current, List.flatMap_singleton, delivered]
      rfl
    · rw [if_neg current, if_neg current, List.flatMap_nil]
      rfl
  connected := connected

theorem sentWhole {w : World} {fd : Int} {data : Nat → UInt8} {length : Nat} {sends : List Int}
    {bytes : List UInt8} (bound : length < 2 ^ 31) (nonempty : 0 < length)
    (packet : (List.range length).map data = bytes)
    (whole : (sendLoop fd length 0 sends).2 = .ret 0) (callbacks : List CallbackCall) :
    SentWhole w { sentBy w fd data length sends with callbacks := callbacks } fd bytes := by
  have all : acceptedBy (sendLoop fd length 0 sends).1 = length :=
    (sendLoop_sent sends (Nat.zero_le _) bound).whole_iff.mp whole
  have connected := ((sendLoop_whole_iff sends nonempty bound).mp whole).1
  have part := sentPart (w := w) data sends bound connected callbacks
  rwa [all, packet] at part

structure Carries (n : Net) (d : Dialogue) : Prop where
  opened : n.opened = d.opened
  stream : ∀ k, streamOn n k = (d.on k).flatMap ClientPacket.encode
  legal : d.Legal

structure Current (n : Net) (d : Dialogue) (fd : Int) (k : Nat) : Prop where
  conn : n.conns fd = some k
  latest : d.opened = k + 1
  established : Established (d.session k)

section
variable {w w' : World} {d : Dialogue} {p : ClientPacket} {fd : Int} {k : Nat}

theorem Carries.say (carries : Carries w.net d) (current : Current w.net d fd k)
    (sent : SentWhole w w' fd p.encode) (ok : p.WellFormed) (kind : p.begun.kind ≠ .connect) :
    Carries w'.net (d.say p) where
  opened := sent.opened.trans carries.opened
  stream j := by
    rw [sent.stream, carries.stream, Dialogue.on_say, List.flatMap_append, current.conn,
      current.latest, Nat.add_sub_cancel]
    by_cases here : k = j <;> simp [here]
  legal := by
    have latest : d.opened - 1 = k := Nat.sub_eq_of_eq_add current.latest
    refine carries.legal.say ok kind (latest ▸ current.established) ?_
    rw [current.latest]
    exact Nat.succ_pos k

theorem Current.say (current : Current w.net d fd k) (sent : SentWhole w w' fd p.encode)
    (going : p.begun = ⟨.other, true⟩) : Current w'.net (d.say p) fd k where
  conn := (congrFun sent.conns fd).trans current.conn
  latest := current.latest
  established := by
    have latest : d.opened - 1 = k := Nat.sub_eq_of_eq_add current.latest
    have said := Dialogue.established_say (latest ▸ current.established) going
    rwa [show (d.say p).opened - 1 = k from latest] at said

variable {nonneg : 0 ≤ fd}

theorem Carries.connect (carries : Carries w.net d)
    (sent : SentWhole (withSocket w (w.net.openConn fd nonneg) fd) w' fd p.encode)
    (ok : p.WellFormed) (kind : p.begun.kind = .connect) : Carries w'.net (d.connect p) where
  opened := sent.opened.trans (congrArg (· + 1) carries.opened)
  stream j := by
    have before : streamOn (withSocket w (w.net.openConn fd nonneg) fd).net j =
        streamOn w.net j := rfl
    have conn : (withSocket w (w.net.openConn fd nonneg) fd).net.conns fd = some d.opened := by
      rw [← carries.opened]
      exact Net.openConn_conns_self w.net fd nonneg
    rw [sent.stream, before, carries.stream, Dialogue.on_connect, List.flatMap_append, conn]
    by_cases here : d.opened = j <;> simp [here]
  legal := carries.legal.connect ok kind

theorem Current.connect (carries : Carries w.net d)
    (sent : SentWhole (withSocket w (w.net.openConn fd nonneg) fd) w' fd p.encode)
    (going : p.begun = ⟨.connect, true⟩) : Current w'.net (d.connect p) fd d.opened where
  conn := by
    rw [sent.conns, ← carries.opened]
    exact Net.openConn_conns_self w.net fd nonneg
  latest := rfl
  established := Dialogue.established_connect carries.legal going

end

structure Talk where
  clientId : List UInt8
  keepAlive : UInt16
  dialogue : Dialogue

def Talk.say (t : Talk) (p : ClientPacket) : Talk := { t with dialogue := t.dialogue.say p }

def stringBytes (s : Option CString) : List UInt8 := (s.map CString.bytes).getD []

def connectOf (clientId : List UInt8) (keepAlive : UInt16) : ClientPacket :=
  .control (.connect ⟨[0x4D, 0x51, 0x54, 0x54], 4, 0, keepAlive, clientId, []⟩)

def publishOf (topic message : Option CString) (retain dup : UInt8) : ClientPacket :=
  .control (.publish ⟨dup = 1, .atMostOnce, retain.toNat % 2 = 1, stringBytes topic, 0,
    stringBytes message⟩)

def unsubscribeOf (topic : Option CString) (messageId : UInt16) : ClientPacket :=
  .control (.unsubscribe messageId [stringBytes topic])

def Talk.step : ClientCall → Talk → Talk
  | .call (.clientConnect ..), t =>
      { t with dialogue := t.dialogue.connect (connectOf t.clientId t.keepAlive) }
  | .call (.clientPublish topic message _ retain dup ..), t =>
      t.say (publishOf topic message retain dup)
  | .call (.clientUnsubscribe topic messageId ..), t => t.say (unsubscribeOf topic messageId)
  | .call (.clientDisconnect ..), t => t.say .disconnect
  | .setKeepAlive keepAlive, t => { t with keepAlive := keepAlive }
  | _, t => t

/-- The call reports success, for a packet that MQTT can express and that has room in its array, and
`client_connect` on a connection of its own. What `client_pingreq` returns is not looked at. -/
def Succeeds : ClientCall → World → Prop
  | .call (.clientConnect a stack sends), w =>
      Connects a w ∧ ShortId w ∧ (clientConnect a stack sends w).1 = .ret 0
  | .call (.clientPublish topic message messageId retain dup stack sends), w =>
      w.client.config.defaultQos = 0 ∧ FitsBuffer3 topic message 0 ∧ (dup = 0 ∨ dup = 1) ∧
        (clientPublish topic message messageId retain dup stack sends w).1 = .ret 0
  | .call (.clientUnsubscribe topic messageId stack sends), w =>
      (∃ t, topic = some t ∧ strlen t ≤ 123) ∧
        (clientUnsubscribe topic messageId stack sends w).1 = .ret 0
  | .call (.clientDisconnect stack sends answer answer'), w =>
      (clientDisconnect stack sends answer answer' w).1 = .ret none
  | .call (.clientPingreq ..), _ | .setQos _, _ | .setKeepAlive _, _ | .setBrokerPort _, _ => True
  | _, _ => False

structure Simulates (w : World) (t : Talk) : Prop where
  introduced : ∀ clientId, w.heap.string? w.client.config.clientId = some clientId →
    clientId.bytes = t.clientId ∧ w.client.config.keepAlive = t.keepAlive
  carries : Carries w.net t.dialogue
  current : 0 ≤ w.client.socket → ∃ k, Current w.net t.dialogue w.client.socket k

theorem Simulates.says {w w' : World} {t : Talk} {p : ClientPacket} (simulates : Simulates w t)
    (sent : SentWhole w w' w.client.socket p.encode) (ok : p.WellFormed)
    (going : p.begun = ⟨.other, true⟩) : Simulates w' (t.say p) where
  introduced clientId readable := by
    rw [sent.heap, sent.client] at readable
    rw [sent.client]
    exact simulates.introduced clientId readable
  carries := by
    obtain ⟨k, current⟩ := simulates.current sent.connected
    exact simulates.carries.say current sent ok (by rw [going]; decide)
  current _ := by
    obtain ⟨k, current⟩ := simulates.current sent.connected
    rw [sent.client]
    exact ⟨k, current.say sent going⟩

section
variable {w : World} {t : Talk} {stack : Nat → UInt8} {sends : List Int}

theorem connectOf_encode {clientId : CString} (keepAlive : UInt16)
    (short : strlen clientId ≤ 114) :
    (connectOf clientId.bytes keepAlive).encode = connectPacket clientId keepAlive := by
  have small : (connectRequest clientId keepAlive).body.length < 128 := by
    rw [connectRequest_length]
    omega
  rw [connectPacket_eq, shortPacket, ← packet_of_short small]
  rfl

theorem connectOf_wellFormed (clientId : CString) (keepAlive : UInt16)
    (short : strlen clientId ≤ 114) : (connectOf clientId.bytes keepAlive).WellFormed := by
  have length : (connectRequest clientId keepAlive).body.length < 128 := by
    rw [connectRequest_length]
    omega
  refine ⟨⟨(by decide : 4 < 2 ^ 16), (by decide : validFlags 0 = true), ?_,
    (by decide : 0 = otherFields 0), by simp⟩, length.trans (by decide)⟩
  change strlen clientId < 2 ^ 16
  omega

theorem clientConnect_whole {a : ConnectAnswers} {clientId : CString} (connects : Connects a w)
    (readable : w.heap.string? w.client.config.clientId = some clientId)
    (short : strlen clientId ≤ 114) (returns : (clientConnect a stack sends w).1 = .ret 0) :
    SentWhole (withSocket w (w.net.openConn a.socket connects.nonneg) a.socket)
      (clientConnect a stack sends w).2 a.socket
      (connectOf clientId.bytes w.client.config.keepAlive).encode := by
  have begins := announce_begins stack sends
    (w := withSocket w (w.net.openConn a.socket connects.nonneg) a.socket) readable short
  rw [clientConnect_eq, Prog.bind_ret (connectClientTcp_connects connects), begins] at returns ⊢
  rw [connectOf_encode _ short]
  exact sentWhole (by omega) (by omega) (connectBytes_range clientId _ stack)
    (reported_zero_iff.mp returns) w.callbacks

theorem Simulates.clientConnect {a : ConnectAnswers} (simulates : Simulates w t)
    (succeeds : Succeeds (.call (.clientConnect a stack sends)) w) :
    Simulates (Model.clientConnect a stack sends w).2
      (t.step (.call (.clientConnect a stack sends))) := by
  obtain ⟨connects, ⟨clientId, readable, short⟩, returns⟩ := succeeds
  obtain ⟨named, alive⟩ := simulates.introduced clientId readable
  have sent := clientConnect_whole connects readable short returns
  have ok := connectOf_wellFormed clientId t.keepAlive short
  rw [named] at sent ok
  rw [alive] at sent
  refine ⟨fun id string => ?_, simulates.carries.connect sent ok rfl, fun _ => ?_⟩
  · rw [sent.heap, sent.client] at string
    rw [sent.client]
    exact simulates.introduced id string
  · rw [sent.client]
    exact ⟨_, Current.connect simulates.carries sent rfl⟩

theorem publishHeader_first (retain dup : UInt8) (flag : dup = 0 ∨ dup = 1) (topic : List UInt8)
    (packetId : UInt16) (payload : List UInt8) : publishHeader .publish 0 retain dup =
      Publish.first ⟨dup = 1, .atMostOnce, retain.toNat % 2 = 1, topic, packetId, payload⟩ := by
  have bits : ∀ retain : UInt8, publishHeader .publish 0 retain 0 =
        UInt8.ofNat (0x30 + (decide (retain.toNat % 2 = 1)).toNat) ∧
      publishHeader .publish 0 retain 1 =
        UInt8.ofNat (0x38 + (decide (retain.toNat % 2 = 1)).toNat) := by
    rintro ⟨retain⟩
    revert retain
    decide +kernel
  rcases flag with rfl | rfl
  · exact (bits retain).1
  · exact (bits retain).2

theorem publishPacket_encode {t m : CString} (messageId : UInt16) {retain dup : UInt8}
    (flag : dup = 0 ∨ dup = 1) (qos : w.client.config.defaultQos = 0) :
    publishPacket messageId retain dup w t m = (publishOf (some t) (some m) retain dup).encode := by
  have body : publishBody t m messageId 0 = Publish.body
      ⟨dup = 1, .atMostOnce, retain.toNat % 2 = 1, t.bytes, 0, m.bytes⟩ := rfl
  rw [publishPacket, qos, publishHeader_first retain dup flag t.bytes 0 m.bytes, body]
  rfl

theorem clientPublish_returns {topic message : Option CString} {messageId : UInt16}
    {retain dup : UInt8}
    (returns : (clientPublish topic message messageId retain dup stack sends w).1 = .ret 0) :
    (sendLoop w.client.socket
      (sizeOfInt (serialized topic message messageId retain dup stack w).1) 0 sends).2 = .ret 0 := by
  obtain ⟨w', call⟩ : ∃ w', clientPublish topic message messageId retain dup stack sends w =
      (.ret 0, w') := ⟨_, Prod.ext returns rfl⟩
  obtain ⟨published, s, publishes, ends⟩ := Prog.bind_eq_ret.mp call
  rw [publish_eq, Prog.bind_eq_ret] at publishes
  obtain ⟨sent, s', sends, reports⟩ := publishes
  have outcome : (sendLoop w.client.socket
      (sizeOfInt (serialized topic message messageId retain dup stack w).1) 0 _).2 = .ret sent :=
    congrArg Prod.fst sends
  by_cases zero : sent = 0
  · rw [outcome, zero]
  · rw [if_pos zero] at reports
    cases reports
    cases ends

theorem clientPublish_whole {topic message : CString} {messageId : UInt16} {retain dup : UInt8}
    (qos : w.client.config.defaultQos = 0) (fits : 2 + strlen topic + strlen message ≤ 255)
    (flag : dup = 0 ∨ dup = 1)
    (returns : (clientPublish (some topic) (some message) messageId retain dup stack sends w).1 =
      .ret 0) :
    SentWhole w (clientPublish (some topic) (some message) messageId retain dup stack sends w).2
      w.client.socket (publishOf (some topic) (some message) retain dup).encode := by
  have small : 2 + strlen topic + strlen message +
      (if w.client.config.defaultQos > 0 then 2 else 0) ≤ 255 := by
    rw [qos, if_neg (by decide)]
    exact fits
  have whole := clientPublish_returns returns
  obtain ⟨serializes, size⟩ := serialized_eq messageId retain dup stack w small
  obtain ⟨callbacks, state⟩ := publish_state (some topic) (some message) messageId retain dup stack
    sends w
  have length : sizeOfInt ((publishPacket messageId retain dup w topic message).length : Int) =
      (publishPacket messageId retain dup w topic message).length := sizeOfInt_natCast (by omega)
  rw [serializes] at whole state
  simp only [length] at whole state
  rw [clientPublish_state, state, ← publishPacket_encode messageId flag qos]
  exact sentWhole (by omega) (by simp [publishPacket, packet])
    (Cursor.append_slice (publishPacket messageId retain dup w topic message) (Buffer.fresh stack))
    whole callbacks

theorem publishOf_wellFormed {topic message : CString}
    (fits : 2 + strlen topic + strlen message ≤ 255) (retain dup : UInt8) :
    (publishOf (some topic) (some message) retain dup).WellFormed := by
  have length := publishBody_length topic message 0 0
  rw [if_neg (by decide), Nat.add_zero] at length
  refine ⟨⟨?_, fun _ => rfl⟩, ?_⟩
  · change strlen topic < 2 ^ 16
    omega
  · change (publishBody topic message 0 0).length < 128 ^ 4
    omega

theorem Simulates.clientPublish {topic message : Option CString} {messageId : UInt16}
    {retain dup : UInt8} (simulates : Simulates w t)
    (succeeds : Succeeds (.call (.clientPublish topic message messageId retain dup stack sends)) w) :
    Simulates (Model.clientPublish topic message messageId retain dup stack sends w).2
      (t.step (.call (.clientPublish topic message messageId retain dup stack sends))) := by
  obtain ⟨qos, room, flag, returns⟩ := succeeds
  obtain ⟨topic, message, rfl, rfl, fits⟩ := room.serializable
  rw [if_neg (by decide), Nat.add_zero] at fits
  exact simulates.says (clientPublish_whole qos fits flag returns)
    (publishOf_wellFormed fits retain dup) rfl

theorem unsubscribeBytes_range (stack : Nat → UInt8) (topic : CString) (messageId : UInt16)
    (short : strlen topic ≤ 123) :
    (List.range (6 + strlen topic)).map (unsubscribeBytes topic messageId stack) =
      (unsubscribeOf (some topic) messageId).encode := by
  have small : (unsubscribeRequest topic messageId).body.length < 128 := by
    rw [unsubscribeRequest_length]
    omega
  have length : (topicRequest .unsubscribe topic messageId []).length = 6 + strlen topic :=
    topicRequest_length ..
  have encode : (unsubscribeOf (some topic) messageId).encode =
      topicRequest .unsubscribe topic messageId [] := by
    rw [topicRequest_unsubscribe, shortPacket, ← packet_of_short small]
    rfl
  rw [encode, ← length]
  exact Cursor.append_slice (topicRequest .unsubscribe topic messageId []) (Buffer.fresh stack)

theorem Simulates.clientUnsubscribe {topic : Option CString} {messageId : UInt16}
    (simulates : Simulates w t)
    (succeeds : Succeeds (.call (.clientUnsubscribe topic messageId stack sends)) w) :
    Simulates (Model.clientUnsubscribe topic messageId stack sends w).2
      (t.step (.call (.clientUnsubscribe topic messageId stack sends))) := by
  obtain ⟨⟨topic, rfl, short⟩, returns⟩ := succeeds
  rw [clientUnsubscribe_begins stack sends w messageId (by omega)] at returns ⊢
  have sent := sentWhole (w := w) (by omega) (by omega)
    (unsubscribeBytes_range stack topic messageId short) (reported_zero_iff.mp returns)
    w.callbacks
  refine simulates.says sent ⟨⟨List.cons_ne_nil _ _, fun name member => ?_⟩, ?_⟩ rfl
  · rw [List.mem_singleton.mp member]
    change strlen topic < 2 ^ 16
    omega
  · change (unsubscribeRequest topic messageId).body.length < 128 ^ 4
    rw [unsubscribeRequest_length]
    omega

theorem Simulates.clientDisconnect {answer answer' : CloseAnswer} (simulates : Simulates w t)
    (succeeds : Succeeds (.call (.clientDisconnect stack sends answer answer')) w) :
    Simulates (Model.clientDisconnect stack sends answer answer' w).2
      (t.step (.call (.clientDisconnect stack sends answer answer'))) := by
  have returns : (Model.clientDisconnect stack sends answer answer' w).1 = .ret none := succeeds
  rcases call : Model.clientDisconnect stack sends answer answer' w with ⟨o, w'⟩
  rw [call] at returns
  cases returns
  have destroyed := clientDisconnect_returns call
  have whole : 0 ≤ w.client.socket ∧ accepts 2 sends = true := by
    by_contra stops
    obtain ⟨o, returned, cut⟩ := clientDisconnect_cut stack answer answer' stops
    rw [cut] at call
    rcases returned with rfl | rfl <;> cases call
  obtain ⟨k, current⟩ := simulates.current whole.1
  have all : (sendLoop w.client.socket 2 0 sends).2 = .ret 0 :=
    (sendLoop_whole_iff sends Nat.zero_lt_two (by decide)).mpr whole
  have sent := sentWhole (w := w) (by decide) Nat.zero_lt_two (disconnectBytes_range stack) all
    w.callbacks
  have said := simulates.carries.say (p := .disconnect) current sent trivial (by decide)
  have net := (clientDisconnect_whole stack answer answer' whole.1 whole.2).1
  rw [call] at net
  refine ⟨fun clientId readable => ?_, ⟨?_, fun j => ?_, said.legal⟩, fun connected => ?_⟩
  · rw [destroyed.clientId] at readable
    cases readable
  · rw [net, Net.closed_opened, Net.closed_opened]
    exact said.opened
  · rw [net, streamOn, Net.log_congr (Net.closed_transfers _ _ _),
      Net.log_congr (Net.closed_transfers _ _ _)]
    exact said.stream j
  · rw [destroyed.socket] at connected
    exact absurd connected (by decide)

theorem Simulates.idle {w' : World} {t' : Talk} (simulates : Simulates w t)
    (client : w'.client.socket = w.client.socket ∧
      w'.client.config.clientId = w.client.config.clientId) (heap : w'.heap = w.heap)
    (net : w'.net = w.net) (named : t'.clientId = t.clientId) (same : t'.dialogue = t.dialogue)
    (alive : w.client.config.keepAlive = t.keepAlive →
      w'.client.config.keepAlive = t'.keepAlive) : Simulates w' t' where
  introduced clientId readable := by
    rw [heap, client.2] at readable
    obtain ⟨name, keepAlive⟩ := simulates.introduced clientId readable
    exact ⟨name.trans named.symm, alive keepAlive⟩
  carries := by
    rw [net, same]
    exact simulates.carries
  current := by
    rw [client.1, net, same]
    exact simulates.current

theorem Simulates.exec {c : ClientCall} (simulates : Simulates w t) (succeeds : Succeeds c w) :
    Simulates (c.exec w).2 (t.step c) := by
  cases c with
  | call c =>
      rw [ClientCall.exec]
      cases c with
      | clientConnect a stack sends =>
          rw [Call.exec, returning_snd]
          exact simulates.clientConnect succeeds
      | clientPublish topic message messageId retain dup stack sends =>
          rw [Call.exec, returning_snd]
          exact simulates.clientPublish succeeds
      | clientUnsubscribe topic messageId stack sends =>
          rw [Call.exec, returning_snd]
          exact simulates.clientUnsubscribe succeeds
      | clientDisconnect stack sends answer answer' => exact simulates.clientDisconnect succeeds
      | clientPingreq stack sends =>
          rw [Call.exec, returning_snd, clientPingreq_silent]
          exact simulates
      | _ => exact succeeds.elim
  | setQos qos => exact simulates.idle ⟨rfl, rfl⟩ rfl rfl rfl rfl id
  | setKeepAlive keepAlive => exact simulates.idle ⟨rfl, rfl⟩ rfl rfl rfl rfl fun _ => rfl
  | setBrokerPort port => exact simulates.idle ⟨rfl, rfl⟩ rfl rfl rfl rfl id
  | setSocketFd fd => exact succeeds.elim

theorem Succeeds.returns {c : ClientCall} (succeeds : Succeeds c w) :
    ∃ a, (c.exec w).1 = .ret a := by
  have reports : ∀ {m : Prog World Int} {r : Int}, (m w).1 = .ret r →
      (returning m w).1 = .ret (some r) := fun ends =>
    congrArg Prod.fst (returning_ret (Prod.ext ends rfl))
  cases c with
  | call c =>
      rw [ClientCall.exec]
      cases c with
      | clientConnect a stack sends => exact ⟨_, reports succeeds.2.2⟩
      | clientPublish topic message messageId retain dup stack sends =>
          exact ⟨_, reports succeeds.2.2.2⟩
      | clientUnsubscribe topic messageId stack sends => exact ⟨_, reports succeeds.2⟩
      | clientDisconnect stack sends answer answer' => exact ⟨_, succeeds⟩
      | clientPingreq stack sends =>
          exact ⟨_, reports (congrArg Prod.fst (clientPingreq_silent stack sends w))⟩
      | _ => exact succeeds.elim
  | setQos qos => exact ⟨_, rfl⟩
  | setKeepAlive keepAlive => exact ⟨_, rfl⟩
  | setBrokerPort port => exact ⟨_, rfl⟩
  | setSocketFd fd => exact succeeds.elim

end

def Talk.of (w : World) : Talk where
  clientId := stringBytes (w.heap.string? w.client.config.clientId)
  keepAlive := w.client.config.keepAlive
  dialogue := .start w.net.opened

theorem created_simulates {config : Config} {bufferSize : Nat} {before w : World}
    (created : Created config bufferSize before w) : Simulates w (Talk.of w) := by
  obtain ⟨untouched, id, ip, rfl⟩ := created_cases created
  refine ⟨fun clientId readable => ?_, ⟨rfl, fun k => ?_, Dialogue.legal_start _⟩, fun connected => ?_⟩
  · rw [Talk.of, readable]
    exact ⟨rfl, rfl⟩
  · rw [streamOn, Net.log]
    dsimp only
    rw [untouched.transfers]
    rfl
  · exact absurd connected (by change ¬(0 : Int) ≤ -1; decide)

theorem run_simulates_talk {config : Config} {bufferSize : Nat} {before w : World}
    (created : Created config bufferSize before w) {calls : List ClientCall}
    (succeed : Prog.Meets ClientCall.exec Succeeds calls w) :
    Simulates (Prog.run ClientCall.exec calls w)
      (calls.foldl (fun t c => Talk.step c t) (Talk.of w)) :=
  Prog.run_simulates (created_simulates created)
    (fun _ w (succeeds : Succeeds _ w) => succeeds.returns)
    (fun _ w t (simulates : Simulates w t) succeeds => simulates.exec succeeds) succeed

theorem dialogue_decodes (config : Config) (bufferSize : Nat) (before w : World)
    (created : Created config bufferSize before w) (calls : List ClientCall)
    (succeed : Prog.Meets ClientCall.exec Succeeds calls w) (k : Nat) :
    decodeStream (streamOn (Prog.run ClientCall.exec calls w).net k) =
        some ((calls.foldl (fun t c => Talk.step c t) (Talk.of w)).dialogue.on k) ∧
      SessionSafe ((calls.foldl (fun t c => Talk.step c t) (Talk.of w)).dialogue.session k) := by
  have simulates := run_simulates_talk created succeed
  rw [simulates.carries.stream]
  exact ⟨simulates.carries.legal.decodes k, simulates.carries.legal.sessions k⟩

theorem dialogue_decodes_publish :
    decodeStream (streamOn (Prog.run ClientCall.exec
      [.call (.clientConnect connectsTo3 (fun _ => 0) [100]),
        .call (.clientPublish (some (CString.letters 1)) (some (CString.letters 2)) 1 0 0
          (fun _ => 0) [3, 4])] sampleClient).net 0) =
      some [.control (.connect ⟨[0x4D, 0x51, 0x54, 0x54], 4, 0, 60, [0x63], []⟩),
        .control (.publish ⟨false, .atMostOnce, false, [0x61], 0, [0x61, 0x61]⟩)] := by
  refine (dialogue_decodes sampleConfig 256 sampleWorld sampleClient sampleClient_created
    [.call (.clientConnect connectsTo3 (fun _ => 0) [100]),
      .call (.clientPublish (some (CString.letters 1)) (some (CString.letters 2)) 1 0 0
        (fun _ => 0) [3, 4])] ⟨⟨sampleClient_connects, ⟨⟨[0x63], by decide⟩, ?_, ?_⟩, ?_⟩,
      fun _ _ => ⟨⟨?_, ⟨_, _, rfl, rfl, ?_⟩, Or.inl rfl, ?_⟩, fun _ _ => trivial⟩⟩ 0).1.trans ?_
  · decide +kernel
  · decide
  · decide +kernel
  · decide +kernel
  · simp
  · decide +kernel
  · decide +kernel

end Dpubsub.Proof
