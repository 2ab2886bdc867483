import Dpubsub.Spec.Session
import Dpubsub.Proof.Requests

/-!
# The order of packets on a connection

Each call of the API begins one packet at most, on the connection that the socket field holds at
that time. What has been sent there before is looked at by none of them.
-/

namespace Dpubsub.Proof
open Dpubsub.Lib Dpubsub.Model Dpubsub.Spec

def begun? (t : Transfer) : Option Begun :=
  if 0 < t.accepted then some ⟨Kind.of (t.data 0), decide (t.length ≤ t.accepted)⟩
  else none

def sessionOn (n : Net) (k : Nat) : List Begun := (n.log k).filterMap begun?

def SessionsSafe (n : Net) : Prop := ∀ k, SessionSafe (sessionOn n k)

theorem sessionOn_congr {n n' : Net} (same : n'.transfers = n.transfers) (k : Nat) :
    sessionOn n' k = sessionOn n k := by
  rw [sessionOn, sessionOn, Net.log_congr same]

theorem sessionsSafe_congr {n n' : Net} (same : n'.transfers = n.transfers) :
    SessionsSafe n' ↔ SessionsSafe n := by
  simp only [SessionsSafe, sessionOn_congr same]

theorem sessionOn_unopened (n : Net) {k : Nat} (unopened : n.opened ≤ k) : sessionOn n k = [] := by
  rw [sessionOn, Net.log_unopened n unopened, List.filterMap_nil]

theorem sessionOn_transfer (n : Net) (fd : Int) (data : Nat → UInt8) (length : Nat)
    (calls : List SendCall) (k : Nat) : sessionOn (n.transfer fd data length calls) k =
      sessionOn n k ++
        if n.conns fd = some k then (begun? ⟨n.conns fd, data, length, calls⟩).toList else [] := by
  rw [sessionOn, sessionOn, Net.log_transfer, List.filterMap_append]
  congr 1
  by_cases current : n.conns fd = some k
  · cases seen : begun? ⟨some k, data, length, calls⟩ <;> simp [current, seen]
  · simp [current]

def takes : List Int → Bool
  | [] => false
  | answer :: answers => decide (0 < answer) || (decide (answer = 0) && takes answers)

theorem acceptedBy_pos_iff {fd : Int} {length : Nat} (nonempty : 0 < length) (connected : 0 ≤ fd)
    (answers : List Int) :
    0 < acceptedBy (sendLoop fd length 0 answers).1 ↔ takes answers = true := by
  induction answers with
  | nil =>
      rw [sendLoop_waits nonempty]
      simp [takes, acceptedBy]
  | cons answer answers ih =>
      rcases lt_trichotomy answer 0 with error | rfl | ok
      · have none : ¬0 < answer := by omega
        rw [sendLoop_fails nonempty (Or.inr error)]
        simp [takes, acceptedBy, none, error.ne]
      · have result : sendResult fd (length - 0) 0 = 0 := by
          rw [sendResult, if_neg (by omega)]
          omega
        rw [sendLoop_idles nonempty (by decide) result, acceptedBy_cons]
        simpa [takes] using ih
      · exact iff_of_true (acceptedBy_sendLoop_pos answers connected nonempty ok) (by simp [takes, ok])

/-- If the system takes a byte on the connection that the socket field holds, what has been begun on
that connection is as `allowed`. -/
def IfTaken (w : World) (sends : List Int) (allowed : List Begun → Prop) : Prop :=
  ∀ k, w.net.conns w.client.socket = some k → takes sends = true → allowed (sessionOn w.net k)

section
variable {w : World} {data : Nat → UInt8} {length : Nat} {sends : List Int}

theorem sessionOn_sentBy (nonempty : 0 < length) (k : Nat) :
    sessionOn (sentBy w w.client.socket data length sends).net k = sessionOn w.net k ++
      if w.net.conns w.client.socket = some k ∧ takes sends = true then
        [⟨Kind.of (data 0),
          decide (length ≤ acceptedBy (sendLoop w.client.socket length 0 sends).1)⟩]
      else [] := by
  rw [sentBy, sessionOn_transfer]
  congr 1
  by_cases current : w.net.conns w.client.socket = some k
  · have connected := Net.nonneg_of_conns current
    simp only [current, true_and, if_true, begun?, Transfer.accepted,
      acceptedBy_pos_iff nonempty connected]
    split <;> rfl
  · simp [current]

theorem sessionsSafe_sentBy (safe : SessionsSafe w.net) (nonempty : 0 < length) :
    SessionsSafe (sentBy w w.client.socket data length sends).net ↔
      IfTaken w sends (Admits · (Kind.of (data 0))) := by
  unfold SessionsSafe IfTaken
  simp only [sessionOn_sentBy nonempty]
  constructor
  · intro after k current taken
    have both := after k
    rw [if_pos ⟨current, taken⟩, sessionSafe_concat] at both
    exact both.2
  · intro admits k
    split
    · exact (sessionSafe_concat _ _).mpr ⟨safe k, admits k ‹_ ∧ _›.1 ‹_ ∧ _›.2⟩
    · rw [List.append_nil]
      exact safe k

end

def ShortId (w : World) : Prop :=
  ∃ clientId, w.heap.string? w.client.config.clientId = some clientId ∧ strlen clientId ≤ 114

theorem connectBytes_kind (clientId : CString) (keepAlive : UInt16) (stack : Nat → UInt8) :
    Kind.of (connectBytes clientId keepAlive stack 0) = .connect := by
  have first : connectBytes clientId keepAlive stack 0 = 0x10 := by
    simp [connectBytes, contents, Cursor.append_bytes, connectPacket]
  rw [first]
  decide

section
variable {w : World} {a : ConnectAnswers} {stack : Nat → UInt8} {sends : List Int}

theorem announce_sessions (safe : SessionsSafe w.net)
    (bound : ∀ clientId ∈ w.heap.string? w.client.config.clientId, strlen clientId < 2 ^ 62) :
    SessionsSafe (announce stack sends w).2.net ↔ ¬ShortId w ∨ IfTaken w sends (· = []) := by
  by_cases short : ShortId w
  · obtain ⟨clientId, readable, fits⟩ := id short
    rw [announce_begins stack sends readable fits, sessionsSafe_sentBy safe (by omega),
      connectBytes_kind]
    simp only [Admits, if_true, short, not_true_eq_false, false_or]
  · have long : ∀ clientId, w.heap.string? w.client.config.clientId = some clientId →
        114 < strlen clientId ∧ strlen clientId < 2 ^ 62 := fun clientId readable =>
      ⟨by_contra fun fits => short ⟨clientId, readable, Nat.not_lt.mp fits⟩, bound clientId readable⟩
    obtain ⟨o, silent⟩ := announce_silent stack sends long
    rw [silent]
    exact iff_of_true safe (Or.inl short)

theorem ifTaken_opened (connects : Connects a w) :
    IfTaken (withSocket w (w.net.openConn a.socket connects.nonneg) a.socket) sends (· = []) := by
  intro k current taken
  have opened : (w.net.openConn a.socket connects.nonneg).conns a.socket = some k := current
  rw [Net.openConn_conns_self] at opened
  cases opened
  exact (sessionOn_congr rfl _).trans (sessionOn_unopened w.net le_rfl)

theorem ifTaken_closed (nonneg : 0 ≤ a.socket) (unused : w.net.held a.socket = false) :
    IfTaken { w with net := (w.net.openConn a.socket nonneg).closed a.socket a.close } sends
        (· = []) ↔ IfTaken w sends (· = []) := by
  unfold IfTaken
  have sent : ((w.net.openConn a.socket nonneg).closed a.socket a.close).transfers =
      w.net.transfers := Net.closed_transfers _ _ _
  simp only [sessionOn_congr sent]
  rcases eq_or_ne w.client.socket a.socket with same | other
  · have none : w.net.conns a.socket = none := by
      rw [Net.held, Option.isSome_eq_false_iff, Option.isNone_iff_eq_none] at unused
      exact unused
    refine iff_of_true (fun k current _ => ?_) (fun k current _ => ?_)
    · have opened := Net.conns_of_closed _ _ _ current
      rw [same, Net.openConn_conns_self] at opened
      cases opened
      exact sessionOn_unopened w.net le_rfl
    · rw [same, none] at current
      cases current
  · rw [Net.closed_conns_of_ne _ _ _ other, Net.openConn_conns_of_ne _ _ _ other]

def Addressed (w : World) : Prop :=
  w.heap.string? w.client.config.ipBroker = none → w.client.socket < 0

theorem clientConnect_sessions (safe : SessionsSafe w.net) (addressed : Addressed w)
    (bound : ∀ clientId ∈ w.heap.string? w.client.config.clientId, strlen clientId < 2 ^ 62) :
    SessionsSafe (clientConnect a stack sends w).2.net ↔
      Connects a w ∨ ¬ShortId w ∨ IfTaken w sends (· = []) := by
  rw [clientConnect_eq]
  by_cases connects : Connects a w
  · rw [Prog.bind_ret (connectClientTcp_connects connects)]
    have opened : SessionsSafe (w.net.openConn a.socket connects.nonneg) :=
      (sessionsSafe_congr rfl).mpr safe
    refine iff_of_true ?_ (Or.inl connects)
    exact (announce_sessions (w := withSocket w _ a.socket) opened bound).mpr
      (Or.inr (ifTaken_opened connects))
  · obtain ⟨o, n, ends, fails⟩ := connectClientTcp_fails connects
    rw [or_iff_right connects]
    cases ends with
    | refused =>
        rw [Prog.bind_ret fails]
        exact announce_sessions safe bound
    | unreadable nonneg address =>
        rw [Prog.bind_undefined fails]
        refine iff_of_true ((sessionsSafe_congr rfl).mpr safe) (Or.inr fun k current _ => ?_)
        exact absurd (addressed address) (Int.not_lt.mpr (Net.nonneg_of_conns current))
    | closed nonneg unused =>
        rw [Prog.bind_ret fails, ← ifTaken_closed nonneg unused]
        exact announce_sessions ((sessionsSafe_congr (Net.closed_transfers _ _ _)).mpr safe) bound

theorem clientConnect_addressed (addressed : Addressed w) :
    Addressed (clientConnect a stack sends w).2 := by
  have announced : ∀ w', Addressed w' → Addressed (announce stack sends w').2 := by
    intro w' addressed
    obtain ⟨o, silent | ⟨data, length, sent⟩⟩ := announce_sends stack sends w'
    · rwa [silent]
    · rwa [sent]
  rw [clientConnect_eq]
  by_cases connects : Connects a w
  · rw [Prog.bind_ret (connectClientTcp_connects connects)]
    exact announced _ fun address => absurd address connects.address
  · obtain ⟨o, n, ends, fails⟩ := connectClientTcp_fails connects
    cases ends with
    | refused => rw [Prog.bind_ret fails]; exact announced _ addressed
    | unreadable => rw [Prog.bind_undefined fails]; exact addressed
    | closed => rw [Prog.bind_ret fails]; exact announced _ addressed

end

section
variable {w : World} {stack : Nat → UInt8} {sends : List Int}

theorem publishHeader_kind (qos retain dup : UInt8) :
    Kind.of (publishHeader .publish qos retain dup) = .other := by
  have bits : ∀ rest : UInt8, (0x30 ||| rest) >>> 4 ≠ 1 ∧ (0x30 ||| rest) >>> 4 ≠ 14 := by
    rintro ⟨rest⟩
    revert rest
    decide +kernel
  have header : publishHeader .publish qos retain dup =
      (0x30 : UInt8) ||| (UInt8.ofNat (dup.toNat <<< 3) ||| (UInt8.ofNat (qos.toNat &&& 0x03) |||
        UInt8.ofNat (retain.toNat &&& 0x01))) := by
    unfold publishHeader toChar
    rw [UInt8.ofNat_or, UInt8.ofNat_or, UInt8.ofNat_or, UInt8.or_assoc, UInt8.or_assoc]
    rfl
  rw [header, Kind.of, if_neg (bits _).1, if_neg (bits _).2]

/-- `publish` sends `buffer3` also when `serialize_publish` refuses; what goes out then is what the
byte that happens to be its first makes it. -/
def publishedKind (topic message : Option CString) (qos : UInt8) (stack : Nat → UInt8) : Kind :=
  if Serializable topic message qos then .other else Kind.of (stack 0)

variable (w stack) in
theorem serialized_kind {topic message : Option CString}
    (topicBound : ∀ t ∈ topic, strlen t < 2 ^ 62) (messageBound : ∀ m ∈ message, strlen m < 2 ^ 62)
    (messageId : UInt16) (retain dup : UInt8) :
    Kind.of (contents (serialized topic message messageId retain dup stack w).2 0) =
        publishedKind topic message w.client.config.defaultQos stack ∧
      0 < sizeOfInt (serialized topic message messageId retain dup stack w).1 := by
  unfold publishedKind
  by_cases fits : Serializable topic message w.client.config.defaultQos
  · rw [if_pos fits]
    obtain ⟨t, m, rfl, rfl, fits⟩ := fits
    obtain ⟨eq, small⟩ := serialized_eq messageId retain dup stack w fits
    have length : sizeOfInt ((publishPacket messageId retain dup w t m).length : Int) =
        (publishPacket messageId retain dup w t m).length := sizeOfInt_natCast (by omega)
    rw [eq]
    simp only [length]
    refine ⟨?_, by simp [publishPacket, packet]⟩
    have first : contents (some ((Cursor.start (Buffer.fresh stack)).append
        (publishPacket messageId retain dup w t m)).buffer) 0 =
        publishHeader .publish w.client.config.defaultQos retain dup := by
      simp [contents, Cursor.append_bytes, publishPacket, packet]
    rw [first, publishHeader_kind]
  · rw [if_neg fits]
    obtain ⟨refused, lower, untouched⟩ := serialized_refused topic message messageId retain dup
      stack w fits topicBound messageBound
    rw [untouched]
    refine ⟨rfl, ?_⟩
    unfold sizeOfInt
    omega

theorem clientPublish_state (topic message : Option CString) (messageId : UInt16)
    (retain dup : UInt8) : (clientPublish topic message messageId retain dup stack sends w).2 =
      (publish topic message messageId retain dup stack sends w).2 := by
  unfold clientPublish
  rcases outcome : publish topic message messageId retain dup stack sends w with ⟨o, w'⟩
  cases o with
  | ret result =>
      rw [Prog.bind_ret outcome]
      split <;> rfl
  | pending => rw [Prog.bind_pending outcome]
  | undefined => rw [Prog.bind_undefined outcome]

theorem clientPublish_sessions (safe : SessionsSafe w.net) {topic message : Option CString}
    (topicBound : ∀ t ∈ topic, strlen t < 2 ^ 62) (messageBound : ∀ m ∈ message, strlen m < 2 ^ 62)
    (messageId : UInt16) (retain dup : UInt8) :
    SessionsSafe (clientPublish topic message messageId retain dup stack sends w).2.net ↔
      IfTaken w sends
        (Admits · (publishedKind topic message w.client.config.defaultQos stack)) := by
  obtain ⟨callbacks, state⟩ := publish_state topic message messageId retain dup
    stack sends w
  obtain ⟨kind, nonempty⟩ := serialized_kind w stack topicBound messageBound messageId retain
    dup
  rw [clientPublish_state, state]
  refine (sessionsSafe_sentBy safe nonempty).trans ?_
  rw [kind]

theorem unsubscribeBytes_kind (topic : CString) (messageId : UInt16) :
    Kind.of (unsubscribeBytes topic messageId stack 0) = .other := by
  have first : unsubscribeBytes topic messageId stack 0 = 0xA2 := by
    simp [unsubscribeBytes, contents, Cursor.append_bytes, topicRequest, toChar,
      PacketTypeCode.code]
  rw [first]
  decide

def Unsubscribes (topic : Option CString) : Prop := ∃ t ∈ topic, strlen t + 6 < 2 ^ 31

theorem unsubscribes_of {topic : Option CString} (bound : ∀ t ∈ topic, strlen t < 2 ^ 62)
    (silent : ¬Unsubscribes topic) : ∀ t ∈ topic, 2 ^ 31 ≤ strlen t + 6 ∧ strlen t < 2 ^ 62 :=
  fun t member =>
    ⟨by_contra fun short => silent ⟨t, member, Nat.not_le.mp short⟩, bound t member⟩

theorem clientUnsubscribe_sessions (safe : SessionsSafe w.net) {topic : Option CString}
    (bound : ∀ t ∈ topic, strlen t < 2 ^ 62) (messageId : UInt16) :
    SessionsSafe (clientUnsubscribe topic messageId stack sends w).2.net ↔
      (Unsubscribes topic → IfTaken w sends Established) := by
  by_cases fits : Unsubscribes topic
  · obtain ⟨t, rfl, small⟩ := id fits
    rw [clientUnsubscribe_begins stack sends w messageId (Nat.add_comm .. ▸ small),
      sessionsSafe_sentBy safe (by omega), unsubscribeBytes_kind]
    simp only [fits, forall_const]
    exact Iff.rfl
  · obtain ⟨o, silent⟩ := clientUnsubscribe_silent stack sends w messageId (unsubscribes_of bound fits)
    rw [silent]
    exact iff_of_true safe fun short => absurd short fits

theorem clientUnsubscribe_addressed (addressed : Addressed w) {topic : Option CString}
    (bound : ∀ t ∈ topic, strlen t < 2 ^ 62) (messageId : UInt16) :
    Addressed (clientUnsubscribe topic messageId stack sends w).2 := by
  by_cases fits : Unsubscribes topic
  · obtain ⟨t, rfl, small⟩ := fits
    rw [clientUnsubscribe_begins stack sends w messageId (Nat.add_comm .. ▸ small)]
    exact addressed
  · obtain ⟨o, silent⟩ := clientUnsubscribe_silent stack sends w messageId
      (unsubscribes_of bound fits)
    rw [silent]
    exact addressed

theorem clientDisconnect_sessions (safe : SessionsSafe w.net) (answer answer' : CloseAnswer) :
    SessionsSafe (clientDisconnect stack sends answer answer' w).2.net ↔
      IfTaken w sends Established := by
  have first : disconnectBytes stack 0 = 0xE0 := by
    rw [disconnectBytes, serializeDisconnect, serializeHeaderOnly_eq]
    simp [contents, Cursor.append_bytes, PacketTypeCode.code, toChar]
  have kind : Kind.of (disconnectBytes stack 0) = .disconnect := by
    rw [first]
    decide
  have sent : SessionsSafe (clientDisconnect stack sends answer answer' w).2.net ↔
      SessionsSafe (sentBy w w.client.socket (disconnectBytes stack) 2 sends).net := by
    by_cases whole : 0 ≤ w.client.socket ∧ accepts 2 sends = true
    · rw [(clientDisconnect_whole stack answer answer' whole.1 whole.2).1]
      exact sessionsSafe_congr (by rw [Net.closed_transfers, Net.closed_transfers])
    · obtain ⟨o, -, cut⟩ := clientDisconnect_cut stack answer answer' whole
      rw [cut]
  rw [sent, sessionsSafe_sentBy safe Nat.zero_lt_two, kind]
  exact Iff.rfl

theorem clientDisconnect_addressed (addressed : Addressed w) (answer answer' : CloseAnswer) :
    Addressed (clientDisconnect stack sends answer answer' w).2 := by
  by_cases whole : 0 ≤ w.client.socket ∧ accepts 2 sends = true
  · intro _
    rw [(clientDisconnect_whole stack answer answer' whole.1 whole.2).2]
    decide
  · obtain ⟨o, -, cut⟩ := clientDisconnect_cut stack answer answer' whole
    rw [cut]
    exact addressed

end

def OverTcp : Call → World → Prop
  | .clientConnect .., w =>
      ∀ clientId ∈ w.heap.string? w.client.config.clientId, strlen clientId < 2 ^ 62
  | .clientPublish topic message .., _ =>
      (∀ t ∈ topic, strlen t < 2 ^ 62) ∧ ∀ m ∈ message, strlen m < 2 ^ 62
  | .clientUnsubscribe topic .., _ => ∀ t ∈ topic, strlen t < 2 ^ 62
  | .clientDisconnect .., _ | .clientPingreq .., _ => True
  | _, _ => False

/-- A new connection is made for CONNECT, or nothing has been begun on the old one; any other packet
is begun on an established connection only. -/
def KeepsSession : Call → World → Prop
  | .clientConnect a _ sends, w => Connects a w ∨ ¬ShortId w ∨ IfTaken w sends (· = [])
  | .clientPublish topic message _ _ _ stack sends, w =>
      IfTaken w sends (Admits · (publishedKind topic message w.client.config.defaultQos stack))
  | .clientUnsubscribe topic _ _ sends, w => Unsubscribes topic → IfTaken w sends Established
  | .clientDisconnect _ sends _ _, w => IfTaken w sends Established
  | _, _ => True

def WireSafe (w : World) : Prop := SessionsSafe w.net

structure Sound (w : World) : Prop where
  safe : WireSafe w
  addressed : Addressed w

theorem exec_safe_iff (c : Call) (w : World) (tcp : OverTcp c w) (sound : Sound w) :
    WireSafe (c.exec w).2 ↔ KeepsSession c w := by
  obtain ⟨safe, addressed⟩ := sound
  unfold WireSafe
  cases c with
  | clientConnect a stack sends =>
      rw [Call.exec, returning_snd]
      exact clientConnect_sessions safe addressed tcp
  | clientDisconnect stack sends answer answer' =>
      rw [Call.exec]
      exact clientDisconnect_sessions safe answer answer'
  | clientPublish topic message messageId retain dup stack sends =>
      rw [Call.exec, returning_snd]
      exact clientPublish_sessions safe tcp.1 tcp.2 messageId retain dup
  | clientUnsubscribe topic messageId stack sends =>
      rw [Call.exec, returning_snd]
      exact clientUnsubscribe_sessions safe tcp messageId
  | clientPingreq stack sends =>
      rw [Call.exec, returning_snd, clientPingreq_silent]
      exact iff_of_true safe trivial
  | _ => exact tcp.elim

theorem exec_addressed (c : Call) (w : World) (tcp : OverTcp c w) (addressed : Addressed w) :
    Addressed (c.exec w).2 := by
  cases c with
  | clientConnect a stack sends =>
      rw [Call.exec, returning_snd]
      exact clientConnect_addressed addressed
  | clientDisconnect stack sends answer answer' =>
      rw [Call.exec]
      exact clientDisconnect_addressed addressed answer answer'
  | clientPublish topic message messageId retain dup stack sends =>
      obtain ⟨callbacks, state⟩ := publish_state topic message messageId retain dup stack sends w
      rw [Call.exec, returning_snd, clientPublish_state, state]
      exact addressed
  | clientUnsubscribe topic messageId stack sends =>
      rw [Call.exec, returning_snd]
      exact clientUnsubscribe_addressed addressed tcp messageId
  | clientPingreq stack sends =>
      rw [Call.exec, returning_snd, clientPingreq_silent]
      exact addressed
  | _ => exact tcp.elim

theorem exec_sound (c : Call) (w : World) (tcp : OverTcp c w) (sound : Sound w)
    (keeps : KeepsSession c w) : Sound (c.exec w).2 :=
  ⟨(exec_safe_iff c w tcp sound).mpr keeps, exec_addressed c w tcp sound.addressed⟩

theorem exec_violates (c : Call) (w : World) (tcp : OverTcp c w) (sound : Sound w)
    (violated : ¬KeepsSession c w) : ¬WireSafe (c.exec w).2 :=
  fun safe => violated ((exec_safe_iff c w tcp sound).mp safe)

theorem created_sound {config : Config} {bufferSize : Nat} {before w : World}
    (created : Created config bufferSize before w) : Sound w := by
  obtain ⟨untouched, id, ip, rfl⟩ := created_cases created
  refine ⟨fun k => ?_, fun _ => ?_⟩
  · have none : sessionOn before.net k = [] := by
      rw [sessionOn, Net.log, untouched.transfers]
      rfl
    exact none ▸ sessionSafe_nil
  · change (-1 : Int) < 0
    decide

theorem sessionsSafe_iff (config : Config) (bufferSize : Nat) (before w : World)
    (created : Created config bufferSize before w) (calls : List Call)
    (tcp : Prog.Meets Call.exec OverTcp calls w) :
    Prog.Always Call.exec WireSafe calls w ↔ Prog.Meets Call.exec KeepsSession calls w :=
  Prog.safe_iff_meets (created_sound created) tcp (fun _ sound => sound.safe) exec_sound exec_violates

theorem sampleClient_bound : ∀ clientId ∈
    sampleClient.heap.string? sampleClient.client.config.clientId, strlen clientId < 2 ^ 62 := by
  have readable : sampleClient.heap.string? sampleClient.client.config.clientId =
      some ⟨[0x63], by decide⟩ := by decide +kernel
  intro clientId member
  rw [readable] at member
  cases member
  decide

theorem sampleClient_connects : Connects connectsTo3 sampleClient :=
  ⟨by decide, by decide +kernel, by decide +kernel, by decide, by decide, by decide⟩

theorem second_connect_on_first : ¬Prog.Always Call.exec WireSafe
    [.clientConnect connectsTo3 (fun _ => 0) [100],
      .clientConnect ⟨-1, 1, 0, 0, .done⟩ (fun _ => 0) [100]] sampleClient := by
  intro safe
  have once := (safe _ (List.prefix_refl _) 0).once
  exact absurd once (by decide +kernel)

theorem sessionsSafe_publish : Prog.Always Call.exec WireSafe
    [.clientConnect connectsTo3 (fun _ => 0) [100],
      .clientPublish (some (CString.letters 1)) (some (CString.letters 2)) 1 0 0 (fun _ => 0)
        [100]] sampleClient := by
  refine (sessionsSafe_iff sampleConfig 256 sampleWorld sampleClient sampleClient_created
    [.clientConnect connectsTo3 (fun _ => 0) [100],
      .clientPublish (some (CString.letters 1)) (some (CString.letters 2)) 1 0 0 (fun _ => 0)
        [100]] ?_).mpr ?_
  · refine ⟨sampleClient_bound, fun _ _ => ⟨⟨?_, ?_⟩, fun _ _ => trivial⟩⟩
    · rintro t ⟨⟩
      simp
    · rintro m ⟨⟩
      simp
  · refine ⟨Or.inl sampleClient_connects, fun _ _ => ⟨?_, fun _ _ => trivial⟩⟩
    intro k current _
    have first : (Prog.run Call.exec [.clientConnect connectsTo3 (fun _ => 0) [100]]
        sampleClient).net.conns 3 = some 0 := by decide +kernel
    cases first.symm.trans current
    exact ⟨by decide +kernel, by decide +kernel⟩

end Dpubsub.Proof
