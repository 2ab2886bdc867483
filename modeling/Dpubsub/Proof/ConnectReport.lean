import Dpubsub.Proof.Session

/-!
# The result of `client_connect`

A call whose connection is made ends well unless it returns -1, and any other call unless it returns
0. Which of them it does is settled by the length of the id and the results of `send`.
-/

namespace Dpubsub.Proof
open Dpubsub.Lib Dpubsub.Model Dpubsub.Spec

structure Attempt where
  answers : ConnectAnswers
  stack : Nat → UInt8
  sends : List Int

def Attempt.exec (c : Attempt) : Prog World Int := clientConnect c.answers c.stack c.sends

/-- The result 0 stands for a connection opened by this call, on which the CONNECT has been accepted
and nothing else. After -1 the socket field holds no connection that this call has opened. -/
structure ReportsConnection (c : Attempt) (w : World) : Prop where
  made : (c.exec w).1 = .ret 0 → Connects c.answers w ∧ ∃ k clientId, w.net.opened ≤ k ∧
    (c.exec w).2.net.conns (c.exec w).2.client.socket = some k ∧
    w.heap.string? w.client.config.clientId = some clientId ∧
    ((c.exec w).2.net.log k).flatMap Transfer.delivered =
      connectPacket clientId w.client.config.keepAlive
  undone : (c.exec w).1 = .ret (-1) →
    ∀ k, (c.exec w).2.net.conns (c.exec w).2.client.socket = some k → k < w.net.opened

def idLength (w : World) : Nat := (w.heap.string? w.client.config.clientId).elim 0 strlen

/-- A connection that is made is followed by the whole CONNECT. Where none is made, there is no older
connection, or the CONNECT does not get through on it. -/
structure ConnectsWhole (c : Attempt) (w : World) : Prop where
  made : Connects c.answers w →
    idLength w ≤ 114 ∧ refuses (14 + idLength w) c.sends = false
  failed : ¬Connects c.answers w →
    w.client.socket < 0 ∨ 114 < idLength w ∨ accepts (14 + idLength w) c.sends = false

theorem reported_cut_iff {n : Nat} {calls : List SendCall} {o : Outcome Int}
    (sent : Sent n (calls, o)) : reported o = .ret (-1) ↔ o = .ret (-1) := by
  cases sent with
  | whole _ all => simp [reported, Outcome.map]
  | cut _ part => simp [reported, Outcome.map]
  | waiting _ part => simp [reported, Outcome.map]

structure Ready (w : World) : Prop where
  readable : ∃ clientId, w.heap.string? w.client.config.clientId = some clientId ∧
    strlen clientId < 2 ^ 62
  address : w.heap.string? w.client.config.ipBroker ≠ none
  current : w.client.socket < 0 ∨ w.net.held w.client.socket = true

structure Announced (w : World) (sends : List Int) (result : Outcome Int × World) : Prop where
  client : result.2.client = w.client
  heap : result.2.heap = w.heap
  conns : result.2.net.conns = w.net.conns
  whole : result.1 = .ret 0 ↔ 0 ≤ w.client.socket ∧ idLength w ≤ 114 ∧
    accepts (14 + idLength w) sends = true
  cut : 0 ≤ w.client.socket → (result.1 = .ret (-1) ↔
    114 < idLength w ∨ refuses (14 + idLength w) sends = true)

section Announce
variable {w : World} {stack : Nat → UInt8} {sends : List Int}

theorem announce_announced (ready : Ready w) : Announced w sends (announce stack sends w) := by
  obtain ⟨clientId, readable, bound⟩ := ready.readable
  have length : idLength w = strlen clientId := by rw [idLength, readable]; rfl
  by_cases short : strlen clientId ≤ 114
  · have small : 14 + strlen clientId < 2 ^ 31 := by omega
    rw [announce_begins stack sends readable short]
    refine ⟨rfl, rfl, rfl, ?_, fun connected => ?_⟩
    · rw [reported_zero_iff, sendLoop_whole_iff sends (by omega) small, length]
      simp only [short, true_and, Nat.sub_zero]
    · have sent : Sent (14 + strlen clientId)
          (sendLoop w.client.socket (14 + strlen clientId) 0 sends) :=
        sendLoop_sent sends (Nat.zero_le _) small
      rw [reported_cut_iff sent, sendLoop_cut_iff connected sends (Nat.zero_le _) small, length]
      simp only [Nat.not_lt.mpr short, false_or, Nat.sub_zero]
  · rw [announce_refuses stack sends readable (Nat.not_le.mp short) bound]
    refine ⟨rfl, rfl, rfl, ?_, fun _ => ?_⟩
    · rw [length]
      exact iff_of_false (by simp) fun whole => short whole.2.1
    · rw [length]
      exact iff_of_true rfl (Or.inl (Nat.not_le.mp short))

theorem connectBytes_range (clientId : CString) (keepAlive : UInt16) (stack : Nat → UInt8) :
    (List.range (14 + strlen clientId)).map (connectBytes clientId keepAlive stack) =
      connectPacket clientId keepAlive := by
  rw [← connectPacket_length clientId keepAlive]
  exact Cursor.append_slice _ _

theorem announce_delivers {clientId : CString}
    (readable : w.heap.string? w.client.config.clientId = some clientId) (ready : Ready w) {k : Nat}
    (fresh : w.net.log k = []) (current : w.net.conns w.client.socket = some k)
    (whole : (announce stack sends w).1 = .ret 0) :
    ((announce stack sends w).2.net.log k).flatMap Transfer.delivered =
      connectPacket clientId w.client.config.keepAlive := by
  have length : idLength w = strlen clientId := by rw [idLength, readable]; rfl
  have short := ((announce_announced ready).whole.mp whole).2.1
  rw [length] at short
  have small : 14 + strlen clientId < 2 ^ 31 := by omega
  have begins := announce_begins stack sends readable short
  have sent : Sent (14 + strlen clientId)
      (sendLoop w.client.socket (14 + strlen clientId) 0 sends) :=
    sendLoop_sent sends (Nat.zero_le _) small
  rw [begins] at whole ⊢
  have accepted : acceptedBy (sendLoop w.client.socket (14 + strlen clientId) 0 sends).1 =
      14 + strlen clientId := sent.whole_iff.mp (reported_zero_iff.mp whole)
  rw [sentBy, Net.log_transfer, fresh, if_pos current, List.nil_append, List.flatMap_singleton,
    delivered_eq _ _ _ _ small, accepted, connectBytes_range]

end Announce

section Call
variable {w : World} {c : Attempt}

theorem exec_connects (connects : Connects c.answers w) : c.exec w =
    announce c.stack c.sends
      (withSocket w (w.net.openConn c.answers.socket connects.nonneg) c.answers.socket) := by
  rw [Attempt.exec, clientConnect_eq, Prog.bind_ret (connectClientTcp_connects connects)]

theorem exec_fails (ready : Ready w) (fails : ¬Connects c.answers w) :
    ∃ n : Net, c.exec w = announce c.stack c.sends { w with net := n } ∧
      ∀ fd, fd < 0 ∨ w.net.held fd = true → n.conns fd = w.net.conns fd := by
  obtain ⟨o, n, ends, failed⟩ := connectClientTcp_fails fails
  rw [Attempt.exec, clientConnect_eq]
  cases ends with
  | refused => exact ⟨w.net, Prog.bind_ret failed, fun _ _ => rfl⟩
  | unreadable nonneg address => exact absurd address ready.address
  | closed nonneg unused =>
      refine ⟨_, Prog.bind_ret failed, fun fd used => ?_⟩
      have other : fd ≠ c.answers.socket := by
        rintro rfl
        rcases used with negative | held
        · omega
        · rw [unused] at held
          cases held
      rw [Net.closed_conns_of_ne _ _ _ other, Net.openConn_conns_of_ne _ _ _ other]

theorem ready_opened (ready : Ready w) (connects : Connects c.answers w) :
    Ready (withSocket w (w.net.openConn c.answers.socket connects.nonneg) c.answers.socket) where
  readable := ready.readable
  address := ready.address
  current := Or.inr (Net.held_iff.mpr ⟨w.net.opened, Net.openConn_conns_self _ _ connects.nonneg⟩)

theorem ready_failed (ready : Ready w) {n : Net}
    (same : ∀ fd, fd < 0 ∨ w.net.held fd = true → n.conns fd = w.net.conns fd) :
    Ready { w with net := n } where
  readable := ready.readable
  address := ready.address
  current := ready.current.imp_right fun held => by
    rw [Net.held] at held ⊢
    rw [same _ (Or.inr held)]
    exact held

theorem Announced.ready {sends : List Int} {result : Outcome Int × World}
    (announced : Announced w sends result) (ready : Ready w) : Ready result.2 where
  readable := by rw [announced.heap, announced.client]; exact ready.readable
  address := by rw [announced.heap, announced.client]; exact ready.address
  current := by rw [announced.client, Net.held, announced.conns]; exact ready.current

theorem exec_ready (c : Attempt) (w : World) (ready : Ready w) : Ready (c.exec w).2 := by
  by_cases connects : Connects c.answers w
  · have opened := ready_opened ready connects
    rw [exec_connects connects]
    exact (announce_announced opened).ready opened
  · obtain ⟨n, failed, same⟩ := exec_fails ready connects
    have unchanged := ready_failed ready same
    rw [failed]
    exact (announce_announced unchanged).ready unchanged

theorem reports_connects_iff (ready : Ready w) (connects : Connects c.answers w) :
    ReportsConnection c w ↔
      idLength w ≤ 114 ∧ refuses (14 + idLength w) c.sends = false := by
  obtain ⟨clientId, readable, -⟩ := ready.readable
  have opened := ready_opened ready connects
  have announced : Announced _ c.sends (announce c.stack c.sends _) := announce_announced opened
  have current : (c.exec w).2.net.conns (c.exec w).2.client.socket = some w.net.opened := by
    rw [exec_connects connects, announced.client, announced.conns]
    exact Net.openConn_conns_self _ _ connects.nonneg
  have cut : (c.exec w).1 = .ret (-1) ↔
      114 < idLength w ∨ refuses (14 + idLength w) c.sends = true := by
    rw [exec_connects connects]
    exact announced.cut connects.nonneg
  constructor
  · intro reports
    have returns : (c.exec w).1 ≠ .ret (-1) := fun failure =>
      absurd (reports.undone failure _ current) (lt_irrefl _)
    rw [ne_eq, cut] at returns
    push Not at returns
    exact ⟨returns.1, Bool.not_eq_true _ ▸ returns.2⟩
  · rintro ⟨short, through⟩
    refine ⟨fun whole => ⟨connects, w.net.opened, clientId, le_rfl, current, readable, ?_⟩,
      fun failure => ?_⟩
    · rw [exec_connects connects] at whole ⊢
      refine announce_delivers (w := withSocket w _ c.answers.socket) readable opened ?_
        (Net.openConn_conns_self _ _ connects.nonneg) whole
      exact (Net.log_congr rfl _).trans (Net.log_unopened w.net le_rfl)
    · rcases cut.mp failure with long | refused
      · omega
      · rw [through] at refused
        cases refused

theorem reports_fails_iff (ready : Ready w) (fails : ¬Connects c.answers w) :
    ReportsConnection c w ↔ w.client.socket < 0 ∨ 114 < idLength w ∨
      accepts (14 + idLength w) c.sends = false := by
  obtain ⟨n, failed, same⟩ := exec_fails ready fails
  have announced : Announced _ c.sends (announce c.stack c.sends _) :=
    announce_announced (ready_failed ready same)
  have whole : (c.exec w).1 = .ret 0 ↔ 0 ≤ w.client.socket ∧ idLength w ≤ 114 ∧
      accepts (14 + idLength w) c.sends = true := by
    rw [failed]
    exact announced.whole
  have old : ∀ k, (c.exec w).2.net.conns (c.exec w).2.client.socket = some k →
      k < w.net.opened := by
    intro k current
    rw [failed, announced.client, announced.conns] at current
    exact w.net.conns_lt _ k ((same _ ready.current).symm.trans current)
  constructor
  · intro reports
    have returns : ¬(0 ≤ w.client.socket ∧ idLength w ≤ 114 ∧
        accepts (14 + idLength w) c.sends = true) := fun success =>
      fails (reports.made (whole.mpr success)).1
    by_contra condition
    push Not at condition
    exact returns ⟨condition.1, condition.2.1, Bool.not_eq_false _ ▸ condition.2.2⟩
  · intro condition
    refine ⟨fun success => ?_, fun _ => old⟩
    obtain ⟨connected, short, accepted⟩ := whole.mp success
    rcases condition with negative | long | refused
    · omega
    · omega
    · rw [accepted] at refused
      cases refused

theorem reports_iff_connectsWhole (c : Attempt) (w : World) (ready : Ready w) :
    ReportsConnection c w ↔ ConnectsWhole c w := by
  by_cases connects : Connects c.answers w
  · rw [reports_connects_iff ready connects]
    exact ⟨fun h => ⟨fun _ => h, absurd connects⟩, fun h => h.made connects⟩
  · rw [reports_fails_iff ready connects]
    exact ⟨fun h => ⟨fun made => absurd made connects, fun _ => h⟩, fun h => h.failed connects⟩

end Call

theorem created_ready {config : Config} {bufferSize : Nat} {before w : World}
    (created : Created config bufferSize before w)
    (bound : ∀ clientId ∈ w.heap.string? w.client.config.clientId, strlen clientId < 2 ^ 62) :
    Ready w := by
  obtain ⟨-, id, ip, rfl⟩ := created_cases created
  have readable : (allocated before.heap id ip bufferSize).string? (some before.heap.next) =
      some id := by
    rw [allocated, Heap.string?_alloc_of_lt _ _ (Nat.lt_add_of_pos_right Nat.zero_lt_two),
      Heap.string?_alloc_of_lt _ _ (Nat.lt_succ_self _), Heap.string?_alloc_next]
  have address : (allocated before.heap id ip bufferSize).string? (some (before.heap.next + 1)) =
      some ip := by
    rw [allocated, Heap.string?_alloc_of_lt _ _ (Nat.lt_succ_self _)]
    exact Heap.string?_alloc_next _ ip
  refine ⟨⟨id, readable, bound id readable⟩, ?_, Or.inl ?_⟩
  · change (allocated before.heap id ip bufferSize).string? (some (before.heap.next + 1)) ≠ none
    rw [address]
    exact Option.some_ne_none ip
  · change (-1 : Int) < 0
    decide

theorem reportsConnection_iff (config : Config) (bufferSize : Nat) (before w : World)
    (created : Created config bufferSize before w)
    (bound : ∀ clientId ∈ w.heap.string? w.client.config.clientId, strlen clientId < 2 ^ 62)
    (attempts : List Attempt) : Prog.Meets Attempt.exec ReportsConnection attempts w ↔
      Prog.Meets Attempt.exec ConnectsWhole attempts w :=
  Prog.meets_congr (created_ready created bound) reports_iff_connectsWhole exec_ready

theorem connect_misreports :
    ¬Prog.Meets Attempt.exec ReportsConnection [⟨connectsTo3, fun _ => 0, [-1]⟩] sampleClient ∧
    ¬Prog.Meets Attempt.exec ReportsConnection [⟨connectsTo3, fun _ => 0, [100]⟩,
      ⟨⟨-1, 1, 0, 0, .done⟩, fun _ => 0, [100]⟩] sampleClient := by
  refine ⟨?_, ?_⟩
  · rintro ⟨reports, -⟩
    exact absurd (reports.undone (by decide +kernel) 0 (by decide +kernel)) (by decide +kernel)
  · rintro ⟨-, next⟩
    have second := (next 0 (by decide +kernel)).1
    exact absurd (second.made (by decide +kernel)).1.nonneg (by decide)

theorem reportsConnection_twice : Prog.Meets Attempt.exec ReportsConnection
    [⟨connectsTo3, fun _ => 0, [100]⟩, ⟨connectsTo4, fun _ => 0, [10, 5]⟩] sampleClient := by
  refine (reportsConnection_iff sampleConfig 256 sampleWorld sampleClient sampleClient_created
    sampleClient_bound
    [⟨connectsTo3, fun _ => 0, [100]⟩, ⟨connectsTo4, fun _ => 0, [10, 5]⟩]).mpr ?_
  have second : Connects connectsTo4
      (Attempt.exec ⟨connectsTo3, fun _ => 0, [100]⟩ sampleClient).2 :=
    ⟨by decide, by decide +kernel, by decide +kernel, by decide, by decide, by decide⟩
  exact ⟨⟨fun _ => by decide +kernel, absurd sampleClient_connects⟩, fun _ _ =>
    ⟨⟨fun _ => by decide +kernel, absurd second⟩, fun _ _ => trivial⟩⟩

end Dpubsub.Proof
