import Dpubsub.Proof.Connection
import Dpubsub.Proof.Created

/-!
# The life of descriptors

Two results about runs of the calls that manage the connection: when the socket field is always -1
or an open descriptor that is closed once at most, and when nothing is left open in the end.
-/

namespace Dpubsub.Proof
open Dpubsub.Lib Dpubsub.Model

/-- `fd` is -1 or open, and every `close` has been of an open connection, one for each. -/
structure Owned (n : Net) (fd : Int) : Prop where
  socket : fd = -1 ∨ n.held fd = true
  closed_open : ∀ c ∈ n.closes, c.conn ≠ none
  once : (n.closes.map CloseCall.conn).Nodup

def DescriptorsValid (w : World) : Prop := Owned w.net w.client.socket

structure Tracked (n : Net) (fd : Int) : Prop extends Owned n fd where
  closes_lt : ∀ c ∈ n.closes, ∀ k, c.conn = some k → k < n.opened

section
variable {n : Net} {fd fd' : Int}

theorem held_openConn (nonneg : 0 ≤ fd') (held : n.held fd = true) :
    (n.openConn fd' nonneg).held fd = true := by
  rcases eq_or_ne fd fd' with rfl | ne
  · rw [Net.held, Net.openConn_conns_self]
    rfl
  · rwa [Net.held, Net.openConn_conns_of_ne n fd' nonneg ne]

theorem Tracked.opened (tracked : Tracked n fd) (nonneg : 0 ≤ fd') {field : Int}
    (socket : field = fd ∨ field = fd') : Tracked (n.openConn fd' nonneg) field where
  socket := by
    rcases socket with rfl | rfl
    · exact tracked.socket.imp_right (held_openConn nonneg)
    · right
      rw [Net.held, Net.openConn_conns_self]
      rfl
  closed_open := tracked.closed_open
  once := tracked.once
  closes_lt c member k conn := (tracked.closes_lt c member k conn).trans (Nat.lt_succ_self _)

theorem Tracked.closed (tracked : Tracked n fd) {k : Nat} (conn : n.conns fd' = some k)
    (fresh : ∀ c ∈ n.closes, c.conn ≠ some k) (answer : CloseAnswer) {field : Int}
    (socket : field = -1 ∨ (n.closed fd' answer).held field = true) :
    Tracked (n.closed fd' answer) field where
  socket := socket
  closed_open := by
    intro c member
    rw [Net.closed_closes, List.mem_append, List.mem_singleton] at member
    rcases member with old | rfl
    · exact tracked.closed_open c old
    · rw [conn]
      exact Option.some_ne_none k
  once := by
    rw [Net.closed_closes, List.map_append, List.nodup_append]
    refine ⟨tracked.once, by simp, ?_⟩
    intro x old y new
    obtain ⟨c, member, rfl⟩ := List.mem_map.mp old
    rw [List.map_singleton, List.mem_singleton, conn] at new
    rw [new]
    exact fresh c member
  closes_lt := by
    intro c member j closed
    rw [Net.closed_closes, List.mem_append, List.mem_singleton] at member
    rw [Net.closed_opened]
    rcases member with old | rfl
    · exact tracked.closes_lt c old j closed
    · exact n.conns_lt fd' j closed

theorem not_nodup_closed (before : ∃ c ∈ n.closes, c.conn = n.conns fd) (answer : CloseAnswer) :
    ¬((n.closed fd answer).closes.map CloseCall.conn).Nodup := by
  obtain ⟨c, member, same⟩ := before
  intro once
  rw [Net.closed_closes, List.map_append, List.nodup_append] at once
  exact once.2.2 _ (List.mem_map_of_mem member) _ (List.mem_singleton_self _) same

theorem not_owned_closed_twice (answer answer' : CloseAnswer) (field : Int) :
    ¬Owned ((n.closed fd answer).closed fd answer') field := by
  intro owned
  by_cases kept : answer = .kept
  · subst kept
    refine not_nodup_closed ⟨⟨fd, n.conns fd⟩, ?_, ?_⟩ answer' owned.once
    · rw [Net.closed_closes]
      exact List.mem_append_right _ (List.mem_singleton_self _)
    · rw [Net.closed_kept]
  · refine owned.closed_open ⟨fd, none⟩ ?_ rfl
    rw [Net.closed_closes, List.mem_append, List.mem_singleton,
      Net.closed_conns_self _ _ _ (CloseAnswer.releases_of_ne kept)]
    exact Or.inr rfl

theorem Tracked.transfer (tracked : Tracked n fd) (data : Nat → UInt8) (length : Nat)
    (calls : List SendCall) : Tracked (n.transfer fd' data length calls) fd :=
  ⟨⟨tracked.socket, tracked.closed_open, tracked.once⟩, tracked.closes_lt⟩

end

def TrackedIn (w : World) : Prop := Tracked w.net w.client.socket

def NotClosed (w : World) : Prop := ∀ c ∈ w.net.closes, c.conn ≠ w.net.conns w.client.socket

section
variable {w : World} {answer answer' : CloseAnswer} {stack : Nat → UInt8} {sends : List Int}

theorem closed_before (closed : ¬NotClosed w) :
    ∃ c ∈ w.net.closes, c.conn = w.net.conns w.client.socket := by
  unfold NotClosed at closed
  push Not at closed
  exact closed

theorem connectClientTcp_tracked (a : ConnectAnswers) (tracked : TrackedIn w) :
    Prog.Ends (connectClientTcp a) w fun _ => TrackedIn := by
  unfold Prog.Ends
  by_cases connects : Connects a w
  · rw [connectClientTcp_connects connects]
    exact Tracked.opened tracked connects.nonneg (Or.inr rfl)
  · obtain ⟨o, n, ends, fails⟩ := connectClientTcp_fails connects
    rw [fails]
    cases ends with
    | refused => exact tracked
    | unreadable nonneg _ => exact Tracked.opened tracked nonneg (Or.inl rfl)
    | closed nonneg unused =>
        have opened : Tracked (w.net.openConn a.socket nonneg) w.client.socket :=
          Tracked.opened tracked nonneg (Or.inl rfl)
        refine opened.closed (Net.openConn_conns_self ..) ?_ a.close ?_
        · intro c member conn
          exact absurd (tracked.closes_lt c member _ conn) (lt_irrefl _)
        · refine tracked.socket.imp_right fun held => ?_
          have ne : w.client.socket ≠ a.socket := by
            intro same
            rw [same, unused] at held
            cases held
          rwa [Net.held, Net.closed_conns_of_ne _ _ _ ne, Net.openConn_conns_of_ne _ _ _ ne]

theorem announce_tracked (tracked : TrackedIn w) :
    Prog.Ends (announce stack sends) w fun _ => TrackedIn := by
  unfold Prog.Ends
  obtain ⟨o, silent | ⟨data, length, sent⟩⟩ := announce_sends stack sends w
  · rw [silent]
    exact tracked
  · rw [sent]
    exact Tracked.transfer tracked ..

theorem clientConnect_tracked (a : ConnectAnswers) (tracked : TrackedIn w) :
    TrackedIn (clientConnect a stack sends w).2 :=
  (connectClientTcp_tracked a tracked).bind_inv (I := TrackedIn) fun _ _ h => announce_tracked h

theorem conns_socket (tracked : TrackedIn w) (open_ : w.client.socket ≠ -1) :
    ∃ k, w.net.conns w.client.socket = some k :=
  Net.held_iff.mp (tracked.socket.resolve_left open_)

theorem disconnectClientTcp_tracked (tracked : TrackedIn w)
    (condition : w.client.socket < 0 ∨ (answer = .kept ∧ NotClosed w)) :
    TrackedIn (disconnectClientTcp answer w).2 := by
  by_cases refused : w.client.socket < 0
  · rw [disconnectClientTcp_refuses refused]
    exact tracked
  · obtain ⟨rfl, fresh⟩ := condition.resolve_left refused
    obtain ⟨callbacks, closes⟩ :=
      disconnectClientTcp_closes .kept (Int.not_lt.mp refused)
    rw [closes]
    obtain ⟨k, conn⟩ := conns_socket tracked (by omega)
    rw [NotClosed, conn] at fresh
    refine Tracked.closed tracked conn fresh .kept (Or.inr ?_)
    rw [Net.held, Net.closed_kept]
    exact Net.held_iff.mpr ⟨k, conn⟩

theorem disconnectClientTcp_invalid (tracked : TrackedIn w)
    (violated : ¬(w.client.socket < 0 ∨ (answer = .kept ∧ NotClosed w))) :
    ¬DescriptorsValid (disconnectClientTcp answer w).2 := by
  push Not at violated
  obtain ⟨connected, again⟩ := violated
  obtain ⟨callbacks, closes⟩ := disconnectClientTcp_closes answer connected
  obtain ⟨k, conn⟩ := conns_socket tracked (by omega)
  rw [closes]
  intro valid
  by_cases kept : answer = .kept
  · exact not_nodup_closed (closed_before (again kept)) answer valid.once
  · have releases := CloseAnswer.releases_of_ne kept
    rcases valid.socket with none | held
    · change w.client.socket = -1 at none
      omega
    · change (w.net.closed w.client.socket answer).held w.client.socket = true at held
      rw [Net.held, Net.closed_conns_self _ _ _ releases] at held
      cases held

theorem reset_tracked (answer : CloseAnswer) (tracked : TrackedIn w)
    (condition : w.client.socket = -1 ∨ NotClosed w) :
    TrackedIn (reset w answer) := by
  unfold reset
  split
  · rename_i open_
    obtain ⟨k, conn⟩ := conns_socket tracked open_
    have fresh := condition.resolve_left open_
    rw [NotClosed, conn] at fresh
    exact Tracked.closed tracked conn fresh answer (Or.inl rfl)
  · exact tracked

theorem reset_invalid (open_ : w.client.socket ≠ -1) (closed : ¬NotClosed w) :
    ¬((reset w answer).net.closes.map CloseCall.conn).Nodup := by
  unfold reset
  rw [if_pos open_]
  exact not_nodup_closed (closed_before closed) answer

theorem destroyClient_tracked (tracked : TrackedIn w)
    (condition : w.client.socket = -1 ∨ NotClosed w) : TrackedIn (destroyClient answer w).2 := by
  have reset := reset_tracked answer tracked condition
  unfold TrackedIn
  rw [destroyClient_net, destroyClient_socket]
  exact ⟨⟨Or.inl rfl, reset.closed_open, reset.once⟩, reset.closes_lt⟩

theorem clientDisconnect_invalid (connected : 0 ≤ w.client.socket)
    (whole : accepts 2 sends = true) :
    ¬DescriptorsValid (clientDisconnect stack sends answer answer' w).2 := by
  rw [DescriptorsValid, (clientDisconnect_whole stack answer answer' connected whole).1]
  exact not_owned_closed_twice answer answer' _

end

def ManagesConnection : Call → Prop
  | .connectClient .. | .disconnectClient .. | .destroyClient _ | .clientConnect .. => True
  | .clientDisconnect .. => True
  | _ => False

/-- The call does not close a descriptor that stays in the socket field, nor a second time. -/
def ClosesOnce : Call → World → Prop
  | .disconnectClient .tcp answer, w => w.client.socket < 0 ∨ (answer = .kept ∧ NotClosed w)
  | .destroyClient _, w => w.client.socket = -1 ∨ NotClosed w
  | .clientDisconnect _ sends _ _, w => ¬(0 ≤ w.client.socket ∧ accepts 2 sends = true)
  | _, _ => True

theorem exec_tracked (c : Call) (w : World) (manages : ManagesConnection c) (tracked : TrackedIn w)
    (condition : ClosesOnce c w) : TrackedIn (c.exec w).2 := by
  cases c with
  | connectClient protocol a =>
      rw [Call.exec, returning_snd]
      cases protocol with
      | tcp => exact connectClientTcp_tracked a tracked
      | unknown => exact tracked
  | disconnectClient protocol answer =>
      cases protocol with
      | tcp => exact disconnectClientTcp_tracked tracked condition
      | unknown => exact tracked
  | destroyClient answer =>
      rw [Call.exec, returning_snd]
      exact destroyClient_tracked tracked condition
  | clientConnect a stack sends =>
      rw [Call.exec, returning_snd]
      exact clientConnect_tracked a tracked
  | clientDisconnect stack sends answer answer' =>
      obtain ⟨o, -, cut⟩ := clientDisconnect_cut stack answer answer' condition
      rw [Call.exec, cut]
      exact Tracked.transfer tracked ..
  | _ => exact manages.elim

theorem exec_invalid (c : Call) (w : World) (manages : ManagesConnection c) (tracked : TrackedIn w)
    (violated : ¬ClosesOnce c w) : ¬DescriptorsValid (c.exec w).2 := by
  cases c with
  | connectClient protocol a => exact absurd trivial violated
  | disconnectClient protocol answer =>
      cases protocol with
      | tcp => exact disconnectClientTcp_invalid tracked violated
      | unknown => exact absurd trivial violated
  | destroyClient answer =>
      rw [Call.exec, returning_snd]
      unfold ClosesOnce at violated
      push Not at violated
      intro valid
      have once := valid.once
      rw [destroyClient_net] at once
      exact reset_invalid violated.1 violated.2 once
  | clientConnect a stack sends => exact absurd trivial violated
  | clientDisconnect stack sends answer answer' =>
      obtain ⟨connected, whole⟩ := not_not.mp violated
      exact clientDisconnect_invalid connected whole
  | _ => exact manages.elim

theorem created_tracked {config : Config} {bufferSize : Nat} {before w : World}
    (created : Created config bufferSize before w) : TrackedIn w := by
  obtain ⟨untouched, id, ip, rfl⟩ := created_cases created
  refine ⟨⟨Or.inl rfl, ?_, ?_⟩, ?_⟩
  · simp [untouched.closes]
  · simp [untouched.closes]
  · simp [untouched.closes]

theorem descriptorsValid_iff (config : Config) (bufferSize : Nat) (before w : World)
    (created : Created config bufferSize before w) (calls : List Call)
    (manage : ∀ c ∈ calls, ManagesConnection c) :
    Prog.Always Call.exec DescriptorsValid calls w ↔
      Prog.Meets Call.exec ClosesOnce calls w :=
  Prog.safe_iff_meets (created_tracked created) (Prog.meets_of_forall manage w)
    (fun _ tracked => tracked.toOwned) exec_tracked exec_invalid

theorem descriptor_closed_twice : ¬Prog.Always Call.exec DescriptorsValid
    [.clientConnect connectsTo3 (fun _ => 0) [100],
      .clientDisconnect (fun _ => 0) [2] .done .done] sampleClient := by
  intro valid
  exact absurd (valid _ (List.prefix_refl _)).closed_open (by decide +kernel)

theorem descriptorsValid_connect_destroy : Prog.Always Call.exec DescriptorsValid
    [.connectClient .tcp connectsTo3, .destroyClient .done] sampleClient :=
  (descriptorsValid_iff sampleConfig 256 sampleWorld sampleClient sampleClient_created
    [.connectClient .tcp connectsTo3, .destroyClient .done] (by simp [ManagesConnection])).mpr
    ⟨trivial, fun _ _ => ⟨Or.inr (by unfold NotClosed; decide +kernel), fun _ _ => trivial⟩⟩

def OnlySocketOpen (w : World) : Prop := ∀ fd, w.net.held fd = true → fd = w.client.socket

def SameTable (w w' : World) : Prop :=
  (∀ fd, w'.net.held fd = w.net.held fd) ∧ w'.client.socket = w.client.socket

theorem SameTable.onlySocketOpen_iff {w w' : World} (same : SameTable w w') :
    OnlySocketOpen w' ↔ OnlySocketOpen w := by
  unfold OnlySocketOpen
  rw [same.2]
  simp only [same.1]

theorem onlySocketOpen_opened {w w' : World} {fd : Int} (nonneg : 0 ≤ fd)
    (unused : w.net.held fd = false) (table : w'.net.conns = (w.net.openConn fd nonneg).conns)
    (field : w'.client.socket = fd) :
    OnlySocketOpen w' ↔ OnlySocketOpen w ∧ w.net.held w.client.socket = false := by
  have other : ∀ fd', fd' ≠ fd → w'.net.held fd' = w.net.held fd' := by
    intro fd' ne
    rw [Net.held, Net.held, table, Net.openConn_conns_of_ne _ _ _ ne]
  constructor
  · intro only
    have closed : ∀ fd', w.net.held fd' = false := by
      intro fd'
      rcases eq_or_ne fd' fd with rfl | ne
      · exact unused
      · rw [← other fd' ne, ← Bool.not_eq_true]
        intro held
        exact ne ((only fd' held).trans field)
    refine ⟨fun fd' held => ?_, closed _⟩
    rw [closed] at held
    cases held
  · rintro ⟨only, closed⟩ fd' held
    by_contra ne
    rw [other fd' (field ▸ ne)] at held
    rw [← only fd' held, held] at closed
    cases closed

theorem onlySocketOpen_closed {w w' : World} (self : w'.net.held w.client.socket = false)
    (others : ∀ fd, fd ≠ w.client.socket → w'.net.held fd = w.net.held fd)
    (kept : w'.client.socket = w.client.socket ∨ w'.client.socket = -1) :
    OnlySocketOpen w' ↔ OnlySocketOpen w := by
  constructor
  · intro only fd held
    by_contra ne
    rw [← others fd ne] at held
    have field := only fd held
    have nonneg := Net.nonneg_of_held held
    rcases kept with same | closed
    · exact ne (field.trans same)
    · omega
  · intro only fd held
    rcases eq_or_ne fd w.client.socket with rfl | ne
    · rw [self] at held
      cases held
    · rw [others fd ne] at held
      exact absurd (only fd held) ne

section
variable {w : World} {stack : Nat → UInt8} {sends : List Int}

theorem held_closed_self (n : Net) (fd : Int) : (n.closed fd .done).held fd = false := by
  rw [Net.held, Net.closed_conns_self _ _ _ rfl]
  rfl

theorem held_closed_of_ne (n : Net) {fd fd' : Int} (ne : fd' ≠ fd) :
    (n.closed fd .done).held fd' = n.held fd' := by
  rw [Net.held, Net.held, Net.closed_conns_of_ne _ _ _ ne]

theorem connectClientTcp_only {a : ConnectAnswers} (done : a.close = .done) {r : Int}
    (returns : (connectClientTcp a w).1 = .ret r) :
    OnlySocketOpen (connectClientTcp a w).2 ↔
      OnlySocketOpen w ∧ (Connects a w → w.net.held w.client.socket = false) := by
  by_cases connects : Connects a w
  · rw [connectClientTcp_connects connects]
    simp only [connects, forall_const]
    exact onlySocketOpen_opened connects.nonneg connects.unused rfl rfl
  · obtain ⟨o, n, ends, fails⟩ := connectClientTcp_fails connects
    simp only [connects, false_implies, and_true]
    rw [fails] at returns ⊢
    apply SameTable.onlySocketOpen_iff
    cases ends with
    | refused => exact ⟨fun _ => rfl, rfl⟩
    | unreadable nonneg _ => cases returns
    | closed nonneg unused =>
        refine ⟨fun fd => ?_, rfl⟩
        change ((w.net.openConn a.socket nonneg).closed a.socket a.close).held fd = w.net.held fd
        rw [done]
        rcases eq_or_ne fd a.socket with rfl | ne
        · rw [held_closed_self, unused]
        · rw [held_closed_of_ne _ ne, Net.held, Net.openConn_conns_of_ne _ _ _ ne, Net.held]

theorem announce_sameTable : SameTable w (announce stack sends w).2 := by
  obtain ⟨o, silent | ⟨data, length, sent⟩⟩ := announce_sends stack sends w
  · rw [silent]
    exact ⟨fun _ => rfl, rfl⟩
  · rw [sent]
    exact ⟨fun _ => rfl, rfl⟩

theorem clientConnect_only {a : ConnectAnswers} (done : a.close = .done) {r : Int}
    (returns : (clientConnect a stack sends w).1 = .ret r) :
    OnlySocketOpen (clientConnect a stack sends w).2 ↔
      OnlySocketOpen w ∧ (Connects a w → w.net.held w.client.socket = false) := by
  rw [clientConnect_eq] at returns ⊢
  rcases outcome : connectClientTcp a w with ⟨o, w'⟩
  cases o with
  | ret result =>
      rw [Prog.bind_ret outcome, announce_sameTable.onlySocketOpen_iff]
      rw [← connectClientTcp_only done (congrArg Prod.fst outcome), outcome]
  | pending =>
      rw [Prog.bind_pending outcome] at returns
      cases returns
  | undefined =>
      rw [Prog.bind_undefined outcome] at returns
      cases returns

theorem disconnectClientTcp_only :
    OnlySocketOpen (disconnectClientTcp .done w).2 ↔ OnlySocketOpen w := by
  by_cases refused : w.client.socket < 0
  · rw [disconnectClientTcp_refuses refused]
  · obtain ⟨callbacks, closes⟩ := disconnectClientTcp_closes .done (Int.not_lt.mp refused)
    rw [closes]
    exact onlySocketOpen_closed (held_closed_self _ _) (fun fd ne => held_closed_of_ne _ ne)
      (Or.inl rfl)

theorem clientDisconnect_only :
    OnlySocketOpen (clientDisconnect stack sends .done .done w).2 ↔ OnlySocketOpen w := by
  by_cases whole : 0 ≤ w.client.socket ∧ accepts 2 sends = true
  · obtain ⟨net, socket⟩ := clientDisconnect_whole stack .done .done whole.1 whole.2
    refine onlySocketOpen_closed ?_ (fun fd ne => ?_) (Or.inr socket)
    · rw [net, held_closed_self]
    · rw [net, held_closed_of_ne _ ne, held_closed_of_ne _ ne]
      rfl
  · obtain ⟨o, -, cut⟩ := clientDisconnect_cut stack .done .done whole
    rw [cut]
    exact SameTable.onlySocketOpen_iff ⟨fun _ => rfl, rfl⟩

def AllClosed (w : World) : Prop := ∀ fd, (destroyClient .done w).2.net.conns fd = none

theorem allClosed_iff_only : AllClosed w ↔ OnlySocketOpen w := by
  have closed : ∀ (n : Net) fd, n.conns fd = none ↔ ¬n.held fd = true := by
    intro n fd
    rw [Net.held, Bool.not_eq_true, Option.isSome_eq_false_iff, Option.isNone_iff_eq_none]
  simp only [AllClosed, destroyClient_net, closed, reset]
  split
  · constructor
    · intro none fd held
      by_contra ne
      refine none fd ?_
      exact (held_closed_of_ne _ ne).trans held
    · intro only fd held
      change (w.net.closed w.client.socket .done).held fd = true at held
      rcases eq_or_ne fd w.client.socket with rfl | ne
      · rw [held_closed_self] at held
        cases held
      · rw [held_closed_of_ne _ ne] at held
        exact ne (only fd held)
  · rename_i unset
    rw [not_not] at unset
    constructor
    · intro none fd held
      exact absurd held (none fd)
    · intro only fd held
      have nonneg := Net.nonneg_of_held held
      have field := only fd held
      omega

end

def ClosesSucceed : Call → Prop
  | .connectClient _ a => a.close = .done
  | .disconnectClient _ answer => answer = .done
  | .clientConnect a _ _ => a.close = .done
  | .clientDisconnect _ _ answer answer' => answer = .done ∧ answer' = .done
  | _ => False

def KeepsConnection : Call → World → Prop
  | .connectClient .tcp a, w => Connects a w → w.net.held w.client.socket = false
  | .clientConnect a _ _, w => Connects a w → w.net.held w.client.socket = false
  | _, _ => True

theorem exec_only (c : Call) (w : World) (r : Option Int) (succeed : ClosesSucceed c)
    (returns : (c.exec w).1 = .ret r) :
    OnlySocketOpen (c.exec w).2 ↔ OnlySocketOpen w ∧ KeepsConnection c w := by
  cases c with
  | connectClient protocol a =>
      obtain ⟨r', returned⟩ := returning_fst returns
      rw [Call.exec, returning_snd]
      cases protocol with
      | tcp => exact connectClientTcp_only succeed returned
      | unknown => exact (and_iff_left trivial).symm
  | disconnectClient protocol answer =>
      obtain rfl : answer = .done := succeed
      cases protocol with
      | tcp => exact disconnectClientTcp_only.trans (and_iff_left trivial).symm
      | unknown => exact (and_iff_left trivial).symm
  | clientConnect a stack sends =>
      obtain ⟨r', returned⟩ := returning_fst returns
      rw [Call.exec, returning_snd]
      exact clientConnect_only succeed returned
  | clientDisconnect stack sends answer answer' =>
      obtain ⟨rfl, rfl⟩ : answer = .done ∧ answer' = .done := succeed
      exact clientDisconnect_only.trans (and_iff_left trivial).symm
  | _ => exact succeed.elim

theorem created_only {config : Config} {bufferSize : Nat} {before w : World}
    (created : Created config bufferSize before w) : OnlySocketOpen w := by
  obtain ⟨untouched, id, ip, rfl⟩ := created_cases created
  intro fd held
  change (before.net.conns fd).isSome = true at held
  rw [untouched.conns] at held
  cases held

theorem allClosed_iff (config : Config) (bufferSize : Nat) (before w : World)
    (created : Created config bufferSize before w) (calls : List Call)
    (succeed : ∀ c ∈ calls, ClosesSucceed c) (completes : Prog.Completes Call.exec calls w) :
    AllClosed (Prog.run Call.exec calls w) ↔ Prog.Meets Call.exec KeepsConnection calls w := by
  rw [allClosed_iff_only]
  exact Prog.run_iff_meets (created_only created) succeed completes exec_only

theorem reconnect_leaks : ¬AllClosed (Prog.run Call.exec
    [.connectClient .tcp connectsTo3, .connectClient .tcp connectsTo4] sampleClient) := by
  intro closed
  exact absurd (closed 3) (by decide +kernel)

theorem allClosed_connect_disconnect : AllClosed (Prog.run Call.exec
    [.connectClient .tcp connectsTo3, .disconnectClient .tcp .done, .connectClient .tcp connectsTo3]
    sampleClient) :=
  (allClosed_iff sampleConfig 256 sampleWorld sampleClient sampleClient_created
    [.connectClient .tcp connectsTo3, .disconnectClient .tcp .done, .connectClient .tcp connectsTo3]
    (by simp [ClosesSucceed, connectsTo3])
    ⟨some 0, by decide +kernel, none, by decide +kernel, some 0, by decide +kernel, trivial⟩).mpr
    ⟨fun _ => by decide +kernel, fun _ _ => ⟨trivial, fun _ _ => ⟨fun _ => by decide +kernel,
      fun _ _ => trivial⟩⟩⟩

end Dpubsub.Proof
