import Mathlib.Logic.Function.Basic
import Mathlib.Tactic.SplitIfs
import Dpubsub.Lib.Prog

/-!
# Stream sockets of one process

`Net` is the descriptor table with what has been done to it. Each descriptor that `socket` returns
stands for a connection with a number of its own, so that a descriptor number which the system
hands out again is told apart from its earlier use. What the system answers is an argument of each
call; answers it can never give are brought into range.
-/

namespace Dpubsub.Lib

structure SendCall where
  offset : Nat
  requested : Nat
  result : Int
deriving DecidableEq, Repr

/-- A block of data sent by one or more `send` calls; `conn` is `none` where the descriptor was not
one of this process. -/
structure Transfer where
  conn : Option Nat
  data : Nat → UInt8
  length : Nat
  calls : List SendCall

def acceptedBy (calls : List SendCall) : Nat :=
  calls.foldr (fun call rest => call.result.toNat + rest) 0

def Transfer.accepted (t : Transfer) : Nat := acceptedBy t.calls

def Transfer.packet (t : Transfer) : List UInt8 := (List.range t.length).map t.data

def SendCall.taken (data : Nat → UInt8) (call : SendCall) : List UInt8 :=
  (List.range' call.offset call.result.toNat).map data

def Transfer.delivered (t : Transfer) : List UInt8 := t.calls.flatMap (SendCall.taken t.data)

/-- Each call offers what comes after the bytes taken before it, of which there are `total`. -/
def Contiguous : Nat → List SendCall → Prop
  | _, [] => True
  | total, call :: calls => call.offset = total ∧ Contiguous (total + call.result.toNat) calls

theorem Contiguous.of_prefix {total : Nat} {pre calls : List SendCall}
    (contiguous : Contiguous total calls) (shorter : pre <+: calls) : Contiguous total pre := by
  induction pre generalizing total calls with
  | nil => trivial
  | cons call pre ih =>
      obtain ⟨rest, rfl⟩ := shorter
      exact ⟨contiguous.1, ih contiguous.2 ⟨rest, rfl⟩⟩

theorem acceptedBy_cons (call : SendCall) (calls : List SendCall) :
    acceptedBy (call :: calls) = call.result.toNat + acceptedBy calls := rfl

theorem acceptedBy_mono {pre calls : List SendCall} (shorter : pre <+: calls) :
    acceptedBy pre ≤ acceptedBy calls := by
  induction pre generalizing calls with
  | nil => exact Nat.zero_le _
  | cons call pre ih =>
      obtain ⟨rest, rfl⟩ := shorter
      rw [List.cons_append, acceptedBy_cons, acceptedBy_cons]
      exact Nat.add_le_add_left (ih ⟨rest, rfl⟩) _

theorem taken_append (data : Nat → UInt8) (total taken rest : Nat) :
    (List.range' total taken).map data ++ (List.range' (total + taken) rest).map data =
      (List.range' total (taken + rest)).map data := by
  rw [← List.map_append, List.range'_append_1]

theorem Contiguous.delivers {total : Nat} {calls : List SendCall}
    (contiguous : Contiguous total calls) (data : Nat → UInt8) :
    calls.flatMap (SendCall.taken data) = (List.range' total (acceptedBy calls)).map data := by
  induction calls generalizing total with
  | nil => rfl
  | cons call calls ih =>
      obtain ⟨rfl, rest⟩ := contiguous
      rw [List.flatMap_cons, ih rest, acceptedBy_cons, ← taken_append]
      rfl

structure CloseCall where
  fd : Int
  conn : Option Nat
deriving DecidableEq, Repr

structure Net where
  conns : Int → Option Nat
  opened : Nat
  closes : List CloseCall
  transfers : List Transfer
  conns_neg : ∀ fd, fd < 0 → conns fd = none
  conns_lt : ∀ fd k, conns fd = some k → k < opened
  conns_inj : ∀ fd fd' k, conns fd = some k → conns fd' = some k → fd = fd'
  transfers_lt : ∀ t ∈ transfers, ∀ k, t.conn = some k → k < opened

namespace Net

def empty : Net where
  conns _ := none
  opened := 0
  closes := []
  transfers := []
  conns_neg := by simp
  conns_lt := by simp
  conns_inj := by simp
  transfers_lt := by simp

def held (n : Net) (fd : Int) : Bool := (n.conns fd).isSome

def openConn (n : Net) (fd : Int) (nonneg : 0 ≤ fd) : Net where
  conns := Function.update n.conns fd (some n.opened)
  opened := n.opened + 1
  closes := n.closes
  transfers := n.transfers
  conns_neg fd' neg := by
    rw [Function.update_of_ne (by omega)]
    exact n.conns_neg fd' neg
  conns_lt fd' k h := by
    rcases eq_or_ne fd' fd with rfl | ne
    · simp only [Function.update_self, Option.some.injEq] at h
      omega
    · rw [Function.update_of_ne ne] at h
      have := n.conns_lt fd' k h
      omega
  conns_inj a b k ha hb := by
    have last : ∀ fd', n.conns fd' ≠ some n.opened := fun fd' h => by
      have := n.conns_lt fd' _ h
      omega
    rw [Function.update_apply] at ha hb
    split_ifs at ha hb with ea eb eb
    · rw [ea, eb]
    · exact absurd (hb.trans ha.symm) (last b)
    · exact absurd (ha.trans hb.symm) (last a)
    · exact n.conns_inj a b k ha hb
  transfers_lt t member k h := by
    have := n.transfers_lt t member k h
    omega

def logClose (n : Net) (fd : Int) : Net :=
  { n with closes := n.closes ++ [⟨fd, n.conns fd⟩] }

def drop (n : Net) (fd : Int) : Net where
  conns := Function.update n.conns fd none
  opened := n.opened
  closes := n.closes
  transfers := n.transfers
  conns_neg fd' neg := by
    rcases eq_or_ne fd' fd with rfl | ne
    · simp
    · rw [Function.update_of_ne ne]
      exact n.conns_neg fd' neg
  conns_lt fd' k h := by
    rcases eq_or_ne fd' fd with rfl | ne
    · simp at h
    · rw [Function.update_of_ne ne] at h
      exact n.conns_lt fd' k h
  conns_inj a b k ha hb := by
    rcases eq_or_ne a fd with rfl | na
    · simp at ha
    rcases eq_or_ne b fd with rfl | nb
    · simp at hb
    rw [Function.update_of_ne na] at ha
    rw [Function.update_of_ne nb] at hb
    exact n.conns_inj a b k ha hb
  transfers_lt := n.transfers_lt

def transfer (n : Net) (fd : Int) (data : Nat → UInt8) (length : Nat) (calls : List SendCall) :
    Net where
  conns := n.conns
  opened := n.opened
  closes := n.closes
  transfers := n.transfers ++ [⟨n.conns fd, data, length, calls⟩]
  conns_neg := n.conns_neg
  conns_lt := n.conns_lt
  conns_inj := n.conns_inj
  transfers_lt t member k h := by
    rcases List.mem_append.mp member with old | new
    · exact n.transfers_lt t old k h
    · rw [List.mem_singleton] at new
      subst new
      exact n.conns_lt fd k h

def log (n : Net) (k : Nat) : List Transfer := n.transfers.filter (·.conn == some k)

theorem log_congr {n n' : Net} (same : n'.transfers = n.transfers) (k : Nat) :
    n'.log k = n.log k := by
  rw [log, log, same]

theorem log_unopened (n : Net) {k : Nat} (unopened : n.opened ≤ k) : n.log k = [] := by
  refine List.filter_eq_nil_iff.mpr fun t member conn => ?_
  have opened := n.transfers_lt t member k (by simpa using conn)
  omega

theorem log_transfer (n : Net) (fd : Int) (data : Nat → UInt8) (length : Nat)
    (calls : List SendCall) (k : Nat) : (n.transfer fd data length calls).log k =
      n.log k ++ if n.conns fd = some k then [⟨n.conns fd, data, length, calls⟩] else [] := by
  rw [log, log, transfer, List.filter_append]
  by_cases current : n.conns fd = some k <;> simp [current]

end Net

/-! ## The calls -/

def socket (answer : Int) : Prog Net Int := fun n =>
  if h : 0 ≤ answer ∧ n.held answer = false then (.ret answer, n.openConn answer h.1)
  else (.ret (-1), n)

def accept (sockfd answer : Int) : Prog Net Int := fun n =>
  if n.held sockfd then socket answer n else (.ret (-1), n)

/-- `close` may fail and still have released the descriptor. -/
inductive CloseAnswer where
  | done | kept | lost
deriving DecidableEq, Repr

def CloseAnswer.releases : CloseAnswer → Bool
  | .done => true
  | .kept => false
  | .lost => true

theorem CloseAnswer.releases_of_ne {answer : CloseAnswer} (ne : answer ≠ .kept) :
    answer.releases = true := by
  cases answer with
  | done => rfl
  | kept => exact absurd rfl ne
  | lost => rfl

theorem CloseAnswer.eq_kept {answer : CloseAnswer} (kept : answer.releases = false) :
    answer = .kept := by
  by_contra ne
  rw [releases_of_ne ne] at kept
  cases kept

def close (fd : Int) (answer : CloseAnswer) : Prog Net Int := fun n =>
  if fd < 0 then (.ret (-1), n.logClose fd)
  else
    match answer with
    | .done => (.ret 0, (n.logClose fd).drop fd)
    | .kept => (.ret (-1), n.logClose fd)
    | .lost => (.ret (-1), (n.logClose fd).drop fd)

theorem socket_opens {answer : Int} {n : Net} (nonneg : 0 ≤ answer) (unused : n.held answer = false) :
    socket answer n = (.ret answer, n.openConn answer nonneg) := dif_pos ⟨nonneg, unused⟩

theorem socket_refuses {answer : Int} {n : Net} (h : ¬(0 ≤ answer ∧ n.held answer = false)) :
    socket answer n = (.ret (-1), n) := dif_neg h

namespace Net
section
variable {n : Net} {fd : Int} {k : Nat}

theorem held_iff : n.held fd = true ↔ ∃ k, n.conns fd = some k := Option.isSome_iff_exists

theorem nonneg_of_conns (current : n.conns fd = some k) : 0 ≤ fd := by
  by_contra negative
  rw [n.conns_neg _ (Int.not_le.mp negative)] at current
  cases current

theorem nonneg_of_held (held : n.held fd = true) : 0 ≤ fd := by
  obtain ⟨k, current⟩ := held_iff.mp held
  exact nonneg_of_conns current

end

variable (n : Net) (fd : Int) (answer : CloseAnswer)

def closed : Net := (close fd answer n).2

theorem close_eq :
    close fd answer n = (.ret (if 0 ≤ fd ∧ answer = .done then 0 else -1), n.closed fd answer) := by
  refine Prod.ext ?_ rfl
  unfold close
  split
  · rw [if_neg (by omega)]
  · cases answer with
    | done => rw [if_pos ⟨by omega, rfl⟩]
    | kept => simp
    | lost => simp

@[simp] theorem closed_closes : (n.closed fd answer).closes = n.closes ++ [⟨fd, n.conns fd⟩] := by
  unfold closed close
  split
  · rfl
  · cases answer <;> rfl

@[simp] theorem closed_transfers : (n.closed fd answer).transfers = n.transfers := by
  unfold closed close
  split
  · rfl
  · cases answer <;> rfl

@[simp] theorem closed_opened : (n.closed fd answer).opened = n.opened := by
  unfold closed close
  split
  · rfl
  · cases answer <;> rfl

theorem closed_conns_of_ne {fd' : Int} (ne : fd' ≠ fd) :
    (n.closed fd answer).conns fd' = n.conns fd' := by
  unfold closed close
  split
  · rfl
  · cases answer with
    | done => exact Function.update_of_ne ne _ _
    | kept => rfl
    | lost => exact Function.update_of_ne ne _ _

theorem closed_conns_self (releases : answer.releases = true) :
    (n.closed fd answer).conns fd = none := by
  unfold closed close
  split
  · exact n.conns_neg fd ‹_›
  · cases answer with
    | done => exact Function.update_self _ _ _
    | kept => cases releases
    | lost => exact Function.update_self _ _ _

theorem conns_of_closed {fd' : Int} {k : Nat} (open_ : (n.closed fd answer).conns fd' = some k) :
    n.conns fd' = some k := by
  rcases eq_or_ne fd' fd with rfl | ne
  · cases releases : answer.releases with
    | true =>
        rw [closed_conns_self _ _ _ releases] at open_
        cases open_
    | false =>
        unfold closed close at open_
        split at open_
        · exact open_
        · cases answer with
          | done => cases releases
          | kept => exact open_
          | lost => cases releases
  · rwa [closed_conns_of_ne _ _ _ ne] at open_

theorem closed_kept : (n.closed fd .kept).conns = n.conns := by
  unfold closed close
  split <;> rfl

@[simp] theorem openConn_conns_self (nonneg : 0 ≤ fd) :
    (n.openConn fd nonneg).conns fd = some n.opened := Function.update_self _ _ _

theorem openConn_conns_of_ne (nonneg : 0 ≤ fd) {fd' : Int} (ne : fd' ≠ fd) :
    (n.openConn fd nonneg).conns fd' = n.conns fd' := Function.update_of_ne ne _ _

/-! ## Descriptors on loan -/

/-- In `n'` the descriptor `fd` is on loan from `n`: once it has been closed, the table is that of `n`
again. A negative `fd` takes nothing. -/
structure Lends (n : Net) (fd : Int) (n' : Net) : Prop where
  transfers : n'.transfers = n.transfers
  restores : ∀ later : Net, ∀ answer : CloseAnswer, later.conns = n'.conns →
    answer.releases = true → (later.closed fd answer).conns = n.conns

theorem lends_negative {n : Net} {fd : Int} (negative : fd < 0) : Lends n fd n where
  transfers := rfl
  restores later answer same _ := by
    unfold closed close
    rw [if_pos negative]
    exact same

theorem lends_openConn {n : Net} {fd : Int} (nonneg : 0 ≤ fd) (unused : n.held fd = false) :
    Lends n fd (n.openConn fd nonneg) where
  transfers := rfl
  restores later answer same releases := by
    funext fd'
    rcases eq_or_ne fd' fd with rfl | ne
    · rw [closed_conns_self _ _ _ releases]
      exact (Option.not_isSome_iff_eq_none.mp (Bool.not_eq_true _ ▸ unused)).symm
    · rw [closed_conns_of_ne _ _ _ ne, same, openConn_conns_of_ne _ _ _ ne]

/-! ## Connections that are spared -/

def closesOf (n : Net) (k : Nat) : List CloseCall := n.closes.filter (·.conn == some k)

/-- From `n` to `n'`, no connections have been used but those that are `mine` and new ones. -/
structure Spares (mine : Nat → Prop) (n n' : Net) : Prop where
  opened : n.opened ≤ n'.opened
  conns : ∀ k, k < n.opened → ¬mine k → ∀ fd, n'.conns fd = some k ↔ n.conns fd = some k
  log : ∀ k, k < n.opened → ¬mine k → n'.log k = n.log k
  closes : ∀ k, k < n.opened → ¬mine k → n'.closesOf k = n.closesOf k

section
variable {mine mine' : Nat → Prop} {n n' n'' : Net} {fd : Int}

theorem Spares.refl (mine : Nat → Prop) (n : Net) : Spares mine n n :=
  ⟨le_rfl, fun _ _ _ _ => Iff.rfl, fun _ _ _ => rfl, fun _ _ _ => rfl⟩

theorem Spares.trans (first : Spares mine n n') (second : Spares mine' n' n'')
    (within : ∀ k, k < n.opened → mine' k → mine k) : Spares mine n n'' := by
  have still : ∀ k, k < n.opened → ¬mine k → k < n'.opened ∧ ¬mine' k := fun k old other =>
    ⟨old.trans_le first.opened, fun used => other (within k old used)⟩
  constructor
  · exact first.opened.trans second.opened
  · intro k old other fd
    obtain ⟨old', other'⟩ := still k old other
    exact (second.conns k old' other' fd).trans (first.conns k old other fd)
  · intro k old other
    obtain ⟨old', other'⟩ := still k old other
    exact (second.log k old' other').trans (first.log k old other)
  · intro k old other
    obtain ⟨old', other'⟩ := still k old other
    exact (second.closes k old' other').trans (first.closes k old other)

theorem Spares.mono (spares : Spares mine n n') (weaker : ∀ k, k < n.opened → mine k → mine' k) :
    Spares mine' n n' :=
  ⟨spares.opened, fun k old other => spares.conns k old fun used => other (weaker k old used),
    fun k old other => spares.log k old fun used => other (weaker k old used),
    fun k old other => spares.closes k old fun used => other (weaker k old used)⟩

theorem Spares.conns_kept (spares : Spares (fun _ => False) n n') (fd : Int) (k : Nat)
    (now : n.conns fd = some k) : n'.conns fd = some k :=
  (spares.conns k (n.conns_lt fd k now) not_false fd).mpr now

theorem openConn_spares (mine : Nat → Prop) (nonneg : 0 ≤ fd) (unused : n.held fd = false) :
    Spares mine n (n.openConn fd nonneg) := by
  refine ⟨Nat.le_succ _, fun k old _ fd' => ?_, fun _ _ _ => rfl, fun _ _ _ => rfl⟩
  rcases eq_or_ne fd' fd with rfl | ne
  · rw [openConn_conns_self]
    refine iff_of_false (fun same => ?_) fun current => ?_
    · exact old.ne' (Option.some.inj same)
    · rw [held, current] at unused
      cases unused
  · rw [openConn_conns_of_ne _ _ _ ne]

theorem closed_spares (n : Net) (fd : Int) (answer : CloseAnswer) :
    Spares (fun k => n.conns fd = some k) n (n.closed fd answer) := by
  refine ⟨(closed_opened n fd answer).ge, fun k _ other fd' => ?_, fun k _ _ => ?_,
    fun k _ other => ?_⟩
  · constructor
    · exact conns_of_closed n fd answer
    · intro current
      rcases eq_or_ne fd' fd with rfl | ne
      · exact absurd current other
      · rwa [closed_conns_of_ne _ _ _ ne]
  · exact log_congr (closed_transfers n fd answer) k
  · rw [closesOf, closesOf, closed_closes, List.filter_append, List.filter_singleton]
    have same : (n.conns fd == some k) = false := beq_false_of_ne other
    rw [same, cond_false, List.append_nil]

theorem transfer_spares (n : Net) (fd : Int) (data : Nat → UInt8) (length : Nat)
    (calls : List SendCall) :
    Spares (fun k => n.conns fd = some k) n (n.transfer fd data length calls) := by
  refine ⟨le_rfl, fun _ _ _ _ => Iff.rfl, fun k _ other => ?_, fun _ _ _ => rfl⟩
  rw [log_transfer, if_neg other, List.append_nil]

end

end Net

def sendResult (fd : Int) (requested : Nat) (answer : Int) : Int :=
  if fd < 0 ∨ answer < 0 then -1 else min answer requested

/-- A read that fails comes with what `errno` says where the program looks at it: whether the read
would have blocked. -/
inductive RecvAnswer where
  | data (bytes : List UInt8)
  | closed
  | failed (wouldBlock : Bool)
deriving DecidableEq, Repr

/-- What `recv` delivers into `length` bytes: never an empty read but at the end of the stream. -/
def recvResult (fd : Int) (length : Nat) (answer : RecvAnswer) : RecvAnswer :=
  if fd < 0 then .failed false
  else
    match answer with
    | .data bytes => if bytes.take length = [] then .closed else .data (bytes.take length)
    | .closed => .closed
    | .failed wouldBlock => .failed wouldBlock

theorem recvResult_negative {fd : Int} (negative : fd < 0) (length : Nat) (answer : RecvAnswer) :
    recvResult fd length answer = .failed false := if_pos negative

theorem recvResult_length {fd : Int} {length : Nat} {answer : RecvAnswer} {bytes : List UInt8}
    (data : recvResult fd length answer = .data bytes) :
    0 ≤ fd ∧ 0 < bytes.length ∧ bytes.length ≤ length := by
  unfold recvResult at data
  split at data
  · cases data
  rename_i open_
  cases answer with
  | closed => cases data
  | failed wouldBlock => cases data
  | data given =>
      simp only at data
      split at data
      · cases data
      · rename_i some
        cases data
        refine ⟨Int.not_lt.mp open_, List.length_pos_iff.mpr some, ?_⟩
        rw [List.length_take]
        exact Nat.min_le_left ..

theorem sendResult_le (fd : Int) (requested : Nat) (answer : Int) :
    (sendResult fd requested answer).toNat ≤ requested := by
  unfold sendResult
  split
  · exact Nat.zero_le _
  · omega

end Dpubsub.Lib
