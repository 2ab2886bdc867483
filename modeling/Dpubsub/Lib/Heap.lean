import Mathlib.Data.List.ReduceOption
import Mathlib.Logic.Function.Basic
import Dpubsub.Lib.Prog
import Dpubsub.Lib.CInt

/-!
# The heap of a C program

Blocks are never given the same address twice, so a pointer to a freed block stays recognisable.
Freeing or reading anything but a live block is undefined.
-/

namespace Dpubsub.Lib

abbrev Ptr := Option Nat

structure Heap where
  blocks : Nat → Option (List UInt8)
  next : Nat
  unused : ∀ a, next ≤ a → blocks a = none

namespace Heap

def empty : Heap := ⟨fun _ => none, 0, fun _ _ => rfl⟩

def live (h : Heap) (a : Nat) : Bool := (h.blocks a).isSome

def capacity (h : Heap) (a : Nat) : Nat := ((h.blocks a).map List.length).getD 0

def alloc (h : Heap) (bytes : List UInt8) : Heap where
  blocks := Function.update h.blocks h.next (some bytes)
  next := h.next + 1
  unused a le := by
    rw [Function.update_of_ne (by omega)]
    exact h.unused a (by omega)

def release (h : Heap) (a : Nat) : Heap where
  blocks := Function.update h.blocks a none
  next := h.next
  unused b le := by
    rcases eq_or_ne b a with rfl | ne
    · simp
    · rw [Function.update_of_ne ne]
      exact h.unused b le

def overwrite (h : Heap) (a : Nat) (bytes : List UInt8) : Heap where
  blocks := Function.update h.blocks a ((h.blocks a).map fun old => bytes ++ old.drop bytes.length)
  next := h.next
  unused b le := by
    rcases eq_or_ne b a with rfl | ne
    · simp [h.unused b le]
    · rw [Function.update_of_ne ne]
      exact h.unused b le

def store (h : Heap) (a offset : Nat) (bytes : List UInt8) : Heap where
  blocks := Function.update h.blocks a ((h.blocks a).map fun old =>
    old.take offset ++ bytes ++ old.drop (offset + bytes.length))
  next := h.next
  unused b le := by
    rcases eq_or_ne b a with rfl | ne
    · simp [h.unused b le]
    · rw [Function.update_of_ne ne]
      exact h.unused b le

def liveOnly (h : Heap) (p : Ptr) : Ptr := p.filter h.live

/-- The string a pointer leads to, when it can be read. -/
def string? (h : Heap) (p : Ptr) : Option CString := do
  let bytes ← h.blocks (← p)
  CString.ofBytes bytes

theorem live_next (h : Heap) : h.live h.next = false := by
  simp [live, h.unused h.next le_rfl]

theorem live_alloc (h : Heap) (bytes : List UInt8) (a : Nat) :
    (h.alloc bytes).live a = (decide (a = h.next) || h.live a) := by
  rcases eq_or_ne a h.next with rfl | ne
  · simp [live, alloc]
  · simp [live, alloc, ne]

theorem live_release (h : Heap) (a b : Nat) :
    (h.release a).live b = (decide (b ≠ a) && h.live b) := by
  rcases eq_or_ne b a with rfl | ne
  · simp [live, release]
  · simp [live, release, ne]

theorem live_overwrite (h : Heap) (a b : Nat) (bytes : List UInt8) :
    (h.overwrite a bytes).live b = h.live b := by
  rcases eq_or_ne b a with rfl | ne
  · simp [live, overwrite]
  · simp [live, overwrite, ne]

theorem liveOnly_live {h : Heap} {p : Ptr} (live : ∀ a, p = some a → h.live a = true) :
    h.liveOnly p = p := by
  cases p with
  | none => rfl
  | some a => rw [liveOnly, Option.filter_some, live a rfl, if_pos rfl]

theorem liveOnly_congr {h h' : Heap} {p : Ptr}
    (same : ∀ a, p = some a → h'.blocks a = h.blocks a) : h'.liveOnly p = h.liveOnly p := by
  cases p with
  | none => rfl
  | some a => rw [liveOnly, liveOnly, Option.filter_some, Option.filter_some, live, live, same a rfl]

theorem liveOnly_eq_some {h : Heap} {p : Ptr} {a : Nat} :
    h.liveOnly p = some a ↔ p = some a ∧ h.live a = true := Option.filter_eq_some_iff

theorem lt_next_of_live {h : Heap} {a : Nat} (l : h.live a = true) : a < h.next := by
  by_contra beyond
  simp [live, h.unused a (by omega)] at l

theorem string?_alloc_next (h : Heap) (s : CString) :
    (h.alloc (s.bytes ++ [0])).string? (some h.next) = some s := by
  have block : (h.alloc (s.bytes ++ [0])).blocks h.next = some (s.bytes ++ [0]) :=
    Function.update_self _ _ _
  simp [string?, block, CString.ofBytes_terminated]

theorem string?_congr {h h' : Heap} {p : Ptr}
    (same : ∀ a, p = some a → h'.blocks a = h.blocks a) : h'.string? p = h.string? p := by
  cases p with
  | none => rfl
  | some a => simp only [string?, Option.bind_eq_bind, Option.bind_some, same a rfl]

theorem string?_alloc_of_ne (h : Heap) (bytes : List UInt8) {p : Ptr} (old : p ≠ some h.next) :
    (h.alloc bytes).string? p = h.string? p := by
  refine string?_congr ?_
  rintro a rfl
  exact Function.update_of_ne (fun same => old (congrArg some same)) _ _

theorem string?_alloc_of_lt (h : Heap) (bytes : List UInt8) {a : Nat} (old : a < h.next) :
    (h.alloc bytes).string? (some a) = h.string? (some a) :=
  string?_alloc_of_ne h bytes fun same => old.ne (Option.some.inj same)

theorem string?_alloc_readable {h : Heap} {s : CString} {p : Ptr} :
    (h.alloc (s.bytes ++ [0])).string? p ≠ none ↔ p = some h.next ∨ h.string? p ≠ none := by
  by_cases new : p = some h.next
  · subst new
    rw [string?_alloc_next]
    exact iff_of_true (Option.some_ne_none s) (Or.inl rfl)
  · rw [string?_alloc_of_ne h _ new]
    exact (or_iff_right new).symm

theorem ne_none_of_readable {h : Heap} {p : Ptr} (readable : h.string? p ≠ none) : p ≠ none := by
  rintro rfl
  exact readable rfl

theorem live_of_readable {h : Heap} {p : Ptr} (readable : h.string? p ≠ none) :
    ∀ a, p = some a → h.live a = true := by
  rintro a rfl
  cases block : h.blocks a with
  | none => simp [string?, block] at readable
  | some bytes => simp [live, block]

theorem capacity_alloc_next (h : Heap) (bytes : List UInt8) :
    (h.alloc bytes).capacity h.next = bytes.length := by
  simp [capacity, alloc]

theorem capacity_release_of_ne (h : Heap) {a b : Nat} (ne : b ≠ a) :
    (h.release a).capacity b = h.capacity b := by
  simp [capacity, release, ne]

theorem capacity_release_self (h : Heap) (a : Nat) : (h.release a).capacity a = 0 := by
  simp [capacity, release]

theorem capacity_overwrite (h : Heap) (a b : Nat) {bytes : List UInt8}
    (fits : bytes.length ≤ h.capacity a) : (h.overwrite a bytes).capacity b = h.capacity b := by
  rcases eq_or_ne b a with rfl | ne
  · cases block : h.blocks b with
    | none => simp [capacity, overwrite, block]
    | some old =>
        simp only [capacity, block, Option.map_some, Option.getD_some] at fits
        simp [capacity, overwrite, block]
        omega
  · simp [capacity, overwrite, ne]

theorem blocks_alloc_next (h : Heap) (bytes : List UInt8) :
    (h.alloc bytes).blocks h.next = some bytes := Function.update_self _ _ _

theorem blocks_store {h : Heap} {a : Nat} {old : List UInt8} (block : h.blocks a = some old)
    (offset : Nat) (bytes : List UInt8) : (h.store a offset bytes).blocks a =
      some (old.take offset ++ bytes ++ old.drop (offset + bytes.length)) := by
  simp [store, block]

theorem release_restores {h h' : Heap} {a : Nat} (foreign : h.blocks a = none)
    (others : ∀ b, b ≠ a → h'.blocks b = h.blocks b) : (h'.release a).blocks = h.blocks := by
  funext b
  rcases eq_or_ne b a with rfl | ne
  · rw [foreign]
    exact Function.update_self _ _ _
  · rw [← others b ne]
    exact Function.update_of_ne ne _ _

end Heap

/-! ## The calls -/

/-- `malloc`, which the environment may refuse. The contents are not specified; nothing reads them
before writing. -/
def malloc (size : Nat) (granted : Bool) : Prog Heap Ptr := fun h =>
  if granted then (.ret (some h.next), h.alloc (List.replicate size 0)) else (.ret none, h)

def free (p : Ptr) : Prog Heap Unit := fun h =>
  match p with
  | none => (.ret (), h)
  | some a => if h.live a then (.ret (), h.release a) else (.undefined, h)

def released (h : Heap) (p : Ptr) : Heap := p.elim h h.release

def resized (bytes : List UInt8) (size : Nat) : List UInt8 :=
  bytes.take size ++ List.replicate (size - bytes.length) 0

theorem resized_length (bytes : List UInt8) (size : Nat) : (resized bytes size).length = size := by
  rw [resized, List.length_append, List.length_take, List.length_replicate]
  omega

theorem resized_take (bytes : List UInt8) {n size : Nat} (kept : n ≤ bytes.length)
    (fits : n ≤ size) : (resized bytes size).take n = bytes.take n := by
  have inside : n ≤ (bytes.take size).length := by
    rw [List.length_take]
    omega
  rw [resized, List.take_append_of_le_length inside, List.take_take, min_eq_left fits]

/-- `realloc` moves the block whenever it is granted. -/
def realloc (p : Ptr) (size : Nat) (granted : Bool) : Prog Heap Ptr := fun h =>
  match p with
  | none => malloc size granted h
  | some a =>
      match h.blocks a with
      | none => (.undefined, h)
      | some old =>
          if granted then (.ret (some h.next), (h.release a).alloc (resized old size))
          else (.ret none, h)

def strdup (p : Ptr) (granted : Bool) : Prog Heap Ptr := fun h =>
  match h.string? p with
  | none => (.undefined, h)
  | some s =>
      if granted then (.ret (some h.next), h.alloc (s.bytes ++ [0])) else (.ret none, h)

/-- The string argument a callee reads, which checks for NULL first. -/
def stringArg (p : Ptr) : Prog Heap (Option CString) := fun h =>
  match p, h.string? p with
  | none, _ => (.ret none, h)
  | some _, some s => (.ret (some s), h)
  | some _, none => (.undefined, h)

section
variable {h : Heap} {p : Ptr} {s : CString}

theorem malloc_granted (size : Nat) :
    malloc size true h = (.ret (some h.next), h.alloc (List.replicate size 0)) := rfl

theorem malloc_refused (size : Nat) : malloc size false h = (.ret none, h) := rfl

theorem strdup_unreadable (unreadable : h.string? p = none) (granted : Bool) :
    strdup p granted h = (.undefined, h) := by
  simp only [strdup, unreadable]

theorem strdup_granted (readable : h.string? p = some s) :
    strdup p true h = (.ret (some h.next), h.alloc (s.bytes ++ [0])) := by
  simp only [strdup, readable, if_true]

theorem strdup_refused (readable : h.string? p = some s) : strdup p false h = (.ret none, h) := by
  simp [strdup, readable]

theorem stringArg_readable (readable : h.string? p = some s) :
    stringArg p h = (.ret (some s), h) := by
  cases p with
  | none => cases readable
  | some a => simp only [stringArg, readable]

theorem realloc_granted {a : Nat} {old : List UInt8} (block : h.blocks a = some old) (size : Nat) :
    realloc (some a) size true h =
      (.ret (some h.next), (h.release a).alloc (resized old size)) := by
  simp only [realloc, block, if_true]

theorem free_live {a : Nat} (live : h.live a = true) : free (some a) h = (.ret (), h.release a) :=
  if_pos live

theorem free_dead {a : Nat} (dead : h.live a = false) : free (some a) h = (.undefined, h) :=
  if_neg (Bool.not_eq_true _ ▸ dead)

theorem free_iff {h' : Heap} : free p h = (.ret (), h') ↔
    (∀ a, p = some a → h.live a = true) ∧ h' = released h p := by
  cases p with
  | none =>
      constructor
      · rintro ⟨⟩
        exact ⟨by simp, rfl⟩
      · rintro ⟨-, rfl⟩
        rfl
  | some a =>
      cases live : h.live a with
      | true =>
          rw [free_live live]
          constructor
          · rintro ⟨⟩
            exact ⟨fun b same => Option.some.inj same ▸ live, rfl⟩
          · rintro ⟨-, rfl⟩
            rfl
      | false =>
          rw [free_dead live]
          constructor
          · rintro ⟨⟩
          · rintro ⟨alive, -⟩
            cases live.symm.trans (alive a rfl)

theorem live_released (h : Heap) (p : Ptr) (a : Nat) :
    (released h p).live a = (decide (p ≠ some a) && h.live a) := by
  cases p with
  | none => rfl
  | some b =>
      rw [released, Option.elim_some, Heap.live_release]
      exact congrArg (· && h.live a) (decide_eq_decide.mpr (by simp [eq_comm]))

theorem released_next (h : Heap) (p : Ptr) : (released h p).next = h.next := by
  cases p with
  | none => rfl
  | some a => rfl

theorem released_blocks_of_ne {b : Nat} (ne : some b ≠ p) :
    (released h p).blocks b = h.blocks b := by
  cases p with
  | none => rfl
  | some a => exact Function.update_of_ne (fun same => ne (congrArg some same)) _ _

theorem string?_released_of_ne {q : Ptr} (ne : q ≠ p) :
    (released h p).string? q = h.string? q := by
  refine Heap.string?_congr ?_
  rintro b rfl
  exact released_blocks_of_ne ne

theorem string?_released_self (h : Heap) (p : Ptr) : (released h p).string? p = none := by
  cases p with
  | none => rfl
  | some a =>
      have gone : (released h (some a)).blocks a = none := Function.update_self _ _ _
      simp [Heap.string?, gone]

theorem string?_released {q : Ptr} :
    (released h p).string? q ≠ none ↔ q ≠ p ∧ h.string? q ≠ none := by
  by_cases same : q = p
  · subst same
    rw [string?_released_self]
    exact iff_of_false (not_not.mpr rfl) fun both => both.1 rfl
  · rw [string?_released_of_ne same]
    exact (and_iff_right same).symm

end

/-! ## Ownership -/

/-- The pointers lead to live blocks, each to another, and to all live blocks that are `mine`. -/
structure Owns (mine : Nat → Prop) (h : Heap) (ps : List Ptr) : Prop where
  live : ∀ a, some a ∈ ps → h.live a = true
  alone : ps.reduceOption.Nodup
  all : ∀ a, mine a → h.live a = true → some a ∈ ps

section
variable {mine : Nat → Prop} {h : Heap} {p : Ptr} {ps qs : List Ptr} {a : Nat}

theorem Owns.perm (owns : Owns mine h ps) (same : ps.Perm qs) : Owns mine h qs where
  live a member := owns.live a (same.mem_iff.mpr member)
  alone := (same.filterMap id).nodup_iff.mp owns.alone
  all a isMine live := same.mem_iff.mp (owns.all a isMine live)

theorem Owns.null (owns : Owns mine h ps) : Owns mine h (none :: ps) where
  live a member := owns.live a (by simpa using member)
  alone := owns.alone
  all a isMine live := List.mem_cons_of_mem _ (owns.all a isMine live)

theorem Owns.of_null (owns : Owns mine h (none :: ps)) : Owns mine h ps where
  live a member := owns.live a (List.mem_cons_of_mem _ member)
  alone := owns.alone
  all a isMine live := by simpa using owns.all a isMine live

theorem Owns.alloc (owns : Owns mine h ps) (bytes : List UInt8) :
    Owns mine (h.alloc bytes) (some h.next :: ps) where
  live a member := by
    rw [Heap.live_alloc]
    rcases List.mem_cons.mp member with new | old
    · simp [Option.some.inj new]
    · simp [owns.live a old]
  alone := by
    rw [List.reduceOption_cons_of_some, List.nodup_cons]
    refine ⟨fun member => ?_, owns.alone⟩
    have live := owns.live h.next (List.reduceOption_mem_iff.mp member)
    rw [Heap.live_next] at live
    cases live
  all a isMine live := by
    rw [Heap.live_alloc, Bool.or_eq_true, decide_eq_true_eq] at live
    rcases live with rfl | old
    · exact List.mem_cons_self
    · exact List.mem_cons_of_mem _ (owns.all a isMine old)

theorem Owns.adopt (owns : Owns mine h ps) (live : h.live a = true) (foreign : some a ∉ ps) :
    Owns mine h (some a :: ps) where
  live b member := by
    rcases List.mem_cons.mp member with new | old
    · rw [Option.some.inj new]
      exact live
    · exact owns.live b old
  alone := by
    rw [List.reduceOption_cons_of_some, List.nodup_cons]
    exact ⟨fun member => foreign (List.reduceOption_mem_iff.mp member), owns.alone⟩
  all b isMine live := List.mem_cons_of_mem _ (owns.all b isMine live)

theorem Owns.release (owns : Owns mine h (some a :: ps)) : Owns mine (h.release a) ps := by
  have alone := owns.alone
  rw [List.reduceOption_cons_of_some, List.nodup_cons] at alone
  refine ⟨fun b member => ?_, alone.2, fun b isMine live => ?_⟩
  · rw [Heap.live_release, Bool.and_eq_true, decide_eq_true_eq]
    refine ⟨?_, owns.live b (List.mem_cons_of_mem _ member)⟩
    rintro rfl
    exact alone.1 (List.reduceOption_mem_iff.mpr member)
  · rw [Heap.live_release, Bool.and_eq_true, decide_eq_true_eq] at live
    rcases List.mem_cons.mp (owns.all b isMine live.2) with same | old
    · exact absurd (Option.some.inj same) live.1
    · exact old

structure Freed (p : Ptr) (h h' : Heap) : Prop where
  next : h'.next = h.next
  gone : ∀ a, p = some a → h'.live a = false
  others : ∀ a, some a ≠ p → h'.blocks a = h.blocks a

theorem freed_released (h : Heap) (p : Ptr) : Freed p h (released h p) where
  next := released_next h p
  gone a here := by rw [live_released, decide_eq_false (not_not.mpr here), Bool.false_and]
  others _ ne := released_blocks_of_ne ne

theorem Owns.first_live (owns : Owns mine h (p :: ps)) : ∀ a, p = some a → h.live a = true := by
  rintro a rfl
  exact owns.live a List.mem_cons_self

theorem Owns.released (owns : Owns mine h (p :: ps)) : Owns mine (Lib.released h p) ps := by
  cases p with
  | none => exact owns.of_null
  | some a => exact owns.release

theorem Owns.free (owns : Owns mine h (p :: ps)) :
    ∃ h', free p h = (.ret (), h') ∧ Owns mine h' ps ∧ Freed p h h' :=
  ⟨Lib.released h p, free_iff.mpr ⟨owns.first_live, rfl⟩, owns.released, freed_released h p⟩

theorem Owns.strdup (owns : Owns mine h ps) {s : CString} (readable : h.string? p = some s)
    (granted : Bool) : ∃ h', Lib.strdup p granted h =
      (.ret (if granted then some h.next else none), h') ∧
      Owns mine h' ((if granted then some h.next else none) :: ps) ∧
      ∀ a, a ≠ h.next → h'.blocks a = h.blocks a := by
  cases granted with
  | true =>
      refine ⟨_, strdup_granted readable, owns.alloc _, fun a ne => ?_⟩
      exact Function.update_of_ne ne _ _
  | false => exact ⟨h, strdup_refused readable, owns.null, fun _ _ => rfl⟩

theorem Owns.overwrite (owns : Owns mine h ps) (b : Nat) (bytes : List UInt8) :
    Owns mine (h.overwrite b bytes) ps where
  live a member := by
    rw [Heap.live_overwrite]
    exact owns.live a member
  alone := owns.alone
  all a isMine live := owns.all a isMine (by rwa [Heap.live_overwrite] at live)

theorem Owns.ne (owns : Owns mine h (p :: ps)) {b : Nat} (member : some b ∈ ps) : some b ≠ p := by
  rintro rfl
  have alone := owns.alone
  rw [List.reduceOption_cons_of_some, List.nodup_cons] at alone
  exact alone.1 (List.reduceOption_mem_iff.mpr member)

structure Copied (mine : Nat → Prop) (h : Heap) (ps : List Ptr) (s : Option CString) (q : Ptr)
    (h' : Heap) : Prop where
  owns : Owns mine h' (q :: ps)
  string : h'.string? q = s
  null : s = none → q = none
  next : h.next ≤ h'.next
  same : ∀ a, a < h.next → h'.blocks a = h.blocks a

theorem Owns.copiesNone (owns : Owns mine h ps) : Copied mine h ps none none h :=
  ⟨owns.null, rfl, fun _ => rfl, le_rfl, fun _ _ => rfl⟩

theorem Owns.copies (owns : Owns mine h ps) {s : CString} (readable : h.string? p = some s)
    (granted : Bool) : ∃ q h', Lib.strdup p granted h = (.ret q, h') ∧
      (q = none ↔ granted = false) ∧ Copied mine h ps (if granted then some s else none) q h' := by
  cases granted with
  | true =>
      refine ⟨_, _, strdup_granted readable, by simp, owns.alloc _, ?_, by simp, Nat.le_succ _, ?_⟩
      · exact Heap.string?_alloc_next h s
      · intro a old
        exact Function.update_of_ne old.ne _ _
  | false => exact ⟨none, h, strdup_refused readable, by simp, owns.copiesNone⟩

def KeptBut (p : Ptr) (h h' : Heap) : Prop :=
  ∀ a, a < h.next → some a ≠ p → h'.blocks a = h.blocks a

theorem keptBut_released (h : Heap) (p : Ptr) : KeptBut p h (released h p) :=
  fun a _ other => (freed_released h p).others a other

variable {h' : Heap} {q : Ptr} {s : Option CString}

theorem KeptBut.string (kept : KeptBut p h h') (other : q ≠ p) (readable : h.string? q ≠ none) :
    h'.string? q = h.string? q := by
  apply Heap.string?_congr
  rintro a rfl
  exact kept a (Heap.lt_next_of_live (Heap.live_of_readable readable a rfl)) other

theorem KeptBut.owned (kept : KeptBut p h h') (owns : Owns mine h (p :: ps)) (member : q ∈ ps)
    (readable : q ≠ none → h.string? q ≠ none) : h'.string? q = h.string? q := by
  cases q with
  | none => rfl
  | some a => exact kept.string (owns.ne member) (readable (Option.some_ne_none a))

theorem KeptBut.liveOnly (kept : KeptBut p h h') (owns : Owns mine h (p :: ps))
    (member : h.liveOnly q ∈ ps) (old : ∀ b, q = some b → b < h.next) :
    h'.liveOnly q = h.liveOnly q := by
  apply Heap.liveOnly_congr
  rintro b rfl
  apply kept b (old b rfl)
  rintro rfl
  have live : h.live b = true := owns.live b List.mem_cons_self
  rw [Heap.liveOnly_live fun a same => Option.some.inj same ▸ live] at member
  exact owns.ne member rfl

theorem Copied.keptBut (copied : Copied mine (Lib.released h p) ps s q h') : KeptBut p h h' := by
  intro a old other
  rw [← released_blocks_of_ne (h := h) other]
  exact copied.same a (by rwa [released_next])

theorem Copied.kept (copied : Copied mine h ps s q h') {r : Ptr}
    (readable : r ≠ none → h.string? r ≠ none) : h'.string? r = h.string? r := by
  apply Heap.string?_congr
  rintro a rfl
  have live := Heap.live_of_readable (readable (Option.some_ne_none a)) a rfl
  exact copied.same a (Heap.lt_next_of_live live)

theorem Copied.readable (copied : Copied mine h ps s q h') (present : q ≠ none) :
    h'.string? q ≠ none := by
  rw [copied.string]
  exact fun none => present (copied.null none)

end
end Dpubsub.Lib
