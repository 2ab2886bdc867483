import Mathlib.Data.List.Basic

/-!
# Decoders that take a value off the front of a list

`Reads` says that a decoder accepts exactly the encodings of the valid values, whatever follows
them, and leaves what follows. It is kept by sequencing and by repetition.
-/

namespace Dpubsub.Lib

def Decoder (β α : Type) := List β → Option (α × List β)

namespace Decoder
variable {α β γ : Type}

instance : Monad (Decoder β) where
  pure a := fun input => some (a, input)
  bind first next := fun input => (first input).bind fun (a, rest) => next a rest

def fail : Decoder β α := fun _ => none

def item : Decoder β β
  | [] => none
  | b :: rest => some (b, rest)

def count (n : Nat) : Decoder β (List β) := fun input =>
  if n ≤ input.length then some (input.take n, input.drop n) else none

def times (take : Decoder β α) : Nat → Decoder β (List α)
  | 0 => pure []
  | n + 1 => do
      let a ← take
      let others ← times take n
      return a :: others

/-- Values up to the end of the input, at most `fuel` of them. -/
def all (take : Decoder β α) : Nat → List β → Option (List α)
  | _, [] => some []
  | 0, _ :: _ => none
  | fuel + 1, b :: input => (take (b :: input)).bind fun (a, rest) => (all take fuel rest).map (a :: ·)

def complete (take : Decoder β α) (input : List β) : Option α :=
  match take input with
  | some (a, []) => some a
  | _ => none

def Reads (take : Decoder β α) (encode : α → List β) (valid : α → Prop) : Prop :=
  ∀ input a rest, take input = some (a, rest) ↔ valid a ∧ input = encode a ++ rest

variable {first take : Decoder β α} {next : α → Decoder β γ} {encode : α → List β}
  {valid : α → Prop}

theorem bind_eq_some {input rest : List β} {c : γ} : (first >>= next) input = some (c, rest) ↔
    ∃ a middle, first input = some (a, middle) ∧ next a middle = some (c, rest) := by
  change (first input).bind _ = _ ↔ _
  simp [Option.bind_eq_some_iff]

theorem Reads.congr {encode' : α → List β} {valid' : α → Prop} (reads : take.Reads encode valid)
    (same : ∀ a, valid' a ↔ valid a) (bytes : ∀ a, valid a → encode' a = encode a) :
    take.Reads encode' valid' := by
  intro input a rest
  rw [reads, same]
  refine and_congr_right fun ok => ?_
  rw [bytes a ok]

theorem pure_reads (a : α) : (pure a : Decoder β α).Reads (fun _ => []) (· = a) := by
  intro input b rest
  change some (a, input) = some (b, rest) ↔ _
  simp [eq_comm]

theorem item_reads : (item : Decoder β β).Reads (fun b => [b]) fun _ => True := by
  intro input b rest
  cases input with
  | nil => simp [item]
  | cons x input => simp [item]

theorem count_reads (n : Nat) : (count n : Decoder β (List β)).Reads id (·.length = n) := by
  intro input taken rest
  unfold count
  constructor
  · intro counted
    split at counted
    · cases counted
      exact ⟨List.length_take_of_le ‹_›, (List.take_append_drop n input).symm⟩
    · cases counted
  · rintro ⟨rfl, rfl⟩
    simp

theorem Reads.bind {encode' : γ → List β} {valid' : α → γ → Prop} (key : γ → α)
    (firstReads : first.Reads encode valid) (nextReads : ∀ a, (next a).Reads encode' (valid' a))
    (keyed : ∀ a c, valid' a c → key c = a) :
    (first >>= next).Reads (fun c => encode (key c) ++ encode' c)
      fun c => valid (key c) ∧ valid' (key c) c := by
  intro input c rest
  rw [bind_eq_some]
  constructor
  · rintro ⟨a, middle, read, continued⟩
    obtain ⟨ok, rfl⟩ := (firstReads _ _ _).mp read
    obtain ⟨ok', rfl⟩ := (nextReads a _ _ _).mp continued
    obtain rfl := keyed a c ok'
    exact ⟨⟨ok, ok'⟩, (List.append_assoc ..).symm⟩
  · rintro ⟨⟨ok, ok'⟩, rfl⟩
    exact ⟨key c, encode' c ++ rest, (firstReads _ _ _).mpr ⟨ok, List.append_assoc ..⟩,
      (nextReads _ _ _ _).mpr ⟨ok', rfl⟩⟩

theorem Reads.times (reads : take.Reads encode valid) (n : Nat) :
    (take.times n).Reads (·.flatMap encode) fun values =>
      values.length = n ∧ ∀ a ∈ values, valid a := by
  induction n with
  | zero =>
      refine (pure_reads []).congr (fun values => ?_) ?_
      · rw [List.length_eq_zero_iff]
        exact and_iff_left_of_imp fun nil => by simp [nil]
      · rintro _ rfl
        rfl
  | succ n ih =>
      intro input values rest
      simp only [Decoder.times, bind_eq_some]
      constructor
      · rintro ⟨a, middle, read, others, last, continued, done⟩
        obtain ⟨ok, rfl⟩ := (reads _ _ _).mp read
        obtain ⟨⟨length, okOthers⟩, rfl⟩ := (ih _ _ _).mp continued
        cases done
        simpa [length, ok] using okOthers
      · rintro ⟨⟨length, ok⟩, rfl⟩
        cases values with
        | nil => cases length
        | cons a others =>
            refine ⟨a, others.flatMap encode ++ rest, (reads _ _ _).mpr ⟨ok a (by simp), ?_⟩,
              others, rest, (ih _ _ _).mpr ⟨⟨?_, ?_⟩, rfl⟩, rfl⟩
            · simp
            · simpa using length
            · exact fun b member => ok b (by simp [member])

theorem Reads.all (reads : take.Reads encode valid) (nonempty : ∀ a, encode a ≠ []) {fuel : Nat}
    {input : List β} (enough : input.length ≤ fuel) (values : List α) :
    take.all fuel input = some values ↔ (∀ a ∈ values, valid a) ∧ input = values.flatMap encode := by
  induction fuel generalizing input values with
  | zero =>
      obtain rfl : input = [] := List.length_eq_zero_iff.mp (Nat.le_zero.mp enough)
      cases values with
      | nil => simp [Decoder.all]
      | cons a others => simp [Decoder.all, nonempty a]
  | succ fuel ih =>
      cases input with
      | nil =>
          cases values with
          | nil => simp [Decoder.all]
          | cons a others => simp [Decoder.all, nonempty a]
      | cons b input =>
          have shorter : ∀ a rest, b :: input = encode a ++ rest → rest.length ≤ fuel := by
            intro a rest split
            have positive := List.length_pos_iff.mpr (nonempty a)
            have total := congrArg List.length split
            simp only [List.length_cons, List.length_append] at total enough
            omega
          simp only [Decoder.all, Option.bind_eq_some_iff, Option.map_eq_some_iff, Prod.exists]
          constructor
          · rintro ⟨a, rest, read, others, continued, rfl⟩
            obtain ⟨ok, split⟩ := (reads _ _ _).mp read
            obtain ⟨okOthers, rfl⟩ := (ih (shorter a rest split) others).mp continued
            simpa [ok, split] using okOthers
          · rintro ⟨ok, split⟩
            cases values with
            | nil => cases split
            | cons a others =>
                rw [List.flatMap_cons] at split
                have okOthers : ∀ c ∈ others, valid c := fun c member => ok c (by simp [member])
                exact ⟨a, others.flatMap encode, (reads _ _ _).mpr ⟨ok a (by simp), split⟩,
                  others, (ih (shorter a _ split) others).mpr ⟨okOthers, rfl⟩, rfl⟩

/-- Reading back what was written one value after the other, when each can be read back. -/
theorem all_flatMap (readsBack : ∀ a rest, valid a → take (encode a ++ rest) = some (a, rest))
    (nonempty : ∀ a, encode a ≠ []) {values : List α} (ok : ∀ a ∈ values, valid a) {fuel : Nat}
    (enough : (values.flatMap encode).length ≤ fuel) :
    take.all fuel (values.flatMap encode) = some values := by
  induction values generalizing fuel with
  | nil => simp [Decoder.all]
  | cons a others ih =>
      obtain ⟨b, bytes, first⟩ := List.exists_cons_of_ne_nil (nonempty a)
      have read := readsBack a (others.flatMap encode) (ok a (by simp))
      rw [List.flatMap_cons, List.length_append] at enough
      rw [List.flatMap_cons]
      rw [first] at enough read ⊢
      rw [List.length_cons] at enough
      cases fuel with
      | zero => omega
      | succ fuel =>
          rw [List.cons_append] at read ⊢
          have later : take.all fuel (others.flatMap encode) = some others :=
            ih (fun c member => ok c (by simp [member])) (by omega)
          simp only [Decoder.all, read, Option.bind_some, later, Option.map_some]

theorem Reads.complete (reads : take.Reads encode valid) (input : List β) (a : α) :
    take.complete input = some a ↔ valid a ∧ input = encode a := by
  have whole := reads input a []
  rw [List.append_nil] at whole
  rw [← whole, Decoder.complete]
  split
  · next b taken =>
      rw [taken, Option.some.injEq, Option.some.injEq, Prod.mk.injEq]
      exact (and_iff_left rfl).symm
  · next other => exact iff_of_false nofun (other a)

end Decoder
end Dpubsub.Lib
