import Mathlib.Logic.Basic
import Mathlib.Tactic.Push

/-!
# Systems of several parties

An event is a move of one of the parties. `enabled` says which events may happen in a state, and
`next` what the state is afterwards. A run is any list of events each of which is enabled when it
happens, in whatever order the parties take their turns.
-/

namespace Dpubsub.Lib

structure System (σ ε : Type) where
  enabled : σ → ε → Prop
  next : σ → ε → σ

namespace System
variable {σ ε : Type} {sys : System σ ε}

inductive Run (sys : System σ ε) : σ → List ε → σ → Prop where
  | nil (s) : Run sys s [] s
  | cons {s e events s'} (can : sys.enabled s e) (rest : Run sys (sys.next s e) events s') :
      Run sys s (e :: events) s'

def restrict (sys : System σ ε) (allowed : ε → Prop) : System σ ε where
  enabled s e := sys.enabled s e ∧ allowed e
  next := sys.next

def Halted (sys : System σ ε) (s : σ) : Prop := ∀ e, ¬sys.enabled s e

section
variable {s s' s'' : σ} {e : ε} {events last : List ε} {allowed : ε → Prop} {I : σ → Prop}
  {measure : σ → Nat}

theorem Run.keeps (run : sys.Run s events s') (start : I s)
    (step : ∀ s e, I s → sys.enabled s e → I (sys.next s e)) : I s' := by
  induction run with
  | nil s => exact start
  | cons can _ ih => exact ih (step _ _ start can)

theorem run_restrict : (sys.restrict allowed).Run s events s' ↔
    sys.Run s events s' ∧ ∀ e ∈ events, allowed e := by
  constructor
  · intro run
    induction run with
    | nil s => exact ⟨.nil s, by simp⟩
    | cons can _ ih => exact ⟨.cons can.1 ih.1, by simpa using ⟨can.2, ih.2⟩⟩
  · rintro ⟨run, all⟩
    induction run with
    | nil s => exact .nil s
    | cons can _ ih =>
        exact .cons ⟨can, all _ (by simp)⟩ (ih fun e member => all e (by simp [member]))

/-- A measure that no event raises bounds the number of those that lower it. -/
theorem Run.count_le (lowering : ε → Bool) (run : sys.Run s events s') (start : I s)
    (step : ∀ s e, I s → sys.enabled s e → I (sys.next s e))
    (lowers : ∀ s e, I s → sys.enabled s e → if lowering e then measure (sys.next s e) < measure s
      else measure (sys.next s e) ≤ measure s) :
    events.countP lowering + measure s' ≤ measure s := by
  induction run with
  | nil s => exact Nat.le_of_eq (Nat.zero_add _)
  | cons can _ ih =>
      have rest := ih (step _ _ start can)
      have lower := lowers _ _ start can
      rw [List.countP_cons]
      split at lower <;> rename_i counted
      · rw [if_pos counted]
        omega
      · rw [if_neg counted]
        omega

/-- Where every event lowers the measure, the parties come to a halt whatever they do. -/
theorem exists_halted (start : I s) (step : ∀ s e, I s → sys.enabled s e → I (sys.next s e))
    (lowers : ∀ s e, I s → sys.enabled s e → measure (sys.next s e) < measure s) :
    ∃ events s', sys.Run s events s' ∧ sys.Halted s' := by
  induction bound : measure s using Nat.strongRecOn generalizing s with
  | ind n ih =>
      by_cases halted : sys.Halted s
      · exact ⟨[], s, .nil s, halted⟩
      · unfold Halted at halted
        push Not at halted
        obtain ⟨e, can⟩ := halted
        obtain ⟨events, s', run, halted⟩ :=
          ih _ (bound ▸ lowers s e start can) (step s e start can) rfl
        exact ⟨e :: events, s', .cons can run, halted⟩

end
end System
end Dpubsub.Lib
