import Mathlib.Logic.Basic
import Mathlib.Data.List.Infix

/-!
# State-passing programs that may fail to return

`Prog σ α` is a program over a state `σ`. A call of it returns a value, waits for an answer of
its environment, or runs into behaviour the language leaves undefined; the state reached so far
is kept in all three cases. `Ends` is its logic of postconditions. `run` executes a list of calls
one after the other and stops at the first one that does not return.
-/

namespace Dpubsub.Lib

inductive Outcome (α : Type) where
  | ret (value : α)
  | pending
  | undefined
deriving DecidableEq, Repr

def Outcome.map {α β : Type} (f : α → β) : Outcome α → Outcome β
  | .ret a => .ret (f a)
  | .pending => .pending
  | .undefined => .undefined

def Prog (σ α : Type) := σ → Outcome α × σ

namespace Prog
variable {σ τ α β ι : Type}

protected def bind (m : Prog σ α) (f : α → Prog σ β) : Prog σ β := fun s =>
  match m s with
  | (.ret a, s') => f a s'
  | (.pending, s') => (.pending, s')
  | (.undefined, s') => (.undefined, s')

instance : Monad (Prog σ) where
  pure a := fun s => (.ret a, s)
  bind := Prog.bind

def get : Prog σ σ := fun s => (.ret s, s)

def modify (f : σ → σ) : Prog σ Unit := fun s => (.ret (), f s)

def stuck : Prog σ α := fun s => (.undefined, s)

def wait : Prog σ α := fun s => (.pending, s)

def zoom (part : σ → τ) (put : σ → τ → σ) (m : Prog τ α) : Prog σ α := fun s =>
  ((m (part s)).1, put s (m (part s)).2)

def when (c : Prop) [Decidable c] (m : Prog σ Unit) : Prog σ Unit := if c then m else pure ()

@[simp] theorem pure_apply (a : α) (s : σ) : (pure a : Prog σ α) s = (.ret a, s) := rfl
@[simp] theorem modify_apply (f : σ → σ) (s : σ) : modify f s = (.ret (), f s) := rfl
@[simp] theorem stuck_apply (s : σ) : (stuck : Prog σ α) s = (.undefined, s) := rfl

theorem zoom_apply (part : σ → τ) (put : σ → τ → σ) (m : Prog τ α) (s : σ) :
    zoom part put m s = ((m (part s)).1, put s (m (part s)).2) := rfl

theorem bind_ret {m : Prog σ α} {f : α → Prog σ β} {s s' : σ} {a : α} (h : m s = (.ret a, s')) :
    (m >>= f) s = f a s' := by
  change Prog.bind m f s = _
  rw [Prog.bind, h]

theorem bind_pending {m : Prog σ α} {f : α → Prog σ β} {s s' : σ} (h : m s = (.pending, s')) :
    (m >>= f) s = (.pending, s') := by
  change Prog.bind m f s = _
  rw [Prog.bind, h]

theorem bind_undefined {m : Prog σ α} {f : α → Prog σ β} {s s' : σ}
    (h : m s = (.undefined, s')) : (m >>= f) s = (.undefined, s') := by
  change Prog.bind m f s = _
  rw [Prog.bind, h]

theorem bind_eq_ret {m : Prog σ α} {f : α → Prog σ β} {s s'' : σ} {b : β} :
    (m >>= f) s = (.ret b, s'') ↔ ∃ a s', m s = (.ret a, s') ∧ f a s' = (.ret b, s'') := by
  rcases h : m s with ⟨o, s'⟩
  cases o with
  | ret a =>
      rw [bind_ret h]
      constructor
      · exact fun rest => ⟨a, s', rfl, rest⟩
      · rintro ⟨_, _, ⟨⟩, rest⟩
        exact rest
  | pending =>
      rw [bind_pending h]
      exact iff_of_false (by simp) (by simp)
  | undefined =>
      rw [bind_undefined h]
      exact iff_of_false (by simp) (by simp)

@[simp] theorem modify_bind (g : σ → σ) (f : Unit → Prog σ β) (s : σ) :
    (modify g >>= f) s = f () (g s) := rfl

theorem ite_apply (c : Prop) [Decidable c] (m m' : Prog σ α) (s : σ) :
    (if c then m else m') s = if c then m s else m' s := by
  split <;> rfl

/-! ## Postconditions -/

def Ends (m : Prog σ α) (s : σ) (Q : Outcome α → σ → Prop) : Prop := Q (m s).1 (m s).2

theorem Ends.bind {m : Prog σ α} {f : α → Prog σ β} {s : σ} {Q : Outcome α → σ → Prop}
    {R : Outcome β → σ → Prop} (first : Ends m s Q)
    (returned : ∀ a s', Q (.ret a) s' → Ends (f a) s' R)
    (waiting : ∀ s', Q .pending s' → R .pending s')
    (faulted : ∀ s', Q .undefined s' → R .undefined s') : Ends (m >>= f) s R := by
  unfold Ends at first ⊢
  rcases h : m s with ⟨o, s'⟩
  rw [h] at first
  cases o with
  | ret a => rw [bind_ret h]; exact returned a s' first
  | pending => rw [bind_pending h]; exact waiting s' first
  | undefined => rw [bind_undefined h]; exact faulted s' first

theorem Ends.bind_inv {m : Prog σ α} {f : α → Prog σ β} {s : σ} {I : σ → Prop}
    (first : Ends m s fun _ s' => I s') (next : ∀ a s', I s' → Ends (f a) s' fun _ s'' => I s'') :
    Ends (m >>= f) s fun _ s' => I s' :=
  first.bind next (fun _ h => h) (fun _ h => h)

theorem Ends.ite {c : Prop} [Decidable c] {m m' : Prog σ α} {s : σ} {Q : Outcome α → σ → Prop}
    (yes : c → Ends m s Q) (no : ¬c → Ends m' s Q) : Ends (if c then m else m') s Q := by
  split
  · exact yes ‹c›
  · exact no ‹¬c›

/-! ## Frames -/

section Frames
variable {γ : Type} {f : σ → γ}

/-- However the call ends, what `f` reads of the state is as before. -/
def Frames (f : σ → γ) (m : Prog σ α) : Prop := ∀ s, f (m s).2 = f s

theorem Frames.pure (a : α) : Frames f (Pure.pure a : Prog σ α) := fun _ => rfl

theorem Frames.stuck : Frames f (stuck : Prog σ α) := fun _ => rfl

theorem Frames.get : Frames f (get : Prog σ σ) := fun _ => rfl

theorem Frames.modify {g : σ → σ} (keeps : ∀ s, f (g s) = f s) : Frames f (modify g) := keeps

theorem Frames.zoom {part : σ → τ} {put : σ → τ → σ} (keeps : ∀ s t, f (put s t) = f s)
    (m : Prog τ α) : Frames f (zoom part put m) := fun _ => keeps _ _

theorem Frames.bind {m : Prog σ α} {k : α → Prog σ β} (first : Frames f m)
    (next : ∀ a, Frames f (k a)) : Frames f (m >>= k) := by
  intro s
  have here := first s
  rcases h : m s with ⟨o, s'⟩
  rw [h] at here
  cases o with
  | ret a =>
      rw [bind_ret h, next a s']
      exact here
  | pending =>
      rw [bind_pending h]
      exact here
  | undefined =>
      rw [bind_undefined h]
      exact here

theorem Frames.ite {c : Prop} [Decidable c] {m m' : Prog σ α} (yes : Frames f m)
    (no : Frames f m') : Frames f (if c then m else m') := by
  split
  · exact yes
  · exact no

theorem Frames.when {c : Prop} [Decidable c] {m : Prog σ Unit} (frames : Frames f m) :
    Frames f (when c m) := Frames.ite frames (Frames.pure ())

theorem Frames.comp {δ : Type} {m : Prog σ α} (frames : Frames f m) (g : γ → δ) :
    Frames (fun s => g (f s)) m := fun s => congrArg g (frames s)

end Frames

/-! ## Sequences of calls -/

section Runs
variable (exec : ι → Prog σ α)

def run : List ι → σ → σ
  | [], s => s
  | c :: calls, s =>
      match exec c s with
      | (.ret _, s') => run calls s'
      | (_, s') => s'

/-- The calls that are reached, each with the state it is made in. -/
def reached : List ι → σ → List (ι × σ)
  | [], _ => []
  | c :: calls, s => (c, s) ::
      match exec c s with
      | (.ret _, s') => reached calls s'
      | (_, _) => []

def Completes : List ι → σ → Prop
  | [], _ => True
  | c :: calls, s => ∃ a, (exec c s).1 = .ret a ∧ Completes calls (exec c s).2

/-- Every call that is reached meets the condition in the state it is made in. -/
def Meets (condition : ι → σ → Prop) : List ι → σ → Prop
  | [], _ => True
  | c :: calls, s =>
      condition c s ∧ ∀ a, (exec c s).1 = .ret a → Meets condition calls (exec c s).2

def Always (P : σ → Prop) (calls : List ι) (s : σ) : Prop :=
  ∀ pre, pre <+: calls → P (run exec pre s)

variable {exec} {condition assumed : ι → σ → Prop} {allowed : ι → Prop} {I P : σ → Prop}

theorem run_cons_ret {c : ι} {calls : List ι} {s : σ} {a : α} (h : (exec c s).1 = .ret a) :
    run exec (c :: calls) s = run exec calls (exec c s).2 := by
  rcases hc : exec c s with ⟨o, s'⟩
  rw [hc] at h
  simp only at h
  simp only [run, hc, h]

theorem run_cons_stop {c : ι} {calls : List ι} {s : σ} (h : ∀ a, (exec c s).1 ≠ .ret a) :
    run exec (c :: calls) s = (exec c s).2 := by
  rcases hc : exec c s with ⟨o, s'⟩
  rw [hc] at h
  cases o with
  | ret a => exact absurd rfl (h a)
  | pending => simp only [run, hc]
  | undefined => simp only [run, hc]

theorem run_singleton (c : ι) (s : σ) : run exec [c] s = (exec c s).2 := by
  rcases hc : exec c s with ⟨o, s'⟩
  cases o <;> simp only [run, hc]

theorem meets_of_forall {calls : List ι} (all : ∀ c ∈ calls, allowed c) (s : σ) :
    Meets exec (fun c _ => allowed c) calls s := by
  induction calls generalizing s with
  | nil => trivial
  | cons c calls ih => exact ⟨all c (by simp), fun _ _ => ih (fun d hd => all d (by simp [hd])) _⟩

theorem Meets.and {calls : List ι} {s : σ} (first : Meets exec assumed calls s)
    (second : Meets exec condition calls s) :
    Meets exec (fun c s => assumed c s ∧ condition c s) calls s := by
  induction calls generalizing s with
  | nil => trivial
  | cons c calls ih =>
      exact ⟨⟨first.1, second.1⟩, fun a ha => ih (first.2 a ha) (second.2 a ha)⟩

theorem Meets.imp {calls : List ι} {s : σ} (start : I s)
    (keeps : ∀ c s, I s → assumed c s → I (exec c s).2)
    (implies : ∀ c s, I s → assumed c s → condition c s) (meets : Meets exec assumed calls s) :
    Meets exec condition calls s := by
  induction calls generalizing s with
  | nil => trivial
  | cons c calls ih =>
      exact ⟨implies c s start meets.1, fun a ha => ih (keeps c s start meets.1) (meets.2 a ha)⟩

theorem Meets.of_prefix {pre calls : List ι} {s : σ} (meets : Meets exec condition calls s)
    (shorter : pre <+: calls) : Meets exec condition pre s := by
  induction pre generalizing calls s with
  | nil => trivial
  | cons c pre ih =>
      obtain ⟨rest, rfl⟩ := shorter
      exact ⟨meets.1, fun a ha => ih (meets.2 a ha) ⟨rest, rfl⟩⟩

theorem meets_congr {calls : List ι} {s : σ} (start : I s)
    (same : ∀ c s, I s → (condition c s ↔ assumed c s)) (keeps : ∀ c s, I s → I (exec c s).2) :
    Meets exec condition calls s ↔ Meets exec assumed calls s := by
  induction calls generalizing s with
  | nil => exact Iff.rfl
  | cons c calls ih =>
      refine and_congr (same c s start) ?_
      exact forall_congr' fun a => forall_congr' fun _ => ih (keeps c s start)

theorem run_keeps {calls : List ι} {s : σ} (start : I s)
    (keeps : ∀ c s, I s → condition c s → I (exec c s).2)
    (meets : Meets exec condition calls s) : I (run exec calls s) := by
  induction calls generalizing s with
  | nil => exact start
  | cons c calls ih =>
      have step : I (exec c s).2 := keeps c s start meets.1
      by_cases returns : ∃ a, (exec c s).1 = .ret a
      · obtain ⟨a, ha⟩ := returns
        rw [run_cons_ret ha]
        exact ih step (meets.2 a ha)
      · rw [run_cons_stop fun a ha => returns ⟨a, ha⟩]
        exact step

theorem run_returns {calls : List ι} {s : σ} (start : I s)
    (returns : ∀ c s, I s → condition c s → ∃ a s', exec c s = (.ret a, s') ∧ I s')
    (meets : Meets exec condition calls s) :
    Completes exec calls s ∧ I (run exec calls s) := by
  induction calls generalizing s with
  | nil => exact ⟨trivial, start⟩
  | cons c calls ih =>
      obtain ⟨a, s', call, next⟩ := returns c s start meets.1
      have ha : (exec c s).1 = .ret a := congrArg Prod.fst call
      have hs : (exec c s).2 = s' := congrArg Prod.snd call
      have rest := meets.2 a ha
      rw [hs] at rest
      obtain ⟨completes, final⟩ := ih next rest
      rw [run_cons_ret ha, hs]
      exact ⟨⟨a, ha, by rwa [hs]⟩, final⟩

/-- A run follows a run of an abstract machine when each of its calls does. -/
theorem run_simulates {δ : Type} {R : σ → δ → Prop} {step : ι → δ → δ} {calls : List ι} {s : σ}
    {d : δ} (start : R s d) (returns : ∀ c s, condition c s → ∃ a, (exec c s).1 = .ret a)
    (simulates : ∀ c s d, R s d → condition c s → R (exec c s).2 (step c d))
    (meets : Meets exec condition calls s) :
    R (run exec calls s) (calls.foldl (fun d c => step c d) d) := by
  induction calls generalizing s d with
  | nil => exact start
  | cons c calls ih =>
      obtain ⟨a, ha⟩ := returns c s meets.1
      rw [run_cons_ret ha, List.foldl_cons]
      exact ih (simulates c s d start meets.1) (meets.2 a ha)

theorem reached_cons_ret {c : ι} {calls : List ι} {s : σ} {a : α} (h : (exec c s).1 = .ret a) :
    reached exec (c :: calls) s = (c, s) :: reached exec calls (exec c s).2 := by
  rcases hc : exec c s with ⟨o, s'⟩
  rw [hc] at h
  simp only at h
  simp only [reached, hc, h]

theorem reached_cons_stop {c : ι} {calls : List ι} {s : σ} (h : ∀ a, (exec c s).1 ≠ .ret a) :
    reached exec (c :: calls) s = [(c, s)] := by
  rcases hc : exec c s with ⟨o, s'⟩
  rw [hc] at h
  cases o with
  | ret a => exact absurd rfl (h a)
  | pending => simp only [reached, hc]
  | undefined => simp only [reached, hc]

/-- A log to which each call adds its events holds the events of the run. -/
theorem run_logs {ε : Type} {log : σ → List ε} {events : ι → σ → List ε}
    (step : ∀ c s, log (exec c s).2 = log s ++ events c s) (calls : List ι) (s : σ) :
    log (run exec calls s) =
      log s ++ (reached exec calls s).flatMap fun x => events x.1 x.2 := by
  induction calls generalizing s with
  | nil => exact (List.append_nil _).symm
  | cons c calls ih =>
      by_cases returns : ∃ a, (exec c s).1 = .ret a
      · obtain ⟨a, ha⟩ := returns
        rw [run_cons_ret ha, reached_cons_ret ha, ih, step, List.flatMap_cons, List.append_assoc]
      · have stops : ∀ a, (exec c s).1 ≠ .ret a := fun a ha => returns ⟨a, ha⟩
        rw [run_cons_stop stops, reached_cons_stop stops, step, List.flatMap_singleton]

/-- What is seen of the state after a run is what the calls made of it, one after the other. -/
theorem run_views {δ : Type} (view : σ → δ) (step : ι → σ → δ → δ) {calls : List ι} {s : σ}
    (start : I s) (keeps : ∀ c s, I s → condition c s → I (exec c s).2)
    (views : ∀ c s, I s → condition c s → view (exec c s).2 = step c s (view s))
    (meets : Meets exec condition calls s) :
    view (run exec calls s) = (reached exec calls s).foldl (fun d x => step x.1 x.2 d) (view s) := by
  induction calls generalizing s with
  | nil => rfl
  | cons c calls ih =>
      have here := views c s start meets.1
      by_cases returns : ∃ a, (exec c s).1 = .ret a
      · obtain ⟨a, ha⟩ := returns
        rw [run_cons_ret ha, reached_cons_ret ha, List.foldl_cons, ← here]
        exact ih (keeps c s start meets.1) (meets.2 a ha)
      · have stops : ∀ a, (exec c s).1 ≠ .ret a := fun a ha => returns ⟨a, ha⟩
        rw [run_cons_stop stops, reached_cons_stop stops, List.foldl_cons, List.foldl_nil, here]

theorem reached_keeps {calls : List ι} {s : σ} (start : I s) (keeps : ∀ c s, I s → I (exec c s).2) :
    ∀ x ∈ reached exec calls s, I x.2 := by
  induction calls generalizing s with
  | nil => exact fun _ member => absurd member List.not_mem_nil
  | cons c calls ih =>
      intro x member
      by_cases returns : ∃ a, (exec c s).1 = .ret a
      · obtain ⟨a, ha⟩ := returns
        rw [reached_cons_ret ha] at member
        rcases List.mem_cons.mp member with rfl | later
        · exact start
        · exact ih (keeps c s start) x later
      · rw [reached_cons_stop fun a ha => returns ⟨a, ha⟩, List.mem_singleton] at member
        rw [member]
        exact start

theorem run_append {first last : List ι} {s : σ} (completes : Completes exec first s) :
    run exec (first ++ last) s = run exec last (run exec first s) := by
  induction first generalizing s with
  | nil => rfl
  | cons c first ih =>
      obtain ⟨a, ha, completes⟩ := completes
      rw [List.cons_append, run_cons_ret ha, run_cons_ret ha, ih completes]

theorem Completes.append {first last : List ι} {s : σ} (completes : Completes exec first s)
    (rest : Completes exec last (run exec first s)) : Completes exec (first ++ last) s := by
  induction first generalizing s with
  | nil => exact rest
  | cons c first ih =>
      obtain ⟨a, ha, completes⟩ := completes
      rw [run_cons_ret ha] at rest
      exact ⟨a, ha, ih completes rest⟩

theorem completes_append {first last : List ι} {s : σ} : Completes exec (first ++ last) s ↔
    Completes exec first s ∧ Completes exec last (run exec first s) := by
  constructor
  · induction first generalizing s with
    | nil => exact fun completes => ⟨trivial, completes⟩
    | cons c first ih =>
        rintro ⟨a, ha, completes⟩
        rw [run_cons_ret ha]
        exact ⟨⟨a, ha, (ih completes).1⟩, (ih completes).2⟩
  · exact fun completes => completes.1.append completes.2

theorem Meets.of_append {first last : List ι} {s : σ} (completes : Completes exec first s)
    (meets : Meets exec condition (first ++ last) s) :
    Meets exec condition last (run exec first s) := by
  induction first generalizing s with
  | nil => exact meets
  | cons c first ih =>
      obtain ⟨a, ha, completes⟩ := completes
      rw [run_cons_ret ha]
      exact ih completes (meets.2 a ha)

/-- Safety at every moment of a run, when the condition is exact for one call. -/
theorem safe_iff_meets {calls : List ι} {s : σ} (start : I s)
    (assume : Meets exec assumed calls s) (safe : ∀ s, I s → P s)
    (keeps : ∀ c s, assumed c s → I s → condition c s → I (exec c s).2)
    (breaks : ∀ c s, assumed c s → I s → ¬condition c s → ¬P (exec c s).2) :
    Always exec P calls s ↔ Meets exec condition calls s := by
  constructor
  · induction calls generalizing s with
    | nil => exact fun _ => trivial
    | cons c calls ih =>
        intro safeAlong
        have now : condition c s := by
          by_contra bad
          have first := safeAlong [c] (by simp)
          rw [run_singleton] at first
          exact breaks c s assume.1 start bad first
        refine ⟨now, fun a ha => ?_⟩
        apply ih (keeps c s assume.1 start now) (assume.2 a ha)
        intro pre hpre
        have longer := safeAlong (c :: pre) (List.cons_prefix_cons.mpr ⟨rfl, hpre⟩)
        rwa [run_cons_ret ha] at longer
  · intro meets pre hpre
    have both := (assume.of_prefix hpre).and (meets.of_prefix hpre)
    exact safe _ (run_keeps start (fun c s h both => keeps c s both.1 h both.2) both)

/-- A property that each call keeps exactly under the condition, and never restores. -/
theorem run_iff_meets {calls : List ι} {s : σ} (start : I s) (all : ∀ c ∈ calls, allowed c)
    (completes : Completes exec calls s)
    (exact : ∀ c s a, allowed c → (exec c s).1 = .ret a →
      (I (exec c s).2 ↔ I s ∧ condition c s)) :
    I (run exec calls s) ↔ Meets exec condition calls s := by
  have lost : ∀ calls s, (∀ c ∈ calls, allowed c) → Completes exec calls s → ¬I s →
      ¬I (run exec calls s) := by
    intro calls
    induction calls with
    | nil => exact fun _ _ _ bad => bad
    | cons c calls ih =>
        rintro s all ⟨a, ha, completes⟩ bad
        rw [run_cons_ret ha]
        exact ih _ (fun d hd => all d (by simp [hd])) completes
          fun good => bad ((exact c s a (all c (by simp)) ha).mp good).1
  induction calls generalizing s with
  | nil => exact iff_of_true start trivial
  | cons c calls ih =>
      obtain ⟨a, ha, completes⟩ := completes
      have tail : ∀ d ∈ calls, allowed d := fun d hd => all d (by simp [hd])
      have here := exact c s a (all c (by simp)) ha
      rw [run_cons_ret ha]
      by_cases now : condition c s
      · exact (ih (here.mpr ⟨start, now⟩) tail completes).trans
          ⟨fun meets => ⟨now, fun _ _ => meets⟩, fun meets => meets.2 a ha⟩
      · exact iff_of_false (lost calls _ tail completes fun good => now (here.mp good).2)
          fun meets => now meets.1

end Runs

/-! ## History variables -/

section History
variable {γ : Type} {exec : ι → Prog σ α} {note : ι → γ → γ}

/-- `exec` with a record beside the state, to which every call that returns is added. -/
def tracked (exec : ι → Prog σ α) (note : ι → γ → γ) (c : ι) : Prog (σ × γ) α := fun x =>
  match exec c x.1 with
  | (.ret a, s) => (.ret a, (s, note c x.2))
  | (.pending, s) => (.pending, (s, x.2))
  | (.undefined, s) => (.undefined, (s, x.2))

theorem tracked_ret {c : ι} {s s' : σ} {a : α} (returns : exec c s = (.ret a, s')) (g : γ) :
    tracked exec note c (s, g) = (.ret a, (s', note c g)) := by
  simp only [tracked, returns]

theorem tracked_undefined {c : ι} {s s' : σ} (stuck : exec c s = (.undefined, s')) (g : γ) :
    tracked exec note c (s, g) = (.undefined, (s', g)) := by
  simp only [tracked, stuck]

theorem tracked_fst (c : ι) (x : σ × γ) : (tracked exec note c x).1 = (exec c x.1).1 := by
  rcases outcome : exec c x.1 with ⟨o, s⟩
  cases o <;> simp only [tracked, outcome]

theorem tracked_state (c : ι) (x : σ × γ) : (tracked exec note c x).2.1 = (exec c x.1).2 := by
  rcases outcome : exec c x.1 with ⟨o, s⟩
  cases o <;> simp only [tracked, outcome]

theorem tracked_idle {c : ι} {s : σ} {g : γ} (idle : note c g = g) :
    (tracked exec note c (s, g)).2 = ((exec c s).2, g) := by
  rcases outcome : exec c s with ⟨o, s'⟩
  cases o <;> simp only [tracked, outcome, idle]

theorem run_tracked (calls : List ι) (x : σ × γ) :
    (run (tracked exec note) calls x).1 = run exec calls x.1 := by
  induction calls generalizing x with
  | nil => rfl
  | cons c calls ih =>
      by_cases returns : ∃ a, (exec c x.1).1 = .ret a
      · obtain ⟨a, ha⟩ := returns
        rw [run_cons_ret ha, run_cons_ret ((tracked_fst c x).trans ha), ih, tracked_state]
      · rw [run_cons_stop fun a ha => returns ⟨a, ha⟩, run_cons_stop, tracked_state]
        exact fun a ha => returns ⟨a, (tracked_fst c x).symm.trans ha⟩

theorem Meets.tracked {condition : ι → σ → Prop} {calls : List ι} {s : σ}
    (meets : Meets exec condition calls s) (g : γ) :
    Meets (tracked exec note) (fun c x => condition c x.1) calls (s, g) := by
  induction calls generalizing s g with
  | nil => trivial
  | cons c calls ih =>
      refine ⟨meets.1, fun a ha => ?_⟩
      rcases outcome : exec c s with ⟨o, s'⟩
      have first : (Prog.tracked exec note c (s, g)).1 = (exec c s).1 := tracked_fst c (s, g)
      rw [outcome] at first
      obtain rfl : o = .ret a := first.symm.trans ha
      rw [tracked_ret outcome]
      have rest := meets.2 a (by rw [outcome])
      rw [outcome] at rest
      exact ih rest _

end History

/-- `exec` with a record beside the state that sees how each call begins and ends. -/
def observed {γ : Type} (exec : ι → Prog σ α) (note : ι → σ → Outcome α × σ → γ → γ) (c : ι) :
    Prog (σ × γ) α := fun x =>
  ((exec c x.1).1, (exec c x.1).2, note c x.1 (exec c x.1) x.2)

end Prog
end Dpubsub.Lib
