import Dpubsub.Lib.Sockets

/-!
# Collecting a byte stream

What a server is for that stores all it receives: the bytes so far, in order, and what made it stop.
The first `spare` bytes and the chunk after them need no more memory than it has from the start.
-/

namespace Dpubsub.Spec
open Dpubsub.Lib

inductive Stop where
  | hungUp
  | failed
  | outOfMemory
deriving DecidableEq, Repr

structure Collected where
  bytes : List UInt8
  stop : Option Stop
deriving DecidableEq, Repr

section
variable (fd : Int) (chunkSize spare : Nat)

/-- Each answer says whether more memory is granted, should it be needed, and what `recv` does. -/
def collect (bytes : List UInt8) : List (Bool × RecvAnswer) → Collected
  | [] => ⟨bytes, none⟩
  | (granted, answer) :: answers =>
      if spare < bytes.length ∧ granted = false then ⟨bytes, some .outOfMemory⟩
      else
        match recvResult fd chunkSize answer with
        | .data chunk => collect (bytes ++ chunk) answers
        | .closed => ⟨bytes, some .hungUp⟩
        | .failed _ => ⟨bytes, some .failed⟩

variable {fd chunkSize spare} {bytes chunk : List UInt8} {granted : Bool} {answer : RecvAnswer}
  {first : List (Bool × RecvAnswer)}

theorem collect_refused (refused : spare < bytes.length ∧ granted = false)
    (answers : List (Bool × RecvAnswer)) :
    collect fd chunkSize spare bytes ((granted, answer) :: answers) =
      ⟨bytes, some .outOfMemory⟩ := by
  rw [collect, if_pos refused]

theorem collect_data (room : ¬(spare < bytes.length ∧ granted = false))
    (received : recvResult fd chunkSize answer = .data chunk)
    (answers : List (Bool × RecvAnswer)) :
    collect fd chunkSize spare bytes ((granted, answer) :: answers) =
      collect fd chunkSize spare (bytes ++ chunk) answers := by
  rw [collect, if_neg room]
  simp only [received]

def stopOf : RecvAnswer → Option Stop
  | .data _ => none
  | .closed => some .hungUp
  | .failed _ => some .failed

theorem collect_stops (room : ¬(spare < bytes.length ∧ granted = false)) {stop : Stop}
    (received : stopOf (recvResult fd chunkSize answer) = some stop)
    (answers : List (Bool × RecvAnswer)) :
    collect fd chunkSize spare bytes ((granted, answer) :: answers) = ⟨bytes, some stop⟩ := by
  rw [collect, if_neg room]
  cases result : recvResult fd chunkSize answer with
  | data chunk =>
      rw [result] at received
      cases received
  | closed =>
      rw [result] at received
      cases received
      rfl
  | failed wouldBlock =>
      rw [result] at received
      cases received
      rfl

variable (fd chunkSize spare bytes granted answer) in
/-- What one more answer leads to. -/
theorem collect_cases :
    (spare < bytes.length ∧ granted = false) ∨
    ¬(spare < bytes.length ∧ granted = false) ∧
      ((∃ chunk, recvResult fd chunkSize answer = .data chunk) ∨
        ∃ stop, stopOf (recvResult fd chunkSize answer) = some stop) := by
  by_cases refused : spare < bytes.length ∧ granted = false
  · exact .inl refused
  refine .inr ⟨refused, ?_⟩
  cases recvResult fd chunkSize answer with
  | data chunk => exact .inl ⟨chunk, rfl⟩
  | closed => exact .inr ⟨.hungUp, rfl⟩
  | failed wouldBlock => exact .inr ⟨.failed, rfl⟩

theorem collect_append (goes : (collect fd chunkSize spare bytes first).stop = none)
    (last : List (Bool × RecvAnswer)) : collect fd chunkSize spare bytes (first ++ last) =
      collect fd chunkSize spare (collect fd chunkSize spare bytes first).bytes last := by
  induction first generalizing bytes with
  | nil => rfl
  | cons a first ih =>
      obtain ⟨granted, answer⟩ := a
      rw [List.cons_append]
      obtain refused | ⟨room, ⟨chunk, data⟩ | ⟨stop, stops⟩⟩ :=
        collect_cases fd chunkSize spare bytes granted answer
      · rw [collect_refused refused] at goes
        cases goes
      · rw [collect_data room data] at goes
        rw [collect_data room data, collect_data room data, ih goes]
      · rw [collect_stops room stops] at goes
        cases goes

theorem collect_grows (answers : List (Bool × RecvAnswer)) :
    bytes <+: (collect fd chunkSize spare bytes answers).bytes := by
  induction answers generalizing bytes with
  | nil => exact List.prefix_refl _
  | cons a answers ih =>
      obtain ⟨granted, answer⟩ := a
      obtain refused | ⟨room, ⟨chunk, data⟩ | ⟨stop, stops⟩⟩ :=
        collect_cases fd chunkSize spare bytes granted answer
      · rw [collect_refused refused]
      · rw [collect_data room data]
        exact (List.prefix_append _ _).trans ih
      · rw [collect_stops room stops]

/-- Anything but the end of the stream is due to one of the answers. -/
theorem collect_stop {answers : List (Bool × RecvAnswer)} {stop : Stop}
    (stops : (collect fd chunkSize spare bytes answers).stop = some stop) :
    stop = .hungUp ∨
    (stop = .failed ∧ ∃ a ∈ answers, ∃ wouldBlock, recvResult fd chunkSize a.2 = .failed wouldBlock) ∨
    stop = .outOfMemory ∧ ∃ a ∈ answers, a.1 = false := by
  induction answers generalizing bytes with
  | nil => cases stops
  | cons a answers ih =>
      obtain ⟨granted, answer⟩ := a
      obtain refused | ⟨room, ⟨chunk, data⟩ | ⟨stop', stops'⟩⟩ :=
        collect_cases fd chunkSize spare bytes granted answer
      · rw [collect_refused refused] at stops
        cases stops
        exact .inr (.inr ⟨rfl, _, List.mem_cons_self, refused.2⟩)
      · rw [collect_data room data] at stops
        rcases ih stops with hungUp | ⟨failed, a, member, found⟩ | ⟨refused, a, member, found⟩
        · exact .inl hungUp
        · exact .inr (.inl ⟨failed, a, List.mem_cons_of_mem _ member, found⟩)
        · exact .inr (.inr ⟨refused, a, List.mem_cons_of_mem _ member, found⟩)
      · rw [collect_stops room stops'] at stops
        cases stops
        cases result : recvResult fd chunkSize answer with
        | data chunk =>
            rw [result] at stops'
            cases stops'
        | closed =>
            rw [result] at stops'
            cases stops'
            exact .inl rfl
        | failed wouldBlock =>
            rw [result] at stops'
            cases stops'
            exact .inr (.inl ⟨rfl, _, List.mem_cons_self, wouldBlock, result⟩)

end
end Dpubsub.Spec
