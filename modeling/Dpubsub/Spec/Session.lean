import Dpubsub.Spec.Mqtt

/-!
# The packets a client begins on one connection

For each block of data of which the system took a byte: the kind of packet that its first byte makes
it, and whether it was taken whole. `SessionSafe` says which such lists are a session of MQTT 3.1.1,
and `sessionSafe_concat` when a session may go on with one more packet.
-/

namespace Dpubsub.Spec

inductive Kind where
  | connect | disconnect | other
deriving DecidableEq, Repr

/-- The kind of a block of data: what the packet type in its first byte says. -/
def Kind.of (first : UInt8) : Kind :=
  if first >>> 4 = 1 then .connect
  else if first >>> 4 = 14 then .disconnect
  else .other

structure Begun where
  kind : Kind
  whole : Bool
deriving DecidableEq, Repr

/-- CONNECT comes first and only once, and nothing follows a DISCONNECT or a packet that was cut. -/
structure SessionSafe (session : List Begun) : Prop where
  first : ∀ p ∈ session.head?, p.kind = .connect
  once : ∀ p ∈ session.tail, p.kind ≠ .connect
  before_next : ∀ p ∈ session.dropLast, p.whole = true ∧ p.kind ≠ .disconnect

/-- Connected, with every packet sent whole and the connection not given up. -/
structure Established (session : List Begun) : Prop where
  begun : session ≠ []
  going : ∀ p ∈ session, p.whole = true ∧ p.kind ≠ .disconnect

def Admits (session : List Begun) (kind : Kind) : Prop :=
  if kind = .connect then session = [] else Established session

theorem sessionSafe_nil : SessionSafe [] := ⟨by simp, by simp, by simp⟩

theorem admits_other {session : List Begun} {kind : Kind} (other : kind ≠ .connect) :
    Admits session kind ↔ Established session := by
  rw [Admits, if_neg other]

theorem sessionSafe_concat (session : List Begun) (p : Begun) :
    SessionSafe (session ++ [p]) ↔ SessionSafe session ∧ Admits session p.kind := by
  cases session with
  | nil =>
      have alone : SessionSafe [p] ↔ p.kind = .connect :=
        ⟨fun safe => safe.first p rfl, fun connect => ⟨by simpa using connect, by simp, by simp⟩⟩
      have admits : Admits [] p.kind ↔ p.kind = .connect := by
        by_cases connect : p.kind = .connect
        · simp [Admits, connect]
        · simp only [admits_other connect, connect, iff_false]
          exact fun established => established.begun rfl
      rw [List.nil_append, alone, admits]
      exact (and_iff_right sessionSafe_nil).symm
  | cons q rest =>
      have all : (q :: rest ++ [p]).dropLast = q :: rest := List.dropLast_concat
      constructor
      · intro safe
        have last : p.kind ≠ .connect := safe.once p (by simp)
        have going := safe.before_next
        rw [all] at going
        refine ⟨⟨safe.first, fun x member => safe.once x ?_, fun x member => ?_⟩, ?_⟩
        · exact List.mem_append_left _ member
        · exact going x (List.dropLast_subset _ member)
        · exact (admits_other last).mpr ⟨List.cons_ne_nil q rest, going⟩
      · rintro ⟨safe, admits⟩
        by_cases last : p.kind = .connect
        · rw [Admits, if_pos last] at admits
          cases admits
        · refine ⟨safe.first, fun x member => ?_, ?_⟩
          · rcases List.mem_append.mp member with old | new
            · exact safe.once x old
            · rwa [List.mem_singleton.mp new]
          · rw [all]
            exact ((admits_other last).mp admits).going

end Dpubsub.Spec
