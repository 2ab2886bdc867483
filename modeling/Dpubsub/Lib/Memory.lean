import Dpubsub.Lib.Buffer
import Dpubsub.Lib.CInt
import Mathlib.Data.Nat.Digits.Defs

/-!
# Memory by address

The bytes of a process by their address, in which a word has its least significant byte first. What
a word leads to depends on all of memory; a copy of the word itself does not.
-/

namespace Dpubsub.Lib

def ofLittleEndian (bytes : List UInt8) : Nat := Nat.ofDigits 256 (bytes.map UInt8.toNat)

theorem ofLittleEndian_inj {xs ys : List UInt8} (same : xs.length = ys.length) :
    ofLittleEndian xs = ofLittleEndian ys ↔ xs = ys := by
  have digits : ∀ zs : List UInt8, ∀ d ∈ zs.map UInt8.toNat, d < 256 := by
    intro zs d member
    obtain ⟨z, -, rfl⟩ := List.mem_map.mp member
    exact z.toNat_lt
  constructor
  · intro value
    have lists : xs.map UInt8.toNat = ys.map UInt8.toNat :=
      Nat.ofDigits_inj_of_len_eq (by decide) (by simpa using same) (digits xs) (digits ys) value
    exact (List.map_inj_right fun _ _ => UInt8.toNat_inj.mp).mp lists
  · exact congrArg ofLittleEndian

def Memory := Nat → UInt8

namespace Memory
variable {memory memory' : Memory} {a a' : Nat} {s t : CString}

/-- The representation of the object of `size` bytes at `a`. -/
def read (memory : Memory) (a size : Nat) : List UInt8 :=
  (List.range size).map fun i => memory (a + i)

@[simp] theorem read_length (memory : Memory) (a size : Nat) : (memory.read a size).length = size := by
  simp [read]

def word (memory : Memory) (a : Nat) : Nat := ofLittleEndian (memory.read a 8)

theorem word_inj : memory.word a = memory'.word a' ↔ memory.read a 8 = memory'.read a' 8 :=
  ofLittleEndian_inj (by rw [read_length, read_length])

def StringAt (memory : Memory) (a : Nat) (s : CString) : Prop :=
  memory.read a (strlen s + 1) = s.bytes ++ [0]

theorem StringAt.notLonger (first : memory.StringAt a s) (second : memory.StringAt a t) :
    strlen t ≤ strlen s := by
  by_contra longer
  have start : s.bytes ++ [0] <+: t.bytes ++ [0] := by
    rw [← first, ← second]
    exact range_map_prefix _ (by omega)
  have inside : s.bytes ++ [0] <+: t.bytes := by
    refine List.prefix_of_prefix_length_le start (List.prefix_append _ _) ?_
    rw [List.length_append]
    exact Nat.not_le.mp longer
  exact t.noNul (inside.subset (by simp))

theorem StringAt.unique (first : memory.StringAt a s) (second : memory.StringAt a t) : s = t := by
  have length : strlen s = strlen t := le_antisymm (second.notLonger first) (first.notLonger second)
  have bytes : s.bytes ++ [0] = t.bytes ++ [0] := by
    rw [← first, ← second, length]
  cases s
  cases t
  exact (CString.mk.injEq ..).mpr (List.append_cancel_right bytes)

/-- The string that a pointer leads to, `none` for NULL. -/
def PointsTo (memory : Memory) (p : Nat) (s : Option CString) : Prop :=
  match s with
  | none => p = 0
  | some s => p ≠ 0 ∧ memory.StringAt p s

theorem PointsTo.unique {p : Nat} {s t : Option CString} (first : memory.PointsTo p s)
    (second : memory.PointsTo p t) : s = t := by
  cases s with
  | none =>
      cases t with
      | none => rfl
      | some t => exact absurd first second.1
  | some s =>
      cases t with
      | none => exact absurd second first.1
      | some t => exact congrArg some (first.2.unique second.2)

end Memory
end Dpubsub.Lib
