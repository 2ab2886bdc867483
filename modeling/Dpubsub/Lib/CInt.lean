import Mathlib.Data.Int.Lemmas
import Mathlib.Data.List.TakeWhile
import Mathlib.Tactic.Ring

/-!
# Integers and strings of C

The conversions of a C implementation with a 32-bit `int`, a 64-bit `size_t` and a signed
`char`, and strings that end at their first NUL.
-/

namespace Dpubsub.Lib

def sizeT (n : Nat) : Nat := n % 2 ^ 64

/-- `(size_t) i` for an `int` or `ssize_t`. -/
def sizeOfInt (i : Int) : Nat := (i % 2 ^ 64).toNat

def intOf (i : Int) : Int := i.bmod (2 ^ 32)

def intOfSize (n : Nat) : Int := intOf n

def sizeSub (a b : Nat) : Nat := (a + 2 ^ 64 - b) % 2 ^ 64

def toChar (n : Nat) : UInt8 := UInt8.ofNat n

theorem sizeT_of_lt {n : Nat} (h : n < 2 ^ 64) : sizeT n = n := Nat.mod_eq_of_lt h

theorem sizeSub_of_le {a b : Nat} (le : b ≤ a) (bound : a < 2 ^ 64) : sizeSub a b = a - b := by
  unfold sizeSub
  omega

theorem intOf_of_lt {i : Int} (lower : -2 ^ 31 ≤ i) (upper : i < 2 ^ 31) : intOf i = i := by
  unfold intOf
  exact Int.bmod_eq_of_le (by omega) (by omega)

theorem intOfSize_of_lt {n : Nat} (h : n < 2 ^ 31) : intOfSize n = n :=
  intOf_of_lt (by omega) (by omega)

theorem intOfSize_of_ge {n : Nat} (h : 2 ^ 31 ≤ n) : intOfSize n ≤ (n : Int) - 2 ^ 32 := by
  unfold intOfSize intOf
  rw [Int.bmod_def]
  split <;> omega

theorem intOfSize_of_mod_lt {n : Nat} (h : n % 2 ^ 32 < 2 ^ 31) :
    intOfSize n = (n % 2 ^ 32 : Nat) := by
  unfold intOfSize intOf
  rw [Int.bmod_def]
  split <;> omega

theorem intOfSize_neg_iff (n : Nat) : intOfSize n < 0 ↔ 2 ^ 31 ≤ n % 2 ^ 32 := by
  unfold intOfSize intOf
  rw [Int.bmod_def]
  split <;> omega

theorem intOfSize_le (n : Nat) : intOfSize n ≤ n := by
  unfold intOfSize intOf
  rw [Int.bmod_def]
  split <;> omega

theorem intOfSize_ne_neg {n k : Nat} (positive : 0 < k) (room : n + k < 2 ^ 32) :
    intOfSize n ≠ -(k : Int) := by
  unfold intOfSize intOf
  rw [Int.bmod_def]
  split <;> omega

theorem sizeOfInt_natCast {n : Nat} (h : n < 2 ^ 64) : sizeOfInt n = n := by
  unfold sizeOfInt
  omega

/-- A plain `char`, signed, promoted to `int`. -/
def promote (c : UInt8) : BitVec 32 := c.toBitVec.signExtend 32

/-- The `uint16_t` in which C stores `(high << 8) | low`. -/
def shortOf (high low : UInt8) : Nat := (((promote high <<< 8) ||| promote low).setWidth 16).toNat

theorem promote_sshiftRight (c : UInt8) :
    ((promote c).sshiftRight 4 = 3) ↔ c.toNat / 16 = 3 := by
  obtain ⟨bits⟩ := c
  revert bits
  decide +kernel

theorem setWidth_promote_shiftLeft (c : UInt8) :
    ((promote c <<< 8).setWidth 16).toNat = c.toNat * 2 ^ 8 := by
  obtain ⟨bits⟩ := c
  revert bits
  decide +kernel

theorem setWidth_promote (c : UInt8) :
    ((promote c).setWidth 16).toNat = if c.toNat < 128 then c.toNat else 0xFF00 + c.toNat := by
  obtain ⟨bits⟩ := c
  revert bits
  decide +kernel

theorem shortOf_of_lt {high low : UInt8} (h : low.toNat < 128) :
    shortOf high low = high.toNat * 256 + low.toNat := by
  unfold shortOf
  rw [BitVec.setWidth_or, BitVec.toNat_or, setWidth_promote_shiftLeft, setWidth_promote, if_pos h,
    Nat.mul_comm, ← Nat.two_pow_add_eq_or_of_lt (by omega)]
  omega

theorem or_high_byte (c : UInt8) : c.toNat * 2 ^ 8 ||| 0xFF00 = 0xFF00 := by
  obtain ⟨bits⟩ := c
  revert bits
  decide +kernel

theorem shortOf_of_ge {high low : UInt8} (h : 128 ≤ low.toNat) :
    shortOf high low = 0xFF00 + low.toNat := by
  have bound := low.toNat_lt
  have split : 0xFF00 + low.toNat = 0xFF00 ||| low.toNat :=
    Nat.two_pow_add_eq_or_of_lt (i := 8) bound 0xFF
  unfold shortOf
  rw [BitVec.setWidth_or, BitVec.toNat_or, setWidth_promote_shiftLeft, setWidth_promote low,
    if_neg (by omega), split, ← Nat.or_assoc, or_high_byte]

/-- A NUL-terminated string, without its terminator. -/
structure CString where
  bytes : List UInt8
  noNul : 0 ∉ bytes
deriving DecidableEq

def strlen (s : CString) : Nat := s.bytes.length

def CString.letters (n : Nat) : CString := ⟨List.replicate n 0x61, by simp⟩

@[simp] theorem CString.strlen_letters (n : Nat) : strlen (letters n) = n :=
  List.length_replicate

/-- What a `%s` shows of an array that holds `bytes` and then a NUL. -/
def untilNul (bytes : List UInt8) : List UInt8 := bytes.takeWhile (· ≠ 0)

theorem untilNul_string (s : CString) : untilNul s.bytes = s.bytes :=
  List.takeWhile_eq_self_iff.mpr fun b member => by
    have nonzero : b ≠ 0 := fun zero => s.noNul (zero ▸ member)
    simpa using nonzero

/-- The string a byte array holds, when there is a NUL in it. -/
def CString.ofBytes (bytes : List UInt8) : Option CString :=
  if 0 ∈ bytes then
    some ⟨untilNul bytes, fun h => by simpa using List.mem_takeWhile_imp h⟩
  else none

theorem CString.ofBytes_terminated (s : CString) : ofBytes (s.bytes ++ [0]) = some s := by
  have terminated : untilNul (s.bytes ++ [0]) = s.bytes := by
    rw [untilNul, List.takeWhile_append_of_pos (List.takeWhile_eq_self_iff.mp (untilNul_string s))]
    simp
  rw [ofBytes, if_pos (by simp)]
  exact congrArg some (CString.mk.injEq .. ▸ terminated)

end Dpubsub.Lib
