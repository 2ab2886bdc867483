import Mathlib.Algebra.BigOperators.Group.Finset.Basic
import Mathlib.Algebra.BigOperators.Ring.Finset
import Mathlib.Tactic.Ring
import Mathlib.Data.List.Basic
import Mathlib.Data.Nat.Digits.Defs
import Mathlib.Order.Bounds.Defs
import Dpubsub.Lib.Decoder

/-!
# Base-128 integers

A number as groups of seven bits, lowest first, every byte but the last with its high bit set.
-/

namespace Dpubsub.Lib.Varint

def encode (n : Nat) : List UInt8 :=
  if n < 128 then [UInt8.ofNat n] else UInt8.ofNat (n % 128 + 128) :: encode (n / 128)
termination_by n
decreasing_by omega

theorem encode_of_lt {n : Nat} (h : n < 128) : encode n = [UInt8.ofNat n] := by
  rw [encode, if_pos h]

theorem encode_of_ge {n : Nat} (h : 128 ≤ n) :
    encode n = UInt8.ofNat (n % 128 + 128) :: encode (n / 128) := by
  rw [encode, if_neg (by omega)]

theorem encode_ne_nil (n : Nat) : encode n ≠ [] := by
  rw [encode]
  split <;> simp

theorem encode_length_pos (n : Nat) : 0 < (encode n).length :=
  List.length_pos_iff.mpr (encode_ne_nil n)

theorem encode_length_le_iff (n k : Nat) : (encode n).length ≤ k + 1 ↔ n < 128 ^ (k + 1) := by
  induction k generalizing n with
  | zero =>
      by_cases small : n < 128
      · simp [encode_of_lt small, small]
      · have rest := encode_length_pos (n / 128)
        rw [encode_of_ge (by omega), List.length_cons]
        omega
  | succ k ih =>
      by_cases small : n < 128
      · have : 128 ^ 1 ≤ 128 ^ (k + 1 + 1) := Nat.pow_le_pow_right (by omega) (by omega)
        simp only [encode_of_lt small, List.length_singleton]
        omega
      · rw [encode_of_ge (by omega), List.length_cons, Nat.add_le_add_iff_right, ih,
          Nat.div_lt_iff_lt_mul (by omega), ← Nat.pow_succ]

theorem encode_length_le {n k : Nat} (h : n < 128 ^ (k + 1)) : (encode n).length ≤ k + 1 :=
  (encode_length_le_iff n k).mpr h

theorem encode_length_isLeast (n : Nat) : IsLeast {k | 0 < k ∧ n < 128 ^ k} (encode n).length := by
  obtain ⟨digits, length⟩ : ∃ digits, (encode n).length = digits + 1 :=
    ⟨(encode n).length - 1, by have := encode_length_pos n; omega⟩
  constructor
  · refine ⟨encode_length_pos n, ?_⟩
    rw [length]
    exact (encode_length_le_iff n digits).mp length.le
  · rintro k ⟨positive, enough⟩
    obtain ⟨k, rfl⟩ : ∃ m, k = m + 1 := ⟨k - 1, by omega⟩
    exact encode_length_le enough

theorem encode_length_digits {n : Nat} (positive : 0 < n) :
    (encode n).length = (Nat.digits 128 n).length := by
  induction n using encode.induct with
  | case1 n last => rw [encode_of_lt last, Nat.digits_of_lt 128 n positive.ne' last]; rfl
  | case2 n more ih =>
      rw [encode_of_ge (Nat.not_lt.mp more), Nat.digits_def' (by decide) positive,
        List.length_cons, List.length_cons, ih (by omega)]

/-! ## The bytes -/

theorem toNat_last {n : Nat} (last : n < 128) : (UInt8.ofNat n).toNat = n :=
  UInt8.toNat_ofNat_of_lt (by change _ < 256; omega)

theorem toNat_more (n : Nat) : (UInt8.ofNat (n % 128 + 128)).toNat = n % 128 + 128 :=
  UInt8.toNat_ofNat_of_lt (by change _ < 256; omega)

theorem encode_continues {n i : Nat} (inside : i < (encode n).length) :
    128 ≤ ((encode n).getD i 0).toNat ↔ i + 1 < (encode n).length := by
  induction n using encode.induct generalizing i with
  | case1 n last =>
      rw [encode_of_lt last, List.length_singleton] at inside ⊢
      obtain rfl : i = 0 := by omega
      rw [List.getD_cons_zero, toNat_last last]
      omega
  | case2 n more ih =>
      rw [encode_of_ge (Nat.not_lt.mp more), List.length_cons] at inside ⊢
      cases i with
      | zero =>
          have others := encode_length_pos (n / 128)
          rw [List.getD_cons_zero, toNat_more]
          omega
      | succ i =>
          rw [List.getD_cons_succ, ih (by omega)]
          omega

theorem encode_last_ne_zero {n : Nat} (several : 1 < (encode n).length) :
    (encode n).getD ((encode n).length - 1) 0 ≠ 0 := by
  have large : ∀ n, n ≠ 0 → (encode n).getD ((encode n).length - 1) 0 ≠ 0 := by
    intro n
    induction n using encode.induct with
    | case1 n last =>
        intro nonzero zero
        rw [encode_of_lt last, List.length_singleton, List.getD_cons_zero] at zero
        have value := congrArg UInt8.toNat zero
        rw [toNat_last last] at value
        exact nonzero value
    | case2 n more ih =>
        intro _
        have rest := ih (by omega)
        have others := encode_length_pos (n / 128)
        have index : (encode (n / 128)).length + 1 - 1 = (encode (n / 128)).length - 1 + 1 := by
          omega
        rw [encode_of_ge (Nat.not_lt.mp more), List.length_cons, index, List.getD_cons_succ]
        exact rest
  refine large n ?_
  rintro rfl
  rw [encode_of_lt (by omega)] at several
  exact absurd several (by decide)

theorem encode_sum (n : Nat) :
    ∑ i ∈ Finset.range (encode n).length, ((encode n).getD i 0).toNat % 128 * 128 ^ i = n := by
  induction n using encode.induct with
  | case1 n last =>
      rw [encode_of_lt last, List.length_singleton, Finset.sum_range_one, List.getD_cons_zero,
        toNat_last last]
      omega
  | case2 n more ih =>
      have weight : ∀ i, ((encode (n / 128)).getD i 0).toNat % 128 * 128 ^ (i + 1) =
          ((encode (n / 128)).getD i 0).toNat % 128 * 128 ^ i * 128 := fun i => by ring
      rw [encode_of_ge (Nat.not_lt.mp more), List.length_cons, Finset.sum_range_succ',
        List.getD_cons_zero, toNat_more]
      simp only [List.getD_cons_succ, weight]
      rw [← Finset.sum_mul, ih]
      omega

theorem encode_length_eq_two {n : Nat} (lower : 128 ≤ n) (upper : n < 128 ^ 2) :
    (encode n).length = 2 := by
  have atMost := encode_length_le (k := 1) upper
  have notOne := (encode_length_le_iff n 0).not.mpr (by omega)
  omega

theorem encode_length_le_self {n : Nat} (h : 0 < n) : (encode n).length ≤ n := by
  obtain ⟨k, rfl⟩ : ∃ k, n = k + 1 := ⟨n - 1, by omega⟩
  exact encode_length_le (Nat.lt_pow_self (by omega))

/-- A number in at most so many bytes. One that is longer than it need be is accepted. -/
def decode : Nat → Decoder UInt8 Nat
  | 0 => Decoder.fail
  | digits + 1 => do
      let byte ← Decoder.item
      if byte.toNat < 128 then return byte.toNat
      else do
        let others ← decode digits
        return byte.toNat - 128 + 128 * others

theorem decode_last {byte : UInt8} (last : byte.toNat < 128) (k : Nat) (rest : List UInt8) :
    decode (k + 1) (byte :: rest) = some (byte.toNat, rest) := by
  rw [decode, Decoder.bind_eq_some]
  refine ⟨byte, rest, rfl, ?_⟩
  rw [if_pos last]
  rfl

theorem decode_more {byte : UInt8} (more : 128 ≤ byte.toNat) {k n : Nat} {input rest : List UInt8} :
    decode (k + 1) (byte :: input) = some (n, rest) ↔
      ∃ others, decode k input = some (others, rest) ∧ byte.toNat - 128 + 128 * others = n := by
  have notLast : ¬byte.toNat < 128 := Nat.not_lt.mpr more
  rw [decode, Decoder.bind_eq_some]
  constructor
  · rintro ⟨_, _, ⟨⟩, continued⟩
    rw [if_neg notLast, Decoder.bind_eq_some] at continued
    obtain ⟨others, middle, decoded, done⟩ := continued
    cases done
    exact ⟨others, decoded, rfl⟩
  · rintro ⟨others, decoded, rfl⟩
    refine ⟨byte, input, rfl, ?_⟩
    rw [if_neg notLast, Decoder.bind_eq_some]
    exact ⟨others, rest, decoded, rfl⟩

theorem decode_encode {n k : Nat} (h : n < 128 ^ (k + 1)) (rest : List UInt8) :
    decode (k + 1) (encode n ++ rest) = some (n, rest) := by
  induction k generalizing n with
  | zero =>
      have byte : (UInt8.ofNat n).toNat = n := toNat_last h
      rw [encode_of_lt h, List.singleton_append, decode_last (by omega), byte]
  | succ k ih =>
      by_cases small : n < 128
      · have byte : (UInt8.ofNat n).toNat = n := toNat_last small
        rw [encode_of_lt small, List.singleton_append, decode_last (by omega), byte]
      · have byte : (UInt8.ofNat (n % 128 + 128)).toNat = n % 128 + 128 := toNat_more n
        have fewer : n / 128 < 128 ^ (k + 1) := by
          rwa [Nat.div_lt_iff_lt_mul (by omega), ← Nat.pow_succ]
        rw [encode_of_ge (by omega), List.cons_append, decode_more (by omega)]
        exact ⟨n / 128, ih fewer, by omega⟩

theorem encode_prefix_free {m n : Nat} (begins : encode m <+: encode n) : m = n := by
  obtain ⟨rest, codes⟩ := begins
  have small : ∀ {i}, i ≤ m + n → i < 128 ^ (m + n + 1) := fun {i} le =>
    (Nat.lt_succ_of_le le).trans (Nat.lt_pow_self (by omega))
  have first := decode_encode (small (Nat.le_add_right m n)) rest
  have second := decode_encode (small (Nat.le_add_left n m)) []
  rw [List.append_nil, ← codes, first] at second
  exact congrArg Prod.fst (Option.some.inj second)

theorem decode_some {k n : Nat} {input rest : List UInt8} (decoded : decode k input = some (n, rest)) :
    ∃ digits, input = digits ++ rest ∧ digits ≠ [] ∧ (digits.length = 1 → n < 128) := by
  induction k generalizing input n with
  | zero => cases decoded
  | succ k ih =>
      cases input with
      | nil => cases decoded
      | cons byte input =>
          by_cases last : byte.toNat < 128
          · rw [decode_last last] at decoded
            cases decoded
            exact ⟨[byte], rfl, List.cons_ne_nil _ _, fun _ => last⟩
          · rw [decode_more (Nat.not_lt.mp last)] at decoded
            obtain ⟨others, decoded, -⟩ := decoded
            obtain ⟨digits, rfl, nonempty, -⟩ := ih decoded
            refine ⟨byte :: digits, rfl, List.cons_ne_nil _ _, fun one => ?_⟩
            exact absurd (List.length_eq_zero_iff.mp (Nat.succ.inj one)) nonempty

end Dpubsub.Lib.Varint
