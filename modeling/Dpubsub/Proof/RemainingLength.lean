import Dpubsub.Proof.Layout

/-!
# What `encode_remaining_length` writes
-/

namespace Dpubsub.Proof
open Dpubsub.Lib Dpubsub.Model

def encodeInto (bytes : Nat → UInt8) (bufferSize length : Nat) : Int × Cursor :=
  encodeRemainingLength length (Cursor.start (Buffer.fresh bytes)) bufferSize

def code (result : Int × Cursor) : List UInt8 := result.2.buffer.slice result.1.toNat

structure Encodes (length k bufferSize : Nat) (result : Int × Cursor) : Prop where
  refused : bufferSize < k → result.1 = -1
  returned : k ≤ bufferSize → result.1 = k
  inside : ∀ i ∈ result.2.buffer.written, i < bufferSize ∧ i < k
  continued : 0 ≤ result.1 → ∀ i < k, 128 ≤ (result.2.buffer.bytes i).toNat ↔ i + 1 < k
  last : 0 ≤ result.1 → 1 < k → result.2.buffer.bytes (k - 1) ≠ 0
  decoded : 0 ≤ result.1 →
    ∑ i ∈ Finset.range k, (result.2.buffer.bytes i).toNat % 128 * 128 ^ i = length

section
variable (bytes : Nat → UInt8) {bufferSize length : Nat}

theorem encodeInto_fits (size : length < 2 ^ 64)
    (fits : (Varint.encode length).length ≤ bufferSize) : encodeInto bytes bufferSize length =
      (((Varint.encode length).length : Int),
        (Cursor.start (Buffer.fresh bytes)).append (Varint.encode length)) := by
  have room : 0 + (Varint.encode length).length ≤ bufferSize := by omega
  rw [encodeInto, encodeRemainingLength, encodeRemainingLengthFrom_fits _ _ _ _ room, Nat.zero_add,
    intOfSize_of_lt (digits_small size)]

theorem encodeInto_full (full : bufferSize < (Varint.encode length).length) :
    encodeInto bytes bufferSize length = (-1,
      (Cursor.start (Buffer.fresh bytes)).append ((Varint.encode length).take bufferSize)) := by
  have beyond : bufferSize < 0 + (Varint.encode length).length := by omega
  rw [encodeInto, encodeRemainingLength, encodeRemainingLengthFrom_full _ _ _ _ beyond, Nat.sub_zero]

theorem fits_of_returned (returned : 0 ≤ (encodeInto bytes bufferSize length).1) :
    (Varint.encode length).length ≤ bufferSize := by
  by_contra full
  rw [encodeInto_full bytes (Nat.not_le.mp full)] at returned
  cases returned

theorem code_encodeInto (size : length < 2 ^ 64)
    (returned : 0 ≤ (encodeInto bytes bufferSize length).1) :
    code (encodeInto bytes bufferSize length) = Varint.encode length := by
  rw [encodeInto_fits bytes size (fits_of_returned bytes returned), code, Int.toNat_natCast]
  exact Cursor.append_slice _ _

theorem encodeInto_byte (size : length < 2 ^ 64)
    (returned : 0 ≤ (encodeInto bytes bufferSize length).1) {i : Nat}
    (inside : i < (Varint.encode length).length) :
    (encodeInto bytes bufferSize length).2.buffer.bytes i = (Varint.encode length).getD i 0 := by
  rw [encodeInto_fits bytes size (fits_of_returned bytes returned)]
  exact Cursor.append_byte _ _ inside

theorem encodeInto_inside (size : length < 2 ^ 64) :
    ∀ i ∈ (encodeInto bytes bufferSize length).2.buffer.written,
      i < bufferSize ∧ i < (Varint.encode length).length := by
  intro i member
  by_cases fits : (Varint.encode length).length ≤ bufferSize
  · rw [encodeInto_fits bytes size fits, Cursor.mem_append_written] at member
    have below := member.resolve_left List.not_mem_nil
    exact ⟨below.trans_le fits, below⟩
  · rw [encodeInto_full bytes (Nat.not_le.mp fits), Cursor.mem_append_written,
      List.length_take] at member
    have below := member.resolve_left List.not_mem_nil
    exact ⟨below.trans_le (min_le_left _ _), below.trans_le (min_le_right _ _)⟩

theorem encodeInto_encodes (size : length < 2 ^ 64) :
    Encodes length (Varint.encode length).length bufferSize
      (encodeInto bytes bufferSize length) where
  refused full := by rw [encodeInto_full bytes full]
  returned fits := by rw [encodeInto_fits bytes size fits]
  inside := encodeInto_inside bytes size
  continued returned i inside := by
    rw [encodeInto_byte bytes size returned inside]
    exact Varint.encode_continues inside
  last returned several := by
    rw [encodeInto_byte bytes size returned (by omega)]
    exact Varint.encode_last_ne_zero several
  decoded returned := by
    refine Eq.trans (Finset.sum_congr rfl fun i member => ?_) (Varint.encode_sum length)
    rw [encodeInto_byte bytes size returned (Finset.mem_range.mp member)]

end

/-- The function writes the variable length integer of MQTT, and no returned code begins the code of
another length. -/
theorem encodeRemainingLength_varint (length : Nat) (size : length < 2 ^ 64) (bytes : Nat → UInt8)
    (bufferSize : Nat) :
    (∃ k, IsLeast {k | 0 < k ∧ length < 128 ^ k} k ∧
      Encodes length k bufferSize (encodeInto bytes bufferSize length)) ∧
    ∀ length' < 2 ^ 64, ∀ bytes' bufferSize', 0 ≤ (encodeInto bytes bufferSize length).1 →
      0 ≤ (encodeInto bytes' bufferSize' length').1 →
      code (encodeInto bytes bufferSize length) <+: code (encodeInto bytes' bufferSize' length') →
      length = length' := by
  constructor
  · exact ⟨_, Varint.encode_length_isLeast length, encodeInto_encodes bytes size⟩
  · intro length' size' bytes' bufferSize' returned returned' begins
    rw [code_encodeInto bytes size returned, code_encodeInto bytes' size' returned'] at begins
    exact Varint.encode_prefix_free begins

theorem encodeRemainingLength_varint_two : (encodeInto (fun _ => 0) 4 321).1 = 2 := by
  obtain ⟨k, least, encodes⟩ := (encodeRemainingLength_varint 321 (by decide) (fun _ => 0) 4).1
  have atMost : k ≤ 2 := least.2 (by decide)
  have two : k = 2 := by
    obtain ⟨-, enough⟩ := least.1
    rcases (by omega : k = 0 ∨ k = 1 ∨ k = 2) with rfl | rfl | rfl
    · exact absurd enough (by decide)
    · exact absurd enough (by decide)
    · rfl
  rw [encodes.returned (by omega), two]
  rfl

end Dpubsub.Proof
