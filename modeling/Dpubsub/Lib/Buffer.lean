import Mathlib.Logic.Function.Basic
import Mathlib.Data.List.Range
import Mathlib.Data.List.GetD

/-!
# Byte buffers that remember where they were written

`Buffer` is the memory a `char *` points into, with the indices written through the pointer so
far; nothing bounds the indices. `Cursor` is a position in it: `push` is `buffer[index++] = v`,
and `append` is a `memcpy` that moves the index on.
-/

namespace Dpubsub.Lib

structure Buffer where
  bytes : Nat → UInt8
  written : List Nat

def Buffer.fresh (bytes : Nat → UInt8) : Buffer := ⟨bytes, []⟩

def Buffer.put (b : Buffer) (i : Nat) (v : UInt8) : Buffer :=
  ⟨Function.update b.bytes i v, b.written ++ [i]⟩

def Buffer.slice (b : Buffer) (n : Nat) : List UInt8 := (List.range n).map b.bytes

@[simp] theorem Buffer.slice_length (b : Buffer) (n : Nat) : (b.slice n).length = n := by
  simp [slice]

theorem range_map_prefix (data : Nat → UInt8) {k n : Nat} (le : k ≤ n) :
    (List.range k).map data <+: (List.range n).map data := by
  obtain ⟨rest, rfl⟩ := Nat.exists_eq_add_of_le le
  rw [List.range_add, List.map_append]
  exact List.prefix_append _ _

structure Cursor where
  buffer : Buffer
  index : Nat

namespace Cursor

def start (b : Buffer) : Cursor := ⟨b, 0⟩

def push (c : Cursor) (v : UInt8) : Cursor := ⟨c.buffer.put c.index v, c.index + 1⟩

def append (c : Cursor) (bytes : List UInt8) : Cursor := bytes.foldl push c

variable (c : Cursor) (xs ys : List UInt8) (v : UInt8)

@[simp] theorem start_index (b : Buffer) : (start b).index = 0 := rfl
@[simp] theorem start_buffer (b : Buffer) : (start b).buffer = b := rfl
@[simp] theorem append_nil : c.append [] = c := rfl
@[simp] theorem append_append : (c.append xs).append ys = c.append (xs ++ ys) := by
  simp [append, List.foldl_append]

theorem append_cons : c.append (v :: xs) = (c.push v).append xs := rfl

theorem push_eq_append : c.push v = c.append [v] := rfl

@[simp] theorem push_index : (c.push v).index = c.index + 1 := rfl

theorem push_bytes : (c.push v).buffer.bytes = Function.update c.buffer.bytes c.index v := rfl

theorem push_written : (c.push v).buffer.written = c.buffer.written ++ [c.index] := rfl

@[simp] theorem append_index : (c.append xs).index = c.index + xs.length := by
  induction xs generalizing c with
  | nil => rfl
  | cons x xs ih =>
      rw [append_cons, ih, push_index, List.length_cons]
      omega

theorem append_written :
    (c.append xs).buffer.written = c.buffer.written ++ List.range' c.index xs.length := by
  induction xs generalizing c with
  | nil => simp
  | cons x xs ih =>
      rw [append_cons, ih, push_written, push_index, List.length_cons, List.range'_succ]
      simp

theorem append_bytes (i : Nat) : (c.append xs).buffer.bytes i =
    if c.index ≤ i then xs.getD (i - c.index) (c.buffer.bytes i) else c.buffer.bytes i := by
  induction xs generalizing c with
  | nil => simp
  | cons x xs ih =>
      rw [append_cons, ih, push_bytes]
      rcases lt_trichotomy i c.index with before | rfl | after
      · have notAfter : ¬c.index + 1 ≤ i := by omega
        simp [notAfter, before.not_ge, before.ne]
      · simp
      · obtain ⟨k, rfl⟩ : ∃ k, i = c.index + 1 + k := ⟨i - (c.index + 1), by omega⟩
        have shift : c.index + 1 + k - c.index = k + 1 := by omega
        simp [shift, after.le, after.ne']

theorem append_byte (b : Buffer) {i : Nat} (inside : i < xs.length) :
    ((start b).append xs).buffer.bytes i = xs.getD i 0 := by
  rw [append_bytes, start_index, if_pos (Nat.zero_le i), Nat.sub_zero,
    List.getD_eq_getElem _ _ inside, List.getD_eq_getElem _ _ inside]

theorem mem_append_written (b : Buffer) (i : Nat) :
    i ∈ ((start b).append xs).buffer.written ↔ i ∈ b.written ∨ i < xs.length := by
  rw [append_written, List.mem_append, List.mem_range'_1]
  simp

@[simp] theorem append_slice (b : Buffer) :
    ((start b).append xs).buffer.slice xs.length = xs := by
  apply List.ext_getElem
  · simp [Buffer.slice]
  · intro i _ h
    simp [Buffer.slice, append_bytes, h]

end Cursor
end Dpubsub.Lib
