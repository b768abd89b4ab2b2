import Mathlib.Algebra.BigOperators.Group.List.Basic
import Mathlib.Algebra.GroupWithZero.Nat
import Mathlib.Data.List.TakeDrop

/-!
# Buffers of consecutive fields

A buffer into which fields are written in any order, at offsets that are computed. It is described
as the concatenation of its fields: `overwrite_flatten` writes one of them and leaves the others,
and `slice_flatten` reads one.
-/

namespace Layout

variable {α : Type*}

/-- Write over a part of a buffer. -/
def overwrite (buffer : List α) (i : ℕ) (bytes : List α) : List α :=
  buffer.take i ++ bytes ++ buffer.drop (i + bytes.length)

/-- The `n` symbols from `i` on. -/
def slice (buffer : List α) (i n : ℕ) : List α := (buffer.drop i).take n

theorem overwrite_append {front old bytes back : List α} (h : bytes.length = old.length) :
    overwrite (front ++ old ++ back) front.length bytes = front ++ bytes ++ back := by
  have hfront : (front ++ old ++ back).take front.length = front := by
    rw [List.append_assoc, List.take_left]
  have hback : (front ++ old ++ back).drop (front.length + bytes.length) = back := by
    rw [h, ← List.length_append, List.drop_left]
  rw [overwrite, hfront, hback]

theorem slice_append (front field back : List α) :
    slice (front ++ field ++ back) front.length field.length = field := by
  rw [slice, List.append_assoc, List.drop_left, List.take_left]

/-- Writing behind a part of the buffer. -/
theorem overwrite_length_append {front rest bytes : List α} :
    overwrite (front ++ rest) front.length bytes = front ++ (bytes ++ rest.drop bytes.length) := by
  rw [overwrite, List.take_left, List.drop_length_add_append, List.append_assoc]

theorem slice_length_add_append (front rest : List α) (i n : ℕ) :
    slice (front ++ rest) (front.length + i) n = slice rest i n := by
  rw [slice, slice, List.drop_length_add_append]

section Fields

variable {fields : List (List α)} {k i : ℕ}

/-- The field at an index, with those before and behind it. -/
theorem flatten_eq (hk : k < fields.length) :
    fields.flatten = (fields.take k).flatten ++ fields[k] ++ (fields.drop (k + 1)).flatten := by
  rw [List.append_assoc, ← List.flatten_cons, ← List.drop_eq_getElem_cons hk, ← List.flatten_append,
    List.take_append_drop]

/-- The offset of a field is the size of those before it. -/
def offset (fields : List (List α)) (k : ℕ) : ℕ := ((fields.take k).map List.length).sum

theorem length_flatten_take : (fields.take k).flatten.length = offset fields k := by
  rw [List.length_flatten, offset]

/-- From a field on. -/
theorem drop_offset : fields.flatten.drop (offset fields k) = (fields.drop k).flatten := by
  have hsplit : fields.flatten = (fields.take k).flatten ++ (fields.drop k).flatten := by
    rw [← List.flatten_append, List.take_append_drop]
  rw [hsplit]
  exact List.drop_left' length_flatten_take

/-- A field is inside the buffer. -/
theorem offset_add_le (hk : k < fields.length) :
    offset fields k + fields[k].length ≤ fields.flatten.length := by
  rw [flatten_eq hk, ← length_flatten_take, List.length_append, List.length_append]
  omega

/-- Writing a field. -/
theorem overwrite_flatten (hk : k < fields.length) {bytes : List α}
    (hlength : bytes.length = fields[k].length) :
    overwrite fields.flatten (offset fields k) bytes = (fields.set k bytes).flatten := by
  have hset : (fields.set k bytes).flatten =
      (fields.take k).flatten ++ bytes ++ (fields.drop (k + 1)).flatten := by
    rw [List.set_eq_take_cons_drop _ hk, List.flatten_append, List.flatten_cons, List.append_assoc]
  rw [flatten_eq hk, ← length_flatten_take, overwrite_append hlength, hset]

/-- Reading a field. -/
theorem slice_flatten (hk : k < fields.length) :
    slice fields.flatten (offset fields k) fields[k].length = fields[k] := by
  have hslice := slice_append (fields.take k).flatten fields[k] (fields.drop (k + 1)).flatten
  rwa [← flatten_eq hk, length_flatten_take] at hslice

/-- A buffer of one symbol has every division into fields. -/
theorem replicate_sum_eq_flatten (a : α) (sizes : List ℕ) :
    List.replicate sizes.sum a = (sizes.map fun n => List.replicate n a).flatten := by
  induction sizes with
  | nil => rfl
  | cons n sizes ih => rw [List.sum_cons, List.replicate_add, ih, List.map_cons, List.flatten_cons]

end Fields

end Layout
