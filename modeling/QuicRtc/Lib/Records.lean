import Mathlib.Data.List.Basic

/-!
# Records

A stream of pieces, some of which end a record. `Records.split` cuts the stream behind every such
piece, and `Records.split_concat` says what one more piece does, which is what a receiver that keeps
the pieces of the record in progress needs.
-/

namespace Records

variable {α : Type*}

/-- The complete records of a stream, and the pieces of the record in progress. -/
def split (ends : α → Bool) : List α → List (List α) × List α
  | [] => ([], [])
  | x :: xs =>
    let (complete, rest) := split ends xs
    if ends x then ([x] :: complete, rest)
    else
      match complete with
      | [] => ([], x :: rest)
      | record :: records => ((x :: record) :: records, rest)

variable {ends : α → Bool}

/-- A piece that ends a record completes the one in progress. -/
theorem split_concat_of_ends {x : α} (h : ends x = true) (xs : List α) :
    split ends (xs ++ [x]) = ((split ends xs).1 ++ [(split ends xs).2 ++ [x]], []) := by
  induction xs with
  | nil => simp [split, h]
  | cons y xs ih =>
    simp only [List.cons_append, split, ih]
    by_cases hy : ends y = true
    · simp [hy]
    · -- the record that `y` begins is in the rest, or it is the first complete one
      cases (split ends xs).1 <;> simp [hy]

/-- Any other piece is added to the record in progress. -/
theorem split_concat_of_not_ends {x : α} (h : ends x = false) (xs : List α) :
    split ends (xs ++ [x]) = ((split ends xs).1, (split ends xs).2 ++ [x]) := by
  induction xs with
  | nil => simp [split, h]
  | cons y xs ih =>
    simp only [List.cons_append, split, ih]
    by_cases hy : ends y = true
    · simp [hy]
    · cases (split ends xs).1 <;> simp [hy]

end Records
