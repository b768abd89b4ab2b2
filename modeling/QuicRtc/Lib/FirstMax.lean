import Mathlib.Data.List.Count
import Mathlib.Data.List.MinMax

/-!
# The first element with the highest key

`List.argmax` selects the first element with the highest key. A reordering of a list moves elements
with distinct keys past each other and keeps the order of the elements with one key.

* `argmax_eq_some_iff_head?`: what is selected, by its key and its place.
* `Reordered.argmax_eq`: a reordering does not change what is selected.
* `Reordered.head?_filter`: the first element of a reordering was the first one with its key.
-/

namespace FirstMax

variable {α β : Type*} {f : α → β} {l l' : List α} {a : α}

section Selection

variable [LinearOrder β]

/-- What is selected has the highest key, and is the first one with that key. -/
theorem head?_filter_of_argmax (h : l.argmax f = some a) :
    (∀ b ∈ l, f b ≤ f a) ∧ (l.filter (f · = f a)).head? = some a := by
  refine ⟨fun b hb => List.le_of_mem_argmax hb h, ?_⟩
  induction l using List.reverseRecOn generalizing a with
  | nil => cases h
  | append_singleton l x ih =>
    rw [List.argmax_concat] at h
    rw [List.filter_append]
    cases hl : l.argmax f with
    | none =>
      rw [hl] at h
      obtain rfl := Option.some.inj h
      rw [List.argmax_eq_none.1 hl]
      simp
    | some c =>
      rw [hl] at h
      simp only at h
      split_ifs at h with hlt
      · -- all the keys before are below the key of the last element
        obtain rfl := Option.some.inj h
        have hnone : l.filter (f · = f x) = [] := by
          refine List.filter_eq_nil_iff.2 fun b hb => ?_
          have hle : f b ≤ f c := List.le_of_mem_argmax hb hl
          simpa using (hle.trans_lt hlt).ne
        rw [hnone]
        simp
      · obtain rfl := Option.some.inj h
        rw [List.head?_append, ih hl]
        rfl

theorem argmax_eq_some_iff_head? : l.argmax f = some a ↔
    (∀ b ∈ l, f b ≤ f a) ∧ (l.filter (f · = f a)).head? = some a := by
  constructor
  · exact head?_filter_of_argmax
  · rintro ⟨hle, hhead⟩
    have hmem : a ∈ l := (List.mem_filter.1 (List.mem_of_head? hhead)).1
    cases hl : l.argmax f with
    | none =>
      rw [List.argmax_eq_none.1 hl] at hmem
      cases hmem
    | some c =>
      obtain ⟨hmax, hfirst⟩ := head?_filter_of_argmax hl
      have hkey : f c = f a :=
        le_antisymm (hle c (List.argmax_mem hl)) (hmax a hmem)
      rw [hkey, hhead] at hfirst
      exact hfirst.symm

end Selection

section Reorderings

variable [DecidableEq β]

/-- The elements with one key stand in the same order. -/
def Reordered (f : α → β) (l l' : List α) : Prop :=
  ∀ k, l'.filter (f · = k) = l.filter (f · = k)

theorem Reordered.refl (f : α → β) (l : List α) : Reordered f l l := fun _ => rfl

/-- A reordering is a permutation. -/
theorem Reordered.perm (h : Reordered f l l') : l.Perm l' := by
  classical
  refine List.perm_iff_count.2 fun a => ?_
  have hcount : ∀ xs : List α, (xs.filter (f · = f a)).count a = xs.count a :=
    fun xs => List.count_filter (by simp)
  rw [← hcount l, ← hcount l', h (f a)]

/-- Elements are left out of both lists. -/
theorem Reordered.filter (h : Reordered f l l') (p : α → Bool) :
    Reordered f (l.filter p) (l'.filter p) := by
  intro k
  rw [List.filter_comm, h k, List.filter_comm]

/-- The elements with one key move to the front. -/
theorem Reordered.front (f : α → β) (l : List α) (k : β) :
    Reordered f l (l.filter (f · = k) ++ l.filter (f · ≠ k)) := by
  intro j
  rw [List.filter_append, List.filter_filter, List.filter_filter]
  by_cases hj : j = k
  · subst hj
    simp
  · have hfront : l.filter (fun b => f b = j && f b = k) = [] := by
      refine List.filter_eq_nil_iff.2 fun b _ => ?_
      simp only [Bool.and_eq_true, decide_eq_true_eq, not_and]
      rintro rfl
      exact hj
    have hback : ∀ b, (decide (f b = j) && decide (f b ≠ k)) = decide (f b = j) := by
      intro b
      by_cases hb : f b = j
      · simp [hb, hj]
      · simp [hb]
    simp only [hfront, hback, List.nil_append]

theorem Reordered.head?_filter (h : Reordered f l l') (ha : l'.head? = some a) :
    (l.filter (f · = f a)).head? = some a := by
  obtain ⟨rest, rfl⟩ := List.head?_eq_some_iff.1 ha
  rw [← h (f a), List.filter_cons_of_pos (by simp), List.head?_cons]

end Reorderings

/-- A reordering does not change what is selected. -/
theorem Reordered.argmax_eq [LinearOrder β] (h : Reordered f l l') :
    l'.argmax f = l.argmax f := by
  ext a
  have hmem : ∀ b, b ∈ l' ↔ b ∈ l := fun b => h.perm.mem_iff.symm
  rw [argmax_eq_some_iff_head?, argmax_eq_some_iff_head?, h (f a)]
  simp only [hmem]

end FirstMax
