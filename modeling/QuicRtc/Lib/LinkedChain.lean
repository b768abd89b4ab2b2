import Mathlib.Data.List.Basic
import Mathlib.Data.List.Nodup
import Mathlib.Logic.Function.Basic

/-!
# Chains of pointers

A function `next : α → Option α` gives every cell the one behind it, if there is one.
`Chain next a l` says that following the pointers from the cell `a` visits the cells of `l` and
ends, and `Ends next a` that it ends at all.

* `Chain.unique`, `Chain.nodup`: there is one chain from a cell, and no cell is on it twice.
* `Chain.update`, `Chain.relink`: a chain when the pointer of one cell is set.
* `ends_update_iff`: setting the pointer of a cell keeps all chains finite exactly if the cell is
  not on the chain that it is made to point to.
-/

namespace LinkedChain

variable {α : Type*} {next : α → Option α} {a b x : α} {l m front back : List α}

/-- Following the pointers from a cell visits these cells and ends. -/
inductive Chain (next : α → Option α) : α → List α → Prop where
  | last {a : α} (link : next a = none) : Chain next a [a]
  | cons {a b : α} {l : List α} (link : next a = some b) (tail : Chain next b l) :
    Chain next a (a :: l)

/-- Following the pointers from a cell ends. -/
def Ends (next : α → Option α) (a : α) : Prop := ∃ l, Chain next a l

namespace Chain

/-- The cell itself comes first. -/
theorem exists_cons (h : Chain next a l) : ∃ rest, l = a :: rest := by
  cases h with
  | last => exact ⟨[], rfl⟩
  | @cons _ _ l => exact ⟨l, rfl⟩

theorem unique (h : Chain next a l) (h' : Chain next a m) : l = m := by
  induction h generalizing m with
  | last hnone =>
    cases h' with
    | last => rfl
    | cons hsome => exact absurd (hnone.symm.trans hsome) (Option.some_ne_none _).symm
  | cons hsome _ ih =>
    cases h' with
    | last hnone => exact absurd (hnone.symm.trans hsome) (Option.some_ne_none _).symm
    | cons hsome' htail =>
      obtain rfl := Option.some.inj (hsome.symm.trans hsome')
      rw [ih htail]

/-- From a cell of the chain on it is the chain of this cell. -/
theorem suffix (h : Chain next a l) (hx : x ∈ l) :
    ∃ front back, l = front ++ back ∧ Chain next x back := by
  induction h with
  | last hnone =>
    obtain rfl := List.mem_singleton.1 hx
    exact ⟨[], _, rfl, .last hnone⟩
  | @cons a b l hsome htail ih =>
    rcases List.mem_cons.1 hx with rfl | hmem
    · exact ⟨[], _, rfl, .cons hsome htail⟩
    · obtain ⟨front, back, rfl, hback⟩ := ih hmem
      exact ⟨a :: front, back, rfl, hback⟩

/-- A cell that comes back would be followed by the whole chain once more. -/
theorem nodup (h : Chain next a l) : l.Nodup := by
  induction h with
  | last => exact List.nodup_singleton _
  | @cons a b l hsome htail ih =>
    refine List.nodup_cons.2 ⟨fun hmem => ?_, ih⟩
    obtain ⟨front, back, rfl, hback⟩ := htail.suffix hmem
    have heq := congrArg List.length ((Chain.cons hsome htail).unique hback)
    rw [List.length_cons, List.length_append] at heq
    omega

/-- The pointer of the last cell is empty. -/
theorem getLast? (h : Chain next a l) : ∃ x, l.getLast? = some x ∧ next x = none := by
  induction h with
  | last hnone => exact ⟨_, rfl, hnone⟩
  | @cons a b l hsome htail ih =>
    obtain ⟨x, hlast, hnone⟩ := ih
    obtain ⟨rest, rfl⟩ := htail.exists_cons
    exact ⟨x, by rw [List.getLast?_cons_cons]; exact hlast, hnone⟩

/-- The cell without a pointer is the last one. -/
theorem eq_append_of_none (h : Chain next a l) (hx : x ∈ l) (hnone : next x = none) :
    ∃ front, l = front ++ [x] := by
  obtain ⟨front, back, rfl, hback⟩ := h.suffix hx
  exact ⟨front, by rw [hback.unique (.last hnone)]⟩

variable [DecidableEq α] {target : Option α}

/-- The pointer of a cell that is not on the chain. -/
theorem update (h : Chain next a l) (hx : x ∉ l) : Chain (Function.update next x target) a l := by
  induction h with
  | @last a hnone =>
    have hne : a ≠ x := fun heq => hx (List.mem_singleton.2 heq.symm)
    exact .last (by rw [Function.update_of_ne hne, hnone])
  | @cons a b l hsome _ ih =>
    have hne : a ≠ x := fun heq => hx (List.mem_cons.2 (Or.inl heq.symm))
    exact .cons (by rw [Function.update_of_ne hne, hsome])
      (ih fun hmem => hx (List.mem_cons_of_mem _ hmem))

/-- Up to a cell of the chain nothing changes, and behind it comes what follows it now. -/
theorem relink (h : Chain next a (front ++ x :: back))
    (hm : Chain (Function.update next x target) x m) :
    Chain (Function.update next x target) a (front ++ m) := by
  induction front generalizing a with
  | nil =>
    obtain ⟨rest, hrest⟩ := h.exists_cons
    obtain ⟨rfl, -⟩ := List.cons.inj hrest
    exact hm
  | cons c front ih =>
    have hnodup := h.nodup
    generalize hl : c :: front ++ x :: back = l at h
    cases h with
    | last =>
      rw [List.cons_append, List.cons.injEq] at hl
      exact absurd hl.2 (by simp)
    | @cons _ b l hsome htail =>
      obtain ⟨rfl, rfl⟩ := List.cons.inj hl
      have hne : c ≠ x := by
        rintro rfl
        rw [List.cons_append] at hnodup
        exact (List.nodup_cons.1 hnodup).1 (List.mem_append_right _ List.mem_cons_self)
      exact .cons (by rw [Function.update_of_ne hne, hsome]) (ih htail)

end Chain

section Update

variable [DecidableEq α]

/-- A cell that points to a chain on which it is itself. -/
theorem not_ends_update (h : Chain next b m) (hx : x ∈ m) :
    ¬Ends (Function.update next x (some b)) x := by
  rintro ⟨l, hl⟩
  obtain ⟨front, back, rfl, hback⟩ := h.suffix hx
  obtain ⟨rest, rfl⟩ := hback.exists_cons
  -- from `b` the pointers lead to `x` as before, and from there around
  have hround := h.relink hl
  have htwice : Chain (Function.update next x (some b)) x (x :: (front ++ l)) :=
    .cons (Function.update_self ..) hround
  have heq := congrArg List.length (hl.unique htwice)
  rw [List.length_cons, List.length_append] at heq
  omega

/-- Setting a pointer keeps all chains finite exactly if it closes no circle. -/
theorem ends_update_iff (h : ∀ a, Ends next a) {target : Option α} :
    (∀ a, Ends (Function.update next x target) a) ↔
      ∀ b ∈ target, ∀ m, Chain next b m → x ∉ m := by
  constructor
  · rintro hall b rfl m hm hx
    exact not_ends_update hm hx (hall x)
  · intro hfree
    have hself : Ends (Function.update next x target) x := by
      cases target with
      | none => exact ⟨[x], .last (Function.update_self ..)⟩
      | some b =>
        obtain ⟨m, hm⟩ := h b
        exact ⟨x :: m, .cons (Function.update_self ..) (hm.update (hfree b rfl m hm))⟩
    intro a
    obtain ⟨l, hl⟩ := h a
    by_cases hx : x ∈ l
    · obtain ⟨front, back, rfl, hback⟩ := hl.suffix hx
      obtain ⟨rest, rfl⟩ := hback.exists_cons
      obtain ⟨m, hm⟩ := hself
      exact ⟨front ++ m, hl.relink hm⟩
    · exact ⟨l, hl.update hx⟩

end Update

end LinkedChain
