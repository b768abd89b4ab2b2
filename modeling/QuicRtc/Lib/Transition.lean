import Mathlib.Data.Int.Notation
import Mathlib.Data.List.Basic
import Mathlib.Data.Nat.Notation

/-!
# Runs of a partial step function

A state machine is given by `step : σ → ε → Option σ`, with `none` where the event is not enabled.
`Transition.run step s es` executes a list of events, and `Transition.Meets step ok s es` says that
every step of that execution satisfies the condition `ok` on the state before it and the event.

* `run_invariant`: what holds at the start and is preserved by every step that meets the condition
  holds at the end of every run whose steps all meet it.
* `forall_prefix_iff_meets`: if in addition a step that misses the condition destroys the
  property, then the property holds all along a run exactly when all its steps meet the condition.
  `forall_prefix_iff_meets_of_invariant` carries a stronger invariant along.
* `natAbs_sub_le_length`: a counter that every step changes by at most one.
-/

namespace Transition

variable {σ ε : Type*} {step : σ → ε → Option σ} {ok : σ → ε → Prop}

/-- Execute the events in order; `none` as soon as one of them is not enabled. -/
def run (step : σ → ε → Option σ) (s : σ) : List ε → Option σ
  | [] => some s
  | e :: es => (step s e).bind fun s' => run step s' es

/-- Every step of the execution of `es` from `s` satisfies `ok` where it is taken. -/
def Meets (step : σ → ε → Option σ) (ok : σ → ε → Prop) (s : σ) : List ε → Prop
  | [] => True
  | e :: es => ok s e ∧ ∀ s', step s e = some s' → Meets step ok s' es

instance decidableMeets [∀ s e, Decidable (ok s e)] :
    ∀ (s : σ) (es : List ε), Decidable (Meets step ok s es)
  | _, [] => isTrue trivial
  | s, e :: es =>
    match hstep : step s e with
    | none => decidable_of_iff (ok s e) (by simp [Meets, hstep])
    | some s' =>
      have := decidableMeets s' es
      decidable_of_iff (ok s e ∧ Meets step ok s' es) (by simp [Meets, hstep])

@[simp]
theorem run_nil (s : σ) : run step s [] = some s := rfl

/-- A run with a first event splits into that step and the rest. -/
theorem run_cons {s t : σ} {e : ε} {es : List ε} :
    run step s (e :: es) = some t ↔ ∃ s', step s e = some s' ∧ run step s' es = some t := by
  simp [run, Option.bind_eq_some_iff]

/-- A run splits at any of its events. -/
theorem run_append {s t : σ} {es fs : List ε} :
    run step s (es ++ fs) = some t ↔ ∃ u, run step s es = some u ∧ run step u fs = some t := by
  induction es generalizing s with
  | nil => simp
  | cons e es ih =>
    constructor
    · intro h
      obtain ⟨s', hs', hrest⟩ := run_cons.1 h
      obtain ⟨u, hu, ht⟩ := ih.1 hrest
      exact ⟨u, run_cons.2 ⟨s', hs', hu⟩, ht⟩
    · rintro ⟨u, hu, ht⟩
      obtain ⟨s', hs', hrest⟩ := run_cons.1 hu
      exact run_cons.2 ⟨s', hs', ih.2 ⟨u, hrest, ht⟩⟩

/-- The condition is met along a run if it is met along its parts. -/
theorem meets_append {s u : σ} {es fs : List ε} (hrun : run step s es = some u)
    (hes : Meets step ok s es) (hfs : Meets step ok u fs) : Meets step ok s (es ++ fs) := by
  induction es generalizing s with
  | nil =>
    obtain rfl : s = u := by simpa using hrun
    exact hfs
  | cons e es ih =>
    obtain ⟨s', hs', hrest⟩ := run_cons.1 hrun
    refine ⟨hes.1, fun s'' hs'' => ?_⟩
    obtain rfl : s' = s'' := Option.some.inj (hs'.symm.trans hs'')
    exact ih hrest (hes.2 s' hs')

/-- The invariant rule: a property preserved by every step that meets the condition holds at the
end of every run whose steps all meet it. -/
theorem run_invariant {P : σ → Prop}
    (hstep : ∀ s e s', P s → ok s e → step s e = some s' → P s')
    {s t : σ} {es : List ε} (hs : P s) (hok : Meets step ok s es)
    (hrun : run step s es = some t) : P t := by
  induction es generalizing s with
  | nil =>
    obtain rfl : s = t := by simpa using hrun
    exact hs
  | cons e es ih =>
    obtain ⟨s', hs', hrest⟩ := run_cons.1 hrun
    exact ih (hstep s e s' hs hok.1 hs') (hok.2 s' hs') hrest

/-- A condition on the events alone is met when it holds of every event. -/
theorem meets_of_forall {ok : ε → Prop} {s : σ} {es : List ε} (h : ∀ e ∈ es, ok e) :
    Meets step (fun _ e => ok e) s es := by
  induction es generalizing s with
  | nil => trivial
  | cons e es ih =>
    obtain ⟨he, hrest⟩ := List.forall_mem_cons.1 h
    exact ⟨he, fun _ _ => ih hrest⟩

/-- The invariant rule for runs without a condition. -/
theorem run_invariant_all {P : σ → Prop}
    (hstep : ∀ s e s', P s → step s e = some s' → P s')
    {s t : σ} {es : List ε} (hs : P s) (hrun : run step s es = some t) : P t := by
  have hok : Meets step (fun _ _ => True) s es := meets_of_forall fun _ _ => trivial
  exact run_invariant (fun s e s' hP _ h => hstep s e s' hP h) hs hok hrun

/-- A counter that every step changes by at most one is moved by at most the number of steps. -/
theorem natAbs_sub_le_length {f : σ → ℤ}
    (hstep : ∀ s e s', step s e = some s' → (f s' - f s).natAbs ≤ 1)
    {s t : σ} {es : List ε} (hrun : run step s es = some t) :
    (f t - f s).natAbs ≤ es.length := by
  induction es generalizing s with
  | nil =>
    obtain rfl : s = t := by simpa using hrun
    rw [Int.sub_self]
    exact Nat.zero_le _
  | cons e es ih =>
    obtain ⟨s', hs', hrest⟩ := run_cons.1 hrun
    have hfirst := hstep s e s' hs'
    have hlater := ih hrest
    rw [List.length_cons]
    omega

/-- The exact condition rule: if a step that meets the condition preserves an invariant that implies
the property, and a step that misses it destroys the property, then the property holds all along a
run exactly when all its steps meet the condition. -/
theorem forall_prefix_iff_meets_of_invariant {P I : σ → Prop} (himp : ∀ s, I s → P s)
    (hstep : ∀ s e s', I s → ok s e → step s e = some s' → I s')
    (hbad : ∀ s e s', I s → ¬ok s e → step s e = some s' → ¬P s')
    {s t : σ} {es : List ε} (hs : I s) (hrun : run step s es = some t) :
    (∀ fs, fs <+: es → ∀ u, run step s fs = some u → P u) ↔ Meets step ok s es := by
  induction es generalizing s with
  | nil =>
    refine ⟨fun _ => trivial, fun _ fs hfs u hu => ?_⟩
    obtain rfl := List.prefix_nil.1 hfs
    obtain rfl : s = u := by simpa using hu
    exact himp s hs
  | cons e es ih =>
    obtain ⟨s', hs', hrest⟩ := run_cons.1 hrun
    constructor
    · intro hall
      have hP : P s' := hall [e] (by simp) s' (run_cons.2 ⟨s', hs', rfl⟩)
      -- the property holds after the step, so the step has met the condition
      have hok : ok s e := by
        by_contra hmiss
        exact hbad s e s' hs hmiss hs' hP
      refine ⟨hok, fun s'' hs'' => ?_⟩
      obtain rfl : s' = s'' := Option.some.inj (hs'.symm.trans hs'')
      refine (ih (hstep s e s' hs hok hs') hrest).1 fun fs hfs u hu => ?_
      exact hall (e :: fs) (List.cons_prefix_cons.2 ⟨rfl, hfs⟩) u (run_cons.2 ⟨s', hs', hu⟩)
    · rintro ⟨hok, hmeets⟩ fs hfs u hu
      have hI : I s' := hstep s e s' hs hok hs'
      -- the empty prefix, or one that starts with the same step
      rcases List.prefix_cons_iff.1 hfs with rfl | ⟨fs', rfl, hfs'⟩
      · obtain rfl : s = u := by simpa using hu
        exact himp s hs
      · obtain ⟨s'', hs'', hu'⟩ := run_cons.1 hu
        obtain rfl : s' = s'' := Option.some.inj (hs'.symm.trans hs'')
        exact (ih hI hrest).2 (hmeets s' hs') fs' hfs' u hu'

/-- The exact condition rule for a property that is its own invariant. -/
theorem forall_prefix_iff_meets {P : σ → Prop}
    (hstep : ∀ s e s', P s → ok s e → step s e = some s' → P s')
    (hbad : ∀ s e s', P s → ¬ok s e → step s e = some s' → ¬P s')
    {s t : σ} {es : List ε} (hs : P s) (hrun : run step s es = some t) :
    (∀ fs, fs <+: es → ∀ u, run step s fs = some u → P u) ↔ Meets step ok s es :=
  forall_prefix_iff_meets_of_invariant (fun _ hP => hP) hstep hbad hs hrun

end Transition
