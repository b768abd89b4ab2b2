import Mathlib.Data.List.Basic

/-!
# Reading what was printed piece by piece

A printer writes the lines of the pieces of a list one behind the other, and a reader takes the
lines one by one. `state done` is where the reader stands when it has taken the pieces `done`.

* `foldlM_flatMap`: a reader that takes every piece where it stands takes all of them.
* `foldlM_map`: the same for pieces of one line.
* `foldlM_lift`: a reader that leaves every line to another one leaves all of them to it.
-/

namespace Printed

variable {m : Type → Type*} [Monad m] [LawfulMonad m] {σ : Type} {α β : Type*}
variable {step : σ → β → m σ} {pieces : List α}

theorem foldlM_flatMap {lines : α → List β} (state : List α → σ)
    (h : ∀ done piece rest, pieces = done ++ piece :: rest →
      (lines piece).foldlM step (state done) = pure (state (done ++ [piece]))) :
    (pieces.flatMap lines).foldlM step (state []) = pure (state pieces) := by
  suffices hrest : ∀ rest done, pieces = done ++ rest →
      (rest.flatMap lines).foldlM step (state done) = pure (state pieces) from
    hrest pieces [] rfl
  intro rest
  induction rest with
  | nil =>
    intro done hsplit
    rw [hsplit, List.append_nil]
    rfl
  | cons piece rest ih =>
    intro done hsplit
    have hnext : pieces = done ++ [piece] ++ rest := by
      rw [hsplit, List.append_assoc, List.singleton_append]
    rw [List.flatMap_cons, List.foldlM_append, h done piece rest hsplit, pure_bind, ih _ hnext]

theorem foldlM_map {line : α → β} (state : List α → σ)
    (h : ∀ done piece rest, pieces = done ++ piece :: rest →
      step (state done) (line piece) = pure (state (done ++ [piece]))) :
    (pieces.map line).foldlM step (state []) = pure (state pieces) := by
  rw [List.map_eq_flatMap]
  refine foldlM_flatMap state fun done piece rest hsplit => ?_
  rw [List.foldlM_cons, h done piece rest hsplit, pure_bind]
  rfl

theorem foldlM_lift {τ : Type} {step' : τ → β → m τ} {f : σ → τ} {lines : List β}
    (h : ∀ s, ∀ line ∈ lines, step' (f s) line = f <$> step s line) (s : σ) :
    lines.foldlM step' (f s) = f <$> lines.foldlM step s := by
  induction lines generalizing s with
  | nil => simp
  | cons line lines ih =>
    have hrest := fun s => ih (fun s line hline => h s line (List.mem_cons_of_mem _ hline)) s
    rw [List.foldlM_cons, List.foldlM_cons, h s line List.mem_cons_self, bind_map_left, map_bind]
    simp only [hrest]

end Printed
