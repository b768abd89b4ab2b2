import Mathlib.Data.List.Basic
import Mathlib.Data.List.Perm.Basic

/-!
# Threads as lists of operations

A thread is the list of the operations that it has still to execute, and a step of a thread
replaces the first one by what it leads to. An invariant that does not depend on which thread holds
an operation is stated about the operations of all threads together: `Executes` says how a step
changes them, up to their order.
-/

namespace Interleaving

open scoped List

variable {α : Type*} {op x : α} {new pending pending' : List α}

/-- An operation is executed, which leads to the operations `new`. -/
def Executes (op : α) (new pending pending' : List α) : Prop :=
  ∃ others, pending ~ op :: others ∧ pending' ~ new ++ others

/-- Thread `i` goes on with `ops`, and the threads `started` begin. -/
def resume (threads : List (List α)) (i : ℕ) (ops : List α) (started : List (List α)) :
    List (List α) :=
  threads.set i ops ++ started

/-- The operations of one thread, and those of the others. -/
theorem perm_flatten_set {threads : List (List α)} {i : ℕ} {ops : List α}
    (h : threads[i]? = some ops) : ∃ others, threads.flatten ~ ops ++ others ∧
      ∀ ops', (threads.set i ops').flatten ~ ops' ++ others := by
  induction threads generalizing i with
  | nil => simp at h
  | cons thread threads ih =>
    cases i with
    | zero =>
      obtain rfl : thread = ops := by simpa using h
      exact ⟨threads.flatten, by simp, fun ops' => by simp⟩
    | succ i =>
      obtain ⟨others, hperm, hset⟩ := ih (by simpa using h)
      refine ⟨thread ++ others, ?_, fun ops' => ?_⟩
      · simpa using (hperm.append_left thread).trans (List.perm_append_comm_assoc _ _ _)
      · simpa using ((hset ops').append_left thread).trans (List.perm_append_comm_assoc _ _ _)

namespace Executes

/-- A thread executes its first operation. -/
theorem head (new rest : List α) : Executes op new (op :: rest) (new ++ rest) :=
  ⟨rest, .rfl, .rfl⟩

/-- The operations of other threads do not change. -/
theorem append_right (h : Executes op new pending pending') (others : List α) :
    Executes op new (pending ++ others) (pending' ++ others) := by
  obtain ⟨rest, hpending, hpending'⟩ := h
  refine ⟨rest ++ others, hpending.append_right others, ?_⟩
  rw [← List.append_assoc]
  exact hpending'.append_right others

theorem append_left (h : Executes op new pending pending') (others : List α) :
    Executes op new (others ++ pending) (others ++ pending') := by
  obtain ⟨rest, hpending, hpending'⟩ := h
  refine ⟨others ++ rest, ?_, ?_⟩
  · exact (hpending.append_left others).trans List.perm_middle
  · exact (hpending'.append_left others).trans (List.perm_append_comm_assoc _ _ _)

/-- Operations of threads that begin. -/
theorem started (h : Executes op new pending pending') (ops : List α) :
    Executes op (new ++ ops) pending (pending' ++ ops) := by
  obtain ⟨rest, hpending, hpending'⟩ := h
  refine ⟨rest, hpending, ?_⟩
  calc pending' ++ ops ~ new ++ rest ++ ops := hpending'.append_right ops
    _ = new ++ (rest ++ ops) := List.append_assoc _ _ _
    _ ~ new ++ (ops ++ rest) := List.perm_append_comm.append_left new
    _ = new ++ ops ++ rest := (List.append_assoc _ _ _).symm

/-- Thread `i` executes its first operation. -/
theorem resume {threads : List (List α)} {i : ℕ} {rest : List α}
    (h : threads[i]? = some (op :: rest)) (new : List α) (begun : List (List α)) :
    Executes op (new ++ begun.flatten) threads.flatten
      (resume threads i (new ++ rest) begun).flatten := by
  obtain ⟨others, hperm, hset⟩ := perm_flatten_set h
  rw [Interleaving.resume, List.flatten_append]
  refine started ⟨rest ++ others, hperm, ?_⟩ begun.flatten
  rw [← List.append_assoc]
  exact hset (new ++ rest)

theorem op_mem (h : Executes op new pending pending') : op ∈ pending := by
  obtain ⟨others, hpending, -⟩ := h
  exact hpending.mem_iff.2 List.mem_cons_self

theorem mem_new (h : Executes op new pending pending') (hx : x ∈ new) : x ∈ pending' := by
  obtain ⟨others, -, hpending'⟩ := h
  exact hpending'.mem_iff.2 (List.mem_append_left _ hx)

/-- The other operations are still pending. -/
theorem mem_of_ne (h : Executes op new pending pending') (hx : x ∈ pending) (hne : x ≠ op) :
    x ∈ pending' := by
  obtain ⟨others, hpending, hpending'⟩ := h
  have hothers : x ∈ others := List.mem_of_ne_of_mem hne (hpending.mem_iff.1 hx)
  exact hpending'.mem_iff.2 (List.mem_append_right _ hothers)

theorem mem_cases (h : Executes op new pending pending') (hx : x ∈ pending') :
    x ∈ new ∨ x ∈ pending := by
  obtain ⟨others, hpending, hpending'⟩ := h
  refine (List.mem_append.1 (hpending'.mem_iff.1 hx)).imp id fun hothers => ?_
  exact hpending.mem_iff.2 (List.mem_cons_of_mem op hothers)

/-- How the number of operations of a kind changes. -/
theorem countP (h : Executes op new pending pending') (p : α → Bool) :
    pending'.countP p + [op].countP p = pending.countP p + new.countP p := by
  obtain ⟨others, hpending, hpending'⟩ := h
  rw [hpending.countP_eq, hpending'.countP_eq, ← List.singleton_append (l := others),
    List.countP_append, List.countP_append]
  omega

end Executes

end Interleaving
