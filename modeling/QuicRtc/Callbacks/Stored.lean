import Mathlib.Data.List.Nodup
import QuicRtc.Lib.Transition

/-!
# Stored callbacks

`synchronized_stored_callback` of `rtc/utils.hpp`: a call that finds no callback is stored, and
replayed when a callback is set. The mutex is recursive, so that a callback may set a callback or
call the object again before it returns, and it may leave by an exception.

The class has no assignment of its own, and hides those of `synchronized_callback`: `cb = f` and
`cb = nullptr` build a new object and go through the implicit copy assignment. This calls the
assignment of the base class, which takes the mutex and calls `set`, and then copies `stored`, which
is empty in the new object. So every assignment that does not leave by an exception ends by clearing
what is stored, and the outermost one does so behind the mutex.

The callbacks of the user are not modelled: a frame on the stack is a callback that runs, and while
it is the innermost one it may do anything, return, or throw. What other threads do waits for the
mutex, and comes when the stack is empty.

* `World`: a callback object, the callbacks that run, and what was delivered.
* `Replays`: every call is delivered to the callback it is owed to, and only once.
* `replays_iff_meets`: this holds in a run as long as no callback is set while the stored call has
  already been passed to one, nor after a call that waits has been cleared.
-/

namespace Rtc.StoredCallback

/-- A callback that runs: called by `operator()`, or by the replay in `set`. -/
inductive Frame where
  | call
  | replay
  deriving DecidableEq, Repr

/-- A `synchronized_stored_callback`. Callbacks have names, and calls are named by their number. -/
structure World where
  callback : Option ℕ := none
  stored : Option ℕ := none
  /-- The callbacks that run, the innermost one first. -/
  stack : List Frame := []
  /-- The assignments that have released the mutex and have not copied `stored` yet. -/
  leaving : ℕ := 0
  /-- The number of calls made. -/
  calls : ℕ := 0
  /-- The calls passed to a callback, in order, with the callback. -/
  delivered : List (ℕ × ℕ) := []
  /-- The call made last without a callback, until a callback is set. -/
  waiting : Option ℕ := none
  /-- The calls with the callbacks they are owed to. -/
  owed : List (ℕ × ℕ) := []
  /-- The stored call has been passed to a callback. -/
  isReplayed : Bool := false
  /-- The waiting call has been cleared, by the end of a replay or of an assignment. -/
  isDropped : Bool := false
  deriving DecidableEq, Repr

/-- What the user, or a callback that runs, may do, and the end of an assignment. -/
inductive Event where
  | assign (callback : Option ℕ)
  | call
  | callbackReturns
  | callbackThrows
  | copyStored
  deriving DecidableEq, Repr

namespace World

/-- `stored` is emptied: `stored.reset()`, or a copy of the empty `stored` of a new object. -/
def reset (w : World) : World :=
  { w with
    stored := none
    isReplayed := false
    isDropped := w.isDropped || (w.stored.isSome && !w.isReplayed) }

/-- The end of an assignment. The mutex is released before `stored` is copied, unless a callback of
the same thread still runs. -/
def leave (w : World) : World :=
  if w.stack = [] then { w with leaving := w.leaving + 1 } else w.reset

/-- `operator=`: `set` assigns the callback and replays a stored call. -/
def assign (w : World) : Option ℕ → World
  | none => { w with callback := none }.leave
  | some f =>
    let w :=
      { w with
        callback := some f
        waiting := none
        owed := w.owed ++ w.waiting.toList.map (·, f) }
    match w.stored with
    | none => w.leave
    | some n =>
      -- `stored.reset()` and the end of the assignment come when the callback has returned
      { w with
        stack := .replay :: w.stack
        delivered := w.delivered ++ [(n, f)]
        isReplayed := true }

/-- `call`: the callback is called, or the call stored. -/
def call (w : World) : World :=
  match w.callback with
  | some f =>
    { w with
      calls := w.calls + 1
      stack := .call :: w.stack
      delivered := w.delivered ++ [(w.calls, f)]
      owed := w.owed ++ [(w.calls, f)] }
  | none =>
    { w with
      calls := w.calls + 1
      stored := some w.calls
      waiting := some w.calls
      isReplayed := false
      isDropped := false }

/-- One event. A callback that throws leaves `call` and the assignment at once, so that `stored` is
neither reset nor copied. -/
def step (w : World) : Event → Option World
  | .assign callback => some (w.assign callback)
  | .call => some w.call
  | .callbackReturns =>
    match w.stack with
    | [] => none
    | .call :: rest => some { w with stack := rest }
    | .replay :: rest => some { w with stack := rest }.reset.leave
  | .callbackThrows =>
    match w.stack with
    | [] => none
    | _ :: rest => some { w with stack := rest }
  | .copyStored =>
    if 0 < w.leaving then some { w with leaving := w.leaving - 1 }.reset else none

/-- No call is delivered twice, and each to the callback it is owed to: the one set when it was
made, or the next one set if there was none and no later call took its place. -/
structure Replays (w : World) : Prop where
  once : (w.delivered.map Prod.fst).Nodup
  owed : w.delivered = w.owed

/-- A callback is set only while the stored call, if any, has not been passed to one, and no call
has been cleared since the last one was stored. -/
def MaySet (w : World) : Event → Prop
  | .assign (some _) => (w.stored ≠ none → w.isReplayed = false) ∧ w.isDropped = false
  | _ => True

instance (w : World) : DecidablePred w.MaySet
  | .assign (some _) => inferInstanceAs (Decidable (_ ∧ _))
  | .assign none => isTrue trivial
  | .call => isTrue trivial
  | .callbackReturns => isTrue trivial
  | .callbackThrows => isTrue trivial
  | .copyStored => isTrue trivial

@[simp]
theorem delivered_leave (w : World) : w.leave.delivered = w.delivered := by
  unfold leave
  split <;> rfl

@[simp]
theorem owed_leave (w : World) : w.leave.owed = w.owed := by
  unfold leave
  split <;> rfl

/-! ## One more delivery -/

variable {delivered : List (ℕ × ℕ)} {n f : ℕ}

theorem mem_delivered {m : ℕ} :
    m ∈ (delivered ++ [(n, f)]).map Prod.fst ↔ m ∈ delivered.map Prod.fst ∨ m = n := by
  rw [List.map_append, List.mem_append, List.map_singleton, List.mem_singleton]

theorem nodup_delivered (h : (delivered.map Prod.fst).Nodup)
    (hnew : n ∉ delivered.map Prod.fst) : ((delivered ++ [(n, f)]).map Prod.fst).Nodup := by
  rw [List.map_append, List.map_singleton, List.nodup_append_comm, List.singleton_append]
  exact List.nodup_cons.2 ⟨hnew, h⟩

/-! ## The invariant -/

/-- What is stored is what waits, unless it has been passed to a callback or cleared. -/
structure Inv (w : World) : Prop extends Replays w where
  made : ∀ n ∈ w.delivered.map Prod.fst, n < w.calls
  storedMade : ∀ n ∈ w.stored, n < w.calls
  fresh : ∀ n ∈ w.stored, w.isReplayed = false → n ∉ w.delivered.map Prod.fst
  replayed : ∀ n ∈ w.stored, w.isReplayed = true → n ∈ w.delivered.map Prod.fst
  waiting : w.isDropped = false → w.waiting = if w.isReplayed then none else w.stored
  dropped : w.isDropped = true → w.waiting.isSome = true ∧ w.stored = none

namespace Inv

variable {w w' : World}

theorem start : Inv {} where
  once := .nil
  owed := rfl
  made := fun _ hmem => (List.not_mem_nil hmem).elim
  storedMade := nofun
  fresh := nofun
  replayed := nofun
  waiting := fun _ => rfl
  dropped := nofun

/-- The callbacks that run and the assignments that end do not matter. -/
theorem of_stack (h : Inv w) (stack : List Frame) (leaving : ℕ) :
    Inv { w with stack := stack, leaving := leaving } := { h with }

/-- What is stored is cleared, also a call that came during a replay. -/
theorem reset (h : Inv w) : Inv w.reset := by
  refine { h with
    storedMade := nofun
    fresh := nofun
    replayed := nofun
    waiting := fun hdropped => ?_
    dropped := fun hdropped => ?_ }
  · obtain ⟨hkept, hclean⟩ := Bool.or_eq_false_iff.1 hdropped
    have hwaiting : w.waiting = if w.isReplayed then none else w.stored := h.waiting hkept
    show w.waiting = none
    rw [hwaiting]
    cases hstored : w.stored with
    | none => exact ite_self none
    | some n =>
      -- what is cleared is the call that was replayed, not one stored since
      rw [hstored, Option.isSome_some, Bool.true_and, Bool.not_eq_false'] at hclean
      rw [hclean]
      rfl
  · refine ⟨?_, rfl⟩
    show w.waiting.isSome = true
    rcases Bool.or_eq_true_iff.1 hdropped with hbefore | hcleared
    · exact (h.dropped hbefore).1
    · obtain ⟨hstored, hfresh⟩ := Bool.and_eq_true_iff.1 hcleared
      cases hbefore : w.isDropped with
      | true => exact (h.dropped hbefore).1
      | false =>
        rw [h.waiting hbefore, (Bool.not_eq_true' _).mp hfresh]
        exact hstored

theorem leave (h : Inv w) : Inv w.leave := by
  unfold World.leave
  split
  · exact h.of_stack _ _
  · exact h.reset

theorem assignNone (h : Inv w) : Inv (w.assign none) :=
  (show Inv { w with callback := none } from { h with }).leave

/-- A callback that is set gets the call that waits. -/
theorem assignSome (h : Inv w) {f : ℕ} (hreplayed : w.stored ≠ none → w.isReplayed = false)
    (hdropped : w.isDropped = false) : Inv (w.assign (some f)) := by
  have hwaiting := h.waiting hdropped
  unfold assign
  cases hstored : w.stored with
  -- nothing waits, so nothing is delivered
  | none =>
    have hnone : w.waiting = none := by
      rw [hwaiting, hstored, ite_self]
    have howed : w.owed ++ w.waiting.toList.map (·, f) = w.owed := by
      rw [hnone, Option.toList_none, List.map_nil, List.append_nil]
    dsimp only
    rw [howed]
    apply leave
    exact { h with
      storedMade := nofun
      fresh := nofun
      replayed := nofun
      waiting := fun _ => (ite_self none).symm
      dropped := fun hdropped' => absurd (hdropped'.symm.trans hdropped) (by decide) }
  -- the stored call is delivered for the first time
  | some n =>
    have hfresh : w.isReplayed = false := hreplayed (by rw [hstored]; exact Option.some_ne_none n)
    have hsome : w.waiting = some n := by
      rw [hwaiting, hfresh, hstored]
      rfl
    have hnew := h.fresh n hstored hfresh
    have hmade := h.storedMade n hstored
    dsimp only
    refine ⟨⟨?_, ?_⟩, fun m hm => ?_, fun m hm => ?_, nofun, fun m hm _ => ?_, fun _ => rfl,
      fun hdropped' => absurd (hdropped'.symm.trans hdropped) (by decide)⟩
    · exact nodup_delivered h.once hnew
    · show w.delivered ++ [(n, f)] = w.owed ++ w.waiting.toList.map (·, f)
      rw [h.owed, hsome]
      rfl
    · rcases mem_delivered.1 hm with hold | rfl
      · exact h.made m hold
      · exact hmade
    · obtain rfl := Option.some.inj hm
      exact hmade
    · obtain rfl := Option.some.inj hm
      exact mem_delivered.2 (.inr rfl)

/-- A call is delivered to the callback that is set, or it waits. -/
theorem call (h : Inv w) : Inv w.call := by
  have hlt : ∀ n ∈ w.delivered.map Prod.fst, n < w.calls + 1 :=
    fun n hn => Nat.lt_succ_of_lt (h.made n hn)
  have hnew : w.calls ∉ w.delivered.map Prod.fst := fun hmem => Nat.lt_irrefl _ (h.made _ hmem)
  unfold World.call
  cases hcallback : w.callback with
  | none =>
    -- the call takes the place of the one stored before
    refine { h with
      made := hlt
      storedMade := fun n hn => ?_
      fresh := fun n hn _ => ?_
      replayed := fun _ _ => nofun
      waiting := fun _ => rfl
      dropped := nofun }
    · obtain rfl := Option.some.inj hn
      exact Nat.lt_succ_self _
    · obtain rfl := Option.some.inj hn
      exact hnew
  | some f =>
    refine ⟨⟨?_, ?_⟩, fun m hm => ?_, fun m hm => Nat.lt_succ_of_lt (h.storedMade m hm),
      fun m hm hfresh => ?_, fun m hm hreplayed => ?_, h.waiting, h.dropped⟩
    · exact nodup_delivered h.once hnew
    · show w.delivered ++ [(w.calls, f)] = w.owed ++ [(w.calls, f)]
      rw [h.owed]
    · rcases mem_delivered.1 hm with hold | rfl
      · exact hlt m hold
      · exact Nat.lt_succ_self _
    · rw [mem_delivered, not_or]
      exact ⟨h.fresh m hm hfresh, Nat.ne_of_lt (h.storedMade m hm)⟩
    · exact mem_delivered.2 (.inl (h.replayed m hm hreplayed))

/-- Every event that meets the condition keeps the invariant. -/
theorem step {e : Event} (h : Inv w) (hok : w.MaySet e) (hstep : w.step e = some w') : Inv w' := by
  cases e with
  | assign callback =>
    obtain rfl := Option.some.inj hstep
    cases callback with
    | none => exact h.assignNone
    | some f => exact h.assignSome hok.1 hok.2
  | call =>
    obtain rfl := Option.some.inj hstep
    exact h.call
  | callbackReturns =>
    simp only [World.step] at hstep
    split at hstep
    · cases hstep
    · obtain rfl := Option.some.inj hstep
      exact h.of_stack _ _
    · obtain rfl := Option.some.inj hstep
      exact (h.of_stack _ _).reset.leave
  | callbackThrows =>
    simp only [World.step] at hstep
    split at hstep
    · cases hstep
    · obtain rfl := Option.some.inj hstep
      exact h.of_stack _ _
  | copyStored =>
    simp only [World.step, Option.ite_none_right_eq_some, Option.some.injEq] at hstep
    obtain ⟨-, rfl⟩ := hstep
    exact (h.of_stack _ _).reset

/-- A callback that is set at another time gets a call again, or misses one. -/
theorem not_step {e : Event} (h : Inv w) (hmiss : ¬w.MaySet e) (hstep : w.step e = some w') :
    ¬Replays w' := by
  cases e with
  | call => exact absurd trivial hmiss
  | callbackReturns => exact absurd trivial hmiss
  | callbackThrows => exact absurd trivial hmiss
  | copyStored => exact absurd trivial hmiss
  | assign callback =>
    obtain rfl := Option.some.inj hstep
    cases callback with
    | none => exact absurd trivial hmiss
    | some f =>
      intro hreplays
      cases hstored : w.stored with
      | some n =>
        -- the stored call is delivered again
        have hkept : w.isDropped = false := by
          by_contra hdropped
          have hnone := (h.dropped (eq_true_of_ne_false hdropped)).2
          rw [hstored] at hnone
          cases hnone
        have hreplayed : w.isReplayed = true := by
          by_contra hfresh
          exact hmiss ⟨fun _ => eq_false_of_ne_true hfresh, hkept⟩
        have honce := hreplays.once
        simp only [assign, hstored, List.map_append, List.map_singleton] at honce
        exact (List.nodup_append.1 honce).2.2 n (h.replayed n hstored hreplayed) n
          (List.mem_singleton_self n) rfl
      | none =>
        -- the call that waits is gone
        have hdropped : w.isDropped = true := by
          by_contra hkept
          exact hmiss ⟨fun hsome => absurd hstored hsome, eq_false_of_ne_true hkept⟩
        obtain ⟨n, hwaiting⟩ := Option.isSome_iff_exists.1 (h.dropped hdropped).1
        have howed := hreplays.owed
        simp only [assign, hstored, hwaiting, delivered_leave, owed_leave, h.owed] at howed
        exact absurd howed (by simp)

end Inv

/-- **Stored callback replay.** Along a run every call is delivered as it should be exactly when
callbacks are set only where they may be. -/
theorem replays_iff_meets {events : List Event} {w : World}
    (hrun : Transition.run step {} events = some w) :
    (∀ fs, fs <+: events → ∀ u, Transition.run step {} fs = some u → u.Replays) ↔
      Transition.Meets step MaySet {} events :=
  Transition.forall_prefix_iff_meets_of_invariant (fun _ h => h.toReplays)
    (fun _ _ _ h hok hstep => h.step hok hstep) (fun _ _ _ h hmiss hstep => h.not_step hmiss hstep)
    Inv.start hrun

/-- A stored call is replayed to a callback that calls the object again, of two calls without a
callback the later one is replayed, and another call finds a callback that throws. -/
def nestedEvents : List Event :=
  [.call, .assign (some 7), .call, .callbackReturns, .callbackReturns, .copyStored, .assign none,
    .copyStored, .call, .call, .assign (some 8), .callbackReturns, .copyStored, .call,
    .callbackThrows]

theorem replays_nestedEvents :
    ∃ w, Transition.run step {} nestedEvents = some w ∧ w.Replays ∧
      w.delivered = [(0, 7), (1, 7), (3, 8), (4, 8)] := by
  have hok : Transition.Meets step MaySet {} nestedEvents := by decide
  exact ⟨_, rfl, (replays_iff_meets rfl).2 hok _ (List.prefix_refl _) _ rfl, rfl⟩

/-- The callback that gets a stored call sets another one before it returns: that one gets the call
as well. A callback that throws leaves the call for the next one. And an assignment of null clears a
stored call, which the next callback misses. -/
theorem not_replays_again :
    (¬∀ (events : List Event) (w : World), Transition.run step {} events = some w → w.Replays) ∧
      (∃ w, Transition.run step {} [.call, .assign (some 0), .callbackThrows, .assign (some 1)] =
          some w ∧ w.delivered = [(0, 0), (0, 1)]) ∧
      ∃ w, Transition.run step {}
          [.call, .assign none, .copyStored, .assign (some 0), .copyStored] = some w ∧
        w.delivered = [] ∧ w.owed = [(0, 0)] := by
  refine ⟨fun h => ?_, ⟨_, rfl, rfl⟩, _, rfl, rfl, rfl⟩
  have honce := (h [.call, .assign (some 0), .assign (some 1)] _ rfl).once
  exact absurd honce (by decide)

end World

end Rtc.StoredCallback
