import QuicRtc.Closing.Phases
import QuicRtc.Lib.Transition

/-!
# Closed is final

`final_iff`: in every run `Closed` is final for both states and both callbacks exactly when no ICE
transport reports a state after `iceState` is closed, and no `resetCallbacks` comes between the
exchange of `iceState` and the steal of the ICE callback.
-/

namespace Rtc.Closing

/-! ## The steps of the threads -/

section Exec

variable {s s' : Shared} {op : Op} {before after ops : List Op} {p : Op → Bool}

theorem filter_quiet (op : Op) (hop : p op = false) (hops : ops.filter p = []) :
    (before ++ ops ++ after).filter p = (before ++ op :: after).filter p := by
  simp [hop, hops]

/-- The step taken was the only one of its kind. -/
theorem filter_only (hop : p op = true) (h : (before ++ op :: after).filter p = [op]) :
    (before ++ ops ++ after).filter p = ops.filter p := by
  simp only [List.filter_append, List.filter_cons, hop, if_true] at h
  -- the one step of the kind is `op` itself, so there is none on either side
  rw [List.append_eq_singleton_iff] at h
  rcases h with ⟨hbefore, hafter⟩ | ⟨-, hafter⟩
  · simp only [List.cons.injEq, true_and] at hafter
    simp [hbefore, hafter]
  · cases hafter

/-- There was no step of the kind. -/
theorem filter_none (h : (before ++ op :: after).filter p = []) :
    (before ++ ops ++ after).filter p = ops.filter p := by
  simp only [List.filter_append, List.append_eq_nil_iff, List.filter_cons] at h
  obtain ⟨hbefore, hafter⟩ := h
  have hafter : after.filter p = [] := by
    split at hafter
    · cases hafter
    · exact hafter
  simp [hbefore, hafter]

theorem mem_filter_self (hop : p op = true) : op ∈ (before ++ op :: after).filter p := by
  simp [hop]

namespace Inv

/-- The other steps of the threads are left as they are. -/
theorem rest (h : Inv s (before ++ op :: after)) {iceSet : Bool}
    (hset : s.iceSet = true → iceSet = true) (hfine : ∀ o ∈ ops, o.Fine iceSet) :
    ∀ o ∈ before ++ ops ++ after, o.Fine iceSet := by
  intro o ho
  simp only [List.mem_append, or_assoc] at ho
  rcases ho with ho | ho | ho
  · exact (h.ops o (by simp [ho])).mono hset
  · exact hfine o ho
  · exact (h.ops o (by simp [ho])).mono hset

/-- A step that is none of those of `closeTransports` from the change of `state` on. -/
theorem keepState (h : Inv s (before ++ op :: after)) (hop : op.isFinish = false)
    (hops : ops.filter Op.isFinish = []) :
    Phase State.closed .stealState (.callState true) [.resetCallbacks] s.stateSet s.state
      s.stateChangeCallback s.stateCalls ((before ++ ops ++ after).filter Op.isFinish) := by
  rw [filter_quiet op hop hops]
  exact h.statePhase

/-- A step that is none of those that pass `Closed` to the ICE callback. -/
theorem keepIce (h : Inv s (before ++ op :: after)) (hop : op.isIceFinish = false)
    (hops : ops.filter Op.isIceFinish = []) :
    Phase IceState.closed .stealIce (.callIce true) [] s.iceSet s.iceState
      s.iceStateChangeCallback s.iceCalls ((before ++ ops ++ after).filter Op.isIceFinish) := by
  rw [filter_quiet op hop hops]
  exact h.icePhase

/-- A step that leaves the members of the invariant alone, apart from the tasks. -/
theorem quiet (h : Inv s (before ++ op :: after)) (hop : op.isFinish = false)
    (hopIce : op.isIceFinish = false) (hops : ops.filter Op.isFinish = [])
    (hopsIce : ops.filter Op.isIceFinish = []) (hfine : ∀ o ∈ ops, o.Fine s.iceSet)
    {closing : Bool} {queue : List Task} (hqueue : ∀ task ∈ queue, task.Fine) :
    Inv { s with closing, queue } (before ++ ops ++ after) where
  queue := hqueue
  ops := h.rest id hfine
  statePhase := h.keepState hop hops
  icePhase := h.keepIce hopIce hopsIce

theorem enqueue (h : Inv s (before ++ op :: after)) {task : Task} (htask : task.Fine) :
    ∀ t ∈ s.queue ++ [task], t.Fine := by
  intro t ht
  rcases List.mem_append.1 ht with ht | ht
  · exact h.queue t ht
  · rw [List.mem_singleton.1 ht]
    exact htask

/-- `changeIceState`: the exchange. -/
theorem exchangeIce {newState : IceState}
    (h : Inv s (before ++ .exchangeIce newState :: after))
    (hok : newState = .closed ∨ s.iceState ≠ .closed) :
    Inv (exec s (.exchangeIce newState)).1
      (before ++ (exec s (.exchangeIce newState)).2 ++ after) := by
  by_cases hclosed : newState = .closed
  · subst hclosed
    by_cases hstate : s.iceState = .closed
    · -- another `closeTransports` was here before
      -- its phase goes on, and this call leaves the callback alone
      obtain ⟨hset, hphase⟩ := h.icePhase.again hstate
      simp only [Closing.exec, if_true, hstate]
      refine ⟨h.queue, h.rest (fun _ => rfl) (by simp [Op.Fine]), ?_, ?_⟩
      · exact h.keepState rfl rfl
      · rw [filter_quiet (.exchangeIce .closed) rfl rfl]
        exact hphase
    · -- this call closes `iceState`, and has the callback to steal
      obtain ⟨hnone, hphase⟩ := h.icePhase.close hstate
      simp only [Closing.exec, if_true, hstate, if_false]
      refine ⟨h.queue, h.rest (fun _ => rfl) (by simp [Op.Fine]), ?_, ?_⟩
      · exact h.keepState rfl rfl
      · rw [filter_none hnone]
        exact hphase
  · -- a transport reports while `iceState` is not closed
    have hstate : s.iceState ≠ .closed := hok.resolve_left hclosed
    simp only [Closing.exec, hclosed, if_false]
    have hops : ∀ p : Op → Bool, (∀ newState, p (.enqueueIce newState) = false) →
        (if s.iceState = newState then [] else [Op.enqueueIce newState]).filter p = [] := by
      intro p hp
      split
      · rfl
      · simp [hp]
    refine ⟨h.queue, h.rest id ?_, ?_, ?_⟩
    · intro o ho
      split at ho
      · cases ho
      · rw [List.mem_singleton.1 ho]
        exact hclosed
    · exact h.keepState rfl (hops _ fun _ => rfl)
    · rw [filter_quiet (.exchangeIce newState) rfl (hops _ fun _ => rfl)]
      exact h.icePhase.change hstate hclosed

/-- `changeState`: the compare-and-exchange. -/
theorem casState {current newState : State}
    (h : Inv s (before ++ .casState current newState :: after)) :
    Inv (exec s (.casState current newState)).1
      (before ++ (exec s (.casState current newState)).2 ++ after) := by
  have hop : (Op.casState current newState).Fine s.iceSet := h.ops _ (by simp)
  by_cases hsame : s.state = current
  · -- the state loaded was not closed, and it is the state still
    have hstate : s.state ≠ .closed := hsame ▸ hop.1
    by_cases hclosed : newState = .closed
    · subst hclosed
      obtain ⟨hnone, hphase⟩ := h.statePhase.close hstate
      simp only [Closing.exec, hsame, if_true]
      refine ⟨h.queue, h.rest id ?_, ?_, ?_⟩
      · intro o ho
        rw [List.mem_singleton.1 ho]
        exact hop.2 rfl
      · rw [filter_none hnone]
        exact hphase
      · exact h.keepIce rfl rfl
    · simp only [Closing.exec, hsame, if_true, hclosed, if_false]
      refine ⟨h.queue, h.rest id ?_, ?_, ?_⟩
      · intro o ho
        rw [List.mem_singleton.1 ho]
        exact hclosed
      · rw [filter_quiet (.casState current newState) rfl rfl]
        exact h.statePhase.change hstate hclosed
      · exact h.keepIce rfl rfl
  · -- the thread goes back to the load
    simp only [Closing.exec, hsame, if_false]
    refine h.quiet rfl rfl rfl rfl ?_ h.queue
    intro o ho
    rw [List.mem_singleton.1 ho]
    exact hop.2

/-- The steps that pass `Closed` to the ICE callback. -/
theorem stealIce (h : Inv s (before ++ .stealIce :: after)) :
    Inv (exec s .stealIce).1 (before ++ (exec s .stealIce).2 ++ after) := by
  obtain ⟨hcallback, honly, hphase⟩ := h.icePhase.stolen (mem_filter_self rfl) (by simp) (by simp)
  refine ⟨h.queue, h.rest id (by simp [Closing.exec, Op.Fine]), ?_, ?_⟩
  · exact h.keepState rfl rfl
  · rw [filter_only rfl honly]
    simp only [Closing.exec, hcallback]
    exact hphase

theorem callIce {callback : Bool} (h : Inv s (before ++ .callIce callback :: after)) :
    Inv (exec s (.callIce callback)).1
      (before ++ (exec s (.callIce callback)).2 ++ after) := by
  have hmem : Op.callIce callback ∈ (before ++ .callIce callback :: after).filter Op.isIceFinish :=
    mem_filter_self rfl
  cases callback with
  | true =>
    obtain ⟨honly, hphase⟩ := h.icePhase.called hmem (by simp) (by simp)
    refine ⟨h.queue, h.rest id (by simp [Closing.exec]), ?_, ?_⟩
    · exact h.keepState rfl rfl
    · rw [filter_only rfl honly]
      exact hphase
  | false =>
    -- whoever closed `iceState` stole a registered callback
    obtain ⟨hnil, -⟩ := h.icePhase.finished hmem (by simp) (by simp)
    rw [hnil] at hmem
    cases hmem

/-- The steps that pass `Closed` to the state callback, and the reset. -/
theorem stealState (h : Inv s (before ++ .stealState :: after)) :
    Inv (exec s .stealState).1 (before ++ (exec s .stealState).2 ++ after) := by
  have hset : s.iceSet = true := h.ops .stealState (by simp)
  obtain ⟨hcallback, honly, hphase⟩ := h.statePhase.stolen (mem_filter_self rfl) (by simp) (by simp)
  refine ⟨h.queue, h.rest id (by simpa [Closing.exec, Op.Fine] using hset), ?_, ?_⟩
  · rw [filter_only rfl honly]
    simp only [Closing.exec, hcallback]
    exact hphase
  · exact h.keepIce rfl rfl

theorem callState {callback : Bool} (h : Inv s (before ++ .callState callback :: after)) :
    Inv (exec s (.callState callback)).1
      (before ++ (exec s (.callState callback)).2 ++ after) := by
  have hset : s.iceSet = true := h.ops (.callState callback) (by simp)
  have hmem : Op.callState callback ∈ (before ++ .callState callback :: after).filter Op.isFinish :=
    mem_filter_self rfl
  cases callback with
  | true =>
    obtain ⟨honly, hphase⟩ := h.statePhase.called hmem (by simp) (by simp)
    refine ⟨h.queue, h.rest id (by simpa [Closing.exec, Op.Fine] using hset), ?_, ?_⟩
    · rw [filter_only rfl honly]
      exact hphase
    · exact h.keepIce rfl rfl
  | false =>
    -- whoever closed `state` stole a registered callback
    obtain ⟨hreset, -⟩ := h.statePhase.finished hmem (by simp) (by simp)
    rw [hreset] at hmem
    simp at hmem

theorem resetCallbacks (h : Inv s (before ++ .resetCallbacks :: after))
    (hok : .stealIce ∉ before ++ .resetCallbacks :: after) :
    Inv (exec s .resetCallbacks).1 (before ++ (exec s .resetCallbacks).2 ++ after) := by
  have hset : s.iceSet = true := h.ops .resetCallbacks (by simp)
  obtain ⟨honly, hcallback, hphase⟩ :=
    h.statePhase.finished (mem_filter_self rfl) (by simp) (by simp)
  -- `iceState` was set before `state`, and its callback is not to be stolen, so it is gone
  have hice : s.iceStateChangeCallback = false :=
    h.icePhase.callback_eq_false hset fun hmem => hok (List.mem_of_mem_filter hmem)
  refine ⟨h.queue, h.rest id (by simp [Closing.exec]), ?_, ?_⟩
  · rw [filter_only rfl honly]
    simpa [Closing.exec, hcallback] using hphase
  · rw [filter_quiet .resetCallbacks rfl rfl]
    simpa [Closing.exec, hice] using h.icePhase

/-- Every step that meets the condition preserves the invariant. -/
theorem exec (h : Inv s (before ++ op :: after))
    (hok : KeepsClosed s (before ++ op :: after) op) :
    Inv (exec s op).1 (before ++ (exec s op).2 ++ after) := by
  cases op with
  | exchangeIce newState => exact h.exchangeIce hok
  | casState current newState => exact h.casState
  | stealIce => exact h.stealIce
  | callIce callback => exact h.callIce
  | stealState => exact h.stealState
  | callState callback => exact h.callState
  | resetCallbacks => exact h.resetCallbacks hok
  | close =>
    simp only [Closing.exec]
    split
    · exact h.quiet rfl rfl rfl rfl (by simp) h.queue
    · exact h.quiet rfl rfl rfl rfl (by simp [Op.Fine]) h.queue
  | stopTransport =>
    simp only [Closing.exec]
    split
    · exact h.quiet rfl rfl rfl rfl (by simp) h.queue
    · exact h.quiet rfl rfl rfl rfl (by simp [Op.Fine]) h.queue
  | remoteClose => exact h.quiet rfl rfl rfl rfl (by simp [Closing.exec, Op.Fine]) h.queue
  | checkState =>
    simp only [Closing.exec]
    split
    · exact h.quiet rfl rfl rfl rfl (by simp) h.queue
    · exact h.quiet rfl rfl rfl rfl (by simp [Op.Fine]) h.queue
  | closeTransports => exact h.quiet rfl rfl rfl rfl (by simp [Closing.exec, Op.Fine]) h.queue
  | enqueueIce newState =>
    have hfine : newState ≠ .closed := h.ops (.enqueueIce newState) (by simp)
    exact h.quiet rfl rfl rfl rfl (by simp [Closing.exec]) (h.enqueue hfine)
  | enqueueState newState =>
    have hfine : newState ≠ .closed := h.ops (.enqueueState newState) (by simp)
    exact h.quiet rfl rfl rfl rfl (by simp [Closing.exec]) (h.enqueue hfine)
  | enqueueRemoteClose =>
    exact h.quiet rfl rfl rfl rfl (by simp [Closing.exec]) (h.enqueue trivial)
  | loadState newState =>
    have hfine : newState = .closed → s.iceSet = true := h.ops (.loadState newState) (by simp)
    simp only [Closing.exec]
    split
    · exact h.quiet rfl rfl rfl rfl (by simp) h.queue
    · next hopen =>
      -- the state that was loaded is the one that the exchange expects
      refine h.quiet rfl rfl rfl rfl ?_ h.queue
      intro o ho
      rw [List.mem_singleton.1 ho]
      exact ⟨fun hclosed => hopen (Or.inl hclosed), hfine⟩

end Inv

end Exec

/-! ## Runs -/

/-- The next step of a thread among all that are to be done. -/
theorem flatten_split {threads : List (List Op)} {thread : ℕ} {op : Op} {rest : List Op}
    (h : threads[thread]? = some (op :: rest)) :
    ∃ before after, threads.flatten = before ++ op :: after ∧
      ∀ ops, (threads.set thread (ops ++ rest)).flatten = before ++ ops ++ after := by
  -- on the threads before this one
  induction threads generalizing thread with
  | nil => cases h
  | cons first threads ih =>
    cases thread with
    | zero =>
      obtain rfl : first = op :: rest := Option.some.inj h
      exact ⟨[], rest ++ threads.flatten, by simp, by simp⟩
    | succ thread =>
      obtain ⟨before, after, heq, hset⟩ := ih h
      refine ⟨first ++ before, after, by simp [heq], fun ops => ?_⟩
      simp [List.set_cons_succ, hset]

namespace Inv

variable {s : Shared} {pending ops : List Op} {w w' : World}

/-- More to do, for a new thread. -/
theorem start (h : Inv s pending) (hops : ops.filter Op.isFinish = [])
    (hopsIce : ops.filter Op.isIceFinish = []) (hfine : ∀ o ∈ ops, o.Fine s.iceSet) :
    Inv s (pending ++ ops) where
  queue := h.queue
  ops := by
    intro o ho
    rcases List.mem_append.1 ho with ho | ho
    · exact h.ops o ho
    · exact hfine o ho
  statePhase := by
    rw [List.filter_append, hops, List.append_nil]
    exact h.statePhase
  icePhase := by
    rw [List.filter_append, hopsIce, List.append_nil]
    exact h.icePhase

/-- No thread starts in the middle of `closeTransports`. -/
theorem call_ops (call : Call) (iceSet : Bool) : call.ops.filter Op.isFinish = [] ∧
    call.ops.filter Op.isIceFinish = [] ∧ ∀ o ∈ call.ops, o.Fine iceSet := by
  cases call with
  | ice transportState dtlsFails =>
    cases transportState <;> cases dtlsFails <;> refine ⟨rfl, rfl, ?_⟩ <;>
      simp [Call.ops, Op.Fine]
  | dtls transportState hasApplication sctpFails =>
    cases transportState <;> cases hasApplication <;> cases sctpFails <;>
      refine ⟨rfl, rfl, ?_⟩ <;> simp [Call.ops, Op.Fine]
  | sctp transportState =>
    cases transportState <;> refine ⟨rfl, rfl, ?_⟩ <;> simp [Call.ops, Op.Fine]
  | initIceFails => exact ⟨rfl, rfl, by simp [Call.ops, Op.Fine]⟩
  | close => exact ⟨rfl, rfl, by simp [Call.ops, Op.Fine]⟩
  | remoteClose => exact ⟨rfl, rfl, by simp [Call.ops, Op.Fine]⟩
  | closeTransports => exact ⟨rfl, rfl, by simp [Call.ops, Op.Fine]⟩

/-- A task calls a callback that is still registered, or starts `remoteClose`. -/
theorem runTask (h : Inv w.shared w.pending) {task : Task} (htask : task.Fine) :
    Inv (w.runTask task).shared (w.runTask task).pending := by
  cases task with
  | state newState =>
    simp only [World.runTask]
    split
    · next hcallback =>
      exact ⟨h.queue, h.ops, h.statePhase.receive hcallback htask, h.icePhase⟩
    · exact h
  | ice newState =>
    simp only [World.runTask]
    split
    · next hcallback =>
      exact ⟨h.queue, h.ops, h.statePhase, h.icePhase.receive hcallback htask⟩
    · exact h
  | remoteClose =>
    have hstart : Inv w.shared (w.pending ++ [.remoteClose]) :=
      h.start rfl rfl (by simp [Op.Fine])
    simpa [World.runTask, World.pending] using hstart

/-- Every event that meets the condition preserves the invariant. -/
theorem step {e : Event} (h : Inv w.shared w.pending) (hok : Keeps w e)
    (hstep : w.step e = some w') : Inv w'.shared w'.pending := by
  cases e with
  | start call =>
    cases hstep
    obtain ⟨hops, hopsIce, hfine⟩ := call_ops call w.shared.iceSet
    simpa [World.pending] using h.start hops hopsIce hfine
  | run thread =>
    simp only [World.step] at hstep
    split at hstep
    · next op rest hthread =>
      cases hstep
      have hkeeps : KeepsClosed w.shared w.pending op := hok op (by simp [World.next, hthread])
      obtain ⟨before, after, heq, hset⟩ := flatten_split hthread
      simp only [World.pending, heq] at h hkeeps
      simpa only [World.pending, hset] using h.exec hkeeps
    · cases hstep
  | casFail thread =>
    simp only [World.step] at hstep
    split at hstep
    · next current newState rest hthread =>
      cases hstep
      obtain ⟨before, after, heq, hset⟩ := flatten_split hthread
      simp only [World.pending, heq] at h
      -- a spurious failure leaves everything but the thread alone
      have hfine : (Op.casState current newState).Fine w.shared.iceSet := h.ops _ (by simp)
      have hload : Inv w.shared (before ++ [.loadState newState] ++ after) :=
        h.quiet rfl rfl rfl rfl (by simpa [Op.Fine] using hfine.2) h.queue
      have hpending := hset [.loadState newState]
      rw [List.singleton_append] at hpending
      simpa only [World.pending, hpending] using hload
    · cases hstep
  | task =>
    simp only [World.step] at hstep
    split at hstep
    · cases hstep
    · next task queue hqueue =>
      cases hstep
      have htask : task.Fine := h.queue task (by simp [hqueue])
      refine runTask ?_ htask
      -- the task leaves the queue before it runs
      refine ⟨fun t ht => h.queue t ?_, h.ops, h.statePhase, h.icePhase⟩
      rw [hqueue]
      exact List.mem_cons_of_mem task ht
  | setSctpTransport present =>
    cases hstep
    exact ⟨h.queue, h.ops, h.statePhase, h.icePhase⟩

/-- An ICE state reported after `iceState` is closed. -/
theorem not_exchangeIce (h : Inv w.shared w.pending) {newState : IceState}
    (hshared : w'.shared = (Closing.exec w.shared (.exchangeIce newState)).1)
    (hclosed : w.shared.iceState = .closed) (hne : newState ≠ .closed) : ¬Final w' := by
  intro hfinal
  -- `iceState` can only be closed because it was set
  have hset := (h.icePhase.again hclosed).1
  have hstate := hfinal.iceState
  simp only [hshared, Closing.exec, hne, if_false] at hstate
  exact hstate hset

/-- The callbacks are reset while the ICE callback is still to be stolen. -/
theorem not_resetCallbacks {before after : List Op}
    (h : Inv w.shared (before ++ .resetCallbacks :: after))
    (hshared : w'.shared = (Closing.exec w.shared .resetCallbacks).1)
    (hpending : w'.pending = before ++ after)
    (hsteal : .stealIce ∈ before ++ .resetCallbacks :: after) : ¬Final w' := by
  intro hfinal
  have hset : w.shared.iceSet = true := h.ops .resetCallbacks (by simp)
  have hcalled := hfinal.iceCalled
  simp only [hshared, Closing.exec, hpending] at hcalled
  have hmem : .stealIce ∈ (before ++ .resetCallbacks :: after).filter Op.isIceFinish :=
    List.mem_filter.2 ⟨hsteal, rfl⟩
  obtain ⟨-, honly, hphase⟩ := h.icePhase.stolen hmem (by simp) (by simp)
  -- the closer still has its empty callback to steal, so nobody is left to pass `Closed` on
  rcases hcalled hset with hcalls | ⟨hcallback, -⟩ | hcall
  · cases hphase with
    | running _ _ _ _ hops => cases hops
    | steal _ _ _ _ hops => simp at hops
    | call _ _ _ hnone => exact hnone hcalls
    | done _ _ _ _ hops => simp at hops
  · cases hcallback
  · have hcall : .callIce true ∈ (before ++ .resetCallbacks :: after).filter Op.isIceFinish := by
      refine List.mem_filter.2 ⟨?_, rfl⟩
      rcases List.mem_append.1 hcall with hcall | hcall
      · simp [hcall]
      · simp [hcall]
    rw [honly] at hcall
    simp at hcall

/-- An event that misses the condition destroys the property. -/
theorem not_step {e : Event} (h : Inv w.shared w.pending) (hmiss : ¬Keeps w e)
    (hstep : w.step e = some w') : ¬Final w' := by
  cases e with
  | run thread =>
    simp only [World.step] at hstep
    split at hstep
    · next op rest hthread =>
      cases hstep
      have hmiss : ¬KeepsClosed w.shared w.pending op := by
        intro hkeeps
        refine hmiss fun op' hop' => ?_
        obtain rfl : op = op' := by simpa [World.next, hthread] using hop'
        exact hkeeps
      obtain ⟨before, after, heq, hset⟩ := flatten_split hthread
      -- two operations have a condition
      cases op with
      | exchangeIce newState =>
        simp only [KeepsClosed, not_or, not_not] at hmiss
        exact not_exchangeIce h rfl hmiss.2 hmiss.1
      | resetCallbacks =>
        simp only [World.pending, heq] at h hmiss
        refine not_resetCallbacks h rfl ?_ (not_not.1 hmiss)
        simpa [World.pending, Closing.exec] using hset []
      | close => exact absurd trivial hmiss
      | stopTransport => exact absurd trivial hmiss
      | remoteClose => exact absurd trivial hmiss
      | checkState => exact absurd trivial hmiss
      | closeTransports => exact absurd trivial hmiss
      | stealIce => exact absurd trivial hmiss
      | callIce callback => exact absurd trivial hmiss
      | enqueueIce newState => exact absurd trivial hmiss
      | loadState newState => exact absurd trivial hmiss
      | casState current newState => exact absurd trivial hmiss
      | stealState => exact absurd trivial hmiss
      | callState callback => exact absurd trivial hmiss
      | enqueueState newState => exact absurd trivial hmiss
      | enqueueRemoteClose => exact absurd trivial hmiss
    · cases hstep
  | start call => exact absurd trivial hmiss
  | casFail thread => exact absurd trivial hmiss
  | task => exact absurd trivial hmiss
  | setSctpTransport present => exact absurd trivial hmiss

end Inv

theorem Inv.init : Inv ({} : World).shared ({} : World).pending where
  queue := by simp
  ops := by simp [World.pending]
  statePhase := .running rfl (by simp) rfl (by simp) rfl
  icePhase := .running rfl (by simp) rfl (by simp) rfl

/-- In every run: `Closed` is final for both states and both callbacks in every state reached
exactly when no ICE transport reports a state while `iceState` is closed, and no `closeTransports`
resets the callbacks while another one has closed `iceState` and not yet stolen the ICE callback. -/
theorem final_iff {events : List Event} {w : World}
    (hrun : Transition.run World.step {} events = some w) :
    (∀ before, before <+: events → ∀ w', Transition.run World.step {} before = some w' →
        Final w') ↔
      Transition.Meets World.step Keeps {} events :=
  Transition.forall_prefix_iff_meets_of_invariant
    (fun (w : World) (hw : Inv w.shared w.pending) => hw.final)
    (fun _ _ _ hw hok hstep => hw.step hok hstep)
    (fun _ _ _ hw hmiss hstep => hw.not_step hmiss hstep) Inv.init hrun

/-- The ICE transport reports a failure, the processor closes the connection, and meanwhile the DTLS
transport reports that it is connected. -/
def failureEvents : List Event :=
  [.start (.ice .failed false), .run 0, .run 0, .run 0, .run 0, .run 0, .run 0, .task, .task, .task,
    .start (.dtls .connected false false), .run 2, .run 1, .run 1, .run 1, .run 1, .run 1, .run 1,
    .run 1, .run 1, .run 1, .run 1, .run 1, .run 1, .run 2, .run 2, .run 1, .run 1, .run 1, .run 1]

theorem final_iff_failureEvents :
    ∃ w, Transition.run World.step {} failureEvents = some w ∧
      w.shared.stateCalls = [.failed, .closed] ∧ w.shared.iceCalls = [.failed, .closed] ∧
      ∀ before, before <+: failureEvents → ∀ w', Transition.run World.step {} before = some w' →
        Final w' := by
  have hok : Transition.Meets World.step Keeps {} failureEvents := by decide
  have hrun : ∃ w, Transition.run World.step {} failureEvents = some w ∧
      w.shared.stateCalls = [.failed, .closed] ∧ w.shared.iceCalls = [.failed, .closed] :=
    ⟨_, rfl, rfl, rfl⟩
  obtain ⟨w, hrun, hstate, hice⟩ := hrun
  exact ⟨w, hrun, hstate, hice, (final_iff hrun).2 hok⟩

/-- An ICE transport reports that it is connected after the connection was closed. -/
def lateReportEvents : List Event :=
  [.start .closeTransports, .run 0, .run 0, .run 0, .run 0, .run 0, .run 0, .run 0, .run 0, .run 0,
    .start (.ice .connected false), .run 1]

/-- Two threads close the connection, and the second one overtakes the first. -/
def overtakenEvents : List Event :=
  [.start .closeTransports, .start .closeTransports, .run 0, .run 0, .run 1, .run 1, .run 1, .run 1,
    .run 1, .run 1, .run 1, .run 0, .run 0, .run 0]

/-- In the first run `iceState` leaves `Closed`; in the second one the ICE callback never receives
it. -/
theorem closed_not_final :
    (∃ w, Transition.run World.step {} lateReportEvents = some w ∧
        w.shared.state = .closed ∧ w.shared.iceState = .connected ∧ ¬Final w) ∧
      ∃ w, Transition.run World.step {} overtakenEvents = some w ∧
        w.pending = [] ∧ w.shared.iceState = .closed ∧ w.shared.iceCalls = [] ∧ ¬Final w := by
  refine ⟨⟨_, rfl, rfl, rfl, fun h => ?_⟩, ⟨_, rfl, rfl, rfl, rfl, fun h => ?_⟩⟩
  · exact absurd (h.iceState rfl) (by decide)
  · exact absurd (h.iceCalled rfl) (by decide)

end Rtc.Closing
