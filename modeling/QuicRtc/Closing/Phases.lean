import QuicRtc.Closing.Defs

/-!
# The phases of closing

* `Final`: `Closed` is final, and each callback gets it once, as the last state.
* `KeepsClosed`, `Keeps`: the steps after which this is still so.
* `Phase`: how far the `closeTransports` that set a state to `Closed` has come. There is only one
  for each of the two states.
* `Inv`: the invariant, which implies `Final`.
-/

namespace Rtc.Closing

/-! ## Closed is final -/

/-- Once `closeTransports` has set them, `state` and `iceState` are `Closed`. Each callback receives
`Closed` at most once and nothing after it, and once the state is set it has received it or a thread
is about to pass it. -/
structure Final (w : World) : Prop where
  state : w.shared.stateSet = true → w.shared.state = .closed
  iceState : w.shared.iceSet = true → w.shared.iceState = .closed
  stateLast : State.closed ∉ w.shared.stateCalls.dropLast
  iceLast : IceState.closed ∉ w.shared.iceCalls.dropLast
  stateCalled : w.shared.stateSet = true → .closed ∈ w.shared.stateCalls ∨
    (w.shared.stateChangeCallback = true ∧ .stealState ∈ w.pending) ∨ .callState true ∈ w.pending
  iceCalled : w.shared.iceSet = true → .closed ∈ w.shared.iceCalls ∨
    (w.shared.iceStateChangeCallback = true ∧ .stealIce ∈ w.pending) ∨ .callIce true ∈ w.pending

/-- The steps of a thread that keep `Closed` final: no ICE state is reported when `iceState` is
closed, and the callbacks are not reset when the ICE callback is still to be stolen. -/
def KeepsClosed (s : Shared) (pending : List Op) : Op → Prop
  | .exchangeIce newState => newState = .closed ∨ s.iceState ≠ .closed
  | .resetCallbacks => .stealIce ∉ pending
  | _ => True

instance (s : Shared) (pending : List Op) : DecidablePred (KeepsClosed s pending)
  | .exchangeIce _ => inferInstanceAs (Decidable (_ ∨ _))
  | .resetCallbacks => inferInstanceAs (Decidable (¬_))
  | .close => isTrue trivial
  | .stopTransport => isTrue trivial
  | .remoteClose => isTrue trivial
  | .checkState => isTrue trivial
  | .closeTransports => isTrue trivial
  | .stealIce => isTrue trivial
  | .callIce _ => isTrue trivial
  | .enqueueIce _ => isTrue trivial
  | .loadState _ => isTrue trivial
  | .casState _ _ => isTrue trivial
  | .stealState => isTrue trivial
  | .callState _ => isTrue trivial
  | .enqueueState _ => isTrue trivial
  | .enqueueRemoteClose => isTrue trivial

/-- The condition on an event. -/
def Keeps (w : World) : Event → Prop
  | .run thread => ∀ op ∈ w.next thread, KeepsClosed w.shared w.pending op
  | _ => True

instance (w : World) : DecidablePred (Keeps w)
  | .run _ => inferInstanceAs (Decidable (∀ op ∈ _, KeepsClosed w.shared w.pending op))
  | .start _ => isTrue trivial
  | .casFail _ => isTrue trivial
  | .task => isTrue trivial
  | .setSctpTransport _ => isTrue trivial

/-! ## The invariant -/

/-- The steps of `closeTransports` from the change of `state` on. -/
def Op.isFinish : Op → Bool
  | .stealState => true
  | .callState _ => true
  | .resetCallbacks => true
  | _ => false

/-- The steps that pass `Closed` to the ICE callback. -/
def Op.isIceFinish : Op → Bool
  | .stealIce => true
  | .callIce _ => true
  | _ => false

/-- How far the one `closeTransports` that changed a state to `closed` has come: whether the state
is set, the state, whether the callback is registered, what it received, and the next step. -/
inductive Phase {α : Type} (closed : α) (stealOp callOp : Op) (afterOps : List Op) (set : Bool)
    (state : α) (callback : Bool) (calls : List α) (ops : List Op) : Prop
  | running (hset : set = false) (hstate : state ≠ closed) (hcallback : callback = true)
    (hcalls : closed ∉ calls) (hops : ops = [])
  | steal (hset : set = true) (hstate : state = closed) (hcallback : callback = true)
    (hcalls : closed ∉ calls) (hops : ops = [stealOp])
  | call (hset : set = true) (hstate : state = closed) (hcallback : callback = false)
    (hcalls : closed ∉ calls) (hops : ops = [callOp])
  | done (hset : set = true) (hstate : state = closed) (hcallback : callback = false)
    (hcalls : ∃ earlier, closed ∉ earlier ∧ calls = earlier ++ [closed])
    (hops : ops = afterOps ∨ ops = [])

namespace Phase

variable {α : Type} {closed state state' : α} {stealOp callOp op : Op} {afterOps ops : List Op}
  {set callback : Bool} {calls : List α}

/-- `Closed` is final in every phase. -/
theorem final (h : Phase closed stealOp callOp afterOps set state callback calls ops) :
    (set = true → state = closed) ∧ closed ∉ calls.dropLast ∧
      (set = true → closed ∈ calls ∨ (callback = true ∧ stealOp ∈ ops) ∨ callOp ∈ ops) := by
  cases h with
  -- nothing is set, and `Closed` has not been passed on
  | running hset _ _ hcalls _ =>
    exact ⟨by simp [hset], fun hmem => hcalls (List.dropLast_subset _ hmem), by simp [hset]⟩
  | steal _ hstate hcallback hcalls hops =>
    exact ⟨fun _ => hstate, fun hmem => hcalls (List.dropLast_subset _ hmem),
      fun _ => Or.inr (Or.inl ⟨hcallback, by simp [hops]⟩)⟩
  | call _ hstate _ hcalls hops =>
    exact ⟨fun _ => hstate, fun hmem => hcalls (List.dropLast_subset _ hmem),
      fun _ => Or.inr (Or.inr (by simp [hops]))⟩
  | done _ hstate _ hcalls _ =>
    obtain ⟨earlier, hcalls, rfl⟩ := hcalls
    -- `Closed` is the last element
    exact ⟨fun _ => hstate, by simpa using hcalls, by simp⟩

/-- A state that is not closed is changed to another one. -/
theorem change (h : Phase closed stealOp callOp afterOps set state callback calls ops)
    (hstate : state ≠ closed) (hstate' : state' ≠ closed) :
    Phase closed stealOp callOp afterOps set state' callback calls ops := by
  cases h with
  | running hset _ hcallback hcalls hops => exact .running hset hstate' hcallback hcalls hops
  | steal _ hclosed => exact absurd hclosed hstate
  | call _ hclosed => exact absurd hclosed hstate
  | done _ hclosed => exact absurd hclosed hstate

/-- A state that is not closed is closed. -/
theorem close (h : Phase closed stealOp callOp afterOps set state callback calls ops)
    (hstate : state ≠ closed) :
    ops = [] ∧ Phase closed stealOp callOp afterOps true closed callback calls [stealOp] := by
  cases h with
  | running _ _ hcallback hcalls hops => exact ⟨hops, .steal rfl rfl hcallback hcalls rfl⟩
  | steal _ hclosed => exact absurd hclosed hstate
  | call _ hclosed => exact absurd hclosed hstate
  | done _ hclosed => exact absurd hclosed hstate

/-- A closed state is closed again. -/
theorem again (h : Phase closed stealOp callOp afterOps set state callback calls ops)
    (hstate : state = closed) :
    set = true ∧ Phase closed stealOp callOp afterOps true closed callback calls ops := by
  subst hstate
  cases h with
  | running _ hopen => exact absurd rfl hopen
  | steal hset _ hcallback hcalls hops => exact ⟨hset, .steal rfl rfl hcallback hcalls hops⟩
  | call hset _ hcallback hcalls hops => exact ⟨hset, .call rfl rfl hcallback hcalls hops⟩
  | done hset _ hcallback hcalls hops => exact ⟨hset, .done rfl rfl hcallback hcalls hops⟩

/-- A registered callback receives another state. -/
theorem receive (h : Phase closed stealOp callOp afterOps set state callback calls ops)
    (hcallback : callback = true) (hstate' : state' ≠ closed) :
    Phase closed stealOp callOp afterOps set state callback (calls ++ [state']) ops := by
  have hmore : closed ∉ calls → closed ∉ calls ++ [state'] := by
    intro hcalls
    simp [hcalls, hstate'.symm]
  cases h with
  | running hset hstate hcallback hcalls hops =>
    exact .running hset hstate hcallback (hmore hcalls) hops
  | steal hset hstate hcallback hcalls hops =>
    exact .steal hset hstate hcallback (hmore hcalls) hops
  -- the callback is stolen in these phases
  | call _ _ hnone => simp [hcallback] at hnone
  | done _ _ hnone => simp [hcallback] at hnone

/-- The callback is stolen. -/
theorem stolen (h : Phase closed stealOp callOp afterOps set state callback calls ops)
    (hmem : stealOp ∈ ops) (hne : stealOp ≠ callOp) (hafter : stealOp ∉ afterOps) :
    callback = true ∧ ops = [stealOp] ∧
      Phase closed stealOp callOp afterOps set state false calls [callOp] := by
  cases h with
  | running _ _ _ _ hops => simp [hops] at hmem
  | steal hset hstate hcallback hcalls hops =>
    exact ⟨hcallback, hops, .call hset hstate rfl hcalls rfl⟩
  | call _ _ _ _ hops => simp [hops, hne] at hmem
  | done _ _ _ _ hops =>
    rcases hops with rfl | rfl
    · exact absurd hmem hafter
    · cases hmem

/-- The stolen callback is called. -/
theorem called (h : Phase closed stealOp callOp afterOps set state callback calls ops)
    (hmem : callOp ∈ ops) (hne : callOp ≠ stealOp) (hafter : callOp ∉ afterOps) :
    ops = [callOp] ∧
      Phase closed stealOp callOp afterOps set state callback (calls ++ [closed]) afterOps := by
  cases h with
  | running _ _ _ _ hops => simp [hops] at hmem
  | steal _ _ _ _ hops => simp [hops, hne] at hmem
  | call hset hstate hcallback hcalls hops =>
    exact ⟨hops, .done hset hstate hcallback ⟨calls, hcalls, rfl⟩ (Or.inl rfl)⟩
  | done _ _ _ _ hops =>
    rcases hops with rfl | rfl
    · exact absurd hmem hafter
    · cases hmem

/-- The steps after the call. -/
theorem finished (h : Phase closed stealOp callOp afterOps set state callback calls ops)
    (hmem : op ∈ ops) (hsteal : op ≠ stealOp) (hcall : op ≠ callOp) :
    ops = afterOps ∧ callback = false ∧
      Phase closed stealOp callOp afterOps set state callback calls [] := by
  cases h with
  | running _ _ _ _ hops => simp [hops] at hmem
  | steal _ _ _ _ hops => simp [hops, hsteal] at hmem
  | call _ _ _ _ hops => simp [hops, hcall] at hmem
  | done hset hstate hcallback hcalls hops =>
    rcases hops with rfl | rfl
    · exact ⟨rfl, hcallback, .done hset hstate hcallback hcalls (Or.inr rfl)⟩
    · cases hmem

/-- A set state whose callback is not to be stolen has none. -/
theorem callback_eq_false (h : Phase closed stealOp callOp afterOps set state callback calls ops)
    (hset : set = true) (hsteal : stealOp ∉ ops) : callback = false := by
  cases h with
  | running hunset => simp [hset] at hunset
  | steal _ _ _ _ hops => simp [hops] at hsteal
  | call _ _ hcallback => exact hcallback
  | done _ _ hcallback => exact hcallback

end Phase

/-- Only `closeTransports` passes `Closed` on, and it changes `state` after `iceState`. -/
def Op.Fine (iceSet : Bool) : Op → Prop
  | .enqueueIce newState => newState ≠ .closed
  | .enqueueState newState => newState ≠ .closed
  | .loadState newState => newState = .closed → iceSet = true
  | .casState current newState => current ≠ .closed ∧ (newState = .closed → iceSet = true)
  | .stealState => iceSet = true
  | .callState _ => iceSet = true
  | .resetCallbacks => iceSet = true
  | _ => True

/-- The tasks of the processor pass on other states. -/
def Task.Fine : Task → Prop
  | .state newState => newState ≠ .closed
  | .ice newState => newState ≠ .closed
  | .remoteClose => True

theorem Op.Fine.mono {iceSet iceSet' : Bool} {op : Op} (h : op.Fine iceSet)
    (hset : iceSet = true → iceSet' = true) : op.Fine iceSet' := by
  cases op <;> simp_all [Op.Fine]

/-- The invariant, over what the threads have to do. -/
structure Inv (s : Shared) (pending : List Op) : Prop where
  queue : ∀ task ∈ s.queue, task.Fine
  ops : ∀ op ∈ pending, op.Fine s.iceSet
  statePhase : Phase State.closed .stealState (.callState true) [.resetCallbacks] s.stateSet s.state
    s.stateChangeCallback s.stateCalls (pending.filter Op.isFinish)
  icePhase : Phase IceState.closed .stealIce (.callIce true) [] s.iceSet s.iceState
    s.iceStateChangeCallback s.iceCalls (pending.filter Op.isIceFinish)

theorem Inv.final {w : World} (h : Inv w.shared w.pending) : Final w := by
  obtain ⟨hstate, hstateLast, hstateCalled⟩ := h.statePhase.final
  obtain ⟨hiceState, hiceLast, hiceCalled⟩ := h.icePhase.final
  refine ⟨hstate, hiceState, hstateLast, hiceLast, fun hset => ?_, fun hset => ?_⟩
  · refine (hstateCalled hset).imp_right (Or.imp (And.imp_right ?_) ?_)
    · exact List.mem_of_mem_filter
    · exact List.mem_of_mem_filter
  · refine (hiceCalled hset).imp_right (Or.imp (And.imp_right ?_) ?_)
    · exact List.mem_of_mem_filter
    · exact List.mem_of_mem_filter

end Rtc.Closing
