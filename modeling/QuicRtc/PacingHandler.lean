import QuicRtc.Lib.Transition

/-!
# The pacing handler

`PacingHandler` (`pacinghandler.cpp`): `outgoing` puts packets into `mRtpBuffer`, and a task on the
shared thread pool sends them as far as its budget goes. `schedule` is to keep one such task in the
pool, with the flag `mHaveScheduled`.

`outgoing` and the task hold `mMutex` throughout, so each is one step; the task finds the handler
alive. The budget is a floating-point number that depends on the time; a run of the task is given
the calls of `send` that it lets happen, each with whether it returns. When `send` throws, the
packet has been moved out of the buffer, whose head stays behind as a null pointer, and the task
ends without `schedule`.

* `NotStranded`: packets in the buffer have exactly one task that will send them.
* `inOrder_run`: no packet is lost, duplicated or overtaken, in every run in which `send` returns.
* `notStranded_iff_meets`: the steps that keep packets from being stranded.
-/

namespace Rtc

/-- The members of a `PacingHandler` that the budget does not involve. A pointer whose packet has
been moved out is `none`. -/
structure PacingHandler (α : Type*) where
  mHaveScheduled : Bool := false
  mRtpBuffer : List (Option α) := []

namespace PacingHandler

variable {α : Type*}

/-- The handler, its tasks in the thread pool, the packets submitted to `outgoing` and those passed
to `send`. -/
structure World (α : Type*) where
  handler : PacingHandler α := {}
  tasks : ℕ := 0
  submitted : List α := []
  sent : List α := []

/-- What the threads do. -/
inductive Event (α : Type*) where
  | outgoing (messages : List α)
  /-- The pool runs a task. The test `mBudget > 0` succeeds once for each element of `sends`, which
  says whether the `send` that follows returns. -/
  | task (sends : List Bool)
  deriving DecidableEq, Repr

namespace World

/-- `PacingHandler::schedule`. The exchange returns the old value of the flag, and the function
returns early when it was not set. -/
def schedule (w : World α) : World α :=
  if w.handler.mHaveScheduled then { w with tasks := w.tasks + 1 }
  else { w with handler := { w.handler with mHaveScheduled := true } }

/-- `PacingHandler::outgoing`. -/
def outgoing (w : World α) (messages : List α) : World α :=
  { w with
    handler := { w.handler with mRtpBuffer := w.handler.mRtpBuffer ++ messages.map some }
    submitted := w.submitted ++ messages }.schedule

/-- The loop of the task that sends packets while there is budget, and whether it ends without an
exception. It is `none` on a null pointer at the head, whose size is read: the behaviour is
undefined. -/
def sendPackets (w : World α) : List Bool → Option (World α × Bool)
  | [] => some (w, true)
  | returns :: sends =>
    match w.handler.mRtpBuffer with
    | [] => some (w, true)
    | none :: _ => none
    | some front :: rest =>
      let w := { w with sent := w.sent ++ [front] }
      if returns then
        { w with handler := { w.handler with mRtpBuffer := rest } }.sendPackets sends
      else some ({ w with handler := { w.handler with mRtpBuffer := none :: rest } }, false)

/-- The end of the task, which an exception leaves out. -/
def scheduleRest (w : World α) : World α :=
  if w.handler.mRtpBuffer.isEmpty then w else w.schedule

/-- The task, taken from the pool. -/
def runTask (w : World α) (sends : List Bool) : Option (World α) :=
  match { w with handler := { w.handler with mHaveScheduled := false } }.sendPackets sends with
  | none => none
  | some (w, true) => some w.scheduleRest
  | some (w, false) => some w

/-- One step. -/
def step (w : World α) : Event α → Option (World α)
  | .outgoing messages => some (w.outgoing messages)
  | .task sends =>
    if w.tasks = 0 then none else { w with tasks := w.tasks - 1 }.runTask sends

/-! ## What the steps do -/

variable {w w' : World α}

/-- While every `send` returns, the loop sends the front of the buffer. -/
theorem sendPackets_eq {buffer : List α} {sends : List Bool}
    (hbuffer : w.handler.mRtpBuffer = buffer.map some)
    (hsends : ∀ returns ∈ sends.take buffer.length, returns = true) :
    w.sendPackets sends =
      some ({ w with
          handler := { w.handler with mRtpBuffer := (buffer.drop sends.length).map some }
          sent := w.sent ++ buffer.take sends.length },
        true) := by
  induction sends generalizing w buffer with
  | nil =>
    obtain ⟨⟨flag, _⟩, tasks, submitted, sent⟩ := w
    obtain rfl := hbuffer
    simp [sendPackets]
  | cons returns sends ih =>
    obtain ⟨⟨flag, _⟩, tasks, submitted, sent⟩ := w
    obtain rfl := hbuffer
    cases buffer with
    | nil => simp [sendPackets]
    | cons front rest =>
      obtain ⟨rfl, hrest⟩ :
          returns = true ∧ ∀ returns ∈ sends.take rest.length, returns = true := by
        simpa using hsends
      have hloop := ih (w := ⟨⟨flag, rest.map some⟩, tasks, submitted, sent ++ [front]⟩) rfl hrest
      simp [sendPackets, hloop]

/-- A `send` that throws leaves its packet behind as a null pointer. -/
theorem sendPackets_throws {buffer : List α} {sends : List Bool}
    (hbuffer : w.handler.mRtpBuffer = buffer.map some)
    (hsends : ¬∀ returns ∈ sends.take buffer.length, returns = true) :
    ∃ rest sent, w.sendPackets sends =
      some ({ w with handler := { w.handler with mRtpBuffer := none :: rest }, sent }, false) := by
  induction sends generalizing w buffer with
  | nil => simp at hsends
  | cons returns sends ih =>
    obtain ⟨⟨flag, _⟩, tasks, submitted, sent⟩ := w
    obtain rfl := hbuffer
    cases buffer with
    | nil => simp at hsends
    | cons front rest =>
      cases returns with
      | false => exact ⟨rest.map some, sent ++ [front], by simp [sendPackets]⟩
      | true =>
        have hrest : ¬∀ returns ∈ sends.take rest.length, returns = true := by simpa using hsends
        obtain ⟨rest', sent', hloop⟩ :=
          ih (w := ⟨⟨flag, rest.map some⟩, tasks, submitted, sent ++ [front]⟩) rfl hrest
        exact ⟨rest', sent', by simp [sendPackets, hloop]⟩

/-- `outgoing` adds a task if the flag was set, and sets it. -/
theorem outgoing_eq (w : World α) (messages : List α) :
    w.outgoing messages =
      { w with
        handler :=
          { mHaveScheduled := true
            mRtpBuffer := w.handler.mRtpBuffer ++ messages.map some }
        tasks := w.tasks + w.handler.mHaveScheduled.toNat
        submitted := w.submitted ++ messages } := by
  obtain ⟨⟨flag, buffer⟩, tasks, submitted, sent⟩ := w
  cases flag <;> simp [outgoing, schedule]

/-- The task clears the flag, so its own call of `schedule` sets it again and adds no task. -/
theorem runTask_eq {buffer : List α} {sends : List Bool}
    (hbuffer : w.handler.mRtpBuffer = buffer.map some)
    (hsends : ∀ returns ∈ sends.take buffer.length, returns = true) :
    w.runTask sends =
      some { w with
        handler :=
          { mHaveScheduled := !(buffer.drop sends.length).isEmpty
            mRtpBuffer := (buffer.drop sends.length).map some }
        sent := w.sent ++ buffer.take sends.length } := by
  have hloop := sendPackets_eq
    (w := { w with handler := { w.handler with mHaveScheduled := false } }) hbuffer hsends
  unfold runTask
  rw [hloop]
  cases hrest : (buffer.drop sends.length) with
  | nil => simp [scheduleRest]
  | cons front rest => simp [scheduleRest, schedule]

/-- When `send` throws, nothing is scheduled. -/
theorem runTask_throws {buffer : List α} {sends : List Bool}
    (hbuffer : w.handler.mRtpBuffer = buffer.map some)
    (hsends : ¬∀ returns ∈ sends.take buffer.length, returns = true) :
    ∃ rest sent, w.runTask sends =
      some { w with handler := { mHaveScheduled := false, mRtpBuffer := none :: rest }, sent } := by
  obtain ⟨rest, sent, hloop⟩ := sendPackets_throws
    (w := { w with handler := { w.handler with mHaveScheduled := false } }) hbuffer hsends
  refine ⟨rest, sent, ?_⟩
  unfold runTask
  rw [hloop]

/-! ## Order -/

/-- The packets passed to `send`, followed by the buffer, are the submitted packets. -/
def InOrder (w : World α) : Prop :=
  w.sent.map some ++ w.handler.mRtpBuffer = w.submitted.map some

/-- Then there are no null pointers in the buffer. -/
theorem InOrder.buffer (h : w.InOrder) :
    ∃ buffer, w.handler.mRtpBuffer = buffer.map some ∧ w.submitted = w.sent ++ buffer := by
  obtain ⟨sent, buffer, hsubmitted, hsent, hbuffer⟩ := List.map_eq_append_iff.1 h.symm
  have hsame : sent = w.sent := List.map_injective_iff.2 (fun _ _ => Option.some.inj) hsent
  exact ⟨buffer, hbuffer.symm, hsame ▸ hsubmitted⟩

/-- Every `send` of the step that finds a packet returns. -/
def Returns (w : World α) : Event α → Prop
  | .outgoing _ => True
  | .task sends => ∀ returns ∈ sends.take w.handler.mRtpBuffer.length, returns = true

instance (w : World α) : DecidablePred w.Returns
  | .outgoing _ => isTrue trivial
  | .task _ => inferInstanceAs (Decidable (∀ _ ∈ _, _))

/-- A step keeps the packets in order exactly if `send` returns. -/
theorem inOrder_step_iff (h : w.InOrder) {e : Event α} (hstep : w.step e = some w') :
    w'.InOrder ↔ w.Returns e := by
  cases e with
  | outgoing messages =>
    obtain rfl := Option.some.inj hstep
    refine iff_of_true ?_ trivial
    rw [outgoing_eq, InOrder, List.map_append, ← h, List.append_assoc]
  | task sends =>
    obtain ⟨-, htask⟩ := Option.ite_none_left_eq_some.1 hstep
    obtain ⟨buffer, hbuffer, hsubmitted⟩ := h.buffer
    have hreturns : w.Returns (.task sends) ↔
        ∀ returns ∈ sends.take buffer.length, returns = true := by
      rw [Returns, hbuffer, List.length_map]
    rw [hreturns]
    by_cases hsends : ∀ returns ∈ sends.take buffer.length, returns = true
    · rw [runTask_eq (w := { w with tasks := w.tasks - 1 }) hbuffer hsends] at htask
      obtain rfl := Option.some.inj htask
      refine iff_of_true ?_ hsends
      simp only [InOrder, hsubmitted]
      rw [← List.map_append, List.append_assoc, List.take_append_drop]
    · obtain ⟨rest, sent, hthrows⟩ :=
        runTask_throws (w := { w with tasks := w.tasks - 1 }) hbuffer hsends
      rw [hthrows] at htask
      obtain rfl := Option.some.inj htask
      refine iff_of_false (fun hafter => ?_) hsends
      -- the null pointer is not one of the packets
      obtain ⟨buffer', hbuffer', -⟩ := hafter.buffer
      cases buffer' <;> simp at hbuffer'

/-- In every run in which `send` returns no packet is lost, duplicated or overtaken. -/
theorem inOrder_run {events : List (Event α)} (hreturns : Transition.Meets step Returns {} events)
    (hrun : Transition.run step {} events = some w) : w.InOrder := by
  have hstart : ({} : World α).InOrder := rfl
  refine Transition.run_invariant (fun u e u' hu hok hstep => ?_) hstart hreturns hrun
  exact (inOrder_step_iff hu hstep).2 hok

/-! ## Stranded packets -/

/-- While there are packets in the buffer, exactly one task is in the pool and the flag is set. -/
def NotStranded (w : World α) : Prop :=
  w.handler.mRtpBuffer ≠ [] → w.tasks = 1 ∧ w.handler.mHaveScheduled = true

/-- The condition of a step: `outgoing` leaves the buffer empty, or comes when either the flag is
set and no task is in the pool, or it is not set and one is; and the budget of a task lets the whole
buffer pass, with a `send` that returns for each packet. -/
def Safe (w : World α) : Event α → Prop
  | .outgoing messages =>
    w.handler.mRtpBuffer ++ messages.map some = [] ∨ w.tasks + w.handler.mHaveScheduled.toNat = 1
  | .task sends => w.handler.mRtpBuffer.length ≤ sends.length ∧ w.Returns (.task sends)

theorem notStranded_outgoing_iff (w : World α) (messages : List α) :
    (w.outgoing messages).NotStranded ↔ Safe w (.outgoing messages) := by
  rw [outgoing_eq]
  simp only [NotStranded, Safe, and_true]
  tauto

/-- A task that leaves packets behind leaves them without a task. -/
theorem notStranded_task_iff (h : w.NotStranded) (horder : w.InOrder) {sends : List Bool}
    (hreturns : w.Returns (.task sends)) (hstep : w.step (.task sends) = some w') :
    w'.NotStranded ↔ w.handler.mRtpBuffer.length ≤ sends.length := by
  obtain ⟨-, htask⟩ := Option.ite_none_left_eq_some.1 hstep
  obtain ⟨buffer, hbuffer, -⟩ := horder.buffer
  rw [Returns, hbuffer, List.length_map] at hreturns
  rw [runTask_eq (w := { w with tasks := w.tasks - 1 }) hbuffer hreturns] at htask
  obtain rfl := Option.some.inj htask
  rw [hbuffer, List.length_map]
  constructor
  · intro hafter
    by_contra hlong
    have hrest : (buffer.drop sends.length).map some ≠ [] := by simpa using hlong
    have hne : w.handler.mRtpBuffer ≠ [] := by
      rw [hbuffer]
      rintro hnil
      simp [List.map_eq_nil_iff.1 hnil] at hrest
    have htwo : w.tasks - 1 = 1 := (hafter hrest).1
    have hone := (h hne).1
    omega
  · intro hshort hrest
    have hnil : (buffer.drop sends.length).map some = [] := by simpa using hshort
    exact absurd hnil hrest

/-- Packets are never stranded in a run, and never lost, exactly if all its steps meet the
condition. -/
theorem notStranded_iff_meets {events : List (Event α)}
    (hrun : Transition.run step {} events = some w) :
    (∀ before, before <+: events → ∀ u, Transition.run step ({} : World α) before = some u →
      u.NotStranded ∧ u.InOrder) ↔ Transition.Meets step Safe {} events := by
  have hnow : ∀ (u : World α) e u', u.NotStranded ∧ u.InOrder → u.step e = some u' →
      (u'.NotStranded ∧ u'.InOrder ↔ Safe u e) := by
    rintro u e u' ⟨hu, horder⟩ hstep
    have hreturns := inOrder_step_iff horder hstep
    cases e with
    | outgoing messages =>
      obtain rfl := Option.some.inj hstep
      rw [hreturns, notStranded_outgoing_iff]
      exact and_iff_left trivial
    | task sends =>
      rw [hreturns]
      exact and_congr_left fun hok => notStranded_task_iff hu horder hok hstep
  refine Transition.forall_prefix_iff_meets (P := fun u => u.NotStranded ∧ u.InOrder) ?_ ?_
    ⟨fun hne => absurd rfl hne, rfl⟩ hrun
  · intro u e u' hu hsafe hstep
    exact (hnow u e u' hu hstep).2 hsafe
  · intro u e u' hu hmiss hstep hafter
    exact hmiss ((hnow u e u' hu hstep).1 hafter)

/-- An empty batch first, so that the flag is set when two packets come. -/
theorem notStranded_iff_meets_primed :
    (∀ before, before <+: [.outgoing [], .outgoing [1, 2], .task [true, true]] →
      ∀ u, Transition.run step ({} : World ℕ) before = some u → u.NotStranded ∧ u.InOrder) ↔
        Transition.Meets step Safe ({} : World ℕ)
          [.outgoing [], .outgoing [1, 2], .task [true, true]] :=
  notStranded_iff_meets rfl

/-- The first packet: the flag is set, but there is no task to send it. -/
theorem first_packet_stranded :
    ∃ u : World ℕ, Transition.run step {} [.outgoing [1]] = some u ∧
      u.handler.mRtpBuffer = [some 1] ∧ u.tasks = 0 ∧ ¬u.NotStranded := by
  refine ⟨_, rfl, rfl, rfl, fun h => ?_⟩
  exact absurd (h (by decide)).1 (by decide)

end World

end PacingHandler

end Rtc
