import QuicRtc.TcpTransport.Threads

/-!
# Registration of a TCP socket

While messages are queued, the socket has to be registered with a direction that includes `Out`:
nothing else empties the queue. `outgoing` registers it behind the `push`, and the `Out` event takes
the direction back when it finds the queue empty; both are right under any interleaving, since the
poll thread keeps the mutex of the `PollService` and a user's thread that has pushed in between
registers later.

The `Timeout` event takes the direction back without looking at the queue. If the ping that the
upper transport has sent from inside the event could not be written, it stays in the queue with the
direction `In`. The first registration of a connection does not look at the queue either, although
the upper transports have been started before it.

* `drainStep_spec`: what a step of `trySendQueue` does to the queue.
* `Inv`: the invariant, with a lemma for each kind of step.
* `registered_of_meets`: in a run whose first registration and whose `Timeout` events find nothing
  queued, or a `send` that is about to register, the registration is right.
-/

namespace Rtc.TcpTransport

variable {s s' : Threads}

/-- The socket is registered with a direction that includes `Out`. -/
def IncludesOut (t : TcpTransport) : Prop := t.poll = some .both ∨ t.poll = some .pollOut

/-- A `send` has pushed a message and is about to register. -/
def Threads.Pending (s : Threads) : Prop :=
  ∃ send, s.sender = some send ∧ send.phase = .registering

instance (s : Threads) : Decidable s.Pending :=
  match h : s.sender with
  | none => isFalse (by simp [Threads.Pending, h])
  | some send => decidable_of_iff (send.phase = .registering) (by simp [Threads.Pending, h])

/-- When the connection is established and no call is in progress, a socket with queued messages is
registered with a direction that includes `Out`. -/
def Registered (s : Threads) : Prop :=
  s.transport.mState = .connected → s.sender = none → s.process = none → s.starting = false →
    s.transport.mSendQueue.mQueue ≠ [] → IncludesOut s.transport

/-- Nothing is queued, or a `send` is about to register. -/
def Covered (s : Threads) : Prop := s.transport.mSendQueue.mQueue = [] ∨ s.Pending

instance (s : Threads) : Decidable (Covered s) := inferInstanceAs (Decidable (_ ∨ _))

/-- A step that registers with `In` without a look at the queue finds nothing queued, or a `send`
that is about to register. -/
def Rearmed (s : Threads) : Step → Prop
  | .process _ => s.process = some .registerIn → Covered s
  | .start => Covered s
  | _ => True

instance (s : Threads) : DecidablePred (Rearmed s)
  | .process _ => inferInstanceAs (Decidable (_ → _))
  | .start => inferInstanceAs (Decidable (Covered s))
  | .send _ => isTrue trivial
  | .nested _ => isTrue trivial
  | .sender _ => isTrue trivial
  | .poll _ => isTrue trivial
  | .closed => isTrue trivial

/-- A step of `trySendQueue` adds nothing to the queue, and returns `true` on an empty one. -/
theorem drainStep_spec {t t' : TcpTransport} {results : List SendResult} {drain : Drain}
    {result : DrainResult} (h : drainStep t results drain = some (t', result)) :
    t'.poll = t.poll ∧ t'.mState = t.mState ∧
      (t.mSendQueue.mQueue = [] → t'.mSendQueue.mQueue = []) ∧
      (result = .returned true → t'.mSendQueue.mQueue = []) := by
  -- the report of the amount touches neither the queue nor the registration
  have hupdate : ∀ (t : TcpTransport) (delta : ℤ),
      (t.updateBufferedAmount delta).1.poll = t.poll ∧
        (t.updateBufferedAmount delta).1.mState = t.mState ∧
        (t.updateBufferedAmount delta).1.mSendQueue = t.mSendQueue := by
    intro t delta
    unfold updateBufferedAmount
    split <;> exact ⟨rfl, rfl, rfl⟩
  cases drain with
  | test =>
    unfold drainStep at h
    dsimp only at h
    split at h
    · next hpeek =>
      obtain ⟨-, heq⟩ := Option.ite_none_right_eq_some.1 h
      obtain ⟨rfl, rfl⟩ := Prod.mk.inj (Option.some.inj heq)
      have hempty : t.mSendQueue.mQueue = [] := List.head?_eq_none_iff.1 hpeek
      exact ⟨rfl, rfl, fun _ => hempty, fun _ => hempty⟩
    · obtain ⟨attempt, -, heq⟩ := Option.map_eq_some_iff.1 h
      split at heq
      all_goals
        obtain ⟨rfl, rfl⟩ := Prod.mk.inj heq
        exact ⟨rfl, rfl, id, by simp⟩
  | sent size =>
    obtain ⟨rfl, rfl⟩ := Prod.mk.inj (Option.some.inj h)
    obtain ⟨hpoll, hstate, hqueue⟩ := hupdate { t with mSendQueue := t.mSendQueue.pop.2 } (-size)
    refine ⟨hpoll, hstate, fun hempty => ?_, by simp⟩
    rw [hqueue, Queue.mQueue_pop, hempty, List.tail_nil]
  | blocked size message =>
    obtain ⟨rfl, rfl⟩ := Prod.mk.inj (Option.some.inj h)
    obtain ⟨hpoll, hstate, hqueue⟩ :=
      hupdate { t with mSendQueue := (t.mSendQueue.exchange message).2 } (-size + message.length)
    refine ⟨hpoll, hstate, fun hempty => ?_, by simp⟩
    rw [hqueue]
    simp [Queue.exchange, hempty]
  | popped =>
    obtain ⟨rfl, rfl⟩ := Prod.mk.inj (Option.some.inj h)
    exact ⟨rfl, rfl, id, by simp⟩
  | exchanged =>
    obtain ⟨rfl, rfl⟩ := Prod.mk.inj (Option.some.inj h)
    exact ⟨rfl, rfl, id, by simp⟩

/-- The invariant of the threads. -/
structure Inv (s : Threads) : Prop where
  registered : s.transport.mState = .connected → s.transport.mSendQueue.mQueue ≠ [] →
    IncludesOut s.transport ∨ s.Pending
  /-- Between the end of `trySendQueue` and `setPoll` in `Out`. -/
  register : s.process = some .register → s.transport.mSendQueue.mQueue ≠ [] → s.Pending
  nested : ∀ send, s.sender = some send → send.thread = .poll →
    ∃ process, s.process = some process ∧ process.mayCall = true

namespace Inv

theorem init (mIsActive : Bool) : Inv (Threads.init mIsActive) := by
  cases mIsActive with
  | true => exact ⟨fun _ h => absurd rfl h, nofun, nofun⟩
  | false => exact ⟨fun _ h => absurd rfl h, nofun, nofun⟩

/-- A state in which no `send` is about to register, seen from the queue. -/
theorem of_not_pending (h : Inv s) (hpending : ¬s.Pending) {t : TcpTransport}
    (hpoll : t.poll = s.transport.poll) (hstate : t.mState = s.transport.mState)
    (hqueue : s.transport.mSendQueue.mQueue = [] → t.mSendQueue.mQueue = []) :
    (t.mState = .connected → t.mSendQueue.mQueue ≠ [] → IncludesOut t) ∧
      (s.process = some .register → t.mSendQueue.mQueue = []) := by
  constructor
  · intro hconnected hne
    rw [hstate] at hconnected
    rcases h.registered hconnected fun hempty => hne (hqueue hempty) with hout | hpending'
    · unfold IncludesOut
      rw [hpoll]
      exact hout
    · exact absurd hpending' hpending
  · intro hprocess
    by_contra hne
    exact hpending (h.register hprocess fun hempty => hne (hqueue hempty))

theorem beginSend (h : Inv s) (hsender : s.sender = none) {thread : Thread}
    (hthread : thread = .poll → ∃ process, s.process = some process ∧ process.mayCall = true)
    (message : List UInt8) : Inv (s.beginSend thread message) := by
  have hpending : ¬s.Pending := by
    rintro ⟨send, hsend, -⟩
    rw [hsender] at hsend
    cases hsend
  unfold Threads.beginSend
  split
  · exact h
  · obtain ⟨hout, hregister⟩ := h.of_not_pending hpending rfl rfl id
    refine ⟨fun hconnected hne => Or.inl (hout hconnected hne),
      fun hprocess hne => absurd (hregister hprocess) hne, ?_⟩
    rintro send hsend hpoll
    obtain rfl := Option.some.inj hsend
    exact hthread hpoll

theorem not_pending {send : Send} (hsender : s.sender = some send)
    (hphase : send.phase ≠ .registering) : ¬s.Pending := by
  rintro ⟨send', hsend', hregistering⟩
  obtain rfl := Option.some.inj (hsender.symm.trans hsend')
  exact hphase hregistering

/-- A `send` that has not pushed goes on, or ends. -/
theorem withSender (h : Inv s) {send : Send} (hsender : s.sender = some send)
    (hphase : send.phase ≠ .registering) {t : TcpTransport} (hpoll : t.poll = s.transport.poll)
    (hstate : t.mState = s.transport.mState)
    (hqueue : s.transport.mSendQueue.mQueue = [] → t.mSendQueue.mQueue = [])
    {sender' : Option Send} (hthread : ∀ send', sender' = some send' → send'.thread = send.thread) :
    Inv { s with transport := t, sender := sender' } := by
  obtain ⟨hout, hregister⟩ := h.of_not_pending (not_pending hsender hphase) hpoll hstate hqueue
  refine ⟨fun hconnected hne => Or.inl (hout hconnected hne),
    fun hprocess hne => absurd (hregister hprocess) hne, ?_⟩
  intro send' hsend' hpoll'
  exact h.nested send hsender ((hthread send' hsend').symm.trans hpoll')

theorem sendStep (h : Inv s) {send : Send} (hsender : s.sender = some send)
    {results : List SendResult} (hstep : s.sendStep send results = some s') : Inv s' := by
  unfold Threads.sendStep at hstep
  split at hstep
  · next drain hphase =>
    have hne : send.phase ≠ .registering := by simp [hphase]
    obtain ⟨⟨t, result⟩, hdrain, rfl⟩ := Option.map_eq_some_iff.1 hstep
    obtain ⟨hpoll, hstate, hqueue, -⟩ := drainStep_spec hdrain
    cases result with
    | running drain =>
      refine h.withSender hsender hne hpoll hstate hqueue ?_
      rintro send' hsend'
      obtain rfl := Option.some.inj hsend'
      rfl
    | returned sent =>
      refine h.withSender hsender hne hpoll hstate hqueue ?_
      rintro send' hsend'
      obtain ⟨phase, -, rfl⟩ := Option.map_eq_some_iff.1 hsend'
      rfl
    | threw => exact h.withSender hsender hne hpoll hstate hqueue nofun
  · next hphase =>
    have hne : send.phase ≠ .registering := by simp [hphase]
    obtain ⟨attempt, -, rfl⟩ := Option.map_eq_some_iff.1 hstep
    cases attempt.outcome with
    | sent => exact h.withSender hsender hne rfl rfl id nofun
    | blocked rest =>
      refine h.withSender hsender hne rfl rfl id ?_
      rintro send' hsend'
      obtain rfl := Option.some.inj hsend'
      rfl
    | threw => exact h.withSender hsender hne rfl rfl id nofun
  · next message hphase =>
    obtain rfl := Option.some.inj hstep
    -- the `send` is about to register
    have hpending : ∃ send' : Send, some { send with phase := SendPhase.registering } = some send' ∧
        send'.phase = .registering := ⟨_, rfl, rfl⟩
    refine ⟨fun _ _ => Or.inr hpending, fun _ _ => hpending, ?_⟩
    rintro send' hsend' hpoll
    obtain rfl := Option.some.inj hsend'
    exact h.nested send hsender hpoll
  · next hphase =>
    obtain ⟨huser, hregister⟩ := Option.ite_none_left_eq_some.1 hstep
    obtain rfl := Option.some.inj hregister
    refine ⟨fun _ _ => Or.inl (Or.inl rfl), fun hprocess => ?_, nofun⟩
    -- the poll thread is not in `Out`: it has called this `send`, or the user waits for it
    exfalso
    cases hthread : send.thread with
    | user => exact huser ⟨hthread, by rw [show s.process = some .register from hprocess]; simp⟩
    | poll =>
      obtain ⟨process, hsome, hcall⟩ := h.nested send hsender hthread
      rw [show s.process = some .register from hprocess] at hsome
      obtain rfl := Option.some.inj hsome
      exact absurd hcall (by decide)

/-- The poll thread goes on, when it has not called a `send` that is in progress. -/
theorem withProcess (_h : Inv s) (hruns : s.pollRuns) {t : TcpTransport}
    {process' : Option Process}
    (hregistered : t.mState = .connected → t.mSendQueue.mQueue ≠ [] →
      IncludesOut t ∨ s.Pending)
    (hregister : process' = some .register → t.mSendQueue.mQueue ≠ [] → s.Pending) :
    Inv { s with transport := t, process := process' } where
  registered := hregistered
  register := hregister
  nested := fun send hsend hpoll => absurd hpoll (hruns send hsend)

theorem processStep (h : Inv s) (hruns : s.pollRuns) {process : Process}
    (hprocess : s.process = some process) {results : List SendResult}
    (hrearmed : process = .registerIn → Covered s)
    (hstep : s.processStep process results = some s') : Inv s' := by
  cases process with
  | out drain =>
    obtain ⟨⟨t, result⟩, hdrain, rfl⟩ := Option.map_eq_some_iff.1 hstep
    obtain ⟨hpoll, hstate, hqueue, htrue⟩ := drainStep_spec hdrain
    have hregistered : t.mState = .connected → t.mSendQueue.mQueue ≠ [] →
        IncludesOut t ∨ s.Pending := by
      intro hconnected hne
      rw [hstate] at hconnected
      unfold IncludesOut
      rw [hpoll]
      exact h.registered hconnected fun hempty => hne (hqueue hempty)
    cases result with
    | running drain => exact h.withProcess hruns hregistered nofun
    | returned sent =>
      cases sent with
      | true =>
        -- the loop has ended on an empty queue
        exact h.withProcess hruns hregistered fun _ hne => absurd (htrue rfl) hne
      | false => exact h.withProcess hruns hregistered nofun
    | threw => exact h.withProcess hruns (fun hconnected => nomatch hconnected) nofun
  | register =>
    obtain rfl := Option.some.inj hstep
    exact h.withProcess hruns (fun _ hne => Or.inr (h.register hprocess hne)) nofun
  | incoming =>
    obtain rfl := Option.some.inj hstep
    exact h.withProcess hruns h.registered nofun
  | timeout =>
    obtain rfl := Option.some.inj hstep
    exact h.withProcess hruns h.registered nofun
  | connected =>
    obtain rfl := Option.some.inj hstep
    exact h.withProcess hruns h.registered nofun
  | registerIn =>
    obtain rfl := Option.some.inj hstep
    refine h.withProcess hruns (fun _ hne => Or.inr ?_) nofun
    exact (hrearmed rfl).resolve_left hne

theorem startStep (h : Inv s) (hrearmed : Covered s) (hstep : s.startStep = some s') : Inv s' := by
  obtain ⟨⟨-, hprocess⟩, heq⟩ := Option.ite_none_right_eq_some.1 hstep
  obtain rfl := Option.some.inj heq
  refine ⟨fun _ hne => Or.inr (hrearmed.resolve_left hne), fun hregister => ?_, h.nested⟩
  -- the poll thread is not in `process`
  rw [show s.process = some .register from hregister] at hprocess
  cases hprocess

theorem pollStep (h : Inv s) (hprocess : s.process = none) {event : PollEvent}
    (hstep : s.pollStep event = some s') : Inv s' := by
  have hruns : s.pollRuns := by
    intro send hsend hpoll
    obtain ⟨process, hsome, -⟩ := h.nested send hsend hpoll
    rw [hprocess] at hsome
    cases hsome
  cases event with
  | pollIn =>
    obtain ⟨-, hevent⟩ := Option.ite_none_right_eq_some.1 hstep
    obtain rfl := Option.some.inj hevent
    exact h.withProcess hruns h.registered nofun
  | pollOut =>
    obtain ⟨-, hevent⟩ := Option.ite_none_right_eq_some.1 hstep
    obtain rfl := Option.some.inj hevent
    exact h.withProcess hruns h.registered nofun
  | timeout =>
    obtain ⟨hin, hevent⟩ := Option.ite_none_right_eq_some.1 hstep
    obtain rfl := Option.some.inj hevent
    -- the entry that is erased did not include `Out`
    refine h.withProcess hruns (fun hconnected hne => Or.inr ?_) nofun
    have hnot : ¬IncludesOut s.transport := by
      rintro (hboth | hout)
      · rw [hin] at hboth
        cases hboth
      · rw [hin] at hout
        cases hout
    exact (h.registered hconnected hne).resolve_left hnot

theorem step (h : Inv s) {e : Step} (hrearmed : Rearmed s e) (hstep : s.step e = some s') :
    Inv s' := by
  cases e with
  | send message =>
    obtain ⟨hsender, hsend⟩ := Option.ite_none_right_eq_some.1 hstep
    obtain rfl := Option.some.inj hsend
    refine h.beginSend hsender (fun hpoll : Thread.user = .poll => ?_) message
    cases hpoll
  | nested message =>
    obtain ⟨⟨hsender, hcall⟩, hsend⟩ := Option.ite_none_right_eq_some.1 hstep
    obtain rfl := Option.some.inj hsend
    refine h.beginSend hsender (fun _ => ?_) message
    exact (Option.any_eq_true _ _).1 hcall
  | sender results =>
    obtain ⟨send, hsender, hsend⟩ := Option.bind_eq_some_iff.1 hstep
    exact h.sendStep hsender hsend
  | start => exact h.startStep hrearmed hstep
  | poll event =>
    obtain ⟨hprocess, hevent⟩ := Option.ite_none_right_eq_some.1 hstep
    exact h.pollStep hprocess hevent
  | process results =>
    obtain ⟨hruns, hgo⟩ := Option.ite_none_right_eq_some.1 hstep
    obtain ⟨process, hprocess, hgo⟩ := Option.bind_eq_some_iff.1 hgo
    refine h.processStep hruns hprocess (fun hidle => ?_) hgo
    exact hrearmed (hidle ▸ hprocess)
  | closed =>
    obtain ⟨⟨hruns, -⟩, hclosed⟩ := Option.ite_none_right_eq_some.1 hstep
    obtain rfl := Option.some.inj hclosed
    exact h.withProcess hruns (fun hconnected => nomatch hconnected) nofun

end Inv

/-! ## Runs -/

/-- In every run from the moment when a connection is established, in which the first registration
of the socket and that of each `Timeout` event find nothing queued, or a `send` that is about to
register it, the registration includes `Out` whenever the connection is established, no call is in
progress and messages are queued. -/
theorem registered_of_meets {mIsActive : Bool} {es : List Step} {t : Threads}
    (hmeets : Transition.Meets Threads.step Rearmed (Threads.init mIsActive) es)
    (hrun : Transition.run Threads.step (Threads.init mIsActive) es = some t) : Registered t := by
  have hinv : Inv t :=
    Transition.run_invariant (fun _ _ _ h hok hstep => h.step hok hstep) (Inv.init mIsActive) hmeets
      hrun
  intro hconnected hsender _ _ hne
  refine (hinv.registered hconnected hne).resolve_right ?_
  rintro ⟨send, hsend, -⟩
  rw [hsender] at hsend
  cases hsend

/-- A user's `send` that blocks while a `Timeout` event is handled: the event registers with `In`
first, and the `send` behind it. -/
theorem registered_of_meets_send :
    ∃ t, Transition.run Threads.step (Threads.init true)
        [.process [], .process [], .poll .timeout, .send [1, 2], .sender [],
          .sender [.wrote 1, .again], .sender [], .process [], .process [], .sender []] = some t ∧
      t.transport.mSendQueue.mQueue = [[2]] ∧ Registered t := by
  have hmeets : Transition.Meets Threads.step Rearmed (Threads.init true)
      [.process [], .process [], .poll .timeout, .send [1, 2], .sender [],
        .sender [.wrote 1, .again], .sender [], .process [], .process [], .sender []] := by
    decide
  exact ⟨_, rfl, rfl, registered_of_meets hmeets rfl⟩

/-- Two runs that leave a message queued and the socket registered with `In`: the ping that a
`Timeout` event has sent is queued, and the event registers with `In`; the upper transport has sent
a request when the connection is established, and the first registration follows. -/
theorem registers_without_queue :
    (∃ t, Transition.run Threads.step (Threads.init true)
        [.process [], .process [], .poll .timeout, .nested [0x89, 4, 0, 0, 0, 0], .sender [],
          .sender [.again], .sender [], .sender [], .process [], .process []] = some t ∧
      ¬Registered t) ∧
      ∃ t, Transition.run Threads.step (Threads.init true)
          [.nested [0x47, 0x45, 0x54], .sender [], .sender [.again], .sender [], .sender [],
            .process [], .process []] = some t ∧
        ¬Registered t := by
  have hstuck {t : Threads} (hconnected : t.transport.mState = .connected)
      (hidle : t.sender = none ∧ t.process = none ∧ t.starting = false)
      (hqueue : t.transport.mSendQueue.mQueue ≠ []) (hpoll : t.transport.poll = some .pollIn) :
      ¬Registered t := by
    obtain ⟨hsender, hprocess, hstarting⟩ := hidle
    intro hregistered
    rcases hregistered hconnected hsender hprocess hstarting hqueue with hboth | hout
    · cases hpoll.symm.trans hboth
    · cases hpoll.symm.trans hout
  constructor
  · exact ⟨_, rfl, hstuck rfl ⟨rfl, rfl, rfl⟩ (List.cons_ne_nil _ _) rfl⟩
  · exact ⟨_, rfl, hstuck rfl ⟨rfl, rfl, rfl⟩ (List.cons_ne_nil _ _) rfl⟩

end Rtc.TcpTransport
