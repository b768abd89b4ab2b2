import QuicRtc.QuicTransport.Spec

/-!
# The stream registry of the QUIC transport

`streams` and `streamIds` are written by `on_new_stream` and cleared by `closeStream` only. A stream
that `sendReset` or the peer closes stays in them, and after 65536 streams `nextStreamId` comes back
to ids that may be in use. In every run that avoids these steps the two maps are inverse to each
other and hold exactly the open streams, and every other run leaves that state.

* `Registry`: the property.
* `KeepsRegistry`: the steps that preserve it.
* `registry_iff`: the property holds all along a run exactly when all its steps preserve it.
-/

namespace Rtc.QuicTransport

/-- The maps are inverse to each other, the streams in them are the open ones, and
`lsquic_stream_close` has been called on open streams only. -/
structure Registry (w : World) : Prop where
  inverse : ∀ stream streamId,
    w.transport.streams stream = some streamId ↔ w.transport.streamIds streamId = some stream
  isOpen : ∀ stream, stream ∈ w.openStreams ↔ (w.transport.streams stream).isSome = true
  closes : ∀ stream, .streamClose stream false ∉ w.calls

/-- The steps that preserve the registry: a new stream gets an id that is not in use, no registered
stream is reset, and `on_close` comes after `closeStream`. -/
def KeepsRegistry (w : World) : Event → Prop
  | .onNewStream _ => w.transport.streamIds w.transport.nextStreamId = none
  | .sendReset streamId => w.transport.streamIds streamId = none
  | .onStreamClose stream => stream ∉ w.openStreams
  | _ => True

instance (w : World) : DecidablePred (KeepsRegistry w)
  | .onNewStream _ => inferInstanceAs (Decidable (_ = _))
  | .sendReset _ => inferInstanceAs (Decidable (_ = _))
  | .onStreamClose _ => inferInstanceAs (Decidable (¬_))
  | .start => isTrue trivial
  | .stop => isTrue trivial
  | .close => isTrue trivial
  | .push _ => isTrue trivial
  | .enqueueFlush => isTrue trivial
  | .doFlush => isTrue trivial
  | .decrement => isTrue trivial
  | .flush => isTrue trivial
  | .closeStream _ => isTrue trivial
  | .onNewConn _ => isTrue trivial
  | .onHskDone _ _ => isTrue trivial
  | .onConnClosed _ => isTrue trivial

namespace Registry

variable {w w' : World}

theorem init (mConn : Option ℕ) : Registry (World.init mConn) := by
  constructor <;> simp [World.init]

/-- Steps that touch neither the maps nor the streams, and close no stream. -/
theorem of_frame (h : Registry w) (hstreams : w'.transport.streams = w.transport.streams)
    (hids : w'.transport.streamIds = w.transport.streamIds)
    (hopen : w'.openStreams = w.openStreams)
    (hcalls : ∀ stream, .streamClose stream false ∈ w'.calls →
      .streamClose stream false ∈ w.calls) : Registry w' where
  inverse := by
    rw [hstreams, hids]
    exact h.inverse
  isOpen := by
    rw [hstreams, hopen]
    exact h.isOpen
  closes := fun stream hmem => h.closes stream (hcalls stream hmem)

/-- `trySendQueue` does not close streams. -/
theorem trySendQueue (h : Registry w) : Registry w.trySendQueue := by
  rcases trySendQueue_cases w with ⟨hsame, -⟩ | ⟨_, _, _, -, -, -, heq⟩
  · rw [hsame]
    exact h
  · rw [heq]
    refine h.of_frame rfl rfl rfl fun stream hmem => ?_
    simpa [List.mem_replicate] using hmem

/-- A new stream whose id is not in use. -/
theorem onNewStream (h : Registry w) {stream : ℕ} (hnew : stream ∉ w.openStreams)
    (hunused : w.transport.streamIds w.transport.nextStreamId = none) :
    Registry (w.onNewStream stream) where
  inverse := by
    intro stream' streamId
    simp only [World.onNewStream, Function.update_apply]
    -- lsquic does not reuse a stream that is open
    have hnone : w.transport.streams stream = none := by
      rw [← Option.not_isSome_iff_eq_none, ← h.isOpen]
      exact hnew
    have hinverse := h.inverse stream' streamId
    by_cases hs : stream' = stream
    · subst hs
      by_cases hid : streamId = w.transport.nextStreamId
      · simp [hid]
      · rw [hnone] at hinverse
        simpa [hid, Ne.symm hid] using hinverse
    · by_cases hid : streamId = w.transport.nextStreamId
      · subst hid
        rw [hunused] at hinverse
        simpa [hs, Ne.symm hs] using hinverse
      · simpa [hs, hid] using hinverse
  isOpen := by
    intro stream'
    simp only [World.onNewStream, Function.update_apply, List.mem_append, List.mem_singleton]
    by_cases hs : stream' = stream
    · simp [hs]
    · simpa [hs] using h.isOpen stream'
  closes := h.closes

/-- `closeStream` removes the stream it closes. -/
theorem closeStream (h : Registry w) {streamId found : ℕ}
    (hfound : w.transport.streamIds streamId = some found) :
    Registry
      { w.streamClose found with
        transport :=
          { w.transport with
            streams := Function.update w.transport.streams found none
            streamIds := Function.update w.transport.streamIds streamId none } } where
  inverse := by
    intro stream' streamId'
    simp only [Function.update_apply]
    have hinverse := h.inverse stream' streamId'
    by_cases hs : stream' = found
    · by_cases hid : streamId' = streamId
      · simp [hs, hid]
      · -- the stream has one id only
        subst hs
        have hother : w.transport.streamIds streamId' ≠ some stream' := by
          intro hsame
          have heq := (h.inverse stream' streamId').2 hsame
          rw [(h.inverse stream' _).2 hfound] at heq
          exact hid (Option.some.inj heq).symm
        simp [hid, hother]
    · by_cases hid : streamId' = streamId
      · subst hid
        rw [hfound] at hinverse
        simpa [hs, Ne.symm hs] using hinverse
      · simpa [hs, hid] using hinverse
  isOpen := by
    intro stream'
    simp only [World.streamClose, Function.update_apply, List.mem_filter, decide_eq_true_eq]
    by_cases hs : stream' = found
    · simp [hs]
    · simpa [hs] using h.isOpen stream'
  closes := by
    have hopen : found ∈ w.openStreams := by
      rw [h.isOpen, (h.inverse found _).2 hfound]
      rfl
    intro stream' hmem
    simp only [World.streamClose, List.mem_append, List.mem_singleton] at hmem
    rcases hmem with hmem | heq
    · exact h.closes stream' hmem
    · simp [hopen] at heq

/-- `on_stream_close` of a stream that `closeStream` has closed before. -/
theorem onStreamClose (h : Registry w) {stream : ℕ} (hclosed : stream ∉ w.openStreams) :
    Registry (w.onStreamClose stream) := by
  refine h.of_frame rfl rfl ?_ fun _ => id
  change w.openStreams.filter (· ≠ stream) = w.openStreams
  rw [List.filter_eq_self]
  intro stream' hmem
  have hne : stream' ≠ stream := by
    rintro rfl
    exact hclosed hmem
  simpa using hne

/-- Every step that meets the condition preserves the property. -/
theorem step {e : Event} (h : Registry w) (hok : KeepsRegistry w e) (hstep : w.Takes e w') :
    Registry w' := by
  cases hstep with
  | start => exact h.of_frame rfl rfl rfl fun _ => id
  | startAgain => exact h
  | stop => exact h.of_frame rfl rfl rfl fun _ => id
  | close => exact h.of_frame rfl rfl rfl fun _ => id
  | push => exact h.of_frame rfl rfl rfl fun _ => id
  | pushRefused => exact h
  | enqueueFlush => exact h.of_frame rfl rfl rfl fun _ => id
  | doFlush htasks => exact h.trySendQueue.of_frame rfl rfl rfl fun _ => id
  | decrement htasks => exact h.of_frame rfl rfl rfl fun _ => id
  | flush => exact h.trySendQueue
  | closeStream hfound => exact h.closeStream hfound
  | closeStreamUnknown => exact h
  -- a registered stream is not reset, by the condition
  | sendReset hfound => exact absurd (hfound.symm.trans hok) (by simp)
  | sendResetUnknown hnone => exact h
  | onNewConn => exact h.of_frame rfl rfl rfl fun _ => id
  | onHskDone hconn => exact h.of_frame rfl rfl rfl fun _ => id
  | onConnClosed => exact h.of_frame rfl rfl rfl fun _ => id
  | onNewStream hnew => exact h.onNewStream hnew hok
  | onStreamClose => exact h.onStreamClose hok

/-- A step that misses the condition destroys the property. -/
theorem not_step {e : Event} (h : Registry w) (hmiss : ¬KeepsRegistry w e)
    (hstep : w.Takes e w') : ¬Registry w' := by
  intro h'
  cases hstep with
  | @onNewStream stream hnew =>
    -- the id still belongs to an older stream
    obtain ⟨older, holder⟩ := Option.ne_none_iff_exists'.1 hmiss
    have hstreams := (h.inverse older _).2 holder
    have hne : older ≠ stream := by
      rintro rfl
      exact hnew ((h.isOpen older).2 (by simp [hstreams]))
    have hids := (h'.inverse older w.transport.nextStreamId).1
      (by simpa [World.onNewStream, Function.update_apply, hne] using hstreams)
    simp only [World.onNewStream, Function.update_self, Option.some.injEq] at hids
    exact hne hids.symm
  | @sendReset streamId found hfound =>
    -- the stream is closed and stays in the maps
    have hstreams := (h.inverse found _).2 hfound
    have hkept : ((w.streamClose found).transport.streams found).isSome = true := by
      simp [World.streamClose, hstreams]
    have hopen := (h'.isOpen found).2 hkept
    simp [World.streamClose] at hopen
  | sendResetUnknown hnone => exact hmiss hnone
  | @onStreamClose stream =>
    -- so does a stream that the peer closes
    have hmem : stream ∈ w.openStreams := not_not.1 hmiss
    have hopen := (h'.isOpen stream).2 ((h.isOpen stream).1 hmem)
    simp [World.onStreamClose] at hopen
  | start => exact hmiss trivial
  | startAgain => exact hmiss trivial
  | stop => exact hmiss trivial
  | close => exact hmiss trivial
  | push => exact hmiss trivial
  | pushRefused => exact hmiss trivial
  | enqueueFlush => exact hmiss trivial
  | doFlush => exact hmiss trivial
  | decrement => exact hmiss trivial
  | flush => exact hmiss trivial
  | closeStream => exact hmiss trivial
  | closeStreamUnknown => exact hmiss trivial
  | onNewConn => exact hmiss trivial
  | onHskDone => exact hmiss trivial
  | onConnClosed => exact hmiss trivial

end Registry

/-- In every run: the maps are inverse to each other and hold exactly the open streams in every
state reached, and no stream is closed twice, exactly when every new stream gets an id that is not
in use, no registered stream is reset, and every `on_close` comes after `closeStream`. -/
theorem registry_iff {mConn : Option ℕ} {events : List Event} {w : World}
    (hrun : Transition.run World.step (World.init mConn) events = some w) :
    (∀ before, before <+: events → ∀ w',
        Transition.run World.step (World.init mConn) before = some w' → Registry w') ↔
      Transition.Meets World.step KeepsRegistry (World.init mConn) events :=
  Transition.forall_prefix_iff_meets (fun _ _ _ hw hok hstep => hw.step hok (.of_step hstep))
    (fun _ _ _ hw hmiss hstep => hw.not_step hmiss (.of_step hstep)) (Registry.init mConn) hrun

/-- Two streams, the first of which is closed locally; its id is not given out again. -/
def localCloseEvents : List Event :=
  [.onNewStream 100, .onNewStream 200, .closeStream 0, .onStreamClose 100, .onNewStream 100]

theorem registry_iff_localCloseEvents :
    ∃ w, Transition.run World.step (World.init none) localCloseEvents = some w ∧
      w.transport.streamIds 2 = some 100 ∧ w.transport.streamIds 0 = none ∧
      ∀ before, before <+: localCloseEvents → ∀ w',
        Transition.run World.step (World.init none) before = some w' → Registry w' := by
  have hok : Transition.Meets World.step KeepsRegistry (World.init none) localCloseEvents := by
    decide
  have hrun : ∃ w, Transition.run World.step (World.init none) localCloseEvents = some w ∧
      w.transport.streamIds 2 = some 100 ∧ w.transport.streamIds 0 = none := ⟨_, rfl, rfl, rfl⟩
  obtain ⟨w, hrun, htwo, hzero⟩ := hrun
  exact ⟨w, hrun, htwo, hzero, (registry_iff hrun).2 hok⟩

/-- The peer closes a stream. It stays registered, and `closeStream` closes it again. -/
theorem remote_close_stays :
    ∃ w, Transition.run World.step (World.init none)
        [.onNewStream 100, .onStreamClose 100, .closeStream 0] = some w ∧
      .streamClose 100 false ∈ w.calls ∧ ¬Registry w := by
  refine ⟨_, rfl, by decide, fun h => h.closes 100 (by decide)⟩

end Rtc.QuicTransport
