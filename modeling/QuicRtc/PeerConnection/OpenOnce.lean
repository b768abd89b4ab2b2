import Mathlib.Data.List.Count
import QuicRtc.PeerConnection.Spec
import QuicRtc.PeerConnection.Threads

/-!
# One OPEN message for each channel

A channel is opened by the call of `emplaceDataChannel` that created it, if it finds the transport
connected, or by the sweep `openDataChannels` that follows the connection. Both test `isOpen`, at
most, and that becomes true with the ACK of the peer only. They exclude each other exactly as long
as no call of `emplaceDataChannel` finds the transport connected with the sweep still to come, or
with its own channel already collected by the sweep.

* `opens`: the number of OPEN messages a channel has handed to the transport.
* `OpenedOnce`: the invariant of the threads.
* `OpenedOnce.step`: every step preserves it, provided that it is `SweptBefore`.
* `opens_le_one`: the property of whole runs.
-/

namespace Rtc.PeerConnection

/-- The number of OPEN messages handed over by a channel. -/
def opens (pc : PeerConnection) (c : ℕ) : ℕ :=
  pc.handed.countP fun entry => decide (entry.1 = some c) && isOpenMessage entry.2

/-- A call of `emplaceDataChannel` that finds the transport connected comes after the sweep has
collected its channels, without this one; or the connection callback failed and no sweep comes. -/
def SweptBefore (t : Threads) : Step → Prop
  | .check c =>
    t.pc.sctpConnected = true →
      match t.sweep with
      | .none => t.sctp ≠ .connected ∧ t.sctp ≠ .assigned
      | .enqueued => False
      | .running locked _ _ => c ∉ locked
  | _ => True

instance (t : Threads) : DecidablePred (SweptBefore t)
  | .check c =>
    match hsweep : t.sweep with
    | .none =>
      decidable_of_iff (t.pc.sctpConnected = true → t.sctp ≠ .connected ∧ t.sctp ≠ .assigned)
        (by simp [SweptBefore, hsweep])
    | .enqueued => decidable_of_iff (¬t.pc.sctpConnected = true) (by simp [SweptBefore, hsweep])
    | .running locked _ _ =>
      decidable_of_iff (t.pc.sctpConnected = true → c ∉ locked) (by simp [SweptBefore, hsweep])
  | .create _ _ => isTrue trivial
  | .assign _ => isTrue trivial
  | .openCreated _ => isTrue trivial
  | .initSctpTransport => isTrue trivial
  | .commUp _ => isTrue trivial
  | .commLost _ => isTrue trivial
  | .callbackAssign => isTrue trivial
  | .callbackEnqueue => isTrue trivial
  | .sweepStart => isTrue trivial
  | .sweepTest => isTrue trivial
  | .sweepOpen => isTrue trivial
  | .forward _ => isTrue trivial
  | .removeReset _ => isTrue trivial
  | .incomingReset => isTrue trivial
  | .close _ => isTrue trivial
  | .destroy _ => isTrue trivial
  | .rehash _ => isTrue trivial

/-- The sweep of the connection is over, is running, or will not come. -/
def Settled (t : Threads) : Prop :=
  match t.sweep with
  | .none => t.sctp ≠ .connected ∧ t.sctp ≠ .assigned ∧
      ∃ status, t.pc.mSctpTransport = some status ∧ status.state ≠ .connecting
  | .enqueued => False
  | .running _ _ _ => True

/-- The invariant: who may still open a channel that was opened, or not. -/
structure OpenedOnce (t : Threads) : Prop where
  consistent : t.pc.Consistent
  atMostOnce : ∀ c, t.pc.opens c ≤ 1
  /-- Names that are not used yet. -/
  fresh : ∀ c, t.pc.objects.length ≤ c →
    t.pc.opens c = 0 ∧ t.creating c = none ∧ c ∉ t.sweep.locked
  /-- Before the sweep nothing is opened. -/
  before : ¬Settled t → ∀ c, t.pc.opens c = 0 ∧
    (t.creating c = none ∨ t.creating c = some .registered)
  /-- A channel that was not collected is opened at the end of its creation. -/
  creating : ∀ c, c ∉ t.sweep.locked → t.creating c ≠ none → t.pc.opens c = 0
  /-- A collected channel is not opened by its creation. -/
  collected : ∀ c ∈ t.sweep.locked, t.creating c = none ∨ t.creating c = some .registered
  /-- The sweep has still to open channels that it collected, each once. -/
  pending : t.sweep.pending.Nodup ∧ ∀ c ∈ t.sweep.pending, c ∈ t.sweep.locked ∧ t.pc.opens c = 0
  /-- The callback for the connection comes before the sweep. -/
  callback : (t.sctp = .connected ∨ t.sctp = .assigned) → t.sweep = .none
  /-- The callback for the connection comes after the connection attempt. -/
  connecting : (t.pc.mSctpTransport = none ∨
    ∃ status, t.pc.mSctpTransport = some status ∧ status.state = .connecting) →
    t.sweep = .none ∧ t.sctp ≠ .connected ∧ t.sctp ≠ .assigned

/-! ## OPEN messages -/

section Opens

variable {pc pc' : PeerConnection}

/-- A call that hands over no OPEN message does not count. -/
theorem opens_call {function : DataChannel → DataChannel.Outcome}
    (hquiet : ∀ ch, ∀ m ∈ (function ch).messages, isOpenMessage m = false) (c' c : ℕ) :
    (pc.call c' function).1.opens c = pc.opens c := by
  unfold opens
  rcases handed_call pc c' function with hsame | ⟨o, -, hhanded⟩
  · rw [hsame]
  · -- none of the messages of the call is an OPEN message
    rw [hhanded, List.countP_append, Nat.add_eq_left, List.countP_eq_zero]
    intro entry hentry
    obtain ⟨m, hm, rfl⟩ := List.mem_map.1 hentry
    simp [hquiet o.channel m hm]

/-- `open` on a channel hands over at most one OPEN message, of that channel. -/
theorem opens_open (pc : PeerConnection) (c' c : ℕ) :
    (pc.call c' DataChannel.openOn).1.opens c ≤ pc.opens c + if c' = c then 1 else 0 := by
  unfold opens
  rcases handed_call pc c' DataChannel.openOn with hsame | ⟨o, -, hhanded⟩
  · rw [hsame]
    exact Nat.le_add_right _ _
  · rw [hhanded, List.countP_append]
    apply Nat.add_le_add_left
    -- it throws, or there is nothing to send
    rcases DataChannel.openOn_cases o.channel with ⟨hmessages, -⟩ | ⟨stream, data, -, -, -, hopen⟩
    · rw [hmessages]
      exact Nat.zero_le _
    · rw [hopen]
      by_cases heq : c' = c
      · rw [if_pos heq]
        exact List.countP_le_length
      · simp [DataChannel.Outcome.messages, DataChannel.Effect.message, heq]

/-- The elementary changes hand over no OPEN message. -/
theorem Change.opens_eq (hchange : Change pc pc') (c : ℕ) : pc'.opens c = pc.opens c := by
  cases hchange with
  | close c' => exact opens_call DataChannel.close_quiet c' c
  | incoming c' message => exact opens_call (DataChannel.incoming_quiet message) c' c
  | destroy c' => exact opens_call DataChannel.close_quiet c' c
  | assign => rfl
  | settle => rfl
  | accept => rfl
  | rehash => rfl
  | handReset stream =>
    simp [opens, List.countP_append]

/-- The elementary changes keep the names of the objects and the transport. -/
theorem Change.frame (hchange : Change pc pc') :
    pc.objects.length ≤ pc'.objects.length ∧ pc'.mSctpTransport = pc.mSctpTransport := by
  cases hchange with
  | close c' => exact ⟨by simp, (call_frame pc c' _).2.2.2.2.1⟩
  | incoming c' message => exact ⟨by simp, (call_frame pc c' _).2.2.2.2.1⟩
  | destroy c' => exact ⟨by simp, (destroy_frame pc c').2.2.2.2.1⟩
  | assign => exact ⟨by simp [setChannel], rfl⟩
  | settle => exact ⟨Nat.le_refl _, rfl⟩
  | accept => exact ⟨by simp, rfl⟩
  | rehash => exact ⟨Nat.le_refl _, rfl⟩
  | handReset stream => exact ⟨Nat.le_refl _, rfl⟩

/-- What a sequence of changes does to what the invariant looks at. -/
theorem Changes.quiet (hchanges : Changes pc pc') :
    (∀ c, pc'.opens c = pc.opens c) ∧ pc.objects.length ≤ pc'.objects.length ∧
      pc'.mSctpTransport = pc.mSctpTransport := by
  induction hchanges with
  | refl => exact ⟨fun _ => rfl, Nat.le_refl _, rfl⟩
  | tail _ hlast ih =>
    obtain ⟨hopens, hlength, htransport⟩ := ih
    obtain ⟨hlength', htransport'⟩ := hlast.frame
    exact ⟨fun c => (hlast.opens_eq c).trans (hopens c), Nat.le_trans hlength hlength',
      htransport'.trans htransport⟩

end Opens

/-! ## Preservation -/

namespace OpenedOnce

variable {t : Threads}

theorem start (role : Description.Role) : OpenedOnce (Threads.start role) where
  consistent := by
    intro stream c hlookup
    simp [Threads.start] at hlookup
  atMostOnce := fun c => Nat.zero_le 1
  fresh := fun c _ => ⟨rfl, rfl, List.not_mem_nil⟩
  before := fun _ c => ⟨rfl, Or.inl rfl⟩
  creating := fun c _ _ => rfl
  collected := fun c _ => Or.inl rfl
  pending := ⟨List.nodup_nil, fun c hc => absurd hc List.not_mem_nil⟩
  callback := fun _ => rfl
  connecting := fun _ => ⟨rfl, by simp [Threads.start], by simp [Threads.start]⟩

/-- The invariant only looks at the OPEN messages, the names of the objects and the transport. -/
theorem of_pc (h : OpenedOnce t) {pc' : PeerConnection} (hconsistent : pc'.Consistent)
    (hopens : ∀ c, pc'.opens c = t.pc.opens c)
    (hlength : t.pc.objects.length ≤ pc'.objects.length)
    (htransport : pc'.mSctpTransport = t.pc.mSctpTransport) : OpenedOnce { t with pc := pc' } where
  consistent := hconsistent
  atMostOnce := fun c => (hopens c).symm ▸ h.atMostOnce c
  fresh := fun c hc => (hopens c).symm ▸ h.fresh c (Nat.le_trans hlength hc)
  before := by
    intro hsettled c
    rw [hopens]
    -- whether the sweep is settled depends on the transport only
    refine h.before ?_ c
    unfold Settled at hsettled ⊢
    rwa [htransport] at hsettled
  creating := fun c => (hopens c).symm ▸ h.creating c
  collected := h.collected
  pending := ⟨h.pending.1, fun c hc => (hopens c).symm ▸ h.pending.2 c hc⟩
  callback := h.callback
  connecting := by
    rw [htransport]
    exact h.connecting

/-- Functions that do not open channels. -/
theorem changes (h : OpenedOnce t) {pc' : PeerConnection} (hchanges : Changes t.pc pc') :
    OpenedOnce { t with pc := pc' } := by
  obtain ⟨hopens, hlength, htransport⟩ := hchanges.quiet
  exact h.of_pc (h.consistent.changes hchanges) hopens hlength htransport

/-- The SCTP thread, outside the callback for the connection. -/
theorem of_sctp (h : OpenedOnce t) {sctp : SctpThread}
    (hidle : sctp ≠ .connected ∧ sctp ≠ .assigned) : OpenedOnce { t with sctp } where
  consistent := h.consistent
  atMostOnce := h.atMostOnce
  fresh := h.fresh
  before := by
    intro hsettled
    apply h.before
    intro hsettled'
    apply hsettled
    unfold Settled at hsettled' ⊢
    generalize t.sweep = sweep at hsettled' ⊢
    cases sweep with
    | none => exact ⟨hidle.1, hidle.2, hsettled'.2.2⟩
    | enqueued => exact hsettled'
    | running locked todo current => trivial
  creating := h.creating
  collected := h.collected
  pending := h.pending
  callback := by
    rintro (hcallback | hcallback)
    · exact absurd hcallback hidle.1
    · exact absurd hcallback hidle.2
  connecting := fun hconnecting => ⟨(h.connecting hconnecting).1, hidle.1, hidle.2⟩

/-- A channel in creation has a name, and is not opened yet unless it was collected. -/
theorem of_creating (h : OpenedOnce t) {c : ℕ} (hcreating : t.creating c ≠ none) :
    c < t.pc.objects.length ∧ (c ∉ t.sweep.locked → t.pc.opens c = 0) := by
  refine ⟨?_, fun hnot => h.creating c hnot hcreating⟩
  -- a name that is not used is not in creation
  by_contra hge
  exact hcreating (h.fresh c (Nat.le_of_not_lt hge)).2.1

/-- A call of `emplaceDataChannel` goes on, or ends. Only before the sweep, or with a channel that
was collected, is it bound to end. -/
theorem setCreating (h : OpenedOnce t) {c : ℕ} {creation : Option Creation}
    (hcreating : creation = none ∨
      c < t.pc.objects.length ∧ (c ∉ t.sweep.locked → t.pc.opens c = 0))
    (hbefore : ¬Settled t → creation = none ∨ creation = some .registered)
    (hcollected : c ∈ t.sweep.locked → creation = none ∨ creation = some .registered) :
    OpenedOnce (t.setCreating c creation) := by
  have hother : ∀ c', c' ≠ c → (t.setCreating c creation).creating c' = t.creating c' :=
    fun c' hne => Function.update_of_ne hne _ _
  have hself : (t.setCreating c creation).creating c = creation := Function.update_self _ _ _
  -- only the call on `c` moves on: the other calls keep their clauses
  exact
    { consistent := h.consistent
      atMostOnce := h.atMostOnce
      fresh := by
        intro c' hc'
        obtain ⟨hopens, hnone, hnot⟩ := h.fresh c' hc'
        refine ⟨hopens, ?_, hnot⟩
        by_cases heq : c' = c
        · subst heq
          rw [hself]
          exact hcreating.resolve_right fun hlt => Nat.not_le_of_lt hlt.1 hc'
        · rw [hother c' heq]
          exact hnone
      before := by
        intro hsettled c'
        obtain ⟨hopens, hphase⟩ := h.before hsettled c'
        refine ⟨hopens, ?_⟩
        by_cases heq : c' = c
        · subst heq
          rw [hself]
          exact hbefore hsettled
        · rw [hother c' heq]
          exact hphase
      creating := by
        intro c' hnot hne
        by_cases heq : c' = c
        · subst heq
          rw [hself] at hne
          exact (hcreating.resolve_left hne).2 hnot
        · rw [hother c' heq] at hne
          exact h.creating c' hnot hne
      collected := by
        intro c' hc'
        by_cases heq : c' = c
        · subst heq
          rw [hself]
          exact hcollected hc'
        · rw [hother c' heq]
          exact h.collected c' hc'
      pending := h.pending
      callback := h.callback
      connecting := h.connecting }

/-- The call of `emplaceDataChannel` ends. -/
theorem endCreating (h : OpenedOnce t) (c : ℕ) : OpenedOnce (t.setCreating c none) :=
  h.setCreating (Or.inl rfl) (fun _ => Or.inl rfl) fun _ => Or.inl rfl

/-- After an exception the channel is destroyed, unless it is held. -/
theorem creationStep {c : ℕ} {outcome : PeerConnection × Option Exception}
    {next : Option Creation}
    (hnext : OpenedOnce ({ t with pc := outcome.1 }.setCreating c next))
    (hend : OpenedOnce ({ t with pc := outcome.1 }.setCreating c none)) :
    OpenedOnce (t.creationStep c outcome next) := by
  unfold Threads.creationStep
  rcases outcome with ⟨pc, _ | e⟩
  · exact hnext
  · dsimp only
    split
    · exact hend
    · exact hend.changes (destroy_changes pc c)

/-- A new channel has a new name, and nothing else changes. -/
theorem create (h : OpenedOnce t) {label : List UInt8} {init : DataChannelInit}
    {pc : PeerConnection} {c : ℕ}
    (hregister : t.pc.registerDataChannel label init = (pc, .ok c)) :
    OpenedOnce ({ t with pc }.setCreating c (some .registered)) := by
  have hconsistent := h.consistent.registerDataChannel label init
  obtain ⟨hunopened, -, hnot⟩ := h.fresh t.pc.objects.length (Nat.le_refl _)
  rw [hregister] at hconsistent
  rcases registerDataChannel_cases t.pc label init with
    ⟨e, hreg⟩ | ⟨hnone, hreg⟩ | ⟨stream, hsome, hmax, hreg⟩
  · rw [hreg] at hregister
    cases hregister
  all_goals
    rw [hreg] at hregister
    cases hregister
    refine (h.of_pc hconsistent (fun _ => rfl) (by simp) rfl).setCreating
      (Or.inr ⟨by simp, fun _ => hunopened⟩) (fun _ => Or.inr rfl) (fun _ => Or.inr rfl)

/-- A channel that cannot be created leaves the peer connection as it was. -/
theorem createFails (h : OpenedOnce t) {label : List UInt8} {init : DataChannelInit}
    {pc : PeerConnection} {e : Exception}
    (hregister : t.pc.registerDataChannel label init = (pc, .error e)) :
    OpenedOnce { t with pc } := by
  rcases registerDataChannel_cases t.pc label init with
    ⟨e', hreg⟩ | ⟨hnone, hreg⟩ | ⟨stream, hsome, hmax, hreg⟩
  all_goals
    rw [hreg] at hregister
    cases hregister
  exact h

/-- The test of the transport: with a connected transport, the sweep must have been settled without
this channel. -/
theorem check (h : OpenedOnce t) {c : ℕ} (hok : SweptBefore t (.check c))
    (hcreating : t.creating c = some .registered) :
    OpenedOnce (t.setCreating c (if t.pc.sctpConnected then some .connected else none)) := by
  by_cases hconnected : t.pc.sctpConnected = true
  · rw [if_pos hconnected]
    -- the condition of the step is needed here, and only here
    have hswept := hok hconnected
    have hsettled : Settled t ∧ c ∉ t.sweep.locked := by
      simp only [sctpConnected, decide_eq_true_eq, Option.map_eq_some_iff] at hconnected
      obtain ⟨status, hstatus, hstate⟩ := hconnected
      unfold Settled
      generalize t.sweep = sweep at hswept ⊢
      cases sweep with
      | none =>
        exact ⟨⟨hswept.1, hswept.2, status, hstatus, by simp [hstate]⟩, List.not_mem_nil⟩
      | enqueued => exact hswept.elim
      | running locked todo current => exact ⟨trivial, hswept⟩
    exact h.setCreating (Or.inr (h.of_creating (by simp [hcreating])))
      (fun hunsettled => absurd hsettled.1 hunsettled) (fun hlocked => absurd hlocked hsettled.2)
  · rw [if_neg hconnected]
    exact h.endCreating c

/-- `assignDataChannels` in a call of `emplaceDataChannel`. -/
theorem assign (h : OpenedOnce t) {c : ℕ} {outcome : PeerConnection × Option Exception}
    (hcreating : t.creating c = some .connected)
    (hassign : t.pc.assignDataChannels = some outcome) :
    OpenedOnce (t.creationStep c outcome (some .assigned)) := by
  -- a call that has found the transport connected comes after the sweep, with a channel of its own
  have hassigned := h.changes (assignDataChannels_changes hassign)
  refine creationStep ?_ (hassigned.endCreating c)
  apply hassigned.setCreating
  · exact Or.inr (hassigned.of_creating (by simp [hcreating]))
  · intro hunsettled
    have hphase := (hassigned.before hunsettled c).2
    simp [hcreating] at hphase
  · intro hlocked
    have hphase := hassigned.collected c hlocked
    simp [hcreating] at hphase

/-- `open` on a channel that nobody else will open. -/
theorem openOn (h : OpenedOnce t) {c : ℕ} (hunopened : t.pc.opens c = 0)
    (hlt : c < t.pc.objects.length) (hsettled : Settled t)
    (hcreating : c ∉ t.sweep.locked → t.creating c = none) (hpending : c ∉ t.sweep.pending) :
    OpenedOnce { t with pc := (t.pc.call c DataChannel.openOn).1 } := by
  have hle := opens_open t.pc c
  -- no OPEN message is handed over for another channel
  have hother : ∀ c', c' ≠ c → t.pc.opens c' = 0 →
      (t.pc.call c DataChannel.openOn).1.opens c' = 0 := by
    intro c' hne hzero
    have := hle c'
    rw [if_neg hne.symm] at this
    omega
  have htransport := (call_frame t.pc c DataChannel.openOn).2.2.2.2.1
  exact
    { consistent := h.consistent.call c DataChannel.keeps_openOn
      atMostOnce := by
        intro c'
        have hlast := hle c'
        by_cases heq : c = c'
        · rw [if_pos heq, ← heq, hunopened] at hlast
          rw [← heq]
          omega
        · rw [if_neg heq] at hlast
          exact Nat.le_trans hlast (h.atMostOnce c')
      fresh := by
        intro c' hc'
        rw [length_objects_call] at hc'
        obtain ⟨hzero, hrest⟩ := h.fresh c' hc'
        exact ⟨hother c' (Nat.ne_of_gt (Nat.lt_of_lt_of_le hlt hc')) hzero, hrest⟩
      before := by
        intro hunsettled
        refine absurd ?_ hunsettled
        unfold Settled at hsettled ⊢
        rwa [htransport]
      creating := by
        intro c' hnot hne
        have hne' : c' ≠ c := by
          rintro rfl
          exact hne (hcreating hnot)
        exact hother c' hne' (h.creating c' hnot hne)
      collected := h.collected
      pending := by
        refine ⟨h.pending.1, fun c' hc' => ⟨(h.pending.2 c' hc').1, ?_⟩⟩
        have hne : c' ≠ c := by
          rintro rfl
          exact hpending hc'
        exact hother c' hne (h.pending.2 c' hc').2
      callback := h.callback
      connecting := by
        rw [htransport]
        exact h.connecting }

/-- A channel that is about to be opened by its creation was not collected by the sweep, and was not
opened. -/
theorem unopened_of_assigned (h : OpenedOnce t) {c : ℕ}
    (hcreating : t.creating c = some .assigned) : t.pc.opens c = 0 := by
  refine (h.of_creating (by simp [hcreating])).2 fun hlocked => ?_
  have hphase := h.collected c hlocked
  simp [hcreating] at hphase

/-- `open` at the end of a call of `emplaceDataChannel`. -/
theorem openCreated (h : OpenedOnce t) {c : ℕ} (hcreating : t.creating c = some .assigned) :
    OpenedOnce (t.creationStep c (t.pc.call c DataChannel.openOn) none) := by
  -- a channel that the sweep collected is not opened by its creation
  have hnot : c ∉ t.sweep.locked := by
    intro hlocked
    have hphase := h.collected c hlocked
    simp [hcreating] at hphase
  have hsettled : Settled t := by
    by_contra hunsettled
    have hphase := (h.before hunsettled c).2
    simp [hcreating] at hphase
  obtain ⟨hlt, hunopened⟩ := h.of_creating (c := c) (by simp [hcreating])
  have hopened := (h.endCreating c).openOn (c := c) (hunopened hnot) hlt hsettled
    (fun _ => Function.update_self _ _ _) fun hpending => hnot (h.pending.2 c hpending).1
  exact creationStep hopened hopened

/-- The transport is created, or its state changes outside the callback for the connection. Before
the sweep nothing was opened, so that the invariant does not depend on why there is none. -/
theorem of_transport (h : OpenedOnce t) {transport : Option SctpStatus}
    (hsettled : Settled t → Settled { t with pc := { t.pc with mSctpTransport := transport } })
    (hconnecting : (transport = none ∨
      ∃ status, transport = some status ∧ status.state = .connecting) →
      t.sweep = .none ∧ t.sctp ≠ .connected ∧ t.sctp ≠ .assigned) :
    OpenedOnce { t with pc := { t.pc with mSctpTransport := transport } } where
  consistent := h.consistent
  atMostOnce := h.atMostOnce
  fresh := h.fresh
  before := fun hunsettled => h.before fun hold => hunsettled (hsettled hold)
  creating := h.creating
  collected := h.collected
  pending := h.pending
  callback := h.callback
  connecting := hconnecting

/-- The steps from the connection to the start of the sweep. Nothing was opened before them. -/
theorem of_unsettled (h : OpenedOnce t) (hunsettled : ¬Settled t) {pc' : PeerConnection}
    {sctp : SctpThread} {sweep : Sweep} (hsweep : sweep = .none ∨ sweep = .enqueued)
    (hconsistent : pc'.Consistent) (hopens : ∀ c, pc'.opens c = t.pc.opens c)
    (hlength : t.pc.objects.length ≤ pc'.objects.length)
    (hcallback : (sctp = .connected ∨ sctp = .assigned) → sweep = .none)
    (hconnected : ∃ status, pc'.mSctpTransport = some status ∧ status.state ≠ .connecting) :
    OpenedOnce { t with pc := pc', sctp, sweep } := by
  have hlocked : sweep.locked = [] := by rcases hsweep with rfl | rfl <;> rfl
  have hpending : sweep.pending = [] := by rcases hsweep with rfl | rfl <;> rfl
  have hzero : ∀ c, pc'.opens c = 0 := fun c => (hopens c).trans (h.before hunsettled c).1
  exact
    { consistent := hconsistent
      atMostOnce := fun c => by simp [hzero c]
      fresh := fun c hc => ⟨hzero c, (h.fresh c (Nat.le_trans hlength hc)).2.1, by simp [hlocked]⟩
      before := fun _ c => ⟨hzero c, (h.before hunsettled c).2⟩
      creating := fun c _ _ => hzero c
      collected := fun c hc => by simp [hlocked] at hc
      pending := by simp [hpending]
      callback := hcallback
      connecting := by
        obtain ⟨status, hstatus, hstate⟩ := hconnected
        rintro (hnone | ⟨status', hstatus', hstate'⟩)
        · rw [hstatus] at hnone
          cases hnone
        · rw [hstatus] at hstatus'
          cases hstatus'
          exact absurd hstate' hstate }

/-- Inside the callback for the connection the transport is not connecting any more. -/
theorem connected_of_callback (h : OpenedOnce t)
    (hcallback : t.sctp = .connected ∨ t.sctp = .assigned) :
    ¬Settled t ∧ ∃ status, t.pc.mSctpTransport = some status ∧ status.state ≠ .connecting := by
  refine ⟨?_, ?_⟩
  · unfold Settled
    rw [h.callback hcallback]
    rintro ⟨hconnected, hassigned, -⟩
    exact hcallback.elim hconnected hassigned
  · by_contra hnone
    have hconnecting := h.connecting (by
      cases htransport : t.pc.mSctpTransport with
      | none => exact Or.inl rfl
      | some status =>
        refine Or.inr ⟨status, rfl, ?_⟩
        by_contra hstate
        exact hnone ⟨status, htransport, hstate⟩)
    exact hcallback.elim hconnecting.2.1 hconnecting.2.2

theorem commUp (h : OpenedOnce t) {count : Option UInt16}
    (htransport : t.pc.mSctpTransport = some ⟨.connecting, count⟩) (status : SctpStatus)
    (hstatus : status.state = .connected) :
    OpenedOnce
      { t with
        pc := { t.pc with mSctpTransport := some status }
        sctp := .connected } := by
  -- the transport was connecting, so no sweep has been enqueued
  obtain ⟨hnone, -⟩ := h.connecting (Or.inr ⟨_, htransport, rfl⟩)
  have hunsettled : ¬Settled t := by
    unfold Settled
    rw [hnone]
    rintro ⟨-, -, status, hstatus, hstate⟩
    rw [htransport] at hstatus
    cases hstatus
    exact hstate rfl
  exact h.of_unsettled hunsettled (Or.inl hnone) h.consistent (fun _ => rfl) (Nat.le_refl _)
    (fun _ => hnone) ⟨status, rfl, by simp [hstatus]⟩

/-- Nothing was open when the transport is created, since there was no sweep. -/
theorem initSctpTransport (h : OpenedOnce t) (hnone : t.pc.mSctpTransport = none)
    (status : SctpStatus) :
    OpenedOnce { t with pc := { t.pc with mSctpTransport := some status } } := by
  have hconnecting := h.connecting (Or.inl hnone)
  refine h.of_transport ?_ fun _ => hconnecting
  unfold Settled
  rw [hconnecting.1]
  rintro ⟨-, -, status, hstatus, -⟩
  rw [hnone] at hstatus
  cases hstatus

theorem commLost (h : OpenedOnce t) {state : Transport.State}
    (hstate : state = .disconnected ∨ state = .failed) :
    OpenedOnce
      { t with pc := { t.pc with
        mSctpTransport := t.pc.mSctpTransport.map fun status => { status with state } } } := by
  apply h.of_transport
  · unfold Settled
    dsimp only
    split
    · rintro ⟨hconnected, hassigned, status, hstatus, -⟩
      refine ⟨hconnected, hassigned, { status with state }, by rw [hstatus]; rfl, ?_⟩
      rcases hstate with rfl | rfl <;> simp
    · exact id
    · exact id
  · rintro (hnone | ⟨status, hstatus, hconnecting⟩)
    · exact h.connecting (Or.inl (Option.map_eq_none_iff.1 hnone))
    · -- the state is not `Connecting` any more
      obtain ⟨status', -, rfl⟩ := Option.map_eq_some_iff.1 hstatus
      rcases hstate with rfl | rfl <;> cases hconnecting

theorem callbackAssign (h : OpenedOnce t) (hcallback : t.sctp = .connected) {pc : PeerConnection}
    {thrown : Option Exception} (hassign : t.pc.assignDataChannels = some (pc, thrown))
    (sctp : SctpThread) : OpenedOnce { t with pc, sctp } := by
  obtain ⟨hunsettled, status, hstatus, hstate⟩ := h.connected_of_callback (Or.inl hcallback)
  have hchanges := assignDataChannels_changes hassign
  obtain ⟨hopens, hlength, htransport⟩ := hchanges.quiet
  have hnone := h.callback (Or.inl hcallback)
  exact h.of_unsettled hunsettled (Or.inl hnone) (h.consistent.changes hchanges) hopens hlength
    (fun _ => hnone) ⟨status, htransport.trans hstatus, hstate⟩

theorem callbackEnqueue (h : OpenedOnce t) (hcallback : t.sctp = .assigned) :
    OpenedOnce { t with sctp := .idle, sweep := .enqueued } := by
  obtain ⟨hunsettled, hconnected⟩ := h.connected_of_callback (Or.inr hcallback)
  exact h.of_unsettled hunsettled (Or.inr rfl) h.consistent (fun _ => rfl) (Nat.le_refl _)
    (by simp) hconnected

/-! ### The sweep -/

/-- The sweep collects the registered channels, none of which was opened. -/
theorem sweepStart (h : OpenedOnce t) (hsweep : t.sweep = .enqueued) :
    OpenedOnce { t with sweep := .running t.pc.lockedChannels t.pc.lockedChannels none } := by
  have hunsettled : ¬Settled t := by
    unfold Settled
    rw [hsweep]
    exact id
  have hzero : ∀ c, t.pc.opens c = 0 := fun c => (h.before hunsettled c).1
  have hcome : t.sweep ≠ .none := by simp [hsweep]
  exact
    { consistent := h.consistent
      atMostOnce := h.atMostOnce
      fresh := by
        intro c hc
        refine ⟨hzero c, (h.fresh c hc).2.1, ?_⟩
        intro hlocked
        -- a collected channel exists
        have hlock := (List.mem_filter.1 hlocked).2
        simp [lock, List.getElem?_eq_none hc] at hlock
      before := fun hbefore => absurd trivial hbefore
      creating := fun c _ _ => hzero c
      collected := fun c _ => (h.before hunsettled c).2
      pending := ⟨h.consistent.nodup_lockedChannels, fun c hc => ⟨hc, hzero c⟩⟩
      callback := fun hcallback => absurd (h.callback hcallback) hcome
      connecting := fun hconnecting => absurd (h.connecting hconnecting).1 hcome }

/-- The sweep drops some of the channels it had still to open. -/
theorem of_pending (h : OpenedOnce t) {locked todo todo' : List ℕ} {current current' : Option ℕ}
    (hsweep : t.sweep = .running locked todo current)
    (hpending : (current'.toList ++ todo').Sublist (current.toList ++ todo)) :
    OpenedOnce { t with sweep := .running locked todo' current' } := by
  have hpending' : (current'.toList ++ todo').Sublist t.sweep.pending := by
    rw [hsweep]
    exact hpending
  have hlocked : t.sweep.locked = locked := by rw [hsweep]; rfl
  have hcome : t.sweep ≠ .none := by simp [hsweep]
  exact
    { consistent := h.consistent
      atMostOnce := h.atMostOnce
      fresh := fun c hc => hlocked ▸ h.fresh c hc
      before := fun hbefore => absurd trivial hbefore
      creating := fun c hnot => h.creating c (hlocked ▸ hnot)
      collected := fun c hc => h.collected c (hlocked ▸ hc)
      pending := ⟨h.pending.1.sublist hpending',
        fun c hc => hlocked ▸ h.pending.2 c (hpending'.subset hc)⟩
      callback := fun hcallback => absurd (h.callback hcallback) hcome
      connecting := fun hconnecting => absurd (h.connecting hconnecting).1 hcome }

/-- The sweep opens a channel and goes on. -/
theorem sweepOpen (h : OpenedOnce t) {locked todo : List ℕ} {c : ℕ}
    (hsweep : t.sweep = .running locked todo (some c)) :
    OpenedOnce
      { t with
        pc := (t.pc.call c DataChannel.openOn).1
        sweep := .running locked todo none } := by
  have hnodup := h.pending.1
  have hmem : c ∈ t.sweep.pending := by
    rw [hsweep]
    exact List.mem_cons_self
  -- it was collected before, and nobody else has opened it
  obtain ⟨hlocked, hunopened⟩ := h.pending.2 c hmem
  have hlt : c < t.pc.objects.length := by
    by_contra hge
    exact (h.fresh c (Nat.le_of_not_lt hge)).2.2 hlocked
  rw [hsweep] at hnodup
  have hdropped : OpenedOnce { t with sweep := .running locked todo none } :=
    h.of_pending hsweep (List.sublist_cons_self c todo)
  refine hdropped.openOn (c := c) hunopened hlt trivial (fun hnot => ?_) ?_
  · rw [hsweep] at hlocked
    exact absurd hlocked hnot
  · -- the sweep meets each channel once
    exact (List.nodup_cons.1 hnodup).1

/-- Every step of every thread preserves the invariant, provided that a call of
`emplaceDataChannel` does not find the transport connected before the sweep. -/
theorem step {e : Step} {t' : Threads} (h : OpenedOnce t) (hok : SweptBefore t e)
    (hstep : t.Takes e t') : OpenedOnce t' := by
  cases hstep with
  | create hregister => exact h.create hregister
  | createFails hregister => exact h.createFails hregister
  | check hcreating => exact h.check hok hcreating
  | assign hcreating hassign => exact h.assign hcreating hassign
  | openCreated hcreating => exact h.openCreated hcreating
  | initSctpTransport hnone => exact h.initSctpTransport hnone _
  | commUp hidle htransport => exact h.commUp htransport _ rfl
  | commLost hstate => exact h.commLost hstate
  | callbackAssign hsctp hassign => exact h.callbackAssign hsctp hassign .assigned
  | callbackFails hsctp hassign =>
    -- no sweep will be enqueued
    exact h.callbackAssign hsctp hassign .idle
  | callbackEnqueue hsctp => exact h.callbackEnqueue hsctp
  | sweepStart hsweep => exact h.sweepStart hsweep
  | @sweepTest locked todo c hsweep =>
    -- an open channel is dropped, the others are opened next
    apply h.of_pending hsweep
    split
    · exact List.sublist_cons_self c todo
    · exact List.Sublist.refl _
  | sweepOpen hsweep => exact h.sweepOpen hsweep
  | forward hreset => exact h.changes (forwardMessage_changes t.pc _ hreset)
  | @removeReset message hidle hreset =>
    unfold Threads.removeReset
    dsimp only
    split
    · have hremoved : OpenedOnce
          { t with pc := t.pc.removeDataChannel (message.stream % 65536) } :=
        h.of_pc (h.consistent.removeDataChannel _) (fun _ => rfl) (Nat.le_refl _) rfl
      apply hremoved.of_sctp
      split <;> simp
    · exact h
  | @incomingReset c message hsctp =>
    exact (h.changes (.single (.incoming c message))).of_sctp (by simp)
  | close => exact h.changes (.single (.close _))
  | destroy => exact h.changes (destroy_changes t.pc _)
  | rehash hrehash => exact h.changes (rehash_changes hrehash)

end OpenedOnce

/-- In every interleaving in which no call of `emplaceDataChannel` finds the transport connected
before the sweep is settled, every channel hands over at most one OPEN message. -/
theorem opens_le_one {role : Description.Role} {steps : List Step} {t : Threads}
    (hrun : Transition.run Threads.step (Threads.start role) steps = some t)
    (hok : Transition.Meets Threads.step SweptBefore (Threads.start role) steps) (c : ℕ) :
    t.pc.opens c ≤ 1 := by
  have h : OpenedOnce t := Transition.run_invariant
    (fun _ _ _ ht hstepOk hstep => ht.step hstepOk (.of_step hstep))
    (OpenedOnce.start role) hok hrun
  exact h.atMostOnce c

/-- The connection, up to the enqueue of the sweep. -/
def connectionSteps : List Step :=
  [.initSctpTransport, .commUp 1024, .callbackAssign, .callbackEnqueue]

/-- A channel created from the state-change callback, which runs before the sweep: it is opened at
its creation, and again by the sweep, as the ACK has not arrived. -/
theorem opens_eq_two_in_callback :
    ∃ t, Transition.run Threads.step (Threads.start .active)
        (connectionSteps ++ [.create [] {}, .check 0, .assign 0, .openCreated 0,
          .sweepStart, .sweepTest, .sweepOpen]) = some t ∧
      t.pc.opens 0 = 2 ∧
      t.pc.handed =
        [(some 0, DataChannel.plainOpenMessage 0), (some 0, DataChannel.plainOpenMessage 0)] :=
  ⟨_, rfl, by decide, by decide⟩

end Rtc.PeerConnection
