import QuicRtc.PeerConnection.OpenOnce
import QuicRtc.PeerConnection.OpenReset
import QuicRtc.PeerConnection.ResetOrder

/-!
# OPEN messages on a stream in use

For the peer a stream is in use from an OPEN message until a reset. It may see a second OPEN message
on it although every channel hands over one: a channel is created with an explicit id that is in
use, or opened before an older channel on its stream has answered a reset, or opened after it was
closed, so that it never resets the stream. In every interleaving without these, and with the sweep
settled before a call of `emplaceDataChannel` finds the transport connected, OPEN messages and
resets alternate on every stream.

* `Speaks`: a channel that will reset the stream.
* `Alternating`: the invariant of a peer connection.
* `OpensOnce`: the condition on the steps.
* `OneOpen`, `OneOpen.step`: the invariant of the threads.
* `opens_once`: the property of whole runs.
-/

namespace Rtc.PeerConnection

/-- The channel has handed over an OPEN message on the stream and is not closed: the peer has not
been told of its end, and `close` will do that. -/
def Speaks (pc : PeerConnection) (stream c : ℕ) : Prop :=
  (∃ o, pc.objects[c]? = some o ∧ o.channel.mStream = some stream ∧
      o.channel.mIsClosed = false ∧ o.channel.mSctpTransport = true) ∧
    ∃ m, (some c, m) ∈ pc.handed ∧ isOpenMessage m = true ∧ m.stream = stream

/-- OPEN messages and resets alternate on every stream, and the last OPEN message, unless a reset
follows it, is that of a channel that is not closed. -/
structure Alternating (pc : PeerConnection) : Prop where
  bounded : ∀ (c : ℕ) (o : Object) (stream : ℕ), pc.objects[c]? = some o →
    o.channel.mStream = some stream → stream < 65536
  heard : Heard (fun stream => ∃ c, pc.Speaks stream c) pc.sent

variable {pc pc' : PeerConnection} {stream c : ℕ}

/-! ## Channels that will reset their stream -/

/-- The channel still speaks if its object is as it was, as far as that matters. -/
theorem Speaks.of_object (h : pc.Speaks stream c)
    (hobject : ∀ o, pc.objects[c]? = some o → o.channel.mStream = some stream →
      o.channel.mIsClosed = false → o.channel.mSctpTransport = true →
      ∃ o', pc'.objects[c]? = some o' ∧ o'.channel.mStream = some stream ∧
        o'.channel.mIsClosed = false ∧ o'.channel.mSctpTransport = true)
    (hhanded : pc.handed ⊆ pc'.handed) : pc'.Speaks stream c := by
  obtain ⟨⟨o, ho, hstream, hclosed, htransport⟩, m, hm, hopening⟩ := h
  exact ⟨hobject o ho hstream hclosed htransport, m, hhanded hm, hopening⟩

theorem Speaks.of_objects (h : pc.Speaks stream c)
    (hobjects : pc'.objects[c]? = pc.objects[c]?) (hhanded : pc.handed ⊆ pc'.handed) :
    pc'.Speaks stream c :=
  h.of_object (fun o ho hstream hclosed htransport =>
    ⟨o, hobjects.trans ho, hstream, hclosed, htransport⟩) hhanded

/-- A channel that has handed over an OPEN message. -/
theorem opens_pos {m : Message} (hm : (some c, m) ∈ pc.handed) (hopening : isOpenMessage m = true) :
    0 < pc.opens c :=
  List.countP_pos_iff.2 ⟨(some c, m), hm, by simp [hopening]⟩

/-- Of two channels with a stream one is the older. -/
theorem older_total {c' : ℕ} (hc : c ∈ pc.assigned) (hne : c' ≠ c)
    (hnot : pc.older c' c = false) : pc.older c c' = true := by
  have hdistinct : pc.assigned.idxOf c' ≠ pc.assigned.idxOf c := by
    intro heq
    exact hne ((List.idxOf_inj hc).1 heq.symm).symm
  simp only [older, decide_eq_false_iff_not, decide_eq_true_eq] at hnot ⊢
  omega

/-- Before a channel that is not closed hands over its first OPEN message, nobody speaks on its
stream: an older channel is closed by then, and a newer one has not been opened as long as this one
was not closed. -/
theorem not_speaks_of_opening {removed : Option ℕ} (h : ResetOrdered pc removed)
    (h' : ResetOrdered (pc.call c DataChannel.openOn).1 removed) {o : Object} {m : Message}
    (ho : pc.objects[c]? = some o) (hclosed : o.channel.mIsClosed = false)
    (hunopened : pc.opens c = 0) (hm : (some c, m) ∈ (pc.call c DataChannel.openOn).1.handed)
    (hopening : isOpenMessage m = true) (hstream : o.channel.mStream = some m.stream) (c' : ℕ) :
    ¬pc.Speaks m.stream c' := by
  rintro ⟨⟨o', ho', hstream', hclosed', -⟩, m', hm', hopening', hsame⟩
  have hne : c' ≠ c := by
    rintro rfl
    exact Nat.ne_of_gt (opens_pos hm' hopening') hunopened
  cases hold : pc.older c' c with
  | true =>
    -- the older channel is as it was before the call, so it was closed before
    have hkept : (pc.call c DataChannel.openOn).1.objects[c']? = some o' := by
      rw [getElem?_objects_call, ho', Option.map_some, if_neg hne.symm]
    have hold' : (pc.call c DataChannel.openOn).1.older c' c = true := by
      rw [older, (call_frame pc c _).2.1]
      exact hold
    rw [(h'.opened c m hm hopening).2 c' o' hkept hstream' hold'] at hclosed'
    cases hclosed'
  | false =>
    -- this channel is the older one, and closed when the other one was opened
    obtain ⟨hmem', helders⟩ := h.opened c' m' hm' hopening'
    have hmem : c ∈ pc.assigned := (h.mem_assigned c).2 ⟨o, ho, by simp [hstream]⟩
    rw [helders c o ho (hsame ▸ hstream) (older_total hmem hne hold)] at hclosed
    cases hclosed

/-! ## Preservation -/

namespace Alternating

theorem start (role : Description.Role) : Alternating (Threads.start role).pc where
  bounded := by simp [Threads.start]
  heard := fun stream => ⟨List.isChain_nil, by simp [Threads.start, sent, controls]⟩

/-- Nothing is handed over, and the objects are the same, up to new ones. -/
theorem of_objects (h : Alternating pc) (hhanded : pc'.handed = pc.handed)
    (hbounded : ∀ (c : ℕ) (o : Object) (stream : ℕ), pc'.objects[c]? = some o →
      o.channel.mStream = some stream → stream < 65536)
    (hspeaks : ∀ stream c, pc.Speaks stream c → pc'.Speaks stream c) : Alternating pc' where
  bounded := hbounded
  heard := by
    have hsent : pc'.sent = pc.sent ++ [] := by simp [sent, hhanded]
    rw [hsent]
    refine h.heard.append fun stream => .inl ⟨rfl, ?_⟩
    rintro ⟨c, hc⟩
    exact ⟨c, hspeaks stream c hc⟩

/-- A new object. -/
theorem of_append (h : Alternating pc) {o : Object} (hobjects : pc'.objects = pc.objects ++ [o])
    (hhanded : pc'.handed = pc.handed)
    (hbound : ∀ stream, o.channel.mStream = some stream → stream < 65536) : Alternating pc' := by
  refine h.of_objects hhanded ?_ ?_
  · intro c o' stream ho' hstream
    rw [hobjects, getElem?_objects_append] at ho'
    rcases ho' with ho' | ⟨-, rfl⟩
    · exact h.bounded c o' stream ho' hstream
    · exact hbound stream hstream
  · intro stream c hc
    obtain ⟨o', ho', -⟩ := hc.1
    refine hc.of_objects ?_ (hhanded ▸ List.Subset.refl _)
    rw [hobjects, ho']
    exact getElem?_objects_append.2 (.inl ho')

/-- A call that hands over a reset at most, when it closes the channel. -/
theorem of_quiet (h : Alternating pc) {g : Object → Object}
    {function : DataChannel → DataChannel.Outcome}
    (hg : ∀ o, (g o).channel = (function o.channel).channel)
    (hobjects : ∀ c', pc'.objects[c']? = (pc.objects[c']?).map fun o => if c = c' then g o else o)
    (hsent : pc'.sent =
      pc.sent ++ ((pc.objects[c]?).map fun o => (function o.channel).messages).getD [])
    (hhanded : pc.handed ⊆ pc'.handed)
    (hkeeps : ∀ ch, DataChannel.Keeps ch (function ch).channel)
    (hutters : ∀ ch, (∀ stream, ch.mStream = some stream → stream < 65536) →
      Utters (fun _ => False) ch (function ch).channel (function ch).messages) :
    Alternating pc' where
  bounded := by
    intro c' o' stream ho' hstream
    rw [hobjects, Option.map_eq_some_iff] at ho'
    obtain ⟨o, ho, rfl⟩ := ho'
    refine h.bounded c' o stream ho ?_
    split at hstream
    · rw [hg, (hkeeps o.channel).mStream] at hstream
      exact hstream
    · exact hstream
  heard := by
    rw [hsent]
    -- another channel goes on speaking
    have hother {stream c' : ℕ} (hne : c ≠ c') (hc' : pc.Speaks stream c') :
        pc'.Speaks stream c' := by
      refine hc'.of_objects ?_ hhanded
      rw [hobjects]
      cases pc.objects[c']? <;> simp [hne]
    refine h.heard.append fun stream => ?_
    cases ho : pc.objects[c]? with
    | none =>
      refine .inl ⟨rfl, ?_⟩
      rintro ⟨c', hc'⟩
      have hne : c ≠ c' := by
        rintro rfl
        obtain ⟨o, ho', -⟩ := hc'.1
        rw [ho] at ho'
        cases ho'
      exact ⟨c', hother hne hc'⟩
    | some o =>
      rcases hutters o.channel (h.bounded c o · ho) stream with
        ⟨hnil, hkept⟩ | hreset | ⟨-, hfalse, -⟩
      · refine .inl ⟨hnil, ?_⟩
        rintro ⟨c', hc'⟩
        by_cases heq : c = c'
        · subst heq
          refine ⟨c, hc'.of_object (fun o' ho' hstream hclosed htransport => ?_) hhanded⟩
          obtain rfl : o = o' := Option.some.inj (ho.symm.trans ho')
          -- without a reset the channel is not closed
          obtain ⟨hclosed', htransport'⟩ := hkept hstream hclosed htransport
          refine ⟨g o, by rw [hobjects, ho, Option.map_some, if_pos rfl], ?_, ?_, ?_⟩
          · rw [hg, (hkeeps o.channel).mStream, hstream]
          · rw [hg, hclosed']
          · rw [hg, htransport']
        · exact ⟨c', hother heq hc'⟩
      · exact .inr (.inl hreset)
      · exact hfalse.elim

theorem subset_handed_call (pc : PeerConnection) (c : ℕ)
    (function : DataChannel → DataChannel.Outcome) : pc.handed ⊆ (pc.call c function).1.handed := by
  rcases handed_call pc c function with hsame | ⟨o, -, hhanded⟩
  · rw [hsame]
    exact List.Subset.refl _
  · rw [hhanded]
    exact List.subset_append_left _ _

/-- A call on a channel that does not open it. -/
theorem call (h : Alternating pc) (c : ℕ) {function : DataChannel → DataChannel.Outcome}
    (hkeeps : ∀ ch, DataChannel.Keeps ch (function ch).channel)
    (hutters : ∀ ch, (∀ stream, ch.mStream = some stream → stream < 65536) →
      Utters (fun _ => False) ch (function ch).channel (function ch).messages) :
    Alternating (pc.call c function).1 :=
  h.of_quiet (g := fun o => { o with channel := (function o.channel).channel }) (fun _ => rfl)
    (getElem?_objects_call pc c · function) (sent_call pc c function)
    (subset_handed_call pc c function) hkeeps hutters

theorem destroy (h : Alternating pc) (c : ℕ) : Alternating (pc.destroy c) := by
  let closed (o : Object) : Object := { channel := o.channel.close.channel, live := false }
  have hclosed : ∀ o, (closed o).channel = (DataChannel.close o.channel).channel := fun _ => rfl
  refine h.of_quiet hclosed (getElem?_objects_destroy pc c) (sent_destroy pc c) ?_
    DataChannel.keeps_close fun _ => utters_close
  unfold PeerConnection.destroy
  apply List.Subset.trans _ (subset_handed_call _ c DataChannel.close)
  exact List.Subset.refl _

/-- Every elementary change preserves the invariant. -/
theorem change (h : Alternating pc) (hchange : Change pc pc') : Alternating pc' := by
  cases hchange with
  | close c => exact h.call c DataChannel.keeps_close fun _ => utters_close
  | incoming c message =>
    exact h.call c (fun ch => DataChannel.keeps_incoming ch message)
      fun _ hbound => utters_incoming hbound message
  | destroy c => exact h.destroy c
  | @assign c stream channel role hlock hnone hrole hparity hmax hfree =>
    obtain ⟨o, ho, -, rfl⟩ := lock_eq_some.1 hlock
    refine h.of_objects rfl ?_ ?_
    · intro c' o' s ho' hs
      simp only [setChannel, List.getElem?_modify, Option.map_eq_map, Option.map_eq_some_iff] at ho'
      obtain ⟨o'', ho'', rfl⟩ := ho'
      split at hs
      · obtain rfl := Option.some.inj hs
        exact Nat.lt_of_le_of_lt hmax pc.maxDataChannelStream_lt
      · exact h.bounded c' o'' s ho'' hs
    · -- the channel had no stream, so it is another one that speaks
      intro s c' hc'
      obtain ⟨o', ho', hs, -⟩ := hc'.1
      have hne : c ≠ c' := by
        rintro rfl
        obtain rfl : o = o' := Option.some.inj (ho.symm.trans ho')
        rw [hnone] at hs
        cases hs
      refine hc'.of_objects ?_ (List.Subset.refl _)
      simp [setChannel, hne]
  | settle => exact h.of_objects rfl h.bounded fun _ _ => id
  | @accept stream role hrole hparity hfree hbound =>
    refine h.of_append rfl rfl ?_
    rintro _ ⟨⟩
    exact hbound
  | rehash => exact h.of_objects rfl h.bounded fun _ _ => id
  | handReset stream =>
    refine ⟨h.bounded, ?_⟩
    have hsent : sent { pc with handed := pc.handed ++ [(none, DataChannel.resetMessage stream)] } =
        pc.sent ++ [DataChannel.resetMessage stream] := by
      simp [sent]
    rw [hsent]
    refine h.heard.append fun s => ?_
    rw [controls_resetMessage]
    split
    · exact .inr (.inl rfl)
    · refine .inl ⟨rfl, ?_⟩
      rintro ⟨c, hc⟩
      exact ⟨c, hc.of_objects rfl (List.subset_append_left _ _)⟩

theorem changes (h : Alternating pc) (hchanges : Changes pc pc') : Alternating pc' :=
  hchanges.invariant (fun _ _ h hchange => h.change hchange) h

/-- Creation of a channel. -/
theorem registerDataChannel (h : Alternating pc) (label : List UInt8) (init : DataChannelInit) :
    Alternating (pc.registerDataChannel label init).1 := by
  rcases registerDataChannel_cases pc label init with
    ⟨e, hreg⟩ | ⟨hnone, hreg⟩ | ⟨stream, hsome, hmax, hreg⟩
  · rw [hreg]
    exact h
  · rw [hreg]
    refine h.of_append rfl rfl fun stream hstream => ?_
    rw [show (created label init).mStream = none from hnone] at hstream
    cases hstream
  · rw [hreg]
    refine h.of_append rfl rfl fun s hs => ?_
    obtain rfl : s = stream := Option.some.inj (hs.symm.trans hsome)
    exact Nat.lt_of_le_of_lt hmax pc.maxDataChannelStream_lt

/-- `open` on a channel that is not closed, with nobody speaking on its stream. -/
theorem openOn (h : Alternating pc) {o : Object} (ho : pc.objects[c]? = some o)
    (hclosed : o.channel.mIsClosed = false)
    (hsilent : ∀ m, (some c, m) ∈ (pc.call c DataChannel.openOn).1.handed →
      isOpenMessage m = true → o.channel.mStream = some m.stream →
      ∀ c', ¬pc.Speaks m.stream c') :
    Alternating (pc.call c DataChannel.openOn).1 := by
  have hkept := DataChannel.keeps_openOn o.channel
  have hself : (pc.call c DataChannel.openOn).1.objects[c]? =
      some { o with channel := o.channel.openOn.channel } := by
    rw [getElem?_objects_call, ho, Option.map_some, if_pos rfl]
  -- `open` does not close the channel
  have hstays : o.channel.openOn.channel.mIsClosed = false := by
    rcases DataChannel.openOn_cases o.channel with ⟨-, -, hsame⟩ | ⟨s, data, -, -, -, hopen⟩
    · rw [hsame, hclosed]
    · rw [hopen]
      exact hclosed
  have hspeaks : ∀ stream c', pc.Speaks stream c' →
      (pc.call c DataChannel.openOn).1.Speaks stream c' := by
    intro stream c' hc'
    refine hc'.of_object (fun o' ho' hstream hclosed' htransport => ?_)
      (subset_handed_call pc c _)
    by_cases heq : c = c'
    · subst heq
      obtain rfl : o = o' := Option.some.inj (ho.symm.trans ho')
      exact ⟨_, hself, hkept.mStream.trans hstream, hstays, hkept.mSctpTransport htransport⟩
    · refine ⟨o', ?_, hstream, hclosed', htransport⟩
      rw [getElem?_objects_call, ho', Option.map_some, if_neg heq]
  refine ⟨?_, ?_⟩
  · intro c' o' s ho' hs
    rw [getElem?_objects_call, Option.map_eq_some_iff] at ho'
    obtain ⟨o'', ho'', rfl⟩ := ho'
    split at hs
    · exact h.bounded c' o'' s ho'' ((DataChannel.keeps_openOn o''.channel).mStream ▸ hs)
    · exact h.bounded c' o'' s ho'' hs
  · rw [sent_call, ho]
    refine h.heard.append fun s => ?_
    rcases DataChannel.openOn_cases o.channel with
      ⟨hmessages, -⟩ | ⟨stream, data, -, hstream, -, hopen⟩
    · refine .inl ⟨by simp [hmessages, controls], ?_⟩
      rintro ⟨c', hc'⟩
      exact ⟨c', hspeaks s c' hc'⟩
    · have hmessages : o.channel.openOn.messages = [{ data, type := .control, stream }] := by
        rw [hopen]
        rfl
      have hhanded : (some c, { data, type := .control, stream }) ∈
          (pc.call c DataChannel.openOn).1.handed := by
        simp [PeerConnection.call, ho, hmessages]
      have hmod : stream % 65536 = stream := Nat.mod_eq_of_lt (h.bounded c o stream ho hstream)
      rw [Option.map_some, Option.getD_some, hmessages]
      -- the message is on the stream of the channel only
      by_cases hon : stream = s ∧ isOpenMessage { data, type := .control, stream } = true
      · obtain ⟨rfl, hopening⟩ := hon
        refine .inr (.inr ⟨?_, ?_, c, ?_⟩)
        · simp [controls, control, hmod, hopening]
        · rintro ⟨c', hc'⟩
          exact hsilent _ hhanded hopening hstream c' hc'
        · exact ⟨⟨_, hself, hkept.mStream.trans hstream, hstays, by simp [hopen]⟩, _, hhanded,
            hopening, rfl⟩
      · refine .inl ⟨?_, ?_⟩
        · by_cases heq : stream = s
          · subst heq
            exact controls_eq_nil (by simpa using not_and.1 hon rfl) (by simp)
          · simp [controls, control, hmod, heq]
        · rintro ⟨c', hc'⟩
          exact ⟨c', hspeaks s c' hc'⟩

end Alternating

/-! ## The threads -/

/-- The channel that a step opens. -/
def Threads.opening (t : Threads) : Step → Option ℕ
  | .openCreated c => some c
  | .sweepOpen => t.sweep.pending.head?
  | _ => none

/-- A call of `emplaceDataChannel` finds the transport connected only when the sweep is settled;
explicit ids are not in use; and a channel is opened only if it is not closed and no older one on
its stream has still to answer a reset. -/
structure OpensOnce (t : Threads) (e : Step) : Prop where
  swept : SweptBefore t e
  afterReset : OpensAfterReset t e
  unclosed : ∀ c ∈ t.opening e, ∀ o ∈ t.pc.objects[c]?, o.channel.mIsClosed = false

instance (t : Threads) : DecidablePred (OpensOnce t) := fun e =>
  decidable_of_iff (SweptBefore t e ∧ OpensAfterReset t e ∧
      ∀ c ∈ t.opening e, ∀ o ∈ t.pc.objects[c]?, o.channel.mIsClosed = false)
    ⟨fun ⟨hswept, hafter, hunclosed⟩ => ⟨hswept, hafter, hunclosed⟩,
      fun h => ⟨h.swept, h.afterReset, h.unclosed⟩⟩

/-- The invariant of the threads. -/
structure OneOpen (t : Threads) : Prop where
  once : OpenedOnce t
  ordered : ResetsOrdered t
  alternating : Alternating t.pc

namespace OneOpen

variable {t : Threads}

theorem start (role : Description.Role) : OneOpen (Threads.start role) :=
  ⟨OpenedOnce.start role, ResetsOrdered.start role, Alternating.start role⟩

/-- `open` on a channel that was not opened before. -/
theorem openOn (h : OneOpen t) {c : ℕ} (hunopened : t.pc.opens c = 0)
    (hafter : resettingOlder t c = false)
    (hunclosed : ∀ o ∈ t.pc.objects[c]?, o.channel.mIsClosed = false) :
    Alternating (t.pc.call c DataChannel.openOn).1 := by
  have hordered := h.ordered.ordered
  cases ho : t.pc.objects[c]? with
  | none =>
    have hsame : (t.pc.call c DataChannel.openOn).1 = t.pc := by simp [PeerConnection.call, ho]
    rw [hsame]
    exact h.alternating
  | some o =>
    have hclosed := hunclosed o ho
    refine h.alternating.openOn ho hclosed fun m hm hopening hstream => ?_
    exact not_speaks_of_opening hordered (hordered.openOn_threads hafter) ho hclosed hunopened hm
      hopening hstream

/-- A call of `emplaceDataChannel` goes on, or ends with the destruction of the channel. -/
theorem creationStep {c : ℕ} {outcome : PeerConnection × Option Exception}
    (houtcome : Alternating outcome.1) (next : Option Creation) :
    Alternating (t.creationStep c outcome next).pc := by
  unfold Threads.creationStep
  rcases outcome with ⟨pc, _ | e⟩
  · exact houtcome
  · dsimp only
    split
    · exact houtcome
    · exact houtcome.destroy c

/-- What the steps do to the OPEN messages and resets on each stream. -/
theorem alternates {e : Step} {t' : Threads} (h : OneOpen t) (hok : OpensOnce t e)
    (hstep : t.Takes e t') : Alternating t'.pc := by
  have halternating := h.alternating
  cases hstep with
  | @create label init _ _ hregister =>
    have hregistered := halternating.registerDataChannel label init
    rw [hregister] at hregistered
    exact hregistered
  | @createFails label init _ _ hregister =>
    have hregistered := halternating.registerDataChannel label init
    rw [hregister] at hregistered
    exact hregistered
  | check => exact halternating
  | assign _ hassign =>
    exact creationStep (halternating.changes (assignDataChannels_changes hassign)) _
  -- the two ways to open a channel
  | @openCreated c hcreating =>
    exact creationStep (h.openOn (h.once.unopened_of_assigned hcreating) hok.afterReset
      (hok.unclosed c rfl)) _
  | @sweepOpen locked todo c hsweep =>
    have hhead : t.sweep.pending.head? = some c := by
      rw [hsweep]
      rfl
    have hmem : c ∈ t.sweep.pending := List.mem_of_mem_head? hhead
    exact h.openOn (h.once.pending.2 c hmem).2 (hok.afterReset c hhead) (hok.unclosed c hhead)
  | initSctpTransport => exact halternating.of_objects rfl halternating.bounded fun _ _ => id
  | commUp => exact halternating.of_objects rfl halternating.bounded fun _ _ => id
  | commLost => exact halternating.of_objects rfl halternating.bounded fun _ _ => id
  | callbackAssign _ hassign => exact halternating.changes (assignDataChannels_changes hassign)
  | callbackFails _ hassign => exact halternating.changes (assignDataChannels_changes hassign)
  | callbackEnqueue => exact halternating
  | sweepStart => exact halternating
  | sweepTest => exact halternating
  | forward hreset => exact halternating.changes (forwardMessage_changes t.pc _ hreset)
  | @removeReset message =>
    unfold Threads.removeReset
    dsimp only
    split
    · exact halternating.of_objects rfl halternating.bounded fun _ _ => id
    · exact halternating
  | incomingReset => exact halternating.change (.incoming _ _)
  | close => exact halternating.change (.close _)
  | destroy => exact halternating.destroy _
  | rehash hrehash => exact halternating.changes (rehash_changes hrehash)

/-- Every step preserves the invariant. -/
theorem step {e : Step} {t' : Threads} (h : OneOpen t) (hok : OpensOnce t e)
    (hstep : t.Takes e t') : OneOpen t' :=
  ⟨h.once.step hok.swept hstep, h.ordered.step hok.afterReset hstep, h.alternates hok hstep⟩

end OneOpen

/-- In every interleaving whose steps meet the condition, every channel hands over at most one OPEN
message, and the peer gets a reset between any two OPEN messages on a stream. -/
theorem opens_once {role : Description.Role} {steps : List Step} {t : Threads}
    (hrun : Transition.run Threads.step (Threads.start role) steps = some t)
    (hok : Transition.Meets Threads.step OpensOnce (Threads.start role) steps) :
    (∀ c, t.pc.opens c ≤ 1) ∧ ∀ stream, Alternates (controls stream t.pc.sent) := by
  have h : OneOpen t := Transition.run_invariant
    (fun _ _ _ ht hstepOk hstep => ht.step hstepOk (.of_step hstep)) (OneOpen.start role) hok hrun
  exact ⟨h.once.atMostOnce, fun stream => (h.alternating.heard stream).1⟩

/-- A channel created before the connection is opened by the sweep and reset by the peer; another
one then gets its stream and is opened at its creation. -/
def sweptSteps : List Step :=
  [.create [] {}, .check 0] ++ connectionSteps ++
    [.sweepStart, .sweepTest, .sweepOpen,
      .forward (some (DataChannel.ackMessage 0)),
      .removeReset (DataChannel.resetMessage 0), .incomingReset,
      .create [] {}, .check 1, .assign 1, .openCreated 1]

theorem opens_once_sweptSteps :
    ∃ t, Transition.run Threads.step (Threads.start .active) sweptSteps = some t ∧
      Transition.Meets Threads.step OpensOnce (Threads.start .active) sweptSteps ∧
      controls 0 t.pc.sent = [.opening, .reset, .opening] ∧ t.pc.opens 1 ≤ 1 ∧
      Alternates (controls 0 t.pc.sent) := by
  have hok : Transition.Meets Threads.step OpensOnce (Threads.start .active) sweptSteps := by
    decide
  exact ⟨_, rfl, hok, by decide, (opens_once rfl hok).1 1, (opens_once rfl hok).2 0⟩

end Rtc.PeerConnection
