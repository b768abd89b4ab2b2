import Mathlib.Data.List.Nodup
import QuicRtc.PeerConnection.Spec
import QuicRtc.PeerConnection.Threads

/-!
# Resets and reused streams

A stream is free for a new channel as soon as `removeDataChannel` has removed its entry, while the
old channel answers the reset of its peer with a reset of its own only afterwards, in `incoming`.
In between another thread may assign the stream to a new channel and open it; the answer of the old
channel then follows the OPEN message of the new one. In every interleaving without this overlap, no
reset of an older channel follows the OPEN message of a newer one.

* `older`: which of two channels got its stream first.
* `ResetOrdered`: the invariant, given the channel that the SCTP thread has removed but not yet
  called.
* `ResetOrdered.step`: every step preserves it, provided that it is `OpensAfterReset`.
* `reset_before_open`: the property of whole runs.
-/

namespace Rtc.PeerConnection

/-- The channel `c'` got its stream before `c` did. -/
def older (pc : PeerConnection) (c' c : ℕ) : Bool := pc.assigned.idxOf c' < pc.assigned.idxOf c

/-- The channel that the SCTP thread has removed and is about to call. -/
def SctpThread.removed : SctpThread → Option ℕ
  | .resetting c _ => some c
  | .idle => none
  | .connected => none
  | .assigned => none

/-- The SCTP thread has removed an older channel on the stream of `c`, whose answer to the reset is
still to come. -/
def resettingOlder (t : Threads) (c : ℕ) : Bool :=
  match t.sctp.removed with
  | none => false
  | some c' =>
    match t.pc.objects[c']?, t.pc.objects[c]? with
    | some o', some o =>
      !o'.channel.mIsClosed && decide (o'.channel.mStream = o.channel.mStream) && t.pc.older c' c
    | _, _ => false

/-- Explicit ids are not in use, and a channel is not opened while an older one on its stream has
still to answer a reset. -/
def OpensAfterReset (t : Threads) : Step → Prop
  | .create _ init =>
    ∀ stream ∈ init.id, stream ≤ t.pc.maxDataChannelStream → stream ∉ t.pc.mDataChannels
  | .openCreated c => resettingOlder t c = false
  | .sweepOpen => ∀ c ∈ t.sweep.pending.head?, resettingOlder t c = false
  | _ => True

instance (t : Threads) : DecidablePred (OpensAfterReset t)
  | .create _ init =>
    inferInstanceAs (Decidable (∀ stream ∈ init.id,
      stream ≤ t.pc.maxDataChannelStream → stream ∉ t.pc.mDataChannels))
  | .openCreated _ => inferInstanceAs (Decidable (_ = false))
  | .sweepOpen =>
    inferInstanceAs (Decidable (∀ c ∈ t.sweep.pending.head?, resettingOlder t c = false))
  | .check _ => isTrue trivial
  | .assign _ => isTrue trivial
  | .initSctpTransport => isTrue trivial
  | .commUp _ => isTrue trivial
  | .commLost _ => isTrue trivial
  | .callbackAssign => isTrue trivial
  | .callbackEnqueue => isTrue trivial
  | .sweepStart => isTrue trivial
  | .sweepTest => isTrue trivial
  | .forward _ => isTrue trivial
  | .removeReset _ => isTrue trivial
  | .incomingReset => isTrue trivial
  | .close _ => isTrue trivial
  | .destroy _ => isTrue trivial
  | .rehash _ => isTrue trivial

/-- The invariant, given the channel removed by the SCTP thread but not yet called. -/
structure ResetOrdered (pc : PeerConnection) (removed : Option ℕ) : Prop where
  consistent : pc.Consistent
  nodup : pc.assigned.Nodup
  mem_assigned : ∀ c, c ∈ pc.assigned ↔
    ∃ o, pc.objects[c]? = some o ∧ o.channel.mStream.isSome = true
  /-- A destroyed channel is closed. -/
  dead : ∀ (c : ℕ) (o : Object), pc.objects[c]? = some o → o.live = false →
    o.channel.mIsClosed = true
  /-- A channel that may still reset its stream is registered there, or just removed. -/
  unclosed : ∀ (c : ℕ) (o : Object) (stream : ℕ), pc.objects[c]? = some o →
    o.channel.mStream = some stream → o.channel.mIsClosed = false →
    pc.mDataChannels.lookup stream = some c ∨ removed = some c
  /-- The registered channel is the newest on its stream. -/
  newest : ∀ stream c, pc.mDataChannels.lookup stream = some c →
    ∀ (c' : ℕ) (o' : Object), pc.objects[c']? = some o' → o'.channel.mStream = some stream →
      pc.older c c' = false
  /-- Channels older than one that sent its OPEN message are closed. -/
  opened : ∀ c m, (some c, m) ∈ pc.handed → isOpenMessage m = true →
    c ∈ pc.assigned ∧ ∀ (c' : ℕ) (o' : Object), pc.objects[c']? = some o' →
      o'.channel.mStream = some m.stream → pc.older c' c = true → o'.channel.mIsClosed = true
  order : ∀ before after c m, pc.handed = before ++ (some c, m) :: after → isOpenMessage m = true →
    ∀ c', (some c', DataChannel.resetMessage m.stream) ∈ after → pc.older c' c = false

/-! ## Preservation -/

namespace ResetOrdered

variable {pc pc' : PeerConnection} {removed : Option ℕ}

theorem start (role : Description.Role) : ResetOrdered (Threads.start role).pc none where
  consistent := by simp [Consistent, Threads.start]
  nodup := List.nodup_nil
  mem_assigned := by simp [Threads.start]
  dead := by simp [Threads.start]
  unclosed := by simp [Threads.start]
  newest := by simp [Threads.start]
  opened := by simp [Threads.start]
  order := by simp [Threads.start]

/-- An entry may be appended to the log if it is an OPEN message of a channel whose elders are
closed, or the reset of a channel that was not closed. -/
structure MayHand (pc : PeerConnection) (entry : Option ℕ × Message) : Prop where
  opening : ∀ c, entry.1 = some c → isOpenMessage entry.2 = true →
    c ∈ pc.assigned ∧ ∀ (c' : ℕ) (o' : Object), pc.objects[c']? = some o' →
      o'.channel.mStream = some entry.2.stream → pc.older c' c = true → o'.channel.mIsClosed = true
  reset : ∀ c stream, entry = (some c, DataChannel.resetMessage stream) →
    ∃ o, pc.objects[c]? = some o ∧ o.channel.mStream = some stream ∧ o.channel.mIsClosed = false

/-- Calls on channels: the objects keep what calls keep, and one message may be handed over. -/
theorem evolve (h : ResetOrdered pc removed) (hconsistent : pc'.Consistent)
    (htable : pc'.mDataChannels = pc.mDataChannels) (hassigned : pc'.assigned = pc.assigned)
    (hafter : ∀ (c : ℕ) (o' : Object), pc'.objects[c]? = some o' →
      ∃ o, pc.objects[c]? = some o ∧ DataChannel.Keeps o.channel o'.channel ∧
        (o'.live = false → o.live = false ∨ o'.channel.mIsClosed = true))
    (hlength : pc'.objects.length = pc.objects.length)
    (entry : Option (Option ℕ × Message)) (hhanded : pc'.handed = pc.handed ++ entry.toList)
    (hentry : ∀ e ∈ entry, MayHand pc e) : ResetOrdered pc' removed := by
  have holder : ∀ c' c, pc'.older c' c = pc.older c' c := by
    intro c' c
    rw [older, older, hassigned]
  -- no object is lost
  have hbefore : ∀ (c : ℕ) (o : Object), pc.objects[c]? = some o →
      ∃ o', pc'.objects[c]? = some o' ∧ DataChannel.Keeps o.channel o'.channel := by
    intro c o ho
    have hlt : c < pc'.objects.length := by
      rw [hlength]
      exact (List.getElem?_eq_some_iff.1 ho).1
    obtain ⟨o', ho', hkeeps, -⟩ := hafter c _ (List.getElem?_eq_getElem hlt)
    rw [ho] at ho'
    cases ho'
    exact ⟨_, List.getElem?_eq_getElem hlt, hkeeps⟩
  -- closed channels stay closed
  have hclosed : ∀ c m, (c ∈ pc.assigned ∧ ∀ (c' : ℕ) (o' : Object), pc.objects[c']? = some o' →
        o'.channel.mStream = some m → pc.older c' c = true → o'.channel.mIsClosed = true) →
      c ∈ pc'.assigned ∧ ∀ (c' : ℕ) (o' : Object), pc'.objects[c']? = some o' →
        o'.channel.mStream = some m → pc'.older c' c = true → o'.channel.mIsClosed = true := by
    rintro c m ⟨hmem, hall⟩
    refine ⟨hassigned ▸ hmem, fun c' o' ho' hstream hold => ?_⟩
    obtain ⟨o, ho, hkeeps, -⟩ := hafter c' o' ho'
    rw [holder] at hold
    exact hkeeps.mIsClosed (hall c' o ho (hkeeps.mStream ▸ hstream) hold)
  constructor
  · exact hconsistent
  · rw [hassigned]
    exact h.nodup
  · intro c
    rw [hassigned, h.mem_assigned]
    constructor
    · rintro ⟨o, ho, hsome⟩
      obtain ⟨o', ho', hkeeps⟩ := hbefore c o ho
      exact ⟨o', ho', hkeeps.mStream ▸ hsome⟩
    · rintro ⟨o', ho', hsome⟩
      obtain ⟨o, ho, hkeeps, -⟩ := hafter c o' ho'
      exact ⟨o, ho, hkeeps.mStream ▸ hsome⟩
  · -- a channel that dies in this step is closed by it
    intro c o' ho' hdead
    obtain ⟨o, ho, hkeeps, hlive⟩ := hafter c o' ho'
    rcases hlive hdead with hdead | hclosed
    · exact hkeeps.mIsClosed (h.dead c o ho hdead)
    · exact hclosed
  · intro c o' stream ho' hstream hopen
    obtain ⟨o, ho, hkeeps, -⟩ := hafter c o' ho'
    rw [htable]
    -- it was not closed before either
    refine h.unclosed c o stream ho (hkeeps.mStream ▸ hstream) ?_
    by_contra hclosed
    rw [hkeeps.mIsClosed (by simpa using hclosed)] at hopen
    cases hopen
  · intro stream c hlookup c' o' ho' hstream
    obtain ⟨o, ho, hkeeps, -⟩ := hafter c' o' ho'
    rw [holder]
    exact h.newest stream c (htable ▸ hlookup) c' o ho (hkeeps.mStream ▸ hstream)
  · intro c m hmem hopen
    rw [hhanded, List.mem_append, Option.mem_toList] at hmem
    rcases hmem with hmem | hmem
    · exact hclosed c m.stream (h.opened c m hmem hopen)
    · exact hclosed c m.stream ((hentry _ hmem).opening c rfl hopen)
  · intro before after c m hsplit hopen c' hmem
    rw [holder]
    rw [hhanded] at hsplit
    cases entry with
    | none => exact h.order before after c m (by simpa using hsplit) hopen c' hmem
    | some e =>
      -- the new entry is the last one; the OPEN message is it, or comes before it
      rcases List.eq_nil_or_concat after with rfl | ⟨after₀, last, rfl⟩
      · cases hmem
      · rw [List.concat_eq_append] at hsplit hmem
        rw [← List.cons_append, ← List.append_assoc] at hsplit
        obtain ⟨hhanded₀, hlast⟩ := List.append_inj' hsplit rfl
        obtain rfl : e = last := by simpa using hlast
        rcases List.mem_append.1 hmem with hmem | hmem
        · exact h.order before after₀ c m hhanded₀ hopen c' hmem
        · -- the reset was just handed over by a channel that was not closed
          obtain ⟨o, ho, hstream, hunclosed⟩ :=
            (hentry e rfl).reset c' m.stream (List.mem_singleton.1 hmem).symm
          have hin : (some c, m) ∈ pc.handed := by
            rw [hhanded₀]
            simp
          by_contra hold
          have hclosed := (h.opened c m hin hopen).2 c' o ho hstream (by simpa using hold)
          rw [hunclosed] at hclosed
          cases hclosed

/-- The same, with the messages of one call in the log. -/
theorem evolve_call (h : ResetOrdered pc removed) (hconsistent : pc'.Consistent)
    (htable : pc'.mDataChannels = pc.mDataChannels) (hassigned : pc'.assigned = pc.assigned)
    (hafter : ∀ (c : ℕ) (o' : Object), pc'.objects[c]? = some o' →
      ∃ o, pc.objects[c]? = some o ∧ DataChannel.Keeps o.channel o'.channel ∧
        (o'.live = false → o.live = false ∨ o'.channel.mIsClosed = true))
    (hlength : pc'.objects.length = pc.objects.length) {c : ℕ}
    {function : DataChannel → DataChannel.Outcome}
    (hhanded : pc'.handed = pc.handed ∨ ∃ o, pc.objects[c]? = some o ∧
      pc'.handed = pc.handed ++ (function o.channel).messages.map (some c, ·))
    (hmessages : ∀ o, pc.objects[c]? = some o → (function o.channel).messages = [] ∨
      ∃ m, (function o.channel).messages = [m] ∧ MayHand pc (some c, m)) :
    ResetOrdered pc' removed := by
  have hevolve := h.evolve hconsistent htable hassigned hafter hlength
  rcases hhanded with hsame | ⟨o, ho, hhanded⟩
  · exact hevolve none (by simpa using hsame) (by simp)
  · rcases hmessages o ho with hnil | ⟨m, hm, hmay⟩
    · exact hevolve none (by simpa [hnil] using hhanded) (by simp)
    · refine hevolve (some (some c, m)) (by simpa [hm] using hhanded) ?_
      intro e he
      rw [← Option.some.inj he]
      exact hmay

/-- A call on a channel that hands over at most one message. -/
theorem call (h : ResetOrdered pc removed) (c : ℕ) {function : DataChannel → DataChannel.Outcome}
    (hkeeps : ∀ ch, DataChannel.Keeps ch (function ch).channel)
    (hmessages : ∀ o, pc.objects[c]? = some o → (function o.channel).messages = [] ∨
      ∃ m, (function o.channel).messages = [m] ∧ MayHand pc (some c, m)) :
    ResetOrdered (pc.call c function).1 removed := by
  obtain ⟨htable, hassigned, -⟩ := call_frame pc c function
  refine h.evolve_call (h.consistent.call c hkeeps) htable hassigned ?_
    (length_objects_call pc c function) (handed_call pc c function) hmessages
  intro c' o' ho'
  rw [getElem?_objects_call, Option.map_eq_some_iff] at ho'
  obtain ⟨o, ho, rfl⟩ := ho'
  refine ⟨o, ho, ?_, ?_⟩
  · split
    · exact hkeeps o.channel
    · exact DataChannel.Keeps.refl _
  · split <;> exact Or.inl

/-- A reset may be handed over by a channel that was not closed. -/
theorem mayHand_reset {c stream : ℕ} {o : Object} (ho : pc.objects[c]? = some o)
    (hstream : o.channel.mStream = some stream) (hopen : o.channel.mIsClosed = false) :
    MayHand pc (some c, DataChannel.resetMessage stream) where
  opening := by
    intro _ _ hopening
    cases hopening
  reset := by
    intro c' stream' heq
    obtain ⟨hc, hmessage⟩ := Prod.mk.inj heq
    obtain rfl := Option.some.inj hc
    obtain rfl : stream = stream' := congrArg Message.stream hmessage
    exact ⟨o, ho, hstream, hopen⟩

/-- The messages of `close`. -/
theorem close_messages {c : ℕ} (o : Object) (ho : pc.objects[c]? = some o) :
    o.channel.close.messages = [] ∨
      ∃ m, o.channel.close.messages = [m] ∧ MayHand pc (some c, m) := by
  -- only the first `close` sends a reset
  rcases DataChannel.close_cases o.channel with
    ⟨-, hclose⟩ | ⟨hopen, -, -, ⟨stream, -, hstream, hmessages⟩ | ⟨-, hmessages⟩⟩
  · rw [hclose]
    exact Or.inl rfl
  · exact Or.inr ⟨_, hmessages, mayHand_reset ho hstream hopen⟩
  · exact Or.inl hmessages

/-- The messages of `incoming`: those of `close`, or an ACK message. -/
theorem incoming_messages {c : ℕ} (message : Message) (o : Object)
    (ho : pc.objects[c]? = some o) :
    (o.channel.incoming message).messages = [] ∨
      ∃ m, (o.channel.incoming message).messages = [m] ∧ MayHand pc (some c, m) := by
  rcases DataChannel.incoming_cases o.channel message with
    ⟨-, hclose⟩ | ⟨-, -, hmessages | ⟨stream, -, -, -, hmessages⟩⟩
  · rw [hclose]
    exact close_messages o ho
  · exact Or.inl hmessages
  · refine Or.inr ⟨_, hmessages, ?_, ?_⟩
    · intro _ _ hopening
      cases hopening
    · intro c' stream' heq
      cases (Prod.mk.inj heq).2

/-- A channel gets a stream that is unused. -/
theorem assignStream (h : ResetOrdered pc removed) {c stream : ℕ} {o : Object}
    (hnot : c ∉ pc.assigned) (hfree : stream ∉ pc.mDataChannels) (hconsistent : pc'.Consistent)
    (htable : pc'.mDataChannels = pc.mDataChannels.insert stream c)
    (hassigned : pc'.assigned = pc.assigned ++ [c]) (hhanded : pc'.handed = pc.handed)
    (hself : pc'.objects[c]? = some o) (hstream : o.channel.mStream = some stream)
    (hlive : o.live = true) (hother : ∀ c', c' ≠ c → pc'.objects[c']? = pc.objects[c']?) :
    ResetOrdered pc' removed := by
  -- the order of channels that had a stream does not change, and the new one is the newest
  have holder : ∀ c', ∀ c'' ∈ pc.assigned, pc'.older c' c'' = pc.older c' c'' := by
    intro c' c'' hmem
    have hlt := List.idxOf_lt_length_of_mem hmem
    simp only [older, hassigned, List.idxOf_append, if_pos hmem]
    by_cases hc' : c' ∈ pc.assigned
    · rw [if_pos hc']
    · have hlen := List.idxOf_eq_length hc'
      simp only [if_neg hc', decide_eq_decide]
      omega
  have hnewest : ∀ c', pc'.older c c' = true → c' ∉ pc'.assigned := by
    intro c' hold hmem
    simp only [older, hassigned, decide_eq_true_eq, List.idxOf_append, if_neg hnot] at hold
    rw [hassigned, List.mem_append, List.mem_singleton] at hmem
    rcases hmem with hmem | rfl
    · have hlt := List.idxOf_lt_length_of_mem hmem
      rw [if_pos hmem] at hold
      omega
    · rw [if_neg hnot] at hold
      omega
  have hmem' : ∀ c', c' ∈ pc'.assigned ↔
      ∃ o, pc'.objects[c']? = some o ∧ o.channel.mStream.isSome = true := by
    intro c'
    rw [hassigned, List.mem_append, List.mem_singleton]
    by_cases heq : c' = c
    · subst heq
      simp [hself, hstream]
    · rw [h.mem_assigned, hother c' heq]
      simp [heq]
  constructor
  · exact hconsistent
  · rw [hassigned]
    exact List.nodup_append.2 ⟨h.nodup, List.nodup_singleton c, by
      rintro a ha b hb rfl
      exact hnot ((List.mem_singleton.1 hb) ▸ ha)⟩
  · exact hmem'
  · intro c' o' ho' hdead
    by_cases heq : c' = c
    · subst heq
      rw [hself] at ho'
      cases ho'
      rw [hlive] at hdead
      cases hdead
    · exact h.dead c' o' (hother c' heq ▸ ho') hdead
  · intro c' o' s ho' hs hopen
    rw [htable]
    by_cases heq : c' = c
    · subst heq
      rw [hself] at ho'
      cases ho'
      obtain rfl : stream = s := Option.some.inj (hstream.symm.trans hs)
      exact Or.inl (AList.lookup_insert _)
    · rcases h.unclosed c' o' s (hother c' heq ▸ ho') hs hopen with hlookup | hremoved
      · left
        -- the stream was free, so nobody else was registered there
        have hne : s ≠ stream := by
          rintro rfl
          exact hfree (AList.lookup_isSome.1 (by rw [hlookup]; rfl))
        rw [AList.lookup_insert_ne hne]
        exact hlookup
      · exact Or.inr hremoved
  · intro s c' hlookup c'' o'' ho'' hs
    have hmem : c'' ∈ pc'.assigned := (hmem' c'').2 ⟨o'', ho'', by simp [hs]⟩
    rw [htable] at hlookup
    by_cases heq : s = stream
    · subst heq
      rw [AList.lookup_insert] at hlookup
      cases hlookup
      by_contra hold
      -- the new channel is the registered one, and the newest
      exact hnewest c'' (by simpa using hold) hmem
    · rw [AList.lookup_insert_ne heq] at hlookup
      have hne : c'' ≠ c := by
        rintro rfl
        rw [hself] at ho''
        cases ho''
        exact heq (Option.some.inj (hs.symm.trans hstream))
      have hold := h.newest s c' hlookup c'' o'' (hother c'' hne ▸ ho'') hs
      rw [hassigned, List.mem_append, List.mem_singleton] at hmem
      rw [holder c' c'' (hmem.resolve_right hne)]
      exact hold
  · intro c' m hmem hopen
    rw [hhanded] at hmem
    obtain ⟨hin, hall⟩ := h.opened c' m hmem hopen
    refine ⟨by rw [hassigned]; exact List.mem_append_left _ hin, ?_⟩
    intro c'' o'' ho'' hs hold
    -- the new channel is not older than one that has sent its OPEN message
    have hne : c'' ≠ c := by
      rintro rfl
      refine hnewest c' hold ?_
      rw [hassigned]
      exact List.mem_append_left _ hin
    exact hall c'' o'' (hother c'' hne ▸ ho'') hs (holder c'' c' hin ▸ hold)
  · intro before after c' m hsplit hopen c'' hmem
    rw [hhanded] at hsplit
    have hin : c' ∈ pc.assigned := (h.opened c' m (by rw [hsplit]; simp) hopen).1
    rw [holder c'' c' hin]
    exact h.order before after c' m hsplit hopen c'' hmem

/-- The next name has no stream. -/
theorem length_notMem (h : ResetOrdered pc removed) : pc.objects.length ∉ pc.assigned := by
  rw [h.mem_assigned]
  rintro ⟨o, ho, -⟩
  simp at ho

/-- Every elementary change preserves the invariant. -/
theorem change (h : ResetOrdered pc removed) (hchange : Change pc pc') :
    ResetOrdered pc' removed := by
  have hconsistent := h.consistent.change hchange
  cases hchange with
  | close c => exact h.call c DataChannel.keeps_close close_messages
  | incoming c message =>
    exact h.call c (fun ch => DataChannel.keeps_incoming ch message) (incoming_messages message)
  | destroy c =>
    obtain ⟨htable, hassigned, -⟩ := destroy_frame pc c
    refine h.evolve_call hconsistent htable hassigned ?_ (length_objects_destroy pc c)
      (handed_destroy pc c) close_messages
    intro c' o' ho'
    rw [getElem?_objects_destroy, Option.map_eq_some_iff] at ho'
    obtain ⟨o, ho, rfl⟩ := ho'
    refine ⟨o, ho, ?_, ?_⟩
    · split
      · exact DataChannel.keeps_close o.channel
      · exact DataChannel.Keeps.refl _
    · -- the destructor closes the channel
      split
      · exact fun _ => Or.inr (DataChannel.mIsClosed_close o.channel)
      · exact Or.inl
  | @assign c stream channel role hlock hnone hrole hparity hmax hfree =>
    obtain ⟨o, ho, hlive, rfl⟩ := lock_eq_some.1 hlock
    have hnot : c ∉ pc.assigned := by
      rw [h.mem_assigned]
      rintro ⟨o', ho', hsome⟩
      rw [ho] at ho'
      cases ho'
      simp [hnone] at hsome
    refine h.assignStream hnot hfree hconsistent rfl rfl rfl
      (o := { o with channel := { o.channel with mStream := some stream } }) ?_ rfl hlive ?_
    · simp [setChannel, ho]
    · intro c' hne
      simp [setChannel, hne.symm]
  | settle =>
    exact h.evolve hconsistent rfl rfl (fun c o' ho' => ⟨o', ho', .refl _, Or.inl⟩) rfl none
      (by simp) (by simp)
  | @accept stream role hrole hparity hfree =>
    refine h.assignStream h.length_notMem hfree hconsistent rfl rfl rfl
      (o := { channel := { DataChannel.makeIncoming with mStream := some stream } }) ?_ rfl rfl ?_
    · simp
    · exact fun c' hne => getElem?_objects_append_of_ne hne
  | rehash hperm =>
    refine ⟨hconsistent, h.nodup, h.mem_assigned, h.dead, ?_, ?_, h.opened, h.order⟩
    · intro c o stream ho hstream hopen
      rw [AList.perm_lookup hperm]
      exact h.unclosed c o stream ho hstream hopen
    · intro stream c hlookup
      exact h.newest stream c ((AList.perm_lookup hperm).symm.trans hlookup)
  | handReset stream =>
    refine h.evolve hconsistent rfl rfl (fun c o' ho' => ⟨o', ho', .refl _, Or.inl⟩) rfl
      (some (none, DataChannel.resetMessage stream)) rfl ?_
    intro e he
    rw [← Option.some.inj he]
    -- the entry belongs to no channel
    constructor
    · intro c hc
      cases hc
    · intro c s heq
      cases (Prod.mk.inj heq).1

theorem changes (h : ResetOrdered pc removed) (hchanges : Changes pc pc') :
    ResetOrdered pc' removed := by
  refine hchanges.invariant (P := (ResetOrdered · removed)) ?_ h
  exact fun _ _ h hchange => h.change hchange

/-- A new object without a stream. -/
theorem addObject (h : ResetOrdered pc removed) {o : Object} (hnone : o.channel.mStream = none)
    (hlive : o.live = true) {unassigned : List ℕ} (hconsistent :
      Consistent { pc with objects := pc.objects ++ [o], mUnassignedDataChannels := unassigned }) :
    ResetOrdered
      { pc with objects := pc.objects ++ [o], mUnassignedDataChannels := unassigned } removed := by
  -- an object with a stream is an old one
  have hold : ∀ (c : ℕ) (o' : Object), (pc.objects ++ [o])[c]? = some o' →
      o'.channel.mStream.isSome = true → pc.objects[c]? = some o' := by
    intro c o' ho' hsome
    rcases getElem?_objects_append.1 ho' with ho' | ⟨-, rfl⟩
    · exact ho'
    · simp [hnone] at hsome
  constructor
  · exact hconsistent
  · exact h.nodup
  · intro c
    rw [h.mem_assigned]
    constructor
    · rintro ⟨o', ho', hsome⟩
      exact ⟨o', getElem?_objects_append.2 (Or.inl ho'), hsome⟩
    · rintro ⟨o', ho', hsome⟩
      exact ⟨o', hold c o' ho' hsome, hsome⟩
  · intro c o' ho' hdead
    rcases getElem?_objects_append.1 ho' with ho' | ⟨-, rfl⟩
    · exact h.dead c o' ho' hdead
    · rw [hlive] at hdead
      cases hdead
  · intro c o' stream ho' hstream
    exact h.unclosed c o' stream (hold c o' ho' (by simp [hstream])) hstream
  · intro stream c hlookup c' o' ho' hstream
    exact h.newest stream c hlookup c' o' (hold c' o' ho' (by simp [hstream])) hstream
  · intro c m hmem hopen
    obtain ⟨hin, hall⟩ := h.opened c m hmem hopen
    refine ⟨hin, fun c' o' ho' hstream => ?_⟩
    exact hall c' o' (hold c' o' ho' (by simp [hstream])) hstream
  · exact h.order

/-- Creation of a channel, with an explicit id that is unused. -/
theorem registerDataChannel (h : ResetOrdered pc removed) (label : List UInt8)
    {init : DataChannelInit}
    (hid : ∀ stream ∈ init.id, stream ≤ pc.maxDataChannelStream → stream ∉ pc.mDataChannels) :
    ResetOrdered (pc.registerDataChannel label init).1 removed := by
  have hconsistent := h.consistent.registerDataChannel label init
  rcases registerDataChannel_cases pc label init with
    ⟨e, hreg⟩ | ⟨hnone, hreg⟩ | ⟨stream, hsome, hmax, hreg⟩
  · rw [hreg]
    exact h
  · rw [hreg] at hconsistent ⊢
    exact h.addObject hnone rfl hconsistent
  · rw [hreg] at hconsistent ⊢
    have hfree := hid stream hsome hmax
    rw [emplace_of_notMem hfree] at hconsistent ⊢
    refine h.assignStream h.length_notMem hfree hconsistent rfl rfl rfl
      (o := { channel := created label init }) ?_ hsome rfl ?_
    · simp
    · exact fun c' hne => getElem?_objects_append_of_ne hne

/-- `open` on a channel, with no older channel on its stream about to answer a reset. -/
theorem openOn (h : ResetOrdered pc removed) {c : ℕ}
    (hok : ∀ c' ∈ removed, ∀ o' o, pc.objects[c']? = some o' → pc.objects[c]? = some o →
      o'.channel.mStream = o.channel.mStream → pc.older c' c = true →
      o'.channel.mIsClosed = true) :
    ResetOrdered (pc.call c DataChannel.openOn).1 removed := by
  refine h.call c DataChannel.keeps_openOn ?_
  intro o ho
  rcases DataChannel.openOn_cases o.channel with ⟨hnil, -⟩ | ⟨stream, data, -, hstream, -, hopen⟩
  · exact Or.inl hnil
  · refine Or.inr ⟨{ data, type := .control, stream }, by rw [hopen]; rfl, ?_, ?_⟩
    · intro c₀ hc₀ _
      obtain rfl := Option.some.inj hc₀
      refine ⟨(h.mem_assigned c).2 ⟨o, ho, by simp [hstream]⟩, ?_⟩
      intro c' o' ho' hs hold
      -- an older channel that is not closed is registered or removed; it cannot be registered, as
      -- the registered channel is the newest
      by_contra hclosed
      rcases h.unclosed c' o' stream ho' hs (by simpa using hclosed) with hlookup | hremoved
      · have hnewest := h.newest stream c' hlookup c o ho hstream
        rw [hold] at hnewest
        cases hnewest
      · exact hclosed (hok c' hremoved o' o ho' ho (hs.trans hstream.symm) hold)
    · intro c' s heq
      cases (Prod.mk.inj heq).2

/-- `removeDataChannel` on a reset: the channel, if it is not closed, is called next. -/
theorem removeDataChannel (h : ResetOrdered pc none) {stream c : ℕ}
    (hlookup : pc.mDataChannels.lookup stream = some c) :
    ResetOrdered (pc.removeDataChannel stream)
      (if (pc.lock c).isSome then some c else none) where
  consistent := h.consistent.removeDataChannel stream
  nodup := h.nodup
  mem_assigned := h.mem_assigned
  dead := h.dead
  unclosed := by
    intro c' o' s ho' hs hopen
    have hlookup' := (h.unclosed c' o' s ho' hs hopen).resolve_right (by simp)
    by_cases heq : s = stream
    · subst heq
      obtain rfl : c = c' := Option.some.inj (hlookup.symm.trans hlookup')
      -- a channel that is not closed exists, so it will be called
      have hlive : o'.live = true := by
        by_contra hdead
        rw [h.dead c o' ho' (by simpa using hdead)] at hopen
        cases hopen
      right
      simp [lock, show pc.objects[c]? = some o' from ho', hlive]
    · exact Or.inl ((AList.lookup_erase_ne heq).trans hlookup')
  newest := by
    intro s c' hlookup'
    have hne : s ≠ stream := by
      rintro rfl
      simp [PeerConnection.removeDataChannel] at hlookup'
    exact h.newest s c' ((AList.lookup_erase_ne hne).symm.trans hlookup')
  opened := h.opened
  order := h.order

/-- The removed channel receives the reset and is closed. -/
theorem incomingReset {c : ℕ} (h : ResetOrdered pc (some c)) {message : Message}
    (hreset : message.type = .reset) : ResetOrdered (pc.call c (·.incoming message)).1 none := by
  have hcalled := h.change (.incoming c message)
  refine { hcalled with unclosed := ?_ }
  intro c' o' stream ho' hstream hopen
  rcases hcalled.unclosed c' o' stream ho' hstream hopen with hlookup | hremoved
  · exact Or.inl hlookup
  · obtain rfl := Option.some.inj hremoved
    rw [getElem?_objects_call, Option.map_eq_some_iff] at ho'
    obtain ⟨o, -, rfl⟩ := ho'
    -- the channel is closed now, so it is not an exception any more
    rw [if_pos rfl, DataChannel.incoming_reset o.channel hreset,
      DataChannel.mIsClosed_close] at hopen
    cases hopen

/-- The invariant does not look at the transport. -/
theorem of_transport (h : ResetOrdered pc removed) (transport : Option SctpStatus) :
    ResetOrdered { pc with mSctpTransport := transport } removed :=
  ⟨h.consistent, h.nodup, h.mem_assigned, h.dead, h.unclosed, h.newest, h.opened, h.order⟩

/-- The condition on the opening of a channel, for the channel that was removed. -/
theorem openOn_threads {t : Threads} (h : ResetOrdered t.pc t.sctp.removed) {c : ℕ}
    (hok : resettingOlder t c = false) :
    ResetOrdered (t.pc.call c DataChannel.openOn).1 t.sctp.removed := by
  apply h.openOn
  intro c' hremoved o' o ho' ho hstream hold
  by_contra hclosed
  simp [resettingOlder, show t.sctp.removed = some c' from hremoved, ho', ho, hstream, hold,
    hclosed] at hok

end ResetOrdered

/-- The invariant of the threads: the SCTP thread holds a removed channel for a reset only. -/
structure ResetsOrdered (t : Threads) : Prop where
  ordered : ResetOrdered t.pc t.sctp.removed
  reset : ∀ c message, t.sctp = .resetting c message → message.type = .reset

namespace ResetsOrdered

variable {t : Threads}

theorem start (role : Description.Role) : ResetsOrdered (Threads.start role) :=
  ⟨ResetOrdered.start role, by simp [Threads.start]⟩

/-- `assignDataChannels` or `open` in a call of `emplaceDataChannel`. -/
theorem creationStep (h : ResetsOrdered t) {c : ℕ} {outcome : PeerConnection × Option Exception}
    (houtcome : ResetOrdered outcome.1 t.sctp.removed) (next : Option Creation) :
    ResetsOrdered (t.creationStep c outcome next) := by
  unfold Threads.creationStep
  rcases outcome with ⟨pc, _ | e⟩
  · exact ⟨houtcome, h.reset⟩
  · dsimp only
    split
    · exact ⟨houtcome, h.reset⟩
    · exact ⟨houtcome.changes (destroy_changes pc c), h.reset⟩

/-- The SCTP thread removes the entry of a stream that was reset. -/
theorem removeReset (h : ResetsOrdered t) {message : Message} (hidle : t.sctp = .idle)
    (hreset : message.type = .reset) : ResetsOrdered (t.removeReset message) := by
  unfold Threads.removeReset
  dsimp only
  split
  · next c _ hlookup =>
    have hordered : ResetOrdered t.pc none := by simpa [hidle, SctpThread.removed] using h.ordered
    have hremoved := hordered.removeDataChannel hlookup
    constructor
    · dsimp only
      split
      · next hlive =>
        rw [if_pos hlive] at hremoved
        exact hremoved
      · next hlive =>
        rw [if_neg hlive] at hremoved
        exact hremoved
    · intro c' message' hsctp
      dsimp only at hsctp
      split at hsctp
      · cases hsctp
        exact hreset
      · cases hsctp
  · exact h

/-- Every step of every thread preserves the invariant, provided that a channel is not opened
while an older one on its stream has still to answer a reset. -/
theorem step {e : Step} {t' : Threads} (h : ResetsOrdered t) (hok : OpensAfterReset t e)
    (hstep : t.Takes e t') : ResetsOrdered t' := by
  cases hstep with
  | @create label _ _ _ hregister =>
    have hregistered := h.ordered.registerDataChannel label hok
    rw [hregister] at hregistered
    exact ⟨hregistered, h.reset⟩
  | @createFails label _ _ _ hregister =>
    have hregistered := h.ordered.registerDataChannel label hok
    rw [hregister] at hregistered
    exact ⟨hregistered, h.reset⟩
  | check hcreating => exact ⟨h.ordered, h.reset⟩
  | assign hcreating hassign =>
    exact h.creationStep (h.ordered.changes (assignDataChannels_changes hassign)) _
  -- opening is what the condition is about
  | openCreated hcreating => exact h.creationStep (h.ordered.openOn_threads hok) _
  | initSctpTransport hnone => exact ⟨h.ordered.of_transport _, h.reset⟩
  | commUp hidle htransport =>
    have hordered := h.ordered.of_transport
    rw [hidle] at hordered
    exact ⟨hordered _, by simp⟩
  | commLost hstate => exact ⟨h.ordered.of_transport _, h.reset⟩
  | callbackAssign hsctp hassign =>
    have hassigned := h.ordered.changes (assignDataChannels_changes hassign)
    rw [hsctp] at hassigned
    exact ⟨hassigned, by simp⟩
  | callbackFails hsctp hassign =>
    have hassigned := h.ordered.changes (assignDataChannels_changes hassign)
    rw [hsctp] at hassigned
    exact ⟨hassigned, by simp⟩
  | callbackEnqueue hsctp =>
    have hordered := h.ordered
    rw [hsctp] at hordered
    exact ⟨hordered, by simp⟩
  | sweepStart hsweep => exact ⟨h.ordered, h.reset⟩
  | sweepTest hsweep => exact ⟨h.ordered, h.reset⟩
  | @sweepOpen locked todo c hsweep =>
    have hnone : resettingOlder t c = false := hok c (by rw [hsweep]; rfl)
    exact ⟨h.ordered.openOn_threads hnone, h.reset⟩
  | forward hreset => exact ⟨h.ordered.changes (forwardMessage_changes t.pc _ hreset), h.reset⟩
  | removeReset hidle hreset => exact h.removeReset hidle hreset
  -- the reset reaches the channel that was found for it
  | @incomingReset c message hsctp =>
    have hordered := h.ordered
    rw [hsctp] at hordered
    exact ⟨hordered.incomingReset (h.reset c message hsctp), by simp⟩
  | close => exact ⟨h.ordered.change (.close _), h.reset⟩
  | destroy => exact ⟨h.ordered.change (.destroy _), h.reset⟩
  | rehash hrehash => exact ⟨h.ordered.changes (rehash_changes hrehash), h.reset⟩

end ResetsOrdered

/-- In every interleaving in which explicit ids are unused and no channel is opened while an older
one on its stream has still to answer a reset: no reset by an older channel on the stream follows
the OPEN message of a channel. -/
theorem reset_before_open {role : Description.Role} {steps : List Step} {t : Threads}
    (hrun : Transition.run Threads.step (Threads.start role) steps = some t)
    (hok : Transition.Meets Threads.step OpensAfterReset (Threads.start role) steps)
    (before after : List (Option ℕ × Message)) {c c' : ℕ} {opening : Message}
    (hhanded : t.pc.handed = before ++ (some c, opening) :: after)
    (hopening : isOpenMessage opening = true) (holder : t.pc.older c' c = true) :
    (some c', DataChannel.resetMessage opening.stream) ∉ after := by
  have h : ResetsOrdered t := Transition.run_invariant
    (fun _ _ _ ht hstepOk hstep => ht.step hstepOk (.of_step hstep)) (ResetsOrdered.start role)
    hok hrun
  intro hmem
  have hnot := h.ordered.order before after c opening hhanded hopening c' hmem
  rw [holder] at hnot
  cases hnot

/-- The peer resets the stream of the first channel; once the first channel has answered, a second
one reuses the stream. -/
def reuseSteps : List Step :=
  [.initSctpTransport, .commUp 1024, .callbackAssign, .callbackEnqueue, .sweepStart,
    .create [] {}, .check 0, .assign 0, .openCreated 0,
    .removeReset (DataChannel.resetMessage 0), .incomingReset,
    .create [] {}, .check 1, .assign 1, .openCreated 1, .close 1]

theorem reset_before_open_reuseSteps :
    ∃ t, Transition.run Threads.step (Threads.start .active) reuseSteps = some t ∧
      Transition.Meets Threads.step OpensAfterReset (Threads.start .active) reuseSteps ∧
      t.pc.handed =
        [(some 0, DataChannel.plainOpenMessage 0), (some 0, DataChannel.resetMessage 0),
          (some 1, DataChannel.plainOpenMessage 0), (some 1, DataChannel.resetMessage 0)] ∧
      t.pc.older 0 1 = true ∧
      (some 0, DataChannel.resetMessage 0) ∉ [(some 1, DataChannel.resetMessage 0)] := by
  have hok : Transition.Meets Threads.step OpensAfterReset (Threads.start .active) reuseSteps := by
    decide
  exact ⟨_, rfl, hok, by decide, by decide,
    reset_before_open rfl hok
      [(some 0, DataChannel.plainOpenMessage 0), (some 0, DataChannel.resetMessage 0)] _
      rfl rfl (by decide)⟩

/-- The second channel is assigned the stream and opened between `removeDataChannel` and `incoming`
of the first one, whose reset then follows the OPEN message of the second. -/
theorem reset_after_open_in_window :
    ∃ t, Transition.run Threads.step (Threads.start .active)
        [.initSctpTransport, .commUp 1024, .callbackAssign, .callbackEnqueue, .sweepStart,
          .create [] {}, .check 0, .assign 0, .openCreated 0,
          .removeReset (DataChannel.resetMessage 0),
          .create [] {}, .check 1, .assign 1, .openCreated 1,
          .incomingReset] = some t ∧
      t.pc.handed =
        [(some 0, DataChannel.plainOpenMessage 0), (some 1, DataChannel.plainOpenMessage 0),
          (some 0, DataChannel.resetMessage 0)] ∧
      t.pc.older 0 1 = true :=
  ⟨_, rfl, by decide, by decide⟩

end Rtc.PeerConnection
