import QuicRtc.Negotiation.Defs

/-!
# What the negotiation functions do

The specification of the calls of a peer that negotiates automatically and has a data channel.

* `Sound` is what all descriptions of such peers have: distinct mids and one application section,
  which is not removed.
* `lines` are the mids of the sections with their kinds. An answer has those of the remote
  description, an offer has them as a prefix.
* `Issues` and `Takes` say what the two locked sections do to a peer.
-/

namespace Rtc.Negotiation

open LocalDescription

/-! ## Sections -/

/-- The mid of a section, and whether it is an application section. -/
def line (entry : Entry) : String × Bool := (entry.mid, entry.isApplication)

/-- The media lines of a description. -/
def lines (mEntries : List Entry) : List (String × Bool) := mEntries.map line

/-- Distinct mids, and one application section, which is not removed. -/
structure Sound (mEntries : List Entry) : Prop where
  nodup : (mids mEntries).Nodup
  one : mEntries.countP Entry.isApplication = 1
  active : hasApplication mEntries = true

theorem lines_append (mEntries added : List Entry) :
    lines (mEntries ++ added) = lines mEntries ++ lines added := List.map_append

/-- The mids are part of the lines. -/
theorem map_fst_lines (mEntries : List Entry) : (lines mEntries).map Prod.fst = mids mEntries := by
  rw [lines, List.map_map]
  rfl

/-- A description whose lines come first is one whose mids come first. -/
theorem prefix_mids {mEntries mEntries' : List Entry} (h : lines mEntries <+: lines mEntries') :
    mids mEntries <+: mids mEntries' := by
  rw [← map_fst_lines, ← map_fst_lines]
  exact h.map Prod.fst

/-- The sections of a sound description are active ones. -/
theorem Sound.validate {d : Sdp} (h : Sound d.mEntries) : validateRemoteDescription d = none := by
  obtain ⟨entry, hmem, hactive⟩ := List.any_eq_true.1 h.active
  have hne : d.mEntries ≠ [] := List.ne_nil_of_mem hmem
  have hany : d.mEntries.any isActive = true := by
    apply List.any_eq_true.2
    refine ⟨entry, hmem, ?_⟩
    cases entry with
    | media => cases hactive
    | application => exact hactive
  simp [validateRemoteDescription, hne, hany]

section Answers

variable {env : Environment} {i : ℕ} {remote answered : List Entry}

/-- An answer has the lines of what it answers. -/
theorem lines_answered (h : AnswersAll env i remote answered) : lines answered = lines remote := by
  induction h with
  | nil => rfl
  | cons head _ ih =>
    rw [lines, List.map_cons, line, head.mid, head.isApplication]
    exact congrArg _ ih

/-- Where there is a data channel, the application section is answered by one that is not
removed. -/
theorem active_answered (h : AnswersAll env i remote answered)
    (hused : ∀ j, (env.tables j).isUsed = true) (hactive : hasApplication remote = true) :
    hasApplication answered = true := by
  obtain ⟨entry, hmem, hentry⟩ := List.any_eq_true.1 hactive
  obtain ⟨j, hj⟩ := List.mem_iff_getElem?.1 hmem
  obtain ⟨answer, hanswer, hanswers⟩ := h.exists_answer hj
  apply List.any_eq_true.2
  refine ⟨answer, hanswer, ?_⟩
  cases hanswers with
  | media => cases hentry
  | application _ hremoved =>
    rw [hused, Bool.not_true, Bool.and_false] at hremoved
    rw [Entry.isActiveApplication, hremoved]
    rfl

/-- The answer to a sound description is sound. -/
theorem sound_answered (h : AnswersAll env i remote answered)
    (hused : ∀ j, (env.tables j).isUsed = true) (hremote : Sound remote) : Sound answered where
  nodup := by
    rw [h.mids_eq]
    exact hremote.nodup
  one := h.countP_eq.trans hremote.one
  active := active_answered h hused hremote.active

end Answers

/-! ## Building a description -/

section Building

variable {s : State} {env : Environment}

/-- An answer is sound and has the lines of the remote description. -/
theorem processLocalDescription_answer (hkeyed : Keyed s)
    (hused : ∀ i, (env.tables i).isUsed = true) {remote : List Entry} (hremote : Sound remote) :
    ∃ mEntries, s.processLocalDescription env .answer (some remote) =
        ((State.reciprocate env 0 s [] remote).1, .ok mEntries) ∧
      mEntries = (State.reciprocate env 0 s [] remote).2 ∧ Sound mEntries ∧
        lines mEntries = lines remote := by
  obtain ⟨answered, heq, hanswers⟩ := reciprocate_spec env (i := 0) hkeyed
    (show ([] ++ remote).countP Entry.isApplication ≤ 1 from (Nat.le_of_eq hremote.one))
  have hne : answered ≠ [] := by
    apply hanswers.ne_nil
    rintro rfl
    cases hremote.active
  refine ⟨answered, ?_, heq.symm, sound_answered hanswers hused hremote, lines_answered hanswers⟩
  simp only [State.processLocalDescription, Option.getD_some]
  rw [heq, List.nil_append, if_neg (by decide), if_neg (by simpa using hne)]

/-- Without an active application section one is added for the data channels, under a new mid. -/
theorem addDataChannels_new (s : State) {tables : DataChannels} (hused : tables.isUsed = true)
    {mEntries : List Entry} (h : hasApplication mEntries = false) :
    ∃ app : Application, app.isRemoved = false ∧ app.mid ∉ mids mEntries ∧
      s.addDataChannels tables mEntries = removeApplication mEntries ++ [.application app] := by
  have hfree := hasMid_freeMid mEntries (fun k hk => absurd hk (Nat.not_lt_zero k))
    (Nat.zero_add _)
  refine ⟨s.localApplication (toString (State.freeMid mEntries mEntries.length 0)), rfl, ?_, ?_⟩
  · simpa [hasMid, mids, State.localApplication] using hfree
  · rw [State.addDataChannels, h, hused]
    rfl

/-- The sections of an offer are sound: the answers to the remote description, then what the tracks
add, and at most an application section behind them. -/
theorem sound_offer (s : State) {tables : DataChannels} (hused : tables.isUsed = true)
    {answered : List Entry} (hanswered : answered = [] ∨ Sound answered) :
    Sound (s.offer tables answered) ∧ ∃ apps : List Application, s.offer tables answered =
      s.mTrackLines.foldl s.addTrack answered ++ apps.map Entry.application := by
  obtain ⟨added, hfold, hmedia, hnodup⟩ := foldl_addTrack s s.mTrackLines answered
  have happ : hasApplication (answered ++ added) = hasApplication answered :=
    hasApplication_append hmedia
  unfold State.offer
  rw [hfold]
  rcases hanswered with rfl | hsound
  · -- there is no application section yet
    rw [List.nil_append] at happ hnodup ⊢
    obtain ⟨app, hremoved, hnew, heq⟩ := addDataChannels_new s hused happ
    rw [heq, removeApplication_eq_self hmedia]
    refine ⟨⟨nodup_mids_concat hnew (hnodup List.nodup_nil), ?_, ?_⟩, [app], rfl⟩
    · rw [List.countP_append, hmedia]
      rfl
    · rw [hasApplication, List.any_append, Bool.or_eq_true]
      right
      simp [Entry.isActiveApplication, hremoved]
  · have hsame : s.addDataChannels tables (answered ++ added) = answered ++ added := by
      rw [State.addDataChannels, happ, hsound.active]
      rfl
    rw [hsame]
    refine ⟨⟨hnodup hsound.nodup, ?_, happ.trans hsound.active⟩, [], (List.append_nil _).symm⟩
    rw [List.countP_append, hmedia, hsound.one]

/-- The tracks when the sections of an offer are added to the answers. -/
def offering (s : State) (env : Environment) (remote : List Entry) : State :=
  (State.reciprocate env 0 s [] remote).1.calls (env.between remote.length)

/-- The sections of an offer. -/
def offered (s : State) (env : Environment) (remote : List Entry) : List Entry :=
  (offering s env remote).offer (env.tables remote.length) (State.reciprocate env 0 s [] remote).2

/-- An offer is sound, and the lines of the remote description come first. -/
theorem processLocalDescription_offer (hkeyed : Keyed s)
    (hused : ∀ i, (env.tables i).isUsed = true) {remote : Option (List Entry)}
    (hremote : ∀ mEntries ∈ remote, Sound mEntries) :
    s.processLocalDescription env .offer remote =
        (offering s env (remote.getD []), .ok (offered s env (remote.getD []))) ∧
      Sound (offered s env (remote.getD [])) ∧
      lines (remote.getD []) <+: lines (offered s env (remote.getD [])) ∧
      ∃ apps : List Application, offered s env (remote.getD []) =
        (offering s env (remote.getD [])).mTrackLines.foldl
          (offering s env (remote.getD [])).addTrack
          (State.reciprocate env 0 s [] (remote.getD [])).2 ++ apps.map Entry.application := by
  have hone : ([] ++ remote.getD []).countP Entry.isApplication ≤ 1 := by
    cases remote with
    | none => exact Nat.zero_le 1
    | some mEntries => exact Nat.le_of_eq (hremote mEntries rfl).one
  obtain ⟨answered, heq, hanswers⟩ : ∃ answered,
      (State.reciprocate env 0 s [] (remote.getD [])).2 = [] ++ answered ∧
        AnswersAll env 0 (remote.getD []) answered := reciprocate_spec env hkeyed hone
  rw [List.nil_append] at heq
  have hanswered : answered = [] ∨ Sound answered := by
    cases remote with
    | none =>
      cases hanswers
      exact .inl rfl
    | some mEntries => exact .inr (sound_answered hanswers hused (hremote mEntries rfl))
  rw [← heq] at hanswered
  obtain ⟨hsound, apps, hoffer⟩ := sound_offer (offering s env (remote.getD []))
    (hused (remote.getD []).length) hanswered
  have hne : offered s env (remote.getD []) ≠ [] := fun hnil => by
    have hactive : hasApplication (offered s env (remote.getD [])) = true := hsound.active
    rw [hnil] at hactive
    cases hactive
  refine ⟨?_, hsound, ?_, apps, hoffer⟩
  · show (_, if (offered s env (remote.getD [])).isEmpty = true then _ else _) = _
    rw [if_neg (by simpa using hne)]
    rfl
  · obtain ⟨added, hfold, -, -⟩ := foldl_addTrack (offering s env (remote.getD []))
      (offering s env (remote.getD [])).mTrackLines
      (State.reciprocate env 0 s [] (remote.getD [])).2
    have hlines : lines (offered s env (remote.getD [])) = lines (remote.getD []) ++
        lines (added ++ apps.map Entry.application) := by
      rw [offered, hoffer, hfold, List.append_assoc, lines_append, heq, lines_answered hanswers]
    rw [hlines]
    exact List.prefix_append _ _

end Building

/-! ## The calls of a peer -/

namespace Peer

/-- A peer that negotiates automatically, with a remote description that is sound. -/
structure Ready (p : Peer) : Prop where
  auto : p.disableAutoNegotiation = false
  keyed : Keyed p.tracks
  remote : ∀ mEntries ∈ p.mRemoteDescription, Sound mEntries

/-- The sections of the remote description. -/
def remoteEntries (p : Peer) : List Entry := p.mRemoteDescription.getD []

/-- The sections of the local description. -/
def localEntries (p : Peer) : List Entry := p.mLocalDescription.getD []

/-- The peer after it issued a description. -/
def issue (p : Peer) (tracks : State) (type : Description.Kind) (mEntries : List Entry)
    (signalingState : SignalingState) : Peer :=
  { p with
    signalingState
    tracks
    mLocalDescription := some mEntries
    mCurrentLocalDescription :=
      if p.mLocalDescription.isSome then p.mLocalDescription else p.mCurrentLocalDescription
    issued := p.issued ++ [⟨type, mEntries⟩] }

/-- The peer after it took a remote description. -/
def take (p : Peer) (mEntries : List Entry) (signalingState : SignalingState) : Peer :=
  { p with mRemoteDescription := some mEntries, signalingState }

variable {p : Peer} {env : Environment} {around : Surroundings}

/-- A rollback touches the local descriptions only. -/
theorem rollbackLocalDescription_eq (p : Peer) :
    ∃ l c, p.rollbackLocalDescription =
      { p with mLocalDescription := l, mCurrentLocalDescription := c } := by
  unfold rollbackLocalDescription
  split
  · exact ⟨_, _, rfl⟩
  · exact ⟨_, _, rfl⟩

/-- A description that was built is issued. -/
theorem setLocalLocked_eq {type : Description.Kind} {state : SignalingState} {tracks : State}
    {mEntries : List Entry} (hrollback : type ≠ .rollback) (hunspec : type ≠ .unspec)
    (hnext : Signaling.nextLocalState p.signalingState type = .ok (some state))
    (h : p.tracks.processLocalDescription env type p.mRemoteDescription = (tracks, .ok mEntries)) :
    p.setLocalLocked env type = (p.issue tracks type mEntries state, .ok (some state)) := by
  have hprocess : p.processLocalDescription env type =
      (p.issue tracks type mEntries p.signalingState, none) := by
    rw [processLocalDescription, h]
    rfl
  simp only [setLocalLocked, if_neg hrollback, Signaling.guessType, if_neg hunspec, hnext, hprocess]
  rfl

/-- The peer after it made an offer. -/
def makeOffer (p : Peer) (env : Environment) : Peer :=
  p.issue (offering p.tracks env p.remoteEntries) .offer (offered p.tracks env p.remoteEntries)
    .haveLocalOffer

/-- The peer after it answered the remote description. -/
def makeAnswer (p : Peer) (env : Environment) : Peer :=
  p.issue (State.reciprocate env 0 p.tracks [] p.remoteEntries).1 .answer
    (State.reciprocate env 0 p.tracks [] p.remoteEntries).2 .stable

/-- The peer after automatic negotiation had its turn. -/
def resume (p : Peer) (around : Surroundings) : Peer :=
  if p.negotiationNeeded around.tables then p.makeOffer around.offering else p

/-- What a peer offers is sound and starts with the lines of the remote description. -/
theorem Ready.offered (h : p.Ready) (hused : ∀ i, (env.tables i).isUsed = true) :
    Sound (offered p.tracks env p.remoteEntries) ∧
      lines p.remoteEntries <+: lines (offered p.tracks env p.remoteEntries) :=
  (processLocalDescription_offer h.keyed hused h.remote).2.imp id And.left

/-- A stable peer makes an offer. -/
theorem Ready.setLocalLocked_offer (h : p.Ready) (hstate : p.signalingState = .stable)
    (hused : ∀ i, (env.tables i).isUsed = true) :
    p.setLocalLocked env .offer = (p.makeOffer env, .ok (some .haveLocalOffer)) := by
  apply setLocalLocked_eq (by decide) (by decide)
  · rw [hstate]
    rfl
  · exact (processLocalDescription_offer h.keyed hused h.remote).1

/-- An offer keeps the peer ready. -/
theorem Ready.makeOffer (h : p.Ready) (hused : ∀ i, (env.tables i).isUsed = true) :
    (p.makeOffer env).Ready where
  auto := h.auto
  keyed := by
    have hkeyed := (Preserves.processLocalDescription p.tracks env .offer p.mRemoteDescription).2
      h.keyed
    rwa [(processLocalDescription_offer h.keyed hused h.remote).1] at hkeyed
  remote := h.remote

/-- What a peer answers is sound and has the lines of the remote description. -/
theorem Ready.answered (h : p.Ready) (hused : ∀ i, (env.tables i).isUsed = true)
    (hremote : p.mRemoteDescription.isSome = true) :
    Sound (p.makeAnswer env).localEntries ∧
      lines (p.makeAnswer env).localEntries = lines p.remoteEntries := by
  obtain ⟨mEntries, hsome⟩ := Option.isSome_iff_exists.1 hremote
  obtain ⟨built, -, rfl, hsound, hlines⟩ :=
    processLocalDescription_answer h.keyed hused (h.remote mEntries hsome)
  have hentries : p.remoteEntries = mEntries := by rw [remoteEntries, hsome, Option.getD_some]
  rw [localEntries, Peer.makeAnswer, hentries]
  exact ⟨hsound, hlines⟩

/-- A peer with a remote offer answers it. -/
theorem Ready.setLocalLocked_answer (h : p.Ready) (hstate : p.signalingState = .haveRemoteOffer)
    (hused : ∀ i, (env.tables i).isUsed = true) (hremote : p.mRemoteDescription.isSome = true) :
    p.setLocalLocked env .answer = (p.makeAnswer env, .ok (some .stable)) := by
  obtain ⟨mEntries, hsome⟩ := Option.isSome_iff_exists.1 hremote
  obtain ⟨built, hbuilt, rfl, -, -⟩ :=
    processLocalDescription_answer h.keyed hused (h.remote mEntries hsome)
  have hentries : p.remoteEntries = mEntries := by rw [remoteEntries, hsome, Option.getD_some]
  rw [Peer.makeAnswer, hentries]
  apply setLocalLocked_eq (by decide) (by decide)
  · rw [hstate]
    rfl
  · rw [hsome]
    exact hbuilt

/-- An answer keeps the peer ready. -/
theorem Ready.makeAnswer (h : p.Ready) : (p.makeAnswer env).Ready where
  auto := h.auto
  keyed := (Preserves.reciprocate env 0 p.tracks [] p.remoteEntries).2 h.keyed
  remote := h.remote

/-- A sound remote description keeps the peer ready. -/
theorem Ready.take (h : p.Ready) {mEntries : List Entry} (hsound : Sound mEntries)
    (state : SignalingState) : (p.take mEntries state).Ready where
  auto := h.auto
  keyed := h.keyed
  remote := by
    rintro _ ⟨⟩
    exact hsound

/-- A stable peer makes an offer if that is needed. -/
theorem Ready.offerIfNeeded (h : p.Ready) (hstate : p.signalingState = .stable) :
    p.offerIfNeeded around = (p.resume around, none) := by
  unfold Peer.offerIfNeeded Peer.resume
  split
  · rw [h.setLocalLocked_offer hstate around.offering_isUsed]
  · rfl

/-- A stable peer makes an offer. -/
theorem Ready.setLocalDescription_offer (h : p.Ready) (hstate : p.signalingState = .stable) :
    p.setLocalDescription around .offer = (p.makeOffer around.processing, none) := by
  unfold Peer.setLocalDescription
  rw [h.setLocalLocked_offer hstate around.processing_isUsed]

/-- While an offer is pending another one is ignored. -/
theorem setLocalDescription_ignored (hstate : p.signalingState = .haveLocalOffer) :
    p.setLocalDescription around .offer = (p, none) := by
  have hlocked : p.setLocalLocked around.processing .offer = (p, .ok none) := by
    simp [setLocalLocked, Signaling.nextLocalState, hstate]
  rw [Peer.setLocalDescription, hlocked]

/-- A peer that is stable or has an offer pending, which it then rolls back, answers an offer. -/
theorem Ready.receiveOffer (h : p.Ready) (around : Surroundings) {d : Sdp} (hd : Sound d.mEntries)
    (htype : d.type = .offer)
    (hstate : p.signalingState = .stable ∨ p.signalingState = .haveLocalOffer) :
    ∃ t : Peer, t.Ready ∧ t.tracks = p.tracks ∧ t.issued = p.issued ∧
      (p.signalingState = .stable → t = p) ∧
      p.setRemoteDescription around d =
        (((t.take d.mEntries .haveRemoteOffer).makeAnswer around.processing).resume around,
          none) := by
  -- `t` is the state in which the offer is taken
  obtain ⟨t, ht, htracks, hissued, hsame, hnext⟩ : ∃ t : Peer, t.Ready ∧ t.tracks = p.tracks ∧
      t.issued = p.issued ∧ (p.signalingState = .stable → t = p) ∧
      p.nextRemoteState d = .ok (t, d, .haveRemoteOffer) := by
    rcases hstate with hstate | hstate
    · refine ⟨p, h, rfl, rfl, fun _ => rfl, ?_⟩
      simp [nextRemoteState, hstate, Sdp.hintType, htype]
    · obtain ⟨l, c, hrollback⟩ := p.rollbackLocalDescription_eq
      refine ⟨{ p with
        mLocalDescription := l
        mCurrentLocalDescription := c
        signalingState := .stable }, ⟨h.auto, h.keyed, h.remote⟩, rfl, rfl, ?_, ?_⟩
      · intro hstable
        rw [hstate] at hstable
        cases hstable
      · simp [nextRemoteState, hstate, Sdp.hintType, htype, hrollback]
  have htake := ht.take hd .haveRemoteOffer
  have hlocked : p.setRemoteLocked d =
      (t.take d.mEntries .haveRemoteOffer, .ok (some .haveRemoteOffer)) := by
    simp only [setRemoteLocked, htype, hd.validate, hnext]
    rfl
  refine ⟨t, ht, htracks, hissued, hsame, ?_⟩
  have hanswer : (t.take d.mEntries .haveRemoteOffer).setLocalDescription around .answer =
      (((t.take d.mEntries .haveRemoteOffer).makeAnswer around.processing).resume around,
        none) := by
    unfold Peer.setLocalDescription
    rw [htake.setLocalLocked_answer rfl around.processing_isUsed rfl]
    simp only [htake.makeAnswer.auto, Bool.false_eq_true, if_false]
    exact htake.makeAnswer.offerIfNeeded rfl
  unfold Peer.setRemoteDescription
  rw [hlocked]
  simp only [htake.auto, Bool.false_eq_true, if_false]
  exact hanswer

/-- A peer with an offer pending takes the answer. -/
theorem Ready.receiveAnswer (h : p.Ready) {d : Sdp} (hd : Sound d.mEntries)
    (htype : d.type = .answer) (hstate : p.signalingState = .haveLocalOffer) :
    p.setRemoteDescription around d = ((p.take d.mEntries .stable).resume around, none) := by
  have hlocked : p.setRemoteLocked d = (p.take d.mEntries .stable, .ok (some .stable)) := by
    have hnext : p.nextRemoteState d = .ok (p, d, .stable) := by
      simp [nextRemoteState, hstate, Sdp.hintType, htype]
    simp only [setRemoteLocked, htype, hd.validate, hnext]
    rfl
  have htake := h.take hd .stable
  unfold Peer.setRemoteDescription
  rw [hlocked]
  simp only [htake.auto, Bool.false_eq_true, if_false]
  exact htake.offerIfNeeded rfl

end Peer

end Rtc.Negotiation
