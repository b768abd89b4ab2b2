import Mathlib.Data.List.Nodup
import QuicRtc.Lib.Transition
import QuicRtc.LocalDescription.Defs

/-!
# The order of the media lines

The sections of a local description keep the mids of the remote description, in its order. The mids
in `mTracks` are those of the tracks they lead to, which `Track::setDescription` preserves, so each
section is answered under its own mid whatever happened to the tracks.

The exception is a removed application section. `hasApplication` does not see it, and `addMedia` of
a new application section erases it. This happens when an offer is made and the first data channel
is created between the answer to that section and the application section of the offer.

* `Keyed`: the invariant of `mTracks`.
* `MLines`: the mids of a local description.
* `mLines_iff`: they are as they should exactly when no removed application is answered before the
  first data channel of an offer is created.
-/

namespace Rtc.LocalDescription

/-! ## The registered tracks -/

/-- `Track::mid`. -/
def State.trackMid (s : State) (track : ℕ) : Option String :=
  s.tracks[track]?.map fun t => t.description.mid

/-- A track registered under a mid has this mid. -/
def Keyed (s : State) : Prop :=
  ∀ mid track, s.mTracks.lookup mid = some track → s.trackMid track = some mid

/-- No track is forgotten, and all keep their mids. -/
def SameMids (s s' : State) : Prop :=
  ∀ track mid, s.trackMid track = some mid → s'.trackMid track = some mid

/-- A call keeps the invariant and the mids. -/
def Preserves (s s' : State) : Prop := SameMids s s' ∧ (Keyed s → Keyed s')

namespace Preserves

variable {s s' s'' : State}

theorem refl (s : State) : Preserves s s := ⟨fun _ _ => id, id⟩

theorem trans (h : Preserves s s') (h' : Preserves s' s'') : Preserves s s'' :=
  ⟨fun track mid hmid => h'.1 track mid (h.1 track mid hmid), fun hkeyed => h'.2 (h.2 hkeyed)⟩

/-- Calls that neither register tracks nor change mids. -/
theorem of_sameMids (hmids : SameMids s s') (hmTracks : s'.mTracks = s.mTracks) :
    Preserves s s' := by
  refine ⟨hmids, fun hkeyed mid track hlookup => ?_⟩
  rw [hmTracks] at hlookup
  exact hmids track mid (hkeyed mid track hlookup)

/-- Changing one track without its mid. -/
theorem modify (s : State) (track : ℕ) {f : Track → Track}
    (hf : ∀ t, (f t).description.mid = t.description.mid) :
    Preserves s { s with tracks := s.tracks.modify track f } := by
  refine of_sameMids (fun track' mid hmid => ?_) rfl
  -- only the track that is changed needs the hypothesis
  obtain ⟨t, ht, rfl⟩ := Option.map_eq_some_iff.1 hmid
  by_cases h : track = track'
  · simp [State.trackMid, h, ht, hf]
  · simp [State.trackMid, h, ht]

theorem setDescription (s : State) (track : ℕ) (description : Media) :
    Preserves s (s.setDescription track description) := by
  refine modify s track fun t => ?_
  split
  · next hmid => exact hmid
  · rfl

theorem close (s : State) (track : ℕ) : Preserves s (s.close track) :=
  modify s track fun _ => rfl

theorem destroy (s : State) (track : ℕ) : Preserves s (s.destroy track) :=
  modify s track fun _ => rfl

theorem closeRemoved (s : State) (track : ℕ) : Preserves s (s.closeRemoved track) := by
  unfold State.closeRemoved
  split
  · exact close s track
  · exact refl s

/-- A new track is registered under its mid, unless another one already is. -/
theorem makeTrack (s : State) (description : Media) : Preserves s (s.makeTrack description) := by
  have hmids : SameMids s (s.makeTrack description) := by
    intro track mid hmid
    obtain ⟨t, ht, rfl⟩ := Option.map_eq_some_iff.1 hmid
    -- the older tracks keep their numbers
    have hlt : track < s.tracks.length := (List.getElem?_eq_some_iff.1 ht).1
    simp [State.trackMid, State.makeTrack, List.getElem?_append_left hlt, ht]
  refine ⟨hmids, fun hkeyed mid track hlookup => ?_⟩
  simp only [State.makeTrack] at hlookup
  split at hlookup
  · exact hmids track mid (hkeyed mid track hlookup)
  · simp only [List.lookup_cons] at hlookup
    split at hlookup
    · next hmid =>
      -- the new entry leads to the new track
      obtain rfl : s.tracks.length = track := by simpa using hlookup
      obtain rfl : mid = description.mid := by simpa using hmid
      simp [State.trackMid, State.makeTrack]
    · exact hmids track mid (hkeyed mid track hlookup)

theorem emplaceTrack (s : State) (description : Media) :
    Preserves s (s.emplaceTrack description) := by
  unfold State.emplaceTrack
  dsimp only
  split
  · exact (setDescription s _ _).trans (closeRemoved _ _)
  · exact (makeTrack s _).trans (closeRemoved _ _)

theorem call (s : State) (c : TrackCall) : Preserves s (s.call c) := by
  cases c with
  | emplaceTrack description => exact emplaceTrack s description
  | setDescription track description => exact setDescription s track description
  | close track => exact close s track
  | destroy track => exact destroy s track

theorem calls (s : State) (cs : List TrackCall) : Preserves s (s.calls cs) := by
  induction cs generalizing s with
  | nil => exact refl s
  -- on the calls, from the first one on
  | cons c cs ih => exact (call s c).trans (ih (s.call c))

theorem incomingTrack (s : State) (callback : List TrackCall) (remoteMedia : Media) :
    Preserves s (s.incomingTrack callback remoteMedia) :=
  (makeTrack s _).trans ((calls _ callback).trans (closeRemoved _ _))

theorem answer (s : State) (env : Environment) (i : ℕ) (mEntries : List Entry) (r : Entry) :
    Preserves s (s.answer env i mEntries r).1 := by
  cases r with
  | application remoteApp => exact refl s
  | media remoteMedia =>
    simp only [State.answer]
    split
    · split
      · exact refl s
      · exact refl s
    · exact incomingTrack s _ _

theorem reciprocate (env : Environment) (i : ℕ) (s : State) (mEntries remote : List Entry) :
    Preserves s (State.reciprocate env i s mEntries remote).1 := by
  induction remote generalizing i s mEntries with
  | nil => exact refl s
  | cons r remote ih => exact ((calls s _).trans (answer _ env i mEntries r)).trans (ih _ _ _)

theorem processLocalDescription (s : State) (env : Environment) (type : Description.Kind)
    (remote : Option (List Entry)) : Preserves s (s.processLocalDescription env type remote).1 := by
  unfold State.processLocalDescription
  dsimp only
  split
  · exact (reciprocate env 0 s [] _).trans (calls _ _)
  · exact reciprocate env 0 s [] _

end Preserves

/-! ## The answers to the sections -/

/-- `answered` answers a section, given the data-channel tables at that time. -/
inductive Answers (tables : DataChannels) : Entry → Entry → Prop
  | media {m answered : Media} (hmid : answered.mid = m.mid) :
    Answers tables (.media m) (.media answered)
  | application {app answered : Application} (hmid : answered.mid = app.mid)
    (hremoved : answered.isRemoved = (app.isRemoved && !tables.isUsed)) :
    Answers tables (.application app) (.application answered)

/-- The answers to the sections from section `i` on. -/
inductive AnswersAll (env : Environment) : ℕ → List Entry → List Entry → Prop
  | nil {i : ℕ} : AnswersAll env i [] []
  | cons {i : ℕ} {r e : Entry} {remote answered : List Entry} (head : Answers (env.tables i) r e)
    (tail : AnswersAll env (i + 1) remote answered) : AnswersAll env i (r :: remote) (e :: answered)

namespace Answers

variable {tables : DataChannels} {r e : Entry}

theorem mid (h : Answers tables r e) : e.mid = r.mid := by
  cases h with
  | media hmid => exact hmid
  | application hmid => exact hmid

theorem isApplication (h : Answers tables r e) : e.isApplication = r.isApplication := by
  cases h with
  | media => rfl
  | application => rfl

end Answers

namespace AnswersAll

variable {env : Environment} {i : ℕ} {remote answered : List Entry}

theorem mids_eq (h : AnswersAll env i remote answered) : mids answered = mids remote := by
  induction h with
  | nil => rfl
  | cons head _ ih => simpa [mids, head.mid] using ih

theorem countP_eq (h : AnswersAll env i remote answered) :
    answered.countP Entry.isApplication = remote.countP Entry.isApplication := by
  induction h with
  | nil => rfl
  | cons head _ ih => simp [List.countP_cons, head.isApplication, ih]

/-- The answer to a section. -/
theorem exists_answer (h : AnswersAll env i remote answered) {j : ℕ} {r : Entry}
    (hr : remote[j]? = some r) : ∃ e ∈ answered, Answers (env.tables (i + j)) r e := by
  induction h generalizing j with
  | nil => cases hr
  | cons head _ ih =>
    cases j with
    | zero =>
      obtain rfl := Option.some.inj hr
      exact ⟨_, List.mem_cons_self, head⟩
    | succ j =>
      obtain ⟨e, he, hanswers⟩ := ih hr
      exact ⟨e, List.mem_cons_of_mem _ he, by rwa [Nat.add_right_comm] at hanswers⟩

/-- The section that is answered. -/
theorem exists_section (h : AnswersAll env i remote answered) {e : Entry} (he : e ∈ answered) :
    ∃ j r, remote[j]? = some r ∧ Answers (env.tables (i + j)) r e := by
  induction h with
  | nil => cases he
  | cons head _ ih =>
    rcases List.mem_cons.1 he with rfl | he
    · exact ⟨0, _, rfl, head⟩
    · obtain ⟨j, r, hr, hanswers⟩ := ih he
      exact ⟨j + 1, r, hr, by rwa [Nat.add_right_comm] at hanswers⟩

end AnswersAll

/-- Without an application section there is nothing to remove. -/
theorem removeApplication_eq_self {mEntries : List Entry}
    (h : mEntries.countP Entry.isApplication = 0) : removeApplication mEntries = mEntries := by
  rw [List.countP_eq_zero] at h
  exact List.eraseP_of_forall_not h

/-- The description of a new track has the mid of the section, whatever the callback did. -/
theorem trackMid_incomingTrack (s : State) (callback : List TrackCall) (remoteMedia : Media) :
    (s.incomingTrack callback remoteMedia).trackMid s.tracks.length = some remoteMedia.mid := by
  refine (Preserves.closeRemoved _ _).1 _ _ ((Preserves.calls _ callback).1 _ _ ?_)
  simp only [State.trackMid, State.makeTrack, List.getElem?_concat_length, Option.map_some]
  split <;> rfl

/-- Every section is answered under its mid. -/
theorem answer_spec {s : State} (hkeyed : Keyed s) (env : Environment) (i : ℕ)
    {mEntries : List Entry} {r : Entry}
    (hone : r.isApplication = true → mEntries.countP Entry.isApplication = 0) :
    ∃ e, (s.answer env i mEntries r).2 = mEntries ++ [e] ∧ Answers (env.tables i) r e := by
  cases r with
  | application remoteApp =>
    refine ⟨.application (s.answerApplication (env.tables i) remoteApp), ?_, ?_⟩
    · -- the first application section, so that none is replaced
      simp [State.answer, addApplication, removeApplication_eq_self (hone rfl)]
    · refine .application ?_ ?_
      · unfold State.answerApplication
        split <;> rfl
      · unfold State.answerApplication
        split
        · next hused => simp [State.localApplication, hused]
        · next hunused =>
          simp [Application.hintSctpPort, Application.reciprocate, hunused]
  | media remoteMedia =>
    simp only [State.answer]
    split
    · next track hlookup =>
      -- a registered track has the mid it is registered under
      have hmid := hkeyed _ _ hlookup
      split
      · next t hlock =>
        have ht : s.tracks[track]? = some t := (Option.filter_eq_some_iff.1 hlock).1
        refine ⟨_, rfl, .media ?_⟩
        simpa [State.trackMid, ht] using hmid
      · exact ⟨_, rfl, .media rfl⟩
    · refine ⟨_, rfl, .media ?_⟩
      -- so does the new track, after its callback
      have hmid := trackMid_incomingTrack s (env.callback i) remoteMedia
      obtain ⟨t, ht, hmid⟩ := Option.map_eq_some_iff.1 hmid
      simpa [ht] using hmid

/-- The whole remote description is answered, in order. -/
theorem reciprocate_spec (env : Environment) {remote : List Entry} {i : ℕ} {s : State}
    {mEntries : List Entry} (hkeyed : Keyed s)
    (hone : (mEntries ++ remote).countP Entry.isApplication ≤ 1) :
    ∃ answered, (State.reciprocate env i s mEntries remote).2 = mEntries ++ answered ∧
      AnswersAll env i remote answered := by
  induction remote generalizing i s mEntries with
  | nil => exact ⟨[], by simp [State.reciprocate], .nil⟩
  | cons r remote ih =>
    have hbetween := Preserves.calls s (env.between i)
    have hstep := hbetween.trans (Preserves.answer _ env i mEntries r)
    have hnone : r.isApplication = true → mEntries.countP Entry.isApplication = 0 := by
      intro hr
      simp only [List.countP_append, List.countP_cons, hr, if_true] at hone
      omega
    obtain ⟨e, heq, he⟩ := answer_spec (hbetween.2 hkeyed) env i hnone
    -- an application section is answered by one, so their number stays
    have hone' : ((mEntries ++ [e]) ++ remote).countP Entry.isApplication ≤ 1 := by
      simpa [List.countP_append, List.countP_cons, he.isApplication, Nat.add_assoc, Nat.add_comm]
        using hone
    obtain ⟨answered, hanswered, hall⟩ := ih (i := i + 1) (hstep.2 hkeyed) hone'
    refine ⟨e :: answered, ?_, .cons he hall⟩
    have hcons : State.reciprocate env i s mEntries (r :: remote) =
        State.reciprocate env (i + 1) ((s.calls (env.between i)).answer env i mEntries r).1
          ((s.calls (env.between i)).answer env i mEntries r).2 remote := rfl
    rw [hcons, heq]
    simpa using hanswered

/-! ## The sections added to an offer -/

theorem nodup_mids_concat {mEntries : List Entry} {e : Entry} (hnew : e.mid ∉ mids mEntries)
    (h : (mids mEntries).Nodup) : (mids (mEntries ++ [e])).Nodup := by
  have hconcat := List.Nodup.concat hnew h
  rw [List.concat_eq_append] at hconcat
  simpa [mids] using hconcat

/-- A local track adds a section under a mid that was not in use, or none. -/
theorem addTrack_cases (s : State) (mEntries : List Entry) (track : ℕ) :
    s.addTrack mEntries track = mEntries ∨
      ∃ media, media.mid ∉ mids mEntries ∧
        s.addTrack mEntries track = mEntries ++ [.media media] := by
  unfold State.addTrack
  split
  · next t _ =>
    split
    · exact Or.inl rfl
    · next hmid => exact Or.inr ⟨t.description, by simpa [hasMid, mids] using hmid, rfl⟩
  · exact Or.inl rfl

/-- The sections of the local tracks come behind. -/
theorem foldl_addTrack (s : State) (lines : List ℕ) (mEntries : List Entry) :
    ∃ added, lines.foldl s.addTrack mEntries = mEntries ++ added ∧
      added.countP Entry.isApplication = 0 ∧
      ((mids mEntries).Nodup → (mids (mEntries ++ added)).Nodup) := by
  induction lines generalizing mEntries with
  | nil => exact ⟨[], by simp, rfl, by simp⟩
  | cons track lines ih =>
    obtain ⟨added, heq, hmedia, hnodup⟩ := ih (s.addTrack mEntries track)
    rw [List.foldl_cons, heq]
    -- what is added is a media section under a new mid, if anything
    rcases addTrack_cases s mEntries track with hsame | ⟨media, hnew, hadd⟩
    · rw [hsame] at hnodup ⊢
      exact ⟨added, rfl, hmedia, hnodup⟩
    · rw [hadd] at hnodup ⊢
      refine ⟨.media media :: added, by simp, by simpa [Entry.isApplication] using hmedia, ?_⟩
      intro hentries
      simpa using hnodup (nodup_mids_concat hnew hentries)

theorem toString_injective : Function.Injective (toString : ℕ → String) := by
  intro m n h
  have hdigits : Nat.toDigits 10 m = Nat.toDigits 10 n := by
    simpa [Nat.repr] using congrArg String.toList h
  simpa using congrArg (fun digits => Nat.ofDigitChars 10 digits 0) hdigits

/-- The search for a free mid ends: the sections cannot use one mid more than there are. -/
theorem hasMid_freeMid (mEntries : List Entry) {rounds m : ℕ}
    (hused : ∀ k < m, hasMid mEntries (toString k) = true)
    (hrounds : m + rounds = mEntries.length) :
    hasMid mEntries (toString (State.freeMid mEntries rounds m)) = false := by
  induction rounds generalizing m with
  | zero =>
    by_contra htaken
    -- `m + 1` different mids among `m` sections
    have hall : ((List.range (m + 1)).map toString) ⊆ mids mEntries := by
      intro mid hmid
      obtain ⟨k, hk, rfl⟩ := List.mem_map.1 hmid
      have htaken : hasMid mEntries (toString k) = true := by
        rcases Nat.lt_succ_iff_lt_or_eq.1 (List.mem_range.1 hk) with hlt | rfl
        · exact hused k hlt
        · simpa [State.freeMid] using htaken
      simpa [hasMid, mids] using htaken
    have hnodup : ((List.range (m + 1)).map (toString : ℕ → String)).Nodup :=
      (List.nodup_map_iff toString_injective).2 List.nodup_range
    have hlength := hnodup.length_le_of_subset hall
    simp only [List.length_map, List.length_range, mids] at hlength
    omega
  | succ rounds ih =>
    unfold State.freeMid
    split
    · next htaken =>
      -- the mid `m` is taken too, with a round less to go
      refine ih (fun k hk => ?_) (by omega)
      rcases Nat.lt_succ_iff_lt_or_eq.1 hk with hlt | rfl
      · exact hused k hlt
      · exact htaken
    · next hfree => simpa using hfree

/-- The application section of an offer: there is one already, none is needed, or it is added under
a mid that was not in use, in place of a removed one. -/
theorem addDataChannels_cases (s : State) (tables : DataChannels) (mEntries : List Entry) :
    ((hasApplication mEntries = true ∨ tables.isUsed = false) ∧
        s.addDataChannels tables mEntries = mEntries) ∨
      ∃ app, hasApplication mEntries = false ∧ tables.isUsed = true ∧ app.mid ∉ mids mEntries ∧
        s.addDataChannels tables mEntries =
          removeApplication mEntries ++ [.application app] := by
  unfold State.addDataChannels
  split
  · next happ => exact Or.inl ⟨Or.inl happ, rfl⟩
  · next happ =>
    split
    · next hused =>
      right
      refine ⟨_, by simpa using happ, hused, ?_, rfl⟩
      have hfree := hasMid_freeMid mEntries (fun k hk => absurd hk (Nat.not_lt_zero k))
        (Nat.zero_add _)
      simpa [hasMid, mids, State.localApplication] using hfree
    · next hunused => exact Or.inl ⟨Or.inr (by simpa using hunused), rfl⟩

/-! ## The media lines of a local description -/

/-- The mids of a local description `d` for a remote description. -/
structure MLines (type : Description.Kind) (remote d : List Entry) : Prop where
  answer : type ≠ .offer → mids d = mids remote
  offer : type = .offer → mids remote <+: mids d
  nodup : (mids d).Nodup

/-- When a removed application section is answered while there is no data channel, there is none
either when the application section of an offer is added. -/
def KeepsApplication (env : Environment) (type : Description.Kind) (remote : List Entry) : Prop :=
  type = .offer → ∀ i app, remote[i]? = some (.application app) → app.isRemoved = true →
    (env.tables i).isUsed = false → (env.tables remote.length).isUsed = false

variable {env : Environment} {remote answered added : List Entry}

/-- Where the condition is met, an application section that an offer does not count is none. -/
theorem countP_eq_zero_of_keepsApplication (hanswers : AnswersAll env 0 remote answered)
    (hkeeps : KeepsApplication env .offer remote)
    (hused : (env.tables remote.length).isUsed = true)
    (happ : hasApplication answered = false) :
    answered.countP Entry.isApplication = 0 := by
  rw [List.countP_eq_zero]
  intro e he hisApp
  obtain ⟨j, r, hr, hanswer⟩ := hanswers.exists_section he
  rw [Nat.zero_add] at hanswer
  cases hanswer with
  | media => cases hisApp
  | @application app answered hmid hremoved =>
    -- it is removed in the answer, so there was no data channel when it was answered
    have hactive : answered.isRemoved = true := by
      simpa [Entry.isActiveApplication] using List.any_eq_false.1 happ _ he
    rw [hactive] at hremoved
    simp only [Bool.true_eq, Bool.and_eq_true, Bool.not_eq_true'] at hremoved
    -- then there is none now either, against `hused`
    have hunused := hkeeps rfl j app hr hremoved.1 hremoved.2
    rw [hused] at hunused
    cases hunused

theorem hasApplication_append (hadded : added.countP Entry.isApplication = 0) :
    hasApplication (answered ++ added) = hasApplication answered := by
  rw [List.countP_eq_zero] at hadded
  have hnone : hasApplication added = false := by
    rw [hasApplication, List.any_eq_false]
    intro e he hactive
    refine hadded e he ?_
    cases e with
    | media => exact hactive
    | application => rfl
  rw [hasApplication, List.any_append]
  rw [hasApplication] at hnone ⊢
  rw [hnone, Bool.or_false]

/-- Where the condition is not met, the application section of the offer takes the place of a
section of the remote description. -/
theorem exists_lost_of_not_keepsApplication {type : Description.Kind}
    (hanswers : AnswersAll env 0 remote answered)
    (hone : remote.countP Entry.isApplication ≤ 1)
    (hmiss : ¬KeepsApplication env type remote) :
    type = .offer ∧ (env.tables remote.length).isUsed = true ∧ hasApplication answered = false ∧
      ∃ pre app post, answered = pre ++ .application app :: post ∧
        pre.countP Entry.isApplication = 0 := by
  unfold KeepsApplication at hmiss
  push Not at hmiss
  obtain ⟨htype, i, app, hi, hremoved, hunused, hused⟩ := hmiss
  obtain ⟨e, he, hanswer⟩ := hanswers.exists_answer hi
  cases hanswer with
  | @application _ answeredApp hmid hisRemoved =>
    rw [Nat.zero_add, hremoved, hunused] at hisRemoved
    obtain ⟨pre, post, rfl⟩ := List.append_of_mem he
    have hcount := hanswers.countP_eq
    simp only [List.countP_append, List.countP_cons, Entry.isApplication, if_true] at hcount
    -- it is the only application section
    have hpre : pre.countP Entry.isApplication = 0 := by omega
    have hpost : post.countP Entry.isApplication = 0 := by omega
    refine ⟨htype, by simpa using hused, ?_, pre, answeredApp, post, rfl, hpre⟩
    have hsplit : pre ++ Entry.application answeredApp :: post =
        (pre ++ [.application answeredApp]) ++ post := by simp
    rw [hsplit, hasApplication_append hpost]
    have hpreNone : hasApplication ([] ++ pre) = hasApplication [] := hasApplication_append hpre
    rw [List.nil_append] at hpreNone
    simpa [hasApplication, Entry.isActiveApplication, hisRemoved] using hpreNone

theorem mids_append (mEntries added : List Entry) :
    mids (mEntries ++ added) = mids mEntries ++ mids added := List.map_append

/-- The mid of a section is that of no other. -/
theorem mid_notMem_of_nodup {pre rest : List Entry} {e : Entry}
    (h : (mids (pre ++ e :: rest)).Nodup) : e.mid ∉ mids (pre ++ rest) := by
  have hcons : mids (e :: rest) = e.mid :: mids rest := rfl
  rw [mids_append, hcons, List.nodup_middle] at h
  rw [mids_append]
  exact (List.nodup_cons.1 h).1

/-- The sections of an offer. -/
def State.offer (s : State) (tables : DataChannels) (answered : List Entry) : List Entry :=
  s.addDataChannels tables (s.mTrackLines.foldl s.addTrack answered)

/-- An offer has the mids of the remote description as a prefix exactly when the condition is
met. -/
theorem mLines_offer_iff (s : State) (hanswers : AnswersAll env 0 remote answered)
    (hnodup : (mids remote).Nodup) (hone : remote.countP Entry.isApplication ≤ 1) :
    MLines .offer remote (s.offer (env.tables remote.length) answered) ↔
      KeepsApplication env .offer remote := by
  obtain ⟨added, hfold, hmedia, hadded⟩ := foldl_addTrack s s.mTrackLines answered
  have hdistinct : (mids (answered ++ added)).Nodup := by
    rw [← hanswers.mids_eq] at hnodup
    exact hadded hnodup
  have hprefix : mids remote <+: mids (answered ++ added) := by
    rw [mids_append, hanswers.mids_eq]
    exact List.prefix_append _ _
  unfold State.offer
  rw [hfold]
  constructor
  · intro hlines
    by_contra hmiss
    obtain ⟨-, hused, happ, pre, lost, post, rfl, hpre⟩ :=
      exists_lost_of_not_keepsApplication hanswers hone hmiss
    rcases addDataChannels_cases s (env.tables remote.length)
        (pre ++ .application lost :: post ++ added) with ⟨hsame, -⟩ | ⟨app, -, -, hnew, heq⟩
    · rw [hasApplication_append hmedia, happ, hused] at hsame
      simp at hsame
    · -- the lost mid is neither that of another section nor the new one
      have hremove : removeApplication (pre ++ .application lost :: post ++ added) =
          pre ++ (post ++ added) := by
        rw [List.countP_eq_zero] at hpre
        rw [List.append_assoc, removeApplication, List.eraseP_append_right _ hpre]
        rfl
      have hmem : lost.mid ∈ mids remote := by
        rw [← hanswers.mids_eq]
        simp [mids, Entry.mid]
      have hmem' := (hlines.offer rfl).subset hmem
      rw [heq, hremove, mids_append, List.mem_append] at hmem'
      rcases hmem' with hother | hown
      · rw [List.append_assoc, List.cons_append] at hdistinct
        exact mid_notMem_of_nodup hdistinct hother
      · have hsame : lost.mid = app.mid := by simpa [mids, Entry.mid] using hown
        refine hnew ?_
        rw [← hsame]
        simp [mids, Entry.mid]
  · -- nothing is replaced: there is no application section, or it is active
    intro hkeeps
    rcases addDataChannels_cases s (env.tables remote.length) (answered ++ added) with
      ⟨-, hsame⟩ | ⟨app, happ, hused, hnew, heq⟩
    · rw [hsame]
      exact ⟨fun hne => absurd rfl hne, fun _ => hprefix, hdistinct⟩
    · rw [hasApplication_append hmedia] at happ
      have hnone := countP_eq_zero_of_keepsApplication hanswers hkeeps hused happ
      have hkept : removeApplication (answered ++ added) = answered ++ added :=
        removeApplication_eq_self (by rw [List.countP_append, hnone, hmedia])
      rw [heq, hkept]
      refine ⟨fun hne => absurd rfl hne, fun _ => ?_, nodup_mids_concat hnew hdistinct⟩
      rw [mids_append]
      exact hprefix.trans (List.prefix_append _ _)

/-- An offer that answers a section has one. -/
theorem offer_ne_nil (s : State) (tables : DataChannels) (hne : answered ≠ []) :
    s.offer tables answered ≠ [] := by
  obtain ⟨added, hfold, -⟩ := foldl_addTrack s s.mTrackLines answered
  unfold State.offer
  rw [hfold]
  rcases addDataChannels_cases s tables (answered ++ added) with ⟨-, hsame⟩ | ⟨app, -, -, -, heq⟩
  · rw [hsame]
    simp [hne]
  · rw [heq]
    simp

theorem AnswersAll.ne_nil {i : ℕ} (h : AnswersAll env i remote answered) (hne : remote ≠ []) :
    answered ≠ [] := by
  cases h with
  | nil => exact absurd rfl hne
  | cons => simp

/-- The final check, on sections that are as they should exactly when the condition is met. -/
theorem checked_iff {type : Description.Kind} {built : List Entry} (e : Exception)
    (hne : remote ≠ [] → built ≠ [])
    (hiff : MLines type remote built ↔ KeepsApplication env type remote) :
    (remote ≠ [] → ∃ d, (if built.isEmpty then .error e else .ok built) = Except.ok d) ∧
      ((∀ d, (if built.isEmpty then .error e else .ok built) = Except.ok d →
          MLines type remote d) ↔ KeepsApplication env type remote) := by
  by_cases hempty : built = []
  · have hremote : remote = [] := by
      by_contra hsome
      exact hne hsome hempty
    -- an empty result is an exception, and then there was nothing to keep
    subst hempty hremote
    simp [KeepsApplication]
  · simpa [hempty] using hiff

/-! ## Every negotiation -/

/-- The invariant of `mTracks` holds after every history of tracks and negotiations. -/
theorem keyed_of_run {s s' : State} {events : List State.Event} (h : Keyed s)
    (hrun : Transition.run State.step s events = some s') : Keyed s' := by
  refine Transition.run_invariant_all (fun s e s' hkeyed hstep => ?_) h hrun
  cases e with
  | track c =>
    cases hstep
    exact (Preserves.call s c).2 hkeyed
  | negotiate env type remote =>
    cases hstep
    exact (Preserves.processLocalDescription s env type remote).2 hkeyed

/-- After every history of tracks and negotiations, for every remote description with distinct mids
and at most one application section: a description is built if the remote one has a section, an
answer has the mids of the remote description in their order, an offer has them as a prefix, and all
mids are distinct, exactly when no removed application section is answered before the first data
channel of an offer is created. -/
theorem mLines_iff {enableMedia : Bool} {maxMessageSize : Option ℕ} {events : List State.Event}
    {s : State} (hrun : Transition.run State.step { enableMedia, maxMessageSize } events = some s)
    (env : Environment) (type : Description.Kind) {remote : List Entry}
    (hnodup : (mids remote).Nodup) (hone : remote.countP Entry.isApplication ≤ 1) :
    (remote ≠ [] → ∃ d, (s.processLocalDescription env type (some remote)).2 = .ok d) ∧
      ((∀ d, (s.processLocalDescription env type (some remote)).2 = .ok d →
          MLines type remote d) ↔ KeepsApplication env type remote) := by
  have hkeyed : Keyed s := by
    refine keyed_of_run (fun mid track hlookup => ?_) hrun
    simp at hlookup
  obtain ⟨answered, heq, hanswers⟩ :
      ∃ answered, (State.reciprocate env 0 s [] remote).2 = [] ++ answered ∧
        AnswersAll env 0 remote answered := reciprocate_spec env hkeyed hone
  rw [List.nil_append] at heq
  by_cases htype : type = .offer
  · subst htype
    simp only [State.processLocalDescription, Option.getD_some, if_true, heq]
    exact checked_iff _ (fun hne => offer_ne_nil _ _ (hanswers.ne_nil hne))
      (mLines_offer_iff _ hanswers hnodup hone)
  · simp only [State.processLocalDescription, Option.getD_some, if_neg htype, heq]
    refine checked_iff _ hanswers.ne_nil ⟨fun _ hoffer => absurd hoffer htype, fun _ => ?_⟩
    refine ⟨fun _ => hanswers.mids_eq, fun hoffer => absurd hoffer htype, ?_⟩
    rw [hanswers.mids_eq]
    exact hnodup

/-- Two tracks, one of which is destroyed and replaced by another one of the same mid. -/
def replacedTrack : List State.Event :=
  [.track (.emplaceTrack { mid := "audio" }), .track (.emplaceTrack { mid := "video" }),
    .track (.destroy 1), .track (.emplaceTrack { mid := "video" })]

/-- A remote description that uses the mid of both, with a removed application section. -/
def videoSections : List Entry :=
  [.media { mid := "video" }, .application { mid := "0", isRemoved := true },
    .media { mid := "1" }]

/-- An offer after that: the remote sections first, then the track they do not have. -/
theorem mLines_iff_replacedTrack :
    ∃ s, Transition.run State.step {} replacedTrack = some s ∧
      ∃ d, (s.processLocalDescription { tables := fun _ => { mDataChannels := [1] } } .offer
          (some videoSections)).2 = .ok d ∧
        mids d = ["video", "0", "1", "audio"] ∧ MLines .offer videoSections d := by
  have hrun : ∃ s, Transition.run State.step {} replacedTrack = some s ∧
      ∃ d, (s.processLocalDescription { tables := fun _ => { mDataChannels := [1] } } .offer
          (some videoSections)).2 = .ok d ∧
        mids d = ["video", "0", "1", "audio"] := ⟨_, rfl, _, rfl, by decide⟩
  obtain ⟨s, hrun, d, hd, hmids⟩ := hrun
  have hnodup : (mids videoSections).Nodup := by decide
  have hone : videoSections.countP Entry.isApplication ≤ 1 := by decide
  have hiff := (mLines_iff hrun { tables := fun _ => { mDataChannels := [1] } } .offer
    hnodup hone).2
  exact ⟨s, hrun, d, hd, hmids, hiff.2 (fun _ _ _ _ _ hunused => hunused) d hd⟩

/-- The track callback creates the first data channel. The removed application section `0`, which
has been answered, is lost. -/
theorem loses_removed_application :
    ∃ d, (({} : State).processLocalDescription
        { tables := fun i => if i < 2 then {} else { mUnassignedDataChannels := 1 } } .offer
        (some [.application { mid := "0", isRemoved := true }, .media { mid := "1" }])).2 = .ok d ∧
      mids d = ["1", "2"] ∧
      ¬MLines .offer [.application { mid := "0", isRemoved := true }, .media { mid := "1" }] d := by
  refine ⟨_, rfl, by decide, fun h => ?_⟩
  have hprefix := h.offer rfl
  exact absurd hprefix (by decide)

end Rtc.LocalDescription
