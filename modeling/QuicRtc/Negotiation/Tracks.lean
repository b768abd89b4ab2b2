import QuicRtc.LocalDescription.TrackTable
import QuicRtc.Negotiation.Agreement

/-!
# Descriptions and tracks

How the sections of a description and the tracks fit together when nobody calls a function on the
tracks while the description is built.

* `Lined`: every track is in `mTrackLines`.
* `Backed`: a media section is the description of the track registered under its mid, or is removed.
* `Answered` is what answering the sections of a remote description does to the tracks.
* `negotiationNeeded_eq_false` and `negotiationNeeded_of_stuck`: no negotiation is needed after
  that, unless a track is closed that exists and has not been removed.
-/

namespace Rtc.LocalDescription

/-! ## Every track has a line -/

/-- Every track is in `mTrackLines`. -/
def Lined (s : State) : Prop := ∀ track < s.tracks.length, track ∈ s.mTrackLines

namespace Lined

variable {s : State}

theorem modify (h : Lined s) (track : ℕ) (f : Track → Track) :
    Lined { s with tracks := s.tracks.modify track f } := by
  intro track' hlt
  rw [List.length_modify] at hlt
  exact h track' hlt

theorem closeRemoved (h : Lined s) (track : ℕ) : Lined (s.closeRemoved track) := by
  unfold State.closeRemoved
  split
  · exact h.modify track _
  · exact h

theorem makeTrack (h : Lined s) (description : Media) : Lined (s.makeTrack description) := by
  intro track hlt
  have hlength : (s.makeTrack description).tracks.length = s.tracks.length + 1 :=
    List.length_append
  rw [hlength, Nat.lt_succ_iff_lt_or_eq] at hlt
  apply List.mem_append.2
  exact hlt.imp (h track) (fun heq => List.mem_singleton.2 heq)

theorem call (h : Lined s) (c : TrackCall) : Lined (s.call c) := by
  cases c with
  | emplaceTrack description =>
    show Lined (s.emplaceTrack description)
    unfold State.emplaceTrack
    dsimp only
    split
    · exact (h.modify _ _).closeRemoved _
    · exact (h.makeTrack _).closeRemoved _
  | setDescription track description => exact h.modify track _
  | close track => exact h.modify track _
  | destroy track => exact h.modify track _

/-- Every operation on the tracks keeps them in line. -/
theorem operate (h : Lined s) (operation : Operation) : Lined (s.operate operation) := by
  cases operation with
  | call c => exact h.call c
  | incoming remoteMedia =>
    show Lined (s.incoming remoteMedia)
    unfold State.incoming
    split
    · exact h
    · exact h.makeTrack _
  | closeRemoved track => exact h.closeRemoved track

theorem foldl_operate (h : Lined s) (operations : List Operation) :
    Lined (operations.foldl State.operate s) := by
  induction operations generalizing s with
  | nil => exact h
  | cons operation operations ih => exact ih (h.operate operation)

theorem processLocalDescription (h : Lined s) (env : Environment) (type : Description.Kind)
    (remote : Option (List Entry)) : Lined (s.processLocalDescription env type remote).1 := by
  obtain ⟨operations, heq⟩ := processLocalDescription_operations env s type remote
  rw [← heq]
  exact h.foldl_operate operations

theorem reciprocate (h : Lined s) (env : Environment) (i : ℕ) (mEntries remote : List Entry) :
    Lined (State.reciprocate env i s mEntries remote).1 := by
  obtain ⟨operations, heq⟩ := reciprocate_operations env s i mEntries remote
  rw [← heq]
  exact h.foldl_operate operations

end Lined

/-! ## Answering the sections -/

/-- A media section is the description of the track of its mid, or is removed where this track is
gone. -/
def Backed (s : State) (media : Media) : Prop :=
  ∃ (track : ℕ) (t : Track), s.tracks[track]? = some t ∧ t.description.mid = media.mid ∧
    (t.isAlive = true → t.description = media) ∧ (t.isAlive = false → media.isRemoved = true)

/-- What answering sections does to the tracks, when nobody else calls a function on them: tracks
are added for some of the answers, and those that are removed are closed. -/
structure Answered (s s' : State) (answered : List Entry) : Prop where
  old : ∀ (track : ℕ) t, s.tracks[track]? = some t → s'.tracks[track]? = some t
  new : ∀ (track : ℕ) t, s'.tracks[track]? = some t → s.tracks[track]? = some t ∨
    t.isClosed = t.description.isRemoved ∧ t.description.mid ∈ mids answered
  registered : Registered s'
  backed : ∀ media, .media media ∈ answered → Backed s' media

/-- A section stays backed when the tracks stay. -/
theorem Backed.mono {s s' : State} {media : Media} (h : Backed s media)
    (hold : ∀ (track : ℕ) t, s.tracks[track]? = some t → s'.tracks[track]? = some t) :
    Backed s' media := by
  obtain ⟨track, t, ht, hrest⟩ := h
  exact ⟨track, t, hold track t ht, hrest⟩

namespace Answered

variable {s s' s'' : State} {answered answered' : List Entry}

/-- Nothing is answered. -/
theorem refl (h : Registered s) : Answered s s [] :=
  ⟨fun _ _ => id, fun _ _ => .inl, h, fun _ hmem => absurd hmem List.not_mem_nil⟩

/-- Some sections are answered and then others. -/
theorem trans (h : Answered s s' answered) (h' : Answered s' s'' answered') :
    Answered s s'' (answered ++ answered') where
  old track t ht := h'.old track t (h.old track t ht)
  new track t ht := by
    rw [mids_append, List.mem_append]
    rcases h'.new track t ht with ht | ⟨hclosed, hmid⟩
    · exact (h.new track t ht).imp id (And.imp id .inl)
    · exact .inr ⟨hclosed, .inr hmid⟩
  registered := h'.registered
  backed media hmem := by
    rcases List.mem_append.1 hmem with hmem | hmem
    · exact (h.backed media hmem).mono h'.old
    · exact h'.backed media hmem

/-- The section is answered without a new track. -/
theorem same (h : Registered s) {entry : Entry}
    (hbacked : ∀ media, entry = .media media → Backed s media) : Answered s s [entry] where
  old _ _ := id
  new _ _ := .inl
  registered := h
  backed media hmem := hbacked media (List.mem_singleton.1 hmem).symm

end Answered

/-- Changing what is last. -/
theorem modify_concat {α : Type} (as : List α) (a : α) (f : α → α) :
    (as ++ [a]).modify as.length f = as ++ [f a] := by
  induction as with
  | nil => rfl
  | cons b as ih => simpa using ih

/-- What is found in front of the last one, or is the last one. -/
theorem getElem?_concat_cases {α : Type} {as : List α} {a b : α} {i : ℕ}
    (h : (as ++ [a])[i]? = some b) : as[i]? = some b ∨ b = a := by
  rw [List.getElem?_append] at h
  split at h
  · exact .inl h
  · exact .inr (List.mem_singleton.1 (List.mem_of_getElem? h))

/-- A new track, which is closed at once if it is removed. -/
theorem tracks_closeRemoved_makeTrack (s : State) (media : Media) :
    ((s.makeTrack media).closeRemoved s.tracks.length).tracks =
      s.tracks ++ [{ description := media, isClosed := media.isRemoved }] := by
  have hlast : (s.makeTrack media).tracks[s.tracks.length]? = some { description := media } :=
    List.getElem?_concat_length
  rw [State.closeRemoved, hlast, Option.any_some]
  cases hremoved : media.isRemoved with
  | false => rfl
  | true => exact modify_concat s.tracks { description := media } _

section Quiet

variable {s : State} {env : Environment}

/-- A track that is made under a new mid. -/
theorem answered_makeTrack (h : Registered s) {media : Media}
    (hnew : s.mTracks.lookup media.mid = none) :
    Answered s ((s.makeTrack media).closeRemoved s.tracks.length) [.media media] := by
  have htracks := tracks_closeRemoved_makeTrack s media
  generalize hs' : (s.makeTrack media).closeRemoved s.tracks.length = s' at htracks
  refine ⟨fun track t ht => ?_, fun track t ht => ?_, ?_, fun m hmem => ?_⟩
  · rw [htracks]
    exact List.getElem?_append_left (List.getElem?_eq_some_iff.1 ht).1 ▸ ht
  · rw [htracks] at ht
    rcases getElem?_concat_cases ht with hold | rfl
    · exact .inl hold
    · exact .inr ⟨rfl, List.mem_singleton.2 rfl⟩
  · rw [← hs']
    exact (h.makeTrack hnew).closeRemoved _
  · cases List.mem_singleton.1 hmem
    refine ⟨s.tracks.length, { description := media, isClosed := media.isRemoved }, ?_, rfl,
      fun _ => rfl, fun hgone => ?_⟩
    · rw [htracks]
      exact List.getElem?_concat_length
    · cases hgone

/-- What is found in a table is in it. -/
theorem mem_of_lookup {entries : List (String × ℕ)} {mid : String} {track : ℕ}
    (h : entries.lookup mid = some track) : (mid, track) ∈ entries := by
  obtain ⟨before, rest, rfl, -⟩ := List.lookup_eq_some_iff.1 h
  exact List.mem_append_right _ List.mem_cons_self

/-- A track that exists is locked. -/
theorem lock_eq_some_iff {track : ℕ} {t : Track} :
    s.lock track = some t ↔ s.tracks[track]? = some t ∧ t.isAlive = true :=
  Option.filter_eq_some_iff

/-- The answer to one section. -/
theorem answered_answer (h : Registered s) (hquiet : env.callback = fun _ => []) (i : ℕ)
    (mEntries : List Entry) {r : Entry}
    (hone : r.isApplication = true → mEntries.countP Entry.isApplication = 0) :
    ∃ entry, (s.answer env i mEntries r).2 = mEntries ++ [entry] ∧
      Answered s (s.answer env i mEntries r).1 [entry] := by
  cases r with
  | application remoteApp =>
    refine ⟨.application (s.answerApplication (env.tables i) remoteApp), ?_, .same h ?_⟩
    · simp [State.answer, addApplication, removeApplication_eq_self (hone rfl)]
    · intro media hmedia
      cases hmedia
  | media remoteMedia =>
    simp only [State.answer]
    split
    · next track hlookup =>
      obtain ⟨t, ht, hmid⟩ := Option.map_eq_some_iff.1 (h.keyed _ _ hlookup)
      split
      · next t' hlock =>
        obtain ⟨ht', halive⟩ := lock_eq_some_iff.1 hlock
        refine ⟨.media t'.description, rfl, .same h ?_⟩
        rintro _ ⟨⟩
        refine ⟨track, t', ht', rfl, fun _ => rfl, fun hgone => ?_⟩
        rw [halive] at hgone
        cases hgone
      · next hlock =>
        -- the track is gone
        refine ⟨.media remoteMedia.reciprocate.markRemoved, rfl, .same h ?_⟩
        rintro _ ⟨⟩
        refine ⟨track, t, ht, hmid, fun halive => ?_, fun _ => rfl⟩
        rw [lock_eq_some_iff.2 ⟨ht, halive⟩] at hlock
        cases hlock
    · next hlookup =>
      rw [hquiet]
      let media := if s.enableMedia then remoteMedia.reciprocate
        else remoteMedia.reciprocate.markRemoved
      have hmid : media.mid = remoteMedia.mid := by
        simp only [media]
        split <;> rfl
      have hincoming : s.incomingTrack [] remoteMedia =
          (s.makeTrack media).closeRemoved s.tracks.length := rfl
      have hlast : (s.incomingTrack [] remoteMedia).tracks[s.tracks.length]? =
          some { description := media, isClosed := media.isRemoved } := by
        rw [hincoming, tracks_closeRemoved_makeTrack]
        exact List.getElem?_concat_length
      rw [hlast]
      exact ⟨.media media, rfl, answered_makeTrack h (hmid.symm ▸ hlookup)⟩

/-- The answers to the sections from section `i` on. -/
theorem answered_reciprocate (h : Registered s) (hcallback : env.callback = fun _ => [])
    (hbetween : env.between = fun _ => []) {i : ℕ} {mEntries remote : List Entry}
    (hone : (mEntries ++ remote).countP Entry.isApplication ≤ 1) :
    ∃ answered, (State.reciprocate env i s mEntries remote).2 = mEntries ++ answered ∧
      Answered s (State.reciprocate env i s mEntries remote).1 answered := by
  induction remote generalizing i s mEntries with
  | nil => exact ⟨[], (List.append_nil _).symm, .refl h⟩
  | cons r remote ih =>
    have hnone : r.isApplication = true → mEntries.countP Entry.isApplication = 0 := by
      intro hr
      simp only [List.countP_append, List.countP_cons, hr, if_true] at hone
      omega
    obtain ⟨entry, heq, hanswer⟩ := answered_answer h hcallback i mEntries hnone
    obtain ⟨entry', heq', hentry⟩ := answer_spec h.keyed env i hnone
    have hentry : entry.isApplication = r.isApplication := by
      obtain rfl : entry' = entry := by
        simpa using heq'.symm.trans heq
      exact hentry.isApplication
    have hone' : ((mEntries ++ [entry]) ++ remote).countP Entry.isApplication ≤ 1 := by
      simpa [List.countP_append, List.countP_cons, hentry, Nat.add_assoc, Nat.add_comm] using hone
    obtain ⟨answered, hrest, hall⟩ := ih hanswer.registered hone'
    have hcons : State.reciprocate env i s mEntries (r :: remote) =
        State.reciprocate env (i + 1) (s.answer env i mEntries r).1 (mEntries ++ [entry])
          remote := by
      rw [← heq, State.reciprocate, hbetween]
      rfl
    rw [hcons]
    refine ⟨entry :: answered, ?_, hanswer.trans hall⟩
    rw [hrest, List.append_assoc]
    rfl

/-! ## Adding the tracks -/

/-- The sections that the tracks add, and those from before. -/
theorem mem_foldl_addTrack {tracks : List ℕ} {mEntries : List Entry} {media : Media}
    (h : .media media ∈ tracks.foldl s.addTrack mEntries) :
    .media media ∈ mEntries ∨ ∃ track t, s.lock track = some t ∧ t.description = media := by
  induction tracks generalizing mEntries with
  | nil => exact .inl h
  | cons track tracks ih =>
    rcases ih h with hmem | hmem
    · unfold State.addTrack at hmem
      split at hmem
      · next t hlock =>
        split at hmem
        · exact .inl hmem
        · rcases List.mem_append.1 hmem with hmem | hmem
          · exact .inl hmem
          · cases List.mem_singleton.1 hmem
            exact .inr ⟨track, t, hlock, rfl⟩
      · exact .inl hmem
    · exact .inr hmem

/-- A track that exists has a section afterwards. -/
theorem mid_mem_foldl_addTrack {tracks : List ℕ} {mEntries : List Entry} {track : ℕ} {t : Track}
    (hmem : track ∈ tracks) (hlock : s.lock track = some t) :
    t.description.mid ∈ mids (tracks.foldl s.addTrack mEntries) := by
  induction tracks generalizing mEntries with
  | nil => cases hmem
  | cons first tracks ih =>
    rcases List.mem_cons.1 hmem with rfl | hmem
    · -- the section is there once the track had its turn, and stays
      obtain ⟨added, hfold, -, -⟩ := foldl_addTrack s tracks (s.addTrack mEntries track)
      rw [List.foldl_cons, hfold, mids_append]
      apply List.mem_append_left
      rw [State.addTrack, hlock]
      dsimp only
      split
      · next hmid => simpa [hasMid, mids] using hmid
      · rw [addMedia, mids_append]
        exact List.mem_append_right _ (List.mem_singleton.2 rfl)
    · exact ih hmem

end Quiet

end Rtc.LocalDescription

namespace Rtc.Negotiation

open LocalDescription

/-! ## When negotiation is needed -/

/-- A track that exists is closed without having been removed, and its mid is not that of the
application section. -/
def Stuck (s : State) (ms : List (String × Bool)) : Prop :=
  ∃ track t, s.lock track = some t ∧ t.isClosed = true ∧ t.description.isRemoved = false ∧
    (t.description.mid, true) ∉ ms

namespace Peer

/-- The tracks that exist have sections. -/
def Covers (p : Peer) : Prop :=
  ∀ track t, p.tracks.lock track = some t → t.description.mid ∈ mids p.localEntries

variable {p : Peer} {tables : DataChannels} {mEntries : List Entry}

/-- Where no track is stuck, nothing is left to negotiate. -/
theorem negotiationNeeded_eq_false (hlocal : p.mLocalDescription = some mEntries)
    (hsound : Sound mEntries) (hregistered : Registered p.tracks) (hcovers : p.Covers)
    (hbacked : ∀ media, .media media ∈ mEntries → Backed p.tracks media)
    (hstuck : ¬Stuck p.tracks (lines mEntries)) : p.negotiationNeeded tables = false := by
  have hentries : p.localEntries = mEntries := by rw [localEntries, hlocal, Option.getD_some]
  rw [negotiationNeeded, hlocal, Bool.or_eq_false_iff, Bool.or_eq_false_iff]
  refine ⟨⟨?_, ?_⟩, ?_⟩
  · rw [Option.any_some, hsound.active, Bool.not_true, Bool.and_false]
  · rw [List.any_eq_false]
    rintro ⟨mid, track⟩ - hany
    obtain ⟨t, hlock, hmissing⟩ := Option.any_eq_true _ _ |>.1 hany
    have hmem := hcovers track t hlock
    rw [hentries] at hmem
    simp [hasMid, mids] at hmissing hmem
    obtain ⟨entry, hentry, hmid⟩ := hmem
    exact hmissing entry hentry hmid
  · rw [Option.any_some, List.any_eq_false]
    intro entry hmem hany
    cases entry with
    | application => cases hany
    | media media =>
      simp only [Bool.and_eq_true, Bool.not_eq_true'] at hany
      obtain ⟨hremoved, hlookup⟩ := hany
      obtain ⟨track, hlookup, hclosed⟩ := Option.any_eq_true _ _ |>.1 hlookup
      -- the section is the description of the track that is registered
      obtain ⟨track', t, ht, hmid, halive, hgone⟩ := hbacked media hmem
      have hown : p.tracks.mTracks.lookup media.mid = some track' := by
        apply hregistered.own
        rw [State.trackMid, ht, Option.map_some, hmid]
      obtain rfl := Option.some.inj (hlookup.symm.trans hown)
      have hexists : t.isAlive = true := by
        by_contra hdead
        rw [hgone (eq_false_of_ne_true hdead)] at hremoved
        cases hremoved
      have hlock := lock_eq_some_iff.2 ⟨ht, hexists⟩
      rw [hlock, Option.all_some] at hclosed
      obtain rfl := halive hexists
      refine hstuck ⟨track, t, hlock, hclosed, hremoved, fun happ => ?_⟩
      -- otherwise it would be an application section
      obtain ⟨entry, hentry, heq⟩ := List.mem_map.1 happ
      obtain ⟨hentryMid, hkind⟩ := Prod.mk.inj heq
      have hsame := List.inj_on_of_nodup_map hsound.nodup hentry hmem hentryMid
      rw [hsame] at hkind
      cases hkind

/-- A peer with a track that is stuck wants to negotiate. -/
theorem negotiationNeeded_of_stuck (hlocal : p.mLocalDescription = some mEntries)
    (hregistered : Registered p.tracks)
    (hbacked : ∀ media, .media media ∈ mEntries → Backed p.tracks media)
    (hstuck : Stuck p.tracks (lines mEntries)) : p.negotiationNeeded tables = true := by
  obtain ⟨track, t, hlock, hclosed, hremoved, happ⟩ := hstuck
  obtain ⟨ht, halive⟩ := lock_eq_some_iff.1 hlock
  have hown : p.tracks.mTracks.lookup t.description.mid = some track := by
    apply hregistered.own
    rw [State.trackMid, ht, Option.map_some]
  rw [negotiationNeeded, hlocal, Bool.or_eq_true, Bool.or_eq_true]
  by_cases hmid : hasMid mEntries t.description.mid = true
  · -- the section is the description of the track
    right
    obtain ⟨entry, hentry, heq⟩ := List.any_eq_true.1 hmid
    have heq : entry.mid = t.description.mid := eq_of_beq heq
    cases entry with
    | application app =>
      refine absurd (List.mem_map.2 ⟨_, hentry, ?_⟩) happ
      rw [← heq]
      rfl
    | media media =>
      obtain ⟨track', t', ht', hmid', hdescription, -⟩ := hbacked media hentry
      have hown' : p.tracks.mTracks.lookup t.description.mid = some track' := by
        rw [← heq]
        apply hregistered.own
        rw [State.trackMid, ht', Option.map_some, hmid']
        rfl
      obtain rfl := Option.some.inj (hown.symm.trans hown')
      obtain rfl := Option.some.inj (ht.symm.trans ht')
      obtain rfl := hdescription halive
      rw [Option.any_some, List.any_eq_true]
      refine ⟨_, hentry, ?_⟩
      simp [hremoved, hown, hlock, hclosed]
  · -- it has no section
    left
    right
    rw [List.any_eq_true]
    refine ⟨(t.description.mid, track), mem_of_lookup hown, ?_⟩
    simp [hlock, hmid]

/-- Where nothing is left to negotiate, the tracks that exist have sections. -/
theorem covers_of_negotiationNeeded (hregistered : Registered p.tracks)
    (h : p.negotiationNeeded tables = false) : p.Covers := by
  intro track t hlock
  obtain ⟨ht, -⟩ := lock_eq_some_iff.1 hlock
  have hown : p.tracks.mTracks.lookup t.description.mid = some track := by
    apply hregistered.own
    rw [State.trackMid, ht, Option.map_some]
  rw [negotiationNeeded, Bool.or_eq_false_iff, Bool.or_eq_false_iff] at h
  have hnone := List.any_eq_false.1 h.1.2 _ (mem_of_lookup hown)
  simp only [hlock, Option.any_some, Bool.not_eq_true', Bool.not_eq_false] at hnone
  obtain ⟨mEntries, hlocal, hmid⟩ := Option.any_eq_true _ _ |>.1 hnone
  rw [localEntries, hlocal, Option.getD_some]
  simpa [hasMid, mids] using hmid

end Peer

end Rtc.Negotiation
