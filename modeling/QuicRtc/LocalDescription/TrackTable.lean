import QuicRtc.LocalDescription.MLines

/-!
# The track table

`emplaceTrack` makes a new track if the one registered under the mid is closed or gone, but
`emplace` leaves the entry of that one in `mTracks`: the new track is not found under its mid, and
the next call makes another one.

A negotiation is cut into operations, with what others do in between: an incoming track is made, the
callback gets it, and it is closed if it was removed.

* `Consistent`: `mTracks` leads to the track that was returned, and a mid has one open track.
* `processLocalDescription_operations`: a negotiation is a sequence of operations.
* `consistent_iff_meets`: this holds along a run exactly when no track is emplaced on the mid of one
  that is closed or gone.
-/

namespace Rtc.LocalDescription

/-! ## Operations -/

/-- What happens to the tracks of a peer connection. -/
inductive Operation where
  | call (call : TrackCall)
  /-- `processLocalDescription` answers a media section: it makes a track if there is none. -/
  | incoming (remoteMedia : Media)
  /-- `if (track->description().isRemoved()) track->close();`. -/
  | closeRemoved (track : ℕ)
  deriving DecidableEq, Repr

namespace State

/-- Make an incoming track, unless one is registered. -/
def incoming (s : State) (remoteMedia : Media) : State :=
  if (s.mTracks.lookup remoteMedia.mid).isSome then s
  else
    s.makeTrack (if s.enableMedia then remoteMedia.reciprocate
      else remoteMedia.reciprocate.markRemoved)

/-- One operation. -/
def operate (s : State) : Operation → State
  | .call c => s.call c
  | .incoming remoteMedia => s.incoming remoteMedia
  | .closeRemoved track => s.closeRemoved track

/-- The track that `emplaceTrack` returns. -/
def emplaced (s : State) (description : Media) : ℕ :=
  (s.openTrack description.mid).getD s.tracks.length

/-- A track exists and is not closed. -/
def isOpen (s : State) (track : ℕ) : Bool := (s.lock track).any fun t => !t.isClosed

end State

section Negotiation

variable (env : Environment) (s : State)

theorem foldl_operate_calls (cs : List TrackCall) :
    (cs.map Operation.call).foldl State.operate s = s.calls cs := by
  rw [List.foldl_map]
  rfl

/-- The answer to a section is a sequence of operations. -/
theorem answer_operations (i : ℕ) (mEntries : List Entry) (r : Entry) :
    ∃ operations : List Operation,
      operations.foldl State.operate s = (s.answer env i mEntries r).1 := by
  cases r with
  | application remoteApp => exact ⟨[], rfl⟩
  | media remoteMedia =>
    simp only [State.answer]
    split
    · split
      · exact ⟨[], rfl⟩
      · exact ⟨[], rfl⟩
    · next hlookup =>
      refine ⟨.incoming remoteMedia ::
        ((env.callback i).map Operation.call ++ [.closeRemoved s.tracks.length]), ?_⟩
      have hnew : ¬(s.mTracks.lookup remoteMedia.mid).isSome = true := by
        rw [hlookup]
        exact Bool.false_ne_true
      rw [List.foldl_cons, List.foldl_append, foldl_operate_calls]
      simp only [State.operate, State.incoming, if_neg hnew, List.foldl_cons, List.foldl_nil]
      rfl

/-- So are the answers to all sections. -/
theorem reciprocate_operations (i : ℕ) (mEntries remote : List Entry) :
    ∃ operations : List Operation,
      operations.foldl State.operate s = (State.reciprocate env i s mEntries remote).1 := by
  induction remote generalizing i s mEntries with
  | nil => exact ⟨[], rfl⟩
  | cons r remote ih =>
    obtain ⟨first, hfirst⟩ := answer_operations env (s.calls (env.between i)) i mEntries r
    obtain ⟨rest, hrest⟩ := ih ((s.calls (env.between i)).answer env i mEntries r).1 (i + 1)
      ((s.calls (env.between i)).answer env i mEntries r).2
    refine ⟨(env.between i).map Operation.call ++ (first ++ rest), ?_⟩
    rw [List.foldl_append, List.foldl_append, foldl_operate_calls, hfirst, hrest]
    rfl

/-- A negotiation is a sequence of operations. -/
theorem processLocalDescription_operations (type : Description.Kind)
    (remote : Option (List Entry)) :
    ∃ operations : List Operation,
      operations.foldl State.operate s = (s.processLocalDescription env type remote).1 := by
  obtain ⟨operations, heq⟩ := reciprocate_operations env s 0 [] (remote.getD [])
  unfold State.processLocalDescription
  dsimp only
  split
  · refine ⟨operations ++ (env.between (remote.getD []).length).map Operation.call, ?_⟩
    rw [List.foldl_append, heq, foldl_operate_calls]
  · exact ⟨operations, heq⟩

end Negotiation

/-! ## Runs -/

/-- The tracks, and the track and the mid of the last operation if this was `emplaceTrack`. -/
structure TrackWorld where
  state : State
  returned : Option (ℕ × String) := none
  deriving DecidableEq, Repr

namespace TrackWorld

/-- One operation, with the track it returns. -/
def step (w : TrackWorld) (operation : Operation) : Option TrackWorld :=
  some
    { state := w.state.operate operation
      returned :=
        match operation with
        | .call (.emplaceTrack description) =>
          some (w.state.emplaced description, description.mid)
        | _ => none }

/-- Operations are always enabled. -/
theorem exists_run (w : TrackWorld) (operations : List Operation) :
    ∃ w', Transition.run step w operations = some w' ∧
      w'.state = operations.foldl State.operate w.state := by
  induction operations generalizing w with
  | nil => exact ⟨w, rfl, rfl⟩
  | cons operation operations ih => exact ih _

/-- Every history of tracks and negotiations is a run of operations. -/
theorem exists_run_of_events {s s' : State} {events : List State.Event}
    (hrun : Transition.run State.step s events = some s') (returned : Option (ℕ × String)) :
    ∃ operations w, Transition.run step { state := s, returned } operations = some w ∧
      w.state = s' := by
  induction events generalizing s returned with
  | nil =>
    obtain rfl := Option.some.inj hrun
    exact ⟨[], _, rfl, rfl⟩
  | cons event events ih =>
    obtain ⟨t, hstep, hrest⟩ := Transition.run_cons.1 hrun
    obtain ⟨first, hfirst⟩ : ∃ first : List Operation, first.foldl State.operate s = t := by
      cases event with
      | track c =>
        obtain rfl := Option.some.inj hstep
        exact ⟨[.call c], rfl⟩
      | negotiate env type remote =>
        obtain rfl := Option.some.inj hstep
        exact processLocalDescription_operations env s type remote
    obtain ⟨w, hw, hstate⟩ := exists_run { state := s, returned } first
    obtain ⟨rest, w', hw', hstate'⟩ := ih hrest w.returned
    have hsame : w = { state := t, returned := w.returned } := by
      rw [← hfirst, ← hstate]
    refine ⟨first ++ rest, w', Transition.run_append.2 ⟨w, hw, ?_⟩, hstate'⟩
    rw [hsame]
    exact hw'

/-- `mTracks` leads to the track that `emplaceTrack` has returned, and of the tracks in
`mTrackLines` at most one of each mid exists and is not closed. -/
structure Consistent (w : TrackWorld) : Prop where
  returned : ∀ p ∈ w.returned, w.state.mTracks.lookup p.2 = some p.1
  unique : ∀ track ∈ w.state.mTrackLines, ∀ track' ∈ w.state.mTrackLines,
    w.state.isOpen track = true → w.state.isOpen track' = true →
      w.state.trackMid track = w.state.trackMid track' → track = track'

/-- A track is emplaced on a mid that is new, or that of a track which exists and is open. -/
def MayEmplace (w : TrackWorld) : Operation → Prop
  | .call (.emplaceTrack description) =>
    ∀ track ∈ w.state.mTracks.lookup description.mid, w.state.isOpen track = true
  | _ => True

instance (w : TrackWorld) : DecidablePred w.MayEmplace
  | .call (.emplaceTrack description) => inferInstanceAs
    (Decidable (∀ track ∈ w.state.mTracks.lookup description.mid, w.state.isOpen track = true))
  | .call (.setDescription _ _) => isTrue trivial
  | .call (.close _) => isTrue trivial
  | .call (.destroy _) => isTrue trivial
  | .incoming _ => isTrue trivial
  | .closeRemoved _ => isTrue trivial

end TrackWorld

/-! ## Registered tracks -/

/-- Every track is the one registered under its mid. -/
structure Registered (s : State) : Prop where
  keyed : Keyed s
  own : ∀ track mid, s.trackMid track = some mid → s.mTracks.lookup mid = some track

namespace Registered

variable {s : State}

/-- Changing one track without its mid. -/
theorem modify (h : Registered s) (track : ℕ) {f : Track → Track}
    (hf : ∀ t, (f t).description.mid = t.description.mid) :
    Registered { s with tracks := s.tracks.modify track f } := by
  refine ⟨(Preserves.modify s track hf).2 h.keyed, fun track' mid hmid => h.own track' mid ?_⟩
  rw [← hmid]
  unfold State.trackMid
  by_cases hsame : track = track'
  · rw [hsame, List.getElem?_modify_eq]
    cases s.tracks[track']? with
    | none => rfl
    | some t => exact congrArg some (hf t).symm
  · rw [List.getElem?_modify_ne _ _ hsame]

theorem setDescription (h : Registered s) (track : ℕ) (description : Media) :
    Registered (s.setDescription track description) := by
  refine h.modify track fun t => ?_
  split
  · next hmid => exact hmid
  · rfl

theorem close (h : Registered s) (track : ℕ) : Registered (s.close track) :=
  h.modify track fun _ => rfl

theorem destroy (h : Registered s) (track : ℕ) : Registered (s.destroy track) :=
  h.modify track fun _ => rfl

theorem closeRemoved (h : Registered s) (track : ℕ) : Registered (s.closeRemoved track) := by
  unfold State.closeRemoved
  split
  · exact h.close track
  · exact h

/-- A track with a new mid. -/
theorem makeTrack (h : Registered s) {description : Media}
    (hnew : s.mTracks.lookup description.mid = none) : Registered (s.makeTrack description) := by
  refine ⟨(Preserves.makeTrack s description).2 h.keyed, fun track mid hmid => ?_⟩
  have htable : (s.makeTrack description).mTracks =
      (description.mid, s.tracks.length) :: s.mTracks := by
    simp [State.makeTrack, hnew]
  rw [htable, List.lookup_cons]
  by_cases hlt : track < s.tracks.length
  · -- an older track has another mid
    have hold : s.trackMid track = some mid := by
      rw [← hmid]
      simp [State.trackMid, State.makeTrack, List.getElem?_append_left hlt]
    have hlookup := h.own track mid hold
    have hne : (mid == description.mid) = false := by
      refine beq_eq_false_iff_ne.2 fun hsame => ?_
      rw [hsame, hnew] at hlookup
      cases hlookup
    rw [hne]
    exact hlookup
  · obtain ⟨t, ht, rfl⟩ := Option.map_eq_some_iff.1 hmid
    have hlast : track = s.tracks.length := by
      have hbound := (List.getElem?_eq_some_iff.1 ht).1
      simp only [State.makeTrack, List.length_append, List.length_singleton] at hbound
      omega
    subst hlast
    simp only [State.makeTrack, List.getElem?_concat_length, Option.some.injEq] at ht
    rw [← ht, beq_self_eq_true]

/-- No two tracks have one mid. -/
theorem track_eq (h : Registered s) {track track' : ℕ} (hopen : s.isOpen track = true)
    (hmid : s.trackMid track = s.trackMid track') : track = track' := by
  obtain ⟨t, hlock, -⟩ := Option.any_eq_true _ _ |>.1 hopen
  have ht : s.tracks[track]? = some t := (Option.filter_eq_some_iff.1 hlock).1
  have hown : s.trackMid track = some t.description.mid := by
    rw [State.trackMid, ht, Option.map_some]
  have hown' : s.trackMid track' = some t.description.mid := hmid.symm.trans hown
  exact Option.some.inj ((h.own track _ hown).symm.trans (h.own track' _ hown'))

end Registered

/-- `closeRemoved` does not touch the table. -/
@[simp]
theorem mTracks_closeRemoved (s : State) (track : ℕ) :
    (s.closeRemoved track).mTracks = s.mTracks := by
  unfold State.closeRemoved
  split <;> rfl

/-- `emplaceTrack` uses the open track of the mid, or makes one. -/
theorem emplaceTrack_cases (s : State) (description : Media) :
    ∃ d : Media, d.mid = description.mid ∧
      ((∃ track, s.mTracks.lookup description.mid = some track ∧ s.isOpen track = true ∧
          s.emplaced description = track ∧
          s.emplaceTrack description = (s.setDescription track d).closeRemoved track) ∨
        (∀ track ∈ s.mTracks.lookup description.mid, s.isOpen track = false) ∧
          s.emplaced description = s.tracks.length ∧
          s.emplaceTrack description = (s.makeTrack d).closeRemoved s.tracks.length) := by
  -- without media support the description is marked as removed, and the track closed at once
  refine ⟨if s.enableMedia then description else description.markRemoved, ?_, ?_⟩
  · split <;> rfl
  have hmid : (if s.enableMedia then description else description.markRemoved).mid =
      description.mid := by
    split <;> rfl
  unfold State.emplaceTrack State.emplaced
  dsimp only
  rw [hmid]
  cases hopen : s.openTrack description.mid with
  | some track =>
    obtain ⟨hlookup, hany⟩ := Option.filter_eq_some_iff.1 hopen
    exact .inl ⟨track, hlookup, hany, rfl, rfl⟩
  | none =>
    refine .inr ⟨fun track hlookup => ?_, rfl, rfl⟩
    exact eq_false_of_ne_true (Option.filter_eq_none_iff.1 hopen track hlookup)

namespace TrackWorld

variable {w w' : TrackWorld} {operation : Operation}

/-- The invariant: every track is registered, and so is the one that was returned. -/
structure Inv (w : TrackWorld) : Prop where
  registered : Registered w.state
  returned : ∀ p ∈ w.returned, w.state.mTracks.lookup p.2 = some p.1

namespace Inv

theorem start (enableMedia : Bool) (maxMessageSize : Option ℕ) :
    Inv { state := { enableMedia, maxMessageSize } } := by
  refine ⟨⟨fun mid track hlookup => ?_, fun track mid hmid => ?_⟩, fun p hp => ?_⟩
  · cases hlookup
  · cases hmid
  · cases hp

theorem consistent (h : Inv w) : Consistent w :=
  ⟨h.returned, fun _ _ _ _ hopen _ hmid => h.registered.track_eq hopen hmid⟩

/-- A track on a new mid, or on that of an open track. -/
theorem emplaceTrack (h : Inv w) {description : Media}
    (hok : w.MayEmplace (.call (.emplaceTrack description))) :
    Inv
      { state := w.state.emplaceTrack description
        returned := some (w.state.emplaced description, description.mid) } := by
  obtain ⟨d, hmid, ⟨track, hlookup, -, hemplaced, heq⟩ | ⟨hstale, hemplaced, heq⟩⟩ :=
    emplaceTrack_cases w.state description
  · refine ⟨?_, fun p hp => ?_⟩
    · dsimp only
      rw [heq]
      exact (h.registered.setDescription track d).closeRemoved track
    · obtain rfl := Option.some.inj hp
      dsimp only
      rw [heq, mTracks_closeRemoved, hemplaced]
      exact hlookup
  · -- the condition leaves only a mid without an entry
    have hnew : w.state.mTracks.lookup d.mid = none := by
      rw [hmid]
      cases hlookup : w.state.mTracks.lookup description.mid with
      | none => rfl
      | some track =>
        exact absurd ((hok track hlookup).symm.trans (hstale track hlookup)) (by decide)
    have hmade := h.registered.makeTrack hnew
    refine ⟨?_, fun p hp => ?_⟩
    · dsimp only
      rw [heq]
      exact hmade.closeRemoved _
    · obtain rfl := Option.some.inj hp
      dsimp only
      rw [heq, mTracks_closeRemoved, hemplaced, ← hmid]
      refine hmade.own _ _ ?_
      simp [State.trackMid, State.makeTrack]

/-- Every operation that meets the condition preserves the invariant. -/
theorem step (h : Inv w) (hok : w.MayEmplace operation) (hstep : w.step operation = some w') :
    Inv w' := by
  obtain rfl := Option.some.inj hstep
  cases operation with
  | call c =>
    cases c with
    | emplaceTrack description => exact h.emplaceTrack hok
    | setDescription track description =>
      exact ⟨h.registered.setDescription track description, fun p hp => by cases hp⟩
    | close track => exact ⟨h.registered.close track, fun p hp => by cases hp⟩
    | destroy track => exact ⟨h.registered.destroy track, fun p hp => by cases hp⟩
  | incoming remoteMedia =>
    refine ⟨?_, fun p hp => by cases hp⟩
    show Registered (w.state.incoming remoteMedia)
    unfold State.incoming
    split
    · exact h.registered
    · next hnew =>
      -- an incoming track is only made on a mid without an entry
      refine h.registered.makeTrack ?_
      have hmid : (if w.state.enableMedia then remoteMedia.reciprocate
          else remoteMedia.reciprocate.markRemoved).mid = remoteMedia.mid := by
        split <;> rfl
      rw [hmid]
      exact Option.not_isSome_iff_eq_none.1 hnew
  | closeRemoved track => exact ⟨h.registered.closeRemoved track, fun p hp => by cases hp⟩

/-- A track on the mid of one that is closed or gone is not the one that is registered. -/
theorem not_step (h : Inv w) (hmiss : ¬w.MayEmplace operation)
    (hstep : w.step operation = some w') : ¬Consistent w' := by
  obtain rfl := Option.some.inj hstep
  cases operation with
  | incoming remoteMedia => exact absurd trivial hmiss
  | closeRemoved track => exact absurd trivial hmiss
  | call c =>
    cases c with
    | setDescription track description => exact absurd trivial hmiss
    | close track => exact absurd trivial hmiss
    | destroy track => exact absurd trivial hmiss
    | emplaceTrack description =>
      intro hconsistent
      have hreturned := hconsistent.returned _ rfl
      obtain ⟨d, hmid, ⟨track, hlookup, hopen, -, -⟩ | ⟨hstale, hemplaced, heq⟩⟩ :=
        emplaceTrack_cases w.state description
      · refine hmiss fun track' hlookup' => ?_
        obtain rfl := Option.some.inj (hlookup.symm.trans hlookup')
        exact hopen
      · cases hlookup : w.state.mTracks.lookup description.mid with
        | none =>
          refine hmiss fun track' hlookup' => ?_
          rw [hlookup] at hlookup'
          cases hlookup'
        | some track =>
          -- the older entry stays
          have htable : (w.state.emplaceTrack description).mTracks = w.state.mTracks := by
            rw [heq, mTracks_closeRemoved]
            simp [State.makeTrack, hmid, hlookup]
          have hsame : (w.state.emplaceTrack description).mTracks.lookup description.mid =
              some (w.state.emplaced description) := hreturned
          rw [htable, hlookup, hemplaced] at hsame
          obtain ⟨t, ht, -⟩ := Option.map_eq_some_iff.1 (h.registered.keyed _ _ hlookup)
          -- and it leads to an older track than the one returned
          have hlt := (List.getElem?_eq_some_iff.1 ht).1
          exact absurd (Option.some.inj hsame) (Nat.ne_of_lt hlt)

end Inv

/-- **Track table.** Along a run of calls, closings, destructions and negotiations the table is
consistent exactly when no track is emplaced on the mid of one that is closed or gone. -/
theorem consistent_iff_meets {enableMedia : Bool} {maxMessageSize : Option ℕ}
    {operations : List Operation} {w : TrackWorld}
    (hrun : Transition.run step { state := { enableMedia, maxMessageSize } } operations = some w) :
    (∀ fs, fs <+: operations → ∀ u,
        Transition.run step { state := { enableMedia, maxMessageSize } } fs = some u →
          u.Consistent) ↔
      Transition.Meets step MayEmplace { state := { enableMedia, maxMessageSize } } operations :=
  Transition.forall_prefix_iff_meets_of_invariant (fun _ h => h.consistent)
    (fun _ _ _ h hok hstep => h.step hok hstep) (fun _ _ _ h hmiss hstep => h.not_step hmiss hstep)
    (Inv.start enableMedia maxMessageSize) hrun

/-- A track that is emplaced again, one that comes in, and one that is closed. -/
def openTracks : List Operation :=
  [.call (.emplaceTrack { mid := "audio" }), .incoming { mid := "video" },
    .call (.emplaceTrack { mid := "video", direction := .sendOnly }), .closeRemoved 1,
    .call (.emplaceTrack { mid := "audio" }), .call (.close 0)]

theorem consistent_openTracks :
    ∃ w, Transition.run step { state := {} } openTracks = some w ∧ w.Consistent ∧
      w.state.mTrackLines = [0, 1] := by
  have hok : Transition.Meets step MayEmplace { state := {} } openTracks := by decide
  exact ⟨_, rfl, (consistent_iff_meets rfl).2 hok _ (List.prefix_refl _) _ rfl, rfl⟩

/-- A track is closed, and its mid used again: the new track is not found, and the next call makes
a third one. -/
theorem not_consistent_closed :
    (¬∀ (operations : List Operation) (w : TrackWorld),
      Transition.run step { state := {} } operations = some w → w.Consistent) ∧
      ∃ w, Transition.run step { state := {} }
          [.call (.emplaceTrack { mid := "audio" }), .call (.close 0),
            .call (.emplaceTrack { mid := "audio" }), .call (.emplaceTrack { mid := "audio" })] =
            some w ∧
        w.returned = some (2, "audio") ∧ w.state.mTracks.lookup "audio" = some 0 ∧
        w.state.isOpen 1 = true ∧ w.state.isOpen 2 = true := by
  refine ⟨fun h => ?_, _, rfl, by decide, by decide, by decide, by decide⟩
  have hreturned := (h [.call (.emplaceTrack { mid := "audio" }), .call (.close 0),
    .call (.emplaceTrack { mid := "audio" })] _ rfl).returned (1, "audio") (by decide)
  exact absurd hreturned (by decide)

end TrackWorld

end Rtc.LocalDescription
