import QuicRtc.Negotiation.Tracks

/-!
# When negotiation settles

After an offer the two peers keep negotiating on their own until neither needs to. Nobody calls a
function on the tracks meanwhile, and every track is the one registered under its mid.

A track that is closed while it exists keeps its section, which `negotiationNeeded` then wants to
remove, and which the next offer has again: negotiation goes on for ever. `Track::close` does not
mark the description as removed. Where no track is like this, four descriptions are enough.

* `Finished`: automatic negotiation has nothing to do at a peer. Every call ends like this, unless a
  track is stuck, and then it ends with an offer.
* `weight` decreases with each description that reaches an end.
* `settles_iff`: after an offer negotiation settles exactly when no track is stuck.
-/

namespace Rtc.Negotiation

open LocalDescription

/-- Nobody calls a function on the tracks while a description is built. -/
structure Quiet (env : Environment) : Prop where
  callback : env.callback = fun _ => []
  between : env.between = fun _ => []

/-- Nobody calls a function on the tracks during a call. -/
structure Surroundings.Quiet (around : Surroundings) : Prop where
  processing : Negotiation.Quiet around.processing
  offering : Negotiation.Quiet around.offering

/-! ## Tracks that are stuck -/

section Stuck

variable {s s' : State} {answered : List Entry} {ms : List (String × Bool)}

/-- Answering sections leaves the tracks that are stuck, and adds none. -/
theorem stuck_iff_of_answered (h : Answered s s' answered) : Stuck s' ms ↔ Stuck s ms := by
  constructor
  · rintro ⟨track, t, hlock, hclosed, hremoved, happ⟩
    obtain ⟨ht, halive⟩ := lock_eq_some_iff.1 hlock
    rcases h.new track t ht with hold | ⟨hnew, -⟩
    · exact ⟨track, t, lock_eq_some_iff.2 ⟨hold, halive⟩, hclosed, hremoved, happ⟩
    · -- a new track is closed only if it is removed
      rw [hnew, hremoved] at hclosed
      cases hclosed
  · rintro ⟨track, t, hlock, hrest⟩
    obtain ⟨ht, halive⟩ := lock_eq_some_iff.1 hlock
    exact ⟨track, t, lock_eq_some_iff.2 ⟨h.old track t ht, halive⟩, hrest⟩

/-- There is one application section: a sound description that starts with the lines of another one
has no other application mid. -/
theorem Sound.application_notMem {mEntries mEntries' : List Entry} (h : Sound mEntries)
    (h' : Sound mEntries') (hextends : lines mEntries <+: lines mEntries') {mid : String}
    (hmid : (mid, true) ∉ lines mEntries) : (mid, true) ∉ lines mEntries' := by
  have hcount (entries : List Entry) :
      (lines entries).countP Prod.snd = entries.countP Entry.isApplication := by
    rw [lines, List.countP_map]
    rfl
  obtain ⟨added, hadded⟩ := hextends
  intro hmem
  rw [← hadded, List.mem_append] at hmem
  have hone := hcount mEntries'
  rw [← hadded, List.countP_append, hcount, h.one, h'.one] at hone
  have hnone : added.countP Prod.snd = 0 := by omega
  exact List.countP_eq_zero.1 hnone _ (hmem.resolve_left hmid) rfl

theorem Stuck.mono {ms' : List (String × Bool)} (h : Stuck s ms)
    (hms : ∀ mid, (mid, true) ∉ ms → (mid, true) ∉ ms') : Stuck s ms' := by
  obtain ⟨track, t, hlock, hclosed, hremoved, happ⟩ := h
  exact ⟨track, t, hlock, hclosed, hremoved, hms _ happ⟩

end Stuck

/-! ## The calls of a peer -/

namespace Peer

/-- A peer whose tracks are all registered. -/
structure Orderly (p : Peer) : Prop where
  ready : p.Ready
  registered : Registered p.tracks
  lined : Lined p.tracks

/-- Automatic negotiation has nothing to do. -/
def Finished (p : Peer) : Prop := ∀ tables, p.negotiationNeeded tables = false

/-- Automatic negotiation makes an offer. -/
def Wants (p : Peer) : Prop := ∀ tables, p.negotiationNeeded tables = true

variable {p : Peer} {env : Environment} {around : Surroundings} {ms : List (String × Bool)}

theorem Finished.resume (h : p.Finished) : p.resume around = p :=
  if_neg (by simp [h around.tables])

theorem Wants.resume (h : p.Wants) : p.resume around = p.makeOffer around.offering :=
  if_pos (h around.tables)

/-- With a data channel the tables do not matter. -/
theorem finished_of_eq_false {tables : DataChannels} (hused : tables.isUsed = true)
    (h : p.negotiationNeeded tables = false) : p.Finished := by
  intro tables'
  rw [negotiationNeeded, Bool.or_eq_false_iff, Bool.or_eq_false_iff, hused, Bool.true_and] at h
  rw [negotiationNeeded, h.1.1, h.1.2, h.2, Bool.and_false]
  rfl

/-- What a peer has after an answer. -/
theorem Orderly.makeAnswer (h : p.Orderly) (hquiet : Quiet env)
    (hremote : p.mRemoteDescription.isSome = true) :
    (p.makeAnswer env).Orderly ∧
      Answered p.tracks (p.makeAnswer env).tracks (p.makeAnswer env).localEntries := by
  obtain ⟨mEntries, hsome⟩ := Option.isSome_iff_exists.1 hremote
  have hentries : p.remoteEntries = mEntries := by rw [remoteEntries, hsome, Option.getD_some]
  obtain ⟨answered, heq, hanswered⟩ := answered_reciprocate h.registered hquiet.callback
    hquiet.between (i := 0)
    (show ([] ++ p.remoteEntries).countP Entry.isApplication ≤ 1 by
      rw [List.nil_append, hentries]
      exact Nat.le_of_eq (h.ready.remote mEntries hsome).one)
  have hlocal : (p.makeAnswer env).localEntries = answered := heq
  rw [hlocal]
  exact ⟨⟨h.ready.makeAnswer, hanswered.registered, h.lined.reciprocate env 0 [] p.remoteEntries⟩,
    hanswered⟩

/-- The tracks stay in line. -/
theorem Ready.lined_makeOffer (h : p.Ready) (hused : ∀ i, (env.tables i).isUsed = true)
    (hlined : Lined p.tracks) : Lined (p.makeOffer env).tracks := by
  have hprocess := hlined.processLocalDescription env .offer p.mRemoteDescription
  rw [(processLocalDescription_offer h.keyed hused h.remote).1] at hprocess
  exact hprocess

/-- What a peer has after an offer: its tracks all have sections. -/
theorem Orderly.makeOffer (h : p.Orderly) (hquiet : Quiet env)
    (hused : ∀ i, (env.tables i).isUsed = true) (ms : List (String × Bool)) :
    (p.makeOffer env).Orderly ∧ (p.makeOffer env).Covers ∧
      (∀ media, .media media ∈ (p.makeOffer env).localEntries →
        Backed (p.makeOffer env).tracks media) ∧
      (Stuck (p.makeOffer env).tracks ms ↔ Stuck p.tracks ms) := by
  obtain ⟨-, -, -, apps, hoffered⟩ :=
    processLocalDescription_offer h.ready.keyed hused h.ready.remote
  have hone : ([] ++ p.remoteEntries).countP Entry.isApplication ≤ 1 := by
    rw [List.nil_append, remoteEntries]
    cases hremote : p.mRemoteDescription with
    | none => exact Nat.zero_le 1
    | some mEntries => exact Nat.le_of_eq (h.ready.remote mEntries hremote).one
  obtain ⟨answered, hentries, hanswered⟩ :=
    answered_reciprocate h.registered hquiet.callback hquiet.between (i := 0) hone
  have htracks : (p.makeOffer env).tracks =
      (State.reciprocate env 0 p.tracks [] p.remoteEntries).1 := by
    show offering p.tracks env p.remoteEntries = _
    rw [offering, hquiet.between]
    rfl
  have hlocal : (p.makeOffer env).localEntries =
      (p.makeOffer env).tracks.mTrackLines.foldl (p.makeOffer env).tracks.addTrack answered ++
        apps.map Entry.application := by
    rw [List.nil_append] at hentries
    rw [← hentries]
    exact hoffered
  have hlined := h.ready.lined_makeOffer hused h.lined
  rw [← htracks] at hanswered
  refine ⟨⟨h.ready.makeOffer hused, hanswered.registered, hlined⟩, ?_, ?_,
    stuck_iff_of_answered hanswered⟩
  · intro track t hlock
    have hlt := (List.getElem?_eq_some_iff.1 (lock_eq_some_iff.1 hlock).1).1
    rw [hlocal, mids_append]
    exact List.mem_append_left _ (mid_mem_foldl_addTrack (hlined track hlt) hlock)
  · intro media hmem
    rw [hlocal, List.mem_append] at hmem
    rcases hmem with hmem | hmem
    · rcases mem_foldl_addTrack hmem with hmem | ⟨track, t, hlock, rfl⟩
      · exact hanswered.backed media hmem
      · obtain ⟨ht, halive⟩ := lock_eq_some_iff.1 hlock
        refine ⟨track, t, ht, rfl, fun _ => rfl, fun hgone => ?_⟩
        rw [halive] at hgone
        cases hgone
    · obtain ⟨app, -, happ⟩ := List.mem_map.1 hmem
      cases happ

/-- The call of a peer that has just issued a description ends with nothing left to do, unless a
track is stuck. -/
theorem Orderly.finished_resume (h : p.Orderly) (hquiet : around.Quiet)
    (hms : ms <+: lines p.remoteEntries) (hstuck : ¬Stuck p.tracks ms) :
    (p.resume around).Finished := by
  cases hneeded : p.negotiationNeeded around.tables with
  | false =>
    rw [resume, hneeded]
    exact finished_of_eq_false around.isUsed hneeded
  | true =>
    rw [resume, hneeded, if_pos rfl]
    obtain ⟨hsound, hextends⟩ := h.ready.offered around.offering_isUsed
    obtain ⟨horderly, hcovers, hbacked, hiff⟩ :=
      h.makeOffer hquiet.offering around.offering_isUsed ms
    intro tables
    apply negotiationNeeded_eq_false rfl hsound horderly.registered hcovers hbacked
    intro hstuck'
    apply hstuck
    apply hiff.1
    exact hstuck'.mono fun mid hmem happ => hmem ((hms.trans hextends).subset happ)

end Peer

/-! ## Descriptions that reach the ends -/

/-- A description reaches an end, and nobody calls a function on the tracks there. -/
def Event.IsDelivery : Event → Prop
  | .deliver _ around => around.Quiet
  | _ => False

namespace Session

variable {s s' t : Session} {e : End} {p : Peer} {rest : List Sdp} {around : Surroundings}
  {ms : List (String × Bool)}

/-- The peer that returns from a call. -/
theorem peer_finish (s : Session) (rest : List Sdp) (p : Peer) (e : End) :
    (s.finish rest (p, none) e).peer e = p := by
  cases e <;> rfl

/-- What it has issued is on its way. -/
theorem link_finish_other (s : Session) (rest : List Sdp) (p : Peer) (e : End) :
    (s.finish rest (p, none) e).link e.other =
      s.link e.other ++ p.issued.drop (s.peer e).issued.length := by
  cases e <;> rfl

/-- What holds of the peer that returns from a call and of the one at the other end. -/
theorem forall_peer_finish {P : Peer → Prop} (h : P p) (hother : P (s.peer e.other)) :
    ∀ e', P ((s.finish rest (p, none) e).peer e') := by
  intro e'
  cases e with
  | polite =>
    cases e' with
    | polite => exact h
    | impolite => exact hother
  | impolite =>
    cases e' with
    | polite => exact hother
    | impolite => exact h

/-- A session in which all tracks are registered, and both local descriptions start with some
lines. -/
structure Tidy (ms : List (String × Bool)) (s : Session) : Prop where
  invariant : s.Invariant
  orderly : ∀ e, (s.peer e).Orderly
  base : ∀ e, ms <+: lines (s.peer e).localEntries

/-- The peer that answers an offer: nothing comes behind the offer, which is the pending one of the
other end. -/
theorem Invariant.answered (h : s.Invariant) (horderly : (s.peer e).Orderly) {d : Sdp} {r : Peer}
    (hlink : s.link e = d :: rest) (htype : d.type = .offer)
    (hstate : e = .impolite → (s.peer e).signalingState ≠ .haveLocalOffer) (hr : r.Ready)
    (htracks : r.tracks = (s.peer e).tracks) (hquiet : around.Quiet) {q : Peer}
    (hq : (r.take d.mEntries .haveRemoteOffer).makeAnswer around.processing = q) :
    rest = [] ∧ q.Orderly ∧ Answered (s.peer e).tracks q.tracks q.localEntries ∧
      lines q.localEntries = lines (s.peer e.other).localEntries ∧
      lines q.remoteEntries = lines (s.peer e.other).localEntries ∧
      lines (s.peer e).remoteEntries <+: lines q.localEntries ∧ Sound q.localEntries := by
  have hcoupled := h.at e
  rw [hlink] at hcoupled
  obtain ⟨hextends, rfl, -⟩ := hcoupled.answer htype hstate hr around.processing_isUsed
  have hd := hcoupled.side.incoming d (.head _)
  have hoffer : lines d.mEntries = lines (s.peer e.other).localEntries :=
    hcoupled.side.offers d rfl htype
  have htake : (r.take d.mEntries .haveRemoteOffer).Orderly := by
    refine ⟨hr.take hd _, ?_, ?_⟩
    · show Registered r.tracks
      rw [htracks]
      exact horderly.registered
    · show Lined r.tracks
      rw [htracks]
      exact horderly.lined
  obtain ⟨hanswer, hanswered⟩ := htake.makeAnswer hquiet.processing rfl
  obtain ⟨hsound, hlines⟩ := htake.ready.answered around.processing_isUsed rfl
  have hsame : (r.take d.mEntries .haveRemoteOffer).tracks = (s.peer e).tracks := htracks
  have hremote : (r.take d.mEntries .haveRemoteOffer).remoteEntries = d.mEntries := rfl
  rw [hq, hsame] at hanswered
  rw [hq] at hanswer hsound hlines
  rw [hremote] at hlines
  have hqremote : q.remoteEntries = d.mEntries := by
    rw [← hq]
    rfl
  refine ⟨rfl, hanswer, hanswered, hlines.trans hoffer, ?_, ?_, hsound⟩
  · rw [hqremote]
    exact hoffer
  · rw [hlines]
    exact hextends

/-- Automatic negotiation keeps a peer in order. -/
theorem orderly_resume (h : p.Orderly) (hquiet : around.Quiet) : (p.resume around).Orderly := by
  unfold Peer.resume
  split
  · exact (h.makeOffer hquiet.offering around.offering_isUsed []).1
  · exact h

/-- Automatic negotiation keeps the lines in front that a stable peer has. -/
theorem base_resume (h : p.Ready) (hlocal : ms <+: lines p.localEntries)
    (hremote : ms <+: lines p.remoteEntries) : ms <+: lines (p.resume around).localEntries := by
  unfold Peer.resume
  split
  · exact hremote.trans (h.offered around.offering_isUsed).2
  · exact hlocal

/-- A description that reaches an end keeps the session tidy. -/
theorem Tidy.deliver (h : Tidy ms s) (hquiet : around.Quiet)
    (hstep : s.step (.deliver e around) = some s') : Tidy ms s' := by
  have hinvariant := (h.invariant.deliver hstep).1
  let P (p : Peer) : Prop := p.Orderly ∧ ms <+: lines p.localEntries
  have hother : P (s.peer e.other) := ⟨h.orderly e.other, h.base e.other⟩
  suffices hall : ∀ e', P (s'.peer e') from
    ⟨hinvariant, fun e' => (hall e').1, fun e' => (hall e').2⟩
  cases h.invariant.delivers hstep with
  | drop =>
    apply forall_peer_finish ?_ hother
    exact ⟨h.orderly e, h.base e⟩
  | answer hlink htype hstate hr htracks =>
    obtain ⟨-, hq, -, hlocal, hremote, -, -⟩ := h.invariant.answered (h.orderly e) hlink htype
      hstate hr htracks hquiet rfl
    apply forall_peer_finish ?_ hother
    refine ⟨orderly_resume hq hquiet, base_resume hq.ready ?_ ?_⟩
    · rw [hlocal]
      exact h.base e.other
    · rw [hremote]
      exact h.base e.other
  | @take d rest hlink htype hstate =>
    have hcoupled := h.invariant.at e
    rw [hlink] at hcoupled
    have hd := hcoupled.side.incoming d (.head _)
    have hown := (hcoupled.side.answers d (.head _) htype).1
    have htake : ((s.peer e).take d.mEntries .stable).Orderly :=
      ⟨(h.orderly e).ready.take hd _, (h.orderly e).registered, (h.orderly e).lined⟩
    apply forall_peer_finish ?_ hother
    refine ⟨orderly_resume htake hquiet, base_resume htake.ready (h.base e) ?_⟩
    show ms <+: lines d.mEntries
    rw [hown]
    exact h.base e

/-! ## Without a track that is stuck -/

/-- What descriptions in flight weigh: an offer is answered. -/
def weigh (link : List Sdp) : ℕ := link.length + link.countP (·.type = .offer)

/-- The polite peer is about to roll its offer back, and may repeat it. -/
def yields (s : Session) : Bool :=
  s.polite.signalingState = .haveLocalOffer && s.toPolite.head?.any (·.type = .offer)

/-- The descriptions that may still reach an end. -/
def weight (s : Session) : ℕ :=
  weigh s.toPolite + weigh s.toImpolite + if s.yields then 2 else 0

theorem weigh_append (link sent : List Sdp) : weigh (link ++ sent) = weigh link + weigh sent := by
  rw [weigh, weigh, weigh, List.length_append, List.countP_append]
  omega

theorem weigh_offer {d : Sdp} (h : d.type = .offer) (link : List Sdp) :
    weigh (d :: link) = weigh link + 2 := by
  rw [weigh, weigh, List.length_cons, List.countP_cons, h]
  simp
  omega

theorem weigh_answer {d : Sdp} (h : d.type = .answer) (link : List Sdp) :
    weigh (d :: link) = weigh link + 1 := by
  rw [weigh, weigh, List.length_cons, List.countP_cons, h]
  simp
  omega

/-- The links, seen from an end. -/
theorem weigh_link (s : Session) (e : End) :
    weigh s.toPolite + weigh s.toImpolite = weigh (s.link e) + weigh (s.link e.other) := by
  cases e with
  | polite => rfl
  | impolite => exact Nat.add_comm _ _

/-- What a call adds to the links. -/
theorem weigh_finish (s : Session) (rest : List Sdp) (p : Peer) (e : End) :
    weigh (s.finish rest (p, none) e).toPolite + weigh (s.finish rest (p, none) e).toImpolite =
      weigh rest + weigh (s.link e.other) +
        weigh (p.issued.drop (s.peer e).issued.length) := by
  cases e with
  | polite =>
    show weigh rest + weigh (s.toImpolite ++ _) = _
    rw [weigh_append, Nat.add_assoc]
    rfl
  | impolite =>
    show weigh (s.toPolite ++ _) + weigh rest = _
    rw [weigh_append, Nat.add_comm, Nat.add_assoc]
    rfl

/-- Automatic negotiation issues an offer at most. -/
theorem weigh_resume (p : Peer) (around : Surroundings) :
    weigh ((p.resume around).issued.drop p.issued.length) ≤ 2 := by
  unfold Peer.resume
  split
  · have hsent : (p.makeOffer around.offering).issued.drop p.issued.length =
        [⟨.offer, (p.makeOffer around.offering).localEntries⟩] := List.drop_left
    rw [hsent]
    exact Nat.le_refl 2
  · rw [List.drop_length]
    exact Nat.zero_le 2

/-- The polite peer yields after a call of the impolite one only if it did before, when that does
not begin with an offer. -/
theorem yields_finish_impolite {sent : List Sdp}
    (hsent : p.issued.drop s.impolite.issued.length = sent)
    (hhead : sent.head?.any (·.type = .offer) = false) :
    (s.finish rest (p, none) .impolite).yields = s.yields := by
  have hlink : (s.finish rest (p, none) .impolite).toPolite = s.toPolite ++ sent := by
    rw [← hsent]
    rfl
  have hpolite : (s.finish rest (p, none) .impolite).polite = s.polite := rfl
  rw [yields, yields, hlink, hpolite]
  cases hto : s.toPolite with
  | nil => rw [List.nil_append, hhead, List.head?_nil, Option.any_none]
  | cons d link => rfl

/-- The polite peer does not yield once it has answered, or is stable. -/
theorem yields_finish_polite (h : p.signalingState = .stable ∨ rest = []) :
    (s.finish rest (p, none) .polite).yields = false := by
  have hlink : (s.finish rest (p, none) .polite).toPolite = rest := rfl
  have hpolite : (s.finish rest (p, none) .polite).polite = p := rfl
  rw [yields, hlink, hpolite]
  rcases h with hstable | rfl
  · rw [hstable]
    rfl
  · exact Bool.and_false _

/-- A session in which no track is stuck and nothing is left to negotiate. -/
structure Settled (ms : List (String × Bool)) (s : Session) : Prop where
  tidy : Tidy ms s
  finished : ∀ e, (s.peer e).Finished
  free : ∀ e, ¬Stuck (s.peer e).tracks ms

/-- A stable peer that has nothing left to negotiate has nothing left either when it has answered an
offer. -/
theorem Invariant.finished_answered (h : s.Invariant)
    (hstable : (s.peer e).signalingState = .stable) (horderly : (s.peer e).Orderly)
    (hfinished : (s.peer e).Finished) (hstuck : ¬Stuck (s.peer e).tracks ms) {q : Peer}
    (hlocal : q.mLocalDescription = some q.localEntries) (hq : q.Orderly)
    (hanswered : Answered (s.peer e).tracks q.tracks q.localEntries)
    (hextends : lines (s.peer e).remoteEntries <+: lines q.localEntries)
    (hsound : Sound q.localEntries) (hbase : ms <+: lines q.localEntries) : q.Finished := by
  intro tables
  apply Peer.negotiationNeeded_eq_false hlocal hsound hq.registered ?_ hanswered.backed
  · intro hstuck'
    apply hstuck
    apply (stuck_iff_of_answered hanswered).1
    exact hstuck'.mono fun mid hmem happ => hmem (hbase.subset happ)
  · -- the older tracks had sections before, which are in the answer too
    have hcovers := Peer.covers_of_negotiationNeeded horderly.registered
      (hfinished { mUnassignedDataChannels := 1 })
    have hown := (h.at e).side.own hstable
    intro track t hlock
    obtain ⟨ht, halive⟩ := lock_eq_some_iff.1 hlock
    rcases hanswered.new track t ht with hold | ⟨-, hmid⟩
    · have hmem := hcovers track t (lock_eq_some_iff.2 ⟨hold, halive⟩)
      rw [← map_fst_lines, hown, map_fst_lines] at hmem
      exact (prefix_mids hextends).subset hmem
    · exact hmid

/-- What is on its way to an end, and the part of the weight that is not on the links. -/
theorem weight_eq (s : Session) (e : End) {d : Sdp} (hlink : s.link e = d :: rest) :
    s.weight = weigh (d :: rest) + weigh (s.link e.other) + if s.yields then 2 else 0 := by
  rw [weight, weigh_link s e, hlink]

/-- The session stays settled where nothing changes at the other end. -/
theorem Settled.of_finish (h : Settled ms s) (htidy : Tidy ms (s.finish rest (p, none) e))
    (hfinished : p.Finished) (hfree : ¬Stuck p.tracks ms) :
    Settled ms (s.finish rest (p, none) e) where
  tidy := htidy
  finished := forall_peer_finish (P := Peer.Finished) hfinished (h.finished e.other)
  free := forall_peer_finish (P := fun p => ¬Stuck p.tracks ms) hfree (h.free e.other)

/-- Automatic negotiation leaves no track stuck. -/
theorem stuck_resume (h : p.Orderly) (hquiet : around.Quiet) :
    Stuck (p.resume around).tracks ms ↔ Stuck p.tracks ms := by
  unfold Peer.resume
  split
  · exact (h.makeOffer hquiet.offering around.offering_isUsed ms).2.2.2
  · exact Iff.rfl

/-- A description that reaches an end leaves less to do. -/
theorem Settled.deliver (h : Settled ms s) (hquiet : around.Quiet)
    (hstep : s.step (.deliver e around) = some s') : Settled ms s' ∧ s'.weight < s.weight := by
  have htidy := h.tidy.deliver hquiet hstep
  cases h.tidy.invariant.delivers hstep with
  | @drop d rest hlink himpolite htype _ =>
    subst himpolite
    refine ⟨h.of_finish htidy (h.finished _) (h.free _), ?_⟩
    have hsent : (s.peer .impolite).issued.drop s.impolite.issued.length = [] := List.drop_length
    have hyields : (s.finish rest (s.peer .impolite, none) .impolite).yields = s.yields :=
      yields_finish_impolite hsent rfl
    rw [weight, weigh_finish, hyields, weight_eq s .impolite hlink, weigh_offer htype,
      List.drop_length]
    show weigh rest + _ + 0 + _ < _
    omega
  | @take d rest hlink htype hstate =>
    -- nothing is left to negotiate, so that no offer follows
    have hfinished : ((s.peer e).take d.mEntries .stable).Finished := h.finished e
    rw [hfinished.resume] at htidy ⊢
    refine ⟨h.of_finish htidy hfinished (h.free e), ?_⟩
    have hsent : ((s.peer e).take d.mEntries .stable).issued.drop (s.peer e).issued.length = [] :=
      List.drop_length
    have hyields : (s.finish rest ((s.peer e).take d.mEntries .stable, none) e).yields = true →
        s.yields = true := by
      cases e with
      | polite =>
        rw [yields_finish_polite (.inl rfl)]
        exact fun hfalse => absurd hfalse Bool.false_ne_true
      | impolite =>
        rw [yields_finish_impolite hsent rfl]
        exact id
    rw [weight, weigh_finish, hsent, weight_eq s e hlink, weigh_answer htype]
    show weigh rest + _ + 0 + _ < _
    split
    · next hnew =>
      rw [if_pos (hyields hnew)]
      omega
    · omega
  | @answer d rest r hlink htype hstate hr htracks hissued _ =>
    have hcoupled := h.tidy.invariant.at e
    generalize hq : (r.take d.mEntries .haveRemoteOffer).makeAnswer around.processing = q at htidy ⊢
    obtain ⟨rfl, horderly, hanswered, hlocal, hremote, hextends, hsound⟩ :=
      h.tidy.invariant.answered (h.tidy.orderly e) hlink htype hstate hr htracks hquiet hq
    have hbase : ms <+: lines q.localEntries := by
      rw [hlocal]
      exact h.tidy.base e.other
    have hfree : ¬Stuck q.tracks ms := by
      rw [stuck_iff_of_answered hanswered]
      exact h.free e
    have hqlocal : q.mLocalDescription = some q.localEntries := by
      rw [← hq]
      rfl
    have hqstate : q.signalingState = .stable := by
      rw [← hq]
      rfl
    have hfinished : (q.resume around).Finished := by
      apply horderly.finished_resume hquiet ?_ hfree
      rw [hremote]
      exact h.tidy.base e.other
    refine ⟨h.of_finish htidy hfinished ?_, ?_⟩
    · rwa [stuck_resume horderly hquiet]
    have hsent := drop_answer hissued hq
    rw [weight, weigh_finish, hsent, weigh_append, weight_eq s e hlink, weigh_offer htype]
    have hanswer : weigh [⟨.answer, q.localEntries⟩] = 1 := rfl
    have hnil : weigh [] = 0 := rfl
    rw [hanswer, hnil]
    rcases hcoupled.phase.state with hstable | hpending
    · -- no offer follows the answer
      have hqfinished := h.tidy.invariant.finished_answered hstable (h.tidy.orderly e)
        (h.finished e) (h.free e) hqlocal horderly hanswered hextends hsound hbase
      rw [hqfinished.resume] at hsent ⊢
      rw [List.drop_length, List.append_nil] at hsent
      rw [List.drop_length, hnil]
      have hyields : (s.finish [] (q, none) e).yields = true → s.yields = true := by
        cases e with
        | polite =>
          rw [yields_finish_polite (.inr rfl)]
          exact fun hfalse => absurd hfalse Bool.false_ne_true
        | impolite =>
          rw [yields_finish_impolite hsent rfl]
          exact id
      split
      · next hnew =>
        rw [if_pos (hyields hnew)]
        omega
      · omega
    · -- the polite peer has rolled its offer back
      cases e with
      | impolite => exact absurd hpending (hstate rfl)
      | polite =>
        have hold : s.yields = true := by
          have hto : s.toPolite = [d] := hlink
          have hpolite : s.polite.signalingState = .haveLocalOffer := hpending
          rw [yields, hto, hpolite]
          simp [htype]
        have hsmall := weigh_resume q around
        rw [yields_finish_polite (.inr rfl), hold, if_pos rfl]
        simp only [Bool.false_eq_true, if_false]
        omega

/-- A run of deliveries is not longer than the session weighs. -/
theorem Settled.run (h : Settled ms s) {ds : List Event} (hds : ∀ d ∈ ds, d.IsDelivery)
    (hrun : Transition.run Session.step s ds = some t) :
    Settled ms t ∧ ds.length + t.weight ≤ s.weight := by
  induction ds generalizing s with
  | nil =>
    obtain rfl := Option.some.inj hrun
    exact ⟨h, Nat.le_of_eq (Nat.zero_add _)⟩
  | cons d ds ih =>
    obtain ⟨s', hstep, hrest⟩ := Transition.run_cons.1 hrun
    obtain ⟨hd, hdeliveries⟩ := List.forall_mem_cons.1 hds
    cases d with
    | track => cases hd
    | offer => cases hd
    | deliver e around =>
      obtain ⟨hs', hless⟩ := h.deliver hd hstep
      obtain ⟨ht, hlength⟩ := ih hs' hdeliveries hrest
      refine ⟨ht, ?_⟩
      rw [List.length_cons]
      omega

/-! ## With a track that is stuck -/

/-- A session in which an end has a track that is stuck, and an offer pending. -/
structure Restless (ms : List (String × Bool)) (e : End) (s : Session) : Prop where
  tidy : Tidy ms s
  pending : (s.peer e).signalingState = .haveLocalOffer
  wants : (s.peer e).Wants
  stuck : Stuck (s.peer e).tracks ms

/-- A peer that wants to negotiate makes an offer, and then still wants to. -/
theorem wants_resume {mEntries : List Entry} (hms : Sound mEntries) (h : p.Orderly)
    (hquiet : around.Quiet) (hextends : lines mEntries <+: lines p.remoteEntries)
    (hstuck : Stuck p.tracks (lines mEntries)) (hwants : p.Wants) :
    (p.resume around).signalingState = .haveLocalOffer ∧ (p.resume around).Wants ∧
      Stuck (p.resume around).tracks (lines mEntries) := by
  rw [hwants.resume]
  obtain ⟨hsound, hlines⟩ := h.ready.offered around.offering_isUsed
  obtain ⟨horderly, -, hbacked, hiff⟩ :=
    h.makeOffer hquiet.offering around.offering_isUsed (lines mEntries)
  refine ⟨rfl, fun tables => ?_, hiff.2 hstuck⟩
  apply Peer.negotiationNeeded_of_stuck rfl horderly.registered hbacked
  exact (hiff.2 hstuck).mono fun _ => hms.application_notMem hsound (hextends.trans hlines)

/-- Nothing changes at the other end. -/
theorem Delivers.peer_other (h : s.Delivers e around s') : s'.peer e.other = s.peer e.other := by
  cases h <;> cases e <;> rfl

/-- A description that reaches an end leaves the session restless. -/
theorem Restless.deliver {mEntries : List Entry} (hms : Sound mEntries) {e' : End}
    (h : Restless (lines mEntries) e s) (hquiet : around.Quiet)
    (hstep : s.step (.deliver e' around) = some s') : Restless (lines mEntries) e s' := by
  have htidy := h.tidy.deliver hquiet hstep
  have hdelivers := h.tidy.invariant.delivers hstep
  by_cases hend : e' = e
  swap
  · have hother : e'.other = e := by
      revert hend
      cases e <;> cases e' <;> simp [End.other]
    have hsame := hdelivers.peer_other
    rw [hother] at hsame
    exact ⟨htidy, hsame ▸ h.pending, hsame ▸ h.wants, hsame ▸ h.stuck⟩
  subst hend
  suffices hpeer : (s'.peer e').signalingState = .haveLocalOffer ∧ (s'.peer e').Wants ∧
      Stuck (s'.peer e').tracks (lines mEntries) from ⟨htidy, hpeer.1, hpeer.2.1, hpeer.2.2⟩
  cases hdelivers with
  | drop =>
    rw [peer_finish]
    exact ⟨h.pending, h.wants, h.stuck⟩
  | @take d rest hlink htype hstate =>
    have hcoupled := h.tidy.invariant.at e'
    rw [hlink] at hcoupled
    have hd := hcoupled.side.incoming d (.head _)
    have horderly := h.tidy.orderly e'
    have htake : ((s.peer e').take d.mEntries .stable).Orderly :=
      ⟨horderly.ready.take hd _, horderly.registered, horderly.lined⟩
    rw [peer_finish]
    apply wants_resume hms htake hquiet ?_ h.stuck h.wants
    show _ <+: lines d.mEntries
    rw [(hcoupled.side.answers d (.head _) htype).1]
    exact h.tidy.base e'
  | @answer d rest r hlink htype hstate hr htracks hissued _ =>
    rw [peer_finish]
    generalize hq : (r.take d.mEntries .haveRemoteOffer).makeAnswer around.processing = q
    obtain ⟨-, horderly, hanswered, hlocal, hremote, -, hsound⟩ :=
      h.tidy.invariant.answered (h.tidy.orderly e') hlink htype hstate hr htracks hquiet hq
    have hbase := h.tidy.base e'.other
    have hstuck := (stuck_iff_of_answered hanswered).2 h.stuck
    apply wants_resume hms horderly hquiet (hremote ▸ hbase) hstuck
    intro tables
    have hqlocal : q.mLocalDescription = some q.localEntries := by
      rw [← hq]
      rfl
    apply Peer.negotiationNeeded_of_stuck hqlocal horderly.registered hanswered.backed
    exact hstuck.mono fun _ => hms.application_notMem hsound (hlocal ▸ hbase)

/-- With an offer pending something is in flight. -/
theorem Restless.link_ne_nil (h : Restless ms e s) : s.toPolite ≠ [] ∨ s.toImpolite ≠ [] := by
  by_contra hnone
  push Not at hnone
  have hstable := (h.tidy.invariant.quiet hnone.1 hnone.2).1 e
  rw [h.pending] at hstable
  cases hstable

/-- So does a run of deliveries. -/
theorem Restless.run {mEntries : List Entry} (hms : Sound mEntries)
    (h : Restless (lines mEntries) e s) {ds : List Event} (hds : ∀ d ∈ ds, d.IsDelivery)
    (hrun : Transition.run Session.step s ds = some t) : Restless (lines mEntries) e t := by
  apply Transition.run_invariant (P := Restless (lines mEntries) e) ?_ h
    (Transition.meets_of_forall hds) hrun
  intro u d u' hu hd hstep
  cases d with
  | track => cases hd
  | offer => cases hd
  | deliver e' around => exact hu.deliver hms hd hstep

/-! ## From an offer on -/

/-- The tracks of both peers are in line. -/
def InLine (s : Session) : Prop := ∀ e, Lined (s.peer e).tracks

theorem lined_resume (h : p.Ready) (hlined : Lined p.tracks) : Lined (p.resume around).tracks := by
  unfold Peer.resume
  split
  · exact h.lined_makeOffer around.offering_isUsed hlined
  · exact hlined

/-- Every event keeps the tracks in line. -/
theorem Invariant.inLine (h : s.Invariant) (hlined : s.InLine) {event : Event}
    (hstep : s.step event = some s') : s'.InLine := by
  let P (p : Peer) : Prop := Lined p.tracks
  cases event with
  | track e call =>
    obtain rfl := Option.some.inj hstep
    exact forall_peer_finish (P := P) ((hlined e).call call) (hlined e.other)
  | offer e around =>
    obtain rfl := Option.some.inj hstep
    have hcoupled := h.at e
    rcases hcoupled.phase.state with hstate | hstate
    · rw [hcoupled.side.ready.setLocalDescription_offer hstate]
      apply forall_peer_finish (P := P) ?_ (hlined e.other)
      exact hcoupled.side.ready.lined_makeOffer around.processing_isUsed (hlined e)
    · rw [Peer.setLocalDescription_ignored hstate]
      exact forall_peer_finish (P := P) (hlined e) (hlined e.other)
  | deliver e around =>
    cases h.delivers hstep with
    | drop => exact forall_peer_finish (P := P) (hlined e) (hlined e.other)
    | @take d rest hlink htype hstate =>
      have hcoupled := h.at e
      rw [hlink] at hcoupled
      apply forall_peer_finish (P := P) ?_ (hlined e.other)
      apply lined_resume (hcoupled.side.ready.take (hcoupled.side.incoming d (.head _)) _)
      exact hlined e
    | @answer d rest r hlink htype hstate hr htracks =>
      have hcoupled := h.at e
      rw [hlink] at hcoupled
      have htake := hr.take (hcoupled.side.incoming d (.head _)) .haveRemoteOffer
      apply forall_peer_finish (P := P) ?_ (hlined e.other)
      apply lined_resume htake.makeAnswer
      apply Lined.reciprocate
      show Lined r.tracks
      rw [htracks]
      exact hlined e

/-- In every reachable session the tracks are in line. -/
theorem inLine_of_run {polite impolite : Bool × Option ℕ} {es : List Event}
    (hrun : Transition.run Session.step (start polite impolite) es = some s) : s.InLine := by
  refine (Transition.run_invariant_all (P := fun u => u.Invariant ∧ u.InLine) ?_ ?_ hrun).2
  · rintro u event u' ⟨hu, hlined⟩ hstep
    exact ⟨(hu.step hstep).1, hu.inLine hlined hstep⟩
  · refine ⟨invariant_start polite impolite, fun e track hlt => ?_⟩
    cases e <;> exact absurd hlt (Nat.not_lt_zero track)

/-- A session in which an end has made an offer, and nothing else is in flight. -/
structure Offered (e : End) (s : Session) : Prop where
  invariant : s.Invariant
  orderly : ∀ e', (s.peer e').Orderly
  idle : s.link e = []
  offer : ∃ d, s.link e.other = [d] ∧ d.type = .offer
  pending : (s.peer e).signalingState = .haveLocalOffer
  stable : (s.peer e.other).signalingState = .stable

/-- The other end answers the offer. -/
theorem Offered.deliver (h : Offered e s) {e' : End} (hquiet : around.Quiet)
    (hms : Sound (s.peer e).localEntries)
    (hstep : s.step (.deliver e' around) = some s') :
    Tidy (lines (s.peer e).localEntries) s' ∧ s'.weight ≤ 3 ∧ s'.peer e = s.peer e ∧
      (¬Stuck (s.peer e.other).tracks (lines (s.peer e).localEntries) →
        (s'.peer e.other).Finished ∧
          ¬Stuck (s'.peer e.other).tracks (lines (s.peer e).localEntries)) ∧
      (Stuck (s.peer e.other).tracks (lines (s.peer e).localEntries) →
        (s'.peer e.other).signalingState = .haveLocalOffer ∧ (s'.peer e.other).Wants ∧
          Stuck (s'.peer e.other).tracks (lines (s.peer e).localEntries)) := by
  have hinvariant := (h.invariant.deliver hstep).1
  have hdelivers := h.invariant.delivers hstep
  obtain ⟨d, hd, htype⟩ := h.offer
  -- the offer is all there is
  obtain rfl : e' = e.other := by
    by_contra hne
    obtain rfl : e' = e := by
      revert hne
      cases e <;> cases e' <;> simp [End.other]
    cases hdelivers with
    | drop hlink => exact absurd (h.idle.symm.trans hlink) (List.cons_ne_nil _ _).symm
    | answer hlink => exact absurd (h.idle.symm.trans hlink) (List.cons_ne_nil _ _).symm
    | take hlink => exact absurd (h.idle.symm.trans hlink) (List.cons_ne_nil _ _).symm
  have hother : e.other.other = e := by
    cases e <;> rfl
  have hsame := hdelivers.peer_other
  rw [hother] at hsame
  have hstable := h.stable
  cases hdelivers with
  | drop _ _ _ hstate =>
    rw [hstable] at hstate
    cases hstate
  | take _ _ hstate =>
    rw [hstable] at hstate
    cases hstate
  | @answer d' rest r hlink htype' hstate hr htracks hissued _ =>
    generalize hq : (r.take d'.mEntries .haveRemoteOffer).makeAnswer around.processing = q
      at hinvariant hsame ⊢
    obtain ⟨rfl, horderly, hanswered, hlocal, hremote, -, hsound⟩ :=
      h.invariant.answered (h.orderly e.other) hlink htype' hstate hr htracks hquiet hq
    rw [hother] at hlocal hremote
    have hextends : lines (s.peer e).localEntries <+: lines q.localEntries := by
      simp [hlocal]
    have hextends' : lines (s.peer e).localEntries <+: lines q.remoteEntries := by
      simp [hremote]
    have hpeer := s.peer_finish [] (q.resume around) e.other
    have hsent := drop_answer hissued hq
    refine ⟨⟨hinvariant, ?_, ?_⟩, ?_, hsame, ?_, ?_⟩
    · apply forall_peer_finish (P := Peer.Orderly) (orderly_resume horderly hquiet)
      rw [hother]
      exact h.orderly e
    · apply forall_peer_finish
        (P := fun p => lines (s.peer e).localEntries <+: lines p.localEntries)
      · exact base_resume horderly.ready hextends hextends'
      · simp [hother]
    · have hsmall := weigh_resume q around
      have hyields : (s.finish [] (q.resume around, none) e.other).yields = false := by
        cases e with
        | impolite => exact yields_finish_polite (.inr rfl)
        | polite =>
          show (s.finish [] (q.resume around, none) .impolite).yields = false
          rw [yields_finish_impolite hsent rfl]
          have hnil : s.toPolite = [] := h.idle
          rw [yields, hnil]
          exact Bool.and_false _
      rw [weight, weigh_finish, hyields, hsent, weigh_append, hother, h.idle]
      show 0 + 0 + (1 + _) + 0 ≤ 3
      omega
    · intro hfree
      have hqfree : ¬Stuck q.tracks (lines (s.peer e).localEntries) := by
        rwa [stuck_iff_of_answered hanswered]
      rw [hpeer, stuck_resume horderly hquiet]
      exact ⟨horderly.finished_resume hquiet hextends' hqfree, hqfree⟩
    · intro hstuck
      rw [hpeer]
      have hqstuck := (stuck_iff_of_answered hanswered).2 hstuck
      apply wants_resume hms horderly hquiet hextends' hqstuck
      intro tables
      have hqlocal : q.mLocalDescription = some q.localEntries := by
        rw [← hq]
        rfl
      apply Peer.negotiationNeeded_of_stuck hqlocal horderly.registered hanswered.backed
      exact hqstuck.mono fun _ => hms.application_notMem hsound hextends

/-- A stable peer makes an offer while nothing is in flight. -/
theorem offered_of_step (h : s.Invariant) (hpolite : s.toPolite = [])
    (himpolite : s.toImpolite = []) (horderly : ∀ e, (s.peer e).Orderly) (hquiet : around.Quiet)
    (hstep : s.step (.offer e around) = some s') :
    Offered e s' ∧ s'.peer e = (s.peer e).makeOffer around.processing ∧
      s'.peer e.other = s.peer e.other := by
  have hinvariant := (h.offer hstep).1
  obtain ⟨hstable, -⟩ := h.quiet hpolite himpolite
  have hlink : ∀ e, s.link e = [] := by
    intro e
    cases e with
    | polite => exact hpolite
    | impolite => exact himpolite
  obtain rfl := Option.some.inj hstep
  rw [(horderly e).ready.setLocalDescription_offer (hstable e)] at hinvariant ⊢
  have hoffer := (horderly e).makeOffer hquiet.processing around.processing_isUsed []
  have hsent : ((s.peer e).makeOffer around.processing).issued.drop (s.peer e).issued.length =
      [⟨.offer, ((s.peer e).makeOffer around.processing).localEntries⟩] := List.drop_left
  have hother : ∀ p, (s.finish (s.link e) (p, none) e).peer e.other = s.peer e.other := by
    intro p
    cases e <;> rfl
  refine ⟨⟨hinvariant, forall_peer_finish (P := Peer.Orderly) hoffer.1 (horderly e.other), ?_,
    ⟨⟨.offer, ((s.peer e).makeOffer around.processing).localEntries⟩, ?_, rfl⟩, ?_, ?_⟩,
    peer_finish .., hother _⟩
  · cases e with
    | polite => exact hpolite
    | impolite => exact himpolite
  · rw [link_finish_other, hlink, hsent]
    rfl
  · rw [peer_finish]
    rfl
  · rw [hother]
    exact hstable e.other

/-- As long as something is in flight, it can reach an end. -/
theorem exists_deliver (h : s.link e ≠ []) (around : Surroundings) :
    ∃ s', s.step (.deliver e around) = some s' := by
  cases hlink : s.link e with
  | nil => exact absurd hlink h
  | cons d rest =>
    simp only [Session.step, hlink]
    split
    · exact ⟨_, rfl⟩
    · exact ⟨_, rfl⟩

/-- Negotiation comes to an end: nothing is in flight after some deliveries. -/
def Settles (s : Session) : Prop :=
  ∃ ds t, (∀ d ∈ ds, Event.IsDelivery d) ∧ Transition.run Session.step s ds = some t ∧
    t.toPolite = [] ∧ t.toImpolite = []

theorem quietly_quiet : quietly.Quiet := ⟨⟨rfl, rfl⟩, ⟨rfl, rfl⟩⟩

/-- One more delivery. -/
theorem Settles.deliver (h : s'.Settles) (hquiet : around.Quiet)
    (hstep : s.step (.deliver e around) = some s') : s.Settles := by
  obtain ⟨ds, t, hds, hrun, hlinks⟩ := h
  exact ⟨.deliver e around :: ds, t, List.forall_mem_cons.2 ⟨hquiet, hds⟩,
    Transition.run_cons.2 ⟨s', hstep, hrun⟩, hlinks⟩

/-- A settled session settles. -/
theorem Settled.settles (h : Settled ms s) : s.Settles := by
  -- each delivery leaves less to do
  generalize hn : s.weight = n
  induction n using Nat.strongRecOn generalizing s with
  | ind n ih =>
    subst hn
    by_cases hquiet : s.toPolite = [] ∧ s.toImpolite = []
    · exact ⟨[], s, List.forall_mem_nil _, rfl, hquiet⟩
    · obtain ⟨e, he⟩ : ∃ e, s.link e ≠ [] := by
        rcases not_and_or.1 hquiet with hne | hne
        · exact ⟨.polite, hne⟩
        · exact ⟨.impolite, hne⟩
      obtain ⟨s', hstep⟩ := exists_deliver he quietly
      obtain ⟨hs', hless⟩ := h.deliver quietly_quiet hstep
      exact (ih _ hless hs' rfl).deliver quietly_quiet hstep

/-- What holds of one end and of the other one holds of both. -/
theorem forall_end {P : End → Prop} (h : P e) (hother : P e.other) : ∀ e', P e' := by
  intro e'
  cases e <;> cases e' <;> assumption

/-- The answer leaves nothing to negotiate. -/
theorem Offered.settled (h : Offered e s) (hms : Sound (s.peer e).localEntries)
    (hfinished : (s.peer e).Finished)
    (hfree : ∀ e', ¬Stuck (s.peer e').tracks (lines (s.peer e).localEntries)) {e' : End}
    (hquiet : around.Quiet) (hstep : s.step (.deliver e' around) = some s') :
    Settled (lines (s.peer e).localEntries) s' ∧ s'.weight ≤ 3 := by
  obtain ⟨htidy, hweight, hsame, hother, -⟩ := h.deliver hquiet hms hstep
  obtain ⟨hotherFinished, hotherFree⟩ := hother (hfree e.other)
  refine ⟨⟨htidy, ?_, ?_⟩, hweight⟩
  · apply forall_end (P := fun e => (s'.peer e).Finished) (e := e) ?_ hotherFinished
    rw [hsame]
    exact hfinished
  · apply forall_end
      (P := fun e' => ¬Stuck (s'.peer e').tracks (lines (s.peer e).localEntries)) (e := e) ?_
      hotherFree
    rw [hsame]
    exact hfree e

/-- After the answer an end with a track that is stuck has made an offer. -/
theorem Offered.restless (h : Offered e s) (hms : Sound (s.peer e).localEntries)
    (hwants : Stuck (s.peer e).tracks (lines (s.peer e).localEntries) → (s.peer e).Wants)
    {stuck : End} (hstuck : Stuck (s.peer stuck).tracks (lines (s.peer e).localEntries)) {e' : End}
    (hquiet : around.Quiet) (hstep : s.step (.deliver e' around) = some s') :
    Restless (lines (s.peer e).localEntries) stuck s' := by
  obtain ⟨htidy, -, hsame, -, hother⟩ := h.deliver hquiet hms hstep
  by_cases hend : stuck = e
  · subst hend
    have hpending := h.pending
    have hwants := hwants hstuck
    rw [← hsame] at hpending hwants
    refine ⟨htidy, hpending, hwants, ?_⟩
    rw [hsame]
    exact hstuck
  · obtain rfl : stuck = e.other := by
      revert hend
      cases e <;> cases stuck <;> simp [End.other]
    obtain ⟨hpending, hwants, hstill⟩ := hother hstuck
    exact ⟨htidy, hpending, hwants, hstill⟩

/-- A run of deliveries that is not empty begins with one. -/
theorem exists_first {d : Event} {ds : List Event} (hds : ∀ d' ∈ d :: ds, Event.IsDelivery d')
    (hrun : Transition.run Session.step s (d :: ds) = some t) :
    ∃ e around s', Surroundings.Quiet around ∧ s.step (.deliver e around) = some s' ∧
      (∀ d' ∈ ds, Event.IsDelivery d') ∧ Transition.run Session.step s' ds = some t := by
  obtain ⟨s', hstep, hrest⟩ := Transition.run_cons.1 hrun
  obtain ⟨hd, hdeliveries⟩ := List.forall_mem_cons.1 hds
  cases d with
  | track => cases hd
  | offer => cases hd
  | deliver e around => exact ⟨e, around, s', hd, hstep, hdeliveries, hrest⟩

/-- **Negotiation settles.** In every reachable session in which nothing is in flight and every
track is the one registered under its mid, after an offer of one of the peers the negotiation comes
to an end exactly when at neither end a track exists that is closed without having been removed.
Then it takes four deliveries at most, and at the end no negotiation is needed and every track that
exists has a section. -/
theorem settles_iff {polite impolite : Bool × Option ℕ} {es : List Event}
    (hrun : Transition.run Session.step (start polite impolite) es = some s)
    (hpolite : s.toPolite = []) (himpolite : s.toImpolite = [])
    (hregistered : ∀ e, Registered (s.peer e).tracks) (hquiet : around.Quiet)
    (hoffer : s.step (.offer e around) = some s') :
    (s'.Settles ↔ ∀ e', ¬Stuck (s'.peer e').tracks (lines (s'.peer e).localEntries)) ∧
      ((∀ e', ¬Stuck (s'.peer e').tracks (lines (s'.peer e).localEntries)) →
        ∀ ds t, (∀ d ∈ ds, Event.IsDelivery d) → Transition.run Session.step s' ds = some t →
          ds.length ≤ 4 ∧ (t.toPolite = [] → t.toImpolite = [] →
            ∀ e', (t.peer e').Finished ∧ (t.peer e').Covers)) := by
  obtain ⟨hs, -⟩ := (invariant_start polite impolite).run hrun
  have horderly (e : End) : (s.peer e).Orderly :=
    ⟨(hs.at e).side.ready, hregistered e, inLine_of_run hrun e⟩
  obtain ⟨hoffered, hpeer, -⟩ := offered_of_step hs hpolite himpolite horderly hquiet hoffer
  have hms : Sound (s'.peer e).localEntries := by
    rw [hpeer]
    exact ((horderly e).ready.offered around.processing_isUsed).1
  have hlocal : (s'.peer e).mLocalDescription = some (s'.peer e).localEntries := by
    rw [hpeer]
    rfl
  obtain ⟨-, hcovers, hbacked, -⟩ :=
    (horderly e).makeOffer hquiet.processing around.processing_isUsed []
  rw [← hpeer] at hcovers hbacked
  have hregistered' := (hoffered.orderly e).registered
  have hfinished (hfree : ∀ e', ¬Stuck (s'.peer e').tracks (lines (s'.peer e).localEntries)) :
      (s'.peer e).Finished := fun _ =>
    Peer.negotiationNeeded_eq_false hlocal hms hregistered' hcovers hbacked (hfree e)
  have hwants (hstuck : Stuck (s'.peer e).tracks (lines (s'.peer e).localEntries)) :
      (s'.peer e).Wants := fun _ =>
    Peer.negotiationNeeded_of_stuck hlocal hregistered' hbacked hstuck
  obtain ⟨d, hd, -⟩ := hoffered.offer
  have hinFlight : s'.link e.other ≠ [] := by
    rw [hd]
    exact List.cons_ne_nil _ _
  refine ⟨⟨?_, fun hfree => ?_⟩, fun hfree ds t hds hrun' => ?_⟩
  · -- an end with a track that is stuck always has an offer pending
    rintro ⟨ds, t, hds, hrun', hquietly⟩ e' hstuck
    cases ds with
    | nil =>
      obtain rfl := Option.some.inj hrun'
      cases e with
      | polite => exact hinFlight hquietly.2
      | impolite => exact hinFlight hquietly.1
    | cons first ds =>
      obtain ⟨_, _, s₂, hfirst, hstep, hdeliveries, hrest⟩ := exists_first hds hrun'
      have hrestless := (hoffered.restless hms hwants hstuck hfirst hstep).run hms hdeliveries hrest
      rcases hrestless.link_ne_nil with hne | hne
      · exact hne hquietly.1
      · exact hne hquietly.2
  · obtain ⟨s₂, hstep⟩ := exists_deliver hinFlight quietly
    obtain ⟨hsettled, -⟩ := hoffered.settled hms (hfinished hfree) hfree quietly_quiet hstep
    exact hsettled.settles.deliver quietly_quiet hstep
  · cases ds with
    | nil =>
      obtain rfl := Option.some.inj hrun'
      refine ⟨Nat.zero_le 4, fun htoPolite htoImpolite => ?_⟩
      cases e with
      | polite => exact absurd htoImpolite hinFlight
      | impolite => exact absurd htoPolite hinFlight
    | cons first ds =>
      obtain ⟨_, _, s₂, hfirst, hstep, hdeliveries, hrest⟩ := exists_first hds hrun'
      obtain ⟨hsettled, hweight⟩ := hoffered.settled hms (hfinished hfree) hfree hfirst hstep
      obtain ⟨ht, hlength⟩ := hsettled.run hdeliveries hrest
      refine ⟨?_, fun _ _ e' => ⟨ht.finished e', ?_⟩⟩
      · rw [List.length_cons]
        omega
      · exact Peer.covers_of_negotiationNeeded (ht.tidy.orderly e').registered
          (ht.finished e' { mUnassignedDataChannels := 1 })

/-- A track, and what its user does with it. -/
def withTrack (calls : List TrackCall) : List Event :=
  (.emplaceTrack { mid := "video" } :: calls).map (.track .polite)

/-- The offer of an open track settles. Once the track is closed it does not. -/
theorem settles_iff_withTrack :
    (∃ s s', Transition.run Session.step (start (true, none) (true, none)) (withTrack []) = some s ∧
        s.step (.offer .polite quietly) = some s' ∧ s'.Settles) ∧
      ∃ s s', Transition.run Session.step (start (true, none) (true, none))
          (withTrack [.close 0]) = some s ∧
        s.step (.offer .polite quietly) = some s' ∧ ¬s'.Settles := by
  have hnew : Registered ({} : State) := (TrackWorld.Inv.start true none).registered
  have hok : TrackWorld.MayEmplace { state := {} } (.call (.emplaceTrack { mid := "video" })) := by
    decide
  have hregistered : Registered (({} : State).emplaceTrack { mid := "video" }) :=
    ((TrackWorld.Inv.start true none).emplaceTrack hok).registered
  constructor
  · have hrun : Transition.run Session.step (start (true, none) (true, none)) (withTrack []) =
        some _ := rfl
    refine ⟨_, _, hrun, rfl, (settles_iff hrun rfl rfl ?_ quietly_quiet rfl).1.2 ?_⟩
    · intro e
      cases e with
      | polite => exact hregistered
      | impolite => exact hnew
    · -- the only track is open
      rintro e' ⟨track, t, hlock, hclosed, -⟩
      have hmem := List.mem_of_getElem? (lock_eq_some_iff.1 hlock).1
      cases e' with
      | polite =>
        obtain rfl := List.mem_singleton.1 hmem
        cases hclosed
      | impolite => cases hmem
  · have hrun : Transition.run Session.step (start (true, none) (true, none))
        (withTrack [.close 0]) = some _ := rfl
    refine ⟨_, _, hrun, rfl, fun hsettles => ?_⟩
    have hfree := (settles_iff hrun rfl rfl ?_ quietly_quiet rfl).1.1 hsettles
    · exact hfree .polite ⟨0, _, rfl, rfl, rfl, by decide⟩
    · intro e
      cases e with
      | polite => exact hregistered.close 0
      | impolite => exact hnew

end Session

end Rtc.Negotiation
