import QuicRtc.Negotiation.Spec

/-!
# Agreement on the media lines

Two peer connections negotiate over FIFO links, whatever their users do to the tracks and whenever
they make an offer.

* `Phased` is `Session.Phase` of the signaling module seen from an end.
* `Side` is what holds of a peer and what is on its way to it. An answer in flight has the lines of
  the offer that it answers, and the last offer in flight those of the local description of its
  sender.
* `Coupled` is the invariant, with one lemma for each locked section of a call.
* `sections_agree`: no call throws, and when nothing is in flight all four descriptions have the
  same lines, which stay where they are in every later description.
-/

namespace Rtc.Negotiation

open LocalDescription

/-! ## Phases -/

/-- A phase, seen from an end: its signaling state, the types it has sent, the signaling state of
the other end, and the types on their way to it. -/
def Phased : End → SignalingState → List Description.Kind → SignalingState →
    List Description.Kind → Prop
  | .polite, x, toY, y, toX => Rtc.Session.Phase x toY y toX
  | .impolite, x, toY, y, toX => Rtc.Session.Phase y toX x toY

namespace Phased

variable {e : End} {x y : SignalingState} {toX toY : List Description.Kind}

/-- A phase, seen from the other end. -/
theorem symm (h : Phased e x toY y toX) : Phased e.other y toX x toY := by
  cases e with
  | polite => exact h
  | impolite => exact h

/-- No answer is on its way to a stable peer. -/
theorem answer_notMem (h : Phased e .stable toY y toX) : .answer ∉ toX := by
  cases e with
  | polite => cases h <;> decide
  | impolite => cases h <;> decide

/-- A stable peer makes an offer. -/
theorem offer (h : Phased e .stable toY y toX) :
    Phased e .haveLocalOffer (toY ++ [.offer]) y toX := by
  cases e with
  | polite => exact Rtc.Session.Phase.politeOffer h
  | impolite => exact Rtc.Session.Phase.impoliteOffer h

/-- A peer that does not drop an offer answers it. It is the pending one of the other end, and
nothing comes behind it. -/
theorem answer (h : Phased e x toY y (.offer :: toX))
    (hdrop : e = .impolite → x ≠ .haveLocalOffer) :
    toX = [] ∧ y = .haveLocalOffer ∧ (x = .stable ∨ x = .haveLocalOffer) ∧ .answer ∉ toY ∧
      Phased e .stable (toY ++ [.answer]) y [] := by
  cases e with
  | polite =>
    obtain ⟨hstate, hnone, -, hnext⟩ := Rtc.Session.Phase.politeAnswer h
    have hpending : toX = [] ∧ y = .haveLocalOffer := by
      cases h <;> exact ⟨rfl, rfl⟩
    obtain ⟨rfl, rfl⟩ := hpending
    exact ⟨rfl, rfl, hstate, hnone, hnext⟩
  | impolite =>
    obtain ⟨rfl, -, hnone, hnext⟩ := Rtc.Session.Phase.impoliteAnswer h (hdrop rfl)
    have hpending : toX = [] ∧ y = .haveLocalOffer := by
      cases h
      exact ⟨rfl, rfl⟩
    obtain ⟨rfl, rfl⟩ := hpending
    exact ⟨rfl, rfl, .inl rfl, hnone, hnext⟩

/-- A peer takes the answer to its pending offer. There is no other answer. -/
theorem take (h : Phased e x toY y (.answer :: toX)) :
    x = .haveLocalOffer ∧ .answer ∉ toX ∧ .answer ∉ toY ∧ Phased e .stable toY y toX := by
  cases e with
  | polite =>
    obtain ⟨hstate, hnext⟩ := Rtc.Session.Phase.politeTake h
    have hnone : .answer ∉ toX ∧ .answer ∉ toY := by
      cases h <;> exact ⟨by decide, by decide⟩
    exact ⟨hstate, hnone.1, hnone.2, hnext⟩
  | impolite =>
    obtain ⟨hstate, hnext⟩ := Rtc.Session.Phase.impoliteTake h
    have hnone : .answer ∉ toX ∧ .answer ∉ toY := by
      cases h <;> exact ⟨by decide, by decide⟩
    exact ⟨hstate, hnone.1, hnone.2, hnext⟩

/-- The impolite peer drops an offer. -/
theorem drop (h : Phased .impolite .haveLocalOffer toY y (.offer :: toX)) :
    Phased .impolite .haveLocalOffer toY y toX :=
  Rtc.Session.Phase.impoliteDrop h

/-- What is on its way is an offer or an answer. -/
theorem type_head {type : Description.Kind} (h : Phased e x toY y (type :: toX)) :
    type = .offer ∨ type = .answer := by
  cases e with
  | polite => cases h <;> decide
  | impolite => cases h <;> decide

/-- A peer is stable, or its offer is pending. -/
theorem state (h : Phased e x toY y toX) : x = .stable ∨ x = .haveLocalOffer := by
  cases e with
  | polite => cases h <;> decide
  | impolite => cases h <;> decide

/-- Both peers are stable when nothing is in flight. -/
theorem quiet (h : Phased e x [] y []) : x = .stable ∧ y = .stable := by
  cases e with
  | polite => exact Rtc.Session.Phase.quiet h
  | impolite => exact (Rtc.Session.Phase.quiet h).symm

end Phased

/-! ## The invariant -/

/-- A peer, and what is on its way to it from the other one. -/
structure Side (x y : Peer) (toX : List Sdp) : Prop where
  ready : x.Ready
  sound : ∀ mEntries ∈ x.mLocalDescription, Sound mEntries
  incoming : ∀ d ∈ toX, Sound d.mEntries
  own : x.signalingState = .stable → lines x.localEntries = lines x.remoteEntries
  grows : x.signalingState = .haveLocalOffer → lines x.remoteEntries <+: lines x.localEntries
  answers : ∀ d ∈ toX, d.type = .answer →
    lines d.mEntries = lines x.localEntries ∧ lines d.mEntries = lines y.remoteEntries
  offers : ∀ d ∈ toX.getLast?, d.type = .offer → lines d.mEntries = lines y.localEntries

/-- Two peers, seen from one of them. Without an answer in flight their remote descriptions have the
same lines. -/
structure Coupled (e : End) (x y : Peer) (toX toY : List Sdp) : Prop where
  phase : Phased e x.signalingState (toY.map Sdp.type) y.signalingState (toX.map Sdp.type)
  side : Side x y toX
  across : Side y x toY
  base : .answer ∉ toX.map Sdp.type → .answer ∉ toY.map Sdp.type →
    lines x.remoteEntries = lines y.remoteEntries

namespace Coupled

variable {e : End} {x y t : Peer} {toX toY : List Sdp} {d : Sdp} {env : Environment}
  {around : Surroundings}

/-- The invariant does not depend on the point of view. -/
theorem symm (h : Coupled e x y toX toY) : Coupled e.other y x toY toX where
  phase := h.phase.symm
  side := h.across
  across := h.side
  base := fun hY hX => (h.base hX hY).symm

/-- A stable peer makes an offer. -/
theorem offer (h : Coupled e x y toX toY) (hstate : x.signalingState = .stable)
    (hused : ∀ i, (env.tables i).isUsed = true) :
    Coupled e (x.makeOffer env) y toX
      (toY ++ [⟨.offer, (x.makeOffer env).localEntries⟩]) := by
  obtain ⟨hsound, hextends⟩ := h.side.ready.offered hused
  have hphase := h.phase
  rw [hstate] at hphase
  have hnone := hphase.answer_notMem
  refine ⟨?_, ⟨h.side.ready.makeOffer hused, ?_, h.side.incoming, ?_, fun _ => hextends, ?_,
    h.side.offers⟩, ⟨h.across.ready, h.across.sound, ?_, h.across.own, h.across.grows, ?_, ?_⟩, ?_⟩
  · rw [List.map_append]
    exact hphase.offer
  · rintro _ ⟨⟩
    exact hsound
  · intro hstable
    cases hstable
  · -- no answer is on its way to a stable peer
    intro d hmem htype
    exact absurd (htype ▸ List.mem_map_of_mem hmem) hnone
  · intro d hmem
    rcases List.mem_append.1 hmem with hmem | hmem
    · exact h.across.incoming d hmem
    · obtain rfl := List.mem_singleton.1 hmem
      exact hsound
  · intro d hmem htype
    rcases List.mem_append.1 hmem with hmem | hmem
    · exact h.across.answers d hmem htype
    · obtain rfl := List.mem_singleton.1 hmem
      cases htype
  · intro d hmem _
    rw [List.getLast?_concat] at hmem
    obtain rfl := Option.some.inj hmem
    rfl
  · intro hX hY
    rw [List.map_append, List.mem_append, not_or] at hY
    exact h.base hX hY.1

/-- A peer answers an offer, in the state in which it is taken. -/
theorem answer (h : Coupled e x y (d :: toX) toY) (htype : d.type = .offer)
    (hdrop : e = .impolite → x.signalingState ≠ .haveLocalOffer) (ht : t.Ready)
    (hused : ∀ i, (env.tables i).isUsed = true) :
    lines x.remoteEntries <+: lines d.mEntries ∧ toX = [] ∧
      Coupled e ((t.take d.mEntries .haveRemoteOffer).makeAnswer env) y []
        (toY ++ [⟨.answer,
          ((t.take d.mEntries .haveRemoteOffer).makeAnswer env).localEntries⟩]) := by
  have hphase := h.phase
  rw [List.map_cons, htype] at hphase
  obtain ⟨hnil, hpending, -, hnone, hnext⟩ := hphase.answer hdrop
  obtain rfl := List.map_eq_nil_iff.1 hnil
  have hd := h.side.incoming d (.head _)
  have htake := ht.take hd .haveRemoteOffer
  obtain ⟨hsound, hlines⟩ := htake.answered hused rfl
  have hremote : (t.take d.mEntries .haveRemoteOffer).remoteEntries = d.mEntries := rfl
  rw [hremote] at hlines
  -- it is the pending offer of the other end
  have hoffer : lines d.mEntries = lines y.localEntries := h.side.offers d rfl htype
  refine ⟨?_, rfl, ⟨?_, ⟨htake.makeAnswer, ?_, List.forall_mem_nil _, fun _ => hlines, ?_,
    List.forall_mem_nil _, ?_⟩, ⟨h.across.ready, h.across.sound, ?_, h.across.own, h.across.grows,
    ?_, ?_⟩, ?_⟩⟩
  · have hbase : lines x.remoteEntries = lines y.remoteEntries := by
      apply h.base
      · simp [htype]
      · exact hnone
    rw [hbase, hoffer]
    exact h.across.grows hpending
  · rw [List.map_append]
    exact hnext
  · rintro _ ⟨⟩
    exact hsound
  · intro hstate
    cases hstate
  · intro d' hmem
    cases hmem
  · intro d' hmem
    rcases List.mem_append.1 hmem with hmem | hmem
    · exact h.across.incoming d' hmem
    · obtain rfl := List.mem_singleton.1 hmem
      exact hsound
  · intro d' hmem htype'
    rcases List.mem_append.1 hmem with hmem | hmem
    · exact absurd (htype' ▸ List.mem_map_of_mem hmem) hnone
    · obtain rfl := List.mem_singleton.1 hmem
      exact ⟨hlines.trans hoffer, hlines⟩
  · intro d' hmem htype'
    rw [List.getLast?_concat] at hmem
    obtain rfl := Option.some.inj hmem
    cases htype'
  · -- the answer is in flight
    intro _ hY
    rw [List.map_append, List.mem_append, not_or] at hY
    exact absurd (List.mem_singleton.2 rfl) hY.2

/-- A peer takes the answer to its offer. -/
theorem take (h : Coupled e x y (d :: toX) toY) (htype : d.type = .answer) :
    x.signalingState = .haveLocalOffer ∧ lines x.remoteEntries <+: lines d.mEntries ∧
      Coupled e (x.take d.mEntries .stable) y toX toY := by
  have hphase := h.phase
  rw [List.map_cons, htype] at hphase
  obtain ⟨hstate, hX, hY, hnext⟩ := hphase.take
  obtain ⟨hown, hbase⟩ := h.side.answers d (.head _) htype
  have hd := h.side.incoming d (.head _)
  refine ⟨hstate, ?_, ⟨hnext, ⟨h.side.ready.take hd .stable, h.side.sound,
    fun d' hmem => h.side.incoming d' (.tail _ hmem), fun _ => hown.symm, ?_, ?_, ?_⟩,
    ⟨h.across.ready, h.across.sound, h.across.incoming, h.across.own, h.across.grows, ?_,
      h.across.offers⟩, fun _ _ => hbase⟩⟩
  · rw [hown]
    exact h.side.grows hstate
  · intro hpending
    cases hpending
  · intro d' hmem htype'
    exact absurd (htype' ▸ List.mem_map_of_mem hmem) hX
  · intro d' hmem
    cases toX with
    | nil => cases hmem
    | cons first rest => exact h.side.offers d' (by rwa [List.getLast?_cons_cons])
  · intro d' hmem htype'
    exact absurd (htype' ▸ List.mem_map_of_mem hmem) hY

/-- The impolite peer drops an offer. -/
theorem drop (h : Coupled .impolite x y (d :: toX) toY) (htype : d.type = .offer)
    (hstate : x.signalingState = .haveLocalOffer) : Coupled .impolite x y toX toY := by
  have hphase := h.phase
  rw [List.map_cons, htype, hstate] at hphase
  refine ⟨?_, ⟨h.side.ready, h.side.sound, fun d' hmem => h.side.incoming d' (.tail _ hmem),
    h.side.own, h.side.grows, fun d' hmem => h.side.answers d' (.tail _ hmem), ?_⟩, h.across, ?_⟩
  · rw [hstate]
    exact hphase.drop
  · intro d' hmem
    cases toX with
    | nil => cases hmem
    | cons first rest => exact h.side.offers d' (by rwa [List.getLast?_cons_cons])
  · intro hX hY
    apply h.base _ hY
    simpa [htype] using hX

/-- Automatic negotiation has its turn at a stable peer. -/
theorem resume (h : Coupled e x y toX toY) (hstate : x.signalingState = .stable) :
    Coupled e (x.resume around) y toX
      (toY ++ (x.resume around).issued.drop x.issued.length) := by
  unfold Peer.resume
  split
  · have hissued : (x.makeOffer around.offering).issued.drop x.issued.length =
        [⟨.offer, (x.makeOffer around.offering).localEntries⟩] := List.drop_left
    rw [hissued]
    exact h.offer hstate around.offering_isUsed
  · rw [List.drop_length, List.append_nil]
    exact h

/-- The user calls a function on the tracks. -/
theorem track (h : Coupled e x y toX toY) (call : TrackCall) :
    Coupled e (x.call call) y toX toY where
  phase := h.phase
  side :=
    { ready := ⟨h.side.ready.auto, (Preserves.call x.tracks call).2 h.side.ready.keyed,
        h.side.ready.remote⟩
      sound := h.side.sound
      incoming := h.side.incoming
      own := h.side.own
      grows := h.side.grows
      answers := h.side.answers
      offers := h.side.offers }
  across := ⟨h.across.ready, h.across.sound, h.across.incoming, h.across.own, h.across.grows,
    h.across.answers, h.across.offers⟩
  base := h.base

end Coupled

/-! ## Sessions -/

namespace Session

/-- What holds in every reachable session. -/
structure Invariant (s : Session) : Prop where
  thrown : s.thrown = []
  coupled : Coupled .polite s.polite s.impolite s.toPolite s.toImpolite

/-- The lines of the remote descriptions are kept in front. -/
def Keeps (s t : Session) : Prop :=
  ∀ e, lines (s.peer e).remoteEntries <+: lines (t.peer e).remoteEntries

variable {s s' t : Session} {e : End} {p : Peer} {rest : List Sdp}

theorem Keeps.refl (s : Session) : s.Keeps s := fun _ => List.prefix_refl _

theorem Keeps.trans (h : s.Keeps s') (h' : s'.Keeps t) : s.Keeps t :=
  fun e => (h e).trans (h' e)

/-- The invariant, seen from an end. -/
theorem Invariant.at (h : s.Invariant) (e : End) :
    Coupled e (s.peer e) (s.peer e.other) (s.link e) (s.link e.other) := by
  cases e with
  | polite => exact h.coupled
  | impolite => exact h.coupled.symm

/-- A peer returns from a call that did not throw. -/
theorem Invariant.finish (h : s.Invariant) {sent : List Sdp}
    (hsent : p.issued.drop (s.peer e).issued.length = sent)
    (hcoupled : Coupled e p (s.peer e.other) rest (s.link e.other ++ sent))
    (hkeeps : lines (s.peer e).remoteEntries <+: lines p.remoteEntries) :
    (s.finish rest (p, none) e).Invariant ∧ s.Keeps (s.finish rest (p, none) e) := by
  subst hsent
  cases e with
  | polite =>
    refine ⟨⟨?_, hcoupled⟩, fun e => ?_⟩
    · rw [Session.finish, h.thrown]
      rfl
    · cases e with
      | polite => exact hkeeps
      | impolite => exact List.prefix_refl _
  | impolite =>
    refine ⟨⟨?_, hcoupled.symm⟩, fun e => ?_⟩
    · rw [Session.finish, h.thrown]
      rfl
    · cases e with
      | polite => exact List.prefix_refl _
      | impolite => exact hkeeps

/-- The user calls a function on the tracks of an end. -/
theorem Invariant.track (h : s.Invariant) (call : TrackCall)
    (hstep : s.step (.track e call) = some s') : s'.Invariant ∧ s.Keeps s' := by
  obtain rfl := Option.some.inj hstep
  have hsent : ((s.peer e).call call).issued.drop (s.peer e).issued.length = [] := List.drop_length
  apply h.finish hsent
  · rw [List.append_nil]
    exact (h.at e).track call
  · exact List.prefix_refl _

/-- The user of an end asks for an offer. -/
theorem Invariant.offer (h : s.Invariant) {around : Surroundings}
    (hstep : s.step (.offer e around) = some s') : s'.Invariant ∧ s.Keeps s' := by
  obtain rfl := Option.some.inj hstep
  have hcoupled := h.at e
  rcases hcoupled.phase.state with hstate | hstate
  · rw [hcoupled.side.ready.setLocalDescription_offer hstate]
    apply h.finish List.drop_left
    · exact hcoupled.offer hstate around.processing_isUsed
    · exact List.prefix_refl _
  · -- another offer is ignored
    rw [Peer.setLocalDescription_ignored hstate]
    apply h.finish List.drop_length
    · rw [List.append_nil]
      exact hcoupled
    · exact List.prefix_refl _

/-- What a description does that reaches an end. -/
inductive Delivers (s : Session) (e : End) (around : Surroundings) : Session → Prop where
  | drop {d : Sdp} {rest : List Sdp} (link : s.link e = d :: rest) (impolite : e = .impolite)
    (type : d.type = .offer) (state : (s.peer e).signalingState = .haveLocalOffer) :
    Delivers s e around (s.finish rest (s.peer e, none) e)
  /-- `t` is the state in which the offer is taken, after the implicit rollback if any. -/
  | answer {d : Sdp} {rest : List Sdp} {t : Peer} (link : s.link e = d :: rest)
    (type : d.type = .offer)
    (state : e = .impolite → (s.peer e).signalingState ≠ .haveLocalOffer) (ready : t.Ready)
    (tracks : t.tracks = (s.peer e).tracks) (issued : t.issued = (s.peer e).issued)
    (same : (s.peer e).signalingState = .stable → t = s.peer e) :
    Delivers s e around (s.finish rest
      (((t.take d.mEntries .haveRemoteOffer).makeAnswer around.processing).resume around, none) e)
  | take {d : Sdp} {rest : List Sdp} (link : s.link e = d :: rest) (type : d.type = .answer)
    (state : (s.peer e).signalingState = .haveLocalOffer) :
    Delivers s e around
      (s.finish rest (((s.peer e).take d.mEntries .stable).resume around, none) e)

/-- A description reaches an end: no call throws. -/
theorem Invariant.delivers (h : s.Invariant) {around : Surroundings}
    (hstep : s.step (.deliver e around) = some s') : s.Delivers e around s' := by
  have hcoupled := h.at e
  simp only [Session.step] at hstep
  split at hstep
  · cases hstep
  rename_i d rest hlink
  rw [hlink] at hcoupled
  split at hstep
  · rename_i hdrops
    obtain rfl := Option.some.inj hstep
    obtain ⟨⟨he, htype⟩, hstate⟩ : (e = .impolite ∧ d.type = .offer) ∧
        (s.peer e).signalingState = .haveLocalOffer := by
      simpa [Session.drops] using hdrops
    exact .drop hlink he htype hstate
  rename_i hdrops
  obtain rfl := Option.some.inj hstep
  have hd := hcoupled.side.incoming d (.head _)
  rcases hcoupled.phase.type_head with htype | htype
  · have hstate : e = .impolite → (s.peer e).signalingState ≠ .haveLocalOffer := by
      rintro rfl hstate
      simp [Session.drops, htype, hstate] at hdrops
    obtain ⟨t, ht, htracks, hissued, hsame, hset⟩ :=
      hcoupled.side.ready.receiveOffer around hd htype hcoupled.phase.state
    rw [hset]
    exact .answer hlink htype hstate ht htracks hissued hsame
  · have hstate := (hcoupled.take htype).1
    rw [hcoupled.side.ready.receiveAnswer hd htype hstate]
    exact .take hlink htype hstate

/-- Automatic negotiation issues behind what was issued before. -/
theorem drop_resume (p : Peer) (around : Surroundings) {n : ℕ} (hn : n ≤ p.issued.length) :
    (p.resume around).issued.drop n =
      p.issued.drop n ++ (p.resume around).issued.drop p.issued.length := by
  have hextends : p.issued <+: (p.resume around).issued := by
    unfold Peer.resume
    split
    · exact List.prefix_append _ _
    · exact List.prefix_refl _
  obtain ⟨sent, hsent⟩ := hextends
  rw [← hsent, List.drop_left, List.drop_append_of_le_length hn]

/-- What a peer issues when it answers: the answer, and then an offer if that is needed. -/
theorem drop_answer {t q : Peer} {d : Sdp} {around : Surroundings}
    (hissued : t.issued = (s.peer e).issued)
    (hq : (t.take d.mEntries .haveRemoteOffer).makeAnswer around.processing = q) :
    (q.resume around).issued.drop (s.peer e).issued.length =
      [⟨.answer, q.localEntries⟩] ++ (q.resume around).issued.drop q.issued.length := by
  have hqissued : q.issued = (s.peer e).issued ++ [⟨.answer, q.localEntries⟩] := by
    rw [← hq, ← hissued]
    rfl
  have hdrop : q.issued.drop (s.peer e).issued.length = [⟨.answer, q.localEntries⟩] := by
    rw [hqissued]
    exact List.drop_left
  rw [drop_resume q around (by simp [hqissued]), hdrop]

/-- Automatic negotiation keeps the remote description. -/
theorem remoteEntries_resume (p : Peer) (around : Surroundings) :
    (p.resume around).remoteEntries = p.remoteEntries := by
  unfold Peer.resume
  split
  · rfl
  · rfl

/-- A description reaches an end. -/
theorem Invariant.deliver (h : s.Invariant) {around : Surroundings}
    (hstep : s.step (.deliver e around) = some s') : s'.Invariant ∧ s.Keeps s' := by
  have hcoupled := h.at e
  cases h.delivers hstep with
  | drop hlink he htype hstate =>
    subst he
    rw [hlink] at hcoupled
    apply h.finish List.drop_length
    · rw [List.append_nil]
      exact hcoupled.drop htype hstate
    · exact List.prefix_refl _
  | @answer d rest t hlink htype hstate ht _ hissued _ =>
    rw [hlink] at hcoupled
    obtain ⟨hextends, rfl, hanswer⟩ := hcoupled.answer htype hstate ht around.processing_isUsed
    apply h.finish (drop_answer hissued rfl)
    · rw [← List.append_assoc]
      exact hanswer.resume rfl
    · rw [remoteEntries_resume]
      exact hextends
  | take hlink htype _ =>
    rw [hlink] at hcoupled
    obtain ⟨-, hextends, htake⟩ := hcoupled.take htype
    apply h.finish rfl
    · exact htake.resume rfl
    · rw [remoteEntries_resume]
      exact hextends

/-- Every event preserves the invariant and keeps the lines. -/
theorem Invariant.step (h : s.Invariant) {event : Event} (hstep : s.step event = some s') :
    s'.Invariant ∧ s.Keeps s' := by
  cases event with
  | track e call => exact h.track call hstep
  | offer e around => exact h.offer hstep
  | deliver e around => exact h.deliver hstep

/-- So does a run. -/
theorem Invariant.run (h : s.Invariant) {es : List Event}
    (hrun : Transition.run Session.step s es = some t) : t.Invariant ∧ s.Keeps t := by
  refine Transition.run_invariant_all (P := fun u => u.Invariant ∧ s.Keeps u) ?_
    ⟨h, Keeps.refl s⟩ hrun
  rintro u event u' ⟨hu, hkeeps⟩ hstep
  obtain ⟨hu', hkeeps'⟩ := hu.step hstep
  exact ⟨hu', hkeeps.trans hkeeps'⟩

/-- Two new peers. -/
theorem invariant_start (polite impolite : Bool × Option ℕ) :
    (start polite impolite).Invariant := by
  have hside (config config' : Bool × Option ℕ) :
      Side { tracks := { enableMedia := config.1, maxMessageSize := config.2 } }
        { tracks := { enableMedia := config'.1, maxMessageSize := config'.2 } } [] := by
    refine ⟨⟨rfl, fun mid track hlookup => ?_, fun _ hnone => ?_⟩, fun _ hnone => ?_,
      List.forall_mem_nil _, fun _ => rfl, fun _ => List.nil_prefix, List.forall_mem_nil _,
      fun _ hnone => ?_⟩
    · cases hlookup
    · cases hnone
    · cases hnone
    · cases hnone
  exact ⟨rfl, .idle, hside polite impolite, hside impolite polite, fun _ _ => rfl⟩

/-- The lines of the remote description of a peer are kept in front of both of its descriptions. -/
theorem Keeps.localEntries (h : s.Keeps t) (ht : t.Invariant) (e : End) :
    lines (s.peer e).remoteEntries <+: lines (t.peer e).localEntries := by
  have hcoupled := ht.at e
  apply (h e).trans
  rcases hcoupled.phase.state with hstate | hstate
  · simp [hcoupled.side.own hstate]
  · exact hcoupled.side.grows hstate

/-- When nothing is in flight, the four descriptions have the same lines. -/
theorem Invariant.quiet (h : s.Invariant) (hpolite : s.toPolite = [])
    (himpolite : s.toImpolite = []) :
    (∀ e, (s.peer e).signalingState = .stable) ∧
      ∃ ms, ∀ e, lines (s.peer e).localEntries = ms ∧ lines (s.peer e).remoteEntries = ms := by
  have hphase := h.coupled.phase
  rw [hpolite, himpolite] at hphase
  obtain ⟨hp, hi⟩ := hphase.quiet
  have hbase : lines s.polite.remoteEntries = lines s.impolite.remoteEntries := by
    apply h.coupled.base
    · rw [hpolite]
      exact List.not_mem_nil
    · rw [himpolite]
      exact List.not_mem_nil
  refine ⟨fun e => ?_, lines s.polite.remoteEntries, fun e => ?_⟩
  · cases e with
    | polite => exact hp
    | impolite => exact hi
  · cases e with
    | polite => exact ⟨h.coupled.side.own hp, rfl⟩
    | impolite => exact ⟨(h.coupled.across.own hi).trans hbase.symm, hbase.symm⟩

/-- **Agreement on the media lines.** In every session of two peers that negotiate automatically and
have a data channel, whatever happens to their tracks, no call throws. When nothing is in flight
both peers are stable, and the four descriptions have the same sections in the same order, with
distinct mids and one application section, which is not removed. From then on these sections come
first, in this order, in every description of both peers. -/
theorem sections_agree {polite impolite : Bool × Option ℕ} {es es' : List Event}
    (hrun : Transition.run Session.step (start polite impolite) es = some s)
    (hrun' : Transition.run Session.step s es' = some t) :
    s.thrown = [] ∧
      (s.toPolite = [] → s.toImpolite = [] → (∀ e, (s.peer e).signalingState = .stable) ∧
        ∃ ms, (∀ e, lines (s.peer e).localEntries = ms ∧ lines (s.peer e).remoteEntries = ms) ∧
          (∀ e, ms <+: lines (t.peer e).localEntries ∧ ms <+: lines (t.peer e).remoteEntries)) ∧
      ∀ e, (∀ mEntries ∈ (s.peer e).mLocalDescription, Sound mEntries) ∧
        ∀ mEntries ∈ (s.peer e).mRemoteDescription, Sound mEntries := by
  obtain ⟨hs, -⟩ := (invariant_start polite impolite).run hrun
  obtain ⟨ht, hkeeps⟩ := hs.run hrun'
  refine ⟨hs.thrown, fun hpolite himpolite => ?_, fun e => ?_⟩
  · obtain ⟨hstable, ms, hms⟩ := hs.quiet hpolite himpolite
    refine ⟨hstable, ms, hms, fun e => ?_⟩
    rw [← (hms e).2]
    exact ⟨hkeeps.localEntries ht e, hkeeps e⟩
  · exact ⟨(hs.at e).side.sound, (hs.at e).side.ready.remote⟩

/-- Nothing else happens while a call runs, and a data channel waits for its stream. -/
def quietly : Surroundings where
  processing := { tables := fun _ => { mUnassignedDataChannels := 1 } }
  tables := { mUnassignedDataChannels := 1 }
  offering := { tables := fun _ => { mUnassignedDataChannels := 1 } }
  processing_isUsed _ := rfl
  isUsed := rfl
  offering_isUsed _ := rfl

/-- Crossing offers, of which that of the polite peer has a track. It is rolled back, dropped at the
other end, and repeated behind the answer. -/
def crossingOffers : List Event :=
  [.track .polite (.emplaceTrack { mid := "video" }), .offer .polite quietly,
    .offer .impolite quietly, .deliver .polite quietly, .deliver .impolite quietly,
    .deliver .impolite quietly, .deliver .impolite quietly, .deliver .polite quietly]

/-- After that the track has a section at both ends. -/
theorem sections_agree_crossingOffers :
    ∃ s, Transition.run Session.step (start (true, none) (true, none)) crossingOffers = some s ∧
      s.thrown = [] ∧ ∀ e, lines (s.peer e).localEntries = [("0", true), ("video", false)] := by
  obtain ⟨s, hs, hpolite, himpolite, hlines⟩ :
      ∃ s, Transition.run Session.step (start (true, none) (true, none)) crossingOffers = some s ∧
        s.toPolite = [] ∧ s.toImpolite = [] ∧
          lines s.polite.localEntries = [("0", true), ("video", false)] :=
    ⟨_, rfl, rfl, rfl, by decide⟩
  obtain ⟨hthrown, hquiet, -⟩ :=
    sections_agree hs (rfl : Transition.run Session.step s [] = some s)
  obtain ⟨-, ms, hms, -⟩ := hquiet hpolite himpolite
  refine ⟨s, hs, hthrown, fun e => ?_⟩
  rw [← hlines, (hms e).1]
  exact (hms .polite).1.symm

end Session

end Rtc.Negotiation
