import QuicRtc.Lib.Transition
import QuicRtc.Signaling.Spec

/-!
# Agreement on roles

Two peer connections with automatic negotiation, each with a data channel, exchange the descriptions
they issue over two FIFO links. Either starts an offer whenever it is stable. Crossing offers are
resolved as in perfect negotiation: the impolite peer drops an offer that arrives while its own is
pending, the polite peer relies on the implicit rollback of `setRemoteDescription`. libjuice accepts
every description, and usrsctp lets every SCTP transport start. The DTLS transport of a peer may
change its state whenever the peer has a local description, without which libjuice is not connected.

A call is one step. Between the two locked sections of a call the peer either is not stable, so that
no offer starts there, or the second section turns out to do nothing.

* `Phase` lists the combinations of signaling states and link contents that occur.
* `Paired` is the symmetric part of the invariant: what the two peers and the descriptions in flight
  say about the roles.
* `roles_agree`: no call throws, the peers are stable when the links are empty, and two decided
  roles are opposite and final.
-/

namespace Rtc

namespace Signaling

/-! ## A peer with automatic negotiation -/

/-- A description with all that `validateRemoteDescription` asks for and an application line. -/
structure Complete (d : Description) : Prop where
  iceUfrag : d.iceUfrag = true
  icePwd : d.icePwd = true
  fingerprint : d.fingerprint = true
  application : d.hasApplication = true

/-- A peer that negotiates automatically and has a data channel. Its descriptions all have an
application line, so that it needs no negotiation of its own. -/
structure Ready (s : Signaling) : Prop where
  auto : s.disableAutoNegotiation = false
  channels : s.dataChannels = true
  localApplication : ∀ d, s.mLocalDescription = some d → d.hasApplication = true
  currentApplication : ∀ d, s.mCurrentLocalDescription = some d → d.hasApplication = true
  remoteApplication : ∀ d, s.mRemoteDescription = some d → d.hasApplication = true
  pending : s.signalingState = .haveLocalOffer → s.mLocalDescription.isSome = true
  transport : s.mDtlsTransport.isSome = true → s.mLocalDescription.isSome = true
  usrsctp : s.usrsctp = true

/-- A complete description is valid. -/
theorem Complete.validate {d : Description} (h : Complete d) :
    validateRemoteDescription d = none := by
  have hmem : Description.Entry.application false ∈ d.media := by
    simpa [Description.hasApplication] using h.application
  have hactive : d.media.any (·.isActive) = true := List.any_eq_true.2 ⟨_, hmem, rfl⟩
  have hmedia : d.media ≠ [] := List.ne_nil_of_mem hmem
  simp [validateRemoteDescription, h.iceUfrag, h.icePwd, h.fingerprint, hmedia, hactive]

/-- What a ready peer issues is complete, if it is an offer or the remote description has an
application line. -/
theorem Ready.complete {s : Signaling} {type : Description.Kind} (hs : s.Ready)
    (h : type = .offer ∨ s.mRemoteDescription.isSome = true) :
    Complete (s.localDescription type) where
  iceUfrag := rfl
  icePwd := rfl
  fingerprint := rfl
  application := by
    show (s.localMedia type).contains _ = true
    -- a first offer announces the data channels, later descriptions follow the remote one
    rcases hd : s.mRemoteDescription with _ | d
    · obtain rfl : type = .offer := by simpa [hd] using h
      simp [localMedia, hd, hs.channels]
    · have hmem : Description.Entry.application false ∈ d.media := by
        simpa [Description.hasApplication] using hs.remoteApplication d hd
      have hlocal : Description.Entry.application false ∈ d.media.map s.reciprocate :=
        List.mem_map.2 ⟨_, hmem, by simp [reciprocate]⟩
      simp [localMedia, hd, hlocal]

/-- A complete description has a media line. -/
theorem Complete.media_ne_nil {s : Signaling} {type : Description.Kind}
    (h : Complete (s.localDescription type)) : s.localMedia type ≠ [] :=
  media_ne_nil_of_validate h.validate

/-- Issuing a complete description keeps the peer ready. -/
theorem Ready.issue {s : Signaling} {type : Description.Kind} {state : SignalingState}
    (hs : s.Ready) (h : Complete (s.localDescription type)) : (s.issue type state).Ready where
  auto := hs.auto
  channels := hs.channels
  localApplication := by
    rintro _ ⟨⟩
    exact h.application
  currentApplication := by
    intro d hd
    simp only [Signaling.issue] at hd
    split at hd
    · exact hs.localApplication d hd
    · exact hs.currentApplication d hd
  remoteApplication := hs.remoteApplication
  pending := fun _ => rfl
  transport := fun _ => rfl
  usrsctp := hs.usrsctp

/-- Storing a complete description keeps the peer ready. -/
theorem Ready.take {s : Signaling} {d : Description} {state : SignalingState} (hs : s.Ready)
    (h : Complete d) (hstate : state ≠ .haveLocalOffer) : (s.take d state).Ready where
  auto := hs.auto
  channels := hs.channels
  localApplication := hs.localApplication
  currentApplication := hs.currentApplication
  remoteApplication := by
    rintro _ ⟨⟩
    exact h.application
  pending := fun h => (hstate h).elim
  transport := hs.transport
  usrsctp := hs.usrsctp

/-- A rollback keeps the peer ready. -/
theorem Ready.rollback {s : Signaling} (hs : s.Ready) :
    Ready { s.rollbackLocalDescription with signalingState := .stable } := by
  unfold rollbackLocalDescription
  split
  · rename_i current hcurrent
    refine ⟨hs.auto, hs.channels, ?_, by simp, hs.remoteApplication, by simp, fun _ => rfl,
      hs.usrsctp⟩
    rintro _ ⟨⟩
    exact hs.currentApplication current hcurrent
  · exact ⟨hs.auto, hs.channels, hs.localApplication, hs.currentApplication,
      hs.remoteApplication, by simp, hs.transport, hs.usrsctp⟩

/-- A change of the DTLS transport keeps a peer ready that has a local description. -/
theorem Ready.dtlsStateChanged {s : Signaling} (hs : s.Ready)
    (hlocal : s.mLocalDescription.isSome = true) (state : Transport.State) :
    (s.dtlsStateChanged state).Ready := by
  obtain ⟨sctp, hchanged⟩ := s.dtlsStateChanged_eq state
  rw [hchanged]
  exact ⟨hs.auto, hs.channels, hs.localApplication, hs.currentApplication, hs.remoteApplication,
    hs.pending, fun _ => hlocal, hs.usrsctp⟩

/-- The SCTP transport of a ready peer starts whenever it has to: with a DTLS transport there is a
local description, and it has an application line. -/
theorem Ready.startsSctp {s : Signaling} (hs : s.Ready) (d : Description) : s.StartsSctp d := by
  intro hneeds
  have htransport : s.mDtlsTransport.isSome = true := by
    rw [hneeds.2.2]
    rfl
  obtain ⟨l, hl⟩ := Option.isSome_iff_exists.1 (hs.transport htransport)
  have happlication := application_of_hasApplication (hs.localApplication l hl)
  exact ⟨by rw [hl]; exact happlication, hs.usrsctp⟩

/-- A ready peer with a local description makes no offer of its own. -/
theorem Ready.offerIfNeeded {s : Signaling} (hs : s.Ready)
    (hlocal : s.mLocalDescription.isSome = true) : s.offerIfNeeded = (s, none) := by
  obtain ⟨d, hd⟩ := Option.isSome_iff_exists.1 hlocal
  have hneeded : s.negotiationNeeded = false := by
    simp [negotiationNeeded, hd, hs.localApplication d hd]
  simp [Signaling.offerIfNeeded, hneeded]

/-- A stable peer makes an offer. -/
theorem Ready.offer {s : Signaling} (hs : s.Ready) (hstate : s.signalingState = .stable) :
    s.setLocalDescription .offer = (s.issue .offer .haveLocalOffer, none) := by
  have hnext : nextLocalState s.signalingState .offer = .ok (some .haveLocalOffer) := by
    rw [hstate]
    rfl
  have hcomplete := hs.complete (.inl (rfl : Description.Kind.offer = .offer))
  unfold setLocalDescription
  rw [setLocalLocked_eq (by decide) (by decide) hnext hcomplete.media_ne_nil]

/-- A peer with a remote offer answers it. -/
theorem Ready.answer {s : Signaling} (hs : s.Ready) (hstate : s.signalingState = .haveRemoteOffer)
    (hremote : s.mRemoteDescription.isSome = true) :
    s.setLocalDescription .answer = (s.issue .answer .stable, none) := by
  have hnext : nextLocalState s.signalingState .answer = .ok (some .stable) := by
    rw [hstate]
    rfl
  have hcomplete : Complete (s.localDescription .answer) := hs.complete (.inr hremote)
  have hissue : (s.issue .answer .stable).Ready := hs.issue hcomplete
  unfold setLocalDescription
  rw [setLocalLocked_eq (by decide) (by decide) hnext hcomplete.media_ne_nil]
  simp [hissue.auto, hissue.offerIfNeeded rfl]

/-- A peer that is stable or has an offer pending, which it then rolls back, answers a remote
offer. -/
theorem Ready.receiveOffer {s : Signaling} {d : Description} (hs : s.Ready) (hd : Complete d)
    (htype : d.type = .offer) (hrole : d.role = .actPass)
    (hstate : s.signalingState = .stable ∨ s.signalingState = .haveLocalOffer) :
    ∃ t : Signaling, t.Ready ∧ t.mRole = s.mRole ∧ t.issued = s.issued ∧
      s.setRemoteDescription (fun _ => true) d =
        ((t.take d .haveRemoteOffer).issue .answer .stable, none) := by
  -- `t` is the state in which the offer is taken: after the implicit rollback if one is needed
  obtain ⟨t, ht, htrole, hissued, hnext⟩ : ∃ t : Signaling, t.Ready ∧ t.mRole = s.mRole ∧
      t.issued = s.issued ∧ s.nextRemoteState d = .ok (t, d, .haveRemoteOffer) := by
    rcases hstate with hstate | hstate
    · refine ⟨s, hs, rfl, rfl, ?_⟩
      simp [nextRemoteState, hstate, Description.hintType, htype]
    · obtain ⟨l, c, hrollback⟩ := s.rollbackLocalDescription_eq
      refine ⟨_, hs.rollback, by rw [hrollback], by rw [hrollback], ?_⟩
      simp [nextRemoteState, hstate, Description.hintType, htype]
  have hfits : Fits (fun _ => true) t.mRole d := by
    refine ⟨by simp [htype], ?_, rfl⟩
    rw [hrole]
    cases t.mRole <;> decide
  have htake := ht.take hd (by decide : SignalingState.haveRemoteOffer ≠ .haveLocalOffer)
  refine ⟨t, ht, htrole, hissued, ?_⟩
  unfold setRemoteDescription
  rw [setRemoteLocked_eq (by simp [htype]) hd.validate hnext hfits (ht.startsSctp d)]
  simp [htake.auto, htake.answer rfl rfl]

/-- A peer with an offer pending takes an answer that fits its role. -/
theorem Ready.receiveAnswer {s : Signaling} {d : Description} (hs : s.Ready) (hd : Complete d)
    (htype : d.type = .answer) (hstate : s.signalingState = .haveLocalOffer)
    (hfits : Fits (fun _ => true) s.mRole d) :
    s.setRemoteDescription (fun _ => true) d = (s.take d .stable, none) := by
  have hnext : s.nextRemoteState d = .ok (s, d, .stable) := by
    simp [nextRemoteState, hstate, Description.hintType, htype]
  have htake := hs.take hd (by decide : SignalingState.stable ≠ .haveLocalOffer)
  unfold setRemoteDescription
  rw [setRemoteLocked_eq (by simp [htype]) hd.validate hnext hfits (hs.startsSctp d)]
  simp [htake.auto, htake.offerIfNeeded (hs.pending hstate)]

/-! ## Two peers and their links -/

/-- The role of the other end. -/
def opposite : Description.Role → Description.Role
  | .actPass => .actPass
  | .passive => .active
  | .active => .passive

/-- A description sent by a peer whose role is now `role`: an offer, or an answer with that role. -/
structure Sent (role : Description.Role) (d : Description) : Prop where
  complete : Complete d
  role : d.type = .offer ∧ d.role = .actPass ∨
    d.type = .answer ∧ d.role = role ∧ role ≠ .actPass

/-- An answer is in flight. -/
def Answering (link : List Description) : Prop := .answer ∈ link.map (·.type)

/-- What two peers and the descriptions in flight between them say about the roles: they are
opposite (or both undecided), except that a peer is still undecided while the answer that decides
its role is on its way. -/
structure Paired (x y : Signaling) (toX toY : List Description) : Prop where
  ready : x.Ready
  peerReady : y.Ready
  incoming : ∀ d ∈ toX, Sent y.mRole d
  outgoing : ∀ d ∈ toY, Sent x.mRole d
  roles : x.mRole = opposite y.mRole ∨ x.mRole = .actPass ∧ Answering toX ∨
    y.mRole = .actPass ∧ Answering toY

variable {x y : Signaling} {toX toY : List Description} {d : Description}

/-- The opposite of the opposite. -/
@[simp]
theorem opposite_opposite (role : Description.Role) : opposite (opposite role) = role := by
  cases role <;> rfl

/-- The pairing does not depend on the point of view. -/
theorem Paired.symm (h : Paired x y toX toY) : Paired y x toY toX where
  ready := h.peerReady
  peerReady := h.ready
  incoming := h.outgoing
  outgoing := h.incoming
  roles := by
    rcases h.roles with hroles | hroles | hroles
    · exact .inl (by rw [hroles, opposite_opposite])
    · exact .inr (.inr hroles)
    · exact .inr (.inl hroles)

/-- What a peer has sent stays as it is when its role gets decided. -/
theorem Sent.mono {role role' : Description.Role} (h : Sent role d)
    (hrole : role = .actPass ∨ role' = role) : Sent role' d := by
  rcases hrole with rfl | rfl
  · refine ⟨h.complete, .inl ?_⟩
    rcases h.role with hoffer | ⟨-, -, hne⟩
    · exact hoffer
    · exact (hne rfl).elim
  · exact h

/-- Dropping an offer keeps the pairing. -/
theorem Paired.drop (h : Paired x y (d :: toX) toY) (htype : d.type = .offer) :
    Paired x y toX toY where
  ready := h.ready
  peerReady := h.peerReady
  incoming := fun d' hd' => h.incoming d' (.tail _ hd')
  outgoing := h.outgoing
  roles := by
    refine h.roles.imp_right (Or.imp_left (And.imp_right ?_))
    intro hanswer
    simpa [Answering, htype] using hanswer

/-- A stable peer makes an offer. -/
theorem Paired.offer (h : Paired x y toX toY) (hstate : x.signalingState = .stable) :
    x.setLocalDescription .offer = (x.issue .offer .haveLocalOffer, none) ∧
      Paired (x.issue .offer .haveLocalOffer) y toX (toY ++ [x.localDescription .offer]) := by
  have hcomplete := h.ready.complete (.inl (rfl : Description.Kind.offer = .offer))
  refine ⟨h.ready.offer hstate, h.ready.issue hcomplete, h.peerReady, h.incoming, ?_, ?_⟩
  · intro d hd
    rcases List.mem_append.1 hd with hd | hd
    · exact h.outgoing d hd
    · obtain rfl := List.mem_singleton.1 hd
      exact ⟨hcomplete, .inl ⟨rfl, rfl⟩⟩
  · refine h.roles.imp_right (Or.imp_right (And.imp_right ?_))
    intro hanswer
    simp only [Answering, List.map_append, List.mem_append]
    exact .inl hanswer

/-- A change of a DTLS transport keeps the pairing. -/
theorem Paired.dtlsStateChanged (h : Paired x y toX toY)
    (hlocal : x.mLocalDescription.isSome = true) (state : Transport.State) :
    Paired (x.dtlsStateChanged state) y toX toY := by
  have hready := h.ready.dtlsStateChanged hlocal state
  obtain ⟨sctp, hchanged⟩ := x.dtlsStateChanged_eq state
  rw [hchanged] at hready ⊢
  exact ⟨hready, h.peerReady, h.incoming, h.outgoing, h.roles⟩

/-- The role taken on an offer is decided, and is the one taken before if there was one. -/
theorem selectRole_actPass (role : Description.Role) :
    selectRole role .actPass ≠ .actPass ∧ (role = .actPass ∨ selectRole role .actPass = role) := by
  cases role <;> decide

/-- The role taken on an answer of a peer that fits is the opposite one. -/
theorem selectRole_answer {role remote : Description.Role} (hremote : remote ≠ .actPass)
    (h : role = .actPass ∨ role = opposite remote) :
    selectRole role remote = opposite remote ∧ selectRole role remote ≠ remote := by
  revert hremote h
  cases role <;> cases remote <;> decide

/-- A peer answers an offer, when no answer is in flight. -/
theorem Paired.receiveOffer (h : Paired x y (d :: toX) toY) (htype : d.type = .offer)
    (hstate : x.signalingState = .stable ∨ x.signalingState = .haveLocalOffer)
    (hincoming : ¬Answering toX) (houtgoing : ¬Answering toY) :
    ∃ x' an, x.setRemoteDescription (fun _ => true) d = (x', none) ∧
      x'.issued = x.issued ++ [an] ∧ an.type = .answer ∧ x'.signalingState = .stable ∧
      (x.mRole = .actPass ∨ x'.mRole = x.mRole) ∧ Paired x' y toX (toY ++ [an]) := by
  have hsent := h.incoming d (.head _)
  have hrole : d.role = .actPass := by simpa [htype] using hsent.role
  obtain ⟨t, ht, htrole, hissued, hset⟩ := h.ready.receiveOffer hsent.complete htype hrole hstate
  have htake : (t.take d .haveRemoteOffer).Ready := ht.take hsent.complete (by decide)
  have hcomplete : Complete ((t.take d .haveRemoteOffer).localDescription .answer) :=
    htake.complete (.inr rfl)
  have hselect : ((t.take d .haveRemoteOffer).issue .answer .stable).mRole =
      selectRole x.mRole .actPass := by
    rw [← hrole, ← htrole]
    rfl
  obtain ⟨hdecided, hkept⟩ := selectRole_actPass x.mRole
  refine ⟨_, (t.take d .haveRemoteOffer).localDescription .answer, hset, ?_, rfl, rfl, ?_, ?_⟩
  · show t.issued ++ _ = _
    rw [hissued]
  · rwa [hselect]
  refine ⟨htake.issue hcomplete, h.peerReady, fun d' hd' => h.incoming d' (.tail _ hd'), ?_, ?_⟩
  · intro d' hd'
    rw [hselect]
    rcases List.mem_append.1 hd' with hd' | hd'
    · exact (h.outgoing d' hd').mono hkept
    · obtain rfl := List.mem_singleton.1 hd'
      exact ⟨hcomplete, .inr ⟨rfl, hselect, hdecided⟩⟩
  · rw [hselect]
    -- no answer was in flight, so the roles were opposite or both undecided
    have hopposite : x.mRole = opposite y.mRole := by
      rcases h.roles with hroles | ⟨-, hanswer⟩ | ⟨-, hanswer⟩
      · exact hroles
      · exact (hincoming (by simpa [Answering, htype] using hanswer)).elim
      · exact (houtgoing hanswer).elim
    -- an undecided peer decides now and its answer decides the other one, a decided one answers
    -- with the role it has
    rcases hkept with hundecided | hkept
    · refine .inr (.inr ⟨?_, by simp [Answering, localDescription, getLocalDescription]⟩)
      rw [← opposite_opposite y.mRole, ← hopposite, hundecided]
      rfl
    · exact .inl (hkept.trans hopposite)

/-- A peer with an offer pending takes an answer, and the roles are opposite from then on. -/
theorem Paired.receiveAnswer (h : Paired x y (d :: toX) toY) (htype : d.type = .answer)
    (hstate : x.signalingState = .haveLocalOffer) :
    x.setRemoteDescription (fun _ => true) d = (x.take d .stable, none) ∧
      (x.mRole = .actPass ∨ (x.take d .stable).mRole = x.mRole) ∧
      Paired (x.take d .stable) y toX toY := by
  have hsent := h.incoming d (.head _)
  obtain ⟨hrole, hdecided⟩ : d.role = y.mRole ∧ y.mRole ≠ .actPass := by
    simpa [htype] using hsent.role
  -- the peer that sent the answer is decided, so it is not the one an answer is on its way to
  have hx : x.mRole = .actPass ∨ x.mRole = opposite y.mRole := by
    rcases h.roles with hroles | ⟨hroles, -⟩ | ⟨hroles, -⟩
    · exact .inr hroles
    · exact .inl hroles
    · exact (hdecided hroles).elim
  obtain ⟨hselect, hne⟩ := selectRole_answer hdecided hx
  have hfits : Fits (fun _ => true) x.mRole d :=
    ⟨by simp [hrole, hdecided], by rwa [hrole], rfl⟩
  have htake : (x.take d .stable).mRole = opposite y.mRole := by
    rw [← hselect, ← hrole]
    rfl
  have hkept : x.mRole = .actPass ∨ (x.take d .stable).mRole = x.mRole :=
    hx.imp_right fun hopposite => by rw [htake, hopposite]
  refine ⟨h.ready.receiveAnswer hsent.complete htype hstate hfits, hkept, ?_⟩
  refine ⟨h.ready.take hsent.complete (by decide), h.peerReady,
    fun d' hd' => h.incoming d' (.tail _ hd'), fun d' hd' => (h.outgoing d' hd').mono hkept,
    .inl htake⟩

end Signaling

/-! ## The session -/

/-- Two peers and the descriptions in flight between them, with the exceptions that were thrown. -/
structure Session where
  polite : Signaling := {}
  impolite : Signaling := {}
  toPolite : List Description := []
  toImpolite : List Description := []
  thrown : List Exception := []
  deriving DecidableEq, Repr

namespace Session

/-- What can happen in a session. -/
inductive Event where
  | politeOffer
  | impoliteOffer
  | deliverToPolite
  | deliverToImpolite
  | politeDtls (state : Transport.State)
  | impoliteDtls (state : Transport.State)
  deriving DecidableEq, Repr

/-- The polite peer returns from a call; what it has issued is sent. -/
def politeCall (s : Session) (r : Signaling × Option Exception) : Session :=
  { s with
    polite := r.1
    toImpolite := s.toImpolite ++ r.1.issued.drop s.polite.issued.length
    thrown := s.thrown ++ r.2.toList }

/-- The impolite peer returns from a call; what it has issued is sent. -/
def impoliteCall (s : Session) (r : Signaling × Option Exception) : Session :=
  { s with
    impolite := r.1
    toPolite := s.toPolite ++ r.1.issued.drop s.impolite.issued.length
    thrown := s.thrown ++ r.2.toList }

/-- One event, where it is enabled. -/
def step (s : Session) : Event → Option Session
  | .politeOffer =>
    if s.polite.signalingState = .stable then
      some (s.politeCall (s.polite.setLocalDescription .offer))
    else none
  | .impoliteOffer =>
    if s.impolite.signalingState = .stable then
      some (s.impoliteCall (s.impolite.setLocalDescription .offer))
    else none
  | .deliverToPolite =>
    match s.toPolite with
    | [] => none
    | d :: rest =>
      some (politeCall { s with toPolite := rest }
        (s.polite.setRemoteDescription (fun _ => true) d))
  | .deliverToImpolite =>
    match s.toImpolite with
    | [] => none
    | d :: rest =>
      -- an offer that crosses the own one is dropped
      if d.type = .offer ∧ s.impolite.signalingState = .haveLocalOffer then
        some { s with toImpolite := rest }
      else
        some (impoliteCall { s with toImpolite := rest }
          (s.impolite.setRemoteDescription (fun _ => true) d))
  | .politeDtls state =>
    if s.polite.mLocalDescription.isSome then
      some { s with polite := s.polite.dtlsStateChanged state }
    else none
  | .impoliteDtls state =>
    if s.impolite.mLocalDescription.isSome then
      some { s with impolite := s.impolite.dtlsStateChanged state }
    else none

/-- The combinations that occur: the signaling state of the polite peer, the types in flight to the
impolite one, the signaling state of the impolite peer, and the types in flight to the polite one.
-/
inductive Phase : SignalingState → List Description.Kind → SignalingState →
    List Description.Kind → Prop where
  | idle : Phase .stable [] .stable []
  | offered : Phase .haveLocalOffer [.offer] .stable []
  | answered : Phase .haveLocalOffer [] .stable [.answer]
  | answeredOffering : Phase .haveLocalOffer [] .haveLocalOffer [.answer, .offer]
  | offering : Phase .stable [] .haveLocalOffer [.offer]
  | crossing : Phase .haveLocalOffer [.offer] .haveLocalOffer [.offer]
  | dropped : Phase .haveLocalOffer [] .haveLocalOffer [.offer]
  | answering : Phase .stable [.answer] .haveLocalOffer []
  | answeringOffered : Phase .haveLocalOffer [.answer, .offer] .haveLocalOffer []
  | rolledBack : Phase .stable [.offer, .answer] .haveLocalOffer []
  | rolledBackOffered : Phase .haveLocalOffer [.offer, .answer, .offer] .haveLocalOffer []

section Phase

variable {p i : SignalingState} {toP toI : List Description.Kind}

/-- The polite peer makes an offer. -/
theorem Phase.politeOffer (h : Phase .stable toI i toP) :
    Phase .haveLocalOffer (toI ++ [.offer]) i toP := by
  cases h <;> constructor

/-- The impolite peer makes an offer. -/
theorem Phase.impoliteOffer (h : Phase p toI .stable toP) :
    Phase p toI .haveLocalOffer (toP ++ [.offer]) := by
  cases h <;> constructor

/-- The polite peer answers an offer. -/
theorem Phase.politeAnswer (h : Phase p toI i (.offer :: toP)) :
    (p = .stable ∨ p = .haveLocalOffer) ∧ .answer ∉ toI ∧ .answer ∉ toP ∧
      Phase .stable (toI ++ [.answer]) i toP := by
  -- the three phases with an offer at the head of the link to the polite peer
  cases h
  case offering => exact ⟨.inl rfl, by decide, by decide, .answering⟩
  case crossing => exact ⟨.inr rfl, by decide, by decide, .rolledBack⟩
  case dropped => exact ⟨.inr rfl, by decide, by decide, .answering⟩

/-- The polite peer takes an answer. -/
theorem Phase.politeTake (h : Phase p toI i (.answer :: toP)) :
    p = .haveLocalOffer ∧ Phase .stable toI i toP := by
  cases h <;> refine ⟨rfl, ?_⟩ <;> constructor

/-- The impolite peer drops an offer. -/
theorem Phase.impoliteDrop (h : Phase p (.offer :: toI) .haveLocalOffer toP) :
    Phase p toI .haveLocalOffer toP := by
  cases h <;> constructor

/-- The impolite peer answers an offer. -/
theorem Phase.impoliteAnswer (h : Phase p (.offer :: toI) i toP) (hi : i ≠ .haveLocalOffer) :
    i = .stable ∧ .answer ∉ toI ∧ .answer ∉ toP ∧ Phase p toI .stable (toP ++ [.answer]) := by
  cases h
  case offered => exact ⟨rfl, by decide, by decide, .answered⟩
  all_goals exact (hi rfl).elim

/-- The impolite peer takes an answer. -/
theorem Phase.impoliteTake (h : Phase p (.answer :: toI) i toP) :
    i = .haveLocalOffer ∧ Phase p toI .stable toP := by
  cases h <;> refine ⟨rfl, ?_⟩ <;> constructor

/-- Both peers are stable when nothing is in flight. -/
theorem Phase.quiet (h : Phase p [] i []) : p = .stable ∧ i = .stable := by
  cases h
  exact ⟨rfl, rfl⟩

end Phase

/-! ## The invariant -/

/-- What holds in every reachable session. -/
structure Invariant (s : Session) : Prop where
  thrown : s.thrown = []
  phase : Phase s.polite.signalingState (s.toImpolite.map (·.type)) s.impolite.signalingState
    (s.toPolite.map (·.type))
  paired : Signaling.Paired s.polite s.impolite s.toPolite s.toImpolite

/-- The roles that are decided stay. -/
def Keeps (s t : Session) : Prop :=
  (s.polite.mRole = .actPass ∨ t.polite.mRole = s.polite.mRole) ∧
    (s.impolite.mRole = .actPass ∨ t.impolite.mRole = s.impolite.mRole)

/-- Decided roles stay over two steps. -/
theorem Keeps.trans {s t u : Session} (h : s.Keeps t) (h' : t.Keeps u) : s.Keeps u := by
  obtain ⟨hp, hi⟩ := h
  obtain ⟨hp', hi'⟩ := h'
  constructor
  · rcases hp with hp | hp
    · exact .inl hp
    · rwa [hp] at hp'
  · rcases hi with hi | hi
    · exact .inl hi
    · rwa [hi] at hi'

variable {s s' t : Session}

/-- An offer of the polite peer. -/
theorem Invariant.politeOffer (hs : s.Invariant) (hstep : s.step .politeOffer = some s') :
    s'.Invariant ∧ s.Keeps s' := by
  obtain ⟨hstate, hs'⟩ : s.polite.signalingState = .stable ∧
      s.politeCall (s.polite.setLocalDescription .offer) = s' := by
    simpa [step] using hstep
  obtain ⟨hset, hpaired⟩ := hs.paired.offer hstate
  obtain rfl : s' =
      { s with
        polite := s.polite.issue .offer .haveLocalOffer
        toImpolite := s.toImpolite ++ [s.polite.localDescription .offer] } := by
    rw [← hs', hset]
    simp [politeCall]
  have hphase := hs.phase
  rw [hstate] at hphase
  refine ⟨⟨hs.thrown, ?_, hpaired⟩, .inr rfl, .inr rfl⟩
  simpa using hphase.politeOffer

/-- An offer of the impolite peer. -/
theorem Invariant.impoliteOffer (hs : s.Invariant) (hstep : s.step .impoliteOffer = some s') :
    s'.Invariant ∧ s.Keeps s' := by
  obtain ⟨hstate, hs'⟩ : s.impolite.signalingState = .stable ∧
      s.impoliteCall (s.impolite.setLocalDescription .offer) = s' := by
    simpa [step] using hstep
  obtain ⟨hset, hpaired⟩ := hs.paired.symm.offer hstate
  obtain rfl : s' =
      { s with
        impolite := s.impolite.issue .offer .haveLocalOffer
        toPolite := s.toPolite ++ [s.impolite.localDescription .offer] } := by
    rw [← hs', hset]
    simp [impoliteCall]
  have hphase := hs.phase
  rw [hstate] at hphase
  refine ⟨⟨hs.thrown, ?_, hpaired.symm⟩, .inr rfl, .inr rfl⟩
  simpa using hphase.impoliteOffer

/-- A description reaches the polite peer. -/
theorem Invariant.deliverToPolite (hs : s.Invariant) (hstep : s.step .deliverToPolite = some s') :
    s'.Invariant ∧ s.Keeps s' := by
  simp only [step] at hstep
  split at hstep
  · cases hstep
  rename_i d rest hlink
  have hs' := Option.some.inj hstep
  have hpaired := hs.paired
  have hphase := hs.phase
  rw [hlink] at hpaired hphase
  rw [List.map_cons] at hphase
  rcases (hpaired.incoming d (.head _)).role with ⟨htype, -⟩ | ⟨htype, -, -⟩
  · -- an offer, which rolls the own one back if there is one
    rw [htype] at hphase
    obtain ⟨hstate, houtgoing, hincoming, hphase⟩ := hphase.politeAnswer
    obtain ⟨x, an, hset, hissued, han, hstable, hkept, hpaired⟩ :=
      hpaired.receiveOffer htype hstate hincoming houtgoing
    obtain rfl : s' =
        { s with polite := x, toPolite := rest, toImpolite := s.toImpolite ++ [an] } := by
      rw [← hs', hset]
      simp [politeCall, hissued]
    refine ⟨⟨hs.thrown, ?_, hpaired⟩, hkept, .inr rfl⟩
    simpa [hstable, han] using hphase
  · -- the answer to the pending offer
    rw [htype] at hphase
    obtain ⟨hstate, hphase⟩ := hphase.politeTake
    obtain ⟨hset, hkept, hpaired⟩ := hpaired.receiveAnswer htype hstate
    obtain rfl : s' = { s with polite := s.polite.take d .stable, toPolite := rest } := by
      rw [← hs', hset]
      simp [politeCall]
    exact ⟨⟨hs.thrown, hphase, hpaired⟩, hkept, .inr rfl⟩

/-- A description reaches the impolite peer. -/
theorem Invariant.deliverToImpolite (hs : s.Invariant)
    (hstep : s.step .deliverToImpolite = some s') : s'.Invariant ∧ s.Keeps s' := by
  simp only [step] at hstep
  split at hstep
  · cases hstep
  rename_i d rest hlink
  have hpaired := hs.paired.symm
  have hphase := hs.phase
  rw [hlink] at hpaired hphase
  rw [List.map_cons] at hphase
  split at hstep
  · -- an offer that crosses the own one
    rename_i hcross
    obtain ⟨htype, hstate⟩ := hcross
    obtain rfl := Option.some.inj hstep
    rw [htype, hstate] at hphase
    refine ⟨⟨hs.thrown, ?_, (hpaired.drop htype).symm⟩, .inr rfl, .inr rfl⟩
    simpa [hstate] using hphase.impoliteDrop
  rename_i hcross
  have hs' := Option.some.inj hstep
  rcases (hpaired.incoming d (.head _)).role with ⟨htype, -⟩ | ⟨htype, -, -⟩
  · -- an offer while no own offer is pending
    rw [htype] at hphase
    obtain ⟨hstate, hincoming, houtgoing, hphase⟩ :=
      hphase.impoliteAnswer fun hstate => hcross ⟨htype, hstate⟩
    obtain ⟨x, an, hset, hissued, han, hstable, hkept, hpaired⟩ :=
      hpaired.receiveOffer htype (.inl hstate) hincoming houtgoing
    obtain rfl : s' =
        { s with impolite := x, toImpolite := rest, toPolite := s.toPolite ++ [an] } := by
      rw [← hs', hset]
      simp [impoliteCall, hissued]
    refine ⟨⟨hs.thrown, ?_, hpaired.symm⟩, .inr rfl, hkept⟩
    simpa [hstable, han] using hphase
  · -- the answer to the pending offer
    rw [htype] at hphase
    obtain ⟨hstate, hphase⟩ := hphase.impoliteTake
    obtain ⟨hset, hkept, hpaired⟩ := hpaired.receiveAnswer htype hstate
    obtain rfl : s' = { s with impolite := s.impolite.take d .stable, toImpolite := rest } := by
      rw [← hs', hset]
      simp [impoliteCall]
    exact ⟨⟨hs.thrown, hphase, hpaired.symm⟩, .inr rfl, hkept⟩

/-- A change of the DTLS transport of the polite peer. -/
theorem Invariant.politeDtls {state : Transport.State} (hs : s.Invariant)
    (hstep : s.step (.politeDtls state) = some s') : s'.Invariant ∧ s.Keeps s' := by
  obtain ⟨hlocal, rfl⟩ : s.polite.mLocalDescription.isSome = true ∧
      { s with polite := s.polite.dtlsStateChanged state } = s' := by
    simpa only [step, Option.ite_none_right_eq_some, Option.some.injEq] using hstep
  have hpaired := hs.paired.dtlsStateChanged hlocal state
  obtain ⟨sctp, hchanged⟩ := s.polite.dtlsStateChanged_eq state
  rw [hchanged] at hpaired ⊢
  exact ⟨⟨hs.thrown, hs.phase, hpaired⟩, .inr rfl, .inr rfl⟩

/-- A change of the DTLS transport of the impolite peer. -/
theorem Invariant.impoliteDtls {state : Transport.State} (hs : s.Invariant)
    (hstep : s.step (.impoliteDtls state) = some s') : s'.Invariant ∧ s.Keeps s' := by
  obtain ⟨hlocal, rfl⟩ : s.impolite.mLocalDescription.isSome = true ∧
      { s with impolite := s.impolite.dtlsStateChanged state } = s' := by
    simpa only [step, Option.ite_none_right_eq_some, Option.some.injEq] using hstep
  have hpaired := hs.paired.symm.dtlsStateChanged hlocal state
  obtain ⟨sctp, hchanged⟩ := s.impolite.dtlsStateChanged_eq state
  rw [hchanged] at hpaired ⊢
  exact ⟨⟨hs.thrown, hs.phase, hpaired.symm⟩, .inr rfl, .inr rfl⟩

/-- Every event preserves the invariant and keeps the decided roles. -/
theorem Invariant.step {e : Event} (hs : s.Invariant) (hstep : s.step e = some s') :
    s'.Invariant ∧ s.Keeps s' := by
  cases e with
  | politeOffer => exact hs.politeOffer hstep
  | impoliteOffer => exact hs.impoliteOffer hstep
  | deliverToPolite => exact hs.deliverToPolite hstep
  | deliverToImpolite => exact hs.deliverToImpolite hstep
  | politeDtls state => exact hs.politeDtls hstep
  | impoliteDtls state => exact hs.impoliteDtls hstep

/-- A new session. -/
theorem invariant_init : Invariant {} where
  thrown := rfl
  phase := .idle
  paired := by
    have hready : Signaling.Ready {} :=
      ⟨rfl, rfl, by simp, by simp, by simp, by simp, by simp, rfl⟩
    exact ⟨hready, hready, by simp, by simp, .inl rfl⟩

/-- A run preserves the invariant and keeps the roles that were decided before it. -/
theorem Invariant.run {es : List Event} (hs : s.Invariant)
    (hrun : Transition.run Session.step s es = some t) : t.Invariant ∧ s.Keeps t := by
  refine Transition.run_invariant_all (P := fun u => u.Invariant ∧ s.Keeps u) ?_
    ⟨hs, .inr rfl, .inr rfl⟩ hrun
  -- the invariant of the run and what it keeps of its first state, step by step
  rintro u e u' ⟨hu, hkeeps⟩ hstep
  obtain ⟨hu', hkeeps'⟩ := hu.step hstep
  exact ⟨hu', hkeeps.trans hkeeps'⟩

/-- In every session no call throws, both peers are stable whenever no description is in flight, and
as soon as both roles are decided one is active and the other passive, and they never change. -/
theorem roles_agree {es es' : List Event} (hrun : Transition.run Session.step {} es = some s)
    (hrun' : Transition.run Session.step s es' = some t) :
    s.thrown = [] ∧
      (s.toPolite = [] → s.toImpolite = [] →
        s.polite.signalingState = .stable ∧ s.impolite.signalingState = .stable) ∧
      (s.polite.mRole ≠ .actPass → s.impolite.mRole ≠ .actPass →
        (s.polite.mRole = .active ∧ s.impolite.mRole = .passive ∨
          s.polite.mRole = .passive ∧ s.impolite.mRole = .active) ∧
        t.polite.mRole = s.polite.mRole ∧ t.impolite.mRole = s.impolite.mRole) := by
  obtain ⟨hs, -⟩ := invariant_init.run hrun
  obtain ⟨-, hpolite, himpolite⟩ := hs.run hrun'
  refine ⟨hs.thrown, ?_, ?_⟩
  · intro htoPolite htoImpolite
    have hphase := hs.phase
    rw [htoPolite, htoImpolite] at hphase
    exact hphase.quiet
  · intro hp hi
    refine ⟨?_, hpolite.resolve_left hp, himpolite.resolve_left hi⟩
    -- both are decided, so no answer that decides a role is in flight
    have hopposite : s.polite.mRole = Signaling.opposite s.impolite.mRole :=
      (hs.paired.roles.resolve_right (by simp [hp, hi]))
    rw [hopposite] at hp ⊢
    revert hi hp
    cases s.impolite.mRole <;> decide

/-- Crossing offers, of which the polite peer rolls its own back. -/
def crossingOffers : List Event :=
  [.politeOffer, .impoliteOffer, .deliverToPolite, .deliverToImpolite, .deliverToImpolite]

/-- A further offer of the impolite peer and its answer, with the DTLS transports connected. -/
def secondOffer : List Event :=
  [.politeDtls .connected, .impoliteDtls .connected, .impoliteOffer, .deliverToPolite,
    .deliverToImpolite]

/-- After crossing offers the roles are decided, and a second exchange does not change them. -/
theorem roles_agree_crossingOffers :
    ∃ s ∈ Transition.run Session.step {} crossingOffers,
      ∃ t ∈ Transition.run Session.step s secondOffer,
        t.polite.mRole = .active ∧ t.impolite.mRole = .passive := by
  obtain ⟨s, hs, hp, hi, hnext⟩ : ∃ s ∈ Transition.run Session.step {} crossingOffers,
      s.polite.mRole = .active ∧ s.impolite.mRole = .passive ∧
        (Transition.run Session.step s secondOffer).isSome := by
    decide
  obtain ⟨t, ht⟩ := Option.isSome_iff_exists.1 hnext
  obtain ⟨-, -, hroles⟩ := roles_agree hs ht
  obtain ⟨-, hp', hi'⟩ := hroles (by simp [hp]) (by simp [hi])
  exact ⟨s, hs, t, ht, hp'.trans hp, hi'.trans hi⟩

end Session

end Rtc
