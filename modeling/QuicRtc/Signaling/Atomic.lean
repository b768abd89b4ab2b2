import Mathlib.Tactic.Tauto
import QuicRtc.Signaling.Spec

/-!
# Remote descriptions that are rejected

`setRemoteDescription` changes the signaling state and the remote description behind the check of
the ICE transport. The implicit rollback comes before it, and the ICE transport takes its role
before it checks the rest. Behind it the start of the SCTP transport can still throw, once the
remote description has been replaced.

* `Atomic`: a call that throws leaves the peer connection as it was.
* `Disturbs`: the descriptions for which something has changed when the ICE transport throws, or the
  start of the SCTP transport.
* `atomic_iff`: the calls with any other description are atomic.
-/

namespace Rtc.Signaling

/-- What a call that throws must leave alone. -/
structure Unchanged (s s' : Signaling) : Prop where
  signalingState : s'.signalingState = s.signalingState
  mLocalDescription : s'.mLocalDescription = s.mLocalDescription
  mRemoteDescription : s'.mRemoteDescription = s.mRemoteDescription
  mRole : s'.mRole = s.mRole

theorem Unchanged.refl (s : Signaling) : Unchanged s s := ⟨rfl, rfl, rfl, rfl⟩

/-- If the call throws, it has changed nothing. -/
def Atomic (juice : Description → Bool) (s : Signaling) (d : Description) : Prop :=
  (s.setRemoteDescription juice d).2 ≠ none → Unchanged s (s.setRemoteDescription juice d).1

/-- The description with the type that is passed to the ICE transport. -/
def hinted (s : Signaling) (d : Description) : Description :=
  if s.signalingState = .stable then d.hintType .offer else d.hintType .answer

/-- The types of remote descriptions that a signaling state allows. -/
def Legal : SignalingState → Description.Kind → Prop
  | .stable, type => type = .offer
  | .haveLocalOffer, type => type = .offer ∨ type = .answer ∨ type = .pranswer
  | .haveRemotePranswer, type => type = .answer ∨ type = .pranswer
  | .haveRemoteOffer, _ => False
  | .haveLocalPranswer, _ => False

/-- The description comes to the ICE transport. -/
structure Reaches (s : Signaling) (d : Description) : Prop where
  rollback : d.type ≠ .rollback
  valid : validateRemoteDescription d = none
  legal : Legal s.signalingState (s.hinted d).type

/-- A remote offer meets a local one, which is rolled back. -/
def Collides (s : Signaling) (d : Description) : Prop :=
  s.signalingState = .haveLocalOffer ∧ d.type = .offer

instance (s : Signaling) (d : Description) : Decidable (s.Collides d) :=
  inferInstanceAs (Decidable (_ ∧ _))

/-- The state in which the description comes to the ICE transport. -/
def rolledBack (s : Signaling) (d : Description) : Signaling :=
  if s.Collides d then { s.rollbackLocalDescription with signalingState := .stable } else s

/-- The ICE transport takes a role for the description. -/
def TakesRole (s : Signaling) (d : Description) : Prop :=
  s.mRole = .actPass ∧ ¬(d.type = .answer ∧ d.role = .actPass)

/-- The ICE transport rejects the description behind a rollback, or when it has taken its role. -/
structure RejectedLate (juice : Description → Bool) (s : Signaling) (d : Description) : Prop where
  rejected : ¬Fits juice s.mRole d
  changes : s.Collides d ∨ s.TakesRole d

/-- The SCTP transport cannot be started for a description that the ICE transport has accepted, and
the description is not the one that is there with a role and without a rollback. -/
structure FailsLate (juice : Description → Bool) (s : Signaling) (d : Description) : Prop where
  accepted : Fits juice s.mRole d
  fails : ¬(s.rolledBack d).StartsSctp d
  changes : s.Collides d ∨ s.TakesRole d ∨ s.mRemoteDescription ≠ some d

/-- The call throws when something has changed. -/
structure Disturbs (juice : Description → Bool) (s : Signaling) (d : Description) : Prop extends
    Reaches s d where
  late : RejectedLate juice s (s.hinted d) ∨ FailsLate juice s (s.hinted d)

variable {juice : Description → Bool} {s : Signaling} {d : Description}

/-! ## Up to the ICE transport -/

/-- The switch takes the types that are legal, and rolls back a local offer that meets a remote
one. -/
theorem nextRemoteState_cases (s : Signaling) (d : Description) :
    (¬Legal s.signalingState (s.hinted d).type ∧ ∃ e, s.nextRemoteState d = .error e) ∨
      Legal s.signalingState (s.hinted d).type ∧
        ∃ state, s.nextRemoteState d = .ok (s.rolledBack (s.hinted d), s.hinted d, state) ∧
          (state = .stable ∨ state = .haveRemoteOffer) := by
  unfold nextRemoteState hinted
  cases hstate : s.signalingState with
  | stable =>
    dsimp only
    rw [if_pos rfl]
    have hfree : ¬s.Collides (d.hintType .offer) := by simp [Collides, hstate]
    rw [rolledBack, if_neg hfree]
    by_cases htype : (d.hintType .offer).type = .offer
    · rw [if_neg (not_not.2 htype)]
      exact .inr ⟨htype, .haveRemoteOffer, rfl, .inr rfl⟩
    · rw [if_pos htype]
      exact .inl ⟨htype, _, rfl⟩
  | haveLocalOffer =>
    dsimp only
    rw [if_neg (by decide)]
    by_cases hoffer : (d.hintType .answer).type = .offer
    · -- both sides made an offer, and the local one is rolled back
      rw [if_pos hoffer, rolledBack, if_pos ⟨hstate, hoffer⟩]
      exact .inr ⟨.inl hoffer, .haveRemoteOffer, rfl, .inr rfl⟩
    · rw [if_neg hoffer, rolledBack, if_neg fun h : s.Collides _ => hoffer h.2]
      split
      · next htype =>
        refine .inl ⟨?_, _, rfl⟩
        rintro (h | h | h)
        · exact hoffer h
        · exact htype.1 h
        · exact htype.2 h
      · next htype =>
        exact .inr ⟨.inr (by tauto), .stable, rfl, .inl rfl⟩
  | haveRemotePranswer =>
    dsimp only
    rw [if_neg (by decide)]
    have hfree : ¬s.Collides (d.hintType .answer) := by simp [Collides, hstate]
    rw [rolledBack, if_neg hfree]
    split
    · next htype =>
      refine .inl ⟨?_, _, rfl⟩
      rintro (h | h)
      · exact htype.1 h
      · exact htype.2 h
    · next htype =>
      exact .inr ⟨by show _ ∨ _; tauto, .stable, rfl, .inl rfl⟩
  -- a local answer is expected, and nothing from the remote side
  | haveRemoteOffer => exact .inl ⟨id, _, rfl⟩
  | haveLocalPranswer => exact .inl ⟨id, _, rfl⟩

/-- A description that is rejected leaves a role behind if one was taken. -/
theorem iceSetRemoteDescription_reject (hrejected : ¬Fits juice s.mRole d) :
    ∃ e role, iceSetRemoteDescription juice s d = ({ s with mRole := role }, some e) ∧
      (role = s.mRole ↔ ¬s.TakesRole d) := by
  unfold iceSetRemoteDescription TakesRole
  by_cases hanswer : d.type = .answer ∧ d.role = .actPass
  · rw [if_pos hanswer]
    exact ⟨_, s.mRole, rfl, by tauto⟩
  · rw [if_neg hanswer]
    have hrole : selectRole s.mRole d.role = s.mRole ↔ ¬(s.mRole = .actPass ∧ True) := by
      unfold selectRole
      cases s.mRole <;> cases d.role <;> simp
    -- `mRole` is written before the checks of the role and of libjuice
    have htakes : (¬(s.mRole = .actPass ∧ ¬(d.type = .answer ∧ d.role = .actPass))) ↔
        ¬(s.mRole = .actPass ∧ True) := by tauto
    rw [htakes]
    dsimp only
    split
    · exact ⟨_, _, rfl, hrole⟩
    · next hconflict =>
      split
      · exact ⟨_, _, rfl, hrole⟩
      · next hjuice =>
        have haccepted : juice d = true := by simpa using hjuice
        exact absurd ⟨hanswer, hconflict, haccepted⟩ hrejected

/-- The switch does not touch the role, with or without a rollback. -/
@[simp]
theorem rolledBack_mRole (s : Signaling) (d : Description) : (s.rolledBack d).mRole = s.mRole := by
  obtain ⟨l, c, hrolled⟩ := rollbackLocalDescription_eq s
  unfold rolledBack
  split_ifs
  · rw [hrolled]
  · rfl

@[simp]
theorem rolledBack_mRemoteDescription (s : Signaling) (d : Description) :
    (s.rolledBack d).mRemoteDescription = s.mRemoteDescription := by
  obtain ⟨l, c, hrolled⟩ := rollbackLocalDescription_eq s
  unfold rolledBack
  split_ifs
  · rw [hrolled]
  · rfl

/-- What the switch and a failed call behind it have left alone: everything but the role and the
remote description, if no offers have met. -/
theorem unchanged_rolledBack_iff (role : Description.Role) (remote : Option Description) :
    Unchanged s { s.rolledBack d with mRole := role, mRemoteDescription := remote } ↔
      ¬s.Collides d ∧ role = s.mRole ∧ remote = s.mRemoteDescription := by
  by_cases hcollides : s.Collides d
  · -- the local offer is gone
    refine ⟨fun hsame => ?_, fun h => absurd hcollides h.1⟩
    have hstable : (s.rolledBack d).signalingState = .stable := by
      rw [rolledBack, if_pos hcollides]
    have hstate := hstable.symm.trans (hsame.signalingState.trans hcollides.1)
    cases hstate
  · rw [rolledBack, if_neg hcollides]
    constructor
    · exact fun hsame => ⟨hcollides, hsame.mRole, hsame.mRemoteDescription⟩
    · exact fun ⟨_, hrole, hremote⟩ => ⟨rfl, rfl, hremote, hrole⟩

/-! ## Behind the ICE transport -/

/-- The lines of the remote description are answered. -/
theorem localMedia_of_remote (type : Description.Kind) (hremote : s.mRemoteDescription = some d)
    (hmedia : d.media ≠ []) : s.localMedia type ≠ [] := by
  refine localMedia_ne_nil (fun d' hd' => ?_) (.inl (by rw [hremote]; rfl))
  obtain rfl := Option.some.inj (hremote.symm.trans hd')
  exact hmedia

/-- With a remote description that has media lines the offer of automatic negotiation does not
throw. -/
theorem offerIfNeeded_not_throws (hstate : s.signalingState = .stable)
    (hremote : s.mRemoteDescription = some d) (hmedia : d.media ≠ []) :
    s.offerIfNeeded.2 = none := by
  unfold offerIfNeeded
  split
  · have hnext : nextLocalState s.signalingState .offer = .ok (some .haveLocalOffer) := by
      rw [hstate]
      rfl
    have hlocal := localMedia_of_remote .offer hremote hmedia
    rw [setLocalLocked_eq (by decide) (by decide) hnext hlocal]
  · rfl

/-- Nor does the answer. -/
theorem setLocalDescription_answer_not_throws (hstate : s.signalingState = .haveRemoteOffer)
    (hremote : s.mRemoteDescription = some d) (hmedia : d.media ≠ []) :
    (s.setLocalDescription .answer).2 = none := by
  have hnext : nextLocalState s.signalingState .answer = .ok (some .stable) := by
    rw [hstate]
    rfl
  have hlocal := localMedia_of_remote .answer hremote hmedia
  unfold setLocalDescription
  rw [setLocalLocked_eq (by decide) (by decide) hnext hlocal]
  dsimp only
  split
  · rfl
  · exact offerIfNeeded_not_throws rfl hremote hmedia

theorem media_hinted (s : Signaling) (d : Description) : (s.hinted d).media = d.media := by
  unfold hinted Description.hintType
  split_ifs <;> rfl

/-! ## The call -/

/-- A description that does not come to the ICE transport changes nothing if the call throws. -/
theorem unchanged_of_not_reaches (h : ¬s.Reaches d)
    (hthrows : (s.setRemoteDescription juice d).2 ≠ none) :
    Unchanged s (s.setRemoteDescription juice d).1 := by
  unfold setRemoteDescription setRemoteLocked at hthrows ⊢
  by_cases hrollback : d.type = .rollback
  · -- a rollback returns or throws before anything is written
    rw [if_pos hrollback] at hthrows
    dsimp only at hthrows
    split at hthrows <;> exact absurd rfl hthrows
  · rw [if_neg hrollback]
    cases hvalid : validateRemoteDescription d with
    | some e => exact Unchanged.refl s
    | none =>
      rcases nextRemoteState_cases s d with ⟨-, e, heq⟩ | ⟨hlegal, -⟩
      · rw [heq]
        exact Unchanged.refl s
      · exact absurd ⟨hrollback, hvalid, hlegal⟩ h

/-- A description that the ICE transport accepts does not make the call throw, if the SCTP transport
starts. -/
theorem not_throws_of_fits (h : s.Reaches d) (hfits : Fits juice s.mRole (s.hinted d))
    (hstarts : (s.rolledBack (s.hinted d)).StartsSctp (s.hinted d)) :
    (s.setRemoteDescription juice d).2 = none := by
  have hmedia : (s.hinted d).media ≠ [] := by
    rw [media_hinted]
    exact media_ne_nil_of_validate h.valid
  rcases nextRemoteState_cases s d with ⟨hillegal, -⟩ | ⟨-, state, heq, hstate⟩
  · exact absurd h.legal hillegal
  · rw [← rolledBack_mRole s (s.hinted d)] at hfits
    have hlocked := setRemoteLocked_eq h.rollback h.valid heq hfits hstarts
    unfold setRemoteDescription
    rw [hlocked]
    dsimp only
    -- what is left is automatic negotiation, in the state that the description has led to
    split
    · rfl
    · rcases hstate with rfl | rfl
      · exact offerIfNeeded_not_throws rfl rfl hmedia
      · exact setLocalDescription_answer_not_throws rfl rfl hmedia

/-- A description that the ICE transport rejects leaves the rollback and the role behind. -/
theorem unchanged_iff_of_rejected (h : s.Reaches d)
    (hrejected : ¬Fits juice s.mRole (s.hinted d)) :
    (s.setRemoteDescription juice d).2 ≠ none ∧
      (Unchanged s (s.setRemoteDescription juice d).1 ↔
        ¬(s.Collides (s.hinted d) ∨ s.TakesRole (s.hinted d))) := by
  rcases nextRemoteState_cases s d with ⟨hillegal, -⟩ | ⟨-, state, heq, -⟩
  · exact absurd h.legal hillegal
  · obtain ⟨e, role, hice, hkeeps⟩ := iceSetRemoteDescription_reject
      (s := s.rolledBack (s.hinted d)) (d := s.hinted d) (by rw [rolledBack_mRole]; exact hrejected)
    have hset : s.setRemoteDescription juice d =
        ({ s.rolledBack (s.hinted d) with mRole := role }, some e) := by
      unfold setRemoteDescription setRemoteLocked
      rw [if_neg h.rollback, h.valid, heq]
      dsimp only
      rw [hice]
    have htakes : (s.rolledBack (s.hinted d)).TakesRole (s.hinted d) ↔
        s.TakesRole (s.hinted d) := by
      unfold TakesRole
      rw [rolledBack_mRole]
    rw [htakes, rolledBack_mRole] at hkeeps
    rw [hset, not_or, ← hkeeps]
    refine ⟨Option.some_ne_none e, ?_⟩
    -- the remote description has not been touched
    have hremote := rolledBack_mRemoteDescription s (s.hinted d)
    have hiff := unchanged_rolledBack_iff (s := s) (d := s.hinted d) role
      (s.rolledBack (s.hinted d)).mRemoteDescription
    rw [hremote] at hiff
    simpa [hremote] using hiff

/-- If the SCTP transport cannot be started, the role and the remote description stay behind too. -/
theorem unchanged_iff_of_fails (h : s.Reaches d) (hfits : Fits juice s.mRole (s.hinted d))
    (hfails : ¬(s.rolledBack (s.hinted d)).StartsSctp (s.hinted d)) :
    (s.setRemoteDescription juice d).2 ≠ none ∧
      (Unchanged s (s.setRemoteDescription juice d).1 ↔
        ¬(s.Collides (s.hinted d) ∨ s.TakesRole (s.hinted d) ∨
          s.mRemoteDescription ≠ some (s.hinted d))) := by
  rcases nextRemoteState_cases s d with ⟨hillegal, -⟩ | ⟨-, state, heq, -⟩
  · exact absurd h.legal hillegal
  · have hrole : selectRole s.mRole (s.hinted d).role = s.mRole ↔ ¬s.TakesRole (s.hinted d) := by
      rw [TakesRole, and_iff_left hfits.answer]
      unfold selectRole
      cases s.mRole <;> cases (s.hinted d).role <;> simp
    have hlocked := setRemoteLocked_throws h.rollback h.valid heq
      (by rw [rolledBack_mRole]; exact hfits) hfails
    unfold setRemoteDescription
    rw [hlocked]
    dsimp only
    rw [unchanged_rolledBack_iff, rolledBack_mRole, hrole]
    refine ⟨Option.some_ne_none _, ?_⟩
    rw [not_or, not_or, not_not, eq_comm (a := some (s.hinted d))]

/-- **Atomic remote descriptions.** A call is atomic unless the ICE transport rejects the
description behind an implicit rollback or when it has taken its role, or the SCTP transport cannot
be started for a description that it has accepted. -/
theorem atomic_iff (juice : Description → Bool) (s : Signaling) (d : Description) :
    Atomic juice s d ↔ ¬Disturbs juice s d := by
  by_cases hreaches : s.Reaches d
  · by_cases hfits : Fits juice s.mRole (s.hinted d)
    · by_cases hstarts : (s.rolledBack (s.hinted d)).StartsSctp (s.hinted d)
      · -- nothing throws
        have hnone := not_throws_of_fits hreaches hfits hstarts
        refine ⟨fun _ hdisturbs => ?_, fun _ hthrows => absurd hnone hthrows⟩
        rcases hdisturbs.late with hlate | hlate
        · exact hlate.rejected hfits
        · exact hlate.fails hstarts
      · obtain ⟨hthrows, hiff⟩ := unchanged_iff_of_fails hreaches hfits hstarts
        constructor
        · intro hatomic hdisturbs
          rcases hdisturbs.late with hlate | hlate
          · exact hlate.rejected hfits
          · exact hiff.1 (hatomic hthrows) hlate.changes
        · exact fun hkept _ =>
            hiff.2 fun hchanges => hkept ⟨hreaches, .inr ⟨hfits, hstarts, hchanges⟩⟩
    · obtain ⟨hthrows, hiff⟩ := unchanged_iff_of_rejected hreaches hfits
      constructor
      · intro hatomic hdisturbs
        rcases hdisturbs.late with hlate | hlate
        · exact hiff.1 (hatomic hthrows) hlate.changes
        · exact hfits hlate.accepted
      · exact fun hkept _ => hiff.2 fun hchanges => hkept ⟨hreaches, .inl ⟨hfits, hchanges⟩⟩
  · exact ⟨fun _ hdisturbs => hreaches hdisturbs.toReaches,
      fun _ hthrows => unchanged_of_not_reaches hreaches hthrows⟩

/-- A remote offer that libjuice rejects when a local offer is out. -/
theorem not_atomic_collision :
    ¬∀ (juice : Description → Bool) (s : Signaling) (d : Description), Atomic juice s d := by
  intro h
  have hstate := (h (fun _ => false) (Signaling.setLocalDescription {} .offer).1
    { type := .offer, role := .actPass, media := [.application false] } (by decide)).signalingState
  exact absurd hstate (by decide)

end Rtc.Signaling
