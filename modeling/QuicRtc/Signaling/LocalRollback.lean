import QuicRtc.Sdp.Description
import QuicRtc.Signaling.Defs

/-!
# Rolling back a local offer

The local descriptions of a peer connection with their candidates: how `processLocalDescription`
replaces the local description, how candidates are gathered into it, and how
`rollbackLocalDescription` brings the one before back.

What the ICE transport and `processLocalDescription` put into a new local description, up to the
point where it is set, is an argument. Automatic negotiation is a call of its own. The mids of
candidates are left out, as in `Sdp.Candidate`.

* `Undone`: the peer connection is stable, and has the local description it had, up to candidates.
* `undone_iff`: a rollback brings this about if there was a local description, and the gathering of
  its candidates had not ended.
-/

namespace Rtc

namespace Sdp.Description

/-- `extractCandidates`: the candidates, and what is left of the description. -/
def extractCandidates (d : Description) : List Candidate × Description :=
  (d.mCandidates, { d with mCandidates := [], mEnded := false })

/-- `addCandidates`. -/
def addCandidates (d : Description) (candidates : List Candidate) : Description :=
  candidates.foldl addCandidate d

end Sdp.Description

open Sdp (Candidate)

/-- The signaling state and the local descriptions of a peer connection. `relayOnly` says that
`config.iceTransportPolicy` is `TransportPolicy::Relay`. -/
structure LocalSide where
  signalingState : SignalingState := .stable
  mLocalDescription : Option Sdp.Description := none
  mCurrentLocalDescription : Option Sdp.Description := none
  relayOnly : Bool := false

namespace LocalSide

/-- The candidates of an optional description, and what is left of it. -/
def extract (d : Option Sdp.Description) : List Candidate × Option Sdp.Description :=
  match d with
  | none => ([], none)
  | some d => (d.extractCandidates.1, some d.extractCandidates.2)

/-- The end of `processLocalDescription`. -/
def setAsLocal (p : LocalSide) (description : Sdp.Description) : LocalSide :=
  let (existingCandidates, left) := extract p.mLocalDescription
  { p with
    mLocalDescription := some (description.addCandidates existingCandidates)
    mCurrentLocalDescription :=
      match left with
      | none => p.mCurrentLocalDescription
      | some current => some current }

/-- `rollbackLocalDescription`. -/
def rollbackLocalDescription (p : LocalSide) : LocalSide :=
  match p.mCurrentLocalDescription with
  | none => p
  | some current =>
    { p with
      mLocalDescription := some (current.addCandidates (extract p.mLocalDescription).1)
      mCurrentLocalDescription := none }

/-- `setLocalDescription`. A description is processed when the signaling state allows its type. -/
def setLocalDescription (p : LocalSide) (type : Description.Kind)
    (processed : Except Exception Sdp.Description) : LocalSide × Option Exception :=
  if type = .rollback then
    if p.signalingState = .haveLocalOffer ∨ p.signalingState = .haveLocalPranswer then
      ({ p.rollbackLocalDescription with signalingState := .stable }, none)
    else (p, none)
  else
    let type := Signaling.guessType p.signalingState type
    match Signaling.nextLocalState p.signalingState type, processed with
    | .error e, _ => (p, some e)
    | .ok none, _ => (p, none)
    | .ok (some _), .error e => (p, some e)
    | .ok (some newState), .ok description =>
      ({ p.setAsLocal description with signalingState := newState }, none)

/-- What the ICE transport reports. -/
inductive Gathering where
  | candidate (candidate : Candidate)
  | completed
  deriving DecidableEq, Repr

/-- `processLocalCandidate` and `endLocalCandidates`. Without a local description the former
throws. -/
def gather (p : LocalSide) : Gathering → LocalSide
  | .candidate candidate =>
    if p.relayOnly && candidate.mTypeString ≠ bytes "relay" then p
    else
      { p with
        mLocalDescription := p.mLocalDescription.map fun description =>
          description.addCandidate candidate }
  | .completed =>
    { p with
      mLocalDescription := p.mLocalDescription.map fun description => description.endCandidates }

/-- An offer, what is gathered, and a rollback. -/
def offerAndRollback (p : LocalSide) (description : Sdp.Description)
    (gathered : List Gathering) : LocalSide :=
  let offered := (p.setLocalDescription .offer (.ok description)).1
  ((gathered.foldl gather offered).setLocalDescription .rollback (.ok description)).1

/-- `d'` is `d` but for added candidates. -/
structure Extends (d d' : Sdp.Description) : Prop where
  same : { d' with mCandidates := d.mCandidates } = d
  candidates : ∀ candidate ∈ d.mCandidates, d'.hasCandidate candidate = true

/-- The peer connection is stable, and its local description is that of `p` but for added
candidates. -/
structure Undone (p q : LocalSide) : Prop where
  stable : q.signalingState = .stable
  mLocalDescription : Option.Rel Extends p.mLocalDescription q.mLocalDescription

/-! ## Candidates -/

section Candidates

variable {d d' : Sdp.Description} {candidate : Candidate} {candidates : List Candidate}

theorem same_refl (candidate : Candidate) : candidate.same candidate = true := by
  simp [Candidate.same]

theorem same_trans {a b c : Candidate} (hab : a.same b = true) (hbc : b.same c = true) :
    a.same c = true := by
  simp only [Candidate.same, decide_eq_true_eq] at hab hbc ⊢
  exact ⟨hab.1.trans hbc.1, hab.2.1.trans hbc.2.1, hab.2.2.trans hbc.2.2⟩

/-- Only the candidates of a description may change. -/
structure Grows (d d' : Sdp.Description) : Prop where
  same : { d' with mCandidates := d.mCandidates } = d
  subset : ∀ candidate ∈ d.mCandidates, candidate ∈ d'.mCandidates

theorem Grows.refl (d : Sdp.Description) : Grows d d := ⟨rfl, fun _ h => h⟩

theorem Grows.hasCandidate (h : Grows d d') (hhas : d.hasCandidate candidate = true) :
    d'.hasCandidate candidate = true := by
  obtain ⟨c, hc, hsame⟩ := List.any_eq_true.1 hhas
  exact List.any_eq_true.2 ⟨c, h.subset c hc, hsame⟩

/-- An added candidate is there, and those before it as well. -/
theorem grows_addCandidate (d : Sdp.Description) (candidate : Candidate) :
    Grows d (d.addCandidate candidate) ∧
      (d.addCandidate candidate).hasCandidate candidate = true := by
  unfold Sdp.Description.addCandidate
  by_cases hhas : d.hasCandidate candidate = true
  · rw [if_pos hhas]
    exact ⟨Grows.refl d, hhas⟩
  · rw [if_neg hhas]
    refine ⟨⟨rfl, fun c hc => List.mem_append_left _ hc⟩, List.any_eq_true.2 ⟨candidate, ?_, ?_⟩⟩
    · exact List.mem_append_right _ (List.mem_singleton_self candidate)
    · exact same_refl candidate

theorem Grows.trans {d₁ d₂ d₃ : Sdp.Description} (h₁ : Grows d₁ d₂) (h₂ : Grows d₂ d₃) :
    Grows d₁ d₃ where
  same := by
    calc { d₃ with mCandidates := d₁.mCandidates }
        = { { d₃ with mCandidates := d₂.mCandidates } with mCandidates := d₁.mCandidates } := rfl
      _ = { d₂ with mCandidates := d₁.mCandidates } := by rw [h₂.same]
      _ = d₁ := h₁.same
  subset := fun candidate hmem => h₂.subset candidate (h₁.subset candidate hmem)

/-- All candidates that are added are there. -/
theorem grows_addCandidates (d : Sdp.Description) (candidates : List Candidate) :
    Grows d (d.addCandidates candidates) ∧
      ∀ candidate ∈ candidates, (d.addCandidates candidates).hasCandidate candidate = true := by
  induction candidates generalizing d with
  | nil => exact ⟨Grows.refl d, fun c hc => absurd hc List.not_mem_nil⟩
  | cons candidate candidates ih =>
    obtain ⟨hfirst, hhas⟩ := grows_addCandidate d candidate
    obtain ⟨hrest, hall⟩ := ih (d.addCandidate candidate)
    refine ⟨hfirst.trans hrest, fun c hc => ?_⟩
    rcases List.mem_cons.1 hc with rfl | hc
    · exact hrest.hasCandidate hhas
    · exact hall c hc

end Candidates

/-! ## The offer and the rollback -/

variable {p q : LocalSide}

/-- The state with a local offer out. -/
def offered (p : LocalSide) (description : Sdp.Description) : LocalSide :=
  { p.setAsLocal description with signalingState := .haveLocalOffer }

/-- An offer of a stable peer connection is set as the local description. -/
theorem setLocalDescription_offer (hstable : p.signalingState = .stable)
    (description : Sdp.Description) :
    p.setLocalDescription .offer (.ok description) = (p.offered description, none) := by
  have htype : (Description.Kind.offer = .rollback) = False := by decide
  simp only [setLocalDescription, htype, if_false, hstable]
  rfl

/-- A rollback while a local offer is out. -/
theorem setLocalDescription_rollback (hstate : p.signalingState = .haveLocalOffer)
    (processed : Except Exception Sdp.Description) :
    p.setLocalDescription .rollback processed =
      ({ p.rollbackLocalDescription with signalingState := .stable }, none) := by
  rw [setLocalDescription, if_pos rfl, if_pos (.inl hstate)]

/-- Gathering adds to the local description. -/
theorem gather_foldl (gathered : List Gathering) {o : Sdp.Description}
    (hlocal : p.mLocalDescription = some o) :
    (gathered.foldl gather p).signalingState = p.signalingState ∧
      (gathered.foldl gather p).mCurrentLocalDescription = p.mCurrentLocalDescription ∧
        ∃ o', (gathered.foldl gather p).mLocalDescription = some o' ∧
          ∀ candidate ∈ o.mCandidates, candidate ∈ o'.mCandidates := by
  induction gathered generalizing p o with
  | nil => exact ⟨rfl, rfl, o, hlocal, fun _ h => h⟩
  | cons event gathered ih =>
    obtain ⟨o₁, hlocal₁, hstate, hcurrent, hsubset⟩ : ∃ o₁,
        (p.gather event).mLocalDescription = some o₁ ∧
          (p.gather event).signalingState = p.signalingState ∧
            (p.gather event).mCurrentLocalDescription = p.mCurrentLocalDescription ∧
              ∀ candidate ∈ o.mCandidates, candidate ∈ o₁.mCandidates := by
      cases event with
      | completed =>
        exact ⟨o.endCandidates, by simp [gather, hlocal], rfl, rfl, fun _ h => h⟩
      | candidate candidate =>
        unfold gather
        dsimp only
        split
        · exact ⟨o, hlocal, rfl, rfl, fun _ h => h⟩
        · exact ⟨o.addCandidate candidate, by simp [hlocal], rfl, rfl,
            (grows_addCandidate o candidate).1.subset⟩
    obtain ⟨hstate', hcurrent', o', hlocal', hsubset'⟩ := ih hlocal₁
    exact ⟨hstate'.trans hstate, hcurrent'.trans hcurrent, o', hlocal',
      fun c hc => hsubset' c (hsubset c hc)⟩

/-- What the rollback does: the description before the offer gets its candidates. -/
theorem offerAndRollback_spec (hstable : p.signalingState = .stable)
    (description : Sdp.Description) (gathered : List Gathering) :
    (p.offerAndRollback description gathered).signalingState = .stable ∧
      (p.mLocalDescription = none →
        (p.offerAndRollback description gathered).mLocalDescription ≠ none) ∧
        ∀ d ∈ p.mLocalDescription, ∃ candidates,
          (p.offerAndRollback description gathered).mLocalDescription =
              some (d.extractCandidates.2.addCandidates candidates) ∧
            ∀ candidate ∈ (description.addCandidates d.mCandidates).mCandidates,
              candidate ∈ candidates := by
  have hlocal : (p.offered description).mLocalDescription =
      some (description.addCandidates (extract p.mLocalDescription).1) := rfl
  obtain ⟨hstate, hcurrent, o, hoffer, hsubset⟩ := gather_foldl gathered hlocal
  unfold offerAndRollback
  rw [setLocalDescription_offer hstable]
  dsimp only
  rw [setLocalDescription_rollback hstate]
  generalize gathered.foldl gather (p.offered description) = q at *
  refine ⟨rfl, fun hnone => ?_, fun d hd => ?_⟩
  · -- the offer stays, or what an earlier offer has replaced comes back
    show q.rollbackLocalDescription.mLocalDescription ≠ none
    unfold rollbackLocalDescription
    cases q.mCurrentLocalDescription with
    | none =>
      rw [hoffer]
      exact Option.some_ne_none o
    | some current => exact Option.some_ne_none _
  · -- the offer has put the description before it aside, without its candidates
    have hbefore : q.mCurrentLocalDescription = some d.extractCandidates.2 := by
      rw [hcurrent, offered]
      simp only [setAsLocal, extract, Option.mem_def.1 hd]
    refine ⟨o.mCandidates, ?_, fun c hc => hsubset c ?_⟩
    · show q.rollbackLocalDescription.mLocalDescription = _
      unfold rollbackLocalDescription
      rw [hbefore, hoffer]
      rfl
    · rw [Option.mem_def.1 hd]
      exact hc

/-- **Rollback undoes a local offer.** It does exactly if there was a local description whose
candidates had not ended: without one the offer stays, and the end of the candidates is lost. -/
theorem undone_iff (hstable : p.signalingState = .stable) (description : Sdp.Description)
    (gathered : List Gathering) :
    Undone p (p.offerAndRollback description gathered) ↔
      ∃ d ∈ p.mLocalDescription, d.mEnded = false := by
  obtain ⟨hstate, habsent, hpresent⟩ := offerAndRollback_spec hstable description gathered
  cases hlocal : p.mLocalDescription with
  | none =>
    have hne := habsent hlocal
    constructor
    · intro hundone
      have hrel := hundone.mLocalDescription
      rw [hlocal] at hrel
      cases hresult : (p.offerAndRollback description gathered).mLocalDescription with
      | none => exact absurd hresult hne
      | some d =>
        rw [hresult] at hrel
        cases hrel
    · rintro ⟨d, hd, -⟩
      cases hd
  | some d =>
    obtain ⟨candidates, hresult, hcandidates⟩ := hpresent d hlocal
    obtain ⟨hgrows, hall⟩ := grows_addCandidates d.extractCandidates.2 candidates
    -- `extractCandidates` has reset the flag, and nothing sets it again
    have hended : (d.extractCandidates.2.addCandidates candidates).mEnded = false :=
      congrArg Sdp.Description.mEnded hgrows.same
    constructor
    · intro hundone
      have hrel := hundone.mLocalDescription
      rw [hlocal, hresult] at hrel
      cases hrel with
      | some hextends =>
        have hkept := congrArg Sdp.Description.mEnded hextends.same
        exact ⟨d, rfl, hkept.symm.trans hended⟩
    · rintro ⟨d', hd', hopen⟩
      obtain rfl := Option.some.inj hd'
      refine ⟨hstate, ?_⟩
      rw [hlocal, hresult]
      refine .some ⟨?_, fun c hc => ?_⟩
      · have hsame := congrArg
          (fun e : Sdp.Description => { e with mCandidates := d.mCandidates }) hgrows.same
        refine hsame.trans ?_
        show { d with mEnded := false } = d
        rw [← hopen]
      · -- the candidate went to the offer and came back
        obtain ⟨e, he, hsame⟩ := List.any_eq_true.1
          ((grows_addCandidates description d.mCandidates).2 c hc)
        obtain ⟨e', he', hsame'⟩ := List.any_eq_true.1 (hall e (hcandidates e he))
        exact List.any_eq_true.2 ⟨e', he', same_trans hsame' hsame⟩

/-- A second offer, with a candidate gathered before it and one after. -/
theorem undone_secondOffer :
    Undone { mLocalDescription := some { mRole := .active, mCandidates := [{ mPriority := 1 }] } }
      (offerAndRollback
        { mLocalDescription := some { mRole := .active, mCandidates := [{ mPriority := 1 }] } }
        { mType := .offer, mRole := .actPass } [.candidate { mService := [49] }, .completed]) :=
  (undone_iff rfl _ _).2 ⟨_, rfl, rfl⟩

/-- The first offer of a peer connection stays its local description. -/
theorem not_undone_firstOffer :
    ¬∀ (p : LocalSide) (description : Sdp.Description) (gathered : List Gathering),
      p.signalingState = .stable → Undone p (p.offerAndRollback description gathered) := by
  intro h
  have hrel : Option.Rel Extends none (some { mType := .offer, mRole := .actPass }) :=
    (h {} { mType := .offer, mRole := .actPass } [] rfl).mLocalDescription
  cases hrel

end LocalSide

end Rtc
