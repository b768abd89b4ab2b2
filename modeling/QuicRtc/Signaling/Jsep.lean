import QuicRtc.Lib.Transition
import QuicRtc.Signaling.Spec

/-!
# The JSEP signaling automaton

With automatic negotiation disabled the user drives the signaling state alone. This module compares
the state machine spread over `setLocalDescription` and `setRemoteDescription` with the signaling
automaton of JSEP, in which a pranswer keeps the exchange open until the answer.

* `jsep` is the automaton, on the side a description is applied to and its type.
* `Exchange.step` adds what a call has to bring besides its type: something to offer, and remote
  descriptions that are valid and whose role fits the roles taken before.
* `Follows` says that the calls are all accepted and that the signaling state is the JSEP state
  after each of them, whatever becomes of the DTLS transport in between.

Pranswers move the code to `Stable` at once, although it has states and switch cases for them, a
second offer on the side of the pending one is not taken, and a remote description with an
application is rejected if the SCTP transport has to be started for it and the local description has
none. `follows_iff_meets` shows that these are the only differences.
-/

namespace Rtc

/-- The side a description is applied to. -/
inductive Side where
  | localSide
  | remoteSide
  deriving DecidableEq, Repr

/-- The signaling automaton of JSEP: the state after a description of a type is applied to a side,
`none` where that is not legal. -/
def jsep : SignalingState → Side → Description.Kind → Option SignalingState
  | .stable, .localSide, .offer => some .haveLocalOffer
  | .stable, .remoteSide, .offer => some .haveRemoteOffer
  | .haveLocalOffer, .localSide, .offer => some .haveLocalOffer
  | .haveLocalOffer, .localSide, .rollback => some .stable
  | .haveLocalOffer, .remoteSide, .pranswer => some .haveRemotePranswer
  | .haveLocalOffer, .remoteSide, .answer => some .stable
  | .haveRemoteOffer, .remoteSide, .offer => some .haveRemoteOffer
  | .haveRemoteOffer, .remoteSide, .rollback => some .stable
  | .haveRemoteOffer, .localSide, .pranswer => some .haveLocalPranswer
  | .haveRemoteOffer, .localSide, .answer => some .stable
  | .haveLocalPranswer, .localSide, .pranswer => some .haveLocalPranswer
  | .haveLocalPranswer, .localSide, .answer => some .stable
  | .haveRemotePranswer, .remoteSide, .pranswer => some .haveRemotePranswer
  | .haveRemotePranswer, .remoteSide, .answer => some .stable
  | _, _, _ => none

namespace Signaling

/-- A call of the user. -/
inductive Call where
  | setLocal (type : Description.Kind)
  | setRemote (d : Description)
  deriving DecidableEq, Repr

/-- The side a call is about. -/
def Call.side : Call → Side
  | .setLocal _ => .localSide
  | .setRemote _ => .remoteSide

/-- The description type of a call. -/
def Call.type : Call → Description.Kind
  | .setLocal type => type
  | .setRemote d => d.type

/-- A call of the user, or a change of the DTLS transport between two calls. -/
inductive Event where
  | call (c : Call)
  | dtlsState (state : Transport.State)
  deriving DecidableEq, Repr

/-- Execute a call. -/
def perform (juice : Description → Bool) (s : Signaling) : Call → Signaling × Option Exception
  | .setLocal type => s.setLocalDescription type
  | .setRemote d => s.setRemoteDescription juice d

/-! ## Legal sequences of calls -/

/-- An exchange as JSEP sees it: its state, the DTLS role taken so far, and whether there is
something to offer. -/
structure Exchange where
  state : SignalingState := .stable
  role : Description.Role := .actPass
  media : Bool := true
  deriving DecidableEq, Repr

namespace Exchange

/-- What a call has to bring besides its type. -/
def Admits (juice : Description → Bool) (e : Exchange) : Call → Prop
  | .setLocal type => type = .offer → e.media = true
  | .setRemote d => d.type ≠ .rollback →
      validateRemoteDescription d = none ∧ Fits juice e.role d

instance (juice : Description → Bool) (e : Exchange) : ∀ c, Decidable (e.Admits juice c)
  | .setLocal _ => inferInstanceAs (Decidable (_ → _))
  | .setRemote _ => inferInstanceAs (Decidable (_ → _))

/-- The exchange after a call that leads to a JSEP state. A remote description fixes the role, and
its media can be offered again. -/
def next (e : Exchange) (state : SignalingState) : Call → Exchange
  | .setLocal _ => { e with state }
  | .setRemote d =>
    if d.type = .rollback then { e with state }
    else { state, role := selectRole e.role d.role, media := true }

@[simp]
theorem next_state (e : Exchange) (state : SignalingState) (c : Call) :
    (e.next state c).state = state := by
  unfold next
  split
  · rfl
  · split_ifs <;> rfl

/-- One legal call. -/
def step (juice : Description → Bool) (e : Exchange) (c : Call) : Option Exchange :=
  if e.Admits juice c then (jsep e.state c.side c.type).map (e.next · c) else none

/-- The same, for an event. The automaton does not look at the transports. -/
def event (juice : Description → Bool) (e : Exchange) : Event → Option Exchange
  | .call c => e.step juice c
  | .dtlsState _ => some e

/-- A call that makes an offer on the side whose offer is pending already. -/
def Reoffers (e : Exchange) (c : Call) : Prop :=
  c.type = .offer ∧
    (c.side = .localSide ∧ e.state = .haveLocalOffer ∨
      c.side = .remoteSide ∧ e.state = .haveRemoteOffer)

instance (e : Exchange) (c : Call) : Decidable (e.Reoffers c) :=
  inferInstanceAs (Decidable (_ ∧ (_ ∧ _ ∨ _ ∧ _)))

end Exchange

/-- A remote description does not ask for an SCTP transport that cannot be started. -/
def StartsFor (s : Signaling) : Call → Prop
  | .setLocal _ => True
  | .setRemote d => d.type ≠ .rollback → s.StartsSctp d

instance (s : Signaling) : DecidablePred s.StartsFor
  | .setLocal _ => isTrue trivial
  | .setRemote _ => inferInstanceAs (Decidable (_ → _))

/-- The calls on which the code and the automaton agree. -/
structure Supports (s : Signaling) (e : Exchange) (c : Call) : Prop where
  pranswer : c.type ≠ .pranswer
  reoffers : ¬e.Reoffers c
  starts : s.StartsFor c

instance (s : Signaling) (e : Exchange) (c : Call) : Decidable (Supports s e c) :=
  decidable_of_iff (c.type ≠ .pranswer ∧ ¬e.Reoffers c ∧ s.StartsFor c)
    ⟨fun h => ⟨h.1, h.2.1, h.2.2⟩, fun h => ⟨h.pranswer, h.reoffers, h.starts⟩⟩

/-! ## What it means to follow the automaton -/

/-- A call that is not a rollback has applied its description: a local one is issued and becomes the
local description, a remote one becomes the remote description. -/
def Applied (s s' : Signaling) : Call → Prop
  | .setLocal type => type ≠ .rollback →
      ∃ d : Description, d.type = type ∧ s'.mLocalDescription = some d ∧
        s'.issued = s.issued ++ [d]
  | .setRemote d => d.type ≠ .rollback → s'.mRemoteDescription = some d

/-- The code follows the automaton from a state on: every call returns, applies its description and
leads to the JSEP state. -/
def Follows (juice : Description → Bool) (s : Signaling) (e : Exchange) : List Event → Prop
  | [] => True
  | .call c :: es =>
    let (s', error) := s.perform juice c
    error = none ∧ Applied s s' c ∧
      ∀ e', e.step juice c = some e' → s'.signalingState = e'.state ∧ Follows juice s' e' es
  | .dtlsState state :: es => Follows juice (s.dtlsStateChanged state) e es

/-- The code and the automaton side by side. -/
def compare (juice : Description → Bool) (x : Signaling × Exchange) :
    Event → Option (Signaling × Exchange)
  | .call c => (x.2.step juice c).map fun e => ((x.1.perform juice c).1, e)
  | .dtlsState state => some (x.1.dtlsStateChanged state, x.2)

/-- The events on which the code and the automaton agree. -/
def Supported (x : Signaling × Exchange) : Event → Prop
  | .call c => Supports x.1 x.2 c
  | .dtlsState _ => True

instance (x : Signaling × Exchange) : DecidablePred (Supported x)
  | .call _ => inferInstanceAs (Decidable (Supports _ _ _))
  | .dtlsState _ => isTrue trivial

/-! ## The simulation -/

/-- The state of the code matches an exchange outside of the pranswer states. -/
structure Matches (s : Signaling) (e : Exchange) : Prop where
  state : s.signalingState = e.state
  role : s.mRole = e.role
  manual : s.disableAutoNegotiation = true
  noLocalPranswer : e.state ≠ .haveLocalPranswer
  noRemotePranswer : e.state ≠ .haveRemotePranswer
  /-- there is something to offer, from the data channels or from the remote description -/
  media : e.media = true → s.dataChannels = true ∨ s.mRemoteDescription.isSome
  /-- remote descriptions have been validated -/
  remoteMedia : ∀ d, s.mRemoteDescription = some d → d.media ≠ []
  remoteOffer : e.state = .haveRemoteOffer → s.mRemoteDescription.isSome

/-- A legal call satisfies the requirements on its contents and is an edge of the automaton. -/
theorem Exchange.step_cases {juice : Description → Bool} {e e' : Exchange} {c : Call}
    (h : e.step juice c = some e') :
    e.Admits juice c ∧ ∃ state, jsep e.state c.side c.type = some state ∧
      e' = e.next state c := by
  unfold Exchange.step at h
  -- a call that is not admitted is not a step
  split_ifs at h with hadmits
  obtain ⟨state, hstate, rfl⟩ := Option.map_eq_some_iff.1 h
  exact ⟨hadmits, state, hstate, rfl⟩

/-- The supported edges of the automaton on the local side. -/
theorem jsep_local {state state' : SignalingState} {type : Description.Kind}
    (h : jsep state .localSide type = some state') (hpranswer : type ≠ .pranswer)
    (hlocal : state ≠ .haveLocalPranswer) (hoffer : ¬(type = .offer ∧ state = .haveLocalOffer)) :
    state = .stable ∧ type = .offer ∧ state' = .haveLocalOffer ∨
      state = .haveLocalOffer ∧ type = .rollback ∧ state' = .stable ∨
      state = .haveRemoteOffer ∧ type = .answer ∧ state' = .stable := by
  revert h hpranswer hlocal hoffer
  cases state <;> cases type <;> simp [jsep, eq_comm]

/-- The supported edges of the automaton on the remote side. -/
theorem jsep_remote {state state' : SignalingState} {type : Description.Kind}
    (h : jsep state .remoteSide type = some state') (hpranswer : type ≠ .pranswer)
    (hremote : state ≠ .haveRemotePranswer) (hoffer : ¬(type = .offer ∧ state = .haveRemoteOffer)) :
    state = .stable ∧ type = .offer ∧ state' = .haveRemoteOffer ∨
      state = .haveLocalOffer ∧ type = .answer ∧ state' = .stable ∨
      state = .haveRemoteOffer ∧ type = .rollback ∧ state' = .stable := by
  revert h hpranswer hremote hoffer
  cases state <;> cases type <;> simp [jsep, eq_comm]

/-- The edges of the automaton that enter a pranswer state. -/
theorem jsep_pranswer {state state' : SignalingState} {side : Side}
    (h : jsep state side .pranswer = some state') (hlocal : state ≠ .haveLocalPranswer)
    (hremote : state ≠ .haveRemotePranswer) :
    side = .localSide ∧ state = .haveRemoteOffer ∧ state' = .haveLocalPranswer ∨
      side = .remoteSide ∧ state = .haveLocalOffer ∧ state' = .haveRemotePranswer := by
  revert h hlocal hremote
  cases state <;> cases side <;> simp [jsep, eq_comm]

/-- The match at a state with the same role, channels and remote description, once the signaling
states are equal again. -/
theorem Matches.move {s s' : Signaling} {e : Exchange} {state : SignalingState} (hs : s.Matches e)
    (hrole : s'.mRole = s.mRole) (hmanual : s'.disableAutoNegotiation = s.disableAutoNegotiation)
    (hchannels : s'.dataChannels = s.dataChannels)
    (hremote : s'.mRemoteDescription = s.mRemoteDescription) (hstate : s'.signalingState = state)
    (hopen : state = .stable ∨ state = .haveLocalOffer) :
    s'.Matches { e with state } where
  state := hstate
  role := hrole.trans hs.role
  manual := hmanual.trans hs.manual
  noLocalPranswer := by rcases hopen with rfl | rfl <;> simp
  noRemotePranswer := by rcases hopen with rfl | rfl <;> simp
  media := by
    rw [hchannels, hremote]
    exact hs.media
  remoteMedia := by
    rw [hremote]
    exact hs.remoteMedia
  remoteOffer := by
    intro h
    rcases hopen with rfl | rfl <;> cases h

/-- The match after a remote description is stored. -/
theorem Matches.take {s : Signaling} {e : Exchange} {d : Description} {state : SignalingState}
    (hs : s.Matches e) (hmedia : d.media ≠ [])
    (hopen : state = .stable ∨ state = .haveRemoteOffer) :
    (s.take d state).Matches { state, role := selectRole e.role d.role, media := true } where
  state := rfl
  role := by rw [← hs.role]; rfl
  manual := hs.manual
  noLocalPranswer := by rcases hopen with rfl | rfl <;> simp
  noRemotePranswer := by rcases hopen with rfl | rfl <;> simp
  media := fun _ => .inr rfl
  remoteMedia := by
    rintro _ ⟨⟩
    exact hmedia
  remoteOffer := fun _ => rfl

/-- The transports do not matter for the match. -/
theorem Matches.dtlsStateChanged {s : Signaling} {e : Exchange} (hs : s.Matches e)
    (state : Transport.State) : (s.dtlsStateChanged state).Matches e := by
  obtain ⟨sctp, hchanged⟩ := s.dtlsStateChanged_eq state
  rw [hchanged]
  exact ⟨hs.state, hs.role, hs.manual, hs.noLocalPranswer, hs.noRemotePranswer, hs.media,
    hs.remoteMedia, hs.remoteOffer⟩

/-- A local description that the switch takes is applied. -/
theorem setLocalDescription_manual {s : Signaling} {type : Description.Kind}
    {state : SignalingState} (hmanual : s.disableAutoNegotiation = true)
    (hlocked : s.setLocalLocked type = (s.issue type state, .ok (some state))) :
    s.setLocalDescription type = (s.issue type state, none) := by
  have hissue : (s.issue type state).disableAutoNegotiation = true := hmanual
  unfold setLocalDescription
  rw [hlocked]
  cases state <;> simp [hissue]

/-- A supported call on the local side is accepted and leads to the JSEP state. -/
theorem setLocal_follows {juice : Description → Bool} {s : Signaling} {e : Exchange}
    {type : Description.Kind} {state : SignalingState} (hs : s.Matches e)
    (hjsep : jsep e.state .localSide type = some state) (hadmits : e.Admits juice (.setLocal type))
    (hsupports : Supports s e (.setLocal type)) :
    (s.setLocalDescription type).2 = none ∧
      Applied s (s.setLocalDescription type).1 (.setLocal type) ∧
      (s.setLocalDescription type).1.Matches { e with state } := by
  have hoffer : ¬(type = .offer ∧ e.state = .haveLocalOffer) :=
    fun h => hsupports.reoffers ⟨h.1, .inl ⟨rfl, h.2⟩⟩
  rcases jsep_local hjsep hsupports.pranswer hs.noLocalPranswer hoffer with
    ⟨hstate, rfl, rfl⟩ | ⟨hstate, rfl, rfl⟩ | ⟨hstate, rfl, rfl⟩
  · -- the offer
    have hnext : nextLocalState s.signalingState .offer = .ok (some .haveLocalOffer) := by
      rw [hs.state, hstate]
      rfl
    have hmedia : s.localMedia .offer ≠ [] :=
      localMedia_ne_nil hs.remoteMedia ((hs.media (hadmits rfl)).symm.imp_right fun h => ⟨rfl, h⟩)
    have hlocked := setLocalLocked_eq (by decide) (by decide) hnext hmedia
    rw [setLocalDescription_manual hs.manual hlocked]
    exact ⟨rfl, fun _ => ⟨_, rfl, rfl, rfl⟩, hs.move rfl rfl rfl rfl rfl (.inr rfl)⟩
  · -- the rollback of the offer
    have hset : s.setLocalDescription .rollback =
        ({ s.rollbackLocalDescription with signalingState := .stable }, none) := by
      simp [setLocalDescription, setLocalLocked, hs.state, hstate]
    obtain ⟨l, c, hrollback⟩ := s.rollbackLocalDescription_eq
    rw [hset, hrollback]
    exact ⟨rfl, fun h => (h rfl).elim, hs.move rfl rfl rfl rfl rfl (.inl rfl)⟩
  · -- the answer, which has the media lines of the offer
    have hnext : nextLocalState s.signalingState .answer = .ok (some .stable) := by
      rw [hs.state, hstate]
      rfl
    have hmedia : s.localMedia .answer ≠ [] :=
      localMedia_ne_nil hs.remoteMedia (.inl (hs.remoteOffer hstate))
    have hlocked := setLocalLocked_eq (by decide) (by decide) hnext hmedia
    rw [setLocalDescription_manual hs.manual hlocked]
    exact ⟨rfl, fun _ => ⟨_, rfl, rfl, rfl⟩, hs.move rfl rfl rfl rfl rfl (.inl rfl)⟩

/-- A supported call on the remote side is accepted and leads to the JSEP state. -/
theorem setRemote_follows {juice : Description → Bool} {s : Signaling} {e : Exchange}
    {d : Description} {state : SignalingState} (hs : s.Matches e)
    (hjsep : jsep e.state .remoteSide d.type = some state) (hadmits : e.Admits juice (.setRemote d))
    (hsupports : Supports s e (.setRemote d)) :
    (s.setRemoteDescription juice d).2 = none ∧
      Applied s (s.setRemoteDescription juice d).1 (.setRemote d) ∧
      (s.setRemoteDescription juice d).1.Matches (e.next state (.setRemote d)) := by
  have hoffer : ¬(d.type = .offer ∧ e.state = .haveRemoteOffer) :=
    fun h => hsupports.reoffers ⟨h.1, .inr ⟨rfl, h.2⟩⟩
  -- an offer and an answer are stored in the same way
  have hstore (hnext : s.nextRemoteState d = .ok (s, d, state)) (hrollback : d.type ≠ .rollback)
      (hopen : state = .stable ∨ state = .haveRemoteOffer) :
      (s.setRemoteDescription juice d).2 = none ∧
        Applied s (s.setRemoteDescription juice d).1 (.setRemote d) ∧
        (s.setRemoteDescription juice d).1.Matches (e.next state (.setRemote d)) := by
    obtain ⟨hvalid, hfits⟩ := hadmits hrollback
    have hlocked :=
      setRemoteLocked_eq hrollback hvalid hnext (hs.role ▸ hfits) (hsupports.starts hrollback)
    have hset : s.setRemoteDescription juice d = (s.take d state, none) := by
      have htake : (s.take d state).disableAutoNegotiation = true := hs.manual
      simp [setRemoteDescription, hlocked, htake]
    rw [hset, Exchange.next, if_neg hrollback]
    exact ⟨rfl, fun _ => rfl, hs.take (media_ne_nil_of_validate hvalid) hopen⟩
  rcases jsep_remote hjsep hsupports.pranswer hs.noRemotePranswer hoffer with
    ⟨hstate, htype, rfl⟩ | ⟨hstate, htype, rfl⟩ | ⟨hstate, htype, rfl⟩
  · -- an offer in the stable state
    refine hstore ?_ (by simp [htype]) (.inr rfl)
    simp [nextRemoteState, hs.state, hstate, Description.hintType, htype]
  · -- the answer to the pending offer
    refine hstore ?_ (by simp [htype]) (.inl rfl)
    simp [nextRemoteState, hs.state, hstate, Description.hintType, htype]
  · -- the rollback of the remote offer
    have hset : s.setRemoteDescription juice d = ({ s with signalingState := .stable }, none) := by
      simp [setRemoteDescription, setRemoteLocked, htype]
    rw [hset, Exchange.next, if_pos htype]
    exact ⟨rfl, fun h => (h htype).elim, hs.move rfl rfl rfl rfl rfl (.inl rfl)⟩

/-- A supported call is accepted and leads to the JSEP state. -/
theorem perform_follows {juice : Description → Bool} {s : Signaling} {e e' : Exchange} {c : Call}
    (hs : s.Matches e) (hstep : e.step juice c = some e') (hsupports : Supports s e c) :
    (s.perform juice c).2 = none ∧ Applied s (s.perform juice c).1 c ∧
      (s.perform juice c).1.Matches e' := by
  obtain ⟨hadmits, state, hjsep, rfl⟩ := Exchange.step_cases hstep
  cases c with
  | setLocal type => exact setLocal_follows hs hjsep hadmits hsupports
  | setRemote d => exact setRemote_follows hs hjsep hadmits hsupports

/-! ## The other calls -/

/-- An unsupported local call is not followed: a pranswer ends the exchange, and a second offer is
ignored. -/
theorem setLocal_not_follows {juice : Description → Bool} {s : Signaling} {e : Exchange}
    {type : Description.Kind} {state : SignalingState} (hs : s.Matches e)
    (hjsep : jsep e.state .localSide type = some state)
    (hmiss : ¬Supports s e (.setLocal type)) :
    ¬((s.perform juice (.setLocal type)).2 = none ∧
      Applied s (s.perform juice (.setLocal type)).1 (.setLocal type) ∧
      (s.perform juice (.setLocal type)).1.signalingState = state) := by
  rintro ⟨-, happlied, hfinal⟩
  have hkind : type = .pranswer ∨ e.Reoffers (.setLocal type) := by
    by_contra h
    obtain ⟨hpranswer, hoffer⟩ := not_or.1 h
    exact hmiss ⟨hpranswer, hoffer, trivial⟩
  rcases hkind with rfl | ⟨htype, ⟨-, hstate⟩ | ⟨⟨⟩, -⟩⟩
  · -- a local pranswer is issued and leads to `Stable`
    obtain ⟨hstate, rfl⟩ : e.state = .haveRemoteOffer ∧ state = .haveLocalPranswer := by
      simpa using jsep_pranswer hjsep hs.noLocalPranswer hs.noRemotePranswer
    have hnext : nextLocalState s.signalingState .pranswer = .ok (some .stable) := by
      rw [hs.state, hstate]
      rfl
    have hmedia : s.localMedia .pranswer ≠ [] :=
      localMedia_ne_nil hs.remoteMedia (.inl (hs.remoteOffer hstate))
    have hlocked := setLocalLocked_eq (by decide) (by decide) hnext hmedia
    rw [perform, setLocalDescription_manual hs.manual hlocked] at hfinal
    cases hfinal
  · -- a second local offer is ignored
    obtain rfl : type = .offer := htype
    have hset : s.setLocalDescription .offer = (s, none) := by
      simp [setLocalDescription, setLocalLocked, nextLocalState, hs.state, hstate]
    rw [perform, hset] at happlied
    obtain ⟨d, -, -, hissued⟩ := happlied (by decide)
    simp at hissued

/-- An unsupported remote call is not followed: a second offer is rejected, a description whose
application cannot be started throws, and a pranswer ends the exchange. -/
theorem setRemote_not_follows {juice : Description → Bool} {s : Signaling} {e : Exchange}
    {d : Description} {state : SignalingState} (hs : s.Matches e)
    (hjsep : jsep e.state .remoteSide d.type = some state) (hadmits : e.Admits juice (.setRemote d))
    (hmiss : ¬Supports s e (.setRemote d)) :
    ¬((s.perform juice (.setRemote d)).2 = none ∧
      (s.perform juice (.setRemote d)).1.signalingState = state) := by
  rintro ⟨hreturn, hfinal⟩
  by_cases hoffer : e.Reoffers (.setRemote d)
  · -- a second remote offer is rejected
    obtain ⟨htype, ⟨⟨⟩, -⟩ | ⟨-, hstate⟩⟩ := hoffer
    replace htype : d.type = .offer := htype
    have hvalid := (hadmits (by simp [htype])).1
    have hset : (s.setRemoteDescription juice d).2 ≠ none := by
      simp [setRemoteDescription, setRemoteLocked, htype, hvalid, nextRemoteState, hs.state,
        hstate]
    exact hset hreturn
  have hrollback : d.type ≠ .rollback := fun h =>
    hmiss ⟨by simp [Call.type, h], hoffer, fun hne => (hne h).elim⟩
  obtain ⟨hvalid, hfits⟩ := hadmits hrollback
  -- the switch takes every other description that is legal
  have hnext : ∃ state', s.nextRemoteState d = .ok (s, d, state') ∧
      (d.type = .pranswer → state' = .stable ∧ state = .haveRemotePranswer) := by
    by_cases hpranswer : d.type = .pranswer
    · obtain ⟨hstate, rfl⟩ : e.state = .haveLocalOffer ∧ state = .haveRemotePranswer := by
        rw [hpranswer] at hjsep
        simpa using jsep_pranswer hjsep hs.noLocalPranswer hs.noRemotePranswer
      refine ⟨.stable, ?_, fun _ => ⟨rfl, rfl⟩⟩
      simp [nextRemoteState, hs.state, hstate, Description.hintType, hpranswer]
    · have hopen : ¬(d.type = .offer ∧ e.state = .haveRemoteOffer) :=
        fun h => hoffer ⟨h.1, .inr ⟨rfl, h.2⟩⟩
      refine ⟨state, ?_, fun h => (hpranswer h).elim⟩
      rcases jsep_remote hjsep hpranswer hs.noRemotePranswer hopen with
        ⟨hstate, htype, rfl⟩ | ⟨hstate, htype, rfl⟩ | ⟨-, htype, -⟩
      · simp [nextRemoteState, hs.state, hstate, Description.hintType, htype]
      · simp [nextRemoteState, hs.state, hstate, Description.hintType, htype]
      · exact (hrollback htype).elim
  obtain ⟨state', hnext, hpranswer⟩ := hnext
  by_cases hstarts : s.StartsSctp d
  · -- then it is a pranswer, which is stored and leads to `Stable`
    obtain ⟨rfl, rfl⟩ := hpranswer (by
      by_contra h
      exact hmiss ⟨h, hoffer, fun _ => hstarts⟩)
    have hlocked := setRemoteLocked_eq hrollback hvalid hnext (hs.role ▸ hfits) hstarts
    have htake : (s.take d .stable).disableAutoNegotiation = true := hs.manual
    have hset : s.setRemoteDescription juice d = (s.take d .stable, none) := by
      simp [setRemoteDescription, hlocked, htake]
    rw [perform, hset] at hfinal
    cases hfinal
  · -- the SCTP transport cannot be started
    have hlocked := setRemoteLocked_throws hrollback hvalid hnext (hs.role ▸ hfits) hstarts
    have hset : (s.setRemoteDescription juice d).2 ≠ none := by
      simp [setRemoteDescription, hlocked]
    exact hset hreturn

/-- An unsupported call is not followed. -/
theorem not_follows_of_not_supports {juice : Description → Bool} {s : Signaling} {e e' : Exchange}
    {c : Call} (hs : s.Matches e) (hstep : e.step juice c = some e')
    (hmiss : ¬Supports s e c) :
    ¬((s.perform juice c).2 = none ∧ Applied s (s.perform juice c).1 c ∧
      (s.perform juice c).1.signalingState = e'.state) := by
  obtain ⟨hadmits, state, hjsep, rfl⟩ := Exchange.step_cases hstep
  rw [Exchange.next_state]
  cases c with
  | setLocal type => exact setLocal_not_follows hs hjsep hmiss
  | setRemote d =>
    rintro ⟨hreturn, -, hfinal⟩
    exact setRemote_not_follows hs hjsep hadmits hmiss ⟨hreturn, hfinal⟩

/-! ## Whole sequences -/

/-- From a matching state on, the code follows the automaton on a legal sequence of calls exactly
when all of them are supported. -/
theorem Matches.follows_iff {juice : Description → Bool} {s : Signaling} {e : Exchange}
    {es : List Event} (hs : s.Matches e)
    (hlegal : (Transition.run (Exchange.event juice) e es).isSome) :
    Follows juice s e es ↔ Transition.Meets (compare juice) Supported (s, e) es := by
  -- along the sequence the two states match before every event; at the first unsupported call the
  -- code leaves the automaton
  induction es generalizing s e with
  | nil => exact Iff.rfl
  | cons event es ih =>
    obtain ⟨final, hrun⟩ := Option.isSome_iff_exists.1 hlegal
    obtain ⟨e', hstep, hrest⟩ := Transition.run_cons.1 hrun
    have hlegal' : (Transition.run (Exchange.event juice) e' es).isSome := by simp [hrest]
    rcases event with c | dtls
    · replace hstep : e.step juice c = some e' := hstep
      have hcompare : compare juice (s, e) (.call c) = some ((s.perform juice c).1, e') := by
        simp [compare, hstep]
      constructor
      · rintro ⟨hreturn, happlied, hnext⟩
        obtain ⟨hstate, hfollows⟩ := hnext e' hstep
        have hsupports : Supports s e c := by
          by_contra hmiss
          exact not_follows_of_not_supports hs hstep hmiss ⟨hreturn, happlied, hstate⟩
        obtain ⟨-, -, hs'⟩ := perform_follows hs hstep hsupports
        refine ⟨hsupports, fun x hx => ?_⟩
        obtain rfl : ((s.perform juice c).1, e') = x := Option.some.inj (hcompare.symm.trans hx)
        exact (ih hs' hlegal').1 hfollows
      · rintro ⟨hsupports, hmeets⟩
        obtain ⟨hreturn, happlied, hs'⟩ := perform_follows hs hstep hsupports
        refine ⟨hreturn, happlied, fun e'' hstep' => ?_⟩
        obtain rfl : e' = e'' := Option.some.inj (hstep.symm.trans hstep')
        exact ⟨hs'.state, (ih hs' hlegal').2 (hmeets _ hcompare)⟩
    · obtain rfl : e = e' := Option.some.inj hstep
      have hfollows := ih (hs.dtlsStateChanged dtls) hlegal'
      constructor
      · intro h
        refine ⟨trivial, fun x hx => ?_⟩
        obtain rfl : (s.dtlsStateChanged dtls, e) = x := Option.some.inj hx
        exact hfollows.1 h
      · rintro ⟨-, hmeets⟩
        exact hfollows.2 (hmeets _ rfl)

/-- A new peer connection without automatic negotiation. -/
def manual (channels usrsctp : Bool) : Signaling :=
  { disableAutoNegotiation := true, dataChannels := channels, usrsctp }

/-- It matches a new exchange. -/
theorem matches_init (channels usrsctp : Bool) :
    (manual channels usrsctp).Matches { media := channels } where
  state := rfl
  role := rfl
  manual := rfl
  noLocalPranswer := by simp
  noRemotePranswer := by simp
  media := .inl
  remoteMedia := by simp [Signaling.manual]
  remoteOffer := by simp

/-- On a legal sequence of calls on a new peer connection, all calls are accepted and the signaling
state is the JSEP state after each of them, exactly when no call has type pranswer, no offer is made
on a side whose offer is pending, and no remote description asks for an SCTP transport that cannot
be started. -/
theorem follows_iff_meets (juice : Description → Bool) (channels usrsctp : Bool) (es : List Event)
    (hlegal : (Transition.run (Exchange.event juice) { media := channels } es).isSome) :
    Follows juice (manual channels usrsctp) { media := channels } es ↔
      Transition.Meets (compare juice) Supported (manual channels usrsctp, { media := channels })
        es :=
  (matches_init channels usrsctp).follows_iff hlegal

/-- A remote description with some media lines. -/
def remote (type : Description.Kind) (role : Description.Role) (media : List Description.Entry) :
    Event :=
  .call (.setRemote { type, role, media })

/-- An exchange in each direction, with the DTLS transport connected in between, is followed. -/
theorem follows_iff_meets_exchanges :
    let events := [.call (.setLocal .offer), remote .answer .active [.application false],
      .dtlsState .connected, remote .offer .actPass [.application false], .call (.setLocal .answer)]
    (Transition.run (Exchange.event fun _ => true) {} events).isSome ∧
      Follows (fun _ => true) (manual true true) {} events :=
  ⟨by decide, (follows_iff_meets (fun _ => true) true true _ (by decide)).2 (by decide)⟩

/-- Two legal sequences that are not followed. A remote offer is answered with a pranswer and then
with an answer, but the pranswer ends the exchange and the answer is rejected. A connection for
audio, once its DTLS transport is connected, does not take an offer that adds an application. -/
theorem not_follows_pranswer_application :
    let pranswer := [remote .offer .actPass [.application false], .call (.setLocal .pranswer),
      .call (.setLocal .answer)]
    let application := [remote .offer .actPass [.media false false], .call (.setLocal .answer),
      .dtlsState .connected, remote .offer .actPass [.media false false, .application false]]
    (Transition.run (Exchange.event fun _ => true) {} pranswer).isSome ∧
      ¬Follows (fun _ => true) (manual true true) {} pranswer ∧
      (Transition.run (Exchange.event fun _ => true) {} application).isSome ∧
      ¬Follows (fun _ => true) (manual true true) {} application := by
  refine ⟨by decide, ?_, by decide, ?_⟩
  · rintro ⟨-, -, hoffer⟩
    obtain ⟨-, -, -, hpranswer⟩ := hoffer _ rfl
    obtain ⟨hstate, -⟩ := hpranswer _ rfl
    revert hstate
    decide
  · rintro ⟨-, -, hoffer⟩
    obtain ⟨-, -, -, hanswer⟩ := hoffer _ rfl
    obtain ⟨-, hthrows, -⟩ := hanswer _ rfl
    revert hthrows
    decide

end Signaling

end Rtc
