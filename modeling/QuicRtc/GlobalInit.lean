import QuicRtc.Lib.Transition

/-!
# Global initialisation

`Init` (`impl/init.cpp`): the library is initialised by the first token and cleaned up by a detached
thread that starts when a `TokenPayload` dies. Tokens are held by `mGlobal` and by objects; `mWeak`
finds the payload again while one of them is left.

`token`, `preload`, `cleanup` and `doCleanup` hold `mMutex`, so each is one step, as is the release
of a token. A cleanup thread may come at any time after it has started. What `doInit` and
`doCleanup` do to the library is recorded as an effect.

What these two call is taken not to throw. Behind `mInitialized` the start of the threads, of the
poll service and of OpenSSL, the initialisations of the transports and `WSAStartup` may do so; the
flag would then stay set with only a part of the library initialised, and the payload would not be
made.

* `LibraryReady`: while a token is live the library is initialised.
* `libraryReady_iff_meets`: the cleanups that keep it so.
-/

namespace Rtc

/-- The references of `Init` to the payloads, which are numbered as they are made. -/
structure Init where
  mGlobal : Option ℕ := none
  mWeak : Option ℕ := none
  mInitialized : Bool := false
  deriving DecidableEq, Repr

namespace Init

/-- What has been done to the library. -/
inductive Effect where
  | initialized
  | cleanedUp
  deriving DecidableEq, Repr

/-- The state of `Init`, the number of payloads made, the payloads of the tokens held by objects,
the cleanup threads that have not run yet, and the effects so far. -/
structure World where
  init : Init := {}
  payloads : ℕ := 0
  held : List ℕ := []
  cleanups : ℕ := 0
  effects : List Effect := []
  deriving DecidableEq, Repr

/-- What happens. -/
inductive Event where
  /-- An object gets a token from `Init::token`. -/
  | token
  | preload
  | cleanup
  /-- An object releases its token. -/
  | release (payload : ℕ)
  /-- A cleanup thread runs. -/
  | doCleanup
  deriving DecidableEq, Repr

namespace World

/-- Some token holds the payload. -/
def live (w : World) (payload : ℕ) : Bool := w.init.mGlobal = some payload || payload ∈ w.held

/-- `mWeak.lock()`. -/
def lock (w : World) : Option ℕ := w.init.mWeak.filter w.live

/-- `Init::doInit`. -/
def doInit (w : World) : World :=
  if w.init.mInitialized then w
  else
    { w with
      init := { w.init with mInitialized := true }
      effects := w.effects ++ [.initialized] }

/-- A payload loses a token. The destructor of a payload without tokens starts a cleanup thread. -/
def dropped (w : World) (payload : ℕ) : World :=
  if w.live payload then w else { w with cleanups := w.cleanups + 1 }

/-- A new payload, held by `mGlobal`. What `mGlobal` held before loses a token. -/
def makePayload (w : World) : World :=
  let w' := w.doInit
  let assigned :=
    { w' with
      init := { w'.init with mGlobal := some w'.payloads, mWeak := some w'.payloads }
      payloads := w'.payloads + 1 }
  w.init.mGlobal.elim assigned assigned.dropped

/-- `Init::token`. -/
def token (w : World) : World :=
  match w.lock with
  | some payload => { w with held := payload :: w.held }
  | none => { w.makePayload with held := w.payloads :: w.makePayload.held }

/-- `Init::preload`. -/
def preload (w : World) : World := if w.init.mGlobal.isSome then w else w.makePayload

/-- `Init::cleanup`. -/
def cleanup (w : World) : World :=
  let reset := { w with init := { w.init with mGlobal := none } }
  w.init.mGlobal.elim reset reset.dropped

/-- `Init::doCleanup`. -/
def doCleanup (w : World) : World :=
  if w.init.mGlobal.isSome then w
  else if !w.init.mInitialized then w
  else
    { w with
      init := { w.init with mInitialized := false }
      effects := w.effects ++ [.cleanedUp] }

/-- One step. -/
def step (w : World) : Event → Option World
  | .token => some w.token
  | .preload => some w.preload
  | .cleanup => some w.cleanup
  | .release payload =>
    if payload ∈ w.held then some ({ w with held := w.held.erase payload }.dropped payload)
    else none
  | .doCleanup =>
    if w.cleanups = 0 then none else some { w with cleanups := w.cleanups - 1 }.doCleanup

/-! ## The invariant -/

/-- Some token is live. -/
def TokenLive (w : World) : Prop := w.init.mGlobal.isSome ∨ w.held ≠ []

/-- The flag tells which effect was the last. -/
def FlagTrue (w : World) : Prop :=
  w.init.mInitialized = true → w.effects.getLast? = some .initialized

/-- While a token is live the library is initialised, and the last effect was an initialisation. -/
def LibraryReady (w : World) : Prop :=
  w.TokenLive → w.init.mInitialized = true ∧ w.effects.getLast? = some .initialized

/-- A cleanup finds a token in `mGlobal`, or no token at all. -/
def Safe (w : World) : Event → Prop
  | .doCleanup => w.init.mGlobal.isSome ∨ w.held = []
  | _ => True

/-- The invariant of the runs whose cleanups are safe. -/
def Inv (w : World) : Prop := w.FlagTrue ∧ w.LibraryReady

variable (w : World)

/-- A payload that loses a token starts at most a cleanup thread. -/
theorem dropped_frame (payload : ℕ) :
    (w.dropped payload).init = w.init ∧ (w.dropped payload).held = w.held ∧
      (w.dropped payload).effects = w.effects := by
  unfold dropped
  split <;> exact ⟨rfl, rfl, rfl⟩

/-- `doInit` leaves the library initialised. -/
theorem doInit_ready (h : w.FlagTrue) :
    w.doInit.init.mInitialized = true ∧ w.doInit.effects.getLast? = some .initialized := by
  unfold doInit
  split
  · next hflag => exact ⟨hflag, h hflag⟩
  · exact ⟨rfl, List.getLast?_concat⟩

/-- A new payload finds the library initialised. -/
theorem makePayload_ready (h : w.FlagTrue) :
    w.makePayload.init.mInitialized = true ∧
      w.makePayload.effects.getLast? = some .initialized := by
  obtain ⟨hflag, heffect⟩ := doInit_ready w h
  unfold makePayload
  cases w.init.mGlobal with
  | none => exact ⟨hflag, heffect⟩
  | some old =>
    simp only [Option.elim_some]
    rw [(dropped_frame _ old).1, (dropped_frame _ old).2.2]
    exact ⟨hflag, heffect⟩

/-- A world whose library is ready in any case satisfies the invariant. -/
theorem inv_of_ready {w : World} (h : w.init.mInitialized = true ∧
    w.effects.getLast? = some .initialized) : w.Inv :=
  ⟨fun _ => h.2, fun _ => h⟩

/-- With no more tokens, and the flag and the effects unchanged, the invariant is kept. -/
theorem inv_of_fewer {w w' : World} (h : w.Inv)
    (hflag : w'.init.mInitialized = w.init.mInitialized) (heffects : w'.effects = w.effects)
    (hlive : w'.TokenLive → w.TokenLive) : w'.Inv := by
  refine ⟨fun hset => ?_, fun htoken => ?_⟩
  · rw [heffects]
    exact h.1 (hflag ▸ hset)
  · rw [heffects, hflag]
    exact h.2 (hlive htoken)

theorem inv_token (h : w.Inv) : w.token.Inv := by
  unfold token
  cases hlock : w.lock with
  | none => exact inv_of_ready (makePayload_ready w h.1)
  | some payload =>
    -- the payload that `mWeak` finds has a token
    obtain ⟨-, hfound⟩ := Option.filter_eq_some_iff.1 hlock
    have htoken : w.TokenLive := by
      simp only [live, Bool.or_eq_true, decide_eq_true_eq] at hfound
      rcases hfound with hglobal | hheld
      · exact Or.inl (by simp [hglobal])
      · exact Or.inr (List.ne_nil_of_mem hheld)
    exact inv_of_ready (h.2 htoken)

theorem inv_preload (h : w.Inv) : w.preload.Inv := by
  unfold preload
  split
  · exact h
  · exact inv_of_ready (makePayload_ready w h.1)

theorem inv_cleanup (h : w.Inv) : w.cleanup.Inv := by
  unfold cleanup
  cases hglobal : w.init.mGlobal with
  | none => exact inv_of_fewer h rfl rfl fun htoken => htoken.imp (by simp) id
  | some old =>
    simp only [Option.elim_some]
    obtain ⟨hinit, hheld, heffects⟩ :=
      dropped_frame { w with init := { w.init with mGlobal := none } } old
    refine inv_of_fewer h (by rw [hinit]) heffects fun htoken => ?_
    unfold TokenLive at htoken ⊢
    rw [hinit, hheld] at htoken
    exact htoken.imp (by simp) id

theorem inv_release (h : w.Inv) (payload : ℕ) :
    ({ w with held := w.held.erase payload }.dropped payload).Inv := by
  obtain ⟨hinit, hheld, heffects⟩ := dropped_frame { w with held := w.held.erase payload } payload
  refine inv_of_fewer h (by rw [hinit]) heffects fun htoken => ?_
  unfold TokenLive at htoken ⊢
  rw [hinit, hheld] at htoken
  refine htoken.imp id fun hne hnil => hne ?_
  simp [hnil]

theorem inv_doCleanup (h : w.Inv) (hsafe : w.Safe .doCleanup) : w.doCleanup.Inv := by
  unfold doCleanup
  by_cases hglobal : w.init.mGlobal.isSome = true
  · rwa [if_pos hglobal]
  rw [if_neg hglobal]
  by_cases hflag : w.init.mInitialized = true
  · rw [if_neg (by simp [hflag])]
    have hnone : w.held = [] := hsafe.resolve_left hglobal
    refine ⟨fun hset => ?_, fun htoken => ?_⟩
    · exact absurd hset (by simp)
    · exact absurd hnone (htoken.resolve_left hglobal)
  · rwa [if_pos (by simpa using hflag)]

/-- A cleanup that is not safe leaves a live token without the library. -/
theorem not_libraryReady_doCleanup (hmiss : ¬w.Safe .doCleanup) :
    ¬w.doCleanup.LibraryReady := by
  intro hready
  obtain ⟨hglobal, hheld⟩ := not_or.1 hmiss
  unfold doCleanup at hready
  rw [if_neg hglobal] at hready
  split at hready
  · next hflag =>
    have hset := (hready (Or.inr hheld)).1
    simp [hset] at hflag
  · have hset := (hready (Or.inr hheld)).1
    simp at hset

theorem inv_step (w : World) (e : Event) (w' : World) (h : w.Inv) (hsafe : w.Safe e)
    (hstep : w.step e = some w') : w'.Inv := by
  cases e with
  | token =>
    obtain rfl := Option.some.inj hstep
    exact inv_token w h
  | preload =>
    obtain rfl := Option.some.inj hstep
    exact inv_preload w h
  | cleanup =>
    obtain rfl := Option.some.inj hstep
    exact inv_cleanup w h
  | release payload =>
    simp only [step, Option.ite_none_right_eq_some, Option.some.injEq] at hstep
    obtain ⟨-, rfl⟩ := hstep
    exact inv_release w h payload
  | doCleanup =>
    simp only [step, Option.ite_none_left_eq_some, Option.some.injEq] at hstep
    obtain ⟨-, rfl⟩ := hstep
    exact inv_doCleanup { w with cleanups := w.cleanups - 1 } h hsafe

/-- Along a run the library is ready whenever a token is live, exactly if all cleanups are safe. -/
theorem libraryReady_iff_meets {events : List Event} {w : World}
    (hrun : Transition.run step {} events = some w) :
    (∀ before, before <+: events → ∀ u, Transition.run step ({} : World) before = some u →
      u.LibraryReady) ↔ Transition.Meets step Safe {} events := by
  have hstart : ({} : World).Inv := by
    refine ⟨fun hset => ?_, fun htoken => ?_⟩
    · exact absurd hset (by decide)
    · rcases htoken with hglobal | hheld
      · exact absurd hglobal (by decide)
      · exact absurd rfl hheld
  refine Transition.forall_prefix_iff_meets_of_invariant (fun _ h => h.2) inv_step ?_ hstart hrun
  intro u e u' _ hmiss hstep
  cases e with
  | doCleanup =>
    simp only [step, Option.ite_none_left_eq_some, Option.some.injEq] at hstep
    obtain ⟨-, rfl⟩ := hstep
    exact not_libraryReady_doCleanup { u with cleanups := u.cleanups - 1 } hmiss
  | _ => exact absurd trivial hmiss

/-- The token is released and the library cleaned up before the next token. -/
theorem libraryReady_iff_meets_restart :
    (∀ before, before <+: [.token, .cleanup, .release 0, .doCleanup, .token] →
      ∀ u, Transition.run step ({} : World) before = some u → u.LibraryReady) ↔
        Transition.Meets step Safe ({} : World)
          [.token, .cleanup, .release 0, .doCleanup, .token] :=
  libraryReady_iff_meets rfl

/-- The cleanup thread of the first payload comes when the second one is held by an object only. -/
theorem late_cleanup :
    ∃ u, Transition.run step ({} : World)
        [.token, .cleanup, .release 0, .token, .cleanup, .doCleanup] = some u ∧
      u.held = [1] ∧ u.init.mInitialized = false ∧ u.effects = [.initialized, .cleanedUp] ∧
      ¬u.LibraryReady := by
  refine ⟨_, rfl, rfl, rfl, rfl, fun h => ?_⟩
  exact absurd (h (Or.inr (by decide))).1 (by decide)

end World

end Init

end Rtc
