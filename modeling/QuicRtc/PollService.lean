import Mathlib.Data.List.Basic
import Mathlib.Logic.Function.Basic
import QuicRtc.Lib.Transition

/-!
# The poll service

`PollService` (`impl/pollservice.cpp`): `add`, `remove` and `process`, which calls the callbacks of
the sockets that have something to report.

`process` holds the mutex, which is recursive, so that while a callback runs only the callback
itself calls `add` and `remove`; a socket that reports `POLLIN` and `POLLOUT` has its callback
called twice, from one copy. The machine is cut where a callback begins and where it returns.
Callbacks do not throw. Every registration gets a number, which stands for its callback.

* `Orderly`: what a caller of `remove` relies on.
* `orderly_iff`: it holds all along a run exactly when no registration is removed between the two
  calls of its callback, and no result is left over from an earlier registration for one that was
  added by a callback for `Error` or `Timeout`.
-/

namespace Rtc

/-- `PollService::Direction`. -/
inductive PollService.Direction where
  | both
  | pollIn
  | pollOut
  deriving DecidableEq, Repr

namespace PollService

/-- `PollService::Event`. -/
inductive Event where
  | error
  | timeout
  | pollIn
  | pollOut
  deriving DecidableEq, Repr

/-- `PollService::SocketEntry`, with the number of its registration. -/
structure SocketEntry where
  id : ℕ
  direction : Direction
  timeout : Option ℕ
  «until» : Option ℕ
  deriving DecidableEq, Repr

/-- The bits of `revents`. -/
structure Revents where
  nval : Bool := false
  err : Bool := false
  hup : Bool := false
  pollIn : Bool := false
  pollOut : Bool := false
  deriving DecidableEq, Repr

/-- A `struct pollfd`, with the direction for which `prepare` has set `events`. -/
structure PollFd where
  fd : ℕ
  events : Direction
  revents : Revents
  deriving DecidableEq, Repr

/-- What `process` finds for a socket: the event of the first call of its callback, if there is one,
and whether there is a second call, for `Out`. -/
def PollFd.result (pfd : PollFd) (entry : SocketEntry) (now : ℕ) : Option (Event × Bool) :=
  let revents := pfd.revents
  -- macOS sets `POLLHUP` on connection failure
  if revents.nval || revents.err || revents.hup && pfd.events = .pollOut then some (.error, false)
  else if revents.pollIn || revents.hup then some (.pollIn, revents.pollOut)
  else if revents.pollOut then some (.pollOut, false)
  else if entry.«until».any (· ≤ now) then some (.timeout, false)
  else none

/-- Where the poll thread is: outside of `process`, at its loop over the results, or in a callback,
with the results that are left. `out` says that the callback is called again, for `Out`. -/
inductive Phase where
  | idle
  | loop (pfds : List PollFd)
  | callback (id sock : ℕ) (event : Event) (out : Bool) (pfds : List PollFd)
  deriving DecidableEq, Repr

/-- A call of a callback: whether its registration had been removed before, and whether it was still
registered. -/
structure Invocation where
  id : ℕ
  event : Event
  removed : Bool
  registered : Bool
  deriving DecidableEq, Repr

/-- The service, and what has been observed of it. -/
structure World where
  mSocks : ℕ → Option SocketEntry := fun _ => none
  phase : Phase := .idle
  nextId : ℕ := 0
  /-- The registrations that `remove` has removed. -/
  removed : List ℕ := []
  invoked : List Invocation := []
  /-- The registrations added in the present round by callbacks for `Error` and `Timeout`. -/
  arrived : List ℕ := []
  /-- Those of them that the same round has erased. -/
  lost : List ℕ := []

/-- The calls, and the steps of the poll thread. `now` is the time that is read. -/
inductive Step where
  | add (sock : ℕ) (direction : Direction) (timeout : Option ℕ) (now : ℕ)
  | remove (sock : ℕ)
  /-- `process` is called with the results of `poll`. -/
  | process (pfds : List PollFd)
  /-- A round of its loop. -/
  | next (now : ℕ)
  /-- The callback returns. -/
  | return
  deriving DecidableEq, Repr

namespace World

/-- The mutex is free, or held by the thread whose callback calls. -/
def mayCall (w : World) : Bool :=
  match w.phase with
  | .idle => true
  | .loop _ => false
  | .callback .. => true

/-- A callback for `Error` or `Timeout` is running. -/
def inFinalCallback (w : World) : Bool :=
  match w.phase with
  | .callback _ _ event _ _ => event = .error || event = .timeout
  | _ => false

/-- `PollService::add`. -/
def add (w : World) (sock : ℕ) (direction : Direction) (timeout : Option ℕ) (now : ℕ) : World :=
  let entry := { id := w.nextId, direction, timeout, «until» := timeout.map (now + ·) }
  { w with
    mSocks := Function.update w.mSocks sock (some entry)
    nextId := w.nextId + 1
    arrived := if w.inFinalCallback then w.arrived ++ [w.nextId] else w.arrived }

/-- `mSocks->erase`. -/
def erase (w : World) (sock : ℕ) : World :=
  { w with mSocks := Function.update w.mSocks sock none }

/-- `PollService::remove`. -/
def remove (w : World) (sock : ℕ) : World :=
  { w.erase sock with
    removed := w.removed ++ ((w.mSocks sock).map SocketEntry.id).toList }

/-- A callback is called. -/
def invoke (w : World) (id sock : ℕ) (event : Event) (out : Bool) (pfds : List PollFd) : World :=
  { w with
    phase := .callback id sock event out pfds
    invoked := w.invoked ++ [{
      id, event
      removed := w.removed.contains id
      registered := (w.mSocks sock).any (·.id = id) }] }

/-- A round of the loop in which a socket has something to report. -/
def report (w : World) (sock : ℕ) (entry : SocketEntry) (event : Event) (out : Bool)
    (pfds : List PollFd) (now : ℕ) : World :=
  match event with
  -- the entry is erased before the call
  | .error | .timeout =>
    { w.erase sock with
      lost := if w.arrived.contains entry.id then w.lost ++ [entry.id] else w.lost
      }.invoke entry.id sock event false pfds
  | _ =>
    let entry := { entry with «until» := entry.timeout.map (now + ·) }
    { w with mSocks := Function.update w.mSocks sock (some entry) }.invoke entry.id sock event out
      pfds

/-- A round of the loop of `process`. -/
def next (w : World) (pfds : List PollFd) (now : ℕ) : World :=
  match pfds with
  | [] => { w with phase := .idle, arrived := [] }
  | pfd :: pfds =>
    match w.mSocks pfd.fd with
    -- it has been removed in the meantime
    | none => { w with phase := .loop pfds }
    | some entry =>
      match pfd.result entry now with
      | none => { w with phase := .loop pfds }
      | some (event, out) => w.report pfd.fd entry event out pfds now

/-- One step. `prepare` has made one result for each socket. -/
def step (w : World) : Step → Option World
  | .add sock direction timeout now =>
    if w.mayCall then some (w.add sock direction timeout now) else none
  | .remove sock => if w.mayCall then some (w.remove sock) else none
  | .process pfds =>
    if w.phase = .idle ∧ (pfds.map PollFd.fd).Nodup then some { w with phase := .loop pfds }
    else none
  | .next now =>
    match w.phase with
    | .loop pfds => some (w.next pfds now)
    | _ => none
  | .return =>
    match w.phase with
    -- the copy is called, whether or not it is still registered
    | .callback id sock _ true pfds => some (w.invoke id sock .pollOut false pfds)
    | .callback _ _ _ false pfds => some { w with phase := .loop pfds }
    | _ => none

end World

/-- No callback is called after its registration was removed, a callback for `Error` or `Timeout` is
called when the registration is gone, and what it adds survives the round. -/
structure Orderly (w : World) : Prop where
  removed : ∀ invocation ∈ w.invoked, invocation.removed = false
  registered : ∀ invocation ∈ w.invoked,
    invocation.event = .error ∨ invocation.event = .timeout → invocation.registered = false
  lost : w.lost = []

/-- The callback that is called again for `Out` has not been removed. -/
def World.ReturnsInOrder (w : World) : Prop :=
  match w.phase with
  | .callback id _ _ true _ => id ∉ w.removed
  | _ => True

/-- A registration added in this round by a callback for `Error` or `Timeout` is not found with such
a result itself. -/
def World.FindsInOrder (w : World) (now : ℕ) : Prop :=
  match w.phase with
  | .loop (pfd :: _) => ∀ entry ∈ w.mSocks pfd.fd, entry.id ∈ w.arrived →
      ∀ result ∈ pfd.result entry now, result.1 ≠ .error ∧ result.1 ≠ .timeout
  | _ => True

instance (w : World) : Decidable w.ReturnsInOrder := by
  unfold World.ReturnsInOrder
  split <;> infer_instance

instance (w : World) (now : ℕ) : Decidable (w.FindsInOrder now) := by
  unfold World.FindsInOrder
  split <;> infer_instance

/-- The condition on a step. -/
def InOrder (w : World) : Step → Prop
  | .return => w.ReturnsInOrder
  | .next now => w.FindsInOrder now
  | _ => True

instance (w : World) : DecidablePred (InOrder w)
  | .return => inferInstanceAs (Decidable w.ReturnsInOrder)
  | .next now => inferInstanceAs (Decidable (w.FindsInOrder now))
  | .add .. => isTrue trivial
  | .remove _ => isTrue trivial
  | .process _ => isTrue trivial

/-- What holds along with it: the registrations have numbers of their own, which have not been
removed. -/
structure World.Inv (w : World) : Prop where
  orderly : Orderly w
  registered : ∀ sock entry, w.mSocks sock = some entry →
    entry.id < w.nextId ∧ entry.id ∉ w.removed
  distinct : ∀ sock sock' entry entry', w.mSocks sock = some entry →
    w.mSocks sock' = some entry' → entry.id = entry'.id → sock = sock'
  removed : ∀ id ∈ w.removed, id < w.nextId

namespace World

variable {w w' : World}

theorem Inv.start : Inv {} := by
  constructor
  · exact ⟨by simp, by simp, rfl⟩
  · simp
  · simp
  · simp

/-- Steps that leave the registrations and what is observed alone. -/
theorem Inv.of_frame (h : w.Inv) {phase : Phase} {arrived : List ℕ} :
    Inv { w with phase, arrived } :=
  ⟨⟨h.orderly.removed, h.orderly.registered, h.orderly.lost⟩, h.registered, h.distinct, h.removed⟩

/-- A new registration has a new number. -/
theorem Inv.add (h : w.Inv) (sock : ℕ) (direction : Direction) (timeout : Option ℕ) (now : ℕ) :
    (w.add sock direction timeout now).Inv where
  orderly := ⟨h.orderly.removed, h.orderly.registered, h.orderly.lost⟩
  registered := by
    intro other entry hentry
    simp only [World.add, Function.update_apply] at hentry ⊢
    split_ifs at hentry
    · obtain rfl := Option.some.inj hentry
      exact ⟨Nat.lt_succ_self _, fun hmem => Nat.lt_irrefl _ (h.removed _ hmem)⟩
    · obtain ⟨hlt, hmem⟩ := h.registered other entry hentry
      exact ⟨Nat.lt_succ_of_lt hlt, hmem⟩
  distinct := by
    intro s t entry entry' hentry hentry' hid
    simp only [World.add, Function.update_apply] at hentry hentry'
    -- the number of the new registration is not that of an old one
    split_ifs at hentry hentry' with hs ht ht
    · rw [hs, ht]
    · obtain rfl := Option.some.inj hentry
      have hlt := (h.registered t entry' hentry').1
      rw [← hid] at hlt
      exact absurd hlt (Nat.lt_irrefl _)
    · obtain rfl := Option.some.inj hentry'
      have hlt := (h.registered s entry hentry).1
      rw [hid] at hlt
      exact absurd hlt (Nat.lt_irrefl _)
    · exact h.distinct s t entry entry' hentry hentry' hid
  removed := fun id hmem => Nat.lt_succ_of_lt (h.removed id hmem)

/-- What is still registered after an `erase` was registered for another socket. -/
theorem mSocks_erase {sock other : ℕ} {entry : SocketEntry}
    (hentry : (w.erase sock).mSocks other = some entry) :
    other ≠ sock ∧ w.mSocks other = some entry := by
  simp only [erase, Function.update_apply] at hentry
  split_ifs at hentry with hsock
  exact ⟨hsock, hentry⟩

theorem Inv.erase (h : w.Inv) (sock : ℕ) : (w.erase sock).Inv where
  orderly := ⟨h.orderly.removed, h.orderly.registered, h.orderly.lost⟩
  registered := fun other entry hentry => h.registered other entry (mSocks_erase hentry).2
  distinct := fun s t entry entry' hentry hentry' hid =>
    h.distinct s t entry entry' (mSocks_erase hentry).2 (mSocks_erase hentry').2 hid
  removed := h.removed

/-- The number of a removed registration belongs to no other socket. -/
theorem Inv.remove (h : w.Inv) (sock : ℕ) : (w.remove sock).Inv where
  orderly := ⟨h.orderly.removed, h.orderly.registered, h.orderly.lost⟩
  registered := by
    intro other entry hentry
    obtain ⟨hsock, hentry⟩ := mSocks_erase hentry
    obtain ⟨hlt, hmem⟩ := h.registered other entry hentry
    refine ⟨hlt, fun hremoved => ?_⟩
    rcases List.mem_append.1 hremoved with hold | hnew
    · exact hmem hold
    · obtain ⟨removed, hremoved, hid⟩ : ∃ removed, w.mSocks sock = some removed ∧
          removed.id = entry.id := by simpa using hnew
      -- the number that has been removed was another entry's
      exact hsock (h.distinct other sock entry removed hentry hremoved hid.symm)
  distinct := (h.erase sock).distinct
  removed := by
    intro id hmem
    rcases List.mem_append.1 hmem with hold | hnew
    · exact h.removed id hold
    · obtain ⟨removed, hremoved, rfl⟩ : ∃ removed, w.mSocks sock = some removed ∧
          removed.id = id := by simpa using hnew
      exact (h.registered sock removed hremoved).1

/-- A callback is called whose registration has not been removed, and for `Error` and `Timeout` one
that is not registered. -/
theorem Inv.invoke (h : w.Inv) {id sock : ℕ} {event : Event} (hremoved : id ∉ w.removed)
    (hregistered : event = .error ∨ event = .timeout →
      (w.mSocks sock).any (·.id = id) = false) (out : Bool) (pfds : List PollFd) :
    (w.invoke id sock event out pfds).Inv where
  orderly :=
    { removed := by
        intro invocation hmem
        rcases List.mem_append.1 hmem with hold | hnew
        · exact h.orderly.removed invocation hold
        · obtain rfl := List.mem_singleton.1 hnew
          simpa using hremoved
      registered := by
        intro invocation hmem hevent
        rcases List.mem_append.1 hmem with hold | hnew
        · exact h.orderly.registered invocation hold hevent
        · obtain rfl := List.mem_singleton.1 hnew
          exact hregistered hevent
      lost := h.orderly.lost }
  registered := h.registered
  distinct := h.distinct
  removed := h.removed

/-- The expiry of an entry is moved. -/
theorem Inv.touch (h : w.Inv) {sock : ℕ} {entry : SocketEntry} (hentry : w.mSocks sock = some entry)
    (expiry : Option ℕ) :
    Inv { w with mSocks :=
      Function.update w.mSocks sock (some { entry with «until» := expiry }) } := by
  -- every entry has the number it had before
  have hsame {other : ℕ} {e : SocketEntry}
      (he : Function.update w.mSocks sock (some { entry with «until» := expiry }) other = some e) :
      ∃ e', w.mSocks other = some e' ∧ e'.id = e.id := by
    simp only [Function.update_apply] at he
    split_ifs at he with hsock
    · subst hsock
      obtain rfl := Option.some.inj he
      exact ⟨entry, hentry, rfl⟩
    · exact ⟨e, he, rfl⟩
  refine ⟨⟨h.orderly.removed, h.orderly.registered, h.orderly.lost⟩, ?_, ?_, h.removed⟩
  · intro other e he
    obtain ⟨e', he', hid⟩ := hsame he
    rw [← hid]
    exact h.registered other e' he'
  · intro s t e e' he he' hid
    obtain ⟨d, hd, hdid⟩ := hsame he
    obtain ⟨d', hd', hdid'⟩ := hsame he'
    exact h.distinct s t d d' hd hd' (hdid.trans (hid.trans hdid'.symm))

/-- A socket has something to report. -/
theorem Inv.report (h : w.Inv) {sock : ℕ} {entry : SocketEntry}
    (hentry : w.mSocks sock = some entry) {event : Event} (out : Bool) (pfds : List PollFd)
    (now : ℕ) (hok : entry.id ∈ w.arrived → event ≠ .error ∧ event ≠ .timeout) :
    (w.report sock entry event out pfds now).Inv := by
  have hremoved := (h.registered sock entry hentry).2
  -- the registration is erased, and it is not one that has to survive the round
  have hfinal (hevent : event = .error ∨ event = .timeout) : Inv ({ w.erase sock with
      lost := if w.arrived.contains entry.id then w.lost ++ [entry.id] else w.lost
      }.invoke entry.id sock event false pfds) := by
    have harrived : entry.id ∉ w.arrived := fun hmem => by
      rcases hevent with hevent | hevent
      · exact (hok hmem).1 hevent
      · exact (hok hmem).2 hevent
    have herase := h.erase sock
    rw [if_neg (by simpa using harrived)]
    refine Inv.invoke (w := { w.erase sock with lost := w.lost })
      ⟨⟨herase.orderly.removed, herase.orderly.registered, herase.orderly.lost⟩,
        herase.registered, herase.distinct, herase.removed⟩ hremoved (fun _ => ?_) false pfds
    simp [World.erase]
  cases event with
  | error => exact hfinal (Or.inl rfl)
  | timeout => exact hfinal (Or.inr rfl)
  | pollIn =>
    exact (h.touch hentry _).invoke hremoved (fun hevent => by simp at hevent) out pfds
  | pollOut =>
    exact (h.touch hentry _).invoke hremoved (fun hevent => by simp at hevent) out pfds

/-- A round of the loop. -/
theorem Inv.next (h : w.Inv) {pfds : List PollFd} (hphase : w.phase = .loop pfds) {now : ℕ}
    (hok : w.FindsInOrder now) : (w.next pfds now).Inv := by
  cases pfds with
  | nil => exact h.of_frame
  | cons pfd pfds =>
    cases hentry : w.mSocks pfd.fd with
    | none =>
      simp only [World.next, hentry]
      exact h.of_frame
    | some entry =>
      cases hresult : pfd.result entry now with
      | none =>
        simp only [World.next, hentry, hresult]
        exact h.of_frame
      | some result =>
        simp only [World.next, hentry, hresult]
        rw [FindsInOrder, hphase] at hok
        exact h.report hentry result.2 pfds now fun harrived =>
          hok entry hentry harrived result hresult

/-- Every step in order keeps the invariant. -/
theorem Inv.step {e : Step} (h : w.Inv) (hok : InOrder w e) (hstep : w.step e = some w') :
    w'.Inv := by
  cases e with
  | add sock direction timeout now =>
    obtain ⟨-, rfl⟩ := Option.ite_none_right_eq_some.1 hstep |>.imp_right Option.some.inj
    exact h.add sock direction timeout now
  | remove sock =>
    obtain ⟨-, rfl⟩ := Option.ite_none_right_eq_some.1 hstep |>.imp_right Option.some.inj
    exact h.remove sock
  | process pfds =>
    obtain ⟨-, rfl⟩ := Option.ite_none_right_eq_some.1 hstep |>.imp_right Option.some.inj
    exact h.of_frame
  | next now =>
    simp only [World.step] at hstep
    split at hstep
    · next pfds hphase =>
      cases hstep
      exact h.next hphase hok
    · cases hstep
  -- the copy may be called again for `Out`, if it was not removed meanwhile
  | «return» =>
    simp only [World.step] at hstep
    split at hstep
    · next id sock _ pfds hphase =>
      cases hstep
      have hremoved : w.ReturnsInOrder := hok
      rw [ReturnsInOrder, hphase] at hremoved
      exact h.invoke hremoved (fun hevent => by simp at hevent) false pfds
    · cases hstep
      exact h.of_frame
    · cases hstep

/-- A registration that should survive the round is erased in it. -/
theorem not_orderly_next {pfds : List PollFd} (hphase : w.phase = .loop pfds) {now : ℕ}
    (hmiss : ¬w.FindsInOrder now) : ¬Orderly (w.next pfds now) := by
  rw [FindsInOrder, hphase] at hmiss
  cases pfds with
  | nil => exact absurd trivial hmiss
  | cons pfd pfds =>
    simp only [not_forall] at hmiss
    obtain ⟨entry, hentry, harrived, ⟨event, out⟩, hresult, hevent⟩ := hmiss
    -- only `Error` and `Timeout` erase
    have hlost : (w.next (pfd :: pfds) now).lost = w.lost ++ [entry.id] := by
      simp only [World.next, Option.mem_def.1 hentry, Option.mem_def.1 hresult]
      cases event with
      | error => simp [World.report, World.invoke, harrived]
      | timeout => simp [World.report, World.invoke, harrived]
      | pollIn => simp at hevent
      | pollOut => simp at hevent
    intro horderly
    have hempty := horderly.lost
    rw [hlost] at hempty
    simp at hempty

/-- The callback of a removed registration is called. -/
theorem not_orderly_invoke {id : ℕ} (hremoved : id ∈ w.removed) (sock : ℕ) (event : Event)
    (out : Bool) (pfds : List PollFd) : ¬Orderly (w.invoke id sock event out pfds) := by
  intro horderly
  have hnot := horderly.removed
    { id, event, removed := w.removed.contains id
      registered := (w.mSocks sock).any (·.id = id) } (by simp [World.invoke])
  simp [hremoved] at hnot

/-- A step that is not in order calls a callback that was removed, or erases what should survive. -/
theorem not_orderly_step {e : Step} (hmiss : ¬InOrder w e) (hstep : w.step e = some w') :
    ¬Orderly w' := by
  cases e with
  | add sock direction timeout now => exact absurd trivial hmiss
  | remove sock => exact absurd trivial hmiss
  | process pfds => exact absurd trivial hmiss
  | next now =>
    simp only [World.step] at hstep
    split at hstep
    · next pfds hphase =>
      cases hstep
      exact not_orderly_next hphase hmiss
    · cases hstep
  | «return» =>
    have hmiss : ¬w.ReturnsInOrder := hmiss
    simp only [World.step] at hstep
    split at hstep
    · next id sock _ pfds hphase =>
      cases hstep
      rw [ReturnsInOrder, hphase, not_not] at hmiss
      exact not_orderly_invoke hmiss sock .pollOut false pfds
    · next hphase =>
      -- a callback that is not called again cannot miss the condition
      rw [ReturnsInOrder, hphase] at hmiss
      exact absurd trivial hmiss
    · cases hstep

end World

/-! ## Runs -/

/-- In every run of the service, with any sockets, any results of `poll` and any calls of `add` and
`remove` before `process` and inside of its callbacks: no callback is called after its registration
was removed, one for `Error` or `Timeout` is called when its registration is gone, and what such a
callback adds survives the round, all along the run exactly when every step is in order. -/
theorem orderly_iff {steps : List Step} {w : World}
    (hrun : Transition.run World.step {} steps = some w) :
    (∀ before, before <+: steps → ∀ w', Transition.run World.step {} before = some w' →
        Orderly w') ↔ Transition.Meets World.step InOrder {} steps :=
  Transition.forall_prefix_iff_meets_of_invariant (fun _ h => h.orderly)
    (fun _ _ _ h hok hstep => h.step hok hstep)
    (fun _ _ _ _ hmiss hstep => World.not_orderly_step hmiss hstep)
    World.Inv.start hrun

/-- Two sockets, of which one times out and is added again by its callback; the other is removed by
its callback for `In`. -/
def timeoutAndClose : List Step :=
  [.add 4 .pollOut (some 10) 0, .add 5 .both none 0,
    .process [⟨4, .pollOut, {}⟩, ⟨5, .both, { pollIn := true }⟩],
    .next 10, .add 4 .pollIn none 10, .return, .next 10, .remove 5, .return, .next 10]

theorem orderly_iff_timeoutAndClose :
    ∃ w, Transition.run World.step {} timeoutAndClose = some w ∧
      w.invoked = [⟨0, .timeout, false, false⟩, ⟨1, .pollIn, false, true⟩] ∧ w.removed = [1] ∧
      ∀ before, before <+: timeoutAndClose → ∀ w',
        Transition.run World.step {} before = some w' → Orderly w' := by
  have hrun : ∃ w, Transition.run World.step {} timeoutAndClose = some w ∧
      w.invoked = [⟨0, .timeout, false, false⟩, ⟨1, .pollIn, false, true⟩] ∧ w.removed = [1] :=
    ⟨_, rfl, by decide, by decide⟩
  obtain ⟨w, hrun, hinvoked, hremoved⟩ := hrun
  exact ⟨w, hrun, hinvoked, hremoved, (orderly_iff hrun).2 (by decide)⟩

/-- A callback that removes its socket for `In` is called again for `Out`. -/
theorem invoked_after_remove :
    ∃ w, Transition.run World.step {}
        [.add 5 .both none 0, .process [⟨5, .both, { pollIn := true, pollOut := true }⟩], .next 0,
          .remove 5, .return] = some w ∧
      w.invoked = [⟨0, .pollIn, false, true⟩, ⟨0, .pollOut, true, false⟩] ∧ ¬Orderly w := by
  refine ⟨_, rfl, by decide, fun h => ?_⟩
  have hremoved := h.removed ⟨0, .pollOut, true, false⟩ (by decide)
  cases hremoved

end PollService

end Rtc
