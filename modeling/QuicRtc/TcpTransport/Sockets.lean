import Mathlib.Data.List.Count
import Mathlib.Data.List.Nodup
import Mathlib.Logic.Function.Basic
import QuicRtc.Lib.Transition
import QuicRtc.PollService
import QuicRtc.Transport

/-!
# The sockets of a TCP transport

The connecting half of `impl/tcptransport.cpp`: `start`, `connect`, `resolve`, `attempt`,
`createSocket`, `setPoll`, `process` and `close`, which the destructor calls.

The threads of the pool, the poll thread and those of the users are interleaved at the points where
they take a mutex: `attempt` and `close` keep `mSendMutex`, the poll thread that of the
`PollService` from a result to the end of its callbacks, for which a registration waits. The mutex
of the `PollService` is recursive, so that the user's code in a callback may call `send` and
`close`.
Sockets are numbered in the order in which they are created.

* `Kept`: no socket is leaked.
* `kept_iff`: this holds all along a run exactly when no attempt creates a socket while the one of
  an earlier attempt is open.
-/

namespace Rtc.TcpTransport.Sockets

/-- A resolved address: the bytes of its `sockaddr_storage`. -/
abbrev Address := List UInt8

/-- How `createSocket` ends: the creation of the socket fails, its configuration, its `::connect`,
or none of them. -/
inductive Outcome where
  | socketFails
  | configureFails
  | connectFails
  | connects
  deriving DecidableEq, Repr

/-- The callbacks that are registered: that of `attempt`, and `process`. -/
inductive Callback where
  | attempt
  | process
  deriving DecidableEq, Repr

/-- What the system calls of a callback come to: `getsockopt` finds no error, `trySendQueue` returns
`true` or `::recv` has read everything; `trySendQueue` returns `false`; or there is an error, or the
end of the stream. -/
inductive Ending where
  | succeeds
  | blocks
  | fails
  deriving DecidableEq, Repr

/-- What the poll thread has yet to do for a result. -/
inductive PollTask where
  /-- It calls a callback. -/
  | call (callback : Callback) (event : PollService.Event)
  /-- `attempt`'s callback changes the state to `Connected`. -/
  | succeed
  /-- `attempt`'s callback has caught an exception. -/
  | fail
  /-- `setPoll(Direction::In)` is called. -/
  | register
  /-- `process` is at its end. -/
  | disconnect
  deriving DecidableEq, Repr

/-- What is queued in the thread pool, and what a thread has yet to do behind a mutex. -/
inductive Task where
  | resolve
  | attempt
  /-- `attempt` has created a socket and is about to register it. -/
  | registerAttempt
  /-- `start` has found a socket and is about to register it. -/
  | registerProcess
  deriving DecidableEq, Repr

/-- What a callback does next when it has made its system calls. -/
def Callback.next : Callback → PollService.Event → Ending → Option PollTask
  | .attempt, .error, _ => some .fail
  | .attempt, .timeout, _ => some .fail
  | .attempt, .pollIn, _ => none
  | .attempt, .pollOut, .fails => some .fail
  | .attempt, .pollOut, _ => some .succeed
  | .process, .error, _ => some .disconnect
  | .process, .timeout, .fails => some .disconnect
  | .process, .timeout, _ => some .register
  | .process, .pollOut, .succeeds => some .register
  | .process, .pollOut, .blocks => none
  | .process, .pollOut, .fails => some .disconnect
  | .process, .pollIn, .fails => some .disconnect
  | .process, .pollIn, _ => none

/-- The transport and the threads that act on it. -/
structure World where
  mState : Transport.State := .disconnected
  mResolved : List Address := []
  mSock : Option ℕ := none
  /-- The number of sockets that have been created. -/
  created : ℕ := 0
  /-- The sockets that have been closed, in order. -/
  closed : List ℕ := []
  /-- The registrations of the `PollService`. -/
  registered : Option ℕ → Option Callback := fun _ => none
  tasks : List Task := []
  polling : List PollTask := []

/-- What happens. -/
inductive Step where
  | start
  /-- `resolve` runs, with what `getaddrinfo` returns. -/
  | resolve (result : Option (List Address))
  /-- `attempt` runs up to its end or to its registration. -/
  | attempt (outcome : Outcome)
  /-- A thread registers the socket. -/
  | register (task : Task)
  /-- The poll thread has a result for a socket, with one event or with `Out` behind it. -/
  | poll (sock : Option ℕ) (event : PollService.Event) (out : Bool)
  /-- The poll thread goes on. -/
  | advance (ending : Ending)
  /-- `send` cannot write everything. -/
  | send
  /-- `close`, or the destructor. -/
  | close
  deriving DecidableEq, Repr

namespace World

/-- `::closesocket`, which does nothing for `INVALID_SOCKET`. -/
def closesocket (w : World) (sock : Option ℕ) : World :=
  { w with closed := w.closed ++ sock.toList }

/-- `PollService::add`. -/
def add (w : World) (sock : Option ℕ) (callback : Callback) : World :=
  { w with registered := Function.update w.registered sock (some callback) }

/-- `PollService::remove`. -/
def remove (w : World) (sock : Option ℕ) : World :=
  { w with registered := Function.update w.registered sock none }

/-- `TcpTransport::start`, with `connect`, which throws when the transport is connecting or
connected. -/
def start (w : World) : World :=
  if w.mSock = none then
    -- `connect` throws
    if w.mState = .connecting ∨ w.mState = .connected then w
    else { w with mState := .connecting, tasks := .resolve :: w.tasks }
  else { w with mState := .connected, tasks := .registerProcess :: w.tasks }

/-- `TcpTransport::resolve`. -/
def resolve (w : World) (result : Option (List Address)) : World :=
  let w := { w with mResolved := [] }
  -- it has been cancelled
  if w.mState ≠ .connecting then w
  else
    match result with
    | none => { w with mState := .failed }
    | some addresses => { w with mResolved := addresses, tasks := .attempt :: w.tasks }

/-- `TcpTransport::createSocket`. When it throws, `attempt` enqueues itself. -/
def createSocket (w : World) (outcome : Outcome) : World :=
  match outcome with
  | .socketFails => { w with mSock := none, tasks := .attempt :: w.tasks }
  | .configureFails | .connectFails =>
    let w := { w with mSock := some w.created, created := w.created + 1 }
    { w.closesocket w.mSock with mSock := none, tasks := .attempt :: w.tasks }
  | .connects =>
    { w with
      mSock := some w.created
      created := w.created + 1
      tasks := .registerAttempt :: w.tasks }

/-- `TcpTransport::attempt`, up to its registration. -/
def attempt (w : World) (outcome : Outcome) : World :=
  if w.mState ≠ .connecting then w
  else
    -- a socket is closed if it is `INVALID_SOCKET`
    let w := if w.mSock = none then { w.closesocket w.mSock with mSock := none } else w
    match w.mResolved with
    | [] => { w with mState := .failed }
    | _ :: rest => { w with mResolved := rest }.createSocket outcome

/-- `TcpTransport::close`. -/
def close (w : World) : World :=
  let w := if w.mSock = none then w
    else { (w.remove w.mSock).closesocket w.mSock with mSock := none }
  { w with mState := .disconnected }

/-- The poll thread goes on with what it has to do. -/
def advance (w : World) (ending : Ending) : Option World :=
  match w.polling with
  | [] => none
  | .call callback event :: rest =>
    some { w with polling := (callback.next event ending).toList ++ rest }
  | .succeed :: rest => some { w with mState := .connected, polling := .register :: rest }
  | .fail :: rest =>
    some { w.remove w.mSock with tasks := .attempt :: w.tasks, polling := rest }
  | .register :: rest => some { w.add w.mSock .process with polling := rest }
  | .disconnect :: rest =>
    some { w.remove w.mSock with mState := .disconnected, polling := rest }

/-- A result of `poll` for a socket that is registered. `Error` and `Timeout` erase it. -/
def poll (w : World) (sock : Option ℕ) (event : PollService.Event) (out : Bool) : Option World :=
  (w.registered sock).map fun callback =>
    match event with
    | .error | .timeout => { w.remove sock with polling := [.call callback event] }
    | .pollOut => { w with polling := [.call callback .pollOut] }
    | .pollIn =>
      { w with polling := .call callback .pollIn :: if out then [.call callback .pollOut] else [] }

/-- One step. -/
def step (w : World) : Step → Option World
  | .start => some w.start
  | .resolve result =>
    if .resolve ∈ w.tasks then
      some ({ w with tasks := w.tasks.erase .resolve }.resolve result)
    else none
  | .attempt outcome =>
    if .attempt ∈ w.tasks then
      some ({ w with tasks := w.tasks.erase .attempt }.attempt outcome)
    else none
  | .register task =>
    if task ∈ w.tasks ∧ w.polling = [] then
      match task with
      | .registerAttempt => some ({ w with tasks := w.tasks.erase task }.add w.mSock .attempt)
      | .registerProcess => some ({ w with tasks := w.tasks.erase task }.add w.mSock .process)
      | _ => none
    else none
  | .poll sock event out => if w.polling = [] then w.poll sock event out else none
  | .advance ending => w.advance ending
  | .send => if w.mState = .connected then some (w.add w.mSock .process) else none
  | .close => some w.close

/-- A socket is open. -/
def Open (w : World) (sock : ℕ) : Prop := sock < w.created ∧ sock ∉ w.closed

end World

/-- At most one socket is open, and `close` leaves every socket closed once. -/
structure Kept (w : World) : Prop where
  atMostOne : ∀ sock sock', w.Open sock → w.Open sock' → sock = sock'
  once : ∀ sock < w.created, w.close.closed.count sock = 1

/-- An attempt that has an address to try finds no socket of an earlier one. -/
def FindsNone (w : World) : Step → Prop
  | .attempt _ => w.mState = .connecting → w.mResolved ≠ [] → w.mSock = none
  | _ => True

instance (w : World) : DecidablePred (FindsNone w)
  | .attempt _ => inferInstanceAs (Decidable (_ → _ → _))
  | .start => isTrue trivial
  | .resolve _ => isTrue trivial
  | .register _ => isTrue trivial
  | .poll .. => isTrue trivial
  | .advance _ => isTrue trivial
  | .send => isTrue trivial
  | .close => isTrue trivial

/-- A socket is open if and only if the transport holds it, and none has been closed twice. -/
structure World.Inv (w : World) : Prop where
  held : ∀ sock, w.mSock = some sock ↔ w.Open sock
  nodup : w.closed.Nodup
  lt : ∀ sock ∈ w.closed, sock < w.created

namespace World

variable {w w' : World}

theorem Inv.start : Inv {} where
  held := by simp [Open]
  nodup := List.nodup_nil
  lt := by simp

/-- The invariant is about the sockets alone. -/
theorem Inv.congr (h : w.Inv) (hsock : w'.mSock = w.mSock) (hcreated : w'.created = w.created)
    (hclosed : w'.closed = w.closed) : w'.Inv where
  held := by simpa [Open, hsock, hcreated, hclosed] using h.held
  nodup := hclosed ▸ h.nodup
  lt := by simpa [hcreated, hclosed] using h.lt

/-- The socket is closed. -/
theorem Inv.closed (h : w.Inv) (hsock : w'.mSock = none) (hcreated : w'.created = w.created)
    (hclosed : w'.closed = w.closed ++ w.mSock.toList) : w'.Inv where
  held := by
    intro sock
    have hheld := h.held sock
    simp only [Open, hsock, hcreated, hclosed, List.mem_append, Option.mem_toList, reduceCtorEq,
      false_iff] at hheld ⊢
    tauto
  nodup := by
    rw [hclosed, List.nodup_append']
    refine ⟨h.nodup, by cases w.mSock <;> simp, fun sock hold hnew => ?_⟩
    -- the socket that is held is open
    exact ((h.held sock).1 (by simpa using hnew)).2 hold
  lt := by
    intro sock hmem
    rw [hclosed] at hmem
    rcases List.mem_append.1 hmem with hold | hnew
    · exact hcreated ▸ h.lt sock hold
    · exact hcreated ▸ ((h.held sock).1 (by simpa using hnew)).1

/-- A socket is created where none is held. -/
theorem Inv.created (h : w.Inv) (hnone : w.mSock = none) (hsock : w'.mSock = some w.created)
    (hcreated : w'.created = w.created + 1) (hclosed : w'.closed = w.closed) : w'.Inv where
  held := by
    intro sock
    have hheld := h.held sock
    have hnew : w.created ∉ w.closed := fun hmem => Nat.lt_irrefl _ (h.lt _ hmem)
    simp only [Open, hnone, hsock, hcreated, hclosed, reduceCtorEq, false_iff, Option.some.injEq]
      at hheld ⊢
    -- no socket was open before, so that the new one is the only one
    constructor
    · rintro rfl
      exact ⟨Nat.lt_succ_self _, hnew⟩
    · rintro ⟨hlt, hopen⟩
      by_contra hne
      exact hheld ⟨by omega, hopen⟩
  nodup := hclosed ▸ h.nodup
  lt := by
    intro sock hmem
    have hlt := h.lt sock (hclosed ▸ hmem)
    omega

/-- `close` closes the socket that is held, and no other. -/
theorem closed_close (w : World) : w.close.closed = w.closed ++ w.mSock.toList := by
  cases hsock : w.mSock with
  | none => simp [close, hsock]
  | some sock => simp [close, closesocket, remove, hsock]

theorem Inv.close (h : w.Inv) : w.close.Inv := by
  refine h.closed ?_ ?_ w.closed_close
  · cases hsock : w.mSock with
    | none => simp [World.close, hsock]
    | some sock => simp [World.close, hsock]
  · cases hsock : w.mSock with
    | none => simp [World.close, hsock]
    | some sock => simp [World.close, hsock, closesocket, remove]

theorem Inv.kept (h : w.Inv) : Kept w where
  atMostOne := by
    intro sock sock' hopen hopen'
    have heq : some sock = some sock' :=
      ((h.held sock).2 hopen).symm.trans ((h.held sock').2 hopen')
    exact Option.some.inj heq
  once := by
    intro sock hlt
    apply List.count_eq_one_of_mem h.close.nodup
    rw [closed_close, List.mem_append]
    by_cases hmem : sock ∈ w.closed
    · exact Or.inl hmem
    · exact Or.inr (by simpa using (h.held sock).2 ⟨hlt, hmem⟩)

/-! ### Steps -/

/-- The sockets are those of another world. -/
structure SameSockets (w w' : World) : Prop where
  mSock : w'.mSock = w.mSock
  created : w'.created = w.created
  closed : w'.closed = w.closed

theorem Inv.of_same (h : w.Inv) (hsame : SameSockets w w') : w'.Inv :=
  h.congr hsame.mSock hsame.created hsame.closed

/-- The test for `INVALID_SOCKET` leaves everything as it is. -/
theorem ite_closesocket (w : World) :
    (if w.mSock = none then { w.closesocket w.mSock with mSock := none } else w) = w := by
  split_ifs with hnone
  · rw [closesocket, hnone, Option.toList_none, List.append_nil, ← hnone]
  · rfl

/-- `attempt` is cancelled, or has no address to try. -/
theorem SameSockets.attempt (h : w.mState = .connecting → w.mResolved = []) (outcome : Outcome) :
    SameSockets w (w.attempt outcome) := by
  by_cases hstate : w.mState = .connecting
  · simp only [World.attempt, hstate, h hstate, ite_closesocket]
    exact ⟨rfl, rfl, rfl⟩
  · simp only [World.attempt, hstate, ne_eq, not_false_eq_true, ite_true]
    exact ⟨rfl, rfl, rfl⟩

/-- `attempt` tries an address. -/
theorem attempt_of_resolved (hstate : w.mState = .connecting) (hresolved : w.mResolved ≠ [])
    (outcome : Outcome) :
    ∃ w₀, SameSockets w w₀ ∧ w.attempt outcome = w₀.createSocket outcome := by
  obtain ⟨addr, rest, hcons⟩ := List.exists_cons_of_ne_nil hresolved
  refine ⟨{ w with mResolved := rest }, ⟨rfl, rfl, rfl⟩, ?_⟩
  simp only [World.attempt, hstate, hcons, ite_closesocket]
  rfl

theorem SameSockets.start (w : World) : SameSockets w w.start := by
  unfold World.start
  split_ifs <;> exact ⟨rfl, rfl, rfl⟩

theorem SameSockets.resolve (w : World) (result : Option (List Address)) :
    SameSockets w (w.resolve result) := by
  unfold World.resolve
  dsimp only
  split_ifs
  · exact ⟨rfl, rfl, rfl⟩
  · cases result <;> exact ⟨rfl, rfl, rfl⟩

theorem SameSockets.poll {sock : Option ℕ} {event : PollService.Event} {out : Bool}
    (hpoll : w.poll sock event out = some w') : SameSockets w w' := by
  obtain ⟨callback, -, rfl⟩ := Option.map_eq_some_iff.1 hpoll
  cases event <;> exact ⟨rfl, rfl, rfl⟩

theorem SameSockets.advance {ending : Ending} (hadvance : w.advance ending = some w') :
    SameSockets w w' := by
  unfold World.advance at hadvance
  split at hadvance
  · cases hadvance
  all_goals
    obtain rfl := Option.some.inj hadvance
    exact ⟨rfl, rfl, rfl⟩

/-- What a step does: it leaves the sockets alone, it is a call of `close`, or an attempt creates
a socket. -/
theorem step_cases {e : Step} (hstep : w.step e = some w') :
    SameSockets w w' ∨ w' = w.close ∨
      ∃ outcome w₀, e = .attempt outcome ∧ w.mState = .connecting ∧ w.mResolved ≠ [] ∧
        SameSockets w w₀ ∧ w' = w₀.createSocket outcome := by
  cases e with
  | start =>
    obtain rfl := Option.some.inj hstep
    exact Or.inl (SameSockets.start w)
  | resolve result =>
    obtain ⟨-, heq⟩ := Option.ite_none_right_eq_some.1 hstep
    obtain rfl := Option.some.inj heq
    obtain ⟨hsock, hcreated, hclosed⟩ :=
      SameSockets.resolve { w with tasks := w.tasks.erase .resolve } result
    exact Or.inl ⟨hsock, hcreated, hclosed⟩
  | attempt outcome =>
    obtain ⟨-, heq⟩ := Option.ite_none_right_eq_some.1 hstep
    obtain rfl := Option.some.inj heq
    -- a socket is created only if the attempt is not cancelled and has an address to try
    by_cases hcreates : w.mState = .connecting ∧ w.mResolved ≠ []
    · obtain ⟨w₀, ⟨hsock, hcreated, hclosed⟩, heq⟩ :=
        attempt_of_resolved (w := { w with tasks := w.tasks.erase .attempt }) hcreates.1 hcreates.2
          outcome
      exact Or.inr (Or.inr ⟨outcome, w₀, rfl, hcreates.1, hcreates.2, ⟨hsock, hcreated, hclosed⟩,
        heq⟩)
    · obtain ⟨hsock, hcreated, hclosed⟩ :=
        SameSockets.attempt (w := { w with tasks := w.tasks.erase .attempt })
          (fun hstate => not_not.1 fun hne => hcreates ⟨hstate, hne⟩) outcome
      exact Or.inl ⟨hsock, hcreated, hclosed⟩
  | register task =>
    obtain ⟨-, heq⟩ := Option.ite_none_right_eq_some.1 hstep
    split at heq
    · obtain rfl := Option.some.inj heq
      exact Or.inl ⟨rfl, rfl, rfl⟩
    · obtain rfl := Option.some.inj heq
      exact Or.inl ⟨rfl, rfl, rfl⟩
    · cases heq
  | poll sock event out =>
    exact Or.inl (SameSockets.poll (Option.ite_none_right_eq_some.1 hstep).2)
  | advance ending => exact Or.inl (SameSockets.advance hstep)
  | send =>
    obtain ⟨-, heq⟩ := Option.ite_none_right_eq_some.1 hstep
    obtain rfl := Option.some.inj heq
    exact Or.inl ⟨rfl, rfl, rfl⟩
  | close =>
    obtain rfl := Option.some.inj hstep
    exact Or.inr (Or.inl rfl)

/-- A socket is created where none is held, and closed again if it cannot be connected. -/
theorem Inv.createSocket (h : w.Inv) (hnone : w.mSock = none) (outcome : Outcome) :
    (w.createSocket outcome).Inv := by
  have hcreate : Inv { w with mSock := some w.created, created := w.created + 1 } :=
    h.created hnone rfl rfl rfl
  cases outcome with
  | socketFails => exact h.congr hnone.symm rfl rfl
  | configureFails => exact hcreate.closed rfl rfl rfl
  | connectFails => exact hcreate.closed rfl rfl rfl
  | connects => exact hcreate.congr rfl rfl rfl

/-- A socket is leaked that is neither closed nor held. -/
theorem not_kept_of_lost {sock : ℕ} (hlt : sock < w.created) (hclosed : sock ∉ w.closed)
    (hheld : w.mSock ≠ some sock) : ¬Kept w := by
  intro hkept
  have hnot : sock ∉ w.close.closed := by
    rw [closed_close, List.mem_append, Option.mem_toList]
    rintro (hold | hsock)
    · exact hclosed hold
    · exact hheld hsock
  have honce := hkept.once sock hlt
  rw [List.count_eq_zero_of_not_mem hnot] at honce
  cases honce

/-- The socket that is held when another is created is not closed any more. -/
theorem Inv.not_kept_createSocket (h : w.Inv) (hsome : w.mSock ≠ none) (outcome : Outcome) :
    ¬Kept (w.createSocket outcome) := by
  obtain ⟨sock, hsock⟩ := Option.ne_none_iff_exists'.1 hsome
  obtain ⟨hlt, hmem⟩ := (h.held sock).1 hsock
  -- the number of the new socket is another one
  have hne : sock ≠ w.created := Nat.ne_of_lt hlt
  have hclosed : sock ∉ w.closed ++ [w.created] := by simpa using ⟨hmem, hne⟩
  cases outcome with
  | socketFails => exact not_kept_of_lost hlt hmem nofun
  | configureFails => exact not_kept_of_lost (Nat.lt_succ_of_lt hlt) hclosed nofun
  | connectFails => exact not_kept_of_lost (Nat.lt_succ_of_lt hlt) hclosed nofun
  | connects =>
    refine not_kept_of_lost (Nat.lt_succ_of_lt hlt) hmem fun hheld => ?_
    exact hne (Option.some.inj hheld).symm

/-- A step that meets the condition keeps the invariant. -/
theorem Inv.step {e : Step} (h : w.Inv) (hfinds : FindsNone w e) (hstep : w.step e = some w') :
    w'.Inv := by
  rcases step_cases hstep with hsame | rfl | ⟨outcome, w₀, rfl, hstate, hresolved, hsame, rfl⟩
  · exact h.of_same hsame
  · exact h.close
  · exact (h.of_same hsame).createSocket (hsame.mSock.trans (hfinds hstate hresolved)) outcome

/-- A step that misses it leaks a socket. -/
theorem Inv.not_kept_step {e : Step} (h : w.Inv) (hmiss : ¬FindsNone w e)
    (hstep : w.step e = some w') : ¬Kept w' := by
  cases e with
  | attempt outcome =>
    simp only [FindsNone, Classical.not_imp] at hmiss
    obtain ⟨hstate, hresolved, hsome⟩ := hmiss
    obtain ⟨-, heq⟩ := Option.ite_none_right_eq_some.1 hstep
    obtain rfl := Option.some.inj heq
    obtain ⟨w₀, ⟨hsock, hcreated, hclosed⟩, heq⟩ :=
      attempt_of_resolved (w := { w with tasks := w.tasks.erase .attempt }) hstate hresolved outcome
    rw [heq]
    exact (h.congr hsock hcreated hclosed).not_kept_createSocket (hsock ▸ hsome) outcome
  | start => exact absurd trivial hmiss
  | resolve result => exact absurd trivial hmiss
  | register task => exact absurd trivial hmiss
  | poll sock event out => exact absurd trivial hmiss
  | advance ending => exact absurd trivial hmiss
  | send => exact absurd trivial hmiss
  | close => exact absurd trivial hmiss

end World

/-! ### Runs -/

/-- In every run of the transport, with any addresses, outcomes and interleaving: no socket is
leaked all along the run exactly when every attempt that has an address to try finds no socket of an
earlier attempt. -/
theorem kept_iff {steps : List Step} {w : World}
    (hrun : Transition.run World.step {} steps = some w) :
    (∀ before, before <+: steps → ∀ w', Transition.run World.step {} before = some w' → Kept w') ↔
      Transition.Meets World.step FindsNone {} steps :=
  Transition.forall_prefix_iff_meets_of_invariant (fun _ h => h.kept)
    (fun _ _ _ h hfinds hstep => h.step hfinds hstep)
    (fun _ _ _ h hmiss hstep => h.not_kept_step hmiss hstep) World.Inv.start hrun

/-- The connection to the first of two addresses is refused at once, that to the second is
established, and closed. -/
def refusedThenConnected : List Step :=
  [.start, .resolve (some [[1], [2]]), .attempt .connectFails, .attempt .connects,
    .register .registerAttempt, .poll (some 1) .pollOut false, .advance .succeeds,
    .advance .succeeds, .advance .succeeds, .close]

theorem kept_iff_refusedThenConnected :
    ∃ w, Transition.run World.step {} refusedThenConnected = some w ∧ w.created = 2 ∧
      w.closed = [0, 1] ∧
      ∀ before, before <+: refusedThenConnected → ∀ w',
        Transition.run World.step {} before = some w' → Kept w' := by
  have hrun : ∃ w, Transition.run World.step {} refusedThenConnected = some w ∧ w.created = 2 ∧
      w.closed = [0, 1] := ⟨_, rfl, by decide, by decide⟩
  obtain ⟨w, hrun, hcreated, hclosed⟩ := hrun
  exact ⟨w, hrun, hcreated, hclosed, (kept_iff hrun).2 (by decide)⟩

/-- The connection to the first of two addresses times out. Its socket is never closed. -/
theorem leaked_after_timeout :
    ∃ w, Transition.run World.step {}
        [.start, .resolve (some [[1], [2]]), .attempt .connects, .register .registerAttempt,
          .poll (some 0) .timeout false, .advance .fails, .advance .fails, .attempt .connects,
          .close] = some w ∧
      w.created = 2 ∧ w.closed = [1] ∧ w.mSock = none ∧ ¬Kept w := by
  refine ⟨_, rfl, by decide, by decide, by decide, fun h => ?_⟩
  have honce := h.once 0 (by decide)
  revert honce
  decide

end Rtc.TcpTransport.Sockets
