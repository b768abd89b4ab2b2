import Mathlib.Data.List.Pairwise
import Mathlib.Logic.Function.Basic
import QuicRtc.WebSocket.Defs

/-!
# The lifecycle of a WebSocket

The state of a `WebSocket` between one `open` and the next, with all the threads that test and
change it: the users' threads, those of the transports, whose callbacks start one transport above
the other, and that of the connection timeout.

A call is a list of operations, cut at each access to `state` and to the members that hold the
transports. What the transports do is left open: their callbacks may come at any time and in any
order. A callback that comes inside of a call, as `stop` may do, is a thread of its own that runs
while the call waits.

* `Correct`: the lifecycle that users rely on.
* `Safe`: a change of the state that still fits the state it finds.
* `correct_iff_changes_fit`: the lifecycle is correct along exactly the runs whose changes are all
  safe.
-/

namespace Rtc

namespace WebSocket

namespace Lifecycle

/-- The transports. -/
inductive Layer where
  | tcp
  | proxy
  | tls
  | ws
  deriving DecidableEq, Repr

/-- The members that decide which transports are used. -/
structure Config where
  /-- `config.proxyServer` is set. -/
  proxyServer : Bool := false
  mIsSecure : Bool := false
  deriving DecidableEq, Repr

/-- What a thread does next. -/
inductive Operation where
  /-- `open`, whose test of the state ends the run if it succeeds. -/
  | open
  /-- `close`. -/
  | close
  /-- `close`: `changeState(State::Closing)`. -/
  | changeToClosing
  /-- `close`, behind the change of the state. -/
  | stop
  /-- `remoteClose`, behind `close`. -/
  | testClosed
  /-- `closeTransports`: `changeState(State::Closed)`. -/
  | closeTransports
  /-- `closeTransports`: the exchange of a transport. -/
  | exchangeTransport (layer : Layer)
  | triggerClosed
  /-- The WS callback for `State::Connected`. -/
  | testConnecting
  /-- The WS callback for `State::Connected`, behind the test of the state. -/
  | changeToOpen
  | triggerOpen
  /-- The timeout, and the callbacks of the lower transports for `State::Disconnected`. -/
  | closeConnecting
  /-- `setTcpTransport` and the `init` functions: the test of the member. -/
  | init (layer : Layer)
  /-- An `init` function: the load of the lower transport. -/
  | loadLower (layer : Layer)
  /-- `emplaceTransport`: the store of the transport. -/
  | emplace (layer : Layer)
  /-- `emplaceTransport`: the start of the transport. -/
  | start (layer : Layer)
  /-- `emplaceTransport`: the test of the state. -/
  | testEmplaced (layer : Layer)
  /-- `emplaceTransport`: the store of the null pointer. -/
  | forget (layer : Layer)
  deriving DecidableEq, Repr

/-- `remoteClose`. -/
def remoteClose : List Operation := [.close, .testClosed]

/-- The next transport above a connected one. -/
def Config.upper (config : Config) : Layer → Layer
  | .tcp => if config.proxyServer then .proxy else if config.mIsSecure then .tls else .ws
  | .proxy => if config.mIsSecure then .tls else .ws
  | .tls | .ws => .ws

/-- The lower transport that an `init` function loads. -/
def Config.lower (config : Config) : Layer → Layer
  | .tcp | .proxy => .tcp
  | .tls => if config.proxyServer then .proxy else .tcp
  | .ws => if config.mIsSecure then .tls else if config.proxyServer then .proxy else .tcp

/-- The members that threads share, and what has been observed. -/
structure Shared where
  state : State := .connecting
  /-- The member of a layer is not null. -/
  transports : Layer → Bool := fun _ => false
  /-- The values that `state` has been given, from `open` on. -/
  states : List State := [.connecting]
  /-- The calls of `triggerOpen`. -/
  opened : ℕ := 0
  /-- The calls of `triggerClosed`. -/
  closed : ℕ := 0

namespace Shared

/-- `changeState`, whose answer is whether `state` had another value. -/
def changeState (c : Shared) (newState : State) : Shared :=
  { c with state := newState, states := c.states ++ [newState] }

/-- Store a transport or the null pointer. -/
def store (c : Shared) (layer : Layer) (transport : Bool) : Shared :=
  { c with transports := Function.update c.transports layer transport }

variable (config : Config)

/-- A thread executes an operation, and goes on with others. A transport throws in `start` if
`failure` is set. -/
def exec (c : Shared) (failure : Bool) : Operation → Shared × List Operation
  | .open => (c, [])
  | .close =>
    if c.state = .connecting ∨ c.state = .open then (c, [.changeToClosing]) else (c, [])
  | .changeToClosing => (c.changeState .closing, [.stop])
  -- `stop` of the transport is left to its callbacks
  | .stop => if c.transports .ws then (c, []) else (c, remoteClose)
  | .testClosed => if c.state ≠ .closed then (c, [.closeTransports]) else (c, [])
  | .closeTransports =>
    (c.changeState .closed,
      if c.state ≠ .closed then
        [.exchangeTransport .ws, .exchangeTransport .tls, .exchangeTransport .tcp, .triggerClosed]
      else [])
  | .exchangeTransport layer => (c.store layer false, [])
  | .triggerClosed => ({ c with closed := c.closed + 1 }, [])
  | .testConnecting => if c.state = .connecting then (c, [.changeToOpen]) else (c, [])
  | .changeToOpen => (c.changeState .open, if c.state ≠ .open then [.triggerOpen] else [])
  | .triggerOpen => ({ c with opened := c.opened + 1 }, [])
  | .closeConnecting => if c.state = .connecting then (c, remoteClose) else (c, [])
  | .init layer =>
    if c.transports layer then
      -- `setTcpTransport` throws
      if layer = .tcp then (c, remoteClose) else (c, [])
    else if layer = .tcp then (c, [.emplace layer])
    else (c, [.loadLower layer])
  | .loadLower layer =>
    if c.transports (config.lower layer) then (c, [.emplace layer]) else (c, remoteClose)
  | .emplace layer => (c.store layer true, [.start layer])
  | .start layer =>
    if failure then (c, .forget layer :: remoteClose) else (c, [.testEmplaced layer])
  | .testEmplaced layer => if c.state = .closed then (c, [.forget layer]) else (c, [])
  | .forget layer => (c.store layer false, [])

end Shared

/-- The calls that start a thread. -/
inductive Call where
  | open
  | close
  /-- `forceClose` of the user. -/
  | remoteClose
  /-- The callback of a transport for `State::Connected`. -/
  | connected (layer : Layer)
  /-- The callback of a transport for `State::Failed`. -/
  | failed (layer : Layer)
  /-- The callback of a transport for `State::Disconnected`. -/
  | disconnected (layer : Layer)
  /-- `incoming` with the null pointer. -/
  | incoming
  /-- The connection timeout. -/
  | timeout
  deriving DecidableEq, Repr

/-- The operations of a call. -/
def Call.operations (config : Config) : Call → List Operation
  | .open => [.open]
  | .close => [.close]
  | .remoteClose | .failed _ | .incoming => Lifecycle.remoteClose
  | .connected layer => if layer = .ws then [.testConnecting] else [.init (config.upper layer)]
  | .disconnected layer => if layer = .ws then Lifecycle.remoteClose else [.closeConnecting]
  | .timeout => [.closeConnecting]

/-- A WebSocket and its threads. -/
structure World where
  shared : Shared := {}
  threads : List (List Operation) := []

/-- The steps of the threads. -/
inductive Event where
  /-- A thread calls. -/
  | call (call : Call)
  /-- Thread `i` executes its next operation. -/
  | thread (i : ℕ) (failure : Bool)
  deriving DecidableEq, Repr

namespace World

/-- `open`, behind its change of the state. -/
def start : World := { threads := [[.init .tcp]] }

/-- One step. -/
def step (config : Config) (w : World) : Event → Option World
  | .call call => some { w with threads := w.threads ++ [call.operations config] }
  | .thread i failure =>
    match w.threads[i]? with
    | some (operation :: rest) =>
      let (shared, next) := w.shared.exec config failure operation
      some { shared, threads := Interleaving.resume w.threads i (next ++ rest) [] }
    | _ => none

/-- The operations that are still to be executed. -/
def pending (w : World) : List Operation := w.threads.flatten

/-- The state `Closed` is final and the state `Open` does not come after `Closing`, the open
callback is called at most once, and the closed callback exactly once when the state has become
`Closed`, by the thread that is on its way to call it. -/
structure Correct (w : World) : Prop where
  closed_final : w.shared.states.Pairwise fun s t => s = .closed → t = .closed
  not_reopened : w.shared.states.Pairwise fun s t => s = .closing → t ≠ .open
  opened : w.shared.opened ≤ 1
  closed : w.shared.closed + w.pending.count .triggerClosed =
    if .closed ∈ w.shared.states then 1 else 0

/-- The state of an `open` whose change of the state has just been made. Threads of earlier calls
may be on their way, but none is about to call a callback. -/
structure Opened (w : World) : Prop where
  state : w.shared.state = .connecting
  states : w.shared.states = [.connecting]
  opened : w.shared.opened = 0
  closed : w.shared.closed = 0
  open_pending : .triggerOpen ∉ w.pending
  closed_pending : .triggerClosed ∉ w.pending

end World

/-- A change of the state fits the state it finds: `Open` is set on `Connecting` or `Open`, and
`Closing` not on `Closed`. -/
def Shared.Fits (c : Shared) : Operation → Prop
  | .changeToOpen => c.state = .connecting ∨ c.state = .open
  | .changeToClosing => c.state ≠ .closed
  | _ => True

instance (c : Shared) (operation : Operation) : Decidable (c.Fits operation) := by
  cases operation <;> unfold Shared.Fits <;> infer_instance

/-- The steps that do not change the state behind a test that no longer holds. -/
def World.Safe (w : World) : Event → Prop
  | .call _ => True
  | .thread i _ => ∀ operation ∈ w.threads[i]?.bind List.head?, w.shared.Fits operation

instance (w : World) (event : Event) : Decidable (w.Safe event) := by
  cases event <;> unfold World.Safe <;> infer_instance

/-! ## The order of the states -/

/-- How far a state is. -/
def rank : State → ℕ
  | .connecting => 0
  | .open => 1
  | .closing => 2
  | .closed => 3

/-- No state is further than `Closed`. -/
theorem rank_closed_le {s : State} (h : rank .closed ≤ rank s) : s = .closed := by
  cases s <;> simp_all [rank]

namespace Shared

variable {c : Shared} {config : Config}

/-- The states so far are in order, and the present one is the last. -/
structure Ascending (c : Shared) : Prop where
  ordered : c.states.Pairwise fun s t => rank s ≤ rank t
  le_state : ∀ s ∈ c.states, rank s ≤ rank c.state
  state_mem : c.state ∈ c.states

theorem mem_changeState {s newState : State} :
    s ∈ (c.changeState newState).states ↔ s ∈ c.states ∨ s = newState := by
  simp [changeState]

/-- What is further than the present state has not been reached. -/
theorem Ascending.notMem (h : c.Ascending) {s : State} (hs : rank c.state < rank s) :
    s ∉ c.states := fun hmem => absurd (h.le_state s hmem) (not_le.2 hs)

/-- A change to the same state or to a further one. -/
theorem Ascending.changeState (h : c.Ascending) {newState : State}
    (hrank : rank c.state ≤ rank newState) : (c.changeState newState).Ascending where
  ordered := by
    refine List.pairwise_append.2 ⟨h.ordered, List.pairwise_singleton _ _, fun s hs t ht => ?_⟩
    obtain rfl := List.mem_singleton.1 ht
    exact (h.le_state s hs).trans hrank
  le_state s hs := by
    rcases List.mem_append.1 hs with hold | hnew
    · exact (h.le_state s hold).trans hrank
    · rw [List.mem_singleton.1 hnew]
      exact le_rfl
  state_mem := List.mem_append_right _ (List.mem_singleton_self _)

/-- The operations that change the state or call a callback. -/
def Noted : Operation → Bool
  | .changeToClosing | .closeTransports | .changeToOpen | .triggerOpen | .triggerClosed => true
  | _ => false

/-- The other operations leave alone what is observed, and lead to no call of a callback. -/
theorem exec_of_not_noted (c : Shared) (config : Config) (failure : Bool) {operation : Operation}
    (h : Noted operation = false) :
    ((c.exec config failure operation).1.state = c.state ∧
      (c.exec config failure operation).1.states = c.states ∧
      (c.exec config failure operation).1.opened = c.opened ∧
      (c.exec config failure operation).1.closed = c.closed) ∧
    .triggerOpen ∉ (c.exec config failure operation).2 ∧
    .triggerClosed ∉ (c.exec config failure operation).2 := by
  cases operation with
  | changeToClosing | closeTransports | changeToOpen | triggerOpen | triggerClosed => cases h
  | «open» => simp [exec]
  | close | stop | testClosed | testConnecting | closeConnecting =>
    simp only [exec]
    split_ifs <;> simp [remoteClose]
  | exchangeTransport layer | emplace layer | forget layer => simp [exec, store]
  | init layer | loadLower layer | start layer | testEmplaced layer =>
    simp only [exec]
    split_ifs <;> simp [remoteClose]

end Shared

/-- A call begins no thread that is about to call a callback. -/
theorem Call.notMem_operations (config : Config) (call : Call) :
    .triggerOpen ∉ call.operations config ∧ .triggerClosed ∉ call.operations config := by
  cases call with
  | «open» | close | remoteClose | failed layer | incoming | timeout =>
    simp [Call.operations, Lifecycle.remoteClose]
  | connected layer | disconnected layer =>
    simp only [Call.operations]
    split_ifs <;> simp [Lifecycle.remoteClose]

namespace World

variable {w : World} {config : Config}

/-- A callback is called once for a state that has been reached: it has been called, or a thread is
on its way to call it. -/
def Owed (w : World) (s : State) (trigger : Operation) (called : ℕ) : Prop :=
  called + w.pending.count trigger = if s ∈ w.shared.states then 1 else 0

/-- The invariant of the runs whose steps are all safe. -/
structure Inv (w : World) : Prop where
  ascending : w.shared.Ascending
  opened : w.Owed .open .triggerOpen w.shared.opened
  closed : w.Owed .closed .triggerClosed w.shared.closed

/-- The invariant holds after `open`. -/
theorem Opened.inv (h : w.Opened) : w.Inv where
  ascending := ⟨by simp [h.states], by simp [h.states, h.state], by simp [h.states, h.state]⟩
  opened := by simp [Owed, h.states, h.opened, List.count_eq_zero_of_not_mem h.open_pending]
  closed := by simp [Owed, h.states, h.closed, List.count_eq_zero_of_not_mem h.closed_pending]

/-- The invariant is at least what users rely on. -/
theorem Inv.correct (h : w.Inv) : w.Correct where
  closed_final := by
    refine h.ascending.ordered.imp fun {s t} hrank hs => ?_
    rw [hs] at hrank
    exact rank_closed_le hrank
  not_reopened := by
    refine h.ascending.ordered.imp fun {s t} hrank hs ht => ?_
    rw [hs, ht] at hrank
    exact absurd hrank (by decide)
  opened := by
    have hle : (if State.open ∈ w.shared.states then 1 else 0) ≤ 1 := by split <;> omega
    exact (Nat.le_add_right _ _).trans (h.opened.trans_le hle)
  closed := h.closed

/-- What a step of a thread does. -/
theorem thread_step {w' : World} {i : ℕ} {failure : Bool}
    (h : w.step config (.thread i failure) = some w') :
    ∃ operation, w.threads[i]?.bind List.head? = some operation ∧
      w'.shared = (w.shared.exec config failure operation).1 ∧
      Interleaving.Executes operation (w.shared.exec config failure operation).2 w.pending
        w'.pending := by
  simp only [step] at h
  split at h
  case h_1 operation rest hget =>
    obtain rfl := Option.some.inj h
    refine ⟨operation, by simp [hget], rfl, ?_⟩
    have hexec := Interleaving.Executes.resume hget (w.shared.exec config failure operation).2 []
    rwa [List.flatten_nil, List.append_nil] at hexec
  case h_2 => cases h

namespace Owed

variable {w' : World} {s : State} {trigger operation : Operation} {new : List Operation}
  {called : ℕ}

/-- How the number of the threads on their way changes. -/
theorem count_eq (trigger : Operation)
    (hexec : Interleaving.Executes operation new w.pending w'.pending) :
    w'.pending.count trigger + [operation].count trigger =
      w.pending.count trigger + new.count trigger :=
  hexec.countP (· == trigger)

/-- An operation that has nothing to do with the callback. -/
theorem frame (h : w.Owed s trigger called)
    (hexec : Interleaving.Executes operation new w.pending w'.pending)
    (hmem : s ∈ w'.shared.states ↔ s ∈ w.shared.states) (hop : operation ≠ trigger)
    (hnew : trigger ∉ new) : w'.Owed s trigger called := by
  have hcount := count_eq trigger hexec
  rw [List.count_singleton, beq_false_of_ne hop, List.count_eq_zero_of_not_mem hnew] at hcount
  rw [Owed, if_congr hmem rfl rfl, ← h]
  exact congrArg (called + ·) hcount

/-- The state is reached, and the thread goes on to call the callback. -/
theorem reach (h : w.Owed s trigger called)
    (hexec : Interleaving.Executes operation new w.pending w'.pending)
    (hold : s ∉ w.shared.states) (hmem : s ∈ w'.shared.states) (hop : operation ≠ trigger)
    (hnew : new.count trigger = 1) : w'.Owed s trigger called := by
  have hcount := count_eq trigger hexec
  rw [List.count_singleton, beq_false_of_ne hop, hnew] at hcount
  rw [Owed, if_neg hold] at h
  rw [Owed, if_pos hmem]
  simp only [Bool.false_eq_true, ↓reduceIte] at hcount
  omega

/-- The callback is called. -/
theorem call (h : w.Owed s trigger called)
    (hexec : Interleaving.Executes trigger new w.pending w'.pending)
    (hmem : s ∈ w'.shared.states ↔ s ∈ w.shared.states) (hnew : trigger ∉ new) :
    w'.Owed s trigger (called + 1) := by
  have hcount := count_eq trigger hexec
  rw [List.count_singleton_self, List.count_eq_zero_of_not_mem hnew] at hcount
  rw [Owed, if_congr hmem rfl rfl, ← h, add_assoc, add_comm 1, hcount, add_zero]

end Owed

namespace Inv

variable {w' : World} {new : List Operation}

/-- `changeState(State::Closing)` in `close`. -/
theorem changeToClosing (h : w.Inv) (hstate : w.shared.state ≠ .closed)
    (hshared : w'.shared = w.shared.changeState .closing)
    (hexec : Interleaving.Executes .changeToClosing [.stop] w.pending w'.pending) : w'.Inv := by
  have hrank : rank w.shared.state ≤ rank .closing := by
    cases heq : w.shared.state with
    | closed => exact absurd heq hstate
    | connecting | «open» | closing => decide
  have hmem : ∀ s, s ≠ .closing → (s ∈ w'.shared.states ↔ s ∈ w.shared.states) := by
    intro s hs
    simp [hshared, Shared.mem_changeState, hs]
  refine ⟨hshared ▸ h.ascending.changeState hrank, ?_, ?_⟩
  · rw [hshared]
    exact h.opened.frame hexec (hmem .open (by decide)) (by decide) (by decide)
  · rw [hshared]
    exact h.closed.frame hexec (hmem .closed (by decide)) (by decide) (by decide)

/-- `changeState(State::Open)` in the callback of the WS transport. -/
theorem changeToOpen (h : w.Inv) (hstate : w.shared.state = .connecting ∨ w.shared.state = .open)
    (hshared : w'.shared = w.shared.changeState .open)
    (hexec : Interleaving.Executes .changeToOpen
      (if w.shared.state ≠ .open then [.triggerOpen] else []) w.pending w'.pending) : w'.Inv := by
  have hrank : rank w.shared.state ≤ rank .open := by
    rcases hstate with heq | heq
    · rw [heq]
      decide
    · exact heq ▸ le_rfl
  have hopen : State.open ∈ w'.shared.states := by
    rw [hshared, Shared.mem_changeState]
    exact .inr rfl
  have hclosed : State.closed ∈ w'.shared.states ↔ State.closed ∈ w.shared.states := by
    simp [hshared, Shared.mem_changeState]
  refine ⟨hshared ▸ h.ascending.changeState hrank, ?_, ?_⟩
  · rw [hshared]
    rcases hstate with heq | heq
    · have hnot : State.open ∉ w.shared.states := h.ascending.notMem (by rw [heq]; decide)
      rw [heq, if_pos (by decide)] at hexec
      exact h.opened.reach hexec hnot hopen (by decide) (by decide)
    · have hold : State.open ∈ w.shared.states := heq ▸ h.ascending.state_mem
      rw [heq, if_neg (by decide)] at hexec
      exact h.opened.frame hexec (iff_of_true hopen hold) (by decide) (List.not_mem_nil)
  · rw [hshared]
    refine h.closed.frame hexec hclosed (by decide) ?_
    split_ifs <;> decide

/-- `changeState(State::Closed)` in `closeTransports`. -/
theorem closeTransports (h : w.Inv) (hshared : w'.shared = w.shared.changeState .closed)
    (hexec : Interleaving.Executes .closeTransports
      (if w.shared.state ≠ .closed then
        [.exchangeTransport .ws, .exchangeTransport .tls, .exchangeTransport .tcp, .triggerClosed]
      else []) w.pending w'.pending) : w'.Inv := by
  have hrank : rank w.shared.state ≤ rank .closed := by
    cases w.shared.state <;> decide
  have hopen : State.open ∈ w'.shared.states ↔ State.open ∈ w.shared.states := by
    simp [hshared, Shared.mem_changeState]
  have hclosed : State.closed ∈ w'.shared.states := by
    rw [hshared, Shared.mem_changeState]
    exact .inr rfl
  refine ⟨hshared ▸ h.ascending.changeState hrank, ?_, ?_⟩
  · rw [hshared]
    refine h.opened.frame hexec hopen (by decide) ?_
    split_ifs <;> decide
  · rw [hshared]
    by_cases heq : w.shared.state = .closed
    · have hold : State.closed ∈ w.shared.states := heq ▸ h.ascending.state_mem
      rw [if_neg (not_not.2 heq)] at hexec
      exact h.closed.frame hexec (iff_of_true hclosed hold) (by decide) (List.not_mem_nil)
    · have hnot : State.closed ∉ w.shared.states := by
        refine h.ascending.notMem ?_
        cases hstate : w.shared.state with
        | closed => exact absurd hstate heq
        | connecting | «open» | closing => decide
      rw [if_pos heq] at hexec
      exact h.closed.reach hexec hnot hclosed (by decide) (by decide)

/-- `triggerOpen`. -/
theorem triggerOpen (h : w.Inv)
    (hshared : w'.shared = { w.shared with opened := w.shared.opened + 1 })
    (hexec : Interleaving.Executes .triggerOpen [] w.pending w'.pending) : w'.Inv := by
  have hmem : ∀ s, s ∈ w'.shared.states ↔ s ∈ w.shared.states := fun s => by rw [hshared]
  refine ⟨hshared ▸ ⟨h.ascending.1, h.ascending.2, h.ascending.3⟩, ?_, ?_⟩
  · rw [hshared]
    exact h.opened.call hexec (hmem _) (List.not_mem_nil)
  · rw [hshared]
    exact h.closed.frame hexec (hmem _) (by decide) (List.not_mem_nil)

/-- `triggerClosed`. -/
theorem triggerClosed (h : w.Inv)
    (hshared : w'.shared = { w.shared with closed := w.shared.closed + 1 })
    (hexec : Interleaving.Executes .triggerClosed [] w.pending w'.pending) : w'.Inv := by
  have hmem : ∀ s, s ∈ w'.shared.states ↔ s ∈ w.shared.states := fun s => by rw [hshared]
  refine ⟨hshared ▸ ⟨h.ascending.1, h.ascending.2, h.ascending.3⟩, ?_, ?_⟩
  · rw [hshared]
    exact h.opened.frame hexec (hmem _) (by decide) (List.not_mem_nil)
  · rw [hshared]
    exact h.closed.call hexec (hmem _) (List.not_mem_nil)

/-- An operation that changes nothing that is observed. -/
theorem of_not_noted (h : w.Inv) {failure : Bool} {operation : Operation}
    (hnot : Shared.Noted operation = false)
    (hshared : w'.shared = (w.shared.exec config failure operation).1)
    (hexec : Interleaving.Executes operation (w.shared.exec config failure operation).2 w.pending
      w'.pending) : w'.Inv := by
  obtain ⟨⟨hstate, hstates, hopened, hclosed⟩, hopen, hclose⟩ :=
    w.shared.exec_of_not_noted config failure hnot
  rw [← hshared] at hstate hstates hopened hclosed
  have hmem : ∀ s, s ∈ w'.shared.states ↔ s ∈ w.shared.states := fun s => by rw [hstates]
  have hne : operation ≠ .triggerOpen ∧ operation ≠ .triggerClosed := by
    constructor
    · rintro rfl
      exact absurd hnot (by decide)
    · rintro rfl
      exact absurd hnot (by decide)
  refine ⟨⟨?_, ?_, ?_⟩, ?_, ?_⟩
  · exact hstates ▸ h.ascending.ordered
  · exact hstates ▸ hstate ▸ h.ascending.le_state
  · exact hstates ▸ hstate ▸ h.ascending.state_mem
  · rw [hopened]
    exact h.opened.frame hexec (hmem _) hne.1 hopen
  · rw [hclosed]
    exact h.closed.frame hexec (hmem _) hne.2 hclose

/-- Safe steps keep the invariant. -/
theorem step {event : Event} (h : w.Inv) (hsafe : w.Safe event)
    (hstep : w.step config event = some w') : w'.Inv := by
  cases event with
  | call call =>
    obtain rfl := Option.some.inj hstep
    obtain ⟨hopen, hclosed⟩ := call.notMem_operations config
    have hcount : ∀ op, op ∉ call.operations config →
        (w.threads ++ [call.operations config]).flatten.count op = w.pending.count op := by
      intro op hop
      simp [pending, List.count_eq_zero_of_not_mem hop]
    exact ⟨h.ascending, by simpa only [Owed, pending, hcount _ hopen] using h.opened,
      by simpa only [Owed, pending, hcount _ hclosed] using h.closed⟩
  | thread i failure =>
    obtain ⟨operation, hop, hshared, hexec⟩ := thread_step hstep
    have hfits : w.shared.Fits operation := hsafe operation hop
    cases operation with
    | changeToClosing => exact h.changeToClosing hfits hshared hexec
    | changeToOpen => exact h.changeToOpen hfits hshared hexec
    | closeTransports => exact h.closeTransports hshared hexec
    | triggerOpen => exact h.triggerOpen hshared hexec
    | triggerClosed => exact h.triggerClosed hshared hexec
    | «open» | close | stop | testClosed | exchangeTransport | testConnecting | closeConnecting
    | init | loadLower | emplace | start | testEmplaced | forget =>
      exact h.of_not_noted rfl hshared hexec

/-- A step that is not safe breaks what users rely on. -/
theorem not_correct_step {event : Event} (h : w.Inv) (hmiss : ¬w.Safe event)
    (hstep : w.step config event = some w') : ¬w'.Correct := by
  cases event with
  | call call => exact absurd trivial hmiss
  | thread i failure =>
    obtain ⟨operation, hop, hshared, -⟩ := thread_step hstep
    have hfits : ¬w.shared.Fits operation := by
      intro hfits
      refine hmiss fun operation' hop' => ?_
      obtain rfl := Option.some.inj (hop.symm.trans hop')
      exact hfits
    intro hcorrect
    -- the state before the change has been noted
    have hmem := h.ascending.state_mem
    cases operation with
    | changeToClosing =>
      have hclosed : w.shared.state = .closed := not_not.1 hfits
      have hfinal := hcorrect.closed_final
      rw [hshared] at hfinal
      have hlast := (List.pairwise_append.1 hfinal).2.2 _ hmem _ (List.mem_singleton_self _) hclosed
      cases hlast
    | changeToOpen =>
      obtain ⟨hconnecting, hopen⟩ := not_or.1 hfits
      have hfinal := hcorrect.closed_final
      have hreopened := hcorrect.not_reopened
      rw [hshared] at hfinal hreopened
      cases hstate : w.shared.state with
      | connecting => exact hconnecting hstate
      | «open» => exact hopen hstate
      | closing =>
        exact (List.pairwise_append.1 hreopened).2.2 _ hmem _ (List.mem_singleton_self _) hstate rfl
      | closed =>
        have hlast :=
          (List.pairwise_append.1 hfinal).2.2 _ hmem _ (List.mem_singleton_self _) hstate
        cases hlast
    | «open» | close | stop | testClosed | closeTransports | exchangeTransport | triggerClosed
    | testConnecting | triggerOpen | closeConnecting | init | loadLower | emplace | start
    | testEmplaced | forget => exact hfits trivial

end Inv

/-- Between one `open` and the next, the lifecycle is correct along a run exactly when all changes
of the state fit the state they find. -/
theorem correct_iff_changes_fit {w₀ w : World} {events : List Event} (h : w₀.Opened)
    (hrun : Transition.run (step config) w₀ events = some w) :
    (∀ before, before <+: events → ∀ u, Transition.run (step config) w₀ before = some u →
      u.Correct) ↔ Transition.Meets (step config) Safe w₀ events :=
  Transition.forall_prefix_iff_meets_of_invariant (fun _ hinv => Inv.correct hinv)
    (fun _ _ _ hinv hsafe hstep => hinv.step hsafe hstep)
    (fun _ _ _ hinv hmiss hstep => hinv.not_correct_step hmiss hstep) h.inv hrun

/-- The TCP transport connects, and the WS transport is started and connects, up to the test of the
state in its callback. -/
def connecting : List Event :=
  List.replicate 4 (.thread 0 false) ++ [.call (.connected .tcp)] ++
    List.replicate 5 (.thread 1 false) ++ [.call (.connected .ws), .thread 2 false]

/-- The callback goes on, the user closes the WebSocket, and the WS transport disconnects. -/
def closing : List Event :=
  connecting ++ List.replicate 2 (.thread 2 false) ++ [.call .close] ++
    List.replicate 3 (.thread 3 false) ++ [.call (.disconnected .ws)] ++
    List.replicate 7 (.thread 4 false)

theorem opened_start : start.Opened :=
  ⟨rfl, rfl, rfl, rfl, by decide, by decide⟩

theorem correct_of_closing :
    ∃ w, Transition.run (step {}) start closing = some w ∧
      w.shared.states = [.connecting, .open, .closing, .closed] ∧ w.shared.closed = 1 ∧
      w.Correct := by
  have hmeets : Transition.Meets (step {}) Safe start closing := by decide
  refine ⟨_, rfl, rfl, rfl, ?_⟩
  exact (correct_iff_changes_fit opened_start rfl).2 hmeets closing List.prefix_rfl _ rfl

/-- The user closes the WebSocket behind the test in the callback, which then opens it; and the
timeout closes it behind the test in the user's call, which then closes it again. -/
theorem late_changes :
    (∃ w, Transition.run (step {}) start
        (connecting ++ [.call .close, .thread 3 false, .thread 3 false, .thread 2 false,
          .thread 2 false]) = some w ∧
      w.shared.states = [.connecting, .closing, .open] ∧ w.shared.opened = 1 ∧ ¬w.Correct) ∧
    ∃ w, Transition.run (step {}) start
        ([.call .close, .call .timeout, .thread 1 false] ++ List.replicate 12 (.thread 2 false) ++
          List.replicate 9 (.thread 1 false)) = some w ∧
      w.shared.states = [.connecting, .closing, .closed, .closing, .closed] ∧
      w.shared.closed = 2 ∧ ¬w.Correct := by
  refine ⟨⟨_, rfl, rfl, rfl, fun h => ?_⟩, ⟨_, rfl, rfl, rfl, fun h => ?_⟩⟩
  · exact absurd h.not_reopened (by decide)
  · exact absurd h.closed_final (by decide)

end World

end Lifecycle

end WebSocket

end Rtc
