import Mathlib.Logic.Function.Basic
import QuicRtc.Lib.Transition
import QuicRtc.PeerConnection.Defs

/-!
# Threads of a peer connection

The interleavings of the threads that work on the data channels of one peer connection, cut where
no lock is held:

* calls of `emplaceDataChannel`, from any thread, also from inside the state-change callback:
  register the channel, test the SCTP transport, `assignDataChannels`, `open`;
* the SCTP thread: the callback for `State::Connected` (`assignDataChannels`, then enqueue
  `openDataChannels`), and `forwardMessage`, whose `removeDataChannel` and `incoming` are two steps
  for a stream reset;
* the processor of the peer connection, which runs `openDataChannels`: collect the channels, then
  test and open them one by one;
* the user, who closes channels and drops them.

A call of a member function of a channel is one step. Between any two steps the entries of the hash
table may come into another order.

`Threads.step` takes one step; `Threads.Takes` lists what a step can do, for proofs by cases.
-/

namespace Rtc.PeerConnection

/-- How far a call of `emplaceDataChannel` has come, once the channel is registered. -/
inductive Creation where
  /-- About to test the state of the SCTP transport. -/
  | registered
  /-- The transport was connected: about to call `assignDataChannels`. -/
  | connected
  /-- About to call `open`. -/
  | assigned
  deriving DecidableEq, Repr

/-- What the SCTP thread is doing. -/
inductive SctpThread where
  | idle
  /-- In the callback for `State::Connected`, before `assignDataChannels`. -/
  | connected
  /-- In the callback for `State::Connected`, before the enqueue of `openDataChannels`. -/
  | assigned
  /-- In `forwardMessage`, between `removeDataChannel` and `incoming` of the removed channel. -/
  | resetting (c : ℕ) (message : Message)
  deriving DecidableEq, Repr

/-- What has become of the task `openDataChannels`. -/
inductive Sweep where
  | none
  | enqueued
  /-- The task holds the channels `locked`, of which it has still to test `todo`; it has found
  `current` not to be open and is about to open it. -/
  | running (locked todo : List ℕ) (current : Option ℕ)
  deriving DecidableEq, Repr

/-- The peer connection and its threads. -/
structure Threads where
  pc : PeerConnection
  creating : ℕ → Option Creation := fun _ => none
  sctp : SctpThread := .idle
  sweep : Sweep := .none

/-- The steps of the threads. -/
inductive Step where
  | create (label : List UInt8) (init : DataChannelInit)
  | check (c : ℕ)
  | assign (c : ℕ)
  | openCreated (c : ℕ)
  | initSctpTransport
  | commUp (streams : UInt16)
  | commLost (state : Transport.State)
  | callbackAssign
  | callbackEnqueue
  | sweepStart
  | sweepTest
  | sweepOpen
  | forward (message : Option Message)
  | removeReset (message : Message)
  | incomingReset
  | close (c : ℕ)
  | destroy (c : ℕ)
  | rehash (table : AList (fun _ : ℕ => ℕ))

/-- The channels locked by the sweep. -/
def Sweep.locked : Sweep → List ℕ
  | .none => []
  | .enqueued => []
  | .running locked _ _ => locked

/-- The channels the sweep has still to open, or to test. -/
def Sweep.pending : Sweep → List ℕ
  | .none => []
  | .enqueued => []
  | .running _ todo current => current.toList ++ todo

namespace Threads

/-- A new peer connection, whose ICE transport has its role. -/
def start (role : Description.Role) : Threads := { pc := { mIceTransport := some role } }

/-- Set the progress of a call of `emplaceDataChannel`. -/
def setCreating (t : Threads) (c : ℕ) (creation : Option Creation) : Threads :=
  { t with creating := Function.update t.creating c creation }

/-- Some thread holds a shared pointer to the channel. -/
def holds (t : Threads) (c : ℕ) : Bool :=
  (t.creating c).isSome || decide (c ∈ t.sweep.pending) ||
    match t.sctp with
    | .resetting c' _ => c' = c
    | _ => false

/-- `assignDataChannels` or `open` in a call of `emplaceDataChannel`, with its outcome. An exception
ends the call and destroys the channel, unless another thread holds it. -/
def creationStep (t : Threads) (c : ℕ) (outcome : PeerConnection × Option Exception)
    (next : Option Creation) : Threads :=
  match outcome with
  | (pc, none) => { t with pc }.setCreating c next
  | (pc, some _) =>
    let t' := { t with pc }.setCreating c none
    if t'.holds c then t' else { t' with pc := pc.destroy c }

/-- The transport becomes connected and its callback starts. -/
def commUp (t : Threads) (streams : UInt16) : Option Threads :=
  match t.sctp, t.pc.mSctpTransport with
  | .idle, some ⟨.connecting, _⟩ =>
    some
      { t with
        pc :=
          { t.pc with
            mSctpTransport := some
              { state := .connected, mNegotiatedStreamsCount := some streams } }
        sctp := .connected }
  | _, _ => none

/-- `forwardMessage` on a stream reset, up to `removeDataChannel`. -/
def removeReset (t : Threads) (message : Message) : Threads :=
  let stream := message.stream % 65536
  match t.pc.mSctpTransport, t.pc.mDataChannels.lookup stream with
  | some _, some c =>
    { t with
      pc := t.pc.removeDataChannel stream
      -- a channel that was destroyed is not called
      sctp := if (t.pc.lock c).isSome then .resetting c message else .idle }
  | _, _ => t

/-- One step of one thread, if that thread can take it. A thread whose call does not return takes no
further step. -/
def step (t : Threads) : Step → Option Threads
  | .create label init =>
    match t.pc.registerDataChannel label init with
    | (pc, .error _) => some { t with pc }
    | (pc, .ok c) => some ({ t with pc }.setCreating c (some .registered))
  | .check c =>
    if t.creating c = some .registered then
      some (t.setCreating c (if t.pc.sctpConnected then some .connected else none))
    else none
  | .assign c =>
    if t.creating c = some .connected then
      t.pc.assignDataChannels.map fun outcome => t.creationStep c outcome (some .assigned)
    else none
  | .openCreated c =>
    if t.creating c = some .assigned then
      some (t.creationStep c (t.pc.call c DataChannel.openOn) none)
    else none
  | .initSctpTransport =>
    if t.pc.mSctpTransport.isNone then
      some { t with pc := { t.pc with mSctpTransport := some { state := .connecting } } }
    else none
  | .commUp streams => t.commUp streams
  | .commLost state =>
    if t.sctp = .idle ∧ (state = .disconnected ∨ state = .failed) then
      some { t with pc := { t.pc with
        mSctpTransport := t.pc.mSctpTransport.map fun status => { status with state } } }
    else none
  | .callbackAssign =>
    if t.sctp = .connected then
      match t.pc.assignDataChannels with
      | none => none
      | some (pc, none) => some { t with pc, sctp := .assigned }
      -- `changeState` logs the exception; the task is not enqueued
      | some (pc, some _) => some { t with pc, sctp := .idle }
    else none
  | .callbackEnqueue =>
    if t.sctp = .assigned then some { t with sctp := .idle, sweep := .enqueued } else none
  | .sweepStart =>
    if t.sweep = .enqueued then
      some { t with sweep := .running t.pc.lockedChannels t.pc.lockedChannels none }
    else none
  | .sweepTest =>
    match t.sweep with
    | .running locked (c :: todo) none =>
      some { t with
        sweep := .running locked todo (if (t.pc.lock c).any (·.isOpen) then none else some c) }
    | _ => none
  | .sweepOpen =>
    match t.sweep with
    | .running locked todo (some c) =>
      some { t with pc := (t.pc.call c DataChannel.openOn).1, sweep := .running locked todo none }
    | _ => none
  | .forward message =>
    if t.sctp = .idle ∧ message.all (·.type ≠ .reset) then
      some { t with pc := (t.pc.forwardMessage message).1 }
    else none
  | .removeReset message =>
    if t.sctp = .idle ∧ message.type = .reset then some (t.removeReset message) else none
  | .incomingReset =>
    match t.sctp with
    | .resetting c message =>
      some { t with pc := (t.pc.call c (·.incoming message)).1, sctp := .idle }
    | _ => none
  | .close c =>
    if (t.pc.lock c).isSome then some { t with pc := (t.pc.call c DataChannel.close).1 } else none
  | .destroy c =>
    if (t.pc.lock c).isSome ∧ t.holds c = false then some { t with pc := t.pc.destroy c } else none
  | .rehash table => (t.pc.rehash table).map fun pc => { t with pc }

/-- The steps as a relation, one rule for each branch that can be taken. -/
inductive Takes (t : Threads) : Step → Threads → Prop
  | create {label : List UInt8} {init : DataChannelInit} {pc : PeerConnection} {c : ℕ}
    (hregister : t.pc.registerDataChannel label init = (pc, .ok c)) :
    Takes t (.create label init) ({ t with pc }.setCreating c (some .registered))
  | createFails {label : List UInt8} {init : DataChannelInit} {pc : PeerConnection}
    {e : Exception} (hregister : t.pc.registerDataChannel label init = (pc, .error e)) :
    Takes t (.create label init) { t with pc }
  | check {c : ℕ} (hcreating : t.creating c = some .registered) :
    Takes t (.check c) (t.setCreating c (if t.pc.sctpConnected then some .connected else none))
  | assign {c : ℕ} {outcome : PeerConnection × Option Exception}
    (hcreating : t.creating c = some .connected)
    (hassign : t.pc.assignDataChannels = some outcome) :
    Takes t (.assign c) (t.creationStep c outcome (some .assigned))
  | openCreated {c : ℕ} (hcreating : t.creating c = some .assigned) :
    Takes t (.openCreated c) (t.creationStep c (t.pc.call c DataChannel.openOn) none)
  | initSctpTransport (hnone : t.pc.mSctpTransport = none) :
    Takes t .initSctpTransport
      { t with pc := { t.pc with mSctpTransport := some { state := .connecting } } }
  | commUp {streams : UInt16} {count : Option UInt16} (hidle : t.sctp = .idle)
    (htransport : t.pc.mSctpTransport = some ⟨.connecting, count⟩) :
    Takes t (.commUp streams)
      { t with
        pc :=
          { t.pc with
            mSctpTransport := some
              { state := .connected, mNegotiatedStreamsCount := some streams } }
        sctp := .connected }
  | commLost {state : Transport.State} (hstate : state = .disconnected ∨ state = .failed) :
    Takes t (.commLost state)
      { t with pc := { t.pc with
        mSctpTransport := t.pc.mSctpTransport.map fun status => { status with state } } }
  | callbackAssign {pc : PeerConnection} (hsctp : t.sctp = .connected)
    (hassign : t.pc.assignDataChannels = some (pc, none)) :
    Takes t .callbackAssign { t with pc, sctp := .assigned }
  | callbackFails {pc : PeerConnection} {e : Exception} (hsctp : t.sctp = .connected)
    (hassign : t.pc.assignDataChannels = some (pc, some e)) :
    Takes t .callbackAssign { t with pc, sctp := .idle }
  | callbackEnqueue (hsctp : t.sctp = .assigned) :
    Takes t .callbackEnqueue { t with sctp := .idle, sweep := .enqueued }
  | sweepStart (hsweep : t.sweep = .enqueued) :
    Takes t .sweepStart
      { t with sweep := .running t.pc.lockedChannels t.pc.lockedChannels none }
  | sweepTest {locked todo : List ℕ} {c : ℕ} (hsweep : t.sweep = .running locked (c :: todo) none) :
    Takes t .sweepTest
      { t with
        sweep := .running locked todo (if (t.pc.lock c).any (·.isOpen) then none else some c) }
  | sweepOpen {locked todo : List ℕ} {c : ℕ} (hsweep : t.sweep = .running locked todo (some c)) :
    Takes t .sweepOpen
      { t with pc := (t.pc.call c DataChannel.openOn).1, sweep := .running locked todo none }
  | forward {message : Option Message} (hreset : ∀ m ∈ message, m.type ≠ .reset) :
    Takes t (.forward message) { t with pc := (t.pc.forwardMessage message).1 }
  | removeReset {message : Message} (hidle : t.sctp = .idle) (hreset : message.type = .reset) :
    Takes t (.removeReset message) (t.removeReset message)
  | incomingReset {c : ℕ} {message : Message} (hsctp : t.sctp = .resetting c message) :
    Takes t .incomingReset { t with pc := (t.pc.call c (·.incoming message)).1, sctp := .idle }
  | close {c : ℕ} : Takes t (.close c) { t with pc := (t.pc.call c DataChannel.close).1 }
  | destroy {c : ℕ} : Takes t (.destroy c) { t with pc := t.pc.destroy c }
  | rehash {table : AList (fun _ : ℕ => ℕ)} {pc : PeerConnection}
    (hrehash : t.pc.rehash table = some pc) : Takes t (.rehash table) { t with pc }

/-- Every step follows a rule. -/
theorem Takes.of_step {t t' : Threads} {e : Step} (h : t.step e = some t') : Takes t e t' := by
  cases e with
  -- one rule for each way through the step: the test that guards it is what the rule needs
  | create label init =>
    simp only [step] at h
    split at h
    · next pc e hregister =>
      cases h
      exact .createFails hregister
    · next pc c hregister =>
      cases h
      exact .create hregister
  | check c =>
    simp only [step, Option.ite_none_right_eq_some, Option.some.injEq] at h
    obtain ⟨hcreating, rfl⟩ := h
    exact .check hcreating
  | assign c =>
    simp only [step, Option.ite_none_right_eq_some] at h
    obtain ⟨hcreating, h⟩ := h
    obtain ⟨outcome, hassign, rfl⟩ := Option.map_eq_some_iff.1 h
    exact .assign hcreating hassign
  | openCreated c =>
    simp only [step, Option.ite_none_right_eq_some, Option.some.injEq] at h
    obtain ⟨hcreating, rfl⟩ := h
    exact .openCreated hcreating
  | initSctpTransport =>
    simp only [step, Option.ite_none_right_eq_some, Option.some.injEq,
      Option.isNone_iff_eq_none] at h
    obtain ⟨hnone, rfl⟩ := h
    exact .initSctpTransport hnone
  | commUp streams =>
    simp only [step, Threads.commUp] at h
    split at h
    · next count hidle htransport =>
      cases h
      exact .commUp hidle htransport
    · cases h
  | commLost state =>
    simp only [step, Option.ite_none_right_eq_some, Option.some.injEq] at h
    obtain ⟨⟨-, hstate⟩, rfl⟩ := h
    exact .commLost hstate
  -- the callback of the transport goes on in steps of its own
  | callbackAssign =>
    simp only [step, Option.ite_none_right_eq_some] at h
    obtain ⟨hsctp, h⟩ := h
    split at h
    · cases h
    · next pc hassign =>
      cases h
      exact .callbackAssign hsctp hassign
    · next pc e hassign =>
      cases h
      exact .callbackFails hsctp hassign
  | callbackEnqueue =>
    simp only [step, Option.ite_none_right_eq_some, Option.some.injEq] at h
    obtain ⟨hsctp, rfl⟩ := h
    exact .callbackEnqueue hsctp
  | sweepStart =>
    simp only [step, Option.ite_none_right_eq_some, Option.some.injEq] at h
    obtain ⟨hsweep, rfl⟩ := h
    exact .sweepStart hsweep
  | sweepTest =>
    simp only [step] at h
    split at h
    · next locked c todo hsweep =>
      cases h
      exact .sweepTest hsweep
    · cases h
  | sweepOpen =>
    simp only [step] at h
    split at h
    · next locked todo c hsweep =>
      cases h
      exact .sweepOpen hsweep
    · cases h
  -- messages of the transport, with resets taken aside
  | forward message =>
    simp only [step, Option.ite_none_right_eq_some, Option.some.injEq] at h
    obtain ⟨⟨-, hreset⟩, rfl⟩ := h
    refine .forward ?_
    rintro m rfl
    simpa using hreset
  | removeReset message =>
    simp only [step, Option.ite_none_right_eq_some, Option.some.injEq] at h
    obtain ⟨⟨hidle, hreset⟩, rfl⟩ := h
    exact .removeReset hidle hreset
  | incomingReset =>
    simp only [step] at h
    split at h
    · next c message hsctp =>
      cases h
      exact .incomingReset hsctp
    · cases h
  | close c =>
    simp only [step, Option.ite_none_right_eq_some, Option.some.injEq] at h
    obtain ⟨-, rfl⟩ := h
    exact .close
  | destroy c =>
    simp only [step, Option.ite_none_right_eq_some, Option.some.injEq] at h
    obtain ⟨-, rfl⟩ := h
    exact .destroy
  | rehash table =>
    obtain ⟨pc, hrehash, rfl⟩ := Option.map_eq_some_iff.1 h
    exact .rehash hrehash

end Threads

end Rtc.PeerConnection
