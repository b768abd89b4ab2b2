import QuicRtc.WebSocket.Defs

/-!
# The steps of a WebSocket

What a step can do, for proofs by cases:

* `Leads`: the operations that an operation leads to, and when;
* `Observes`: what it adds to the trace;
* `Receiver.proceed_spec`: what the receiving thread goes on with;
* `Threads.Takes`: what each step of the threads does;
* `Threads.step_cases`: a step executes an operation, or adds operations that begin a call.
-/

namespace Rtc.WebSocket

open WsTransport (Config)

variable {config : Config} {c : Shared} {failure : Option Exception} {operation x : Operation}

/-! ## Kinds of operations -/

namespace Operation

/-- The operations with which a call begins, and those of `incoming`. -/
def isEntry : Operation → Bool
  | .checkTransport _ => false
  | .send _ => false
  | .sendMessage _ => false
  | .changeToClosing => false
  | .stop => false
  | .closeTransports => false
  | .exchangeTransport => false
  | .resetRecv => false
  | .resetStateChange => false
  | .exchangeCloseSent => false
  | .sendClose => false
  | .stateChange _ => false
  | .testConnecting => false
  | .changeToOpen => false
  | _ => true

/-- The operations that deliver a message. -/
def isDelivery : Operation → Bool
  | .recv (some _) => true
  | _ => false

/-- The operations that lead to a state other than `Disconnected` and `Failed`. -/
def isOpening : Operation → Bool
  | .changeState state => state != .disconnected && state != .failed
  | .sendHttpResponse => true
  | _ => false

/-- The operations that change a shared member. -/
def isWrite : Operation → Bool
  | .changeToClosing => true
  | .closeTransports => true
  | .exchangeTransport => true
  | .resetRecv => true
  | .resetStateChange => true
  | .exchangeCloseSent => true
  | .changeState _ => true
  | .changeToOpen => true
  | _ => false

/-- The operations on the way from the change of the state to `onRecv(nullptr)`. -/
def isClosing : Operation → Bool
  | .stateChange state => state == .disconnected || state == .failed
  | .testClosed => true
  | .closeTransports => true
  | .exchangeTransport => true
  | .resetRecv => true
  | _ => false

end Operation

/-! ## Operations -/

@[simp]
theorem mem_remoteClose : x ∈ remoteClose ↔ x = .close ∨ x = .testClosed := by
  simp [remoteClose]

/-- An operation leads to another one, of the same thread or of one that is started. -/
inductive Leads (c : Shared) : Operation → Operation → Prop
  | checkTransport (message : Message) : Leads c (.outgoing message) (.checkTransport message)
  | send (message : Message) : Leads c (.checkTransport message) (.send message)
  | sendMessage (message : Message) : c.mState = .connected →
    Leads c (.send message) (.sendMessage message)
  | changeToClosing : Leads c .close .changeToClosing
  | stop : Leads c .changeToClosing .stop
  | stopTransport : Leads c .stop .wsClose
  | stopClose : Leads c .stop .close
  | stopTestClosed : Leads c .stop .testClosed
  | closeTransports : Leads c .testClosed .closeTransports
  | exchangeTransport : Leads c .closeTransports .exchangeTransport
  | resetRecv : Leads c .exchangeTransport .resetRecv
  | resetStateChange : Leads c .resetRecv .resetStateChange
  | teardown : Leads c .resetStateChange .wsClose
  | exchangeCloseSent : Leads c .wsClose .exchangeCloseSent
  | sendClose : c.mCloseSent = false → Leads c .exchangeCloseSent .sendClose
  | closeTimeout : Leads c .sendClose (.changeState .disconnected)
  | stateChange (state : Transport.State) : Leads c (.changeState state) (.stateChange state)
  | testConnecting : Leads c (.stateChange .connected) .testConnecting
  | lost (state : Transport.State) {x : Operation} : x ∈ remoteClose →
    Leads c (.stateChange state) x
  | changeToOpen : Leads c .testConnecting .changeToOpen
  | recvClose {x : Operation} : x ∈ remoteClose → Leads c (.recv none) x
  | changeToConnected : Leads c .sendHttpResponse (.changeState .connected)
  | httpError (code : ℕ) : Leads c (.sendHttpError code) .disconnect
  | disconnected : Leads c .disconnect (.changeState .disconnected)
  | recvNone : Leads c .disconnect (.recv none)
  | failed : Leads c .disconnect (.changeState .failed)

/-- What an operation observes. -/
inductive Observes (config : Config) (c : Shared) :
    Operation → Option Exception → Observation → Prop
  | message (message : Message) : Observes config c (.sendMessage message) none
      (.sent (Shared.messageFrame config message))
  | close : Observes config c .sendClose none
      (.sent { opcode := .close, mask := config.mIsClient })
  | ping : Observes config c .sendPing none
      (.sent { opcode := .ping, payload := [0, 0, 0, 0], mask := config.mIsClient })
  | pong (payload : List UInt8) : Observes config c (.sendPong payload) none
      (.sent { opcode := .pong, payload, mask := config.mIsClient })
  | delivered (message : Message) (failure : Option Exception) : c.mRecvCallback = true →
      Observes config c (.recv (some message)) failure (.delivered message)

/-- The operations that an outcome adds. -/
def Outcome.operations (outcome : Outcome) : List Operation :=
  outcome.next ++ outcome.started.flatten

namespace Shared

/-- Every operation that is added is one of those listed. -/
theorem leads_of_mem (h : x ∈ (c.exec config failure operation).operations) :
    Leads c operation x := by
  unfold Outcome.operations at h
  cases operation <;> simp only [exec] at h <;> grind [Leads, remoteClose]

/-- An operation observes at most one thing. -/
theorem trace_exec (config : Config) (c : Shared) (failure : Option Exception)
    (operation : Operation) :
    (c.exec config failure operation).shared.trace = c.trace ∨
      ∃ o, Observes config c operation failure o ∧
        (c.exec config failure operation).shared.trace = c.trace ++ [o] := by
  have hsend : ∀ frame, Observes config c operation none (.sent frame) →
      (c.sendFrame frame failure).trace = c.trace ∨
        ∃ o, Observes config c operation failure o ∧
          (c.sendFrame frame failure).trace = c.trace ++ [o] := by
    intro frame hobserves
    cases failure with
    | none => exact Or.inr ⟨_, hobserves, rfl⟩
    | some e => exact Or.inl rfl
  cases operation with
  | sendMessage message => exact hsend _ (.message message)
  | sendClose =>
    have hclose := hsend _ .close
    cases failure with
    | none => exact hclose
    | some e => exact hclose
  | sendPing => exact hsend _ .ping
  | sendPong payload => exact hsend _ (.pong payload)
  -- delivered only where a callback is set
  | recv message =>
    simp only [exec]
    split_ifs with hcallback
    · exact Or.inl rfl
    · cases message with
      | none => exact Or.inl rfl
      | some message =>
        exact Or.inr ⟨_, .delivered message failure (Bool.eq_true_of_not_eq_false hcallback), rfl⟩
  -- the rest is not observed
  | stateChange state =>
    left
    cases state <;> simp only [exec, apply_ite Outcome.shared, ite_self]
  | _ =>
    left
    simp only [exec, apply_ite Outcome.shared, apply_ite Shared.trace, ite_self]

/-- The other operations change no member. -/
theorem exec_of_not_isWrite (config : Config) (c : Shared) (failure : Option Exception)
    {operation : Operation} (h : operation.isWrite = false) :
    (c.exec config failure operation).shared =
      { c with trace := (c.exec config failure operation).shared.trace } := by
  have hsend : ∀ frame,
      c.sendFrame frame failure = { c with trace := (c.sendFrame frame failure).trace } := by
    intro frame
    unfold sendFrame
    split_ifs <;> rfl
  cases operation with
  | sendMessage message => exact hsend _
  | sendClose =>
    cases failure with
    | none => rfl
    | some e => rfl
  | sendPing => exact hsend _
  | sendPong payload => exact hsend _
  -- callbacks are called, and nothing is stored
  | recv message =>
    cases message <;> simp only [exec] <;> split_ifs <;> rfl
  | stateChange state =>
    cases state <;> simp only [exec, apply_ite Outcome.shared, ite_self]
  | changeToClosing => cases h
  | closeTransports => cases h
  | exchangeTransport => cases h
  | resetRecv => cases h
  | resetStateChange => cases h
  | exchangeCloseSent => cases h
  | changeState state => cases h
  | changeToOpen => cases h
  | _ => simp only [exec, apply_ite Outcome.shared, ite_self]

/-- The state of the transport changes in `changeState` only. -/
theorem mState_exec (config : Config) (c : Shared) (failure : Option Exception)
    (operation : Operation) :
    (c.exec config failure operation).shared.mState = c.mState ∨
      ∃ state, operation = .changeState state ∧
        (c.exec config failure operation).shared.mState = state := by
  cases operation with
  | changeState state =>
    right
    refine ⟨state, rfl, ?_⟩
    simp only [exec]
    split_ifs with heq
    · exact heq
    · rfl
  | closeTransports =>
    left
    simp only [exec, apply_ite Outcome.shared, apply_ite Shared.mState, ite_self]
  | exchangeTransport =>
    left
    simp only [exec, apply_ite Outcome.shared, apply_ite Shared.mState, ite_self]
  | exchangeCloseSent =>
    left
    simp only [exec, apply_ite Outcome.shared, apply_ite Shared.mState, ite_self]
  | changeToClosing => exact Or.inl rfl
  | resetRecv => exact Or.inl rfl
  | resetStateChange => exact Or.inl rfl
  | changeToOpen => exact Or.inl rfl
  | _ =>
    left
    rw [exec_of_not_isWrite config c failure rfl]

end Shared

/-! ## The receiving thread -/

/-- The receiving thread is in the loop over the frames. -/
def Phase.isLoop : Phase → Bool
  | .looping => true
  | .handled _ => true
  | _ => false

namespace Operation

theorem isEntry_of_isDelivery (h : operation.isDelivery = true) : operation.isEntry = true := by
  cases operation with
  | recv message => rfl
  | _ => cases h

theorem isOpening_of_isDelivery (h : operation.isDelivery = true) :
    operation.isOpening = false := by
  cases operation with
  | recv message => rfl
  | _ => cases h

end Operation

namespace Receiver

variable {r r' : Receiver} {c' : Shared}

@[simp]
theorem phase_perform (r : Receiver) (operations : List Operation) :
    (r.perform operations).phase = r.phase := rfl

@[simp]
theorem operations_perform (r : Receiver) (operations : List Operation) :
    (r.perform operations).operations = operations := rfl

@[simp]
theorem phase_recvFrame (config : Config) (r : Receiver) (frame : WsTransport.Frame) :
    (r.recvFrame config frame).phase = r.phase := by
  unfold recvFrame
  split_ifs <;> rfl

theorem isDelivery_flushPartial (r : Receiver) :
    ∀ x ∈ r.flushPartial, x.isDelivery = true := by
  intro x hx
  unfold flushPartial at hx
  split_ifs at hx
  · obtain rfl := List.mem_singleton.1 hx
    rfl
  · cases hx

/-- `recvFrame` delivers messages, or does something else. -/
theorem recvFrame_operations (config : Config) (h : r.operations = []) (frame : WsTransport.Frame) :
    (frame.opcode ≠ .close ∧ ∀ x ∈ (r.recvFrame config frame).operations, x.isDelivery = true) ∨
      (frame.opcode = .close → .changeState .disconnected ∈ (r.recvFrame config frame).operations) ∧
        ∀ x ∈ (r.recvFrame config frame).operations,
          x.isEntry = true ∧ x.isDelivery = false ∧ x.isOpening = false := by
  have hne : ∀ {opcode : WsTransport.Opcode}, frame.opcode = opcode → opcode ≠ .close →
      frame.opcode ≠ .close := by
    intro opcode heq hclose
    rwa [heq]
  unfold recvFrame
  split_ifs with htext hfin hcontinuation hfin hping hpong hclose
  · -- a message in one frame, behind what was left of the one before
    refine Or.inl ⟨?_, ?_⟩
    · rcases htext with htext | hbinary
      · exact hne htext (by decide)
      · exact hne hbinary (by decide)
    · intro x hx
      rcases List.mem_append.1 hx with hflush | hlast
      · exact isDelivery_flushPartial r x hflush
      · obtain rfl := List.mem_singleton.1 hlast
        rfl
  · -- the first frame of a message
    refine Or.inl ⟨?_, isDelivery_flushPartial r⟩
    rcases htext with htext | hbinary
    · exact hne htext (by decide)
    · exact hne hbinary (by decide)
  · refine Or.inl ⟨hne hcontinuation (by decide), fun x hx => ?_⟩
    obtain rfl := List.mem_singleton.1 hx
    rfl
  · refine Or.inl ⟨hne hcontinuation (by decide), fun x hx => ?_⟩
    change x ∈ r.operations at hx
    rw [h] at hx
    cases hx
  · refine Or.inr ⟨fun hclose => absurd hclose (hne hping (by decide)), fun x hx => ?_⟩
    obtain rfl := List.mem_singleton.1 hx
    exact ⟨rfl, rfl, rfl⟩
  · refine Or.inl ⟨hne hpong (by decide), fun x hx => ?_⟩
    change x ∈ r.operations at hx
    rw [h] at hx
    cases hx
  · -- a CLOSE frame is answered, and the transport disconnected
    refine Or.inr ⟨fun _ => List.mem_cons_of_mem _ List.mem_cons_self, fun x hx => ?_⟩
    have hcases : x = .wsClose ∨ x = .changeState .disconnected := by simpa using hx
    rcases hcases with rfl | rfl
    · exact ⟨rfl, rfl, rfl⟩
    · exact ⟨rfl, rfl, rfl⟩
  · -- an opcode that is not known closes the transport
    refine Or.inr ⟨fun hclose' => absurd hclose' hclose, fun x hx => ?_⟩
    obtain rfl := List.mem_singleton.1 hx
    exact ⟨rfl, rfl, rfl⟩

/-- What the receiving thread goes on with. -/
structure Proceeds (c : Shared) (r : Receiver) (c' : Shared) (r' : Receiver) : Prop where
  entry : ∀ x ∈ r'.operations, x.isEntry = true
  delivery : (∀ x ∈ r'.operations, x.isDelivery = true) ∨
    ∀ x ∈ r'.operations, x.isDelivery = false
  opening : ∀ x ∈ r'.operations, x.isOpening = true → c.mState = .connecting
  looping : ∀ x ∈ r'.operations, x.isDelivery = true → r.phase = .looping
  loop : r'.phase.isLoop = true → r.phase.isLoop = true ∨ c.mState = .connected
  shared : c' = c ∨ c' = c.observe .receivedClose ∧ r.phase.isLoop = true ∧
    .changeState .disconnected ∈ r'.operations

/-- The receiving thread goes on without an operation. -/
theorem Proceeds.of_nil (h : r'.operations = [])
    (hloop : r'.phase.isLoop = true → r.phase.isLoop = true ∨ c.mState = .connected) :
    Proceeds c r c r' where
  entry := by simp [h]
  delivery := by simp [h]
  opening := by simp [h]
  looping := by simp [h]
  loop := hloop
  shared := Or.inl rfl

/-- The receiving thread goes on with one operation, which delivers nothing. -/
theorem Proceeds.of_singleton (h : r'.operations = [operation]) (hentry : operation.isEntry = true)
    (hdelivery : operation.isDelivery = false)
    (hopening : operation.isOpening = true → c.mState = .connecting)
    (hloop : r'.phase.isLoop = false) : Proceeds c r c r' where
  entry := by simpa [h] using hentry
  delivery := Or.inr (by simpa [h] using hdelivery)
  opening := by simpa [h] using hopening
  looping := by simp [h, hdelivery]
  loop := by simp [hloop]
  shared := Or.inl rfl

theorem proceeds_fail (e : WsHandshake.Error) : Proceeds c r c (r'.fail e) := by
  cases e with
  | requestError what responseCode => exact .of_singleton rfl rfl rfl nofun rfl
  | invalidArgument what => exact .of_singleton rfl rfl rfl nofun rfl
  | runtimeError what => exact .of_singleton rfl rfl rfl nofun rfl
  | error what => exact .of_singleton rfl rfl rfl nofun rfl

theorem proceeds_acceptHandshake (hops : r.operations = []) (hstate : c.mState = .connecting) :
    Proceeds c r c (r.acceptHandshake config) := by
  unfold acceptHandshake
  split
  · split
    · exact proceeds_fail _
    · split_ifs
      · exact .of_nil hops nofun
      · exact .of_singleton rfl rfl rfl (fun _ => hstate) rfl
  · split
    · exact proceeds_fail _
    · split_ifs
      · exact .of_nil hops nofun
      · exact .of_singleton rfl rfl rfl (fun _ => hstate) rfl

theorem proceeds_receive (hops : r.operations = []) (hstate : c.mState = .connected) :
    Proceeds c r c r.receive := by
  unfold receive
  split_ifs
  · exact .of_singleton rfl rfl rfl nofun rfl
  · exact .of_nil hops fun _ => Or.inr hstate

theorem proceeds_nextFrame (hops : r.operations = []) (hphase : r.phase = .looping) :
    Proceeds c r (nextFrame config c r).1 (nextFrame config c r).2 := by
  have hloop : r.phase.isLoop = true := by
    rw [hphase]
    rfl
  unfold nextFrame
  dsimp only
  split
  · exact .of_nil hops nofun
  · next frame _ =>
    split_ifs
    · exact .of_nil hops nofun
    have hcases := recvFrame_operations config (r := { r with
      mBuffer := (WsTransport.parseFrame config.mMaxMessageSize r.mBuffer).buffer
      phase := .handled (WsTransport.parseFrame config.mMaxMessageSize r.mBuffer).size })
      hops frame
    rcases hcases with ⟨hopcode, hdelivery⟩ | ⟨hclose, hother⟩
    · refine ⟨fun x hx => Operation.isEntry_of_isDelivery (hdelivery x hx), Or.inl hdelivery,
        fun x hx hopening => ?_, fun _ _ _ => hphase, fun _ => Or.inl hloop, Or.inl ?_⟩
      · rw [Operation.isOpening_of_isDelivery (hdelivery x hx)] at hopening
        cases hopening
      · rw [observeFrame, if_neg hopcode]
    · refine ⟨fun x hx => (hother x hx).1, Or.inr fun x hx => (hother x hx).2.1,
        fun x hx hopening => ?_, fun _ _ _ => hphase, fun _ => Or.inl hloop, ?_⟩
      · rw [(hother x hx).2.2] at hopening
        cases hopening
      · unfold observeFrame
        split_ifs with hopcode
        · exact Or.inr ⟨rfl, hloop, hclose hopcode⟩
        · exact Or.inl rfl

/-- What `proceed` does in each phase. -/
theorem proceed_spec (hops : r.operations = []) (h : r.proceed config c = some (c', r')) :
    Proceeds c r c' r' := by
  unfold proceed at h
  -- one case for each place where the receiver stands
  split at h
  · cases h
  · split_ifs at h with hstate
    · obtain ⟨rfl, rfl⟩ := Prod.mk.inj (Option.some.inj h)
      exact .of_nil hops nofun
    · obtain ⟨rfl, rfl⟩ := Prod.mk.inj (Option.some.inj h)
      exact proceeds_acceptHandshake hops (not_not.1 hstate)
  · obtain ⟨rfl, rfl⟩ := Prod.mk.inj (Option.some.inj h)
    exact .of_nil hops nofun
  · split_ifs at h with hstate
    · obtain ⟨rfl, rfl⟩ := Prod.mk.inj (Option.some.inj h)
      exact .of_nil hops nofun
    · obtain ⟨rfl, rfl⟩ := Prod.mk.inj (Option.some.inj h)
      exact proceeds_receive hops (not_not.1 hstate)
  · obtain ⟨rfl, rfl⟩ := Prod.mk.inj (Option.some.inj h)
    unfold addOutstandingPing
    dsimp only
    split_ifs
    · exact .of_singleton rfl rfl rfl nofun rfl
    · exact .of_nil hops nofun
  · next hphase =>
    obtain ⟨rfl, rfl⟩ := Prod.mk.inj (Option.some.inj h)
    exact proceeds_nextFrame hops hphase
  · next len hphase =>
    obtain ⟨rfl, rfl⟩ := Prod.mk.inj (Option.some.inj h)
    have hloop : r.phase.isLoop = true := by rw [hphase]; rfl
    unfold eraseFrame
    split_ifs
    · exact .of_nil hops nofun
    · exact .of_nil hops fun _ => Or.inl hloop

end Receiver

/-! ## Steps -/

namespace Threads

open Interleaving

variable {s s' : Threads} {e : Step}

/-- What a step does. -/
inductive Takes (config : Config) (s : Threads) : Step → Threads → Prop
  | call (call : Call) :
    Takes config s (.call call) { s with threads := s.threads ++ [call.operations] }
  | thread {i : ℕ} {failure : Option Exception} {operation : Operation} {rest : List Operation} :
    s.threads[i]? = some (operation :: rest) →
    Takes config s (.thread i failure)
      { s with
        shared := (s.shared.exec config failure operation).shared
        threads := Interleaving.resume s.threads i
          ((s.shared.exec config failure operation).next ++ rest)
          (s.shared.exec config failure operation).started }
  | incoming (message : Option (List UInt8)) : s.receiver.phase = .idle →
    s.receiver.operations = [] → Takes config s (.incoming message) (s.incoming message)
  | receiver {failure : Option Exception} {operation : Operation} {rest : List Operation}
    {receiver : Receiver} : s.receiver.operations = operation :: rest →
    (receiver.operations = (s.shared.exec config failure operation).next ++ rest ∧
          receiver.phase = s.receiver.phase ∨
        (∃ e, (s.shared.exec config failure operation).threw = some e) ∧
          receiver.operations = .disconnect :: rest ∧ receiver.phase = .idle) →
    Takes config s (.receiver failure)
      { shared := (s.shared.exec config failure operation).shared
        receiver
        threads := s.threads ++ (s.shared.exec config failure operation).started }
  | proceed {shared : Shared} {receiver : Receiver} : s.receiver.operations = [] →
    s.receiver.proceed config s.shared = some (shared, receiver) →
    Takes config s .proceed { s with shared, receiver }

/-- A step executes an operation, after which the receiving thread may leave `incoming` with an
exception. -/
structure Runs (config : Config) (s : Threads) (operation : Operation)
    (failure : Option Exception) (s' : Threads) : Prop where
  shared : s'.shared = (s.shared.exec config failure operation).shared
  pending : ∃ mid caught, Executes operation (s.shared.exec config failure operation).operations
      s.pending mid ∧ s'.pending = caught ++ mid ∧ ∀ x ∈ caught, x = .disconnect

/-- A step adds operations that begin a call, or go on with `incoming`. -/
structure Adds (s s' : Threads) : Prop where
  shared : s'.shared = s.shared ∨ s'.shared = s.shared.observe .receivedClose
  pending : ∃ new, s'.pending.Perm (new ++ s.pending) ∧ ∀ x ∈ new, x.isEntry = true

/-- What leaves a call with an exception leads to no other operation. -/
theorem operations_of_threw {e : Exception}
    (h : (c.exec config failure operation).threw = some e) :
    (c.exec config failure operation).operations = [] := by
  cases operation with
  | outgoing message =>
    simp only [Shared.exec] at h ⊢
    split_ifs at h ⊢
    rfl
  | checkTransport message =>
    simp only [Shared.exec] at h ⊢
    split_ifs at h ⊢
    · rfl
    · rfl
  | send message =>
    simp only [Shared.exec] at h ⊢
    split_ifs at h ⊢
    rfl
  | sendMessage message => rfl
  | sendPing => rfl
  | sendPong payload => rfl
  | sendHttpResponse =>
    simp only [Shared.exec] at h ⊢
    split_ifs at h ⊢
    rfl
  | stateChange state =>
    cases state <;> simp [Shared.exec, apply_ite Outcome.threw] at h
  | recv message =>
    cases message <;> simp [Shared.exec, apply_ite Outcome.threw] at h
  | _ => simp [Shared.exec, apply_ite Outcome.threw] at h

/-- A call begins with an operation that neither delivers nor opens. -/
theorem callOperations_spec (call : Call) :
    ∀ x ∈ call.operations, x.isEntry = true ∧ x.isDelivery = false ∧ x.isOpening = false := by
  intro x hx
  cases call with
  | send message =>
    obtain rfl := List.mem_singleton.1 hx
    exact ⟨rfl, rfl, rfl⟩
  | close =>
    obtain rfl := List.mem_singleton.1 hx
    exact ⟨rfl, rfl, rfl⟩
  | remoteClose =>
    have hcases : x = .close ∨ x = .testClosed := by simpa [Call.operations, remoteClose] using hx
    rcases hcases with rfl | rfl
    · exact ⟨rfl, rfl, rfl⟩
    · exact ⟨rfl, rfl, rfl⟩

theorem Takes.of_step (h : s.step config e = some s') : Takes config s e s' := by
  cases e with
  | call call =>
    obtain rfl := Option.some.inj h
    exact .call call
  | thread i failure =>
    change s.threadStep config i failure = some s' at h
    unfold threadStep at h
    split at h
    · next operation rest hthread =>
      obtain rfl := Option.some.inj h
      exact .thread hthread
    · cases h
  | incoming message =>
    obtain ⟨⟨hidle, hops⟩, hincoming⟩ := Option.ite_none_right_eq_some.1 h
    obtain rfl := Option.some.inj hincoming
    exact .incoming message hidle hops
  | receiver failure =>
    change s.receiverStep config failure = some s' at h
    -- an exception ends `incoming`, and the connection with it
    unfold receiverStep at h
    split at h
    · cases h
    · next operation rest hops =>
      obtain rfl := Option.some.inj h
      refine .receiver hops ?_
      split
      · exact Or.inl ⟨rfl, rfl⟩
      · next exception hthrew => exact Or.inr ⟨⟨exception, hthrew⟩, rfl, rfl⟩
  | proceed =>
    obtain ⟨hops, hmap⟩ := Option.ite_none_right_eq_some.1 h
    obtain ⟨⟨c', r'⟩, hproceed, rfl⟩ := Option.map_eq_some_iff.1 hmap
    exact .proceed hops hproceed

/-- A step executes an operation, or adds some. -/
theorem step_cases (h : s.step config e = some s') :
    (∃ operation failure, s.executed e = some (operation, failure) ∧
      s.Runs config operation failure s') ∨ s.Adds s' := by
  cases Takes.of_step h with
  | call call =>
    refine Or.inr ⟨Or.inl rfl, call.operations, ?_, fun x hx => (callOperations_spec call x hx).1⟩
    simp only [pending, List.flatten_append, List.flatten_cons, List.flatten_nil, List.append_nil]
    rw [← List.append_assoc]
    exact List.perm_append_comm
  | @thread i failure operation rest hthread =>
    refine Or.inl ⟨operation, failure, by simp [executed, hthread], rfl, ?_⟩
    have hexecutes := Executes.resume hthread (s.shared.exec config failure operation).next
      (s.shared.exec config failure operation).started
    exact ⟨_, [], hexecutes.append_left s.receiver.operations, (List.nil_append _).symm,
      List.forall_mem_nil _⟩
  | incoming message hidle hops =>
    right
    unfold incoming
    split_ifs
    · exact ⟨Or.inl rfl, [], .rfl, List.forall_mem_nil _⟩
    · cases message with
      | none =>
        refine ⟨Or.inl rfl, [.disconnect], ?_, by simp [Operation.isEntry]⟩
        simp [pending, hops]
      | some message => exact ⟨Or.inl rfl, [], .rfl, List.forall_mem_nil _⟩
  | @receiver failure operation rest receiver hops hreceiver =>
    refine Or.inl ⟨operation, failure, by simp [executed, hops], rfl, ?_⟩
    have hhead : Executes operation ((s.shared.exec config failure operation).next ++
        (s.shared.exec config failure operation).started.flatten) s.pending
        ((s.shared.exec config failure operation).next ++ rest ++ s.threads.flatten ++
          (s.shared.exec config failure operation).started.flatten) := by
      rw [pending, hops]
      exact ((Executes.head _ rest).append_right s.threads.flatten).started _
    rcases hreceiver with ⟨hoperations, -⟩ | ⟨⟨e, hthrew⟩, hoperations, -⟩
    · refine ⟨_, [], hhead, ?_, List.forall_mem_nil _⟩
      simp only [pending, hoperations, List.flatten_append, List.nil_append, List.append_assoc]
    · -- what throws leads to nothing, and the handler disconnects
      obtain ⟨hnext, hstarted⟩ := List.append_eq_nil_iff.1 (operations_of_threw hthrew)
      refine ⟨_, [.disconnect], hhead, ?_, by simp⟩
      simp [pending, hoperations, hnext, hstarted]
  | proceed hops hproceed =>
    have hspec := Receiver.proceed_spec hops hproceed
    refine Or.inr ⟨hspec.shared.imp id And.left, _, ?_, hspec.entry⟩
    simp [pending, hops]

end Threads

end Rtc.WebSocket
