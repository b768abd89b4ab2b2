import QuicRtc.WebSocket.Steps

/-!
# Frames behind a CLOSE frame

`mCloseSent` is exchanged before the CLOSE frame is sent, so that there is at most one. `send` tests
the state of the transport only: the CLOSE frame that answers an unknown opcode leaves it
`Connected`, and the frame of a `send` that has tested the state may follow one.

* `CloseOnce`: the invariant for the CLOSE frames, in every run.
* `Silenced`: the invariant for what follows one, in the runs whose steps are `SendsInOrder`.
-/

namespace Rtc.WebSocket

open Interleaving
open WsTransport (Config Opcode)

variable {config : Config} {c : Shared} {failure : Option Exception} {operation : Operation}
  {pending pending' : List Operation} {observation : Observation}

/-- A CLOSE frame is sent. -/
def Observation.isSentClose : Observation → Bool
  | .sent frame => frame.opcode = .close
  | _ => false

/-- A TEXT or BINARY frame is sent. -/
def Observation.isSentMessage : Observation → Bool
  | .sent frame => frame.opcode = .textFrame || frame.opcode = .binaryFrame
  | _ => false

/-- `sendFrame` is about to be called with a TEXT or BINARY frame. -/
def Operation.isSendMessage : Operation → Bool
  | .sendMessage _ => true
  | _ => false

@[simp]
theorem Observation.isSentClose_sent (frame : WsTransport.Frame) :
    (Observation.sent frame).isSentClose = true ↔ frame.opcode = .close := by
  simp [isSentClose]

@[simp]
theorem Observation.isSentMessage_sent (frame : WsTransport.Frame) :
    (Observation.sent frame).isSentMessage = true ↔
      frame.opcode = .textFrame ∨ frame.opcode = .binaryFrame := by
  simp [isSentMessage]

/-- No TEXT or BINARY frame is sent behind a CLOSE frame. -/
def SilentAfterClose (trace : List Observation) : Prop :=
  trace.Pairwise fun o o' => o.isSentClose = true → o'.isSentMessage = false

/-- A `send` does not find the state `Connected` behind a CLOSE frame, and no CLOSE frame is sent
while another `send` is behind its test of the state. -/
def SendsInOrder (s : Threads) (e : Step) : Bool :=
  match s.executed e with
  | some (.send _, _) =>
    !(s.shared.mState = .connected && s.shared.trace.any Observation.isSentClose)
  | some (.sendClose, none) => !s.pending.any Operation.isSendMessage
  | _ => true

namespace Observes

theorem isSentClose (h : Observes config c operation failure observation)
    (hclose : observation.isSentClose = true) : operation = .sendClose ∧ failure = none := by
  cases h with
  | close => exact ⟨rfl, rfl⟩
  | message message =>
    have hopcode : (if message.type = .string then Opcode.textFrame else .binaryFrame) = .close :=
      (Observation.isSentClose_sent _).1 hclose
    split_ifs at hopcode
    · exact absurd hopcode (by decide)
    · exact absurd hopcode (by decide)
  | ping =>
    have hopcode : Opcode.ping = .close := (Observation.isSentClose_sent _).1 hclose
    exact absurd hopcode (by decide)
  | pong payload =>
    have hopcode : Opcode.pong = .close := (Observation.isSentClose_sent _).1 hclose
    exact absurd hopcode (by decide)
  | delivered message failure hcallback => cases hclose

theorem isSentMessage (h : Observes config c operation failure observation)
    (hmessage : observation.isSentMessage = true) : operation.isSendMessage = true := by
  cases h with
  | message message => rfl
  | close =>
    have hopcode : Opcode.close = .textFrame ∨ Opcode.close = .binaryFrame :=
      (Observation.isSentMessage_sent _).1 hmessage
    exact absurd hopcode (by decide)
  | ping =>
    have hopcode : Opcode.ping = .textFrame ∨ Opcode.ping = .binaryFrame :=
      (Observation.isSentMessage_sent _).1 hmessage
    exact absurd hopcode (by decide)
  | pong payload =>
    have hopcode : Opcode.pong = .textFrame ∨ Opcode.pong = .binaryFrame :=
      (Observation.isSentMessage_sent _).1 hmessage
    exact absurd hopcode (by decide)
  | delivered message failure hcallback => cases hmessage

end Observes

/-! ## One CLOSE frame -/

/-- The CLOSE frames sent, and those that are about to be sent. -/
def CloseOnce (c : Shared) (pending : List Operation) : Prop :=
  c.trace.countP Observation.isSentClose + pending.countP (· == .sendClose) ≤ c.mCloseSent.toNat

namespace CloseOnce

/-- `sendClose` is reached through the exchange of `mCloseSent` only. -/
theorem countP_operations (config : Config) (c : Shared) (failure : Option Exception)
    (operation : Operation) :
    c.mCloseSent.toNat + (c.exec config failure operation).operations.countP (· == .sendClose) ≤
      (c.exec config failure operation).shared.mCloseSent.toNat := by
  by_cases hexchange : operation = .exchangeCloseSent
  · subst hexchange
    cases hclose : c.mCloseSent <;> simp [Shared.exec, Outcome.operations, hclose]
  · have hnone : (c.exec config failure operation).operations.countP (· == .sendClose) = 0 := by
      rw [List.countP_eq_zero]
      intro x hx heq
      obtain rfl := eq_of_beq heq
      cases Shared.leads_of_mem hx with
      | sendClose => exact hexchange rfl
      | lost state hmem => simp at hmem
      | recvClose hmem => simp at hmem
    have hsame : (c.exec config failure operation).shared.mCloseSent = c.mCloseSent := by
      cases operation with
      | exchangeCloseSent => exact absurd rfl hexchange
      | closeTransports => simp [Shared.exec, apply_ite Outcome.shared, apply_ite Shared.mCloseSent]
      | exchangeTransport =>
        simp [Shared.exec, apply_ite Outcome.shared, apply_ite Shared.mCloseSent]
      | changeState state =>
        simp [Shared.exec, apply_ite Outcome.shared, apply_ite Shared.mCloseSent]
      | changeToClosing => rfl
      | resetRecv => rfl
      | resetStateChange => rfl
      | changeToOpen => rfl
      | _ => rw [Shared.exec_of_not_isWrite config c failure rfl]
    rw [hnone, hsame, Nat.add_zero]

theorem start (mHandshake : WsHandshake) (mPartialOpcode : Opcode) :
    CloseOnce (Threads.start mHandshake mPartialOpcode).shared
      (Threads.start mHandshake mPartialOpcode).pending := Nat.le_refl 0

theorem exec (h : CloseOnce c pending)
    (hexecutes : Executes operation (c.exec config failure operation).operations pending pending') :
    CloseOnce (c.exec config failure operation).shared pending' := by
  unfold CloseOnce at h ⊢
  have hflag := countP_operations config c failure operation
  have hcount := hexecutes.countP (· == .sendClose)
  rcases Shared.trace_exec config c failure operation with htrace | ⟨o, hobserves, htrace⟩
  · rw [htrace]
    omega
  · rw [htrace, List.countP_append]
    cases hclose : o.isSentClose with
    | false =>
      have hzero : [o].countP Observation.isSentClose = 0 := by simp [hclose]
      omega
    | true =>
      obtain ⟨rfl, -⟩ := hobserves.isSentClose hclose
      have hone : [o].countP Observation.isSentClose = 1 := by simp [hclose]
      have hop : [Operation.sendClose].countP (· == .sendClose) = 1 := rfl
      omega

theorem add (h : CloseOnce c pending) {new : List Operation}
    (hpending : pending'.Perm (new ++ pending)) (hnew : ∀ x ∈ new, x.isEntry = true) :
    CloseOnce c pending' := by
  have hzero : new.countP (· == .sendClose) = 0 := by
    rw [List.countP_eq_zero]
    intro x hx heq
    obtain rfl := eq_of_beq heq
    exact absurd (hnew _ hx) (by decide)
  unfold CloseOnce at h ⊢
  rw [hpending.countP_eq, List.countP_append]
  omega

theorem step {s s' : Threads} {e : Step} (h : CloseOnce s.shared s.pending)
    (hstep : s.step config e = some s') : CloseOnce s'.shared s'.pending := by
  rcases Threads.step_cases hstep with ⟨operation, failure, -, hruns⟩ | hadds
  · obtain ⟨mid, caught, hexecutes, hpending, hcaught⟩ := hruns.pending
    rw [hruns.shared]
    refine (h.exec hexecutes).add (.of_eq hpending) fun x hx => ?_
    rw [hcaught x hx]
    rfl
  · obtain ⟨new, hpending, hnew⟩ := hadds.pending
    have hadd := h.add hpending hnew
    rcases hadds.shared with hshared | hshared
    · rwa [hshared]
    · rw [hshared]
      unfold CloseOnce Shared.observe
      rw [List.countP_append]
      exact hadd

end CloseOnce

/-! ## Silence behind the CLOSE frame -/

/-- Behind a CLOSE frame nothing is sent, and nothing is about to be sent. -/
structure Silenced (c : Shared) (pending : List Operation) : Prop where
  trace : SilentAfterClose c.trace
  pending : ∀ o ∈ c.trace, o.isSentClose = true → ∀ x ∈ pending, x.isSendMessage = false

/-- A trace with one more observation. -/
theorem SilentAfterClose.append {trace : List Observation} (h : SilentAfterClose trace)
    (ho : ∀ o ∈ trace, o.isSentClose = true → observation.isSentMessage = false) :
    SilentAfterClose (trace ++ [observation]) := by
  refine List.pairwise_append.2 ⟨h, List.pairwise_singleton _ _, ?_⟩
  intro o hmem o' hmem'
  obtain rfl := List.mem_singleton.1 hmem'
  exact ho o hmem

namespace Silenced

theorem start (mHandshake : WsHandshake) (mPartialOpcode : Opcode) :
    Silenced (Threads.start mHandshake mPartialOpcode).shared
      (Threads.start mHandshake mPartialOpcode).pending :=
  ⟨List.Pairwise.nil, by simp [Threads.start]⟩

theorem add (h : Silenced c pending) {new : List Operation}
    (hpending : pending'.Perm (new ++ pending)) (hnew : ∀ x ∈ new, x.isEntry = true) :
    Silenced c pending' := by
  refine ⟨h.trace, fun o ho hclose x hx => ?_⟩
  rcases List.mem_append.1 (hpending.mem_iff.1 hx) with hmem | hmem
  · have hentry := hnew x hmem
    cases x with
    | sendMessage message => cases hentry
    | _ => rfl
  · exact h.pending o ho hclose x hmem

theorem exec (h : Silenced c pending)
    (hsend : ∀ message, operation = .send message → c.mState = .connected →
      ∀ o ∈ c.trace, o.isSentClose = false)
    (hclose : operation = .sendClose → failure = none →
      ∀ x ∈ pending, x.isSendMessage = false)
    (hexecutes : Executes operation (c.exec config failure operation).operations pending pending') :
    Silenced (c.exec config failure operation).shared pending' := by
  -- what is about to be sent afterwards
  have hmem : ∀ x ∈ pending', x.isSendMessage = true →
      x ∈ pending ∨ ∃ message, operation = .send message ∧ c.mState = .connected := by
    intro x hx hmessage
    rcases hexecutes.mem_cases hx with hnew | hold
    · cases Shared.leads_of_mem hnew with
      | sendMessage message hstate => exact Or.inr ⟨message, rfl, hstate⟩
      | lost state hlost =>
        rcases mem_remoteClose.1 hlost with rfl | rfl <;> cases hmessage
      | recvClose hlost =>
        rcases mem_remoteClose.1 hlost with rfl | rfl <;> cases hmessage
      | _ => cases hmessage
    · exact Or.inl hold
  have hquiet : ∀ o ∈ c.trace, o.isSentClose = true → ∀ x ∈ pending', x.isSendMessage = false := by
    intro o ho hoclose x hx
    by_contra hmessage
    rcases hmem x hx (Bool.eq_true_of_not_eq_false hmessage) with hold | ⟨message, hop, hstate⟩
    · exact hmessage (h.pending o ho hoclose x hold)
    · rw [hsend message hop hstate o ho] at hoclose
      cases hoclose
  rcases Shared.trace_exec config c failure operation with htrace | ⟨o, hobserves, htrace⟩
  · refine ⟨by rw [htrace]; exact h.trace, ?_⟩
    rw [htrace]
    exact hquiet
  · constructor
    · rw [htrace]
      refine h.trace.append fun o' ho' hclose' => ?_
      by_contra hmessage
      have hop := hobserves.isSentMessage (Bool.eq_true_of_not_eq_false hmessage)
      rw [h.pending o' ho' hclose' operation hexecutes.op_mem] at hop
      cases hop
    · rw [htrace]
      intro o' ho' hclose' x hx
      rcases List.mem_append.1 ho' with hold | hlast
      · exact hquiet o' hold hclose' x hx
      · obtain rfl := List.mem_singleton.1 hlast
        obtain ⟨rfl, rfl⟩ := hobserves.isSentClose hclose'
        by_contra hmessage
        rcases hmem x hx (Bool.eq_true_of_not_eq_false hmessage) with hold | ⟨message, hop, -⟩
        · exact hmessage (hclose rfl rfl x hold)
        · cases hop

theorem step {s s' : Threads} {e : Step} (h : Silenced s.shared s.pending)
    (hok : SendsInOrder s e = true) (hstep : s.step config e = some s') :
    Silenced s'.shared s'.pending := by
  rcases Threads.step_cases hstep with ⟨operation, failure, hexecuted, hruns⟩ | hadds
  · obtain ⟨mid, caught, hexecutes, hpending, hcaught⟩ := hruns.pending
    rw [hruns.shared]
    refine (h.exec ?_ ?_ hexecutes).add (.of_eq hpending) fun x hx => ?_
    · rintro message rfl hstate
      simpa [SendsInOrder, hexecuted, hstate] using hok
    · rintro rfl rfl
      simpa [SendsInOrder, hexecuted] using hok
    · rw [hcaught x hx]
      rfl
  · obtain ⟨new, hpending, hnew⟩ := hadds.pending
    have hadd := h.add hpending hnew
    rcases hadds.shared with hshared | hshared
    · rwa [hshared]
    · rw [hshared]
      refine ⟨hadd.trace.append fun _ _ _ => rfl, fun o ho hclose => ?_⟩
      rcases List.mem_append.1 ho with hold | hlast
      · exact hadd.pending o hold hclose
      · obtain rfl := List.mem_singleton.1 hlast
        cases hclose

end Silenced

end Rtc.WebSocket
