import QuicRtc.Message

/-!
# The media interceptor

`MediaInterceptor::incoming` of `capi.cpp`: the callback of the user sees every message of a list
and decides what becomes of it.

A `message_ptr` is an optional message; moving from it leaves the null pointer, and to dereference
that is undefined. The callback of the user is a function with a state of its own.

* `intended`: the messages that the callback forwards, and those that replace one.
* `intercept_result`: the list that `incoming` builds holds them, in order.
* `incoming_eq_intended_iff`: the list that `incoming` leaves behind is another one.
-/

namespace Rtc

namespace MediaInterceptor

variable {σ : Type}

/-- `message_ptr`. -/
abbrev MessagePtr := Option Message

/-- What the callback returns: the null pointer, the pointer `msg->data()` it was called with, or
an opaque message. An empty message may have a null `data()`, which counts as the null pointer. -/
inductive Returned where
  | null
  | data
  | opaqueMessage (message : Message)
  deriving DecidableEq, Repr

/-- The callback, called with the data of a message. -/
abbrev MessageCallback (σ : Type) := σ → List UInt8 → Returned × σ

/-- `rtcCreateOpaqueMessage`. -/
def createOpaqueMessage (data : List UInt8) : Message := { data, type := .binary }

/-- `make_message_from_opaque_ptr`: the message is owned by the pointer from now on. -/
def makeMessageFromOpaquePtr (message : Message) : MessagePtr := some message

/-- The loop of `incoming`: the list it iterates over as the loop leaves it behind, and `result`.
There is no outcome if a null pointer is dereferenced. -/
def intercept (callback : MessageCallback σ) :
    σ → List MessagePtr → Option (List MessagePtr × List MessagePtr)
  | _, [] => some ([], [])
  | _, none :: _ => none
  | s, some msg :: messages =>
    let (res, s') := callback s msg.data
    (intercept callback s' messages).map fun (rest, result) =>
      match res with
      | .null => (some msg :: rest, result)
      -- `std::move(msg)`
      | .data => (none :: rest, some msg :: result)
      | .opaqueMessage message => (some msg :: rest, makeMessageFromOpaquePtr message :: result)

/-- `MediaInterceptor::incoming`: what `messages` holds afterwards. `result` is destroyed. -/
def incoming (incomingCallback : Option (MessageCallback σ)) (s : σ) (messages : List MessagePtr) :
    Option (List MessagePtr) :=
  match incomingCallback with
  | none => some messages
  | some callback => (intercept callback s messages).map Prod.fst

/-! ## What the callback decides -/

/-- The messages of a list, each with what the callback returns for it. -/
def verdicts (callback : MessageCallback σ) : σ → List Message → List (Message × Returned)
  | _, [] => []
  | s, msg :: messages =>
    (msg, (callback s msg.data).1) :: verdicts callback (callback s msg.data).2 messages

/-- The message that comes out for one that comes in. -/
def outcome : Message × Returned → Option Message
  | (_, .null) => none
  | (msg, .data) => some msg
  | (_, .opaqueMessage message) => some message

/-- What the loop leaves of an entry. -/
def remainder : Message × Returned → MessagePtr
  | (msg, .null) => some msg
  | (_, .data) => none
  | (msg, .opaqueMessage _) => some msg

/-- The forwarded messages and the replacements, in the order of the messages they come from. -/
def intended (incomingCallback : Option (MessageCallback σ)) (s : σ) (messages : List Message) :
    List Message :=
  match incomingCallback with
  | none => messages
  | some callback => (verdicts callback s messages).filterMap outcome

variable {callback : MessageCallback σ} {incomingCallback : Option (MessageCallback σ)} {s : σ}

/-- `result` holds what the callback decides, and the list itself what is left of the entries. -/
theorem intercept_result (messages : List Message) :
    intercept callback s (messages.map some) =
      some ((verdicts callback s messages).map remainder,
        ((verdicts callback s messages).filterMap outcome).map some) := by
  induction messages generalizing s with
  | nil => rfl
  | cons msg messages ih =>
    rw [List.map_cons, intercept, verdicts]
    dsimp only
    rw [ih, Option.map_some]
    cases hres : (callback s msg.data).1 with
    | null => rfl
    | data => rfl
    | opaqueMessage message => rfl

/-- A null pointer is dereferenced if there is one in the list. -/
theorem intercept_of_mem_none {messages : List MessagePtr} (hmem : none ∈ messages) :
    intercept callback s messages = none := by
  induction messages generalizing s with
  | nil => exact absurd hmem List.not_mem_nil
  | cons msg messages ih =>
    cases msg with
    | none => rfl
    | some msg =>
      have hrest : none ∈ messages := by
        rcases List.mem_cons.1 hmem with hmsg | hrest
        · cases hmsg
        · exact hrest
      rw [intercept]
      dsimp only
      rw [ih hrest, Option.map_none]

/-- The list that is left behind. -/
theorem incoming_some (messages : List Message) :
    incoming (some callback) s (messages.map some) =
      some ((verdicts callback s messages).map remainder) := by
  show (intercept callback s (messages.map some)).map Prod.fst = _
  rw [intercept_result, Option.map_some]

/-- A message that is forwarded leaves a null entry, where the next interceptor of the chain
dereferences it. -/
theorem incoming_incoming_of_forwarded {τ : Type} {next : MessageCallback τ} {t : τ}
    {messages : List Message} {msg : Message}
    (hforwarded : (msg, .data) ∈ verdicts callback s messages) :
    ((incoming (some callback) s (messages.map some)).bind (incoming (some next) t)) = none := by
  have hnull : none ∈ (verdicts callback s messages).map remainder :=
    List.mem_map.2 ⟨_, hforwarded, rfl⟩
  rw [incoming_some, Option.bind_some]
  show (intercept next t _).map Prod.fst = none
  rw [intercept_of_mem_none hnull, Option.map_none]

/-- What is left of the entries is what comes out only if every message is replaced by its like. -/
theorem map_remainder_eq_iff {decided : List (Message × Returned)} :
    decided.map remainder = (decided.filterMap outcome).map some ↔
      ∀ p ∈ decided, p.2 = .opaqueMessage p.1 := by
  induction decided with
  | nil => exact ⟨fun _ p hp => absurd hp List.not_mem_nil, fun _ => rfl⟩
  | cons p decided ih =>
    obtain ⟨msg, res⟩ := p
    rw [List.forall_mem_cons]
    cases res with
    | null =>
      -- one entry more than messages
      refine ⟨fun h => ?_, fun h => absurd h.1 (by simp)⟩
      have hlength := congrArg List.length h
      have hle := List.length_filterMap_le outcome decided
      simp only [List.map_cons, List.length_cons, List.length_map, outcome, List.filterMap_cons]
        at hlength
      omega
    | data =>
      refine ⟨fun h => ?_, fun h => absurd h.1 (by simp)⟩
      simp [remainder, outcome] at h
    | opaqueMessage message =>
      simp only [List.map_cons, List.filterMap_cons, remainder, outcome, List.cons.injEq,
        Option.some.injEq, Returned.opaqueMessage.injEq, ih]
      exact and_congr_left fun _ => eq_comm

/-- **Media interceptor output.** The list holds what the callback decides exactly when there is no
callback, or it replaces every message by an equal one. -/
theorem incoming_eq_intended_iff (messages : List Message) :
    incoming incomingCallback s (messages.map some) =
        some ((intended incomingCallback s messages).map some) ↔
      ∀ callback ∈ incomingCallback, ∀ p ∈ verdicts callback s messages,
        p.2 = .opaqueMessage p.1 := by
  cases incomingCallback with
  | none => exact ⟨fun _ callback h => (Option.not_mem_none callback h).elim, fun _ => rfl⟩
  | some callback =>
    rw [incoming_some, Option.some.injEq]
    show _ = ((verdicts callback s messages).filterMap outcome).map some ↔ _
    rw [map_remainder_eq_iff]
    constructor
    · rintro h callback' ⟨⟩
      exact h
    · exact fun h => h callback rfl

/-- A callback that forwards the first message of a list and drops the others. -/
def forwardFirst : MessageCallback ℕ := fun n _ => (if n = 0 then .data else .null, n + 1)

/-- Of two messages the first is to be forwarded: a null entry is left, and the second message. -/
theorem not_incoming_eq_intended :
    ¬∀ messages : List Message,
      incoming (some forwardFirst) 0 (messages.map some) =
        some ((intended (some forwardFirst) 0 messages).map some) := by
  intro h
  have htwo : some [none, some (createOpaqueMessage [0x81])] =
      some [some (createOpaqueMessage [0x80])] :=
    h [createOpaqueMessage [0x80], createOpaqueMessage [0x81]]
  exact absurd htwo (by decide)

end MediaInterceptor

end Rtc
