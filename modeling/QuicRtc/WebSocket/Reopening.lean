import QuicRtc.WebSocket.Lifecycle

/-!
# Reopening a WebSocket

The members that hold the transports of a `WebSocket`, over any number of connections. Every
transport carries the number of the connection in which it was built, and that of the transport
below it.

The threads are those of `Lifecycle`, cut at the same points, with the transports that one operation
passes on to the next. `open` may come at any time, also while threads of the connection before are
on their way. Between one `open` and the next the two machines run alike (`run_lifecycle`).

* `Fresh`: once `closeTransports` has run for a connection, no member holds a transport of this
  connection, and whatever an `init` function finds or builds belongs to the present connection and
  is on a transport of the same connection.
* `Orderly`: what `closeTransports` relies on. It leaves the proxy transport in its member, and
  nothing keeps the other threads from the members that it has emptied.
* `fresh_of_meets`: in a run whose steps are all orderly the transports are fresh.
-/

namespace Rtc

namespace WebSocket

namespace Reopening

open Lifecycle (Layer Config)

/-- A transport: the connection it was built for, and that of its lower transport. -/
structure Built where
  connection : ℕ
  lower : Option ℕ := none
  deriving DecidableEq, Repr

/-- A call of an `init` function that has found or built a transport, in some connection. -/
structure Init where
  layer : Layer
  connection : ℕ
  transport : Built
  deriving DecidableEq, Repr

/-- Above every transport there is one that has an `init` function. -/
theorem upper_ne_tcp (config : Config) (layer : Layer) : config.upper layer ≠ .tcp := by
  cases layer with
  | tcp | proxy =>
    simp only [Config.upper]
    split_ifs <;> simp
  | tls | ws => simp [Config.upper]

/-- What a thread does next. The operations are those of `Lifecycle`; `closeTransports` and
`setTcpTransport` keep the number of the connection that they are about. -/
inductive Operation where
  | open (mIsSecure : Bool)
  /-- `open`, behind its test of the state and the assignment of `mIsSecure`. -/
  | changeToConnecting
  | close
  | changeToClosing
  | stop
  | testClosed
  | closeTransports
  /-- `closeTransports`: the exchange of a transport, with those of `rest` to come. -/
  | exchangeTransport (layer : Layer) (rest : List Layer) (connection : ℕ)
  | triggerClosed (connection : ℕ)
  | testConnecting
  | changeToOpen
  | triggerOpen
  | closeConnecting
  | setTcpTransport (connection : ℕ)
  | init (layer : Layer) (above : layer ≠ .tcp)
  | loadLower (layer : Layer)
  | emplace (layer : Layer) (transport : Built)
  | start (layer : Layer)
  | testEmplaced (layer : Layer)
  | forget (layer : Layer)

/-- `remoteClose`. -/
def remoteClose : List Operation := [.close, .testClosed]

/-- The operations of a call. `mIsSecure` is the scheme of the URL that `open` is called with. -/
def operations (config : Config) (mIsSecure : Bool) : Lifecycle.Call → List Operation
  | .open => [.open mIsSecure]
  | .close => [.close]
  | .remoteClose | .failed _ | .incoming => remoteClose
  | .connected layer =>
    if layer = .ws then [.testConnecting]
    else [.init (config.upper layer) (upper_ne_tcp config layer)]
  | .disconnected layer => if layer = .ws then remoteClose else [.closeConnecting]
  | .timeout => [.closeConnecting]

/-- The members that threads share, and what has been observed. `connection` counts the calls of
`open` that got behind their test. -/
structure Shared where
  config : Config
  state : State := .closed
  members : Layer → Option Built := fun _ => none
  connection : ℕ := 0
  /-- The last connection for which `closeTransports` is done with the member. It does not touch the
  member of the proxy transport, so that it is done with it when it ends. -/
  cleared : Layer → ℕ := fun _ => 0
  /-- The last connection for which `closeTransports` has run. -/
  ended : ℕ := 0
  inits : List Init := []

namespace Shared

/-- Store a transport or the null pointer. -/
def store (s : Shared) (layer : Layer) (transport : Option Built) : Shared :=
  { s with members := Function.update s.members layer transport }

/-- `closeTransports` of a connection is done with a member. -/
def clear (s : Shared) (layer : Layer) (connection : ℕ) : Shared :=
  { s with cleared := Function.update s.cleared layer (max (s.cleared layer) connection) }

/-- An `init` function has found or built its transport. -/
def returns (s : Shared) (layer : Layer) (transport : Built) : Shared :=
  { s with inits := s.inits ++ [{ layer, connection := s.connection, transport }] }

/-- A thread executes an operation, and goes on with others. A transport throws in `start` if
`failure` is set. -/
def exec (s : Shared) (failure : Bool) : Operation → Shared × List Operation
  | .open mIsSecure =>
    if s.state ≠ .closed then (s, [])
    else ({ s with config := { s.config with mIsSecure } }, [.changeToConnecting])
  | .changeToConnecting =>
    ({ s with state := .connecting, connection := s.connection + 1 },
      [.setTcpTransport (s.connection + 1)])
  | .close =>
    if s.state = .connecting ∨ s.state = .open then (s, [.changeToClosing]) else (s, [])
  | .changeToClosing => ({ s with state := .closing }, [.stop])
  -- `stop` of the transport is left to its callbacks
  | .stop => if (s.members .ws).isSome then (s, []) else (s, remoteClose)
  | .testClosed => if s.state ≠ .closed then (s, [.closeTransports]) else (s, [])
  | .closeTransports =>
    ({ s with state := .closed },
      if s.state ≠ .closed then [.exchangeTransport .ws [.tls, .tcp] s.connection] else [])
  | .exchangeTransport layer rest connection =>
    ((s.store layer none).clear layer connection,
      match rest with
      | [] => [.triggerClosed connection]
      | next :: rest => [.exchangeTransport next rest connection])
  | .triggerClosed connection =>
    ({ s.clear .proxy connection with ended := max s.ended connection }, [])
  | .testConnecting => if s.state = .connecting then (s, [.changeToOpen]) else (s, [])
  | .changeToOpen =>
    ({ s with state := .open }, if s.state ≠ .open then [.triggerOpen] else [])
  | .triggerOpen => (s, [])
  | .closeConnecting => if s.state = .connecting then (s, remoteClose) else (s, [])
  | .setTcpTransport connection =>
    -- it throws when there is a TCP transport
    if (s.members .tcp).isSome then (s, remoteClose) else (s, [.emplace .tcp { connection }])
  | .init layer _ =>
    match s.members layer with
    | some transport => (s.returns layer transport, [])
    | none => (s, [.loadLower layer])
  | .loadLower layer =>
    match s.members (s.config.lower layer) with
    | none => (s, remoteClose)
    | some lower =>
      let transport := { connection := s.connection, lower := some lower.connection }
      (s.returns layer transport, [.emplace layer transport])
  | .emplace layer transport => (s.store layer (some transport), [.start layer])
  | .start layer =>
    if failure then (s, .forget layer :: remoteClose) else (s, [.testEmplaced layer])
  | .testEmplaced layer => if s.state = .closed then (s, [.forget layer]) else (s, [])
  | .forget layer => (s.store layer none, [])

end Shared

/-- A WebSocket and its threads. -/
structure World where
  shared : Shared
  threads : List (List Operation) := []

/-- The steps of the threads. -/
inductive Event where
  /-- A thread calls. The flag is the scheme of the URL, if it calls `open`. -/
  | call (call : Lifecycle.Call) (mIsSecure : Bool)
  /-- Thread `i` executes its next operation. -/
  | thread (i : ℕ) (failure : Bool)
  deriving DecidableEq, Repr

namespace World

/-- A new WebSocket, with or without a proxy. -/
def new (proxyServer : Bool) : World := { shared := { config := { proxyServer } } }

/-- One step. -/
def step (w : World) : Event → Option World
  | .call call mIsSecure =>
    some { w with threads := w.threads ++ [operations w.shared.config mIsSecure call] }
  | .thread i failure =>
    match w.threads[i]? with
    | some (operation :: rest) =>
      let (shared, next) := w.shared.exec failure operation
      some { shared, threads := Interleaving.resume w.threads i (next ++ rest) [] }
    | _ => none

/-- The operations that are still to be executed. -/
def pending (w : World) : List Operation := w.threads.flatten

end World

/-- No transport is reachable of a connection for which `closeTransports` has run, and every
transport that an `init` function has found or built belongs to the connection it was called in and
is on a transport of this connection. -/
structure Fresh (s : Shared) : Prop where
  reachable : ∀ layer transport, s.members layer = some transport → s.ended < transport.connection
  inits : ∀ init ∈ s.inits, init.transport.connection = init.connection ∧
    init.transport.lower = some init.connection

/-- An operation comes in order. An `init` function looks at a member when `closeTransports` of the
connection before is done with it, `emplaceTransport` stores a transport before that of its own
connection is, and there is no proxy transport of the connection when `closeTransports` ends. -/
def Shared.Fits (s : Shared) : Operation → Prop
  | .init layer _ => s.connection ≤ s.cleared layer + 1
  | .loadLower layer => s.connection ≤ s.cleared (s.config.lower layer) + 1
  | .emplace layer transport => s.cleared layer < transport.connection
  | .triggerClosed connection =>
    ∀ transport ∈ s.members .proxy, connection < transport.connection
  | _ => True

instance (s : Shared) (operation : Operation) : Decidable (s.Fits operation) := by
  cases operation <;> unfold Shared.Fits <;> infer_instance

/-- The steps whose operations come in order. -/
def World.Orderly (w : World) : Event → Prop
  | .call _ _ => True
  | .thread i _ => ∀ operation ∈ w.threads[i]?.bind List.head?, w.shared.Fits operation

instance (w : World) (event : Event) : Decidable (w.Orderly event) := by
  cases event <;> unfold World.Orderly <;> infer_instance

/-! ## The invariant -/

namespace Shared

variable {s t : Shared}

/-- The invariant of the members. -/
structure Inv (s : Shared) : Prop where
  ended : ∀ layer, s.ended ≤ s.cleared layer
  cleared : ∀ layer transport, s.members layer = some transport →
    s.cleared layer < transport.connection
  connection : ∀ layer transport, s.members layer = some transport →
    transport.connection ≤ s.connection
  lower : ∀ layer transport, s.members layer = some transport → layer ≠ .tcp →
    transport.lower = some transport.connection
  inits : ∀ init ∈ s.inits, init.transport.connection = init.connection ∧
    init.transport.lower = some init.connection

/-- What holds of an operation that a thread has still to execute. -/
def Allows (s : Shared) : Operation → Prop
  | .setTcpTransport connection => connection ≤ s.connection
  | .emplace layer transport => transport.connection ≤ s.connection ∧
      (layer ≠ .tcp → transport.lower = some transport.connection)
  | .exchangeTransport layer rest connection =>
    ∀ other, other ≠ .proxy → other ∉ layer :: rest → connection ≤ s.cleared other
  | .triggerClosed connection => ∀ other, other ≠ .proxy → connection ≤ s.cleared other
  | _ => True

/-- The invariant is at least what is wanted. -/
theorem Inv.fresh (h : s.Inv) : Fresh s where
  reachable layer transport hmember :=
    (h.ended layer).trans_lt (h.cleared layer transport hmember)
  inits := h.inits

/-- Connections are opened and closed one after the other. -/
structure Grows (s t : Shared) : Prop where
  connection : s.connection ≤ t.connection
  cleared : ∀ layer, s.cleared layer ≤ t.cleared layer

theorem Grows.refl (s : Shared) : Grows s s := ⟨le_rfl, fun _ => le_rfl⟩

/-- What holds of a pending operation goes on to hold. -/
theorem Grows.allows (h : Grows s t) {operation : Operation} (hop : s.Allows operation) :
    t.Allows operation := by
  cases operation with
  | setTcpTransport connection => exact hop.trans h.connection
  | emplace layer transport => exact ⟨hop.1.trans h.connection, hop.2⟩
  | exchangeTransport layer rest connection =>
    exact fun other hproxy hmem => (hop other hproxy hmem).trans (h.cleared other)
  | triggerClosed connection => exact fun other hproxy => (hop other hproxy).trans (h.cleared other)
  | «open» | changeToConnecting | close | changeToClosing | stop | testClosed | closeTransports
  | testConnecting | changeToOpen | triggerOpen | closeConnecting | init | loadLower | start
  | testEmplaced | forget => trivial

theorem grows_clear (s : Shared) (layer : Layer) (connection : ℕ) :
    Grows s (s.clear layer connection) := by
  refine ⟨le_rfl, fun other => ?_⟩
  simp only [clear, Function.update_apply]
  split_ifs with heq
  · rw [heq]
    exact le_max_left _ _
  · exact le_rfl

theorem le_cleared_clear (s : Shared) (layer : Layer) (connection : ℕ) :
    connection ≤ (s.clear layer connection).cleared layer := by
  simp [clear]

/-- The null pointer is stored. -/
theorem Inv.store_none (h : s.Inv) (layer : Layer) : (s.store layer none).Inv := by
  have hold {other : Layer} {transport : Built}
      (hmember : (s.store layer none).members other = some transport) :
      s.members other = some transport := by
    simp only [store, Function.update_apply] at hmember
    split_ifs at hmember
    exact hmember
  exact ⟨h.ended, fun _ _ hmember => h.cleared _ _ (hold hmember),
    fun _ _ hmember => h.connection _ _ (hold hmember),
    fun _ _ hmember => h.lower _ _ (hold hmember), h.inits⟩

/-- A transport is stored before `closeTransports` of its connection is done with the member. -/
theorem Inv.store_some (h : s.Inv) {layer : Layer} {transport : Built}
    (hcleared : s.cleared layer < transport.connection)
    (hconnection : transport.connection ≤ s.connection)
    (hlower : layer ≠ .tcp → transport.lower = some transport.connection) :
    (s.store layer (some transport)).Inv := by
  have hcases {other : Layer} {t : Built}
      (hmember : (s.store layer (some transport)).members other = some t) :
      other = layer ∧ transport = t ∨ s.members other = some t := by
    simp only [store, Function.update_apply] at hmember
    split_ifs at hmember with heq
    · exact .inl ⟨heq, Option.some.inj hmember⟩
    · exact .inr hmember
  refine ⟨h.ended, fun other t hmember => ?_, fun other t hmember => ?_,
    fun other t hmember htcp => ?_, h.inits⟩
  · rcases hcases hmember with ⟨rfl, rfl⟩ | hold
    · exact hcleared
    · exact h.cleared other t hold
  · rcases hcases hmember with ⟨rfl, rfl⟩ | hold
    · exact hconnection
    · exact h.connection other t hold
  · rcases hcases hmember with ⟨rfl, rfl⟩ | hold
    · exact hlower htcp
    · exact h.lower other t hold htcp

/-- `closeTransports` is done with a member that holds no transport of its connection. -/
theorem Inv.clear (h : s.Inv) {layer : Layer} {connection : ℕ}
    (hmember : ∀ transport ∈ s.members layer, connection < transport.connection) :
    (s.clear layer connection).Inv where
  ended other := (h.ended other).trans ((s.grows_clear layer connection).cleared other)
  cleared other transport hother := by
    simp only [Shared.clear, Function.update_apply]
    split_ifs with heq
    · subst heq
      exact max_lt (h.cleared _ _ hother) (hmember _ hother)
    · exact h.cleared _ _ hother
  connection := h.connection
  lower := h.lower
  inits := h.inits

/-- A transport of this connection on one of this connection. -/
theorem Inv.returns (h : s.Inv) {layer : Layer} {transport : Built}
    (hconnection : transport.connection = s.connection)
    (hlower : transport.lower = some s.connection) : (s.returns layer transport).Inv where
  ended := h.ended
  cleared := h.cleared
  connection := h.connection
  lower := h.lower
  inits := by
    intro init hinit
    rcases List.mem_append.1 hinit with hold | hnew
    · exact h.inits init hold
    · obtain rfl := List.mem_singleton.1 hnew
      exact ⟨hconnection, hlower⟩

/-- What an `init` function finds in a member is of this connection, once `closeTransports` of the
connection before is done with the member. -/
theorem Inv.connection_eq (h : s.Inv) {layer : Layer} {transport : Built}
    (hmember : s.members layer = some transport) (hfits : s.connection ≤ s.cleared layer + 1) :
    transport.connection = s.connection := by
  have hcleared := h.cleared layer transport hmember
  have hconnection := h.connection layer transport hmember
  omega

theorem allows_remoteClose (s : Shared) : ∀ operation ∈ remoteClose, s.Allows operation := by
  simp [remoteClose, Allows]

/-- An operation that comes in order keeps the invariant, and what it leads to is allowed. -/
theorem Inv.exec (h : s.Inv) (failure : Bool) {operation : Operation} (hallows : s.Allows operation)
    (hfits : s.Fits operation) :
    (s.exec failure operation).1.Inv ∧ Grows s (s.exec failure operation).1 ∧
      ∀ new ∈ (s.exec failure operation).2, (s.exec failure operation).1.Allows new := by
  -- the state of the WebSocket does not matter
  have hstate (state : State) : Inv { s with state } :=
    ⟨h.ended, h.cleared, h.connection, h.lower, h.inits⟩
  have hsame := Grows.refl s
  have hclose := s.allows_remoteClose
  cases operation with
  | changeToConnecting =>
    refine ⟨⟨h.ended, h.cleared, fun layer transport hmember => ?_, h.lower, h.inits⟩,
      ⟨Nat.le_succ _, fun _ => le_rfl⟩, ?_⟩
    · exact (h.connection layer transport hmember).trans (Nat.le_succ _)
    · simp [Shared.exec, Allows]
  | changeToClosing => exact ⟨hstate _, ⟨le_rfl, fun _ => le_rfl⟩, by simp [Shared.exec, Allows]⟩
  | changeToOpen =>
    refine ⟨hstate _, ⟨le_rfl, fun _ => le_rfl⟩, ?_⟩
    simp only [Shared.exec]
    split_ifs <;> simp [Allows]
  | closeTransports =>
    refine ⟨hstate _, ⟨le_rfl, fun _ => le_rfl⟩, ?_⟩
    simp only [Shared.exec]
    split_ifs
    · intro new hnew
      obtain rfl := List.mem_singleton.1 hnew
      -- there are no other members
      intro other hproxy hmem
      cases other <;> simp at hproxy hmem
    · simp
  | exchangeTransport layer rest connection =>
    have hnone : ∀ transport ∈ (s.store layer none).members layer,
        connection < transport.connection := by
      simp [store]
    have hgrows := (s.store layer none).grows_clear layer connection
    refine ⟨(h.store_none layer).clear hnone, ⟨hgrows.connection, hgrows.cleared⟩, ?_⟩
    -- this member is done with, and those that were before
    have hdone (other : Layer) (hproxy : other ≠ .proxy) (hrest : other ∉ rest) :
        connection ≤ ((s.store layer none).clear layer connection).cleared other := by
      by_cases heq : other = layer
      · rw [heq]
        exact le_cleared_clear _ layer connection
      · exact (hallows other hproxy (by simp [heq, hrest])).trans (hgrows.cleared other)
    cases rest with
    | nil =>
      intro new hnew
      obtain rfl := List.mem_singleton.1 hnew
      exact fun other hproxy => hdone other hproxy List.not_mem_nil
    | cons next rest =>
      intro new hnew
      obtain rfl := List.mem_singleton.1 hnew
      exact hdone
  | triggerClosed connection =>
    have hgrows := s.grows_clear .proxy connection
    have hcleared : (s.clear .proxy connection).Inv := h.clear hfits
    refine ⟨⟨fun layer => max_le (hcleared.ended layer) ?_, hcleared.cleared, hcleared.connection,
      hcleared.lower, hcleared.inits⟩, ⟨hgrows.connection, hgrows.cleared⟩, by simp [Shared.exec]⟩
    by_cases hproxy : layer = .proxy
    · rw [hproxy]
      exact le_cleared_clear s .proxy connection
    · exact (hallows layer hproxy).trans (hgrows.cleared layer)
  | setTcpTransport connection =>
    simp only [Shared.exec]
    split_ifs
    · exact ⟨h, hsame, hclose⟩
    · refine ⟨h, hsame, fun new hnew => ?_⟩
      obtain rfl := List.mem_singleton.1 hnew
      exact ⟨hallows, fun htcp => absurd rfl htcp⟩
  | init layer above =>
    simp only [Shared.exec]
    cases hmember : s.members layer with
    | none => exact ⟨h, hsame, by simp [Allows]⟩
    | some transport =>
      have hconnection := h.connection_eq hmember hfits
      have hlower := h.lower layer transport hmember above
      rw [hconnection] at hlower
      exact ⟨h.returns hconnection hlower, ⟨le_rfl, fun _ => le_rfl⟩, by simp⟩
  | loadLower layer =>
    simp only [Shared.exec]
    cases hload : s.members (s.config.lower layer) with
    | none => exact ⟨h, hsame, hclose⟩
    | some lower =>
      have hconnection := h.connection_eq hload hfits
      refine ⟨h.returns rfl (congrArg some hconnection), ⟨le_rfl, fun _ => le_rfl⟩, ?_⟩
      intro new hnew
      obtain rfl := List.mem_singleton.1 hnew
      exact ⟨le_rfl, fun _ => congrArg some hconnection⟩
  | emplace layer transport =>
    exact ⟨h.store_some hfits hallows.1 hallows.2, ⟨le_rfl, fun _ => le_rfl⟩,
      by simp [Shared.exec, Allows]⟩
  | forget layer => exact ⟨h.store_none layer, ⟨le_rfl, fun _ => le_rfl⟩, by simp [Shared.exec]⟩
  | start layer =>
    simp only [Shared.exec]
    split_ifs
    · refine ⟨h, hsame, fun new hnew => ?_⟩
      rcases List.mem_cons.1 hnew with rfl | hnew
      · trivial
      · exact hclose new hnew
    · exact ⟨h, hsame, by simp [Allows]⟩
  | triggerOpen => exact ⟨h, hsame, by simp [Shared.exec]⟩
  | «open» mIsSecure =>
    simp only [Shared.exec]
    split_ifs
    · exact ⟨h, hsame, by simp⟩
    · exact ⟨⟨h.ended, h.cleared, h.connection, h.lower, h.inits⟩, ⟨le_rfl, fun _ => le_rfl⟩,
        by simp [Allows]⟩
  | close | testClosed | testConnecting | testEmplaced =>
    simp only [Shared.exec]
    split_ifs <;> exact ⟨h, hsame, by simp [Allows]⟩
  | stop | closeConnecting =>
    simp only [Shared.exec]
    split_ifs <;> first | exact ⟨h, hsame, hclose⟩ | exact ⟨h, hsame, by simp⟩

end Shared

namespace World

variable {w w' : World}

/-- The invariant of a WebSocket and its threads. -/
structure Inv (w : World) : Prop where
  shared : w.shared.Inv
  pending : ∀ operation ∈ w.pending, w.shared.Allows operation

theorem inv_new (proxyServer : Bool) : Inv (new proxyServer) where
  shared := ⟨fun _ => le_rfl, by simp [new], by simp [new], by simp [new], by simp [new]⟩
  pending := by simp [new, pending]

/-- The operations of a call are allowed. -/
theorem allows_operations (s : Shared) (mIsSecure : Bool) (call : Lifecycle.Call) :
    ∀ operation ∈ operations s.config mIsSecure call, s.Allows operation := by
  cases call with
  | «open» | close | timeout => simp [operations, Shared.Allows]
  | remoteClose | failed layer | incoming => exact s.allows_remoteClose
  | connected layer =>
    simp only [operations]
    split_ifs <;> simp [Shared.Allows]
  | disconnected layer =>
    simp only [operations]
    split_ifs
    · exact s.allows_remoteClose
    · simp [Shared.Allows]

/-- What a step of a thread does. -/
theorem thread_step {i : ℕ} {failure : Bool} (h : w.step (.thread i failure) = some w') :
    ∃ operation, w.threads[i]?.bind List.head? = some operation ∧
      w'.shared = (w.shared.exec failure operation).1 ∧
      Interleaving.Executes operation (w.shared.exec failure operation).2 w.pending w'.pending := by
  simp only [step] at h
  split at h
  case h_1 operation rest hget =>
    obtain rfl := Option.some.inj h
    refine ⟨operation, by simp [hget], rfl, ?_⟩
    have hexec := Interleaving.Executes.resume hget (w.shared.exec failure operation).2 []
    rwa [List.flatten_nil, List.append_nil] at hexec
  case h_2 => cases h

/-- Orderly steps keep the invariant. -/
theorem Inv.step {event : Event} (h : w.Inv) (horderly : w.Orderly event)
    (hstep : w.step event = some w') : w'.Inv := by
  cases event with
  | call call mIsSecure =>
    obtain rfl := Option.some.inj hstep
    refine ⟨h.shared, fun operation hop => ?_⟩
    rw [World.pending, List.flatten_append] at hop
    rcases List.mem_append.1 hop with hold | hnew
    · exact h.pending operation hold
    · exact allows_operations w.shared mIsSecure call operation (by simpa using hnew)
  | thread i failure =>
    obtain ⟨operation, hop, hshared, hexec⟩ := thread_step hstep
    obtain ⟨hinv, hgrows, hnew⟩ :=
      h.shared.exec failure (h.pending operation hexec.op_mem) (horderly operation hop)
    rw [← hshared] at hinv hgrows hnew
    refine ⟨hinv, fun other hother => ?_⟩
    rcases hexec.mem_cases hother with hother | hother
    · exact hnew other hother
    · exact hgrows.allows (h.pending other hother)

end World

/-! ## Between one `open` and the next -/

/-- The operations of `Lifecycle` that an operation stands for, the first of them being the one that
comes next. -/
def Operation.lifecycle : Operation → List Lifecycle.Operation
  | .open _ => [.open]
  -- `Lifecycle` starts behind it
  | .changeToConnecting => []
  | .close => [.close]
  | .changeToClosing => [.changeToClosing]
  | .stop => [.stop]
  | .testClosed => [.testClosed]
  | .closeTransports => [.closeTransports]
  | .exchangeTransport layer rest _ =>
    .exchangeTransport layer :: (rest.map .exchangeTransport ++ [.triggerClosed])
  | .triggerClosed _ => [.triggerClosed]
  | .testConnecting => [.testConnecting]
  | .changeToOpen => [.changeToOpen]
  | .triggerOpen => [.triggerOpen]
  | .closeConnecting => [.closeConnecting]
  | .setTcpTransport _ => [.init .tcp]
  | .init layer _ => [.init layer]
  | .loadLower layer => [.loadLower layer]
  | .emplace layer _ => [.emplace layer]
  | .start layer => [.start layer]
  | .testEmplaced layer => [.testEmplaced layer]
  | .forget layer => [.forget layer]

/-- A step in which no `open` gets behind its test of the state. -/
def World.Stays (w : World) : Event → Prop
  | .call _ _ => True
  | .thread i _ => ∀ operation ∈ w.threads[i]?.bind List.head?,
      operation ≠ .changeToConnecting ∧
        ∀ mIsSecure, operation = .open mIsSecure → w.shared.state ≠ .closed

/-- The event without what `Lifecycle` leaves out. -/
def Event.lifecycle : Event → Lifecycle.Event
  | .call c _ => .call c
  | .thread i failure => .thread i failure

/-- The members of `Lifecycle` agree with the transports. -/
structure Shared.Agrees (c : Lifecycle.Shared) (s : Shared) : Prop where
  state : c.state = s.state
  transports : ∀ layer, c.transports layer = (s.members layer).isSome

/-- The machine of `Lifecycle` agrees on the members, and its threads have the same to do. -/
structure World.Agrees (v : Lifecycle.World) (w : World) : Prop where
  shared : Shared.Agrees v.shared w.shared
  threads : v.threads = w.threads.map (·.flatMap Operation.lifecycle)

namespace Shared

variable {c : Lifecycle.Shared} {s : Shared}

/-- The same is stored on both sides. -/
theorem Agrees.store (h : Agrees c s) (layer : Layer) (transport : Option Built) :
    Agrees (c.store layer transport.isSome) (s.store layer transport) where
  state := h.state
  transports other := by
    simp only [Lifecycle.Shared.store, Shared.store, Function.update_apply]
    split_ifs
    · rfl
    · exact h.transports other

/-- The operation that comes next does the same in both machines. -/
theorem Agrees.exec (h : Agrees c s) (failure : Bool) {operation : Operation}
    (hstays : operation ≠ .changeToConnecting ∧
      ∀ mIsSecure, operation = .open mIsSecure → s.state ≠ .closed) :
    ∃ first rest, operation.lifecycle = first :: rest ∧
      Agrees (c.exec s.config failure first).1 (s.exec failure operation).1 ∧
      (s.exec failure operation).2.flatMap Operation.lifecycle =
        (c.exec s.config failure first).2 ++ rest ∧
      (s.exec failure operation).1.config = s.config := by
  have hstate := h.state
  -- the state changes alike, whatever `Lifecycle` has observed
  have hchange (state : State) : Agrees (c.changeState state) { s with state } :=
    ⟨rfl, h.transports⟩
  have hclose : remoteClose.flatMap Operation.lifecycle = Lifecycle.remoteClose := rfl
  cases operation with
  | changeToConnecting => exact absurd rfl hstays.1
  | «open» mIsSecure =>
    refine ⟨_, _, rfl, ?_⟩
    simp only [Shared.exec, Lifecycle.Shared.exec, if_pos (hstays.2 mIsSecure rfl)]
    exact ⟨h, rfl, trivial⟩
  | changeToClosing => exact ⟨_, _, rfl, hchange _, rfl, rfl⟩
  | closeTransports =>
    refine ⟨_, _, rfl, hchange _, ?_, rfl⟩
    simp only [Shared.exec, Lifecycle.Shared.exec, hstate]
    split_ifs <;> rfl
  | changeToOpen =>
    refine ⟨_, _, rfl, hchange _, ?_, rfl⟩
    simp only [Shared.exec, Lifecycle.Shared.exec, hstate]
    split_ifs <;> rfl
  | triggerOpen => exact ⟨_, _, rfl, ⟨h.state, h.transports⟩, rfl, rfl⟩
  | triggerClosed connection => exact ⟨_, _, rfl, ⟨h.state, h.transports⟩, rfl, rfl⟩
  | exchangeTransport layer rest connection =>
    have hstore := h.store layer none
    refine ⟨_, _, rfl, ⟨hstore.state, hstore.transports⟩, ?_, rfl⟩
    cases rest with
    | nil => rfl
    | cons next rest => exact List.append_nil _
  | emplace layer transport => exact ⟨_, _, rfl, h.store layer (some transport), rfl, rfl⟩
  | forget layer => exact ⟨_, _, rfl, h.store layer none, rfl, rfl⟩
  | close | testClosed | testConnecting | closeConnecting | testEmplaced =>
    refine ⟨_, _, rfl, ?_⟩
    simp only [Shared.exec, Lifecycle.Shared.exec, hstate]
    split_ifs <;> exact ⟨h, rfl, rfl⟩
  | start layer =>
    refine ⟨_, _, rfl, ?_⟩
    simp only [Shared.exec, Lifecycle.Shared.exec]
    split_ifs <;> exact ⟨h, rfl, rfl⟩
  | stop =>
    refine ⟨_, _, rfl, ?_⟩
    simp only [Shared.exec, Lifecycle.Shared.exec, h.transports]
    split_ifs <;> exact ⟨h, rfl, rfl⟩
  | setTcpTransport connection =>
    refine ⟨_, _, rfl, ?_⟩
    simp only [Shared.exec, Lifecycle.Shared.exec, h.transports, if_true]
    split_ifs <;> exact ⟨h, rfl, rfl⟩
  | init layer above =>
    refine ⟨_, _, rfl, ?_⟩
    simp only [Shared.exec, Lifecycle.Shared.exec, h.transports, if_neg above]
    cases s.members layer with
    | none => exact ⟨h, rfl, rfl⟩
    | some transport => exact ⟨⟨h.state, h.transports⟩, rfl, rfl⟩
  | loadLower layer =>
    refine ⟨_, _, rfl, ?_⟩
    simp only [Shared.exec, Lifecycle.Shared.exec, h.transports]
    cases s.members (s.config.lower layer) with
    | none => exact ⟨h, rfl, rfl⟩
    | some lower => exact ⟨⟨h.state, h.transports⟩, rfl, rfl⟩

end Shared

namespace World

variable {v : Lifecycle.World} {w w' : World}

/-- The operations of a call are the same in both machines. -/
theorem lifecycle_operations (config : Config) (mIsSecure : Bool) (call : Lifecycle.Call) :
    (operations config mIsSecure call).flatMap Operation.lifecycle = call.operations config := by
  cases call with
  | «open» | close | remoteClose | failed layer | incoming | timeout => rfl
  | connected layer | disconnected layer =>
    simp only [operations, Lifecycle.Call.operations]
    split_ifs <;> rfl

/-- A step is one of the machine of `Lifecycle`, unless an `open` gets behind its test. -/
theorem Agrees.step {event : Event} (h : Agrees v w) (hstays : w.Stays event)
    (hstep : w.step event = some w') :
    ∃ v', v.step w.shared.config event.lifecycle = some v' ∧ Agrees v' w' ∧
      w'.shared.config = w.shared.config := by
  cases event with
  | call call mIsSecure =>
    obtain rfl := Option.some.inj hstep
    refine ⟨_, rfl, ⟨h.shared, ?_⟩, rfl⟩
    simp only [List.map_append, List.map_singleton, lifecycle_operations, h.threads]
  | thread i failure =>
    simp only [World.step] at hstep
    split at hstep
    case h_2 => cases hstep
    case h_1 operation rest hget =>
      obtain rfl := Option.some.inj hstep
      have hhead : w.threads[i]?.bind List.head? = some operation := by simp [hget]
      obtain ⟨first, others, heq, hshared, hnew, hconfig⟩ :=
        h.shared.exec failure (hstays operation hhead)
      have hthread : v.threads[i]? =
          some (first :: (others ++ rest.flatMap Operation.lifecycle)) := by
        rw [h.threads, List.getElem?_map, hget, Option.map_some, List.flatMap_cons, heq,
          List.cons_append]
      have hstep' : v.step w.shared.config (Event.thread i failure).lifecycle =
          some
            { shared := (v.shared.exec w.shared.config failure first).1
              threads := Interleaving.resume v.threads i
                ((v.shared.exec w.shared.config failure first).2 ++
                  (others ++ rest.flatMap Operation.lifecycle)) [] } := by
        simp only [Event.lifecycle, Lifecycle.World.step, hthread]
      refine ⟨_, hstep', ⟨hshared, ?_⟩, hconfig⟩
      -- the other threads have the same to do as before
      simp only [Interleaving.resume, h.threads, List.append_nil, List.map_set, List.flatMap_append,
        hnew, List.append_assoc]

/-- Between one `open` and the next the WebSocket runs as in `Lifecycle`. -/
theorem run_lifecycle {events : List Event} (h : Agrees v w)
    (hstays : Transition.Meets World.step World.Stays w events)
    (hrun : Transition.run World.step w events = some w') :
    ∃ v', Transition.run (Lifecycle.World.step w.shared.config) v (events.map Event.lifecycle) =
      some v' ∧ Agrees v' w' := by
  induction events generalizing v w with
  | nil =>
    obtain rfl : w = w' := by simpa using hrun
    exact ⟨v, rfl, h⟩
  | cons event events ih =>
    obtain ⟨u, hstep, hrest⟩ := Transition.run_cons.1 hrun
    obtain ⟨u', hstep', hagrees, hconfig⟩ := h.step hstays.1 hstep
    obtain ⟨v', hrun', hend⟩ := ih hagrees (hstays.2 u hstep) hrest
    rw [hconfig] at hrun'
    exact ⟨v', Transition.run_cons.2 ⟨u', hstep', hrun'⟩, hend⟩

end World

/-! ## Runs -/

/-- In every run of a new WebSocket whose steps are all orderly, no transport is reachable of a
connection for which `closeTransports` has run, and the transports of every connection are built on
transports of the same connection. -/
theorem fresh_of_meets {proxyServer : Bool} {events : List Event} {w : World}
    (hmeets : Transition.Meets World.step World.Orderly (World.new proxyServer) events)
    (hrun : Transition.run World.step (World.new proxyServer) events = some w) : Fresh w.shared :=
  (Transition.run_invariant (fun _ _ _ h horderly hstep => h.step horderly hstep)
    (World.inv_new proxyServer) hmeets hrun).shared.fresh

/-- Thread `i` executes `n` operations. -/
def goes (i n : ℕ) : List Event := List.replicate n (.thread i false)

/-- A secure connection without a proxy, which fails when the TLS transport starts, and a plain one
after it. -/
def twoConnections : List Event :=
  .call .open true :: goes 0 6 ++ .call (.connected .tcp) false :: goes 1 3 ++
    .thread 1 true :: goes 1 12 ++ .call .open false :: goes 2 6 ++
    .call (.connected .tcp) false :: goes 3 5

theorem fresh_of_meets_twoConnections :
    ∃ w, Transition.run World.step (World.new false) twoConnections = some w ∧
      w.shared.inits = [⟨.tls, 1, ⟨1, some 1⟩⟩, ⟨.ws, 2, ⟨2, some 2⟩⟩] ∧ Fresh w.shared := by
  have hmeets : Transition.Meets World.step World.Orderly (World.new false) twoConnections := by
    decide
  exact ⟨_, rfl, rfl, fresh_of_meets hmeets rfl⟩

/-- Two runs after which the second connection has a transport of the first. With a proxy, the
WebSocket is closed and opened again: the proxy transport stays, and it is taken for that of the
second connection. Without one, the timeout closes a secure connection whose TLS transport is about
to be stored, and the WebSocket is opened again before it is. -/
theorem reopened_with_old_transport :
    (∃ w, Transition.run World.step (World.new true)
        (.call .open false :: goes 0 6 ++ .call (.connected .tcp) false :: goes 1 5 ++
          .call .close false :: goes 2 10 ++ .call .open false :: goes 3 6 ++
          .call (.connected .tcp) false :: goes 4 1) = some w ∧
      w.shared.inits = [⟨.proxy, 1, ⟨1, some 1⟩⟩, ⟨.proxy, 2, ⟨1, some 1⟩⟩] ∧
      w.shared.ended = 1 ∧ ¬Fresh w.shared) ∧
    ∃ w, Transition.run World.step (World.new false)
        (.call .open true :: goes 0 6 ++ .call (.connected .tcp) false :: goes 1 2 ++
          .call .timeout false :: goes 2 10 ++ .call .open true :: goes 3 6 ++ goes 1 3 ++
          goes 2 1 ++ .call (.connected .tcp) false :: goes 4 1) = some w ∧
      w.shared.inits = [⟨.tls, 1, ⟨1, some 1⟩⟩, ⟨.tls, 2, ⟨1, some 1⟩⟩] ∧
      w.shared.ended = 1 ∧ ¬Fresh w.shared := by
  refine ⟨⟨_, rfl, rfl, rfl, fun h => ?_⟩, ⟨_, rfl, rfl, rfl, fun h => ?_⟩⟩
  · exact absurd (h.reachable .proxy ⟨1, some 1⟩ rfl) (by decide)
  · exact absurd (h.reachable .tls ⟨1, some 1⟩ rfl) (by decide)

end Reopening

end WebSocket

end Rtc
