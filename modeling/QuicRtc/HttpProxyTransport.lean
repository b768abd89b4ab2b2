import QuicRtc.Message
import QuicRtc.Transport
import QuicRtc.WsHandshake.Defs

/-!
# HTTP proxy tunnels

`HttpProxyTransport` (`impl/httpproxytransport.cpp`) asks a proxy for a tunnel and passes on what
comes behind the header block of the response.

* `incoming`: one chunk of the stream. What the transport does is recorded in order, the state
  changes among it: at `Connected` the WebSocket starts the next layer.
* `Waits`, `Tunnels`: the transport before and behind the end of the header block.
* `deliver_spec`: every way to cut a response and what follows it into chunks.

The lower transport takes every message, so that `outgoing` does not throw.
-/

namespace Rtc

open Http (parseHttpLines IsBlock)

/-- What a proxy transport does, as seen by the other layers. -/
inductive HttpProxyTransport.Output where
  | changeState (state : Transport.State)
  | outgoing (message : List UInt8)
  /-- The null pointer is `none`. -/
  | recv (message : Option (List UInt8))
  deriving DecidableEq, Repr

/-- The state of an `HttpProxyTransport`. -/
structure HttpProxyTransport where
  state : Transport.State := .disconnected
  mHostname : List UInt8
  mService : List UInt8
  mBuffer : List UInt8 := []
  observed : List HttpProxyTransport.Output := []
  deriving DecidableEq, Repr

namespace HttpProxyTransport

/-- `changeState`, which calls the callback when the state is another one. -/
def changeState (s : HttpProxyTransport) (state : Transport.State) : HttpProxyTransport :=
  if s.state = state then s else { s with state, observed := s.observed ++ [.changeState state] }

/-- `recv`. -/
def recv (s : HttpProxyTransport) (message : Option (List UInt8)) : HttpProxyTransport :=
  { s with observed := s.observed ++ [.recv message] }

/-- `HttpProxyTransport::generateHttpRequest`. -/
def generateHttpRequest (s : HttpProxyTransport) : List UInt8 :=
  bytes "CONNECT " ++ s.mHostname ++ bytes ":" ++ s.mService ++ bytes " HTTP/1.1\r\nHost: " ++
    s.mHostname ++ bytes "\r\n\r\n"

/-- `HttpProxyTransport::start`. -/
def start (s : HttpProxyTransport) : HttpProxyTransport :=
  let s := s.changeState .connecting
  { s with observed := s.observed ++ [.outgoing s.generateHttpRequest] }

/-- The code in the status line. -/
def readCode (status : List UInt8) : ℕ := WsHandshake.readUnsigned (WsHandshake.readWord status).2

/-- `HttpProxyTransport::parseHttpResponse`. -/
def parseHttpResponse (buffer : List UInt8) : Except Exception ℕ :=
  let (length, lines) := parseHttpLines buffer
  -- the header block is not complete
  if length = 0 then .ok 0
  else
    match lines with
    | [] => .error (.runtimeError "Invalid response from HTTP proxy")
    | status :: _ =>
      let code := readCode status
      if code ≠ 200 then
        .error (.runtimeError
          ("Unexpected response code " ++ Nat.repr code ++ " from HTTP proxy"))
      else .ok length

/-- The end of `incoming`, behind an exception or for the null pointer. -/
def disconnect (s : HttpProxyTransport) : HttpProxyTransport :=
  if s.state = .connected then (s.changeState .disconnected).recv none
  else s.changeState .failed

/-- The part of `incoming` for the response of the proxy. What is left in the buffer behind the
header block is passed up at once. -/
def receiveResponse (s : HttpProxyTransport) (message : List UInt8) : HttpProxyTransport :=
  let s := { s with mBuffer := s.mBuffer ++ message }
  match parseHttpResponse s.mBuffer with
  | .error _ => s.disconnect
  | .ok len =>
    if len = 0 then s
    else
      -- the tunnel starts behind the header block
      let s := s.changeState .connected
      let s := { s with mBuffer := s.mBuffer.drop len }
      if s.mBuffer ≠ [] then { s.recv (some s.mBuffer) with mBuffer := [] } else s

/-- `HttpProxyTransport::incoming`. -/
def incoming (s : HttpProxyTransport) (message : Option (List UInt8)) : HttpProxyTransport :=
  -- a message is dropped before `start` and behind a failure
  if s.state ≠ .connecting ∧ s.state ≠ .connected then s
  else
    match message with
    | none => s.disconnect
    | some message =>
      if s.state = .connecting then s.receiveResponse message else s.recv (some message)

/-! ## Responses -/

/-- The code in a header block, which has none when its first line is empty. -/
def statusCode (block : List UInt8) : Option ℕ := (parseHttpLines block).2.head?.map readCode

/-- The response is not complete. -/
theorem parseHttpResponse_waits {block p : List UInt8} (h : IsBlock block) (hp : p <+: block)
    (hne : p ≠ block) : parseHttpResponse p = .ok 0 := by
  rw [parseHttpResponse, Http.parseHttpLines_waits h hp hne]
  rfl

/-- The response is complete, whatever follows it. -/
theorem parseHttpResponse_append {block : List UInt8} (h : IsBlock block) (rest : List UInt8) :
    (statusCode block = some 200 → parseHttpResponse (block ++ rest) = .ok block.length) ∧
      (statusCode block ≠ some 200 → ∃ e, parseHttpResponse (block ++ rest) = .error e) := by
  obtain ⟨lines, hread⟩ := Http.isBlock_iff.1 h
  have hlength : block.length ≠ 0 := by simpa using h.1
  have hlines : (parseHttpLines block).2 = lines := by
    simpa using congrArg Prod.snd (Http.parseHttpLines_append hread [])
  unfold statusCode parseHttpResponse
  rw [hlines, Http.parseHttpLines_append hread rest]
  simp only [if_neg hlength]
  cases lines with
  | nil => exact ⟨fun hcode => (by cases hcode), fun _ => ⟨_, rfl⟩⟩
  | cons status lines =>
    constructor
    · intro hcode
      have hcode : readCode status = 200 := Option.some.inj hcode
      exact if_neg (not_not.2 hcode)
    · intro hcode
      have hcode : readCode status ≠ 200 := fun heq => hcode (congrArg some heq)
      exact ⟨_, if_pos hcode⟩

/-! ## Streams -/

/-- The transport after `start`. -/
def started (mHostname mService : List UInt8) : HttpProxyTransport := start { mHostname, mService }

/-- The chunks are given to `incoming` one after the other. -/
def deliver (s : HttpProxyTransport) (chunks : List (List UInt8)) : HttpProxyTransport :=
  chunks.foldl (fun s chunk => s.incoming (some chunk)) s

/-- The transport keeps the bytes received, and has done nothing since `s`. -/
def Waits (s t : HttpProxyTransport) (received : List UInt8) : Prop :=
  t = { s with mBuffer := received }

/-- The transport has become `Connected` since `s` and has passed up these bytes behind that, in
order, and nothing else. -/
structure Tunnels (s t : HttpProxyTransport) (bytes : List UInt8) : Prop where
  state : t.state = .connected
  mBuffer : t.mBuffer = []
  observed : ∃ messages : List (List UInt8), messages.flatten = bytes ∧
    t.observed = s.observed ++
      .changeState .connected :: messages.map fun message => .recv (some message)

/-- The transport has become `Failed` since `s`, and has done nothing else. -/
structure Fails (s t : HttpProxyTransport) : Prop where
  state : t.state = .failed
  observed : t.observed = s.observed ++ [.changeState .failed]

variable {s t : HttpProxyTransport} {block : List UInt8}

/-- A connected transport passes up the next chunk as it is. -/
theorem Tunnels.incoming {bytes : List UInt8} (h : Tunnels s t bytes) (chunk : List UInt8) :
    Tunnels s (t.incoming (some chunk)) (bytes ++ chunk) := by
  have hincoming : t.incoming (some chunk) = t.recv (some chunk) := by
    simp [HttpProxyTransport.incoming, h.state]
  obtain ⟨messages, hbytes, hobserved⟩ := h.observed
  rw [hincoming]
  refine ⟨h.state, h.mBuffer, messages ++ [chunk], ?_, ?_⟩
  · rw [List.flatten_append, hbytes, List.flatten_singleton]
  · simp [recv, hobserved]

/-- A failed transport drops the next chunk. -/
theorem Fails.incoming (h : Fails s t) (chunk : List UInt8) :
    Fails s (t.incoming (some chunk)) := by
  have hincoming : t.incoming (some chunk) = t := by
    simp [HttpProxyTransport.incoming, h.state]
  rw [hincoming]
  exact h

/-- The header block is still not complete. -/
theorem Waits.incoming {p chunk : List UInt8} (hstate : s.state = .connecting)
    (h : Waits s t p) (hblock : IsBlock block) (hp : p ++ chunk <+: block)
    (hne : p ++ chunk ≠ block) : Waits s (t.incoming (some chunk)) (p ++ chunk) := by
  subst h
  simp [Waits, HttpProxyTransport.incoming, hstate, receiveResponse,
    parseHttpResponse_waits hblock hp hne]

/-- The chunk brings the end of a header block with the code 200. -/
theorem Waits.incoming_ok {p chunk rest : List UInt8} (hstate : s.state = .connecting)
    (h : Waits s t p) (hblock : IsBlock block) (hcode : statusCode block = some 200)
    (hp : p ++ chunk = block ++ rest) : Tunnels s (t.incoming (some chunk)) rest := by
  subst h
  have hlength : block.length ≠ 0 := by simpa using hblock.1
  have hparse := (parseHttpResponse_append hblock rest).1 hcode
  have hincoming : ({ s with mBuffer := p } : HttpProxyTransport).incoming (some chunk) =
      let s := { { s with mBuffer := block ++ rest }.changeState .connected with mBuffer := rest }
      if rest ≠ [] then { s.recv (some rest) with mBuffer := [] } else s := by
    simp only [HttpProxyTransport.incoming, hstate, receiveResponse, hp, hparse, if_neg hlength]
    simp [changeState]
  rw [hincoming]
  -- the bytes behind the header block, if there are any, come up behind the state change
  by_cases hrest : rest = []
  · subst hrest
    exact ⟨by simp [changeState, hstate], by simp, [], rfl, by simp [changeState, hstate]⟩
  · simp only [if_pos hrest]
    exact ⟨by simp [changeState, recv, hstate], rfl, [rest], by simp,
      by simp [changeState, recv, hstate]⟩

/-- The chunk brings the end of a header block with another code, or none. -/
theorem Waits.incoming_error {p chunk rest : List UInt8} (hstate : s.state = .connecting)
    (h : Waits s t p) (hblock : IsBlock block) (hcode : statusCode block ≠ some 200)
    (hp : p ++ chunk = block ++ rest) : Fails s (t.incoming (some chunk)) := by
  subst h
  obtain ⟨e, hparse⟩ := (parseHttpResponse_append hblock rest).2 hcode
  have hincoming : ({ s with mBuffer := p } : HttpProxyTransport).incoming (some chunk) =
      { s with mBuffer := block ++ rest }.changeState .failed := by
    simp [HttpProxyTransport.incoming, hstate, receiveResponse, hp, hparse, disconnect]
  rw [hincoming]
  exact ⟨by simp [changeState, hstate], by simp [changeState, hstate]⟩

/-- The transport after the first bytes of a response and of what follows it. -/
structure Delivered (s t : HttpProxyTransport) (block received : List UInt8) : Prop where
  waits : received.length < block.length → Waits s t received
  tunnels : block.length ≤ received.length → statusCode block = some 200 →
    Tunnels s t (received.drop block.length)
  fails : block.length ≤ received.length → statusCode block ≠ some 200 → Fails s t

/-- One more chunk of the stream. -/
theorem Delivered.incoming {body p chunk : List UInt8} (hstate : s.state = .connecting)
    (h : Delivered s t block p) (hblock : IsBlock block) (hp : p ++ chunk <+: block ++ body) :
    Delivered s (t.incoming (some chunk)) block (p ++ chunk) := by
  rcases Nat.lt_or_ge p.length block.length with hshort | hlong
  · have hwaits := h.waits hshort
    rcases Reader.inside_or_covers hp with ⟨hinside, hne⟩ | ⟨rest, -, heq⟩
    · have hlength : (p ++ chunk).length < block.length :=
        Nat.lt_of_le_of_ne hinside.length_le fun heq => hne (hinside.eq_of_length heq)
      exact ⟨fun _ => hwaits.incoming hstate hblock hinside hne, fun hle => by omega,
        fun hle => by omega⟩
    · -- the chunk brings the end of the header block
      have hdrop : (p ++ chunk).drop block.length = rest := by rw [heq, List.drop_left]
      have hlength : block.length ≤ (p ++ chunk).length := by simp [heq]
      refine ⟨fun hlt => by omega, fun _ hcode => ?_, fun _ hcode => ?_⟩
      · rw [hdrop]
        exact hwaits.incoming_ok hstate hblock hcode heq
      · exact hwaits.incoming_error hstate hblock hcode heq
  · have hlength : block.length ≤ (p ++ chunk).length := by
      rw [List.length_append]
      omega
    refine ⟨fun hlt => by omega, fun _ hcode => ?_, fun _ hcode => ?_⟩
    · rw [List.drop_append_of_le_length hlong]
      exact (h.tunnels hlong hcode).incoming chunk
    · exact (h.fails hlong hcode).incoming chunk

/-- For every header block, all bytes behind it and all chunks that make up a part of this stream
from its start: before the end of the block the transport waits. Behind it, it is `Connected` and
has passed up what follows the block if the code is 200, and else it is `Failed` and has passed up
nothing. -/
theorem deliver_spec (mHostname mService : List UInt8) {block body : List UInt8}
    (hblock : IsBlock block) {chunks : List (List UInt8)}
    (hp : chunks.flatten <+: block ++ body) :
    Delivered (started mHostname mService) ((started mHostname mService).deliver chunks) block
      chunks.flatten := by
  have hstate : (started mHostname mService).state = .connecting := rfl
  induction chunks using List.reverseRecOn with
  | nil =>
    have hempty : ¬block.length ≤ ([] : List (List UInt8)).flatten.length := by
      simpa using hblock.1
    exact ⟨fun _ => rfl, fun hle => absurd hle hempty, fun hle => absurd hle hempty⟩
  | append_singleton chunks chunk ih =>
    rw [List.flatten_append, List.flatten_singleton] at hp ⊢
    have hstart : chunks.flatten <+: block ++ body := (List.prefix_append _ chunk).trans hp
    have hlast : (started mHostname mService).deliver (chunks ++ [chunk]) =
        ((started mHostname mService).deliver chunks).incoming (some chunk) := by
      simp [deliver]
    rw [hlast]
    exact (ih hstart).incoming hstate hblock hp

/-- A response cut in the header block, with the first bytes of the tunnel in the same chunk. -/
theorem deliver_spec_chunks :
    let block := Http.block [bytes "HTTP/1.1 200 OK"]
    let s := started (bytes "a") (bytes "443")
    Tunnels s (s.deliver [block.take 18, block.drop 18 ++ bytes "ab", bytes "c"])
      (bytes "abc") := by
  intro block s
  have hlines : ∀ line ∈ [bytes "HTTP/1.1 200 OK"], line ≠ [] ∧ Http.lf ∉ line := by decide
  have hread : (parseHttpLines block).2 = [bytes "HTTP/1.1 200 OK"] := by
    simp only [block, parseHttpLines, Http.readLines_block hlines]
  have hcode : statusCode block = some 200 :=
    (congrArg (fun lines => lines.head?.map readCode) hread).trans (by decide)
  have hflatten : [block.take 18, block.drop 18 ++ bytes "ab", bytes "c"].flatten =
      block ++ bytes "abc" := by decide
  have hprefix : [block.take 18, block.drop 18 ++ bytes "ab", bytes "c"].flatten <+:
      block ++ bytes "abc" := by
    simp only [hflatten, List.prefix_rfl]
  have hdelivered := deliver_spec (bytes "a") (bytes "443") (Http.isBlock_block hlines) hprefix
  have htunnels := hdelivered.tunnels (by decide) hcode
  rwa [hflatten, List.drop_left] at htunnels

end HttpProxyTransport

end Rtc
