import QuicRtc.Lib.Transition
import QuicRtc.WsTransport.Incoming

/-!
# The size of a WebSocket frame

`parseFrame` adds the size of the header and the declared length modulo the range of `size_t`, after
it has removed the mask in the buffer.

* `Exact`: what is expected of one call; `exact_iff` says for which buffers it holds.
* `Parsing`: a connected transport whose calls of `incoming` and of `parseFrame` are steps of their
  own, with the bytes received and the frames delivered so far.
* `InStep`: the frames follow each other on the wire, and the buffer holds what follows them.
* `exact_and_inStep_iff`: both hold exactly when no size reaches the range of `size_t`.
-/

namespace Rtc.WsTransport

/-! ## One call -/

/-- The size of the header and the declared length, as an integer. -/
def frameSize (buffer : List UInt8) : ℕ :=
  match readHeader buffer with
  | some (header, rest) => buffer.length - rest.length + header.length
  | none => 0

/-- When `parseFrame` takes a frame, it returns the size of the frame, and when it returns `0`, it
leaves the buffer alone. -/
structure Exact (mMaxMessageSize : UInt64) (buffer : List UInt8) : Prop where
  size : (parseFrame mMaxMessageSize buffer).size ≠ 0 →
    (parseFrame mMaxMessageSize buffer).size = frameSize buffer
  buffer : (parseFrame mMaxMessageSize buffer).size = 0 →
    (parseFrame mMaxMessageSize buffer).buffer = buffer

/-- The size of the frame is in range, if there is a frame. It may also be the first value out of
range when there is nothing to unmask. -/
def SizeFits (mMaxMessageSize : UInt64) (buffer : List UInt8) : Prop :=
  ∀ header masked rest, readFrame mMaxMessageSize buffer = some ((header, masked), rest) →
    frameSize buffer < 18446744073709551616 ∨
      frameSize buffer = 18446744073709551616 ∧ header.unmask masked = masked

instance (mMaxMessageSize : UInt64) (buffer : List UInt8) :
    Decidable (SizeFits mMaxMessageSize buffer) :=
  match hread : readFrame mMaxMessageSize buffer with
  | none => isTrue fun _ _ _ h => by simp [hread] at h
  | some ((header, masked), rest) =>
    decidable_of_iff (frameSize buffer < 18446744073709551616 ∨
        frameSize buffer = 18446744073709551616 ∧ header.unmask masked = masked) <| by
      constructor
      · intro h header' masked' rest' hread'
        obtain ⟨hpair, -⟩ := Prod.mk.inj (Option.some.inj (hread.symm.trans hread'))
        obtain ⟨rfl, rfl⟩ := Prod.mk.inj hpair
        exact h
      · intro h
        exact h header masked rest hread

theorem frameSize_of_readFrame {mMaxMessageSize : UInt64} {head masked rest : List UInt8}
    {header : Header} (hread : readFrame mMaxMessageSize (head ++ (masked ++ rest)) =
      some ((header, masked), rest)) :
    frameSize (head ++ (masked ++ rest)) = head.length + header.length := by
  obtain ⟨-, -, -, hheader, -⟩ := readFrame_eq_some hread
  simp [frameSize, hheader]

theorem exact_iff (mMaxMessageSize : UInt64) (buffer : List UInt8) :
    Exact mMaxMessageSize buffer ↔ SizeFits mMaxMessageSize buffer := by
  cases hread : readFrame mMaxMessageSize buffer with
  | none =>
    have hparse : parseFrame mMaxMessageSize buffer = { size := 0, buffer, frame := none } := by
      simp only [parseFrame, hread]
    constructor
    · intro _ header masked rest hsome
      rw [hread] at hsome
      cases hsome
    · intro _
      exact ⟨fun hsize => absurd (by rw [hparse]) hsize, fun _ => by rw [hparse]⟩
  | some read =>
    obtain ⟨⟨header, masked⟩, rest⟩ := read
    obtain ⟨head, hhead, rfl, hheader, -⟩ := readFrame_eq_some hread
    have hsize := frameSize_of_readFrame hread
    have hlength := length_lt_of_readHeader hheader
    have hparse := parseFrame_of_readFrame hread
    rw [← hsize] at hparse
    constructor
    · rintro ⟨hexact, hsame⟩ header' masked' rest' hread'
      obtain ⟨hpair, -⟩ := Prod.mk.inj (Option.some.inj (hread.symm.trans hread'))
      obtain ⟨rfl, rfl⟩ := Prod.mk.inj hpair
      rw [hparse] at hexact hsame
      by_cases hzero : frameSize (head ++ (masked ++ rest)) % 18446744073709551616 = 0
      · -- `0` is returned, and the frame stays in the buffer
        have hbuffer := hsame hzero
        rw [List.append_assoc, List.append_cancel_left_eq, List.append_cancel_right_eq] at hbuffer
        exact Or.inr ⟨by omega, hbuffer⟩
      · have hmod := hexact hzero
        simp only at hmod
        exact Or.inl (by omega)
    · intro hfits
      have hcases := hfits header masked rest hread
      constructor
      · intro hne
        rw [hparse] at hne ⊢
        simp only at hne ⊢
        rcases hcases with hlt | ⟨heq, -⟩
        · exact Nat.mod_eq_of_lt hlt
        · rw [heq] at hne
          exact absurd (by decide) hne
      · intro hzero
        rw [hparse] at hzero ⊢
        simp only at hzero ⊢
        rcases hcases with hlt | ⟨-, hsame⟩
        · rw [Nat.mod_eq_of_lt hlt] at hzero
          omega
        · rw [hsame, List.append_assoc]

/-! ## The loop -/

/-- Where a delivered frame starts on the wire, and its size. -/
structure Span where
  start : ℕ
  size : ℕ
  deriving DecidableEq, Repr

/-- A connected transport. `wire` are the bytes received since then, `position` counts those taken
out of the buffer, and `looping` says that `incoming` is in its loop over the frames. -/
structure Parsing where
  transport : WsTransport
  looping : Bool := false
  wire : List UInt8 := []
  position : ℕ := 0
  delivered : List Span := []

/-- A call of `incoming`, up to its loop, or one call of `parseFrame` in the loop and what follows
it there. -/
inductive Parsing.Event where
  | incoming (message : Option (List UInt8))
  | parse
  deriving DecidableEq, Repr

namespace Parsing

variable (config : Config)

/-- The bytes that `incoming` inserts, without those that belong to an oversized frame. -/
def insert (w : Parsing) (chunk : List UInt8) : Parsing :=
  let s := { w.transport with mBuffer := w.transport.mBuffer ++ chunk }
  { w with
    transport := s.skipIgnored
    looping := s.skipIgnored.mIgnoreLength = 0
    wire := w.wire ++ chunk
    position := w.position + min s.mIgnoreLength s.mBuffer.length }

/-- One round of the loop. -/
def parse (w : Parsing) : Parsing :=
  match w.transport.frameRound config with
  | some s =>
    { w with
      transport := s
      looping := s.mIgnoreLength = 0
      position := w.position + (w.transport.mBuffer.length - s.mBuffer.length)
      delivered := w.delivered ++
        [{ start := w.position, size := frameSize w.transport.mBuffer }] }
  | none => { w with transport := w.transport.lastParse config, looping := false }

/-- One step. A transport that is not connected drops what it is given. -/
def step (w : Parsing) : Event → Option Parsing
  | .incoming message =>
    if w.looping ∨ w.transport.state ≠ .connected then none
    else
      match message with
      | some (b :: chunk) => some (w.insert (b :: chunk))
      -- the lower transport is idle or closed
      | message => some { w with transport := w.transport.incoming config message }
  | .parse => if w.looping then some (w.parse config) else none

/-- The transport with what is in its buffer behind the handshake. -/
def start (s : WsTransport) (looping : Bool) : Parsing :=
  { transport := s, looping, wire := s.mBuffer }

end Parsing

/-- The delivered frames follow each other on the wire, each where the one before it ends. The
bytes taken and those still to be ignored are these frames, and the buffer holds the bytes that
follow, as they were received. -/
structure InStep (w : Parsing) : Prop where
  consecutive : ∀ before frame after, w.delivered = before ++ frame :: after →
    frame.start = (before.map Span.size).sum
  position : w.position + w.transport.mIgnoreLength = (w.delivered.map Span.size).sum
  mBuffer : w.transport.mBuffer = w.wire.drop w.position

/-- The condition on a step: the size of the frame in front of the buffer fits. -/
def ParsesInRange (config : Config) (w : Parsing) : Parsing.Event → Prop
  | .incoming _ => True
  | .parse => SizeFits config.mMaxMessageSize w.transport.mBuffer

instance (config : Config) (w : Parsing) : DecidablePred (ParsesInRange config w)
  | .incoming _ => isTrue trivial
  | .parse => inferInstanceAs (Decidable (SizeFits _ _))

/-- What holds along with it: no frame is parsed while bytes are to be ignored. -/
structure Parsing.Inv (w : Parsing) : Prop where
  inStep : InStep w
  looping : w.looping = true → w.transport.mIgnoreLength = 0
  position_le : w.position ≤ w.wire.length

namespace Parsing

variable {config : Config} {w w' : Parsing}

theorem Inv.of_start {s : WsTransport} (hignore : s.mIgnoreLength = 0) (looping : Bool) :
    Inv (start s looping) where
  inStep :=
    { consecutive := by simp [start]
      position := by simpa [start] using hignore
      mBuffer := by simp [start] }
  looping := fun _ => hignore
  position_le := Nat.zero_le _

/-- An idle or closed lower transport leaves the bytes alone. -/
theorem incoming_empty (config : Config) {s : WsTransport} (hstate : s.state = .connected)
    {message : Option (List UInt8)} (hempty : ∀ b chunk, message ≠ some (b :: chunk)) :
    (s.incoming config message).mBuffer = s.mBuffer ∧
      (s.incoming config message).mIgnoreLength = s.mIgnoreLength := by
  rcases message with _ | _ | ⟨b, chunk⟩
  · simp [incoming, hstate, disconnect, recv]
  · simp only [incoming, hstate, acceptHandshake, receive, addOutstandingPing]
    simp only [ne_eq, reduceCtorEq, not_true_eq_false, not_false_eq_true, and_false, if_false,
      if_true, List.append_nil, List.length_nil]
    split_ifs <;> exact ⟨rfl, rfl⟩
  · exact absurd rfl (hempty b chunk)

/-- More bytes on the wire. -/
theorem Inv.insert (h : w.Inv) (chunk : List UInt8) : (w.insert chunk).Inv where
  inStep :=
    { consecutive := h.inStep.consecutive
      position := by
        have hposition := h.inStep.position
        simp only [Parsing.insert, skipIgnored]
        omega
      mBuffer := by
        -- the bytes to be ignored are the first ones behind the position
        simp only [Parsing.insert, skipIgnored]
        rw [← List.drop_drop, List.drop_append_of_le_length h.position_le, ← h.inStep.mBuffer] }
  looping := by
    intro hlooping
    simpa [Parsing.insert] using hlooping
  position_le := by
    have hlength := congrArg List.length h.inStep.mBuffer
    have hle := h.position_le
    simp only [List.length_drop] at hlength
    simp only [Parsing.insert, List.length_append]
    omega

/-- A frame is delivered at the position. -/
theorem consecutive_append (h : InStep w) (hignore : w.transport.mIgnoreLength = 0)
    (size : ℕ) : ∀ before frame after,
      w.delivered ++ [{ start := w.position, size }] = before ++ frame :: after →
        frame.start = (before.map Span.size).sum := by
  intro before frame after hsplit
  rcases List.eq_nil_or_concat after with rfl | ⟨after, last, rfl⟩
  · obtain ⟨rfl, hframe⟩ := List.append_inj' hsplit rfl
    obtain rfl := List.singleton_inj.1 hframe
    have hposition := h.position
    rw [hignore] at hposition
    exact hposition
  · -- it is one of the frames delivered before
    have hsplit' : w.delivered ++ [{ start := w.position, size }] =
        (before ++ frame :: after) ++ [last] := by
      rw [hsplit]
      simp
    obtain ⟨hdelivered, -⟩ := List.append_inj' hsplit' rfl
    exact h.consecutive before frame after hdelivered

/-- The loop goes on unless `parseFrame` returns `0`. -/
theorem size_of_frameRound_eq_none {s : WsTransport} (hignore : s.mIgnoreLength = 0)
    (hround : s.frameRound config = none) :
    (parseFrame config.mMaxMessageSize s.mBuffer).size = 0 := by
  cases hread : readFrame config.mMaxMessageSize s.mBuffer with
  | none => simp only [parseFrame, hread]
  | some read =>
    obtain ⟨⟨header, masked⟩, rest⟩ := read
    obtain ⟨head, -, hbuffer, -, -⟩ := readFrame_eq_some hread
    rw [frameRound_eq config hignore hbuffer hread] at hround
    rw [hbuffer] at hread ⊢
    rw [parseFrame_of_readFrame hread]
    by_contra hsize
    rw [if_neg hsize] at hround
    cases hround

/-- What the loop does to the bytes when it takes nothing. -/
theorem mBuffer_lastParse (config : Config) {s : WsTransport} (hignore : s.mIgnoreLength = 0) :
    (s.lastParse config).mBuffer = (parseFrame config.mMaxMessageSize s.mBuffer).buffer ∧
      (s.lastParse config).mIgnoreLength = 0 := by
  simp [lastParse, hignore]

/-- The next frame is parsed, and its size fits. -/
theorem Inv.parse (h : w.Inv) (hlooping : w.looping = true)
    (hfits : SizeFits config.mMaxMessageSize w.transport.mBuffer) : (w.parse config).Inv := by
  have hignore := h.looping hlooping
  unfold Parsing.parse
  cases hround : w.transport.frameRound config with
  | none =>
    have hexact := (exact_iff config.mMaxMessageSize w.transport.mBuffer).2 hfits
    have hsame := hexact.buffer (size_of_frameRound_eq_none hignore hround)
    obtain ⟨hbuffer, hzero⟩ := mBuffer_lastParse config hignore
    have hposition := h.inStep.position
    refine ⟨⟨h.inStep.consecutive, ?_, ?_⟩, by simp, h.position_le⟩
    · rw [hignore] at hposition
      rw [hzero]
      exact hposition
    · rw [hbuffer, hsame]
      exact h.inStep.mBuffer
  | some s =>
    obtain ⟨header, head, masked, rest, -, hhead, hbuffer, hread, hcases⟩ :=
      frameRound_cases config hround
    have hsize : frameSize w.transport.mBuffer = head.length + header.length := by
      rw [hbuffer] at hread ⊢
      exact frameSize_of_readFrame hread
    rcases hcases with ⟨-, rfl⟩ | ⟨hwraps, size, hmod, hpos, -, -⟩
    · -- the frame is taken from the buffer, and what is missing of it is to be ignored
      obtain ⟨-, -, -, -, hmasked⟩ := readFrame_eq_some hread
      have hposition := h.inStep.position
      have hlong : masked.length ≤ header.length := by omega
      have hsuffix : rest.drop (header.length - masked.length) <:+ w.transport.mBuffer := by
        rw [hbuffer, ← List.append_assoc]
        exact (List.drop_suffix _ rest).trans (List.suffix_append (head ++ masked) rest)
      refine ⟨⟨consecutive_append h.inStep hignore _, ?_, ?_⟩, by simp, ?_⟩
      · simp only [setTail, hbuffer, List.length_append, List.length_drop, List.map_append,
          List.sum_append, List.map_cons, List.map_nil, List.sum_cons, List.sum_nil]
        rw [← hbuffer, hsize]
        omega
      · show rest.drop (header.length - masked.length) = _
        rw [← List.drop_drop, ← h.inStep.mBuffer]
        exact List.suffix_iff_eq_drop.1 hsuffix
      · have hlength := congrArg List.length h.inStep.mBuffer
        have hle := h.position_le
        simp only [List.length_drop] at hlength
        show w.position + (w.transport.mBuffer.length - _) ≤ w.wire.length
        omega
    · -- the first value out of range leaves nothing to take
      rcases hfits header masked rest hread with hlt | ⟨heq, -⟩
      · omega
      · rw [← hsize, heq] at hmod
        omega

/-- Every step whose frame fits keeps the invariant. -/
theorem Inv.step {e : Event} (h : w.Inv) (hok : ParsesInRange config w e)
    (hstep : w.step config e = some w') : w'.Inv := by
  cases e with
  | incoming message =>
    simp only [Parsing.step, Option.ite_none_left_eq_some, not_or, not_not] at hstep
    obtain ⟨⟨hidle, hstate⟩, hstep⟩ := hstep
    split at hstep
    · cases hstep
      exact h.insert _
    · next hempty =>
      cases hstep
      have hnone : ∀ b chunk, message ≠ some (b :: chunk) := fun b chunk heq => hempty b chunk heq
      obtain ⟨hbuffer, hignore⟩ := incoming_empty config hstate hnone
      refine ⟨⟨h.inStep.consecutive, ?_, ?_⟩, fun hlooping => absurd hlooping hidle,
        h.position_le⟩
      · rw [hignore]
        exact h.inStep.position
      · rw [hbuffer]
        exact h.inStep.mBuffer
  | parse =>
    simp only [Parsing.step, Option.ite_none_right_eq_some, Option.some.injEq] at hstep
    obtain ⟨hlooping, rfl⟩ := hstep
    exact h.parse hlooping hok

/-- A step whose frame does not fit takes too few bytes, or unmasks a frame that it leaves. -/
theorem Inv.not_step {e : Event} (h : w.Inv) (hmiss : ¬ParsesInRange config w e)
    (hstep : w.step config e = some w') : ¬InStep w' := by
  cases e with
  | incoming message => exact absurd trivial hmiss
  | parse =>
    simp only [Parsing.step, Option.ite_none_right_eq_some, Option.some.injEq] at hstep
    obtain ⟨hlooping, rfl⟩ := hstep
    have hignore := h.looping hlooping
    have hposition := h.inStep.position
    rw [hignore] at hposition
    intro hin
    unfold Parsing.parse at hin
    cases hround : w.transport.frameRound config with
    | none =>
      rw [hround] at hin
      -- then the call was exact, which it is not for such a frame
      refine hmiss ((exact_iff config.mMaxMessageSize w.transport.mBuffer).1 ⟨?_, fun _ => ?_⟩)
      · intro hsize
        exact absurd (size_of_frameRound_eq_none hignore hround) hsize
      · rw [← (mBuffer_lastParse config hignore).1, h.inStep.mBuffer]
        exact hin.mBuffer
    | some s =>
      rw [hround] at hin
      obtain ⟨header, head, masked, rest, -, hhead, hbuffer, hread, hcases⟩ :=
        frameRound_cases config hround
      have hsize : frameSize w.transport.mBuffer = head.length + header.length := by
        rw [hbuffer] at hread ⊢
        exact frameSize_of_readFrame hread
      rcases hcases with ⟨hlt, -⟩ | ⟨hwraps, size, -, -, hsmall, rfl⟩
      · -- a size that does not wrap fits
        refine hmiss fun header' masked' rest' _ => Or.inl ?_
        omega
      · -- fewer bytes than those of the header
        have htaken := hin.position
        simp only [setTail, List.length_append, List.length_drop, Header.length_unmask,
          List.map_append, List.sum_append, List.map_cons, List.map_nil, List.sum_cons,
          List.sum_nil, hsize] at htaken
        have hlength := congrArg List.length hbuffer
        simp only [List.length_append] at hlength
        omega

/-! ## Calls of `incoming` -/

/-- The rounds of the loop are steps, by induction on the rounds. -/
theorem exists_run_frameLoop (config : Config) (s : WsTransport) :
    ∀ w : Parsing, w.transport = s → w.looping = true → s.mIgnoreLength = 0 →
      ∃ n w', Transition.run (step config) w (List.replicate n .parse) = some w' ∧
        w'.looping = false ∧ w'.transport = s.frameLoop config := by
  induction s using frameLoop.induct config with
  | case1 s hround =>
    rintro w rfl hlooping hignore
    have hloop : w.transport.frameLoop config = w.transport.lastParse config := by
      rw [frameLoop]
      split
      · rfl
      · next heq => simp [hround] at heq
    have hparse : w.parse config =
        { w with transport := w.transport.lastParse config, looping := false } := by
      rw [Parsing.parse, hround]
    refine ⟨1, w.parse config, ?_, ?_, ?_⟩
    · simp [Transition.run, Parsing.step, hlooping]
    · rw [hparse]
    · rw [hparse, hloop]
  | case2 s s' hround ih =>
    rintro w rfl hlooping hignore
    have hloop : w.transport.frameLoop config = s'.frameLoop config := by
      rw [frameLoop]
      split
      · next heq => simp [hround] at heq
      · next heq => rw [Option.some.inj (hround.symm.trans heq)]
    have hparse : (w.parse config).transport = s' ∧
        (w.parse config).looping = decide (s'.mIgnoreLength = 0) := by
      rw [Parsing.parse, hround]
      exact ⟨rfl, rfl⟩
    have hstep : w.step config .parse = some (w.parse config) := if_pos hlooping
    by_cases hzero : s'.mIgnoreLength = 0
    · obtain ⟨n, w', hrun, hidle, htransport⟩ :=
        ih (w.parse config) hparse.1 (by rw [hparse.2, hzero]; rfl) hzero
      refine ⟨n + 1, w', ?_, hidle, htransport.trans hloop.symm⟩
      rw [List.replicate_succ]
      exact Transition.run_cons.2 ⟨_, hstep, hrun⟩
    · -- the loop is left behind a frame that goes on after the buffer
      have hend : s'.frameLoop config = s' := by
        rw [frameLoop]
        split
        · exact if_pos hzero
        · next heq => simp [frameRound_of_ignore config hzero] at heq
      refine ⟨1, w.parse config, ?_, ?_, ?_⟩
      · simp [Transition.run, hstep]
      · rw [hparse.2]
        simpa using hzero
      · rw [hparse.1, hloop, hend]

/-- A call of `incoming` with a chunk that is not empty is its insertion and the rounds of the
loop. -/
theorem exists_run_incoming (hidle : w.looping = false) (hstate : w.transport.state = .connected)
    (b : UInt8) (chunk : List UInt8) :
    ∃ n w', Transition.run (step config) w
        (.incoming (some (b :: chunk)) :: List.replicate n .parse) = some w' ∧
      w'.looping = false ∧ w'.transport = w.transport.incoming config (some (b :: chunk)) := by
  have hstep : w.step config (.incoming (some (b :: chunk))) = some (w.insert (b :: chunk)) := by
    simp [Parsing.step, hidle, hstate]
  have hincoming : w.transport.incoming config (some (b :: chunk)) =
      if (w.insert (b :: chunk)).transport.mIgnoreLength = 0 then
        (w.insert (b :: chunk)).transport.frameLoop config
      else (w.insert (b :: chunk)).transport := by
    simp [WsTransport.incoming, acceptHandshake, hstate, receive, Parsing.insert]
  have hlooping : (w.insert (b :: chunk)).looping =
      decide ((w.insert (b :: chunk)).transport.mIgnoreLength = 0) := rfl
  rw [hincoming]
  split
  · next hzero =>
    obtain ⟨n, w', hrun, hend, htransport⟩ := exists_run_frameLoop config _
      (w.insert (b :: chunk)) rfl (by rw [hlooping, hzero]; rfl) hzero
    exact ⟨n, w', Transition.run_cons.2 ⟨_, hstep, hrun⟩, hend, htransport⟩
  · next hignore =>
    exact ⟨0, _, Transition.run_cons.2 ⟨_, hstep, rfl⟩, by rw [hlooping]; simpa using hignore, rfl⟩

end Parsing

/-! ## The sizes -/

/-- For every buffer, a call of `parseFrame` is exact exactly when the size of the frame in front of
it fits. In every run of a connected transport, the frames delivered follow each other on the wire
in every state reached exactly when the size fits at every call of `parseFrame`. -/
theorem exact_and_inStep_iff (config : Config) (buffer : List UInt8) {s : WsTransport}
    (hignore : s.mIgnoreLength = 0) {looping : Bool} {events : List Parsing.Event} {w : Parsing}
    (hrun : Transition.run (Parsing.step config) (Parsing.start s looping) events = some w) :
    (Exact config.mMaxMessageSize buffer ↔ SizeFits config.mMaxMessageSize buffer) ∧
      ((∀ before, before <+: events → ∀ w',
          Transition.run (Parsing.step config) (Parsing.start s looping) before = some w' →
            InStep w') ↔
        Transition.Meets (Parsing.step config) (ParsesInRange config) (Parsing.start s looping)
          events) := by
  refine ⟨exact_iff config.mMaxMessageSize buffer, ?_⟩
  exact Transition.forall_prefix_iff_meets_of_invariant (fun _ h => h.inStep)
    (fun _ _ _ h hok hstep => h.step hok hstep) (fun _ _ _ h hmiss hstep => h.not_step hmiss hstep)
    (Parsing.Inv.of_start hignore looping) hrun

/-- A client that keeps nothing of a data frame. -/
def smallConfig : Config where
  mIsClient := true
  mMaxMessageSize := 0
  mMaxOutstandingPings := 0
  sha1 := id
  handshakeKey := Vector.replicate 16 7
  maskingKey := fun _ => Vector.replicate 4 9

/-- It is connected, with these bytes in the buffer. -/
def connectedWith (mBuffer : List UInt8) : WsTransport :=
  { state := .connected, mHandshake := {}, mPartialOpcode := .continuation, mBuffer }

/-- A text frame and the start of a binary one, in two chunks. -/
theorem exact_and_inStep_two_chunks :
    ∃ w, Transition.run (Parsing.step smallConfig) (Parsing.start (connectedWith []) false)
        [.incoming (some [0x81, 0x01]), .parse, .incoming (some [65, 0x82]), .parse, .parse] =
          some w ∧
      Exact 0 [0x81, 0x01, 65, 0x82] ∧ w.delivered = [⟨0, 3⟩] ∧ InStep w := by
  have hrun : ∃ w, Transition.run (Parsing.step smallConfig)
      (Parsing.start (connectedWith []) false)
      [.incoming (some [0x81, 0x01]), .parse, .incoming (some [65, 0x82]), .parse, .parse] =
        some w ∧ w.delivered = [⟨0, 3⟩] := ⟨_, rfl, by decide⟩
  obtain ⟨w, hrun, hdelivered⟩ := hrun
  obtain ⟨hexact, hinStep⟩ :=
    exact_and_inStep_iff smallConfig [0x81, 0x01, 65, 0x82] rfl hrun
  have hmeets : Transition.Meets (Parsing.step smallConfig) (ParsesInRange smallConfig)
      (Parsing.start (connectedWith []) false)
      [.incoming (some [0x81, 0x01]), .parse, .incoming (some [65, 0x82]), .parse, .parse] := by
    decide
  exact ⟨w, hrun, hexact.2 (by decide), hdelivered, hinStep.2 hmeets _ List.prefix_rfl w hrun⟩

/-- A frame of 2^64 - 1 bytes by its header, as far as it has to be there. -/
def oversized : List UInt8 := [0x82, 0x7F] ++ List.replicate 8 0xFF ++ List.replicate 125 0

/-- A masked frame whose size is 2^64. -/
def oversizedMasked : List UInt8 :=
  [0x82, 0xFF] ++ List.replicate 7 0xFF ++ [0xF2] ++ List.replicate 4 1 ++ List.replicate 125 0

/-- The size of the first frame comes out as 9, and the next frame is parsed from the last byte of
its header on. The second one is unmasked and left in the buffer. -/
theorem not_exact_and_inStep :
    ¬Exact 0 oversized ∧ ¬Exact 0 oversizedMasked ∧
      ∃ w, Transition.run (Parsing.step smallConfig) (Parsing.start (connectedWith oversized) true)
          [.parse, .parse] = some w ∧
        w.delivered = [⟨0, 18446744073709551625⟩, ⟨9, 2⟩] ∧ ¬InStep w := by
  have hrun : (Transition.run (Parsing.step smallConfig)
      (Parsing.start (connectedWith oversized) true) [.parse, .parse]).map Parsing.delivered =
        some [⟨0, 18446744073709551625⟩, ⟨9, 2⟩] := by decide +kernel
  obtain ⟨w, hrun, hdelivered⟩ := Option.map_eq_some_iff.1 hrun
  refine ⟨?_, ?_, w, hrun, hdelivered, fun h => ?_⟩
  · rw [exact_iff]
    decide +kernel
  · rw [exact_iff]
    decide +kernel
  · have hstart := h.consecutive [⟨0, 18446744073709551625⟩] ⟨9, 2⟩ [] hdelivered
    cases hstart

end Rtc.WsTransport
