import QuicRtc.CApi.Defs
import QuicRtc.Channel.Peek

/-!
# rtcReceiveMessage

`rtcReceiveMessage` of `capi.cpp` on a channel, with the two overloads of `copyAndReturn` it uses.
The memory behind `buffer` is a byte list, and a null pointer is `none`.

* `Contract`: what the call should do with the first message in the queue.
* `contract_iff`: it does so if the buffer is large enough. Otherwise the size it reports is that of
  a vector or a string that was moved from, and without a buffer the message may be gone.
-/

namespace Rtc.CApi

/-- `RTC_ERR_INVALID`. -/
def invalid : ℤ := -1

/-- `RTC_ERR_NOT_AVAIL`. -/
def notAvail : ℤ := -3

/-- `RTC_ERR_TOO_SMALL`. -/
def tooSmall : ℤ := -4

/-- The conversion of a `size_t` to `int`. -/
def toInt (n : ℕ) : ℤ := Int.bmod n 4294967296

/-- A value of the type `int`. -/
def IsInt (i : ℤ) : Prop := -2147483648 ≤ i ∧ i < 2147483648

instance (i : ℤ) : Decidable (IsInt i) :=
  inferInstanceAs (Decidable (-2147483648 ≤ i ∧ i < 2147483648))

/-- `std::abs`. The smallest `int`, for which it is undefined, stays as it is. -/
def abs (i : ℤ) : ℤ := if i = -2147483648 then i else i.natAbs

/-- `std::copy` to the beginning of a buffer. -/
def overwrite (memory bytes : List UInt8) : List UInt8 := bytes ++ memory.drop bytes.length

/-- `copyAndReturn(binary b, char *buffer, int size)`: the value, and what the buffer holds. -/
def copyAndReturn (b : List UInt8) (buffer : Option (List UInt8)) (size : ℤ) :
    ℤ × Option (List UInt8) :=
  match buffer with
  | none => (toInt b.length, none)
  | some memory =>
    if size < toInt b.length then (tooSmall, some memory)
    else (toInt b.length, some (overwrite memory b))

/-- `copyAndReturn(string s, char *buffer, int size)`, which also writes a zero byte. -/
def copyAndReturnString (s : List UInt8) (buffer : Option (List UInt8)) (size : ℤ) :
    ℤ × Option (List UInt8) :=
  copyAndReturn (s ++ [0]) buffer size

/-- What is left of a vector or a string when it has been moved from. -/
def movedFrom : List UInt8 := []

/-- The return value, `*size` and the buffer after a call, and the channel. -/
structure Returned where
  code : ℤ
  size : Option ℤ
  buffer : Option (List UInt8)
  channel : Channel

/-- `rtcReceiveMessage`, on the channel that `getChannel(id)` finds. -/
def rtcReceiveMessage (channel : Channel) (buffer : Option (List UInt8)) (size : Option ℤ) :
    Returned :=
  match size with
  -- "Unexpected null pointer for size"
  | none => { code := invalid, size, buffer, channel }
  | some size =>
    let size := abs size
    match channel.peek with
    | (none, channel) => { code := notAvail, size := some size, buffer, channel }
    | (some (.binary b), channel) =>
      let (ret, memory) := copyAndReturn b buffer size
      if 0 ≤ ret then
        { code := success
          size := some ret
          buffer := memory
          channel := if buffer.isSome then channel.receive.2 else channel }
      else
        -- `b` has been moved to `copyAndReturn`
        { code := ret, size := some (toInt movedFrom.length), buffer := memory, channel }
    | (some (.string s), channel) =>
      let (ret, memory) := copyAndReturnString s buffer size
      if 0 ≤ ret then
        { code := success
          size := some (-ret)
          buffer := memory
          channel := if buffer.isSome then channel.receive.2 else channel }
      else
        { code := ret
          size := some (-toInt (movedFrom.length + 1))
          buffer := memory
          channel }

/-! ## The contract -/

/-- What is copied for a message. -/
def contents (message : Message) : List UInt8 :=
  match toVariant message with
  | .binary b => b
  | .string s => s ++ [0]

/-- A size, as it is reported for a message: negative for a text. -/
def signed (message : Message) (size : ℤ) : ℤ :=
  match toVariant message with
  | .binary _ => size
  | .string _ => -size

/-- The size of a message, as it is reported. -/
def reported (message : Message) : ℤ := signed message (contents message).length

/-- A buffer of the size `size`, or of its absolute value, holds the message. -/
def Fits (message : Message) (size : ℤ) : Prop :=
  (contents message).length ≤ size.natAbs ∧ size ≠ -2147483648

instance (message : Message) (size : ℤ) : Decidable (Fits message size) :=
  inferInstanceAs (Decidable ((contents message).length ≤ size.natAbs ∧ size ≠ -2147483648))

/-- The call has copied and removed the message. -/
structure Delivered (message : Message) (rest : List Message) (memory : List UInt8)
    (r : Returned) : Prop where
  code : r.code = success
  size : r.size = some (reported message)
  buffer : r.buffer = some (overwrite memory (contents message))
  removed : r.channel.mRecvQueue.mQueue = rest

/-- The call has reported the size of the message, and left the message and the buffer alone. -/
structure Reported (message : Message) (rest : List Message) (buffer : Option (List UInt8))
    (r : Returned) : Prop where
  size : r.size = some (reported message)
  buffer : r.buffer = buffer
  queued : r.channel.mRecvQueue.mQueue = message :: rest

/-- What the call should do with a message: report its size if there is no buffer, or if the buffer
is too small, so that another call delivers it; and deliver it otherwise. -/
def Contract (message : Message) (rest : List Message) (buffer : Option (List UInt8)) (size : ℤ)
    (r : Returned) : Prop :=
  match buffer with
  | none => r.code = success ∧ Reported message rest none r
  | some memory =>
    if size.natAbs < (contents message).length then
      r.code = tooSmall ∧ Reported message rest (some memory) r ∧
        ∀ memory' size', IsInt size' → Fits message size' →
          Delivered message rest memory' (rtcReceiveMessage r.channel (some memory') (some size'))
    else Delivered message rest memory r

/-- The buffer holds the message, or it is an empty text for which `*size` is zero. Without a buffer
the size of the message must be an `int`, and `peek` must leave the message as it is. -/
def MayReceive (object : Channel.Object) (message : Message) (buffer : Option (List UInt8))
    (size : ℤ) : Prop :=
  match buffer with
  | none => (contents message).length < 2147483648 ∧ object.Copies message
  | some _ => Fits message size ∨ message.type = .string ∧ message.data = [] ∧ size = 0

/-! ## What a call does -/

variable {channel : Channel} {message : Message} {rest : List Message}
  {buffer : Option (List UInt8)} {size : ℤ}

/-- The value of the conversion is an `int`, and the same number if that is one. -/
theorem toInt_spec (n : ℕ) : IsInt (toInt n) ∧ (n < 2147483648 → toInt n = n) := by
  unfold IsInt toInt
  rw [Int.bmod_def]
  split <;> omega

theorem signed_inj {i j : ℤ} (h : signed message i = signed message j) : i = j := by
  unfold signed at h
  cases hvariant : toVariant message with
  | binary b =>
    rw [hvariant] at h
    exact h
  | string s =>
    rw [hvariant] at h
    exact Int.neg_inj.1 h

/-- `peek` on a channel with a message at the head. -/
theorem peek_of_head (hqueue : channel.mRecvQueue.mQueue = message :: rest) :
    channel.peek.1 = some (toVariant message) ∧
      channel.peek.2.mRecvQueue.mQueue = channel.object.peeked message :: rest ∧
        channel.peek.2.receive.2.mRecvQueue.mQueue = rest := by
  simp only [Channel.peek, Channel.receive, Queue.peek, hqueue, List.head?_cons, List.tail_cons,
    Queue.mQueue_pop, and_self]

/-- The size that is reported for what was moved from. -/
def leftover (message : Message) : ℤ :=
  signed message (match toVariant message with
    | .binary _ => 0
    | .string _ => 1)

/-- A text and a binary message are treated alike. -/
theorem rtcReceiveMessage_of_head (hqueue : channel.mRecvQueue.mQueue = message :: rest) :
    rtcReceiveMessage channel buffer (some size) =
      if 0 ≤ (copyAndReturn (contents message) buffer (abs size)).1 then
        { code := success
          size := some (signed message (copyAndReturn (contents message) buffer (abs size)).1)
          buffer := (copyAndReturn (contents message) buffer (abs size)).2
          channel := if buffer.isSome then channel.peek.2.receive.2 else channel.peek.2 }
      else
        { code := (copyAndReturn (contents message) buffer (abs size)).1
          size := some (leftover message)
          buffer := (copyAndReturn (contents message) buffer (abs size)).2
          channel := channel.peek.2 } := by
  have hpeek : channel.peek = (some (toVariant message), channel.peek.2) :=
    Prod.ext (peek_of_head hqueue).1 rfl
  unfold rtcReceiveMessage
  dsimp only
  rw [hpeek]
  unfold contents leftover signed
  cases toVariant message with
  | binary b => rfl
  | string s => rfl

/-- A buffer that holds the message gets it. -/
theorem delivered_of_fits (hqueue : channel.mRecvQueue.mQueue = message :: rest)
    {memory : List UInt8} (hint : IsInt size) (hfits : Fits message size) :
    Delivered message rest memory (rtcReceiveMessage channel (some memory) (some size)) := by
  obtain ⟨hlength, hmin⟩ := hfits
  have habs : abs size = size.natAbs := if_neg hmin
  have hvalue : toInt (contents message).length = (contents message).length :=
    (toInt_spec _).2 (by have := hint.1; have := hint.2; omega)
  have hcopy : copyAndReturn (contents message) (some memory) (abs size) =
      (((contents message).length : ℤ), some (overwrite memory (contents message))) := by
    unfold copyAndReturn
    dsimp only
    rw [hvalue, habs, if_neg (by omega)]
  rw [rtcReceiveMessage_of_head hqueue, hcopy, if_pos (Int.natCast_nonneg _)]
  exact ⟨rfl, rfl, rfl, (peek_of_head hqueue).2.2⟩

/-- Without a buffer nothing is removed but what `peek` has moved. -/
theorem rtcReceiveMessage_none (hqueue : channel.mRecvQueue.mQueue = message :: rest) :
    rtcReceiveMessage channel none (some size) =
      if 0 ≤ toInt (contents message).length then
        { code := success
          size := some (signed message (toInt (contents message).length))
          buffer := none
          channel := channel.peek.2 }
      else
        { code := toInt (contents message).length
          size := some (leftover message)
          buffer := none
          channel := channel.peek.2 } := by
  rw [rtcReceiveMessage_of_head hqueue]
  simp only [copyAndReturn, Option.isSome_none, Bool.false_eq_true, if_false]

/-- Without a buffer the size is reported as far as it is an `int`, and `peek` has been called. -/
theorem contract_none_iff (hqueue : channel.mRecvQueue.mQueue = message :: rest) :
    Contract message rest none size (rtcReceiveMessage channel none (some size)) ↔
      MayReceive channel.object message none size := by
  obtain ⟨⟨hlower, hupper⟩, hsmall⟩ := toInt_spec (contents message).length
  have hpeeked := (peek_of_head hqueue).2.1
  rw [rtcReceiveMessage_none hqueue]
  unfold Contract MayReceive
  constructor
  · rintro ⟨hcode, hreported⟩
    by_cases hpos : 0 ≤ toInt (contents message).length
    · rw [if_pos hpos] at hreported
      have hvalue : toInt (contents message).length = ((contents message).length : ℤ) :=
        signed_inj (Option.some.inj hreported.size)
      refine ⟨by omega, ?_⟩
      -- what `peek` has left is still converted to the message
      by_contra hmoves
      have hqueued := hpeeked.symm.trans hreported.queued
      exact Channel.toVariant_peeked_ne hmoves (congrArg toVariant (List.cons.inj hqueued).1)
    · -- a size that is negative as an `int` is returned as an error
      rw [if_neg hpos] at hcode
      simp only [success] at hcode
      omega
  · rintro ⟨hlength, hcopies⟩
    have hvalue := hsmall hlength
    have hpos : 0 ≤ toInt (contents message).length := by omega
    rw [if_pos hpos]
    refine ⟨rfl, ?_, rfl, ?_⟩
    · rw [hvalue]
      rfl
    · rw [hpeeked, Channel.peeked_of_copies hcopies]

/-- With a buffer: it is too small, or the message is copied; a size that is a negative `int` is
taken for an error. -/
theorem rtcReceiveMessage_some_cases (hqueue : channel.mRecvQueue.mQueue = message :: rest)
    (memory : List UInt8) (size : ℤ) :
    abs size < toInt (contents message).length ∧
        rtcReceiveMessage channel (some memory) (some size) =
          { code := tooSmall
            size := some (leftover message)
            buffer := some memory
            channel := channel.peek.2 } ∨
      toInt (contents message).length ≤ abs size ∧
        (0 ≤ toInt (contents message).length ∧
            (rtcReceiveMessage channel (some memory) (some size)).code = success ∨
          toInt (contents message).length < 0 ∧
            (rtcReceiveMessage channel (some memory) (some size)).code =
              toInt (contents message).length ∧
            (rtcReceiveMessage channel (some memory) (some size)).size =
              some (leftover message)) := by
  rw [rtcReceiveMessage_of_head hqueue]
  by_cases hsmall : abs size < toInt (contents message).length
  · have hcopy : copyAndReturn (contents message) (some memory) (abs size) =
        (tooSmall, some memory) := by
      simp only [copyAndReturn, if_pos hsmall]
    have hnegative : ¬0 ≤ tooSmall := by decide
    rw [hcopy, if_neg hnegative]
    exact .inl ⟨hsmall, rfl⟩
  · have hcopy : copyAndReturn (contents message) (some memory) (abs size) =
        (toInt (contents message).length, some (overwrite memory (contents message))) := by
      simp only [copyAndReturn, if_neg hsmall]
    rw [hcopy]
    refine .inr ⟨not_lt.1 hsmall, ?_⟩
    -- a length that does not fit in an `int` is negative and passes for an error
    by_cases hpos : 0 ≤ toInt (contents message).length
    · exact .inl ⟨hpos, by rw [if_pos hpos]⟩
    · exact .inr ⟨not_le.1 hpos, by rw [if_neg hpos], by rw [if_neg hpos]⟩

/-- The size of what was moved from is that of an empty message. -/
theorem data_of_leftover (hleft : leftover message = reported message)
    (hlength : 0 < (contents message).length) :
    message.type = .string ∧ message.data = [] := by
  have hsize := signed_inj hleft
  unfold contents toVariant at hsize hlength
  cases htype : message.type with
  | string =>
    simp only [htype, List.length_append, List.length_singleton] at hsize
    refine ⟨rfl, List.length_eq_zero_iff.1 ?_⟩
    omega
  | binary | control | reset =>
    simp only [htype] at hsize hlength
    omega

/-- A buffer that does not hold the message: the size that is reported is not that of the message,
unless this is an empty text. -/
theorem contract_some_iff (hqueue : channel.mRecvQueue.mQueue = message :: rest)
    {memory : List UInt8} (hint : IsInt size) :
    Contract message rest (some memory) size (rtcReceiveMessage channel (some memory) (some size)) ↔
      MayReceive channel.object message (some memory) size := by
  have hcases := rtcReceiveMessage_some_cases hqueue memory size
  unfold Contract MayReceive
  dsimp only
  by_cases hsmall : size.natAbs < (contents message).length
  · rw [if_pos hsmall]
    constructor
    · rintro ⟨hcode, hreported, -⟩
      -- the size is reported behind `std::move`
      have hleft : leftover message = reported message := by
        have hsize := hreported.size
        rcases hcases with ⟨-, heq⟩ | ⟨-, ⟨-, hsuccess⟩ | ⟨-, -, hleft⟩⟩
        · rw [heq] at hsize
          exact Option.some.inj hsize
        · exact absurd (hsuccess.symm.trans hcode) (by decide)
        · exact Option.some.inj (hleft.symm.trans hsize)
      obtain ⟨htype, hdata⟩ := data_of_leftover hleft (Nat.zero_lt_of_lt hsmall)
      refine .inr ⟨htype, hdata, ?_⟩
      simp only [contents, toVariant, htype, hdata, List.nil_append,
        List.length_singleton] at hsmall
      omega
    · rintro (hfits | ⟨htype, hdata, rfl⟩)
      · exact absurd hfits.1 (not_le.2 hsmall)
      · -- an empty text, whose terminator has no room
        have hlength : (contents message).length = 1 := by
          simp only [contents, toVariant, htype, hdata, List.nil_append, List.length_singleton]
        have hzero : abs 0 = 0 := rfl
        rcases hcases with ⟨-, heq⟩ | ⟨hroom, -⟩
        · have hqueued : channel.peek.2.mRecvQueue.mQueue = message :: rest := by
            have hcopies : channel.object.Copies message := by
              cases channel.object with
              | dataChannel channel => trivial
              | track direction => exact .inl hdata
              | webSocket => exact .inl hdata
            rw [(peek_of_head hqueue).2.1, Channel.peeked_of_copies hcopies]
          rw [heq]
          refine ⟨rfl, ⟨?_, rfl, hqueued⟩, fun memory' size' hint' hfits => ?_⟩
          · show some (leftover message) = some (reported message)
            unfold leftover reported
            rw [hlength]
            simp only [toVariant, htype, Nat.cast_one]
          · exact delivered_of_fits hqueued hint' hfits
        · have hone := (toInt_spec (contents message).length).2 (by omega)
          omega
  · rw [if_neg hsmall]
    constructor
    · intro hdelivered
      refine .inl ⟨not_lt.1 hsmall, fun hmin => ?_⟩
      -- the smallest `int` is smaller than any size
      have habs : abs size = -2147483648 := by rw [hmin]; rfl
      have hcode := hdelivered.code
      rcases hcases with ⟨-, heq⟩ | ⟨hroom, ⟨hpos, -⟩ | ⟨hneg, hvalue, -⟩⟩
      · rw [heq] at hcode
        have hsame : tooSmall = success := hcode
        exact absurd hsame (by decide)
      · omega
      · rw [hvalue] at hcode
        simp only [success] at hcode
        omega
    · rintro (hfits | ⟨htype, hdata, rfl⟩)
      · exact delivered_of_fits hqueue hint hfits
      · simp [contents, toVariant, htype, hdata] at hsmall

/-- **rtcReceiveMessage.** The call does what it should exactly if the buffer holds the message, or
it is an empty text and the size is zero; or if there is no buffer, the size is an `int` and `peek`
copies the message. -/
theorem contract_iff (hqueue : channel.mRecvQueue.mQueue = message :: rest) (hint : IsInt size) :
    Contract message rest buffer size (rtcReceiveMessage channel buffer (some size)) ↔
      MayReceive channel.object message buffer size := by
  cases buffer with
  | none => exact contract_none_iff hqueue
  | some memory => exact contract_some_iff hqueue hint

/-- A WebSocket that has got one message. -/
def oneMessage (message : Message) : Channel where
  object := .webSocket
  mRecvQueue := (Channel.make .webSocket).mRecvQueue.push message

/-- A text with its terminator in a buffer of four bytes. -/
theorem contract_text :
    (rtcReceiveMessage (oneMessage { data := [104, 105], type := .string }) (some [1, 2, 3, 4])
        (some (-4))).buffer = some [104, 105, 0, 4] ∧
      Contract { data := [104, 105], type := .string } [] (some [1, 2, 3, 4]) (-4)
        (rtcReceiveMessage (oneMessage { data := [104, 105], type := .string }) (some [1, 2, 3, 4])
          (some (-4))) :=
  ⟨rfl, (contract_iff rfl (by decide)).2 (.inl (by decide))⟩

/-- A binary message of two bytes and a buffer of one: the size that is reported is zero. -/
theorem not_contract_tooSmall :
    ¬∀ (channel : Channel) (message : Message) (rest : List Message) (buffer : Option (List UInt8))
      (size : ℤ), channel.mRecvQueue.mQueue = message :: rest → IsInt size →
        Contract message rest buffer size (rtcReceiveMessage channel buffer (some size)) := by
  intro h
  have hcontract := h (oneMessage { data := [1, 2], type := .binary })
    { data := [1, 2], type := .binary } [] (some [0]) 1 rfl (by decide)
  have hsize : some (0 : ℤ) = some 2 := hcontract.2.1.size
  exact absurd hsize (by decide)

end Rtc.CApi
