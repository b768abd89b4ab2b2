import Mathlib.Data.Int.Notation
import Mathlib.Data.Nat.Notation

/-!
# Messages and reliability parameters

The value types shared by the transports and the channels: the exceptions the library throws, the
checked integer conversions of `impl/utils.hpp`, `Reliability` (`rtc/reliability.hpp`) and
`Message` (`rtc/message.hpp`).

Strings and binary buffers are byte lists. A `shared_ptr<Reliability>` on a message is an optional
value, and `std::chrono::milliseconds` counts are integers. The fields `dscp` and `frameInfo` of a
message are not read by the modelled functions and are left out.
-/

namespace Rtc

/-- The exceptions thrown by the modelled functions, with their texts. -/
inductive Exception where
  | invalidArgument (what : String)
  | logicError (what : String)
  | runtimeError (what : String)
  | badVariantAccess
  deriving DecidableEq, Repr

/-- `utils::to_uint16`: the value unchanged, or an exception when it does not fit. -/
def toUint16 (i : ℤ) : Except Exception ℕ :=
  if 0 ≤ i ∧ i ≤ 65535 then .ok i.toNat else .error (.invalidArgument "Integer out of range")

/-- `utils::to_uint32`: the value unchanged, or an exception when it does not fit. -/
def toUint32 (i : ℤ) : Except Exception ℕ :=
  if 0 ≤ i ∧ i ≤ 4294967295 then .ok i.toNat
  else .error (.invalidArgument "Integer out of range")

@[simp]
theorem toUint16_natCast {n : ℕ} (h : n ≤ 65535) : toUint16 n = .ok n := by
  have hn : (0 : ℤ) ≤ n ∧ (n : ℤ) ≤ 65535 := by omega
  rw [toUint16, if_pos hn, Int.toNat_natCast]

/-- `to_uint16` on an unsigned value succeeds exactly on 16-bit values, which it returns. -/
theorem toUint16_eq_ok_iff {n k : ℕ} : toUint16 n = .ok k ↔ k = n ∧ n ≤ 65535 := by
  by_cases h : n ≤ 65535
  · simp [toUint16_natCast h, h, eq_comm]
  · have hn : ¬((0 : ℤ) ≤ n ∧ (n : ℤ) ≤ 65535) := by omega
    rw [toUint16, if_neg hn]
    simp [h]

@[simp]
theorem toUint32_natCast {n : ℕ} (h : n ≤ 4294967295) : toUint32 n = .ok n := by
  have hn : (0 : ℤ) ≤ n ∧ (n : ℤ) ≤ 4294967295 := by omega
  rw [toUint32, if_pos hn, Int.toNat_natCast]

/-- `Reliability::Type`, the deprecated reliability selector. -/
inductive Reliability.Kind where
  | reliable
  | rexmit
  | timed
  deriving DecidableEq, Repr

/-- The deprecated `variant<int, milliseconds> rexmit`. -/
inductive Reliability.Rexmit where
  | int (value : ℤ)
  | milliseconds (count : ℤ)
  deriving DecidableEq, Repr

/-- The reliability parameters of a channel or message. The default value is ordered and fully
reliable. -/
structure Reliability where
  unordered : Bool := false
  /-- Time window during which transmissions and retransmissions may occur. -/
  maxPacketLifeTime : Option ℤ := none
  /-- Maximum number of retransmissions that are attempted. -/
  maxRetransmits : Option ℕ := none
  typeDeprecated : Reliability.Kind := .reliable
  rexmit : Reliability.Rexmit := .int 0
  deriving DecidableEq, Repr

/-- `Message::Type`. -/
inductive Message.Kind where
  | binary
  | string
  | control
  | reset
  deriving DecidableEq, Repr

/-- A message handed to or delivered by a transport. `stream` is the `unsigned int` stream field,
not yet converted to a 16-bit stream id. -/
structure Message where
  data : List UInt8
  type : Message.Kind
  stream : ℕ := 0
  reliability : Option Reliability := none
  deriving DecidableEq, Repr

namespace Message

/-- `message->size()`. -/
def size (m : Message) : ℕ := m.data.length

/-- `message->empty()`. -/
def empty (m : Message) : Bool := m.data.isEmpty

end Message

/-- `message_size_func`: the amount a message contributes to a queue. Only user messages count. -/
def messageSizeFunc (m : Message) : ℕ :=
  match m.type with
  | .binary => m.size
  | .string => m.size
  | .control => 0
  | .reset => 0

end Rtc
