import Mathlib.Data.List.Forall2
import QuicRtc.Lib.BigEndian
import QuicRtc.Lib.Leb128
import QuicRtc.Lib.Reader

/-!
# AV1 temporal units

`extractTemporalUnitObus` of `av1rtppacketizer.cpp` takes a temporal unit in the low-overhead format
apart. It steps over the header of an OBU with an extension byte, so that the OBU comes out without
its header. The length is read into 32 bits with `at`, which throws at the end of the message, and
the end of an OBU is not compared with that of the message. The index advances by a sum of 32 bits,
which wraps for an OBU of 4 GiB, so that the next round starts inside of it, or is the same again.

To shift an `int` by 32 bits or more, or to shift bits out of it, is undefined.

* `extractLoop_obu`: one round, for an OBU of any form.
* `splits_iff`: which units come out as their OBUs.
* `extract_ok_iff`: which messages are read without a fault. `readableFrom_iff_of_lt` says what they
  are when they are shorter than 4 GiB.
* `extract_iff`: the two together.
-/

namespace Rtc

namespace Av1

/-- What can go wrong in `extractTemporalUnitObus`. -/
inductive ExtractFault where
  /-- `std::out_of_range`, from `at`. -/
  | outOfRange
  | undefinedShift
  /-- A range beyond the end of the message. -/
  | outside
  /-- The index stays where it is, so that the same round comes again and again. -/
  | endless
  deriving DecidableEq, Repr

/-- `obuTemporalUnitDelimiter`. -/
def obuTemporalUnitDelimiter : List UInt8 := [0x12, 0x00]

/-- `obuHasExtensionMask` is set. -/
def hasExtension (header : UInt8) : Bool := header &&& 0x04 != 0

/-- `obuHasSizeMask` is set. -/
def hasSize (header : UInt8) : Bool := header &&& 0x02 != 0

/-- The loop over the bytes of the length, with the rounds that are left of 8. -/
def leb128Loop (message : List UInt8) (messageIndex : ℕ) :
    ℕ → ℕ → ℕ → Except ExtractFault (ℕ × ℕ)
  | 0, leb128Size, obuLength => .ok (leb128Size, obuLength)
  | rounds + 1, leb128Size, obuLength =>
    let leb128Index := messageIndex + leb128Size + 1
    if message.length < leb128Index then .ok (leb128Size, obuLength)
    else
      match message[leb128Index]? with
      | none => .error .outOfRange
      | some leb128Byte =>
        let group := (leb128Byte &&& 0x7F).toNat <<< (leb128Size * 7)
        -- the shift of an `int`
        if 32 ≤ leb128Size * 7 ∨ 2 ^ 32 ≤ group then .error .undefinedShift
        else if leb128Byte &&& 0x80 = 0 then .ok (leb128Size + 1, obuLength ||| group)
        else leb128Loop message messageIndex rounds (leb128Size + 1) (obuLength ||| group)

/-- Where the loop takes an OBU to start: behind the header if there is an extension byte. -/
def obuStart (header : UInt8) (messageIndex : ℕ) : ℕ :=
  if hasExtension header then messageIndex + 1 else messageIndex

theorem le_obuStart (header : UInt8) (messageIndex : ℕ) :
    messageIndex ≤ obuStart header messageIndex := by
  rw [obuStart]
  split
  · exact Nat.le_succ _
  · exact le_rfl

/-- The loop over the OBUs, each with the index where its range starts. -/
def extractLoop (message : List UInt8) (messageIndex : ℕ) :
    Except ExtractFault (List (ℕ × List UInt8)) :=
  match _h : message[messageIndex]? with
  | none => .ok []
  | some header =>
    if hasSize header then
      let start := obuStart header messageIndex
      match leb128Loop message start 8 0 0 with
      | .error fault => .error fault
      | .ok (leb128Size, obuLength) =>
        -- the iterators are added to one by one
        let stop := start + 1 + leb128Size + obuLength
        -- what is added to the index is a `uint32_t`
        let next := start + (1 + leb128Size + obuLength) % 2 ^ 32
        if message.length < stop then .error .outside
        else if _hnext : next = messageIndex then .error .endless
        else (extractLoop message next).map ((start, (message.take stop).drop start) :: ·)
    else .ok []
termination_by message.length - messageIndex
decreasing_by
  have hlt := (List.getElem?_eq_some_iff.1 _h).1
  have hstart := le_obuStart header messageIndex
  omega

/-- `extractTemporalUnitObus`. An OBU comes with the index where its range starts. -/
def extractTemporalUnitObus (message : List UInt8) :
    Except ExtractFault (List (ℕ × List UInt8)) :=
  if message.length ≤ 2 ∨ message[0]? ≠ obuTemporalUnitDelimiter[0]? ∨
      message[1]? ≠ obuTemporalUnitDelimiter[1]? then .ok []
  else extractLoop message 2

/-! ## Units -/

/-- An OBU with its size: the header, an extension byte if the header says so, the length of the
payload in up to eight bytes, and the payload. -/
structure Obu where
  header : UInt8
  extension : Option UInt8
  size : List UInt8
  payload : List UInt8
  hasSize : hasSize header
  extension_isSome : extension.isSome = hasExtension header
  encodes : Leb128.Encodes size payload.length
  size_le : size.length ≤ 8
  payload_lt : payload.length < 2 ^ 32

namespace Obu

/-- What is behind the header. -/
def afterHeader (o : Obu) : List UInt8 := o.extension.toList ++ o.size ++ o.payload

/-- The OBU as laid out in a unit. -/
def toBytes (o : Obu) : List UInt8 := o.header :: o.afterHeader

/-- The OBU as it comes out, without the header if there is an extension byte. -/
def extracted (o : Obu) : List UInt8 :=
  match o.extension with
  | none => o.toBytes
  | some _ => o.afterHeader

end Obu

/-- A temporal unit. -/
def unitBytes (obus : List Obu) : List UInt8 := obuTemporalUnitDelimiter ++ obus.flatMap Obu.toBytes

/-- Where the headers of the OBUs are, if the first is at the index. -/
def headerIndices : ℕ → List Obu → List ℕ
  | _, [] => []
  | i, o :: obus => i :: headerIndices (i + o.toBytes.length) obus

/-- OBUs come out, which together are the unit without its delimiter and each start at the header of
one of its OBUs. -/
def Splits (obus : List Obu) : Prop :=
  ∃ result, extractTemporalUnitObus (unitBytes obus) = .ok result ∧
    (result.map Prod.snd).flatten = obus.flatMap Obu.toBytes ∧
    result.map Prod.fst = headerIndices 2 obus

/-- How far the index advances for an OBU: by its length, counted in 32 bits. -/
def Obu.advance (o : Obu) : ℕ :=
  o.extension.toList.length + (1 + o.size.length + o.payload.length) % 2 ^ 32

/-- From the index on there are OBUs with sizes of at most five bytes, each where the one before
ends when its length is counted in 32 bits, up to the end or to something that has no size. -/
inductive ReadableFrom (message : List UInt8) : ℕ → Prop where
  | stop {i : ℕ} (h : ∀ header ∈ message[i]?, ¬hasSize header) : ReadableFrom message i
  | obu {i : ℕ} (o : Obu) (hbytes : o.toBytes <+: message.drop i) (hfive : o.size.length ≤ 5)
    (hadvance : o.advance ≠ 0) (hnext : ReadableFrom message (i + o.advance)) :
    ReadableFrom message i

/-- A message is too short or has no delimiter, or there are OBUs behind the delimiter. -/
def Readable (message : List UInt8) : Prop :=
  message.length ≤ 2 ∨ ¬obuTemporalUnitDelimiter <+: message ∨ ReadableFrom message 2

/-! ## The length -/

/-- The seven bits and the high bit of a byte. -/
private theorem byteBits (b : UInt8) :
    (b &&& 0x80 = 0 ↔ b.toNat < 128) ∧ (b.toNat < 128 → (b &&& 0x7F).toNat = b.toNat) ∧
      (128 ≤ b.toNat → (b &&& 0x7F).toNat = b.toNat - 128) := by
  revert b
  exact BigEndian.forall_byte (by decide +kernel)

/-- A group above the bits that are there already. -/
private theorem or_group {acc group k : ℕ} (h : acc < 2 ^ (7 * k)) :
    acc ||| group <<< (k * 7) = acc + group * 2 ^ (7 * k) := by
  rw [Nat.mul_comm k, Nat.or_comm, ← Nat.shiftLeft_add_eq_or_of_lt h, Nat.shiftLeft_eq,
    Nat.add_comm]

/-- One group more. -/
private theorem two_pow_succ_group (k : ℕ) : 2 ^ (7 * (k + 1)) = 128 * 2 ^ (7 * k) := by
  rw [Nat.mul_add, pow_add, Nat.mul_comm]
  rfl

/-- A number of `k` groups, with one group more above them. -/
private theorem add_group_lt {acc k : ℕ} (h : acc < 2 ^ (7 * k)) (b : UInt8) :
    acc + (b.toNat - 128) * 2 ^ (7 * k) < 2 ^ (7 * (k + 1)) := by
  have hb := b.toNat_lt
  have hgroup : (b.toNat - 128) * 2 ^ (7 * k) ≤ 127 * 2 ^ (7 * k) :=
    Nat.mul_le_mul_right _ (by omega)
  rw [two_pow_succ_group]
  omega

/-- The loop over the bytes of a length reads it, unless there are more than five: it shifts by 35
bits for the sixth. -/
theorem leb128Loop_of_encodes {message bytes : List UInt8} {n i : ℕ}
    (h : Leb128.Encodes bytes n) :
    ∀ {rounds k acc : ℕ} {rest : List UInt8}, message.drop (i + k + 1) = bytes ++ rest →
      bytes.length ≤ rounds → acc < 2 ^ (7 * k) → n * 2 ^ (7 * k) < 2 ^ 32 →
      leb128Loop message i rounds k acc =
        if k + bytes.length ≤ 5 then .ok (k + bytes.length, acc + n * 2 ^ (7 * k))
        else .error .undefinedShift := by
  induction h with
  | @last b hlast =>
    intro rounds k acc rest hdrop hrounds hacc hn
    obtain ⟨rounds, rfl⟩ := Nat.exists_eq_add_of_le' hrounds
    have hlt := Reader.lt_length_of_drop hdrop
    obtain ⟨hclear, hgroup, -⟩ := byteBits b
    have hshift : (b &&& 0x7F).toNat <<< (k * 7) = b.toNat * 2 ^ (7 * k) := by
      rw [hgroup hlast, Nat.shiftLeft_eq, Nat.mul_comm k]
    rw [List.length_singleton, leb128Loop]
    simp only [if_neg (not_lt.2 hlt.le), Reader.getElem?_of_drop hdrop]
    by_cases hk : k + 1 ≤ 5
    · -- the group is shifted by 28 bits at most
      rw [if_neg (by rw [hshift]; omega), if_pos (hclear.2 hlast), if_pos hk, or_group hacc,
        hgroup hlast]
    · rw [if_pos (Or.inl (by omega)), if_neg hk]
  | @more b bytes n hmore hbytes ih =>
    intro rounds k acc rest hdrop hrounds hacc hn
    obtain ⟨rounds, rfl⟩ := Nat.exists_eq_add_of_le' (Nat.one_le_of_lt hrounds)
    have hnext := Reader.drop_succ_of_drop hdrop
    have hlt := Reader.lt_length_of_drop hdrop
    obtain ⟨hclear, -, hgroup⟩ := byteBits b
    -- the group of this byte, and the number of the others above it
    have hsum : (b.toNat - 128 + 128 * n) * 2 ^ (7 * k) =
        (b.toNat - 128) * 2 ^ (7 * k) + n * 2 ^ (7 * (k + 1)) := by
      rw [two_pow_succ_group]
      ring
    rw [hsum] at hn ⊢
    have hshift : (b &&& 0x7F).toNat <<< (k * 7) = (b.toNat - 128) * 2 ^ (7 * k) := by
      rw [hgroup hmore, Nat.shiftLeft_eq, Nat.mul_comm k]
    rw [leb128Loop]
    simp only [if_neg (not_lt.2 hlt.le), Reader.getElem?_of_drop hdrop]
    by_cases hk : k + 1 ≤ 5
    · have hset : ¬b &&& 0x80 = 0 := fun hzero => absurd (hclear.1 hzero) (not_lt.2 hmore)
      rw [if_neg (by rw [hshift]; omega), if_neg hset, or_group hacc, hgroup hmore,
        ih hnext (by simpa using hrounds) (add_group_lt hacc b) (by omega), List.length_cons,
        Nat.add_assoc k 1, Nat.add_comm 1, Nat.add_assoc acc]
    · have hlong : ¬k + (b :: bytes).length ≤ 5 := by
        rw [List.length_cons]
        omega
      rw [if_pos (Or.inl (by omega)), if_neg hlong]

/-- What the loop reads without a fault is a length of at most five bytes. -/
theorem encodes_of_leb128Loop {message : List UInt8} {i : ℕ} :
    ∀ {rounds k acc leb128Size obuLength : ℕ}, k + rounds = 8 → k ≤ 5 →
      i + k + 1 ≤ message.length → acc < 2 ^ (7 * k) → acc < 2 ^ 32 →
      leb128Loop message i rounds k acc = .ok (leb128Size, obuLength) →
      ∃ bytes n rest, message.drop (i + k + 1) = bytes ++ rest ∧ Leb128.Encodes bytes n ∧
        leb128Size = k + bytes.length ∧ leb128Size ≤ 5 ∧ obuLength = acc + n * 2 ^ (7 * k) ∧
        obuLength < 2 ^ 32 := by
  intro rounds
  induction rounds with
  | zero =>
    intro k acc leb128Size obuLength hrounds hk
    omega
  | succ rounds ih =>
    intro k acc leb128Size obuLength hrounds hk hle hacc hsmall hloop
    rw [leb128Loop] at hloop
    simp only [if_neg (not_lt.2 hle)] at hloop
    cases hget : message[i + k + 1]? with
    | none =>
      rw [hget] at hloop
      cases hloop
    | some b =>
      rw [hget] at hloop
      obtain ⟨hlt, hb⟩ := List.getElem?_eq_some_iff.1 hget
      have hdrop : message.drop (i + k + 1) = b :: message.drop (i + k + 1 + 1) := by
        rw [List.drop_eq_getElem_cons hlt, hb]
      obtain ⟨hclear, hgroup, hgroup'⟩ := byteBits b
      have hbyte := b.toNat_lt
      simp only at hloop
      split_ifs at hloop with hshift hlast
      · -- the last byte
        push Not at hshift
        obtain ⟨rfl, rfl⟩ : k + 1 = leb128Size ∧
            acc ||| (b &&& 0x7F).toNat <<< (k * 7) = obuLength := by simpa using hloop
        refine ⟨[b], b.toNat, _, hdrop, .last (hclear.1 hlast), rfl, by omega, ?_,
          Nat.or_lt_two_pow hsmall hshift.2⟩
        rw [or_group hacc, hgroup (hclear.1 hlast)]
      · push Not at hshift
        have hmore : 128 ≤ b.toNat := not_lt.1 fun h => hlast (hclear.2 h)
        have hacc' : acc ||| (b &&& 0x7F).toNat <<< (k * 7) < 2 ^ (7 * (k + 1)) := by
          rw [or_group hacc, hgroup' hmore]
          exact add_group_lt hacc b
        obtain ⟨bytes, n, rest, hbytes, hencodes, hsize, hfive, hlength, hbound⟩ :=
          ih (by omega) (by omega) (by omega) hacc' (Nat.or_lt_two_pow hsmall hshift.2) hloop
        refine ⟨b :: bytes, _, rest, ?_, .more hmore hencodes, ?_, hfive, ?_, hbound⟩
        · rw [hdrop, List.cons_append]
          exact congrArg _ hbytes
        · rw [hsize, List.length_cons]
          omega
        · rw [hlength, or_group hacc, hgroup' hmore, two_pow_succ_group]
          ring

/-! ## The loop over the OBUs -/

theorem length_toBytes (o : Obu) : o.toBytes.length =
    1 + o.extension.toList.length + o.size.length + o.payload.length := by
  simp only [Obu.toBytes, Obu.afterHeader, List.length_cons, List.length_append]
  omega

/-- An OBU shorter than 4 GiB is stepped over. -/
theorem advance_of_lt {o : Obu} (h : o.toBytes.length < 2 ^ 32) :
    o.advance = o.toBytes.length := by
  have hlength := length_toBytes o
  rw [Obu.advance, Nat.mod_eq_of_lt (by omega)]
  omega

/-- One OBU. -/
theorem extractLoop_obu (o : Obu) {message rest : List UInt8} {i : ℕ}
    (hdrop : message.drop i = o.toBytes ++ rest) :
    extractLoop message i =
      if 5 < o.size.length then .error .undefinedShift
      else if o.advance = 0 then .error .endless
      else
        (extractLoop message (i + o.advance)).map
          ((i + o.extension.toList.length, o.extracted) :: ·) := by
  have hget : message[i]? = some o.header := Reader.getElem?_of_drop hdrop
  have hafter := Reader.drop_succ_of_drop hdrop
  have hlt := Reader.lt_length_of_drop hdrop
  -- the loop starts one byte late if there is an extension byte
  have hstart : obuStart o.header i = i + o.extension.toList.length := by
    rw [obuStart, ← o.extension_isSome]
    cases o.extension <;> rfl
  have hsize : message.drop (obuStart o.header i + 0 + 1) = o.size ++ (o.payload ++ rest) := by
    have hsplit : message.drop (i + 1) =
        o.extension.toList ++ (o.size ++ (o.payload ++ rest)) := by
      rw [hafter]
      show o.afterHeader ++ rest = _
      rw [Obu.afterHeader, List.append_assoc, List.append_assoc]
    rw [hstart, show i + o.extension.toList.length + 0 + 1 = i + 1 + o.extension.toList.length by
      omega, ← List.drop_drop, hsplit, List.drop_left]
  have hloop : leb128Loop message (obuStart o.header i) 8 0 0 =
      if o.size.length ≤ 5 then .ok (o.size.length, o.payload.length)
      else .error .undefinedShift := by
    have hlt32 : o.payload.length * 2 ^ (7 * 0) < 2 ^ 32 := by simpa using o.payload_lt
    simpa using leb128Loop_of_encodes o.encodes hsize o.size_le (Nat.two_pow_pos _) hlt32
  rw [extractLoop]
  split
  · next hnone => exact absurd (hget.symm.trans hnone) (Option.some_ne_none _)
  · next header hsome =>
    obtain rfl := Option.some.inj (hget.symm.trans hsome)
    rw [if_pos o.hasSize]
    dsimp only
    rw [hloop]
    by_cases hfive : o.size.length ≤ 5
    · have hlength : message.length = i + o.toBytes.length + rest.length := by
        have hcount := congrArg List.length hdrop
        rw [List.length_drop, List.length_append] at hcount
        omega
      have hstop : obuStart o.header i + 1 + o.size.length + o.payload.length =
          i + o.toBytes.length := by
        rw [hstart, length_toBytes]
        omega
      have hnext : obuStart o.header i + (1 + o.size.length + o.payload.length) % 2 ^ 32 =
          i + o.advance := by
        rw [hstart, Obu.advance, Nat.add_assoc]
      rw [if_pos hfive, if_neg (not_lt.2 hfive)]
      dsimp only
      rw [hstop, if_neg (by omega), hnext]
      -- the range of the OBU
      have hrange : (message.take (i + o.toBytes.length)).drop (obuStart o.header i) =
          o.extracted := by
        have htake : (message.take (i + o.toBytes.length)).drop i = o.toBytes := by
          rw [List.drop_take, hdrop, Nat.add_sub_cancel_left, List.take_left]
        rw [hstart, ← List.drop_drop, htake, Obu.extracted]
        cases hextension : o.extension with
        | none => rfl
        | some e => rfl
      rw [hrange, hstart]
      by_cases hadvance : o.advance = 0
      · rw [if_pos hadvance, dif_pos (by omega)]
      · rw [if_neg hadvance, dif_neg (by omega)]
    · rw [if_neg hfive, if_pos (not_le.1 hfive)]

/-- The OBUs as they come out, the first one being at the index. -/
def located : ℕ → List Obu → List (ℕ × List UInt8)
  | _, [] => []
  | i, o :: obus =>
    (i + o.extension.toList.length, o.extracted) :: located (i + o.toBytes.length) obus

/-- OBUs that are shorter than 4 GiB, one after the other. -/
theorem extractLoop_obus {message rest : List UInt8} {obus : List Obu}
    (hall : ∀ o ∈ obus, o.size.length ≤ 5 ∧ o.toBytes.length < 2 ^ 32) :
    ∀ {i : ℕ}, message.drop i = obus.flatMap Obu.toBytes ++ rest →
      extractLoop message i =
        (extractLoop message (i + (obus.flatMap Obu.toBytes).length)).map
          (located i obus ++ ·) := by
  induction obus with
  | nil =>
    intro i _
    show extractLoop message i = (extractLoop message i).map _
    cases extractLoop message i <;> rfl
  | cons o obus ih =>
    intro i hdrop
    obtain ⟨⟨hfive, hshort⟩, hothers⟩ := List.forall_mem_cons.1 hall
    rw [List.flatMap_cons, List.append_assoc] at hdrop
    have hnext : message.drop (i + o.toBytes.length) = obus.flatMap Obu.toBytes ++ rest := by
      rw [← List.drop_drop, hdrop, List.drop_left]
    have hadvance := advance_of_lt hshort
    have hpos : o.advance ≠ 0 := by
      rw [hadvance, length_toBytes]
      omega
    rw [extractLoop_obu o hdrop, if_neg (not_lt.2 hfive), if_neg hpos, hadvance, ih hothers hnext,
      List.flatMap_cons, List.length_append, ← Nat.add_assoc]
    cases extractLoop message _ <;> rfl

/-- The loop stops at the end, and at something that has no size. -/
theorem extractLoop_stop {message : List UInt8} {i : ℕ}
    (h : ∀ header ∈ message[i]?, ¬hasSize header) : extractLoop message i = .ok [] := by
  rw [extractLoop]
  split
  · rfl
  · next header hsome => rw [if_neg (h header hsome)]

theorem delimiter_prefix_iff (message : List UInt8) : obuTemporalUnitDelimiter <+: message ↔
    message[0]? = obuTemporalUnitDelimiter[0]? ∧ message[1]? = obuTemporalUnitDelimiter[1]? := by
  constructor
  · rintro ⟨rest, rfl⟩
    exact ⟨rfl, rfl⟩
  · rintro ⟨hfirst, hsecond⟩
    cases message with
    | nil => cases hfirst
    | cons first message =>
      obtain rfl := Option.some.inj hfirst
      cases message with
      | nil => cases hsecond
      | cons second rest =>
        obtain rfl := Option.some.inj hsecond
        exact ⟨rest, rfl⟩

/-- The loop is over what follows the delimiter. -/
theorem extractTemporalUnitObus_eq (message : List UInt8) : extractTemporalUnitObus message =
    if 2 < message.length ∧ obuTemporalUnitDelimiter <+: message then extractLoop message 2
    else .ok [] := by
  have hguard : (message.length ≤ 2 ∨ message[0]? ≠ obuTemporalUnitDelimiter[0]? ∨
      message[1]? ≠ obuTemporalUnitDelimiter[1]?) ↔
        ¬(2 < message.length ∧ obuTemporalUnitDelimiter <+: message) := by
    rw [delimiter_prefix_iff, not_and_or, not_and_or, not_lt]
  rw [extractTemporalUnitObus]
  by_cases h : 2 < message.length ∧ obuTemporalUnitDelimiter <+: message
  · rw [if_pos h, if_neg fun h' => hguard.1 h' h]
  · rw [if_neg h, if_pos (hguard.2 h)]

/-- The bytes from where the loop takes an OBU to start, with the header that it may have left
out. -/
theorem exists_extension {message : List UInt8} {header : UInt8} {i : ℕ}
    (hget : message[i]? = some header) (hle : obuStart header i + 1 ≤ message.length) :
    ∃ extension : Option UInt8, extension.isSome = hasExtension header ∧
      obuStart header i = i + extension.toList.length ∧
      message.drop i = header :: (extension.toList ++ message.drop (obuStart header i + 1)) := by
  obtain ⟨hlt, hheader⟩ := List.getElem?_eq_some_iff.1 hget
  have hdrop : message.drop i = header :: message.drop (i + 1) := by
    rw [List.drop_eq_getElem_cons hlt, hheader]
  unfold obuStart at hle ⊢
  cases hextension : hasExtension header with
  | false => exact ⟨none, rfl, rfl, hdrop⟩
  | true =>
    rw [hextension] at hle
    have hlt' : i + 1 < message.length := hle
    refine ⟨some message[i + 1], rfl, rfl, ?_⟩
    rw [hdrop, List.drop_eq_getElem_cons hlt']
    rfl

/-- A length that is read without a fault, for a payload that is inside, is that of an OBU. -/
theorem exists_obu_of_leb128Loop {message : List UInt8} {header : UInt8}
    {i leb128Size obuLength : ℕ} (hget : message[i]? = some header) (hsize : hasSize header)
    (hle : obuStart header i + 1 ≤ message.length)
    (hleb : leb128Loop message (obuStart header i) 8 0 0 = .ok (leb128Size, obuLength))
    (hstop : obuStart header i + 1 + leb128Size + obuLength ≤ message.length) :
    ∃ o : Obu, o.size.length ≤ 5 ∧ o.toBytes <+: message.drop i := by
  obtain ⟨bytes, n, rest, hbytes, hencodes, hcount, hfive, hlength, hbound⟩ :=
    encodes_of_leb128Loop (by rfl) (by omega) hle (by simp) (by simp) hleb
  obtain ⟨extension, hisSome, hstart, hdrop⟩ := exists_extension hget hle
  have hcount' : leb128Size = bytes.length := hcount.trans (Nat.zero_add _)
  have hlength' : obuLength = n := by simpa using hlength
  subst hcount' hlength'
  rw [Nat.add_zero] at hbytes
  have hrest : message.drop (obuStart header i + 1 + bytes.length) = rest :=
    Reader.drop_add_of_drop hbytes
  have hpayload : (rest.take obuLength).length = obuLength := by
    rw [List.length_take, ← hrest, List.length_drop]
    omega
  let o : Obu :=
    { header, extension, size := bytes, payload := rest.take obuLength
      hasSize := hsize
      extension_isSome := hisSome
      encodes := by rwa [hpayload]
      size_le := hfive.trans (by decide)
      payload_lt := by rwa [hpayload] }
  refine ⟨o, hfive, rest.drop obuLength, ?_⟩
  rw [hdrop, hbytes, Obu.toBytes, Obu.afterHeader]
  simp only [List.cons_append, List.append_assoc, List.take_append_drop, o]

/-- What is read without a fault at an index: nothing that has a size, or an OBU, and then what is
read where the index gets to. -/
theorem extractLoop_eq_ok {message : List UInt8} {i : ℕ} {result : List (ℕ × List UInt8)}
    (h : extractLoop message i = .ok result) :
    (result = [] ∧ ∀ header ∈ message[i]?, ¬hasSize header) ∨
      ∃ (o : Obu) (others : List (ℕ × List UInt8)), o.toBytes <+: message.drop i ∧
        o.size.length ≤ 5 ∧ o.advance ≠ 0 ∧ extractLoop message (i + o.advance) = .ok others ∧
        result = (i + o.extension.toList.length, o.extracted) :: others := by
  by_cases hstop : ∀ header ∈ message[i]?, ¬hasSize header
  · rw [extractLoop_stop hstop] at h
    exact Or.inl ⟨(Except.ok.inj h).symm, hstop⟩
  · push Not at hstop
    obtain ⟨header, hget, hsize⟩ := hstop
    right
    obtain ⟨o, hfive, hprefix⟩ : ∃ o : Obu, o.size.length ≤ 5 ∧ o.toBytes <+: message.drop i := by
      rw [extractLoop] at h
      split at h
      · next hnone => cases hnone.symm.trans hget
      · next other hother =>
        obtain rfl := Option.some.inj (hother.symm.trans hget)
        rw [if_pos hsize] at h
        dsimp only at h
        by_cases hle : obuStart other i + 1 ≤ message.length
        · cases hleb : leb128Loop message (obuStart other i) 8 0 0 with
          | error fault =>
            rw [hleb] at h
            cases h
          | ok lengths =>
            obtain ⟨leb128Size, obuLength⟩ := lengths
            rw [hleb] at h
            dsimp only at h
            split_ifs at h with hlt
            all_goals exact exists_obu_of_leb128Loop hget hsize hle hleb (not_lt.1 hlt)
        · -- the range that starts behind the end of the message
          rw [leb128Loop, if_pos (by omega)] at h
          dsimp only at h
          rw [if_pos (by omega)] at h
          cases h
    obtain ⟨rest, hdrop⟩ := hprefix
    rw [extractLoop_obu o hdrop.symm, if_neg (not_lt.2 hfive)] at h
    split_ifs at h with hadvance
    cases hothers : extractLoop message (i + o.advance) with
    | error fault =>
      rw [hothers] at h
      cases h
    | ok others =>
      rw [hothers] at h
      exact ⟨o, others, ⟨rest, hdrop⟩, hfive, hadvance, hothers, (Except.ok.inj h).symm⟩

/-- What is read without a fault are OBUs. -/
theorem readableFrom_of_extractLoop {message : List UInt8} {i : ℕ}
    {result : List (ℕ × List UInt8)} (h : extractLoop message i = .ok result) :
    ReadableFrom message i := by
  induction result generalizing i with
  | nil =>
    rcases extractLoop_eq_ok h with ⟨-, hstop⟩ | ⟨o, others, -, -, -, -, heq⟩
    · exact .stop hstop
    · cases heq
  | cons first result ih =>
    rcases extractLoop_eq_ok h with ⟨hnil, -⟩ | ⟨o, others, hprefix, hfive, hadvance, hnext, heq⟩
    · cases hnil
    · obtain ⟨-, rfl⟩ := List.cons.inj heq
      exact .obu o hprefix hfive hadvance (ih hnext)

theorem ReadableFrom.exists_result {message : List UInt8} {i : ℕ} (h : ReadableFrom message i) :
    ∃ result, extractLoop message i = .ok result := by
  induction h with
  | stop h => exact ⟨[], extractLoop_stop h⟩
  | obu o hprefix hfive hadvance _ ih =>
    obtain ⟨rest, hdrop⟩ := hprefix
    obtain ⟨result, hresult⟩ := ih
    rw [extractLoop_obu o hdrop.symm, if_neg (not_lt.2 hfive), if_neg hadvance, hresult]
    exact ⟨_, rfl⟩

/-! ## Units -/

/-- The loop over the OBUs of a unit. -/
theorem extract_unit (obus : List Obu) :
    extractTemporalUnitObus (unitBytes obus) = extractLoop (unitBytes obus) 2 := by
  rw [extractTemporalUnitObus_eq]
  by_cases hshort : 2 < (unitBytes obus).length
  · rw [if_pos ⟨hshort, _, rfl⟩]
  · -- nothing is behind the delimiter
    have hnone : (unitBytes obus)[2]? = none := List.getElem?_eq_none (not_lt.1 hshort)
    rw [if_neg fun h => hshort h.1, extractLoop_stop]
    rw [hnone]
    simp

/-- Bytes with the bit of a size. -/
private theorem hasSize_of_toNat (b : UInt8) :
    b.toNat = 251 ∨ b.toNat = 255 ∨ b.toNat = 15 → hasSize b := by
  revert b
  exact BigEndian.forall_byte (by decide +kernel)

/-- In an OBU of 4 GiB the index gets to a byte of the size, which looks like a header with a
size. -/
theorem hasSize_of_wraps {o : Obu} (hextension : o.extension = none) (hfive : o.size.length ≤ 5)
    (hlong : 2 ^ 32 ≤ o.toBytes.length) (hadvance : o.advance ≠ 0) :
    ∃ b, o.toBytes[o.advance]? = some b ∧ hasSize b := by
  have hlength := length_toBytes o
  have hlt := o.payload_lt
  rw [hextension, Option.toList_none, List.length_nil] at hlength
  -- the number has more than 31 bits, so that four bytes say that another one follows
  obtain ⟨b₀, rest, n₁, hsize, hb₀, h₁, hn⟩ := o.encodes.cons_of_le (by omega)
  have hlt₀ := b₀.toNat_lt
  obtain ⟨b₁, rest, n₂, rfl, hb₁, h₂, hn₁⟩ := h₁.cons_of_le (by omega)
  have hlt₁ := b₁.toNat_lt
  obtain ⟨b₂, rest, n₃, rfl, hb₂, h₃, hn₂⟩ := h₂.cons_of_le (by omega)
  have hlt₂ := b₂.toNat_lt
  obtain ⟨b₃, rest, n₄, rfl, hb₃, h₄, hn₃⟩ := h₃.cons_of_le (by omega)
  have hlt₃ := b₃.toNat_lt
  have hfifth : ∃ b₄ : UInt8, rest = [b₄] ∧ n₄ = b₄.toNat := by
    cases h₄ with
    | last _ => exact ⟨_, rfl, rfl⟩
    | more _ hmore =>
      have hpos := List.length_pos_of_ne_nil hmore.ne_nil
      rw [hsize] at hfive
      simp only [List.length_cons] at hfive
      omega
  obtain ⟨b₄, rfl, rfl⟩ := hfifth
  have hbytes : o.toBytes = o.header :: b₀ :: b₁ :: b₂ :: b₃ :: b₄ :: o.payload := by
    rw [Obu.toBytes, Obu.afterHeader, hextension, hsize]
    rfl
  have hcount : o.size.length = 5 := by rw [hsize]; rfl
  have hsum : o.advance + 2 ^ 32 = 6 + o.payload.length := by
    rw [Obu.advance, hextension, Option.toList_none, List.length_nil, hcount]
    omega
  rw [hbytes]
  -- the payload is that much longer than all but the last six numbers of 32 bits
  obtain hcase | hcase | hcase | hcase | hcase : o.advance = 1 ∨ o.advance = 2 ∨ o.advance = 3 ∨
      o.advance = 4 ∨ o.advance = 5 := by omega
  · rw [hcase]
    exact ⟨b₀, rfl, hasSize_of_toNat _ (by omega)⟩
  · rw [hcase]
    exact ⟨b₁, rfl, hasSize_of_toNat _ (by omega)⟩
  · rw [hcase]
    exact ⟨b₂, rfl, hasSize_of_toNat _ (by omega)⟩
  · rw [hcase]
    exact ⟨b₃, rfl, hasSize_of_toNat _ (by omega)⟩
  · rw [hcase]
    exact ⟨b₄, rfl, hasSize_of_toNat _ (by omega)⟩

/-- The OBUs come out, each at its header, only if none has an extension byte, a size of more than
five bytes, or 4 GiB. -/
theorem forall_of_extractLoop {message : List UInt8} {obus : List Obu} :
    ∀ {i : ℕ} {result : List (ℕ × List UInt8)}, message.drop i = obus.flatMap Obu.toBytes →
      extractLoop message i = .ok result → result.map Prod.fst = headerIndices i obus →
      ∀ o ∈ obus, o.extension = none ∧ o.size.length ≤ 5 ∧ o.toBytes.length < 2 ^ 32 := by
  induction obus with
  | nil => exact fun _ _ _ => List.forall_mem_nil _
  | cons o obus ih =>
    intro i result hdrop hloop hstarts
    rw [List.flatMap_cons] at hdrop
    rw [extractLoop_obu o hdrop] at hloop
    split_ifs at hloop with hlong hadvance
    have hfive := not_lt.1 hlong
    cases hothers : extractLoop message (i + o.advance) with
    | error fault =>
      rw [hothers] at hloop
      cases hloop
    | ok others =>
      rw [hothers] at hloop
      obtain rfl := Except.ok.inj hloop
      obtain ⟨hstart, hstarts⟩ := List.cons.inj hstarts
      -- the range starts behind an extension byte
      have hextension : o.extension = none := by
        cases hsome : o.extension with
        | none => rfl
        | some e =>
          rw [hsome] at hstart
          exact absurd hstart (Nat.succ_ne_self i)
      have hshort : o.toBytes.length < 2 ^ 32 := by
        by_contra hwraps
        have hlength := length_toBytes o
        have hbound : o.advance < 6 := by
          have hlt := o.payload_lt
          rw [hextension, Option.toList_none, List.length_nil] at hlength
          rw [Obu.advance, hextension, Option.toList_none, List.length_nil]
          omega
        -- there is something that looks like an OBU where the index gets to
        obtain ⟨b, hb, hsize⟩ := hasSize_of_wraps hextension hfive (not_lt.1 hwraps) hadvance
        have hget : message[i + o.advance]? = some b := by
          rw [← List.getElem?_drop, hdrop, List.getElem?_append_left (by omega)]
          exact hb
        rcases extractLoop_eq_ok hothers with ⟨-, hstop⟩ | ⟨o', others', -, -, -, -, rfl⟩
        · exact hstop b hget hsize
        · -- it starts in front of the next OBU, if there is one
          cases obus with
          | nil => cases hstarts
          | cons next obus =>
            obtain ⟨hsame, -⟩ := List.cons.inj hstarts
            have hle : o'.extension.toList.length ≤ 1 := by
              cases o'.extension with
              | none => exact Nat.zero_le _
              | some e => exact le_rfl
            dsimp only at hsame
            omega
      have hnext : message.drop (i + o.toBytes.length) = obus.flatMap Obu.toBytes := by
        rw [← List.drop_drop, hdrop, List.drop_left]
      rw [advance_of_lt hshort] at hothers
      rw [List.forall_mem_cons]
      exact ⟨⟨hextension, hfive, hshort⟩, ih hnext hothers hstarts⟩

/-- OBUs without an extension byte come out as they are. -/
theorem located_of_forall {obus : List Obu} (hall : ∀ o ∈ obus, o.extension = none) :
    ∀ i : ℕ, ((located i obus).map Prod.snd).flatten = obus.flatMap Obu.toBytes ∧
      (located i obus).map Prod.fst = headerIndices i obus := by
  induction obus with
  | nil => exact fun _ => ⟨rfl, rfl⟩
  | cons o obus ih =>
    intro i
    obtain ⟨hextension, hothers⟩ := List.forall_mem_cons.1 hall
    obtain ⟨hbytes, hstarts⟩ := ih hothers (i + o.toBytes.length)
    have hextracted : o.extracted = o.toBytes := by rw [Obu.extracted, hextension]
    constructor
    · rw [located, List.map_cons, List.flatten_cons, hbytes, hextracted, List.flatMap_cons]
    · rw [located, List.map_cons, hstarts, hextension, headerIndices]
      rfl

/-- A unit is split exactly if no OBU has an extension byte, a size of more than five bytes, or
4 GiB. -/
theorem splits_iff (obus : List Obu) : Splits obus ↔
    ∀ o ∈ obus, o.extension = none ∧ o.size.length ≤ 5 ∧ o.toBytes.length < 2 ^ 32 := by
  have hdrop : (unitBytes obus).drop 2 = obus.flatMap Obu.toBytes := rfl
  rw [Splits, extract_unit]
  constructor
  · rintro ⟨result, hresult, -, hstarts⟩
    exact forall_of_extractLoop hdrop hresult hstarts
  · intro hall
    have hloop := extractLoop_obus (fun o ho => (hall o ho).2)
      (hdrop.trans (List.append_nil _).symm)
    have hend : (unitBytes obus)[2 + (obus.flatMap Obu.toBytes).length]? = none := by
      refine List.getElem?_eq_none ?_
      rw [unitBytes, List.length_append]
      rfl
    have hstop : extractLoop (unitBytes obus) (2 + (obus.flatMap Obu.toBytes).length) = .ok [] :=
      extractLoop_stop (by rw [hend]; simp)
    rw [hstop] at hloop
    obtain ⟨hbytes, hstarts⟩ := located_of_forall (fun o ho => (hall o ho).1) 2
    refine ⟨_, hloop.trans (congrArg Except.ok (List.append_nil _)), hbytes, hstarts⟩

/-- An OBU of 4 GiB is read again and again. -/
theorem extract_endless {o : Obu} (hextension : o.extension = none) (hfive : o.size.length ≤ 5)
    (hlength : o.toBytes.length = 2 ^ 32) (obus : List Obu) :
    extractTemporalUnitObus (unitBytes (o :: obus)) = .error .endless := by
  have hdrop : (unitBytes (o :: obus)).drop 2 = o.toBytes ++ obus.flatMap Obu.toBytes := rfl
  have hadvance : o.advance = 0 := by
    rw [length_toBytes, hextension, Option.toList_none, List.length_nil] at hlength
    rw [Obu.advance, hextension, Option.toList_none, List.length_nil, Nat.zero_add]
    omega
  rw [extract_unit, extractLoop_obu o hdrop, if_neg (not_lt.2 hfive), if_pos hadvance]

/-- A message is read without a fault exactly if it is readable. -/
theorem extract_ok_iff (message : List UInt8) :
    (∃ result, extractTemporalUnitObus message = .ok result) ↔ Readable message := by
  rw [extractTemporalUnitObus_eq]
  split_ifs with h
  · constructor
    · rintro ⟨result, hresult⟩
      exact Or.inr (Or.inr (readableFrom_of_extractLoop hresult))
    · rintro (hshort | hdelimiter | hfrom)
      · exact absurd h.1 (not_lt.2 hshort)
      · exact absurd h.2 hdelimiter
      · exact hfrom.exists_result
  · refine iff_of_true ⟨[], rfl⟩ ?_
    rcases not_and_or.1 h with hshort | hdelimiter
    · exact Or.inl (not_lt.1 hshort)
    · exact Or.inr (Or.inl hdelimiter)

/-- In a message shorter than 4 GiB, readable is what consists of OBUs with sizes of at most five
bytes, and may go on with something that has no size. -/
theorem readableFrom_iff_of_lt {message : List UInt8} (hlt : message.length < 2 ^ 32) {i : ℕ} :
    ReadableFrom message i ↔
      ∃ (obus : List Obu) (rest : List UInt8), message.drop i = obus.flatMap Obu.toBytes ++ rest ∧
        (∀ o ∈ obus, o.size.length ≤ 5) ∧ ∀ header ∈ rest.head?, ¬hasSize header := by
  constructor
  · intro h
    induction h with
    | @stop i h =>
      refine ⟨[], message.drop i, rfl, List.forall_mem_nil _, ?_⟩
      rw [List.head?_drop]
      exact h
    | @obu i o hprefix hfive _ _ ih =>
      obtain ⟨obus, rest, hnext, hfives, hstop⟩ := ih
      obtain ⟨behind, hdrop⟩ := hprefix
      have hshort : o.toBytes.length < 2 ^ 32 := by
        have hcount := congrArg List.length hdrop
        rw [List.length_append, List.length_drop] at hcount
        omega
      rw [advance_of_lt hshort, ← List.drop_drop, ← hdrop, List.drop_left] at hnext
      refine ⟨o :: obus, rest, ?_, List.forall_mem_cons.2 ⟨hfive, hfives⟩, hstop⟩
      rw [← hdrop, hnext, List.flatMap_cons, List.append_assoc]
  · rintro ⟨obus, rest, hdrop, hfives, hstop⟩
    -- the OBUs are inside of the message, so that none of them wraps
    induction obus generalizing i with
    | nil =>
      refine .stop ?_
      rw [← List.head?_drop, hdrop]
      exact hstop
    | cons o obus ih =>
      obtain ⟨hfive, hothers⟩ := List.forall_mem_cons.1 hfives
      rw [List.flatMap_cons, List.append_assoc] at hdrop
      have hcount := congrArg List.length hdrop
      rw [List.length_append, List.length_drop] at hcount
      have hadvance : o.advance = o.toBytes.length := advance_of_lt (by omega)
      refine .obu o ⟨_, hdrop.symm⟩ hfive ?_ (ih ?_ hothers)
      · rw [hadvance, length_toBytes]
        omega
      · rw [hadvance, ← List.drop_drop, hdrop, List.drop_left]

/-- Units are split exactly if no OBU has an extension byte, a size of more than five bytes, or
4 GiB, and messages are read without a fault exactly if they are readable. -/
theorem extract_iff (obus : List Obu) (message : List UInt8) :
    (Splits obus ↔
        ∀ o ∈ obus, o.extension = none ∧ o.size.length ≤ 5 ∧ o.toBytes.length < 2 ^ 32) ∧
      ((∃ result, extractTemporalUnitObus message = .ok result) ↔ Readable message) :=
  ⟨splits_iff obus, extract_ok_iff message⟩

/-- A frame OBU with an extension byte and a payload of one byte. -/
def extendedObu : Obu where
  header := 0x36
  extension := some 0x00
  size := [1]
  payload := [0xAA]
  hasSize := by decide
  extension_isSome := by decide
  encodes := Leb128.encodes_of_lt (by decide)
  size_le := by decide
  payload_lt := by decide

/-- The header before an extension byte is lost. A size that is cut off throws, and a payload that
is cut off makes a range outside the message. -/
theorem not_extract :
    extractTemporalUnitObus (unitBytes [extendedObu]) = .ok [(3, [0x00, 1, 0xAA])] ∧
      ¬Splits [extendedObu] ∧
      extractTemporalUnitObus [0x12, 0x00, 0x32] = .error .outOfRange ∧
      extractTemporalUnitObus [0x12, 0x00, 0x32, 0x05] = .error .outside := by
  refine ⟨?_, ?_, ?_, ?_⟩
  · have hdrop : (unitBytes [extendedObu]).drop 2 = extendedObu.toBytes ++ [] := rfl
    have hend : (unitBytes [extendedObu])[2 + extendedObu.advance]? = none := rfl
    have hstop : ∀ header ∈ (unitBytes [extendedObu])[2 + extendedObu.advance]?,
        ¬hasSize header := by simp [hend]
    rw [extract_unit, extractLoop_obu extendedObu hdrop, if_neg (by decide), if_neg (by decide),
      extractLoop_stop hstop]
    rfl
  · rw [splits_iff]
    intro hall
    exact Option.some_ne_none _ (hall extendedObu (List.mem_singleton_self _)).1
  · rw [extractTemporalUnitObus, if_neg (by decide), extractLoop]
    rfl
  · rw [extractTemporalUnitObus, if_neg (by decide), extractLoop]
    rfl

end Av1

end Rtc
