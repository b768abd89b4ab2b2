import Mathlib.Data.List.Infix
import QuicRtc.Lib.BigEndian
import QuicRtc.Lib.Reader
import QuicRtc.Rtp.Fragments

/-!
# The NAL units of a message

`H264RtpPacketizer::splitMessage` and `H265RtpPacketizer::splitMessage`, which are the same
function, and `NalUnit::StartSequenceMatchSucc` (`nalunit.hpp`). The units are ranges of the
message, each with its length in four bytes in front of it or behind a start code. Assertions are
compiled out.

* `Joined`: a message that is made of units, each behind its length or a start code.
* `splitMessage_spec`: the units of such a message are found, and in any message the ranges lie in
  it, disjoint and in order.
-/

namespace Rtc

/-- `NalUnit::Separator`: `Length`, or one that the depacketizers know as well. -/
inductive NalUnit.Separator where
  | length
  | sequence (separator : Rtc.Separator)
  deriving DecidableEq, Repr

/-- `NalUnitStartSequenceMatch`. -/
inductive NalUnitStartSequenceMatch where
  | noMatch
  | firstZero
  | secondZero
  | thirdZero
  | shortMatch
  | longMatch
  deriving DecidableEq, Repr

namespace NalUnitStartSequenceMatch

/-- `NalUnit::StartSequenceMatchSucc`. -/
def succ (state : NalUnitStartSequenceMatch) (byte : UInt8) (separator : Separator) :
    NalUnitStartSequenceMatch :=
  let detectShort := separator = .shortStartSequence ∨ separator = .startSequence
  let detectLong := separator = .longStartSequence ∨ separator = .startSequence
  match state with
  | .noMatch => if byte = 0x00 then .firstZero else .noMatch
  | .firstZero => if byte = 0x00 then .secondZero else .noMatch
  | .secondZero =>
    if byte = 0x00 ∧ detectLong then .thirdZero
    else if byte = 0x00 ∧ detectShort then .secondZero
    else if byte = 0x01 ∧ detectShort then .shortMatch
    else .noMatch
  | .thirdZero =>
    if byte = 0x00 ∧ detectLong then .thirdZero
    else if byte = 0x01 ∧ detectLong then .longMatch
    else .noMatch
  | .shortMatch => .shortMatch
  | .longMatch => .longMatch

/-- A start code has been read. -/
def isMatch (state : NalUnitStartSequenceMatch) : Bool :=
  state = .longMatch || state = .shortMatch

/-- The length of the start code that has been read. -/
def sequenceLength (state : NalUnitStartSequenceMatch) : ℕ :=
  if state = .longMatch then 4 else 3

end NalUnitStartSequenceMatch

/-- The iterators of a unit, as indices. The end is computed backwards, so that it may be
anything. -/
structure UnitRange where
  begin : ℕ
  «end» : ℤ
  deriving DecidableEq, Repr

/-- The bytes of a unit. -/
def UnitRange.unit (range : UnitRange) (message : List UInt8) : List UInt8 :=
  (message.drop range.begin).take (range.end - range.begin).toNat

namespace RtpPacketizer

variable (message : List UInt8)

/-- The loop of `splitMessage` for `Separator::Length`. -/
def lengthRanges (index : ℕ) : List UnitRange :=
  if index < message.length then
    -- the length, or all of the unit, is missing
    if message.length ≤ index + 4 then []
    else
      let length := BigEndian.decode ((message.drop index).take 4)
      let naluStartIndex := index + 4
      let naluEndIndex := naluStartIndex + length
      -- a part of the unit is missing
      if message.length < naluEndIndex then []
      else ⟨naluStartIndex, naluEndIndex⟩ :: lengthRanges naluEndIndex
  else []
termination_by message.length - index

variable (separator : Separator)

/-- The first loop of `splitMessage` for start codes, which looks for the first one: the index
behind it. -/
def firstUnit (state : NalUnitStartSequenceMatch) (index : ℕ) : ℕ :=
  if h : index < message.length then
    let state := state.succ message[index] separator
    if state.isMatch then index + 1 else firstUnit state (index + 1)
  else index
termination_by message.length - index

/-- The second loop of `splitMessage` for start codes, and the unit at the end. -/
def sequenceRanges (state : NalUnitStartSequenceMatch) (naluStartIndex index : ℕ) :
    List UnitRange :=
  if h : index < message.length then
    let state := state.succ message[index] separator
    if state.isMatch then
      -- the index is that of the last byte of the start code
      let naluEndIndex : ℤ := index - state.sequenceLength
      ⟨naluStartIndex, naluEndIndex + 1⟩ :: sequenceRanges .noMatch (index + 1) (index + 1)
    else sequenceRanges state naluStartIndex (index + 1)
  else [⟨naluStartIndex, message.length⟩]
termination_by message.length - index

/-- The ranges that `splitMessage` forms. -/
def ranges (separator : NalUnit.Separator) : List UnitRange :=
  match separator with
  | .length => lengthRanges message 0
  | .sequence separator =>
    let index := firstUnit message separator .noMatch 0
    sequenceRanges message separator .noMatch index index

/-- `splitMessage`. -/
def splitMessage (separator : NalUnit.Separator) : List (List UInt8) :=
  (ranges message separator).map (·.unit message)

end RtpPacketizer

/-- `H264RtpPacketizer::splitMessage`. -/
def H264RtpPacketizer.splitMessage (separator : NalUnit.Separator) (message : List UInt8) :
    List (List UInt8) :=
  RtpPacketizer.splitMessage message separator

/-- `H265RtpPacketizer::splitMessage`. -/
def H265RtpPacketizer.splitMessage (separator : NalUnit.Separator) (message : List UInt8) :
    List (List UInt8) :=
  RtpPacketizer.splitMessage message separator

/-- The start codes that a separator recognises. -/
def Separator.startCodes : Separator → List (List UInt8)
  | .longStartSequence => [[0, 0, 0, 1]]
  | .shortStartSequence => [[0, 0, 1]]
  | .startSequence => [[0, 0, 0, 1], [0, 0, 1]]

/-- What stands in front of a unit: its length in four bytes, or a start code. -/
def NalUnit.Separator.Introduces (separator : NalUnit.Separator) (code unit : List UInt8) : Prop :=
  match separator with
  | .length => unit.length < 256 ^ 4 ∧ code = BigEndian.encode 4 unit.length
  | .sequence separator => code ∈ separator.startCodes

/-- The concatenation of units. -/
inductive Joined (separator : NalUnit.Separator) : List (List UInt8) → List UInt8 → Prop
  | nil : Joined separator [] []
  | cons {code unit rest : List UInt8} {units : List (List UInt8)} :
      separator.Introduces code unit → Joined separator units rest →
        Joined separator (unit :: units) (code ++ (unit ++ rest))

/-- A unit can be told from start codes: it contains none that the separator recognises, and does
not end in a zero byte, so that none straddles its end. -/
def NalUnit.Separator.Separates (separator : NalUnit.Separator) (unit : List UInt8) : Prop :=
  match separator with
  | .length => True
  | .sequence separator =>
    (∀ code ∈ separator.startCodes, ¬code <:+: unit) ∧ unit.getLast? ≠ some 0

/-! ### Ranges -/

/-- The ranges lie in the message from an index on, disjoint and in order. -/
structure InOrder (message : List UInt8) (index : ℕ) (ranges : List UnitRange) : Prop where
  within : ∀ range ∈ ranges,
    index ≤ range.begin ∧ (range.begin : ℤ) ≤ range.end ∧ range.end ≤ message.length
  disjoint : ranges.Pairwise (·.end ≤ ·.begin)

theorem InOrder.nil {message : List UInt8} {index : ℕ} : InOrder message index [] :=
  ⟨by simp, List.Pairwise.nil⟩

/-- A range in front of the others. -/
theorem InOrder.cons {message : List UInt8} {index next : ℕ} {range : UnitRange}
    {ranges : List UnitRange} (h : InOrder message next ranges) (hbegin : index ≤ range.begin)
    (hle : (range.begin : ℤ) ≤ range.end) (hend : range.end ≤ next)
    (hnext : next ≤ message.length) :
    InOrder message index (range :: ranges) where
  within := by
    intro r hr
    rcases List.mem_cons.1 hr with rfl | hr
    · exact ⟨hbegin, hle, by omega⟩
    · obtain ⟨hfrom, hrest⟩ := h.within r hr
      exact ⟨by omega, hrest⟩
  disjoint := by
    refine List.pairwise_cons.2 ⟨fun r hr => ?_, h.disjoint⟩
    have hfrom := (h.within r hr).1
    omega

namespace NalUnitStartSequenceMatch

variable {state : NalUnitStartSequenceMatch} {byte : UInt8} {separator : Separator}

/-- The zero bytes of a start code that have been read. -/
def zeros : NalUnitStartSequenceMatch → ℕ
  | .firstZero => 1
  | .secondZero => 2
  | .thirdZero => 3
  | _ => 0

theorem zeros_succ_le : (state.succ byte separator).zeros ≤ state.zeros + 1 := by
  cases state with
  | shortMatch => exact Nat.zero_le _
  | longMatch => exact Nat.zero_le _
  | _ =>
    simp only [succ]
    split_ifs <;> decide

/-- The length of the code that is read is that of its zeros, which have been counted, and one. -/
theorem sequenceLength_succ (hstate : state.isMatch = false)
    (hmatch : (state.succ byte separator).isMatch = true) :
    (state.succ byte separator).sequenceLength = state.zeros + 1 := by
  cases state with
  | noMatch =>
    simp only [succ] at hmatch
    split_ifs at hmatch <;> simp [isMatch] at hmatch
  | firstZero =>
    simp only [succ] at hmatch
    split_ifs at hmatch <;> simp [isMatch] at hmatch
  | secondZero =>
    simp only [succ] at hmatch ⊢
    split_ifs at hmatch ⊢ <;> simp [isMatch, sequenceLength, zeros] at hmatch ⊢
  | thirdZero =>
    simp only [succ] at hmatch ⊢
    split_ifs at hmatch ⊢ <;> simp [isMatch, sequenceLength, zeros] at hmatch ⊢
  | shortMatch => simp [isMatch] at hstate
  | longMatch => simp [isMatch] at hstate

end NalUnitStartSequenceMatch

namespace RtpPacketizer

open NalUnitStartSequenceMatch

variable {message : List UInt8} {separator : Separator}

theorem inOrder_lengthRanges (index : ℕ) :
    InOrder message index (lengthRanges message index) := by
  induction index using lengthRanges.induct message with
  | case1 index hlt hshort =>
    rw [lengthRanges, if_pos hlt, if_pos hshort]
    exact InOrder.nil
  | case2 index hlt hlong length naluStartIndex naluEndIndex hincomplete =>
    rw [lengthRanges, if_pos hlt, if_neg hlong, if_pos hincomplete]
    exact InOrder.nil
  | case3 index hlt hlong length naluStartIndex naluEndIndex hcomplete ih =>
    rw [lengthRanges, if_pos hlt, if_neg hlong, if_neg hcomplete]
    refine InOrder.cons ih (Nat.le_add_right _ _) ?_ le_rfl (not_lt.1 hcomplete)
    show ((index + 4 : ℕ) : ℤ) ≤ ((index + 4 + length : ℕ) : ℤ)
    omega
  | case4 index hend =>
    rw [lengthRanges, if_neg hend]
    exact InOrder.nil

/-- The zeros of a code belong to the unit that is looked through, so that its end is not in front
of its start. -/
theorem inOrder_sequenceRanges (state : NalUnitStartSequenceMatch) (naluStartIndex index : ℕ) :
    state.isMatch = false → naluStartIndex + state.zeros ≤ index → index ≤ message.length →
      InOrder message naluStartIndex
        (sequenceRanges message separator state naluStartIndex index) := by
  induction state, naluStartIndex, index using sequenceRanges.induct message separator with
  | case1 state naluStartIndex index hlt next hmatch ih =>
    intro hstate hzeros _
    have hlength : next.sequenceLength = state.zeros + 1 := sequenceLength_succ hstate hmatch
    rw [sequenceRanges, dif_pos hlt, if_pos hmatch]
    refine InOrder.cons (ih rfl le_rfl hlt) le_rfl ?_ ?_ hlt
    · show (naluStartIndex : ℤ) ≤ (index : ℤ) - next.sequenceLength + 1
      omega
    · show (index : ℤ) - next.sequenceLength + 1 ≤ ((index + 1 : ℕ) : ℤ)
      omega
  | case2 state naluStartIndex index hlt next hmatch ih =>
    intro hstate hzeros _
    have hle : next.zeros ≤ state.zeros + 1 := zeros_succ_le
    rw [sequenceRanges, dif_pos hlt, if_neg hmatch]
    exact ih (by simpa using hmatch) (by omega) hlt
  | case3 state naluStartIndex index hend =>
    intro _ hzeros hindex
    rw [sequenceRanges, dif_neg hend]
    exact InOrder.cons InOrder.nil le_rfl (by show (naluStartIndex : ℤ) ≤ message.length; omega)
      le_rfl le_rfl

theorem firstUnit_le (state : NalUnitStartSequenceMatch) (index : ℕ) :
    index ≤ message.length → firstUnit message separator state index ≤ message.length := by
  induction state, index using firstUnit.induct message separator with
  | case1 state index hlt next hmatch =>
    intro _
    rw [firstUnit, dif_pos hlt, if_pos hmatch]
    exact hlt
  | case2 state index hlt next hmatch ih =>
    intro _
    rw [firstUnit, dif_pos hlt, if_neg hmatch]
    exact ih hlt
  | case3 state index hend =>
    intro hindex
    rw [firstUnit, dif_neg hend]
    exact hindex

/-- The ranges of any message. -/
theorem inOrder_ranges (message : List UInt8) (separator : NalUnit.Separator) :
    InOrder message 0 (ranges message separator) := by
  cases separator with
  | length => exact inOrder_lengthRanges 0
  | sequence separator =>
    have hle : firstUnit message separator .noMatch 0 ≤ message.length :=
      firstUnit_le .noMatch 0 (Nat.zero_le _)
    have hranges : InOrder message (firstUnit message separator .noMatch 0)
        (sequenceRanges message separator .noMatch _ _) :=
      inOrder_sequenceRanges .noMatch _ _ rfl le_rfl hle
    exact ⟨fun r hr => ⟨Nat.zero_le _, (hranges.within r hr).2⟩, hranges.disjoint⟩

/-! ### Units -/

/-- The state behind some bytes. -/
def read (separator : Separator) (state : NalUnitStartSequenceMatch) (bytes : List UInt8) :
    NalUnitStartSequenceMatch :=
  bytes.foldl (fun state byte => state.succ byte separator) state

/-- No start code ends in the bytes. -/
def Quiet (separator : Separator) : NalUnitStartSequenceMatch → List UInt8 → Prop
  | _, [] => True
  | state, byte :: bytes =>
    (state.succ byte separator).isMatch = false ∧ Quiet separator (state.succ byte separator) bytes

/-- The zeros that the state stands for are the last bytes. -/
def Tracks (separator : Separator) (bytes : List UInt8) : NalUnitStartSequenceMatch → Prop
  | .noMatch => True
  | .firstZero => [0] <:+ bytes
  | .secondZero => [0, 0] <:+ bytes
  | .thirdZero => [0, 0, 0] <:+ bytes ∧ separator ≠ .shortStartSequence
  | .shortMatch => False
  | .longMatch => False

theorem suffix_append_singleton {zeros bytes : List UInt8} (h : zeros <:+ bytes) (byte : UInt8) :
    zeros ++ [byte] <:+ bytes ++ [byte] := by
  obtain ⟨front, rfl⟩ := h
  exact ⟨front, by rw [List.append_assoc]⟩

/-- One more byte, when it does not end a start code. -/
theorem Tracks.succ {state : NalUnitStartSequenceMatch} {bytes : List UInt8} {byte : UInt8}
    (h : Tracks separator bytes state)
    (hcode : ∀ code ∈ separator.startCodes, ¬code <:+ bytes ++ [byte]) :
    Tracks separator (bytes ++ [byte]) (state.succ byte separator) := by
  cases state with
  | noMatch =>
    simp only [NalUnitStartSequenceMatch.succ]
    split_ifs with hzero
    · rw [hzero]
      exact List.suffix_append _ _
    · trivial
  | firstZero =>
    simp only [NalUnitStartSequenceMatch.succ]
    split_ifs with hzero
    · rw [hzero]
      exact suffix_append_singleton h 0
    · trivial
  | secondZero =>
    simp only [NalUnitStartSequenceMatch.succ]
    split_ifs with hlong hshort hone
    · rw [hlong.1]
      exact ⟨suffix_append_singleton h 0, by rcases hlong.2 with rfl | rfl <;> decide⟩
    · rw [hshort.1]
      -- the last two of three zeros
      exact List.IsSuffix.trans ⟨[0], rfl⟩ (suffix_append_singleton h 0)
    · rw [hone.1] at hcode
      refine hcode [0, 0, 1] ?_ (suffix_append_singleton h 1)
      rcases hone.2 with rfl | rfl <;> decide
    · trivial
  | thirdZero =>
    obtain ⟨hsuffix, hseparator⟩ := h
    simp only [NalUnitStartSequenceMatch.succ]
    split_ifs with hlong hone
    · rw [hlong.1]
      exact ⟨List.IsSuffix.trans ⟨[0], rfl⟩ (suffix_append_singleton hsuffix 0), hseparator⟩
    · rw [hone.1] at hcode
      refine hcode [0, 0, 0, 1] ?_ (suffix_append_singleton hsuffix 1)
      rcases hone.2 with rfl | rfl <;> decide
    · trivial
  | shortMatch => exact h.elim
  | longMatch => exact h.elim

theorem Tracks.isMatch {state : NalUnitStartSequenceMatch} {bytes : List UInt8}
    (h : Tracks separator bytes state) : state.isMatch = false := by
  cases state with
  | shortMatch => exact h.elim
  | longMatch => exact h.elim
  | _ => rfl

/-- Bytes without a start code are read without a match. -/
theorem Tracks.quiet {bytes : List UInt8} :
    ∀ {state : NalUnitStartSequenceMatch} {seen : List UInt8}, Tracks separator seen state →
      (∀ code ∈ separator.startCodes, ¬code <:+: seen ++ bytes) →
      Quiet separator state bytes ∧
        Tracks separator (seen ++ bytes) (read separator state bytes) := by
  induction bytes with
  | nil =>
    intro state seen h _
    exact ⟨trivial, by rwa [List.append_nil]⟩
  | cons byte bytes ih =>
    intro state seen h hcode
    have hsplit : seen ++ byte :: bytes = seen ++ [byte] ++ bytes := by simp
    rw [hsplit] at hcode ⊢
    have hnext := h.succ fun code hmem hsuffix =>
      hcode code hmem (hsuffix.isInfix.trans (List.prefix_append _ _).isInfix)
    obtain ⟨hquiet, htracks⟩ := ih hnext hcode
    exact ⟨⟨hnext.isMatch, hquiet⟩, htracks⟩

/-- A unit is read without a match, and nothing is left of it. -/
theorem quiet_unit {unit : List UInt8} (hne : unit ≠ [])
    (h : (NalUnit.Separator.sequence separator).Separates unit) :
    Quiet separator .noMatch unit ∧ read separator .noMatch unit = .noMatch := by
  obtain ⟨hcode, hlast⟩ := h
  have hstart : Tracks separator [] .noMatch := trivial
  obtain ⟨hquiet, htracks⟩ := hstart.quiet (by simpa using hcode)
  refine ⟨hquiet, ?_⟩
  -- any other state stands for a zero at the end of the unit
  have hnot : ∀ zeros : List UInt8, ¬zeros ++ [0] <:+ unit := by
    rintro zeros ⟨front, rfl⟩
    simp at hlast
  cases hread : read separator .noMatch unit with
  | noMatch => rfl
  | firstZero =>
    rw [hread] at htracks
    exact absurd htracks (hnot [])
  | secondZero =>
    rw [hread] at htracks
    exact absurd htracks (hnot [0])
  | thirdZero =>
    rw [hread] at htracks
    exact absurd htracks.1 (hnot [0, 0])
  | shortMatch =>
    rw [hread] at htracks
    exact htracks.elim
  | longMatch =>
    rw [hread] at htracks
    exact htracks.elim

/-- A start code is read as zeros, which make no match, and the byte that completes it. -/
theorem read_startCode {code : List UInt8} (h : code ∈ separator.startCodes) :
    ∃ zeros, code = zeros ++ [1] ∧ Quiet separator .noMatch zeros ∧
      ((read separator .noMatch zeros).succ 1 separator).isMatch = true ∧
      ((read separator .noMatch zeros).succ 1 separator).sequenceLength = code.length := by
  cases separator with
  | longStartSequence =>
    obtain rfl : code = [0, 0, 0, 1] := by simpa [Separator.startCodes] using h
    exact ⟨[0, 0, 0], rfl, ⟨rfl, rfl, rfl, trivial⟩, by decide, by decide⟩
  | shortStartSequence =>
    obtain rfl : code = [0, 0, 1] := by simpa [Separator.startCodes] using h
    exact ⟨[0, 0], rfl, ⟨rfl, rfl, trivial⟩, by decide, by decide⟩
  | startSequence =>
    obtain rfl | rfl : code = [0, 0, 0, 1] ∨ code = [0, 0, 1] := by
      simpa [Separator.startCodes] using h
    · exact ⟨[0, 0, 0], rfl, ⟨rfl, rfl, rfl, trivial⟩, by decide, by decide⟩
    · exact ⟨[0, 0], rfl, ⟨rfl, rfl, trivial⟩, by decide, by decide⟩

/-- The byte at an index. -/
theorem getElem_of_drop {index : ℕ} {byte : UInt8} {rest : List UInt8}
    (h : message.drop index = byte :: rest) :
    ∃ hlt : index < message.length, message[index] = byte ∧ message.drop (index + 1) = rest := by
  obtain ⟨hlt, hbyte⟩ := List.getElem?_eq_some_iff.1 (Reader.getElem?_of_drop h)
  exact ⟨hlt, hbyte, Reader.drop_succ_of_drop h⟩

/-- The second loop goes over bytes without a match. -/
theorem sequenceRanges_quiet {bytes : List UInt8} (naluStartIndex : ℕ) {rest : List UInt8} :
    ∀ {state : NalUnitStartSequenceMatch} {index : ℕ}, message.drop index = bytes ++ rest →
      Quiet separator state bytes →
      sequenceRanges message separator state naluStartIndex index =
        sequenceRanges message separator (read separator state bytes) naluStartIndex
          (index + bytes.length) := by
  induction bytes with
  | nil =>
    intro state index _ _
    rfl
  | cons byte bytes ih =>
    intro state index hdrop hquiet
    obtain ⟨hlt, rfl, hrest⟩ := getElem_of_drop hdrop
    have hnot := hquiet.1
    rw [sequenceRanges, dif_pos hlt]
    simp only [hnot, Bool.false_eq_true, if_false]
    rw [ih hrest hquiet.2, List.length_cons, Nat.add_assoc, Nat.add_comm 1]
    rfl

/-- The first loop goes over bytes without a match. -/
theorem firstUnit_quiet {bytes : List UInt8} {rest : List UInt8} :
    ∀ {state : NalUnitStartSequenceMatch} {index : ℕ}, message.drop index = bytes ++ rest →
      Quiet separator state bytes →
      firstUnit message separator state index =
        firstUnit message separator (read separator state bytes) (index + bytes.length) := by
  induction bytes with
  | nil =>
    intro state index _ _
    rfl
  | cons byte bytes ih =>
    intro state index hdrop hquiet
    obtain ⟨hlt, rfl, hrest⟩ := getElem_of_drop hdrop
    have hnot := hquiet.1
    rw [firstUnit, dif_pos hlt]
    simp only [hnot, Bool.false_eq_true, if_false]
    rw [ih hrest hquiet.2, List.length_cons, Nat.add_assoc, Nat.add_comm 1]
    rfl

/-- The first loop stops behind the first start code. -/
theorem firstUnit_startCode {index : ℕ} {code rest : List UInt8}
    (hcode : code ∈ separator.startCodes) (hdrop : message.drop index = code ++ rest) :
    firstUnit message separator .noMatch index = index + code.length := by
  obtain ⟨zeros, rfl, hquiet, hmatch, -⟩ := read_startCode hcode
  rw [List.append_assoc] at hdrop
  obtain ⟨hlt, hbyte, -⟩ := getElem_of_drop (Reader.drop_add_of_drop hdrop)
  rw [firstUnit_quiet hdrop hquiet, firstUnit, dif_pos hlt]
  simp only [hbyte, hmatch, if_true, List.length_append, List.length_singleton, Nat.add_assoc]

/-- The second loop ends a unit in front of a start code, and begins the next one behind it. -/
theorem sequenceRanges_startCode {naluStartIndex index : ℕ} {code rest : List UInt8}
    (hcode : code ∈ separator.startCodes) (hdrop : message.drop index = code ++ rest) :
    sequenceRanges message separator .noMatch naluStartIndex index =
      ⟨naluStartIndex, index⟩ :: sequenceRanges message separator .noMatch (index + code.length)
        (index + code.length) := by
  obtain ⟨zeros, rfl, hquiet, hmatch, hlength⟩ := read_startCode hcode
  rw [List.append_assoc] at hdrop
  obtain ⟨hlt, hbyte, -⟩ := getElem_of_drop (Reader.drop_add_of_drop hdrop)
  rw [sequenceRanges_quiet naluStartIndex hdrop hquiet, sequenceRanges, dif_pos hlt]
  simp only [hbyte, hmatch, if_true, hlength, List.length_append, List.length_singleton,
    Nat.add_assoc]
  -- the code is as long as what has been read of it
  have hend : ((index + zeros.length : ℕ) : ℤ) - ((zeros.length + 1 : ℕ) : ℤ) + 1 = index := by
    omega
  rw [hend]

theorem unit_of_drop {index : ℕ} {unit rest : List UInt8}
    (hdrop : message.drop index = unit ++ rest) :
    UnitRange.unit ⟨index, ((index + unit.length : ℕ) : ℤ)⟩ message = unit := by
  have hlength : (((index + unit.length : ℕ) : ℤ) - (index : ℤ)).toNat = unit.length := by omega
  rw [UnitRange.unit, hlength, hdrop, List.take_left]

/-- The second loop finds the units, from the start of one of them. -/
theorem map_unit_sequenceRanges {units : List (List UInt8)} {rest : List UInt8}
    (hjoined : Joined (.sequence separator) units rest) :
    ∀ {unit : List UInt8} {index : ℕ}, message.drop index = unit ++ rest →
      (∀ u ∈ unit :: units, u ≠ [] ∧ (NalUnit.Separator.sequence separator).Separates u) →
      (sequenceRanges message separator .noMatch index index).map (·.unit message) =
        unit :: units := by
  induction hjoined with
  | nil =>
    intro unit index hdrop hunits
    obtain ⟨hne, hseparates⟩ := hunits unit (List.mem_cons_self ..)
    obtain ⟨hquiet, hread⟩ := quiet_unit hne hseparates
    have hend : message.drop (index + unit.length) = [] := Reader.drop_add_of_drop hdrop
    have hle : message.length ≤ index + unit.length := List.drop_eq_nil_iff.1 hend
    -- the last unit takes what is left
    have hlength : message.length = index + unit.length := by
      have hdropped := congrArg List.length hdrop
      have hpos := List.length_pos_iff.2 hne
      rw [List.length_drop, List.append_nil] at hdropped
      omega
    rw [sequenceRanges_quiet index hdrop hquiet, hread, sequenceRanges, dif_neg (not_lt.2 hle),
      hlength, List.map_singleton, unit_of_drop hdrop]
  | @cons code next rest units hcode _ ih =>
    -- the unit, the start code behind it, and from there the next unit
    intro unit index hdrop hunits
    obtain ⟨hne, hseparates⟩ := hunits unit (List.mem_cons_self ..)
    obtain ⟨hquiet, hread⟩ := quiet_unit hne hseparates
    have hbehind := Reader.drop_add_of_drop hdrop
    rw [sequenceRanges_quiet index hdrop hquiet, hread, sequenceRanges_startCode hcode hbehind,
      List.map_cons, unit_of_drop hdrop,
      ih (Reader.drop_add_of_drop hbehind) fun u hu => hunits u (List.mem_cons_of_mem _ hu)]

/-- The loop over lengths finds the units. -/
theorem map_unit_lengthRanges {units : List (List UInt8)} {rest : List UInt8}
    (hjoined : Joined .length units rest) :
    ∀ {index : ℕ}, message.drop index = rest → (∀ unit ∈ units, unit ≠ []) →
      (lengthRanges message index).map (·.unit message) = units := by
  induction hjoined with
  | nil =>
    intro index hdrop _
    rw [lengthRanges, if_neg (not_lt.2 (List.drop_eq_nil_iff.1 hdrop))]
    rfl
  | @cons code unit rest units hintroduces _ ih =>
    intro index hdrop hunits
    obtain ⟨hfits, rfl⟩ := hintroduces
    have hpos := List.length_pos_iff.2 (hunits unit (List.mem_cons_self ..))
    have hlength := congrArg List.length hdrop
    simp only [List.length_drop, List.length_append, BigEndian.length_encode] at hlength
    have hdecode : BigEndian.decode ((message.drop index).take 4) = unit.length := by
      rw [hdrop, BigEndian.decode_take_encode_append hfits]
    have hbehind : message.drop (index + 4) = unit ++ rest := by
      have h := Reader.drop_add_of_drop hdrop
      rwa [BigEndian.length_encode] at h
    -- neither the length nor the unit is cut off
    rw [lengthRanges, if_pos (by omega), if_neg (by omega)]
    simp only [hdecode]
    rw [if_neg (by omega), List.map_cons, unit_of_drop hbehind,
      ih (Reader.drop_add_of_drop hbehind) fun u hu => hunits u (List.mem_cons_of_mem _ hu)]

/-- The units of a message that is made of units. -/
theorem splitMessage_joined {separator : NalUnit.Separator} {units : List (List UInt8)}
    (hunits : units ≠ []) (hne : ∀ unit ∈ units, unit ≠ [])
    (hseparates : ∀ unit ∈ units, separator.Separates unit)
    (hjoined : Joined separator units message) : splitMessage message separator = units := by
  cases separator with
  | length => exact map_unit_lengthRanges hjoined List.drop_zero hne
  | sequence separator =>
    cases hjoined with
    | nil => exact absurd rfl hunits
    | @cons code unit rest units hcode hrest =>
      have hfirst : firstUnit (code ++ (unit ++ rest)) separator .noMatch 0 = code.length := by
        rw [firstUnit_startCode hcode List.drop_zero, Nat.zero_add]
      rw [splitMessage, ranges]
      simp only [hfirst]
      exact map_unit_sequenceRanges hrest List.drop_left fun u hu => ⟨hne u hu, hseparates u hu⟩

/-- In both codecs: for every separator and every list of units that are not empty and, where start
codes are used, contain none and do not end in a zero byte, the concatenation of the units, each
behind its length or a start code, is split into these units. For every message, the units are
ranges of it, disjoint and in order. -/
theorem splitMessage_spec (separator : NalUnit.Separator) (message : List UInt8) :
    (∀ units, units ≠ [] → (∀ unit ∈ units, unit ≠ []) →
      (∀ unit ∈ units, separator.Separates unit) → Joined separator units message →
        H264RtpPacketizer.splitMessage separator message = units ∧
          H265RtpPacketizer.splitMessage separator message = units) ∧
    H264RtpPacketizer.splitMessage separator message =
      (ranges message separator).map (·.unit message) ∧
    H265RtpPacketizer.splitMessage separator message =
      (ranges message separator).map (·.unit message) ∧
    (∀ range ∈ ranges message separator,
      (range.begin : ℤ) ≤ range.end ∧ range.end ≤ message.length) ∧
    (ranges message separator).Pairwise (·.end ≤ ·.begin) := by
  have horder := inOrder_ranges message separator
  refine ⟨fun units hunits hne hseparates hjoined => ?_, rfl, rfl,
    fun range hrange => (horder.within range hrange).2, horder.disjoint⟩
  have hsplit := splitMessage_joined hunits hne hseparates hjoined
  exact ⟨hsplit, hsplit⟩

/-- A unit behind a long start code, and one behind a short one. -/
theorem splitMessage_spec_mixed :
    H264RtpPacketizer.splitMessage (.sequence .startSequence)
      [0, 0, 0, 1, 0x67, 0, 0, 2, 0, 0, 1, 0x65] = [[0x67, 0, 0, 2], [0x65]] := by
  have hjoined : Joined (.sequence .startSequence) [[0x67, 0, 0, 2], [0x65]]
      ([0, 0, 0, 1] ++ ([0x67, 0, 0, 2] ++ ([0, 0, 1] ++ ([0x65] ++ [])))) :=
    .cons (List.mem_cons_self ..) (.cons (List.mem_cons_of_mem _ (List.mem_cons_self ..)) .nil)
  have hseparates : ∀ unit ∈ [[(0x67 : UInt8), 0, 0, 2], [0x65]],
      (NalUnit.Separator.sequence .startSequence).Separates unit := by
    intro unit hunit
    obtain rfl | rfl : unit = [0x67, 0, 0, 2] ∨ unit = [0x65] := by simpa using hunit
    · exact ⟨by decide +kernel, by decide +kernel⟩
    · exact ⟨by decide +kernel, by decide +kernel⟩
  exact ((splitMessage_spec (.sequence .startSequence) _).1 _ (by decide) (by decide) hseparates
    hjoined).1

end RtpPacketizer

end Rtc
