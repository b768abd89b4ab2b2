import QuicRtc.Rtcp.Dispatch
import QuicRtc.Rtp.NackResponder

/-!
# Generic NACK

`RtcpNackResponder::incoming` walks over the sub-packets of a control message and sends the stored
packets whose sequence numbers the generic NACK sub-packets ask for. The number of fields of such a
sub-packet is its length minus two, in unsigned arithmetic: for the lengths 0 and 1 it is close to
2 ^ 32, and the fields run far beyond the sub-packet.

`requested` is what a message asks for: the fields inside the sub-packets that are inside the
message. The main result is `incoming_eq_iff`.
-/

namespace Rtc

/-! ## The fields -/

/-- `RtcpNackPart`, in host order. -/
structure RtcpNackPart where
  pid : UInt16
  blp : UInt16
  deriving DecidableEq, Repr

namespace RtcpNackPart

/-- The field at an offset. -/
def ofBytes (data : List UInt8) (i : ℕ) : RtcpNackPart where
  pid := UInt16.ofNat (BigEndian.decode ((data.drop i).take 2))
  blp := UInt16.ofNat (BigEndian.decode ((data.drop (i + 2)).take 2))

/-- Read a field. -/
def read (data : List UInt8) (i : ℕ) : Except Fault RtcpNackPart :=
  if i + 4 ≤ data.length then .ok (ofBytes data i) else .error .outside

/-- The loop of `getSequenceNumbers`. -/
def sequenceNumbersLoop (bitmask i : UInt16) : List UInt16 :=
  if _h : bitmask = 0 then []
  else
    let rest := sequenceNumbersLoop (bitmask >>> 1) (i + 1)
    if bitmask &&& 1 ≠ 0 then i :: rest else rest
termination_by bitmask.toNat
decreasing_by
  have hpos : 0 < bitmask.toNat := by
    rw [Nat.pos_iff_ne_zero]
    exact fun hzero => _h (UInt16.toNat_inj.1 hzero)
  rw [UInt16.toNat_shiftRight, UInt16.toNat_one, Nat.one_mod, Nat.shiftRight_one]
  omega

/-- `RtcpNackPart::getSequenceNumbers`. -/
def getSequenceNumbers (part : RtcpNackPart) : List UInt16 :=
  part.pid :: sequenceNumbersLoop part.blp (part.pid + 1)

/-- The sequence numbers that a field encodes: the first one, and one for each bit of the mask that
is set. -/
def encoded (part : RtcpNackPart) : List UInt16 :=
  part.pid ::
    ((List.range 16).filter fun k => part.blp.toNat.testBit k).map
      fun k => part.pid + 1 + UInt16.ofNat k

/-- The loop finds the bits of a mask of `n` bits. -/
theorem sequenceNumbersLoop_eq {n : ℕ} {bitmask : UInt16} (h : bitmask.toNat < 2 ^ n) (i : UInt16) :
    sequenceNumbersLoop bitmask i =
      ((List.range n).filter fun k => bitmask.toNat.testBit k).map
        fun k => i + UInt16.ofNat k := by
  induction n generalizing bitmask i with
  | zero =>
    have hzero : bitmask = 0 := UInt16.toNat_inj.1 (by simpa using h)
    rw [sequenceNumbersLoop, dif_pos hzero]
    rfl
  | succ n ih =>
    have hshift : (bitmask >>> 1).toNat = bitmask.toNat / 2 := by
      rw [UInt16.toNat_shiftRight, UInt16.toNat_one, Nat.one_mod, Nat.shiftRight_one]
    have hlt : (bitmask >>> 1).toNat < 2 ^ n := by
      rw [hshift, Nat.div_lt_iff_lt_mul (by decide), ← pow_succ]
      exact h
    have hrest := ih hlt (i + 1)
    -- the lowest bit, and the others one place further down
    have hlow : (bitmask &&& 1 ≠ 0) ↔ bitmask.toNat.testBit 0 = true := by
      rw [ne_eq, ← UInt16.toNat_inj, UInt16.toNat_and]
      simp [Nat.testBit_zero]
    have hsplit : ((List.range (n + 1)).filter fun k => bitmask.toNat.testBit k).map
        (fun k => i + UInt16.ofNat k) =
        (if bitmask &&& 1 ≠ 0 then [i] else []) ++ sequenceNumbersLoop (bitmask >>> 1) (i + 1) := by
      rw [hrest, List.range_succ_eq_map, List.filter_cons, List.filter_map]
      have hupper : ∀ k, i + (UInt16.ofNat k + 1) = i + 1 + UInt16.ofNat k := by
        intro k
        rw [UInt16.add_comm (UInt16.ofNat k) 1, UInt16.add_assoc]
      by_cases hbit : bitmask.toNat.testBit 0 = true
      · simp [hlow.2 hbit, hbit, hshift, Nat.testBit_succ, Function.comp_def, hupper]
      · simp [mt hlow.1 hbit, hbit, hshift, Nat.testBit_succ, Function.comp_def, hupper]
    rw [hsplit, sequenceNumbersLoop]
    by_cases hzero : bitmask = 0
    · have hnone : sequenceNumbersLoop 0 (i + 1) = [] := by
        rw [sequenceNumbersLoop, dif_pos rfl]
      subst hzero
      simp [hnone]
    · rw [dif_neg hzero]
      split <;> rfl

theorem getSequenceNumbers_eq (part : RtcpNackPart) : part.getSequenceNumbers = part.encoded := by
  rw [getSequenceNumbers, encoded, sequenceNumbersLoop_eq part.blp.toNat_lt]

end RtcpNackPart

/-! ## Reading in pieces -/

/-- The pieces that are read for each element, one after the other. -/
def collect {α β : Type} (f : α → Except Fault (List β)) : List α → Except Fault (List β)
  | [] => .ok []
  | a :: l => do
    let piece ← f a
    let rest ← collect f l
    return piece ++ rest

section Collect

variable {α β : Type} {f : α → Except Fault (List β)} {g : α → List β}

/-- All elements have to be read. -/
theorem collect_cons_eq_ok_iff {a : α} {l : List α} {result : List β} :
    collect f (a :: l) = .ok result ↔
      ∃ piece rest, f a = .ok piece ∧ collect f l = .ok rest ∧ piece ++ rest = result := by
  cases ha : f a <;> cases hl : collect f l <;>
    simp [collect, ha, hl, bind, Except.bind, pure, Except.pure]

/-- Pieces that are never too short are not too short together. -/
theorem length_le_of_collect {l : List α}
    (hlength : ∀ a ∈ l, ∀ piece, f a = .ok piece → (g a).length ≤ piece.length)
    {result : List β} (h : collect f l = .ok result) : (l.flatMap g).length ≤ result.length := by
  induction l generalizing result with
  | nil => simp
  | cons a l ih =>
    obtain ⟨piece, rest, hpiece, hrest, rfl⟩ := collect_cons_eq_ok_iff.1 h
    obtain ⟨hhead, htail⟩ := List.forall_mem_cons.1 hlength
    have hfirst := hhead piece hpiece
    have hothers := ih htail hrest
    simp only [List.flatMap_cons, List.length_append]
    omega

/-- If no piece is ever too short, the pieces are right together exactly if each of them is. -/
theorem collect_eq_ok_iff {l : List α}
    (hlength : ∀ a ∈ l, ∀ piece, f a = .ok piece → (g a).length ≤ piece.length) :
    collect f l = .ok (l.flatMap g) ↔ ∀ a ∈ l, f a = .ok (g a) := by
  induction l with
  | nil => simp [collect]
  | cons a l ih =>
    obtain ⟨hhead, htail⟩ := List.forall_mem_cons.1 hlength
    rw [collect_cons_eq_ok_iff, List.forall_mem_cons, ← ih htail]
    constructor
    · rintro ⟨piece, rest, hpiece, hrest, happend⟩
      have hfirst := hhead piece hpiece
      have hothers := length_le_of_collect htail hrest
      have htotal := congrArg List.length happend
      simp only [List.flatMap_cons, List.length_append] at htotal
      obtain ⟨rfl, rfl⟩ := List.append_inj happend (by omega)
      exact ⟨hpiece, hrest⟩
    · rintro ⟨ha, hl⟩
      exact ⟨g a, l.flatMap g, ha, hl, rfl⟩

end Collect

/-! ## The responder -/

namespace RtcpNack

/-- `sizeof(RtcpNack)`, with one field. -/
def sizeOf : ℕ := 16

/-- The offset of the fields, `offsetof(RtcpNack, parts)`. -/
def parts : ℕ := 12

/-- `RtcpNack::getSeqNoCount`. -/
def getSeqNoCount (header : RtcpHeader) : ℕ := (header.length.toUInt32 - 2).toNat

/-- The loop over the fields from the index `i` on: the sequence numbers. -/
def missingLoop (packet : List UInt8) : ℕ → ℕ → Except Fault (List UInt16)
  | 0, _ => .ok []
  | count + 1, i => do
    let field ← RtcpNackPart.read packet (parts + 4 * i)
    let rest ← missingLoop packet count (i + 1)
    return field.getSequenceNumbers ++ rest

end RtcpNack

namespace RtcpNackResponder

open RtcpNack

/-- The loop over the sub-packets of a message: the packets passed to `send`. -/
def incomingLoop (s : Storage) (data : List UInt8) : ℕ → ℕ → Except Fault (List (List UInt8))
  | 0, _ => .error .outOfFuel
  | fuel + 1, p => do
    if p + RtcpNack.sizeOf ≤ data.length then
      let header ← RtcpHeader.read (data.drop p)
      let next := p + header.lengthInBytes
      if data.length < next then return []
      else if header.payloadType ≠ 205 ∨ header.reportCount ≠ 1 then incomingLoop s data fuel next
      else
        let missingSequenceNumbers ← missingLoop (data.drop p) (getSeqNoCount header) 0
        let rest ← incomingLoop s data fuel next
        return missingSequenceNumbers.filterMap s.get ++ rest
    else return []

/-- `RtcpNackResponder::incoming`: the packets passed to `send`, in order. -/
def incoming (s : Storage) (messages : List Message) : Except Fault (List (List UInt8)) :=
  collect
    (fun message =>
      if message.type ≠ .control then .ok []
      else incomingLoop s message.data (message.data.length + 1) 0)
    messages

/-! ## What a message asks for -/

/-- The sub-packets that are inside a message from an offset on, with their offsets. -/
def compound (data : List UInt8) (offset : ℕ) : List (ℕ × RtcpHeader) :=
  match RtcpHeader.read (data.drop offset) with
  | .error _ => []
  | .ok header =>
    if _h : data.length - offset < header.lengthInBytes then []
    else (offset, header) :: compound data (offset + header.lengthInBytes)
termination_by data.length - offset
decreasing_by
  simp only [RtcpHeader.lengthInBytes] at _h ⊢
  omega

/-- Is the sub-packet a generic NACK? -/
def IsNack (header : RtcpHeader) : Prop := header.payloadType = 205 ∧ header.reportCount = 1

instance (header : RtcpHeader) : Decidable (IsNack header) := by
  unfold IsNack
  infer_instance

/-- The first fields of a packet. -/
def fields (packet : List UInt8) (count : ℕ) : List RtcpNackPart :=
  (List.range' 0 count).map fun i => RtcpNackPart.ofBytes packet (parts + 4 * i)

/-- The sequence numbers that a sub-packet asks for. The words of its header and the two SSRCs are
no fields. -/
def nacked (data : List UInt8) (subPacket : ℕ × RtcpHeader) : List UInt16 :=
  if IsNack subPacket.2 then
    (fields (data.drop subPacket.1) (subPacket.2.length.toNat - 2)).flatMap RtcpNackPart.encoded
  else []

/-- The packets that the messages ask for, as far as they are stored. -/
def requested (s : Storage) (messages : List Message) : List (List UInt8) :=
  messages.flatMap fun message =>
    if message.type ≠ .control then []
    else ((compound message.data 0).flatMap (nacked message.data)).filterMap s.get

/-! ## What is read -/

/-- Fields that are inside the message are read. -/
theorem missingLoop_of_inside {packet : List UInt8} {count i : ℕ}
    (h : parts + 4 * (i + count) ≤ packet.length) :
    missingLoop packet count i =
      .ok ((List.range' i count).flatMap fun k =>
        (RtcpNackPart.ofBytes packet (parts + 4 * k)).encoded) := by
  induction count generalizing i with
  | zero => rfl
  | succ count ih =>
    have hread : RtcpNackPart.read packet (parts + 4 * i) =
        .ok (RtcpNackPart.ofBytes packet (parts + 4 * i)) := if_pos (by omega)
    rw [missingLoop, hread, ih (by omega), List.range'_succ, List.flatMap_cons,
      ← RtcpNackPart.getSequenceNumbers_eq]
    rfl

/-- One of too many fields is read outside. -/
theorem missingLoop_of_outside {packet : List UInt8} {count i : ℕ} (hcount : 0 < count)
    (h : packet.length < parts + 4 * (i + count)) :
    missingLoop packet count i = .error .outside := by
  induction count generalizing i with
  | zero => exact absurd hcount (lt_irrefl 0)
  | succ count ih =>
    rw [missingLoop]
    by_cases hfirst : parts + 4 * i + 4 ≤ packet.length
    · have hread : RtcpNackPart.read packet (parts + 4 * i) =
          .ok (RtcpNackPart.ofBytes packet (parts + 4 * i)) := if_pos hfirst
      rw [hread, ih (by omega) (by omega)]
      rfl
    · have hread : RtcpNackPart.read packet (parts + 4 * i) = .error .outside := if_neg hfirst
      rw [hread]
      rfl

/-- The count of a length of at least two words is what is left of them. -/
theorem getSeqNoCount_of_two_le {header : RtcpHeader} (h : 2 ≤ header.length.toNat) :
    getSeqNoCount header = header.length.toNat - 2 := by
  have hlt := header.length.toNat_lt
  rw [getSeqNoCount, UInt32.toNat_sub_of_le]
  · simp
  · rw [UInt32.le_iff_toNat_le]
    simpa using h

/-- The count of a shorter length is huge. -/
theorem getSeqNoCount_of_lt_two {header : RtcpHeader} (h : header.length.toNat < 2) :
    4294967294 ≤ getSeqNoCount header := by
  rw [getSeqNoCount, UInt32.toNat_sub]
  simp only [UInt16.toNat_toUInt32, UInt32.reduceToNat]
  omega

/-- What a sub-packet of the message has sent. -/
def subPacketSends (s : Storage) (data : List UInt8) (subPacket : ℕ × RtcpHeader) :
    Except Fault (List (List UInt8)) :=
  if subPacket.1 + RtcpNack.sizeOf ≤ data.length ∧ IsNack subPacket.2 then
    (missingLoop (data.drop subPacket.1) (getSeqNoCount subPacket.2) 0).map
      (List.filterMap s.get)
  else .ok []

/-- `compound` is the split of the message. -/
theorem subPackets_compound (data : List UInt8) (offset : ℕ) :
    PeerConnection.SubPackets data offset (compound data offset) := by
  induction offset using compound.induct data with
  | case1 offset fault hread =>
    rw [compound, hread]
    refine .nil (not_le.1 fun hle => ?_)
    obtain ⟨header, hheader⟩ := RtcpHeader.exists_read
      (show RtcpHeader.sizeOf ≤ (data.drop offset).length by rw [List.length_drop]; omega)
    rw [hread] at hheader
    cases hheader
  | case2 offset header hread hlong =>
    rw [compound, hread]
    simpa [hlong] using PeerConnection.SubPackets.truncated hread hlong
  | case3 offset header hread hfits ih =>
    rw [compound, hread]
    simpa [hfits] using PeerConnection.SubPackets.cons hread (not_lt.1 hfits) ih

/-- Nothing is sent for a list of sub-packets of which nothing is sent. -/
theorem collect_eq_nil {s : Storage} {data : List UInt8} {subPackets : List (ℕ × RtcpHeader)}
    (h : ∀ p ∈ subPackets, subPacketSends s data p = .ok []) :
    collect (subPacketSends s data) subPackets = .ok [] := by
  induction subPackets with
  | nil => rfl
  | cons p rest ih =>
    obtain ⟨hp, hrest⟩ := List.forall_mem_cons.1 h
    exact collect_cons_eq_ok_iff.2 ⟨[], [], hp, ih hrest, rfl⟩

/-- The loop takes the sub-packets one after the other. -/
theorem incomingLoop_eq {s : Storage} {data : List UInt8} {offset : ℕ}
    {subPackets : List (ℕ × RtcpHeader)} (h : PeerConnection.SubPackets data offset subPackets)
    {fuel : ℕ} (hfuel : data.length - offset < fuel) :
    incomingLoop s data fuel offset = collect (subPacketSends s data) subPackets := by
  induction h generalizing fuel with
  | @nil offset hshort =>
    obtain ⟨fuel, rfl⟩ : ∃ k, fuel = k + 1 := ⟨fuel - 1, by omega⟩
    have hend : ¬offset + RtcpNack.sizeOf ≤ data.length := by
      rw [RtcpHeader.sizeOf] at hshort
      rw [RtcpNack.sizeOf]
      omega
    rw [incomingLoop, if_neg hend]
    rfl
  | @truncated offset header hread hlong =>
    obtain ⟨fuel, rfl⟩ : ∃ k, fuel = k + 1 := ⟨fuel - 1, by omega⟩
    rw [incomingLoop]
    split
    · next hinside =>
      have hbehind : data.length < offset + header.lengthInBytes := by omega
      simp only [hread, bind, Except.bind, if_pos hbehind]
      rfl
    · rfl
  | @cons offset header rest hread hfits htail ih =>
    obtain ⟨fuel, rfl⟩ : ∃ k, fuel = k + 1 := ⟨fuel - 1, by omega⟩
    have hlength : 4 ≤ header.lengthInBytes := by
      rw [RtcpHeader.lengthInBytes]
      omega
    rw [incomingLoop]
    by_cases hinside : offset + RtcpNack.sizeOf ≤ data.length
    · have hrest := @ih fuel (by omega)
      have hbehind : ¬data.length < offset + header.lengthInBytes := by omega
      rw [if_pos hinside]
      simp only [hread, bind, Except.bind, if_neg hbehind, collect, hrest]
      by_cases hnack : IsNack header
      · have hskip : ¬(header.payloadType ≠ 205 ∨ header.reportCount ≠ 1) := by
          rintro (htype | hcount)
          · exact htype hnack.1
          · exact hcount hnack.2
        rw [if_neg hskip, subPacketSends, if_pos ⟨hinside, hnack⟩]
        cases missingLoop (data.drop offset) (getSeqNoCount header) 0 <;> rfl
      · have hskip : header.payloadType ≠ 205 ∨ header.reportCount ≠ 1 := by
          by_contra hboth
          exact hnack (by simpa [IsNack] using hboth)
        have hnothing : subPacketSends s data (offset, header) = .ok [] :=
          if_neg fun hvisited => hnack hvisited.2
        rw [if_pos hskip, hnothing]
        cases collect (subPacketSends s data) rest <;> rfl
    · -- what follows is too short as well
      rw [if_neg hinside]
      refine (collect_eq_nil fun p hp => if_neg fun hvisited => hinside ?_).symm
      have hle := (PeerConnection.subPackets_increasing (.cons hread hfits htail)).2 p hp
      omega

/-! ## Exactness -/

/-- The responder does no harm at a sub-packet: it is no generic NACK, or it is at the end where it
is not looked at, or its length is at least two words, or the fields that it is taken to have are
all inside the message and ask for nothing that is stored. -/
def Harmless (s : Storage) (data : List UInt8) (subPacket : ℕ × RtcpHeader) : Prop :=
  IsNack subPacket.2 → subPacket.1 + RtcpNack.sizeOf ≤ data.length →
    subPacket.2.length.toNat < 2 →
      subPacket.1 + parts + 4 * getSeqNoCount subPacket.2 ≤ data.length ∧
        ∀ field ∈ fields (data.drop subPacket.1) (getSeqNoCount subPacket.2),
          ∀ sequenceNumber ∈ field.encoded, s.get sequenceNumber = none

/-- The packets that a sub-packet asks for. -/
def subPacketRequests (s : Storage) (data : List UInt8) (subPacket : ℕ × RtcpHeader) :
    List (List UInt8) :=
  (nacked data subPacket).filterMap s.get

variable {s : Storage} {data : List UInt8} {p : ℕ × RtcpHeader}

/-- Fields that are inside the message are sent as far as they are stored. -/
theorem subPacketSends_of_inside (hvisited : p.1 + RtcpNack.sizeOf ≤ data.length)
    (hnack : IsNack p.2) (hinside : p.1 + parts + 4 * getSeqNoCount p.2 ≤ data.length) :
    subPacketSends s data p =
      .ok (((fields (data.drop p.1) (getSeqNoCount p.2)).flatMap
        RtcpNackPart.encoded).filterMap s.get) := by
  have hfields : parts + 4 * (0 + getSeqNoCount p.2) ≤ (data.drop p.1).length := by
    rw [List.length_drop]
    omega
  rw [subPacketSends, if_pos ⟨hvisited, hnack⟩, missingLoop_of_inside hfields, fields,
    List.flatMap_map]
  rfl

/-- A sub-packet of at least two words is exact. -/
theorem subPacketSends_of_two_le (hfits : p.1 + p.2.lengthInBytes ≤ data.length)
    (hlength : 2 ≤ p.2.length.toNat) :
    subPacketSends s data p = .ok (subPacketRequests s data p) := by
  have hcount := getSeqNoCount_of_two_le hlength
  rw [RtcpHeader.lengthInBytes] at hfits
  by_cases hnack : IsNack p.2
  · rw [subPacketRequests, nacked, if_pos hnack]
    by_cases hvisited : p.1 + RtcpNack.sizeOf ≤ data.length
    · rw [subPacketSends_of_inside hvisited hnack (by rw [parts, hcount]; omega), hcount]
    · -- less than 16 bytes are left, so there are no fields
      have hnone : p.2.length.toNat - 2 = 0 := by
        rw [RtcpNack.sizeOf] at hvisited
        omega
      rw [subPacketSends, if_neg fun h => hvisited h.1, hnone]
      rfl
  · rw [subPacketRequests, nacked, if_neg hnack, subPacketSends, if_neg fun h => hnack h.2]
    rfl

/-- A generic NACK of less than two words asks for nothing. -/
theorem subPacketRequests_of_lt_two (hlength : p.2.length.toNat < 2) :
    subPacketRequests s data p = [] := by
  have hnone : p.2.length.toNat - 2 = 0 := by omega
  simp [subPacketRequests, nacked, hnone, fields]

theorem subPacketSends_eq_iff (hfits : p.1 + p.2.lengthInBytes ≤ data.length) :
    subPacketSends s data p = .ok (subPacketRequests s data p) ↔ Harmless s data p := by
  -- with no room for a field the count of fields wraps around
  by_cases hlength : 2 ≤ p.2.length.toNat
  · exact ⟨fun _ _ _ hshort => absurd hlength (not_le.2 hshort),
      fun _ => subPacketSends_of_two_le hfits hlength⟩
  have hshort := not_le.1 hlength
  rw [subPacketRequests_of_lt_two hshort]
  by_cases hvisited : p.1 + RtcpNack.sizeOf ≤ data.length ∧ IsNack p.2
  · obtain ⟨hsize, hnack⟩ := hvisited
    by_cases hinside : p.1 + parts + 4 * getSeqNoCount p.2 ≤ data.length
    · rw [subPacketSends_of_inside hsize hnack hinside, Except.ok.injEq, List.filterMap_eq_nil_iff]
      constructor
      · intro hnone _ _ _
        exact ⟨hinside, fun field hfield n hn => hnone n (List.mem_flatMap.2 ⟨field, hfield, hn⟩)⟩
      · intro hharmless n hn
        obtain ⟨field, hfield, hn⟩ := List.mem_flatMap.1 hn
        exact (hharmless hnack hsize hshort).2 field hfield n hn
    · have hhuge := getSeqNoCount_of_lt_two hshort
      have houtside : missingLoop (data.drop p.1) (getSeqNoCount p.2) 0 = .error .outside := by
        refine missingLoop_of_outside (by omega) ?_
        rw [List.length_drop]
        omega
      rw [subPacketSends, if_pos ⟨hsize, hnack⟩, houtside]
      constructor
      · intro hok
        cases hok
      · intro hharmless
        exact absurd (hharmless hnack hsize hshort).1 hinside
  · rw [subPacketSends, if_neg hvisited]
    exact ⟨fun _ hnack hsize _ => absurd ⟨hsize, hnack⟩ hvisited, fun _ => rfl⟩

/-- A sub-packet never has too little sent. -/
theorem length_le_subPacketSends (hfits : p.1 + p.2.lengthInBytes ≤ data.length)
    {sends : List (List UInt8)} (h : subPacketSends s data p = .ok sends) :
    (subPacketRequests s data p).length ≤ sends.length := by
  by_cases hlength : 2 ≤ p.2.length.toNat
  · rw [subPacketSends_of_two_le hfits hlength, Except.ok.injEq] at h
    rw [h]
  · rw [subPacketRequests_of_lt_two (not_le.1 hlength)]
    exact Nat.zero_le _

/-- The sub-packets of a message fit into it. -/
theorem fits_of_subPackets {offset : ℕ} {subPackets : List (ℕ × RtcpHeader)}
    (h : PeerConnection.SubPackets data offset subPackets) :
    ∀ p ∈ subPackets, p.1 + p.2.lengthInBytes ≤ data.length := by
  induction h with
  | nil => exact List.forall_mem_nil _
  | truncated => exact List.forall_mem_nil _
  | @cons offset header rest hread hfits htail ih =>
    have hlength : 4 ≤ header.lengthInBytes := by
      rw [RtcpHeader.lengthInBytes]
      omega
    refine List.forall_mem_cons.2 ⟨?_, ih⟩
    show offset + header.lengthInBytes ≤ data.length
    omega

/-- The loop over a message is exact if every sub-packet is harmless, and only then. -/
theorem incomingLoop_eq_iff :
    incomingLoop s data (data.length + 1) 0 =
        .ok ((compound data 0).flatMap (subPacketRequests s data)) ↔
      ∀ p ∈ compound data 0, Harmless s data p := by
  have hsplit := subPackets_compound data 0
  have hfits := fits_of_subPackets hsplit
  rw [incomingLoop_eq hsplit (by omega),
    collect_eq_ok_iff fun p hp _ hsends => length_le_subPacketSends (hfits p hp) hsends]
  exact forall₂_congr fun p hp => subPacketSends_eq_iff (hfits p hp)

/-- What the loop sends for a message is not too little. -/
theorem length_le_incomingLoop {sends : List (List UInt8)}
    (h : incomingLoop s data (data.length + 1) 0 = .ok sends) :
    ((compound data 0).flatMap (subPacketRequests s data)).length ≤ sends.length := by
  have hsplit := subPackets_compound data 0
  have hfits := fits_of_subPackets hsplit
  rw [incomingLoop_eq hsplit (by omega)] at h
  exact length_le_of_collect (fun p hp _ hsends => length_le_subPacketSends (hfits p hp) hsends) h

/-- The responder reads inside the messages and sends what they ask for, in order, exactly if all
generic NACKs that it looks at are harmless. -/
theorem incoming_eq_iff (s : Storage) (messages : List Message) :
    incoming s messages = .ok (requested s messages) ↔
      ∀ message ∈ messages, message.type = .control →
        ∀ p ∈ compound message.data 0, Harmless s message.data p := by
  unfold incoming requested
  rw [collect_eq_ok_iff]
  · refine forall₂_congr fun message _ => ?_
    by_cases htype : message.type = .control
    · simp only [htype, ne_eq, not_true_eq_false, if_false, true_implies, ← incomingLoop_eq_iff,
        List.filterMap_flatMap]
      rfl
    · simp [htype]
  · intro message _ sends hsends
    by_cases htype : message.type = .control
    · simp only [htype, ne_eq, not_true_eq_false, if_false, List.filterMap_flatMap] at hsends ⊢
      exact length_le_incomingLoop hsends
    · simp [htype]

/-- A generic NACK of length 0, with one field behind its SSRCs. -/
def zeroLength : Message where
  data := [0x81, 205, 0, 0, 0, 0, 0, 1, 0, 0, 0, 2, 0, 7, 0, 0]
  type := .control

/-- The responder goes on reading fields until it leaves the message. -/
theorem incoming_zeroLength :
    incoming { maxSize := 512 } [zeroLength] = .error .outside := by
  have hread : RtcpHeader.read (zeroLength.data.drop 0) = .ok ⟨0x81, 205, 0⟩ := by decide
  have hmissing : missingLoop (zeroLength.data.drop 0) (getSeqNoCount ⟨0x81, 205, 0⟩) 0 =
      .error .outside := missingLoop_of_outside (by decide) (by decide)
  have hloop : incomingLoop { maxSize := 512 } zeroLength.data 17 0 = .error .outside := by
    rw [incomingLoop, if_pos (by decide), hread]
    simp only [bind, Except.bind]
    rw [if_neg (by decide), if_neg (by decide), hmissing]
  rw [incoming, collect, if_neg (by decide)]
  have hfuel : zeroLength.data.length + 1 = 17 := by decide
  rw [hfuel, hloop]
  rfl

end RtcpNackResponder

end Rtc
