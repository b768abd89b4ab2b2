import Mathlib.Data.List.Perm.Basic
import QuicRtc.Rtp.Spec

/-!
# Header extensions

What a receiver finds in the extension header that `RtpPacketizer::packetize` writes. `parsePacket`
reads a packet by the rules for one-byte elements (RFC 8285), and `configured` are the elements that
a packet should have.

`packetize` sums up the sizes of the elements in one place and writes them with a running offset in
another, which it does not advance behind the rid: a playout delay overwrites the rid. The main
result `survives_iff` says that this is all that goes wrong.
-/

namespace Rtc

/-! ## Reading one-byte elements -/

/-- An extension element: its id and its value. -/
abbrev ExtensionElement := UInt8 × List UInt8

/-- The elements in the body of an extension header. A zero byte is padding, and the ids 0 and 15
end the elements. `none` is an element that runs over the end. -/
def parseElements : List UInt8 → Option (List ExtensionElement)
  | [] => some []
  | byte :: rest =>
    let id := byte >>> 4
    let length := (byte &&& 0x0F).toNat + 1
    if byte = 0 then parseElements rest
    else if id = 0 ∨ id = 15 then some []
    else if rest.length < length then none
    else (parseElements (rest.drop length)).map ((id, rest.take length) :: ·)
  termination_by body => body.length
  decreasing_by all_goals simp only [List.length_cons, List.length_drop]; omega

/-- The elements and the payload of an RTP packet. -/
def parsePacket (data : List UInt8) : Option (List ExtensionElement × List UInt8) :=
  let h := RtpHeader.read data
  let rest := data.drop h.getSize
  if h.first >>> 6 ≠ 2 ∨ data.length < h.getSize then none
  else if h.extension then
    let size := 4 * BigEndian.decode ((rest.drop 2).take 2)
    let body := rest.drop RtpExtensionHeader.sizeOf
    if rest.length < RtpExtensionHeader.sizeOf ∨ BigEndian.decode (rest.take 2) ≠ 0xBEDE ∨
        body.length < size then none
    else (parseElements (body.take size)).map fun elements => (elements, body.drop size)
  else some ([], rest)

namespace RtpPacketizationConfig

variable (config : RtpPacketizationConfig) (mark : Bool)

/-- The element of a string that is configured. -/
def stringElement (id : UInt8) (value : Option (List UInt8)) : List ExtensionElement :=
  (value.map fun value => (id, value)).toList

/-- The orientation goes with the last packet of a frame, unless it is the default. -/
def orientationElement : List ExtensionElement :=
  if config.videoOrientationId ≠ 0 ∧ mark = true ∧ config.videoOrientation ≠ 0 then
    [(config.videoOrientationId, [config.videoOrientation])]
  else []

/-- Twelve bits for the minimum and twelve for the maximum, in three bytes. -/
def playoutDelayElement : List ExtensionElement :=
  if config.playoutDelayId ≠ 0 then
    [(config.playoutDelayId, BigEndian.encode 3
      (config.playoutDelayMin.toNat * 4096 + config.playoutDelayMax.toNat))]
  else []

/-- The elements of a packet. -/
def configured : List ExtensionElement :=
  config.orientationElement mark ++ stringElement config.midId config.mid ++
    stringElement config.ridId config.rid ++ config.playoutDelayElement

/-- The ids in use. -/
def ids : List UInt8 :=
  (if config.videoOrientationId ≠ 0 then [config.videoOrientationId] else []) ++
    (config.mid.map fun _ => config.midId).toList ++
    (config.rid.map fun _ => config.ridId).toList ++
    (if config.playoutDelayId ≠ 0 then [config.playoutDelayId] else [])

/-- The ids in use are distinct and fit one-byte elements, as do the strings, and the delays have
twelve bits. An id of 0 is that of an element that is not configured. -/
structure ValidExtensions : Prop where
  nodup : config.ids.Nodup
  ids : ∀ id ∈ config.ids, 1 ≤ id ∧ id ≤ 14
  mid : ∀ mid, config.mid = some mid → 1 ≤ mid.length ∧ mid.length ≤ 16
  rid : ∀ rid, config.rid = some rid → 1 ≤ rid.length ∧ rid.length ≤ 16
  playoutDelay : config.playoutDelayMin < 4096 ∧ config.playoutDelayMax < 4096

/-- A receiver finds the configured elements in the packet, and the payload behind them. -/
def Survives (payload : List UInt8) : Prop :=
  ∃ elements, parsePacket (config.packetize mark payload).1 = some (elements, payload) ∧
    elements.Perm (config.configured mark)

end RtpPacketizationConfig

/-! ## Elements as bytes -/

/-- The bytes of an element. -/
def ExtensionElement.toBytes (element : ExtensionElement) : List UInt8 :=
  ((element.1 <<< 4) ||| (UInt8.ofNat element.2.length - 1)) :: element.2

/-- The bytes of elements. -/
def elementsToBytes (elements : List ExtensionElement) : List UInt8 :=
  elements.flatMap ExtensionElement.toBytes

/-- An element that a one-byte header can announce. -/
structure ExtensionElement.Valid (element : ExtensionElement) : Prop where
  id : 1 ≤ element.1 ∧ element.1 ≤ 14
  length : 1 ≤ element.2.length ∧ element.2.length ≤ 16

/-- The header of an element holds its id and its length. -/
private theorem elementBits (id : UInt8) : 1 ≤ id ∧ id ≤ 14 → ∀ n, n < 16 →
    let byte := (id <<< 4) ||| (UInt8.ofNat (n + 1) - 1)
    byte ≠ 0 ∧ ¬(byte >>> 4 = 0 ∨ byte >>> 4 = 15) ∧ byte >>> 4 = id ∧
      (byte &&& 0x0F).toNat + 1 = n + 1 := by
  revert id
  exact BigEndian.forall_byte (by decide +kernel)

section Parse

variable {elements : List ExtensionElement} {element : ExtensionElement}

/-- An element is read back. -/
theorem parseElements_toBytes (h : element.Valid) (tail : List UInt8) :
    parseElements (element.toBytes ++ tail) = (parseElements tail).map (element :: ·) := by
  obtain ⟨n, hn⟩ := Nat.exists_eq_add_of_le' h.length.1
  have hlength := h.length.2
  obtain ⟨hne, hid, hshift, hmask⟩ := elementBits element.1 h.id n (by omega)
  rw [ExtensionElement.toBytes, List.cons_append, parseElements, hn]
  rw [if_neg hne, if_neg hid, hshift, hmask, ← hn, if_neg, List.drop_left, List.take_left]
  rw [List.length_append]
  omega

/-- The elements are read back, and then what follows them. -/
theorem parseElements_elementsToBytes (h : ∀ element ∈ elements, element.Valid)
    (tail : List UInt8) :
    parseElements (elementsToBytes elements ++ tail) =
      (parseElements tail).map (elements ++ ·) := by
  induction elements with
  | nil =>
    show parseElements tail = _
    cases parseElements tail <;> rfl
  | cons element elements ih =>
    obtain ⟨hfirst, hrest⟩ := List.forall_mem_cons.1 h
    rw [elementsToBytes, List.flatMap_cons, List.append_assoc, parseElements_toBytes hfirst]
    show (parseElements (elementsToBytes elements ++ tail)).map _ = _
    rw [ih hrest, Option.map_map]
    rfl

/-- Padding holds no elements. -/
theorem parseElements_replicate (n : ℕ) : parseElements (List.replicate n 0) = some [] := by
  induction n with
  | zero => rw [List.replicate_zero, parseElements]
  | succ n ih =>
    rw [List.replicate_succ, parseElements]
    exact ih

/-- A single element stands behind padding, with a header that is not zero. -/
theorem parseElements_eq_singleton {body : List UInt8} (h : parseElements body = some [element]) :
    ∃ k byte rest, body = List.replicate k 0 ++ byte :: (element.2 ++ rest) ∧ byte ≠ 0 := by
  induction body with
  | nil =>
    rw [parseElements] at h
    cases h
  | cons byte rest ih =>
    rw [parseElements] at h
    split at h
    · next hzero =>
      obtain ⟨k, byte', rest', hrest, hne⟩ := ih h
      refine ⟨k + 1, byte', rest', ?_, hne⟩
      rw [hzero, hrest, List.replicate_succ, List.cons_append]
    · next hne =>
      split at h
      · cases h
      · split at h
        · cases h
        · obtain ⟨others, -, hcons⟩ := Option.map_eq_some_iff.1 h
          obtain ⟨rfl, rfl⟩ := List.cons.inj hcons
          exact ⟨0, byte, rest.drop ((byte &&& 0x0F).toNat + 1), by simp, hne⟩

/-- The end of a value, with padding behind it, does not read as an element with that value. -/
theorem parseElements_tail_ne (id : UInt8) (value : List UInt8) (skipped zeros : ℕ) :
    parseElements (value.drop skipped ++ List.replicate zeros 0) ≠ some [(id, value)] := by
  intro h
  obtain ⟨k, byte, rest, hbody, hne⟩ := parseElements_eq_singleton h
  -- position by position, with zeros behind the end
  have hleft : ∀ j, (value.drop skipped ++ List.replicate zeros 0).getD j 0 =
      value.getD (skipped + j) 0 := by
    intro j
    rw [List.getD_eq_getElem?_getD, List.getD_eq_getElem?_getD]
    by_cases hj : j < (value.drop skipped).length
    · rw [List.getElem?_append_left hj, List.getElem?_drop]
    · have hbehind : value[skipped + j]? = none := by
        rw [List.length_drop] at hj
        exact List.getElem?_eq_none (by omega)
      rw [List.getElem?_append_right (by omega), hbehind, List.getElem?_replicate]
      split <;> rfl
  have hvalue : ∀ i, i < value.length → value.getD i 0 = value.getD (skipped + (k + 1 + i)) 0 := by
    intro i hi
    rw [← hleft, hbody, List.getD_eq_getElem?_getD, List.getD_eq_getElem?_getD,
      List.getElem?_append_right (by rw [List.length_replicate]; omega), List.length_replicate,
      show k + 1 + i - k = i + 1 by omega, List.getElem?_cons_succ, List.getElem?_append_left hi]
  -- every byte of the value is one further on, and so zero
  have hzero : ∀ n i, value.length ≤ i + n → value.getD i 0 = 0 := by
    intro n
    induction n with
    | zero =>
      intro i hi
      rw [List.getD_eq_getElem?_getD, List.getElem?_eq_none (by omega)]
      rfl
    | succ n ih =>
      intro i hi
      by_cases hlt : i < value.length
      · rw [hvalue i hlt]
        exact ih _ (by omega)
      · exact ih i (by omega)
  apply hne
  have hbyte : (value.drop skipped ++ List.replicate zeros 0).getD k 0 = byte := by
    rw [hbody, List.getD_eq_getElem?_getD, List.getElem?_append_right (by simp)]
    simp
  rw [← hbyte, hleft]
  exact hzero value.length _ (by omega)

end Parse

/-! ## Writing elements -/

namespace RtpExtensionHeader

/-- The body starts with `bytes` and is zero behind them. -/
structure Wrote (e : RtpExtensionHeader) (size : ℕ) (bytes : List UInt8) : Prop where
  getSize : e.getSize = size
  body : e.body = bytes ++ List.replicate (size - bytes.length) 0
  le : bytes.length ≤ size

variable {e : RtpExtensionHeader} {size : ℕ} {bytes : List UInt8}

/-- The header byte is that of the element. -/
theorem writeOneByteHeader_eq {element : ExtensionElement} {offset : ℕ} (h : element.Valid)
    (hfits : offset + element.toBytes.length ≤ e.getSize) :
    e.writeOneByteHeader offset element.1 element.2 =
      { e with body := write e.body offset element.toBytes } := by
  have hlength := h.length
  have hid := h.id
  have hid0 : element.1 ≠ 0 := by
    rintro hzero
    rw [hzero] at hid
    exact absurd hid.1 (by decide)
  rw [ExtensionElement.toBytes, List.length_cons] at hfits
  rw [writeOneByteHeader, if_neg]
  · dsimp only
    rw [ExtensionElement.toBytes]
    split
    · rfl
    · next hone =>
      have hlow : UInt8.ofNat element.2.length - 1 = 0 := by
        rw [not_not.1 hone]
        decide
      rw [hlow, UInt8.or_zero]
  · rintro (hzero | hlarge | hempty | hlong | hout)
    · exact hid0 hzero
    · exact absurd hid.2 (UInt8.not_le.2 hlarge)
    · omega
    · omega
    · omega

/-- An element behind the bytes that are there. -/
theorem Wrote.behind (h : e.Wrote size bytes) {element : ExtensionElement} (hvalid : element.Valid)
    (hfits : bytes.length + element.toBytes.length ≤ size) :
    (e.writeOneByteHeader bytes.length element.1 element.2).Wrote size
      (bytes ++ element.toBytes) := by
  rw [writeOneByteHeader_eq hvalid (h.getSize ▸ hfits)]
  refine ⟨h.getSize, ?_, by rwa [List.length_append]⟩
  show write e.body bytes.length element.toBytes = _
  rw [write, h.body, List.take_left, List.drop_length_add_append, List.drop_replicate,
    List.length_append, Nat.sub_sub]

/-- An element over what was written behind the first bytes. -/
theorem Wrote.over {front back : List UInt8} (h : e.Wrote size (front ++ back))
    {element : ExtensionElement} (hvalid : element.Valid)
    (hfits : front.length + element.toBytes.length ≤ size) :
    (e.writeOneByteHeader front.length element.1 element.2).body =
      front ++ element.toBytes ++ (back ++ List.replicate (size - (front ++ back).length) 0).drop
        element.toBytes.length := by
  rw [writeOneByteHeader_eq hvalid (h.getSize ▸ hfits)]
  show write e.body front.length element.toBytes = _
  rw [write, h.body, List.append_assoc front back, List.take_left, List.drop_length_add_append]

end RtpExtensionHeader

@[simp]
theorem ExtensionElement.length_toBytes (element : ExtensionElement) :
    element.toBytes.length = 1 + element.2.length := by
  rw [ExtensionElement.toBytes, List.length_cons, Nat.add_comm]

/-! ## The elements of a packet -/

namespace RtpPacketizationConfig

variable {config : RtpPacketizationConfig} {mark : Bool}

/-- The three bytes hold the minimum and the maximum. -/
theorem playoutDelay_eq (hmin : config.playoutDelayMin < 4096)
    (hmax : config.playoutDelayMax < 4096) :
    config.playoutDelay = BigEndian.encode 3
      (config.playoutDelayMin.toNat * 4096 + config.playoutDelayMax.toNat) := by
  obtain ⟨min, hminEq⟩ : ∃ min, config.playoutDelayMin.toNat = min := ⟨_, rfl⟩
  obtain ⟨max, hmaxEq⟩ : ∃ max, config.playoutDelayMax.toNat = max := ⟨_, rfl⟩
  have hmin' : min < 4096 := hminEq ▸ UInt16.lt_iff_toNat_lt.1 hmin
  have hmax' : max < 4096 := hmaxEq ▸ UInt16.lt_iff_toNat_lt.1 hmax
  have hmask : ∀ n : UInt16, n.toNat < 4096 → n &&& 0xFFF = n := by
    intro n hn
    rw [← UInt16.toNat_inj, UInt16.toNat_and]
    show n.toNat &&& (2 ^ 12 - 1) = _
    rw [Nat.and_two_pow_sub_one_eq_mod]
    exact Nat.mod_eq_of_lt hn
  have hlow : min % 16 * 16 ||| max / 256 = min % 16 * 16 + max / 256 := by
    have hlt : max / 256 < 2 ^ 4 := by omega
    have hadd := Nat.shiftLeft_add_eq_or_of_lt hlt (min % 16)
    rw [Nat.shiftLeft_eq] at hadd
    exact hadd.symm
  rw [playoutDelay, hmask _ (hminEq ▸ hmin'), hmask _ (hmaxEq ▸ hmax')]
  show [_, _, _] = [UInt8.ofNat _, UInt8.ofNat _, UInt8.ofNat _]
  rw [hminEq, hmaxEq]
  -- one byte after the other, as numbers
  congr 1
  · rw [← UInt8.toNat_inj, UInt16.toNat_toUInt8, UInt16.toNat_and, UInt16.toNat_shiftRight, hminEq,
      UInt8.toNat_ofNat']
    show (min >>> 4 &&& (2 ^ 8 - 1)) % 2 ^ 8 = _
    rw [Nat.and_two_pow_sub_one_eq_mod, Nat.shiftRight_eq_div_pow]
    omega
  congr 1
  · rw [← UInt8.toNat_inj, UInt16.toNat_toUInt8, UInt16.toNat_or, UInt16.toNat_shiftLeft,
      UInt16.toNat_and, UInt16.toNat_and, UInt16.toNat_shiftRight, hminEq, hmaxEq,
      UInt8.toNat_ofNat']
    show (((min &&& (2 ^ 4 - 1)) <<< 4 % 2 ^ 16) ||| (max >>> 8 &&& (2 ^ 4 - 1))) % 2 ^ 8 = _
    rw [Nat.and_two_pow_sub_one_eq_mod, Nat.and_two_pow_sub_one_eq_mod, Nat.shiftRight_eq_div_pow,
      Nat.shiftLeft_eq]
    have hsmall : min % 2 ^ 4 * 2 ^ 4 % 2 ^ 16 = min % 16 * 16 := by omega
    have hhigh : max / 2 ^ 8 % 2 ^ 4 = max / 256 := by omega
    rw [hsmall, hhigh, hlow]
    omega
  congr 1
  · rw [← UInt8.toNat_inj, UInt16.toNat_toUInt8, UInt16.toNat_and, hmaxEq, UInt8.toNat_ofNat']
    show (max &&& (2 ^ 8 - 1)) % 2 ^ 8 = _
    rw [Nat.and_two_pow_sub_one_eq_mod]
    omega

namespace ValidExtensions

variable (mark) (h : config.ValidExtensions)
include h

/-- The orientation is written exactly if it is an element of the packet. -/
theorem setVideoRotation_iff : config.setVideoRotation mark = true ↔
    config.videoOrientationId ≠ 0 ∧ mark = true ∧ config.videoOrientation ≠ 0 := by
  have hlt : config.videoOrientationId ≠ 0 → config.videoOrientationId < 15 := by
    intro hne
    have hle := (h.ids config.videoOrientationId (by simp [RtpPacketizationConfig.ids, hne])).2
    rw [UInt8.le_iff_toNat_le] at hle
    rw [UInt8.lt_iff_toNat_lt]
    exact Nat.lt_succ_of_le hle
  simp only [setVideoRotation, Bool.and_eq_true, bne_iff_ne, ne_eq, decide_eq_true_eq]
  constructor
  · rintro ⟨⟨⟨hid, -⟩, hmark⟩, horientation⟩
    exact ⟨hid, hmark, horientation⟩
  · rintro ⟨hid, hmark, horientation⟩
    exact ⟨⟨⟨hid, hlt hid⟩, hmark⟩, horientation⟩

/-- The playout delay is written exactly if it is configured. -/
theorem setPlayoutDelay_iff : config.setPlayoutDelay = true ↔ config.playoutDelayId ≠ 0 := by
  simp only [setPlayoutDelay, Bool.and_eq_true, decide_eq_true_eq]
  constructor
  · rintro ⟨hpos, -⟩ hzero
    rw [hzero] at hpos
    exact absurd hpos (by decide)
  · intro hne
    obtain ⟨hone, hle⟩ := h.ids config.playoutDelayId (by simp [RtpPacketizationConfig.ids, hne])
    rw [UInt8.le_iff_toNat_le] at hone hle
    rw [UInt8.lt_iff_toNat_lt, UInt8.lt_iff_toNat_lt]
    exact ⟨hone, Nat.lt_succ_of_le hle⟩

theorem valid_orientation : ∀ element ∈ config.orientationElement mark, element.Valid := by
  intro element helement
  rw [orientationElement] at helement
  split at helement
  · next hset =>
    obtain rfl := List.mem_singleton.1 helement
    exact ⟨h.ids _ (by simp [RtpPacketizationConfig.ids, hset.1]), by simp⟩
  · cases helement

theorem valid_mid : ∀ element ∈ stringElement config.midId config.mid, element.Valid := by
  intro element helement
  cases hmid : config.mid with
  | none =>
    rw [hmid] at helement
    cases helement
  | some mid =>
    rw [hmid] at helement
    obtain rfl := List.mem_singleton.1 helement
    exact ⟨h.ids _ (by simp [RtpPacketizationConfig.ids, hmid]), h.mid mid hmid⟩

theorem valid_rid : ∀ element ∈ stringElement config.ridId config.rid, element.Valid := by
  intro element helement
  cases hrid : config.rid with
  | none =>
    rw [hrid] at helement
    cases helement
  | some rid =>
    rw [hrid] at helement
    obtain rfl := List.mem_singleton.1 helement
    exact ⟨h.ids _ (by simp [RtpPacketizationConfig.ids, hrid]), h.rid rid hrid⟩

theorem valid_playoutDelay : ∀ element ∈ config.playoutDelayElement, element.Valid := by
  intro element helement
  rw [playoutDelayElement] at helement
  split at helement
  · next hset =>
    obtain rfl := List.mem_singleton.1 helement
    exact ⟨h.ids _ (by simp [RtpPacketizationConfig.ids, hset]), by simp⟩
  · cases helement

/-- The sizes that are summed up are those of the elements. -/
theorem elementsSize_eq : config.elementsSize mark =
    (elementsToBytes (config.orientationElement mark)).length +
      (elementsToBytes config.playoutDelayElement).length +
      (elementsToBytes (stringElement config.midId config.mid)).length +
      (elementsToBytes (stringElement config.ridId config.rid)).length := by
  have horientation : (if config.setVideoRotation mark then 2 else 0) =
      (elementsToBytes (config.orientationElement mark)).length := by
    rw [orientationElement]
    simp only [h.setVideoRotation_iff mark]
    split <;> simp [elementsToBytes]
  have hplayoutDelay : (if config.setPlayoutDelay then 4 else 0) =
      (elementsToBytes config.playoutDelayElement).length := by
    rw [playoutDelayElement]
    simp only [h.setPlayoutDelay_iff]
    split <;> simp [elementsToBytes]
  have hstring : ∀ id value, stringElementSize value =
      (elementsToBytes (stringElement id value)).length := by
    intro id value
    cases value <;> simp [stringElementSize, stringElement, elementsToBytes]
  rw [elementsSize, horientation, hplayoutDelay, hstring config.midId, hstring config.ridId]

/-- The extension header is short. -/
theorem rtpExtHeaderSize_le : config.rtpExtHeaderSize mark ≤ 262144 := by
  rw [rtpExtHeaderSize_le_iff, elementsSize]
  have hmid : stringElementSize config.mid ≤ 17 := by
    cases hmid : config.mid with
    | none => exact Nat.zero_le _
    | some mid =>
      have := (h.mid mid hmid).2
      rw [stringElementSize]
      omega
  have hrid : stringElementSize config.rid ≤ 17 := by
    cases hrid : config.rid with
    | none => exact Nat.zero_le _
    | some rid =>
      have := (h.rid rid hrid).2
      rw [stringElementSize]
      omega
  split <;> split <;> omega

end ValidExtensions

/-! ## The body -/

section Body

variable {words : ℕ} {e : RtpExtensionHeader} {size : ℕ} {front : List UInt8}

open RtpExtensionHeader

/-- The extension header before its elements. -/
theorem wrote_empty (hwords : config.rtpExtHeaderSize mark = 4 * (words + 1))
    (hle : config.rtpExtHeaderSize mark ≤ 262144) :
    (config.emptyExtensionHeader mark).clearBody.Wrote (4 * words) [] := by
  have hcount : config.rtpExtHeaderSize mark / 4 = words + 1 := by omega
  have hgetSize : (config.emptyExtensionHeader mark).getSize = 4 * words := by
    rw [RtpExtensionHeader.getSize, emptyExtensionHeader, hcount, toNat_headerLength]
    omega
  refine ⟨hgetSize, ?_, Nat.zero_le _⟩
  show write (List.replicate (config.rtpExtHeaderSize mark - RtpExtensionHeader.sizeOf) 0) 0
    (List.replicate (config.emptyExtensionHeader mark).getSize 0) = _
  rw [hgetSize, hwords, RtpExtensionHeader.sizeOf, write, List.take_zero, List.length_replicate,
    List.drop_replicate, List.nil_append, List.nil_append, List.length_nil]
  have hnone : 4 * (words + 1) - 4 - (0 + 4 * words) = 0 := by omega
  rw [hnone, List.replicate_zero, List.append_nil]
  rfl

/-- A string that is configured is written behind what is there. -/
theorem wrote_string (hwrote : e.Wrote size front) {id : UInt8} {value : Option (List UInt8)}
    (hvalid : ∀ element ∈ stringElement id value, element.Valid)
    (hfits : front.length + (elementsToBytes (stringElement id value)).length ≤ size) :
    (match value with
      | some value => e.writeOneByteHeader front.length id value
      | none => e).Wrote size (front ++ elementsToBytes (stringElement id value)) := by
  cases value with
  | none =>
    show e.Wrote size (front ++ [])
    rwa [List.append_nil]
  | some value =>
    have helement : ExtensionElement.Valid (id, value) := hvalid _ (List.mem_singleton.2 rfl)
    have hbytes : elementsToBytes (stringElement id (some value)) =
        ExtensionElement.toBytes (id, value) := List.append_nil _
    rw [hbytes] at hfits ⊢
    exact hwrote.behind helement hfits

/-- The orientation is written first, if at all. -/
theorem wrote_orientation (h : config.ValidExtensions)
    (hwords : config.rtpExtHeaderSize mark = 4 * (words + 1))
    (hfits : (elementsToBytes (config.orientationElement mark)).length ≤ 4 * words) :
    (if config.setVideoRotation mark then
      (config.emptyExtensionHeader mark).clearBody.writeCurrentVideoOrientation 0
        config.videoOrientationId config.videoOrientation
      else (config.emptyExtensionHeader mark).clearBody).Wrote (4 * words)
        (elementsToBytes (config.orientationElement mark)) ∧
      (if config.setVideoRotation mark then 2 else 0) =
        (elementsToBytes (config.orientationElement mark)).length := by
  have hempty := wrote_empty hwords (h.rtpExtHeaderSize_le mark)
  by_cases hset : config.setVideoRotation mark = true
  · have helement : config.orientationElement mark =
        [(config.videoOrientationId, [config.videoOrientation])] :=
      if_pos ((h.setVideoRotation_iff mark).1 hset)
    have hvalid := h.valid_orientation mark
    rw [helement] at hvalid hfits
    have hbytes : elementsToBytes [(config.videoOrientationId, [config.videoOrientation])] =
        ExtensionElement.toBytes (config.videoOrientationId, [config.videoOrientation]) :=
      List.append_nil _
    rw [hbytes] at hfits
    -- it is behind nothing
    have hbehind := hempty.behind (hvalid _ (List.mem_singleton.2 rfl)) (by
      rw [List.length_nil, Nat.zero_add]
      exact hfits)
    rw [if_pos hset, if_pos hset, helement, hbytes]
    exact ⟨hbehind, rfl⟩
  · have helement : config.orientationElement mark = [] :=
      if_neg fun hall => hset ((h.setVideoRotation_iff mark).2 hall)
    rw [if_neg hset, if_neg hset, helement]
    exact ⟨hempty, rfl⟩

/-- The body once all elements are written. -/
theorem extensionHeader_body (h : config.ValidExtensions)
    (hwords : config.rtpExtHeaderSize mark = 4 * (words + 1)) :
    let front := elementsToBytes (config.orientationElement mark) ++
      elementsToBytes (stringElement config.midId config.mid)
    let rid := elementsToBytes (stringElement config.ridId config.rid)
    ∃ zeros, (config.extensionHeader mark).body =
      if config.rid.isSome ∧ config.playoutDelayId ≠ 0 then
        front ++ elementsToBytes config.playoutDelayElement ++
          (rid ++ List.replicate zeros 0).drop (elementsToBytes config.playoutDelayElement).length
      else
        front ++ rid ++ elementsToBytes config.playoutDelayElement ++ List.replicate zeros 0 := by
  intro front rid
  have hsize : config.elementsSize mark ≤ 4 * words := by
    rw [rtpExtHeaderSize] at hwords
    split at hwords <;> omega
  have hlength := h.elementsSize_eq mark
  obtain ⟨horiented, hoffset⟩ := wrote_orientation h hwords (by omega)
  -- the mid
  have hmidSize : stringElementSize config.mid =
      (elementsToBytes (stringElement config.midId config.mid)).length := by
    cases config.mid <;> simp [stringElementSize, stringElement, elementsToBytes]
  have hmid := wrote_string horiented h.valid_mid (by omega)
  have hfront : front.length = (elementsToBytes (config.orientationElement mark)).length +
      (elementsToBytes (stringElement config.midId config.mid)).length := List.length_append
  -- the rid
  have hrid := wrote_string hmid h.valid_rid (by
    show front.length + _ ≤ _
    omega)
  refine ⟨4 * words - (front ++ rid).length -
    (if config.rid.isSome ∧ config.playoutDelayId ≠ 0 then 0
      else (elementsToBytes config.playoutDelayElement).length), ?_⟩
  rw [extensionHeader, hoffset, hmidSize, ← hfront]
  by_cases hset : config.setPlayoutDelay = true
  · have hne := h.setPlayoutDelay_iff.1 hset
    have hbytes : elementsToBytes config.playoutDelayElement =
        ExtensionElement.toBytes (config.playoutDelayId, config.playoutDelay) := by
      rw [playoutDelayElement, if_pos hne, playoutDelay_eq h.playoutDelay.1 h.playoutDelay.2]
      exact List.append_nil _
    have hvalid : ExtensionElement.Valid (config.playoutDelayId, config.playoutDelay) := by
      refine h.valid_playoutDelay _ ?_
      rw [playoutDelayElement, if_pos hne, playoutDelay_eq h.playoutDelay.1 h.playoutDelay.2]
      exact List.mem_singleton.2 rfl
    rw [if_pos hset]
    by_cases hsome : config.rid.isSome = true
    · -- the offset is still that of the rid
      have hfits : front.length +
          (ExtensionElement.toBytes (config.playoutDelayId, config.playoutDelay)).length ≤
            4 * words := by
        rw [← hbytes]
        omega
      have hover := hrid.over hvalid hfits
      have hboth : config.rid.isSome ∧ config.playoutDelayId ≠ 0 := ⟨hsome, hne⟩
      rw [if_pos hboth, if_pos hboth, Nat.sub_zero, hbytes]
      exact hover
    · have hnone : rid = [] := by
        show elementsToBytes (stringElement config.ridId config.rid) = []
        rw [Option.not_isSome_iff_eq_none.1 hsome]
        rfl
      have hnot : ¬(config.rid.isSome ∧ config.playoutDelayId ≠ 0) := fun hboth => hsome hboth.1
      rw [if_neg hnot, if_neg hnot, hnone]
      have hfits : (front ++ rid).length +
          (ExtensionElement.toBytes (config.playoutDelayId, config.playoutDelay)).length ≤
            4 * words := by
        rw [← hbytes, hnone, List.append_nil]
        omega
      have hbehind := ((show Wrote _ _ (front ++ rid) from hrid).behind hvalid hfits).body
      rw [hnone] at hbehind
      simp only [List.append_nil] at hbehind ⊢
      rw [hbytes]
      refine hbehind.trans ?_
      rw [List.length_append, Nat.sub_sub]
  · have hzero : config.playoutDelayId = 0 := by
      by_contra hne
      exact hset (h.setPlayoutDelay_iff.2 hne)
    have hnone : elementsToBytes config.playoutDelayElement = [] := by
      rw [playoutDelayElement, if_neg (not_not.2 hzero)]
      rfl
    have hnot : ¬(config.rid.isSome ∧ config.playoutDelayId ≠ 0) := fun hboth => hboth.2 hzero
    rw [if_neg hset, if_neg hnot, if_neg hnot, hnone, List.append_nil, List.length_nil,
      Nat.sub_zero]
    exact hrid.body

end Body

/-! ## What a receiver finds -/

section Receiver

variable {payload : List UInt8}

/-- The version of a packet. -/
theorem version_header : (config.header mark).first >>> 6 = 2 := by
  rw [first_header]
  split <;> decide

/-- Without elements there is no extension header. -/
theorem parsePacket_packetize_of_zero (hzero : config.rtpExtHeaderSize mark = 0) :
    parsePacket (config.packetize mark payload).1 = some ([], payload) := by
  obtain ⟨-, hcsrc, hextension⟩ := config.flags_header mark
  have hclear : (config.header mark).extension = false := by
    rw [← Bool.not_eq_true, hextension, not_not, hzero]
  have hsize : (config.header mark).getSize = 12 := by
    rw [RtpHeader.getSize, hcsrc, RtpHeader.sizeOf]
  have hdrop : (config.packetize mark payload).1.drop 12 = payload := by
    rw [packetize, if_neg (not_not.2 hzero), List.append_nil]
    exact List.drop_left' (RtpHeader.length_toBytes _)
  rw [parsePacket, read_packetize, hsize, hdrop, if_neg, if_neg (by simp [hclear])]
  rintro (hversion | hshort)
  · exact hversion version_header
  · rw [length_packetize] at hshort
    omega

/-- A receiver reads the body, and finds the payload behind it. -/
theorem parsePacket_packetize {words : ℕ} (hwords : config.rtpExtHeaderSize mark = 4 * (words + 1))
    (hle : config.rtpExtHeaderSize mark ≤ 262144) :
    parsePacket (config.packetize mark payload).1 =
      (parseElements (config.extensionHeader mark).body).map fun elements =>
        (elements, payload) := by
  obtain ⟨-, hcsrc, hextension⟩ := config.flags_header mark
  have hne : config.rtpExtHeaderSize mark ≠ 0 := by omega
  have hcount : config.rtpExtHeaderSize mark / 4 = words + 1 := by omega
  have hsize : (config.header mark).getSize = 12 := by
    rw [RtpHeader.getSize, hcsrc, RtpHeader.sizeOf]
  have hbody := (config.blank_extensionHeader mark hwords).length
  have hprofile : (config.extensionHeader mark).profileSpecificId = 0xbede :=
    config.extensionHeader_invariant mark (P := fun e => e.profileSpecificId = 0xbede) rfl
      fun e offset id value h => by
        rw [RtpExtensionHeader.writeOneByteHeader]
        split
        · exact h
        · exact h
  have hlength : (config.extensionHeader mark).headerLength.toNat = words := by
    rw [headerLength_extensionHeader, hcount, toNat_headerLength]
    omega
  -- the profile, the number of words, the body and the payload
  have hdrop : (config.packetize mark payload).1.drop 12 =
      BigEndian.encode 2 0xBEDE ++ (BigEndian.encode 2 words ++
        ((config.extensionHeader mark).body ++ payload)) := by
    rw [packetize, if_pos hne, RtpExtensionHeader.toBytes, hprofile, hlength, List.append_assoc,
      List.drop_left' (RtpHeader.length_toBytes _), List.append_assoc, List.append_assoc]
    rfl
  have hdrop2 : ((config.packetize mark payload).1.drop 12).drop 2 =
      BigEndian.encode 2 words ++ ((config.extensionHeader mark).body ++ payload) := by
    rw [hdrop]
    exact List.drop_left' (BigEndian.length_encode 2 _)
  have hdrop4 : ((config.packetize mark payload).1.drop 12).drop RtpExtensionHeader.sizeOf =
      (config.extensionHeader mark).body ++ payload := by
    rw [RtpExtensionHeader.sizeOf, show 4 = 2 + 2 from rfl, ← List.drop_drop, hdrop2]
    exact List.drop_left' (BigEndian.length_encode 2 _)
  have htake : ((config.packetize mark payload).1.drop 12).take 2 = BigEndian.encode 2 0xBEDE := by
    rw [hdrop]
    exact List.take_left' (BigEndian.length_encode 2 _)
  rw [parsePacket, read_packetize, hsize, hdrop2, hdrop4, htake,
    BigEndian.decode_take_encode_append (w := 2) (show words < 256 ^ 2 by omega),
    BigEndian.decode_encode (w := 2) (n := 0xBEDE) (by decide), if_neg,
    if_pos (hextension.2 hne), if_neg, List.take_left' hbody, List.drop_left' hbody]
  · rw [List.length_drop, length_packetize, RtpExtensionHeader.sizeOf, List.length_append, hbody]
    omega
  · rintro (hversion | hshort)
    · exact hversion version_header
    · rw [length_packetize] at hshort
      omega

/-- The elements are all read back if no element is written over another. -/
theorem survives_of_not_both (h : config.ValidExtensions)
    (hnot : ¬(config.rid.isSome ∧ config.playoutDelayId ≠ 0)) :
    config.Survives mark payload := by
  rcases config.rtpExtHeaderSize_cases mark with hzero | ⟨words, hwords⟩
  · -- there are no elements
    refine ⟨[], parsePacket_packetize_of_zero hzero, ?_⟩
    have hsize := h.elementsSize_eq mark
    have hnone : config.elementsSize mark = 0 := by
      rw [rtpExtHeaderSize] at hzero
      split at hzero <;> omega
    have hempty : elementsToBytes (config.configured mark) = [] := by
      rw [← List.length_eq_zero_iff, configured]
      simp only [elementsToBytes, List.flatMap_append, List.length_append] at hsize ⊢
      omega
    cases hconfigured : config.configured mark with
    | nil => exact .refl _
    | cons element elements =>
      rw [hconfigured] at hempty
      cases hempty
  · obtain ⟨zeros, hbody⟩ := extensionHeader_body h hwords
    rw [if_neg hnot] at hbody
    have hvalid : ∀ element ∈ config.configured mark, element.Valid := by
      intro element helement
      simp only [configured, List.mem_append] at helement
      rcases helement with ((horientation | hmid) | hrid) | hplayoutDelay
      · exact h.valid_orientation mark _ horientation
      · exact h.valid_mid _ hmid
      · exact h.valid_rid _ hrid
      · exact h.valid_playoutDelay _ hplayoutDelay
    have hbytes : (config.extensionHeader mark).body =
        elementsToBytes (config.configured mark) ++ List.replicate zeros 0 := by
      rw [hbody, configured]
      simp only [elementsToBytes, List.flatMap_append]
    refine ⟨config.configured mark, ?_, .refl _⟩
    rw [parsePacket_packetize hwords (h.rtpExtHeaderSize_le mark), hbytes,
      parseElements_elementsToBytes hvalid, parseElements_replicate]
    simp

/-- With a rid and a playout delay, the rid is overwritten. -/
theorem not_survives_of_both (h : config.ValidExtensions)
    (hboth : config.rid.isSome ∧ config.playoutDelayId ≠ 0) :
    ¬config.Survives mark payload := by
  rintro ⟨elements, hparse, hperm⟩
  obtain ⟨rid, hrid⟩ := Option.isSome_iff_exists.1 hboth.1
  have hridElement : stringElement config.ridId config.rid = [(config.ridId, rid)] := by
    rw [hrid]
    rfl
  have hsize := h.elementsSize_eq mark
  have hpos : config.rtpExtHeaderSize mark ≠ 0 := by
    have hridSize : 0 < (elementsToBytes (stringElement config.ridId config.rid)).length := by
      rw [hridElement]
      exact Nat.succ_pos _
    rw [rtpExtHeaderSize, if_pos (by omega)]
    omega
  obtain ⟨words, hwords⟩ := (config.rtpExtHeaderSize_cases mark).resolve_left hpos
  obtain ⟨zeros, hbody⟩ := extensionHeader_body h hwords
  rw [if_pos hboth, hridElement] at hbody
  -- the four bytes of the delay cover the header of the rid and three bytes of it
  have hfour : (elementsToBytes config.playoutDelayElement).length = 4 := by
    have hdelay3 : config.playoutDelayElement = [(config.playoutDelayId, BigEndian.encode 3
      (config.playoutDelayMin.toNat * 4096 + config.playoutDelayMax.toNat))] := if_pos hboth.2
    rw [hdelay3]
    rfl
  obtain ⟨zeros', htail⟩ : ∃ zeros', (elementsToBytes [(config.ridId, rid)] ++
      List.replicate zeros 0).drop 4 = rid.drop 3 ++ List.replicate zeros' 0 := by
    refine ⟨zeros - (3 - rid.length), ?_⟩
    show (_ :: (rid ++ [] ++ List.replicate zeros 0)).drop (3 + 1) = _
    rw [List.drop_succ_cons, List.append_nil, List.drop_append, List.drop_replicate]
  have hfront : ∀ element ∈ config.orientationElement mark ++
      stringElement config.midId config.mid ++ config.playoutDelayElement, element.Valid := by
    intro element helement
    simp only [List.mem_append] at helement
    rcases helement with (horientation | hmid) | hplayoutDelay
    · exact h.valid_orientation mark _ horientation
    · exact h.valid_mid _ hmid
    · exact h.valid_playoutDelay _ hplayoutDelay
  have hbytes : (config.extensionHeader mark).body =
      elementsToBytes (config.orientationElement mark ++ stringElement config.midId config.mid ++
        config.playoutDelayElement) ++ (rid.drop 3 ++ List.replicate zeros' 0) := by
    rw [hbody, hfour, htail]
    simp only [elementsToBytes, List.flatMap_append, List.append_assoc]
  rw [parsePacket_packetize hwords (h.rtpExtHeaderSize_le mark), hbytes,
    parseElements_elementsToBytes hfront, Option.map_map, Option.map_eq_some_iff] at hparse
  obtain ⟨others, hothers, hpair⟩ := hparse
  obtain rfl := (Prod.mk.inj hpair).1
  -- what is left of the rid would have to read as the rid
  rw [configured, hridElement] at hperm
  have hswap : (config.orientationElement mark ++ stringElement config.midId config.mid ++
      [(config.ridId, rid)] ++ config.playoutDelayElement).Perm
        (config.orientationElement mark ++ stringElement config.midId config.mid ++
          config.playoutDelayElement ++ [(config.ridId, rid)]) := by
    rw [List.append_assoc _ [(config.ridId, rid)], List.append_assoc _ config.playoutDelayElement]
    exact List.perm_append_comm.append_left _
  have hleft : others.Perm [(config.ridId, rid)] :=
    (List.perm_append_left_iff _).1 (hperm.trans hswap)
  rw [List.perm_singleton.1 hleft] at hothers
  exact parseElements_tail_ne config.ridId rid 3 zeros' hothers

/-- **Header extensions.** A receiver finds the elements that are configured, and the payload behind
them, in every packet exactly if there is no rid in front of a playout delay. -/
theorem survives_iff (h : config.ValidExtensions) :
    config.Survives mark payload ↔ ¬(config.rid.isSome ∧ config.playoutDelayId ≠ 0) :=
  ⟨fun hsurvives hboth => not_survives_of_both h hboth hsurvives, survives_of_not_both h⟩

end Receiver

/-- A stream with a rid, and one that has a playout delay too. -/
def ridConfig (playoutDelayId : UInt8) : RtpPacketizationConfig where
  ssrc := 1
  payloadType := 96
  sequenceNumber := 0
  timestamp := 0
  midId := 1
  mid := some [0x30]
  ridId := 2
  rid := some [0x68, 0x69]
  playoutDelayId := playoutDelayId
  playoutDelayMin := 10
  playoutDelayMax := 20

theorem validExtensions_ridConfig (playoutDelayId : UInt8)
    (hid : playoutDelayId = 0 ∨ playoutDelayId = 3) :
    (ridConfig playoutDelayId).ValidExtensions where
  nodup := by rcases hid with rfl | rfl <;> decide +kernel
  ids := by rcases hid with rfl | rfl <;> decide +kernel
  mid := by
    intro mid hmid
    obtain rfl := Option.some.inj hmid
    decide
  rid := by
    intro rid hrid
    obtain rfl := Option.some.inj hrid
    decide
  playoutDelay := ⟨show (10 : UInt16) < 4096 by decide, show (20 : UInt16) < 4096 by decide⟩

/-- The mid and the rid are found. -/
theorem survives_rid : (ridConfig 0).Survives true [1, 2, 3] :=
  (survives_iff (validExtensions_ridConfig 0 (Or.inl rfl))).2 fun hboth => hboth.2 rfl

/-- The playout delay takes the place of the rid. -/
theorem not_survives_playoutDelay :
    ¬∀ (config : RtpPacketizationConfig) (mark : Bool) (payload : List UInt8),
      config.ValidExtensions → config.Survives mark payload := by
  intro hall
  have hvalid := validExtensions_ridConfig 3 (Or.inr rfl)
  exact not_survives_of_both hvalid ⟨rfl, by decide⟩ (hall (ridConfig 3) true [1, 2, 3] hvalid)

end RtpPacketizationConfig

end Rtc
