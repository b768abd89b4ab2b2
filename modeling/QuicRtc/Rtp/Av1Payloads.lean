import Mathlib.Data.List.Chain
import QuicRtc.Lib.Leb128

/-!
# AV1 payloads

`AV1RtpPacketizer::packetizeObu` caches a sequence header and sends it in front of the next OBU, in
the same payload, with its length in one byte. A longer length loses its high bits, a header that
does not fit a payload is copied over the end of it, and of two headers in a row the first is lost.

A receiver reads the aggregation header of a payload and the lengths of its elements, and puts
together what is continued from one payload to the next (`readPayloads`).

* `packetizeObus_spec`: what a receiver gets for a sequence of OBUs.
* `payloads_reassemble_iff`: for which sequences of OBUs it gets them all.
-/

namespace Rtc

namespace Av1

/-! ## The packetizer -/

/-- What can go wrong in `packetizeObu`. -/
inductive PacketizeFault where
  /-- `std::out_of_range`, from `at`. -/
  | outOfRange
  /-- The sequence header is copied over the end of the payload. -/
  | outside
  /-- The loop takes more rounds than it is given. -/
  | endless
  deriving DecidableEq, Repr

/-- The frame type of an OBU is `obuFrameTypeSequenceHeader`. -/
def isSequenceHeader (message : List UInt8) : Bool :=
  match message with
  | [] => false
  | first :: _ => (first &&& 0x78) >>> 3 == 1

/-- The first byte of a payload: the number of elements, and the flags N, Z and Y. -/
def aggregationHeader (withHeader continuation continues : Bool) : UInt8 :=
  let count : UInt8 := if withHeader then 2 else 1
  (count <<< 4) ^^^ (if withHeader then 0x08 else 0) ^^^ (if continuation then 0x80 else 0) ^^^
    (if continues then 0x40 else 0)

/-- What is before the sequence header or the OBU in a payload, with the sequence header. -/
def metadata (sequenceHeader : Option (List UInt8)) : List UInt8 :=
  match sequenceHeader with
  | none => []
  | some header => UInt8.ofNat (header.length &&& 0x7F) :: header

/-- The loop of `packetizeObu` over the fragments of an OBU. `continuation` says that there is a
payload already. -/
def packetizeLoop (maxFragmentSize : UInt16) (message : List UInt8) :
    ℕ → Option (List UInt8) → ℕ → Bool → Except PacketizeFault (List (List UInt8))
  | rounds, sequenceHeader, messageIndex, continuation =>
    if messageIndex < message.length then
      match rounds with
      | 0 => .error .endless
      | rounds + 1 =>
        let obuCount := if sequenceHeader.isSome then 2 else 1
        let metadataSize := 1 + (metadata sequenceHeader).length
        let size := min maxFragmentSize.toNat (message.length - messageIndex + metadataSize)
        -- the bytes of the aggregation header and of the length are written with `at`
        if size < obuCount then .error .outOfRange
        else if size < metadataSize then .error .outside
        else
          let payloadRemaining := size - metadataSize
          let payload :=
            aggregationHeader sequenceHeader.isSome continuation
                (messageIndex + payloadRemaining < message.length) ::
              (metadata sequenceHeader ++ (message.drop messageIndex).take payloadRemaining)
          (packetizeLoop maxFragmentSize message rounds none (messageIndex + payloadRemaining)
            true).map (payload :: ·)
    else .ok []

/-- `AV1RtpPacketizer::packetizeObu`: the payloads, and the `sequenceHeader` that is cached
afterwards. A round takes at least one byte, but for the first behind a sequence header. -/
def packetizeObu (maxFragmentSize : UInt16) (sequenceHeader : Option (List UInt8))
    (message : List UInt8) : Except PacketizeFault (List (List UInt8) × Option (List UInt8)) :=
  if message.length < 1 then .ok ([], sequenceHeader)
  else if isSequenceHeader message then .ok ([], some message)
  else
    (packetizeLoop maxFragmentSize message (message.length + 1) sequenceHeader 0 false).map
      (·, none)

/-- The calls of `packetizeObu` for a sequence of OBUs. -/
def packetizeObus (maxFragmentSize : UInt16) (sequenceHeader : Option (List UInt8)) :
    List (List UInt8) → Except PacketizeFault (List (List UInt8))
  | [] => .ok []
  | message :: messages =>
    match packetizeObu maxFragmentSize sequenceHeader message with
    | .error fault => .error fault
    | .ok (payloads, sequenceHeader) =>
      (packetizeObus maxFragmentSize sequenceHeader messages).map (payloads ++ ·)

/-! ## The receiver -/

/-- Elements with a length before each, and the bytes behind them. -/
def readElements : ℕ → List UInt8 → Option (List (List UInt8) × List UInt8)
  | 0, bytes => some ([], bytes)
  | count + 1, bytes =>
    (Leb128.decode bytes).bind fun (length, rest) =>
      if length ≤ rest.length then
        (readElements count (rest.drop length)).map fun (elements, rest') =>
          (rest.take length :: elements, rest')
      else none

/-- Elements with a length before each, up to the end. An element takes at least one byte. -/
def readAllElements : ℕ → List UInt8 → Option (List (List UInt8))
  | _, [] => some []
  | 0, _ :: _ => none
  | count + 1, bytes@(_ :: _) =>
    (readElements 1 bytes).bind fun (elements, rest) =>
      (readAllElements count rest).map (elements ++ ·)

/-- The elements of a payload: if their number W is not 0, the last one has no length. -/
def elementsOf (header : UInt8) (bytes : List UInt8) : Option (List (List UInt8)) :=
  let w := ((header >>> 4) &&& 0x03).toNat
  if w = 0 then readAllElements bytes.length bytes
  else (readElements (w - 1) bytes).map fun (elements, last) => elements ++ [last]

/-- The first element is put behind the fragment that it continues, if the flag Z is set. There is
no reading if a fragment is not continued, or if what is continued is missing. -/
def joinFragment (continuation : Bool) (fragment : Option (List UInt8))
    (elements : List (List UInt8)) : Option (List (List UInt8)) :=
  match continuation, fragment, elements with
  | false, none, elements => some elements
  | true, some fragment, element :: elements => some ((fragment ++ element) :: elements)
  | _, _, _ => none

/-- A payload behind a fragment: the OBUs that it completes, and the last element if the flag Y is
set. -/
def readPayload (fragment : Option (List UInt8)) (payload : List UInt8) :
    Option (List (List UInt8) × Option (List UInt8)) :=
  match payload with
  | [] => none
  | header :: bytes =>
    (elementsOf header bytes).bind fun elements =>
      (joinFragment (header &&& 0x80 != 0) fragment elements).bind fun obus =>
        if header &&& 0x40 != 0 then obus.getLast?.map fun last => (obus.dropLast, some last)
        else some (obus, none)

/-- The OBUs of payloads, and the fragment that is left. -/
def readPayloads (fragment : Option (List UInt8)) :
    List (List UInt8) → Option (List (List UInt8) × Option (List UInt8))
  | [] => some ([], fragment)
  | payload :: payloads =>
    (readPayload fragment payload).bind fun first =>
      (readPayloads first.2 payloads).map fun others => (first.1 ++ others.1, others.2)

/-- The OBUs that have to come out: all but a sequence header at the end, which is cached. -/
def expected : List (List UInt8) → List (List UInt8)
  | [] => []
  | [obu] => if isSequenceHeader obu then [] else [obu]
  | obu :: obus => obu :: expected obus

/-- The payloads fit, and a receiver gets the OBUs in order. -/
def Reassembles (maxFragmentSize : UInt16) (obus : List (List UInt8)) : Prop :=
  ∃ payloads, packetizeObus maxFragmentSize none obus = .ok payloads ∧
    (∀ payload ∈ payloads, payload.length ≤ maxFragmentSize.toNat) ∧
    readPayloads none payloads = some (expected obus, none)

/-! ## Reading payloads -/

theorem readPayloads_append (fragment : Option (List UInt8)) (first second : List (List UInt8)) :
    readPayloads fragment (first ++ second) =
      (readPayloads fragment first).bind fun read =>
        (readPayloads read.2 second).map fun others => (read.1 ++ others.1, others.2) := by
  induction first generalizing fragment with
  | nil =>
    show readPayloads fragment second = (readPayloads fragment second).map _
    cases readPayloads fragment second <;> rfl
  | cons payload payloads ih =>
    rw [List.cons_append, readPayloads, readPayloads]
    cases readPayload fragment payload with
    | none => rfl
    | some read =>
      rw [Option.bind_some, Option.bind_some, ih]
      cases readPayloads read.2 payloads with
      | none => rfl
      | some read' =>
        rw [Option.bind_some, Option.map_some, Option.bind_some]
        cases readPayloads read'.2 second with
        | none => rfl
        | some read'' => simp only [Option.map_some, List.append_assoc]

/-- The bits of the aggregation header. -/
theorem aggregationHeader_bits (withHeader continuation continues : Bool) :
    let header := aggregationHeader withHeader continuation continues
    ((header >>> 4) &&& 0x03).toNat = (if withHeader then 2 else 1) ∧
      (header &&& 0x80 != 0) = continuation ∧ (header &&& 0x40 != 0) = continues := by
  revert withHeader continuation continues
  decide

/-- A payload with one element. -/
theorem readPayload_single (fragment : Option (List UInt8)) (continues : Bool)
    (piece : List UInt8) :
    readPayload fragment (aggregationHeader false fragment.isSome continues :: piece) =
      some (if continues then ([], some (fragment.getD [] ++ piece))
        else ([fragment.getD [] ++ piece], none)) := by
  obtain ⟨hcount, hcontinuation, hcontinues⟩ :=
    aggregationHeader_bits false fragment.isSome continues
  have helements : elementsOf (aggregationHeader false fragment.isSome continues) piece =
      some [piece] := by
    rw [elementsOf, hcount]
    rfl
  rw [readPayload, helements, hcontinuation, hcontinues]
  cases fragment <;> cases continues <;> rfl

/-- A payload with a sequence header before the element. Of the length of the header seven bits are
left. -/
theorem readPayload_withHeader (continues : Bool) (header piece : List UInt8) :
    readPayload none
        (aggregationHeader true false continues :: (metadata (some header) ++ piece)) =
      some (if continues then
          ([header.take (header.length % 128)], some (header.drop (header.length % 128) ++ piece))
        else
          ([header.take (header.length % 128), header.drop (header.length % 128) ++ piece],
            none)) := by
  obtain ⟨hcount, hcontinuation, hcontinues⟩ := aggregationHeader_bits true false continues
  have hle : header.length % 128 ≤ header.length := Nat.mod_le _ _
  have hlength : UInt8.ofNat (header.length &&& 0x7F) = UInt8.ofNat (header.length % 128) :=
    congrArg UInt8.ofNat (Nat.and_two_pow_sub_one_eq_mod header.length 7)
  have hdecode : Leb128.decode (metadata (some header) ++ piece) =
      some (header.length % 128, header ++ piece) := by
    rw [metadata, hlength]
    exact (Leb128.encodes_of_lt (Nat.mod_lt _ (by decide))).decode_append (header ++ piece)
  have helements : elementsOf (aggregationHeader true false continues)
      (metadata (some header) ++ piece) =
        some [header.take (header.length % 128), header.drop (header.length % 128) ++ piece] := by
    rw [elementsOf, hcount]
    show (readElements 1 (metadata (some header) ++ piece)).map _ = _
    rw [readElements, hdecode, Option.bind_some]
    dsimp only
    rw [List.length_append, if_pos (hle.trans (Nat.le_add_right _ _)),
      List.take_append_of_le_length hle, List.drop_append_of_le_length hle]
    rfl
  rw [readPayload, helements, hcontinuation, hcontinues]
  cases continues <;> rfl

/-- The payloads fit, and a receiver that has `fragment` reads these OBUs from them. -/
structure Carries (maxFragmentSize : UInt16) (fragment : Option (List UInt8))
    (payloads obus : List (List UInt8)) : Prop where
  fits : ∀ payload ∈ payloads, payload.length ≤ maxFragmentSize.toNat
  read : readPayloads fragment payloads = some (obus, none)

namespace Carries

variable {maxFragmentSize : UInt16} {fragment fragment' : Option (List UInt8)}
  {payloads payloads' obus obus' : List (List UInt8)}

theorem nil : Carries maxFragmentSize none [] [] := ⟨List.forall_mem_nil _, rfl⟩

/-- The payloads behind one that leaves a fragment. -/
theorem cons (h : Carries maxFragmentSize fragment' payloads obus') {payload : List UInt8}
    (hsize : payload.length ≤ maxFragmentSize.toNat)
    (hread : readPayload fragment payload = some (obus, fragment')) :
    Carries maxFragmentSize fragment (payload :: payloads) (obus ++ obus') where
  fits := List.forall_mem_cons.2 ⟨hsize, h.fits⟩
  read := by
    rw [readPayloads, hread, Option.bind_some, h.read]
    rfl

/-- The payloads of two calls, read one after the other. -/
theorem append (h : Carries maxFragmentSize fragment payloads obus)
    (h' : Carries maxFragmentSize none payloads' obus') :
    Carries maxFragmentSize fragment (payloads ++ payloads') (obus ++ obus') where
  fits payload hmem := (List.mem_append.1 hmem).elim (h.fits payload) (h'.fits payload)
  read := by
    rw [readPayloads_append, h.read, Option.bind_some, h'.read]
    rfl

end Carries

/-! ## One OBU -/

section Loop

variable {maxFragmentSize : UInt16} {message : List UInt8}

theorem packetizeLoop_end {rounds messageIndex : ℕ} {continuation : Bool}
    (h : message.length ≤ messageIndex) :
    packetizeLoop maxFragmentSize message rounds none messageIndex continuation = .ok [] := by
  rw [packetizeLoop.eq_def]
  exact if_neg (not_lt.2 h)

/-- One round, if the sequence header fits. -/
theorem packetizeLoop_succ (rounds : ℕ) {messageIndex : ℕ}
    (sequenceHeader : Option (List UInt8)) (continuation : Bool)
    (hmax : 2 ≤ maxFragmentSize.toNat) (hlt : messageIndex < message.length)
    (hfits : 1 + (metadata sequenceHeader).length ≤ maxFragmentSize.toNat) :
    ∃ n, n = min (maxFragmentSize.toNat - (1 + (metadata sequenceHeader).length))
        (message.length - messageIndex) ∧
      packetizeLoop maxFragmentSize message (rounds + 1) sequenceHeader messageIndex continuation =
        (packetizeLoop maxFragmentSize message rounds none (messageIndex + n) true).map
          ((aggregationHeader sequenceHeader.isSome continuation
              (decide (messageIndex + n < message.length)) ::
            (metadata sequenceHeader ++ (message.drop messageIndex).take n)) :: ·) := by
  refine ⟨_, rfl, ?_⟩
  have hsize : min maxFragmentSize.toNat
      (message.length - messageIndex + (1 + (metadata sequenceHeader).length)) -
        (1 + (metadata sequenceHeader).length) =
      min (maxFragmentSize.toNat - (1 + (metadata sequenceHeader).length))
        (message.length - messageIndex) := by
    omega
  have hcount : (if sequenceHeader.isSome then 2 else 1) ≤
      min maxFragmentSize.toNat
        (message.length - messageIndex + (1 + (metadata sequenceHeader).length)) := by
    split <;> omega
  rw [packetizeLoop, if_pos hlt]
  dsimp only
  rw [if_neg (not_lt.2 hcount), if_neg (by omega), hsize]

/-- The fragments of an OBU: a receiver puts what is left of the OBU behind what it has of it. The
induction is on the rounds; each takes at least one byte. -/
theorem packetizeLoop_none (hmax : 2 ≤ maxFragmentSize.toNat) :
    ∀ {rounds messageIndex : ℕ} (fragment : Option (List UInt8)), messageIndex < message.length →
      message.length - messageIndex ≤ rounds →
      ∃ payloads, packetizeLoop maxFragmentSize message rounds none messageIndex fragment.isSome =
          .ok payloads ∧
        Carries maxFragmentSize fragment payloads
          [fragment.getD [] ++ message.drop messageIndex] := by
  intro rounds
  induction rounds with
  | zero =>
    intro messageIndex fragment hlt hrounds
    omega
  | succ rounds ih =>
    intro messageIndex fragment hlt hrounds
    obtain ⟨n, hn, hround⟩ := packetizeLoop_succ rounds none fragment.isSome hmax hlt
      (by simp [metadata]; omega)
    have hn' : n = min (maxFragmentSize.toNat - 1) (message.length - messageIndex) := hn
    have hsize : ∀ continues, (aggregationHeader false fragment.isSome continues ::
        (message.drop messageIndex).take n).length ≤ maxFragmentSize.toNat := by
      intro continues
      rw [List.length_cons, List.length_take, List.length_drop]
      omega
    have hread := readPayload_single fragment (decide (messageIndex + n < message.length))
      ((message.drop messageIndex).take n)
    rw [hround]
    by_cases hmore : messageIndex + n < message.length
    · -- the next payloads continue the OBU
      obtain ⟨payloads, hloop, hpayloads⟩ :=
        ih (some (fragment.getD [] ++ (message.drop messageIndex).take n)) hmore (by omega)
      rw [Option.isSome_some] at hloop
      rw [Option.getD_some, List.append_assoc, ← List.drop_drop, List.take_append_drop]
        at hpayloads
      rw [decide_eq_true hmore] at hread ⊢
      exact ⟨_, congrArg (Except.map _) hloop, hpayloads.cons (hsize true) hread⟩
    · -- the rest of the OBU fits
      have hall : (message.drop messageIndex).take n = message.drop messageIndex := by
        rw [List.take_of_length_le]
        rw [List.length_drop]
        omega
      rw [packetizeLoop_end (not_lt.1 hmore), decide_eq_false hmore]
      rw [decide_eq_false hmore] at hread
      refine ⟨_, rfl, ?_⟩
      have hcarries := Carries.nil.cons (hsize false) hread
      rw [hall] at hcarries ⊢
      exact hcarries

/-- A sequence header that fits, in front of the fragments. -/
theorem packetizeLoop_some (hmax : 2 ≤ maxFragmentSize.toNat) {header : List UInt8}
    (hmessage : 0 < message.length) (hfits : header.length + 2 ≤ maxFragmentSize.toNat) :
    ∃ payloads, packetizeLoop maxFragmentSize message (message.length + 1) (some header) 0 false =
        .ok payloads ∧
      Carries maxFragmentSize none payloads
        [header.take (header.length % 128), header.drop (header.length % 128) ++ message] := by
  have hmetadata : (metadata (some header)).length = header.length + 1 := rfl
  obtain ⟨n, hn, hround⟩ := packetizeLoop_succ message.length (some header) false hmax hmessage
    (by omega)
  rw [hmetadata, Nat.sub_zero] at hn
  have hsize : ∀ continues, (aggregationHeader true false continues ::
      (metadata (some header) ++ (message.drop 0).take n)).length ≤ maxFragmentSize.toNat := by
    intro continues
    rw [List.length_cons, List.length_append, hmetadata, List.length_take, List.length_drop]
    omega
  have hread := readPayload_withHeader (decide (0 + n < message.length)) header
    ((message.drop 0).take n)
  rw [hround]
  by_cases hmore : 0 + n < message.length
  · -- the next payloads continue the OBU behind the rest of the header
    obtain ⟨payloads, hloop, hpayloads⟩ := packetizeLoop_none hmax
      (some (header.drop (header.length % 128) ++ (message.drop 0).take n)) hmore
      (Nat.sub_le _ _)
    rw [Option.isSome_some] at hloop
    rw [Option.getD_some, List.append_assoc, ← List.drop_drop, List.take_append_drop]
      at hpayloads
    rw [decide_eq_true hmore] at hread ⊢
    exact ⟨_, congrArg (Except.map _) hloop, hpayloads.cons (hsize true) hread⟩
  · have hall : (message.drop 0).take n = message := by
      rw [List.drop_zero, List.take_of_length_le (by omega)]
    rw [packetizeLoop_end (not_lt.1 hmore), decide_eq_false hmore]
    rw [decide_eq_false hmore] at hread
    refine ⟨_, rfl, ?_⟩
    have hcarries := Carries.nil.cons (hsize false) hread
    rw [hall] at hcarries ⊢
    exact hcarries

/-- A sequence header that does not fit is copied over the end of the payload. -/
theorem packetizeLoop_outside (hmax : 2 ≤ maxFragmentSize.toNat) {header : List UInt8}
    (hmessage : 0 < message.length) (hlong : maxFragmentSize.toNat < header.length + 2)
    (rounds : ℕ) :
    packetizeLoop maxFragmentSize message (rounds + 1) (some header) 0 false =
      .error .outside := by
  have hmetadata : (metadata (some header)).length = header.length + 1 := rfl
  rw [packetizeLoop, if_pos hmessage]
  dsimp only
  rw [hmetadata, if_neg (by simp; omega), if_pos (by omega)]

end Loop

/-! ## Sequences of OBUs -/

/-- What a receiver gets for OBUs behind a cached sequence header: the header is cut behind seven
bits of its length. There is nothing if a header does not fit. -/
def emitted (maxFragmentSize : UInt16) :
    Option (List UInt8) → List (List UInt8) → Option (List (List UInt8))
  | _, [] => some []
  | sequenceHeader, obu :: obus =>
    if isSequenceHeader obu then emitted maxFragmentSize (some obu) obus
    else
      match sequenceHeader with
      | none => (emitted maxFragmentSize none obus).map (obu :: ·)
      | some header =>
        if header.length + 2 ≤ maxFragmentSize.toNat then
          (emitted maxFragmentSize none obus).map
            ([header.take (header.length % 128), header.drop (header.length % 128) ++ obu] ++ ·)
        else none

/-- A header does no harm to the OBU behind it. -/
def Harmless (maxFragmentSize : UInt16) (obu next : List UInt8) : Prop :=
  isSequenceHeader obu →
    ¬isSequenceHeader next ∧ obu.length ≤ 127 ∧ obu.length + 2 ≤ maxFragmentSize.toNat

variable {maxFragmentSize : UInt16}

theorem emitted_of_header {obu : List UInt8} (h : isSequenceHeader obu)
    (sequenceHeader : Option (List UInt8)) (obus : List (List UInt8)) :
    emitted maxFragmentSize sequenceHeader (obu :: obus) =
      emitted maxFragmentSize (some obu) obus := by
  rw [emitted.eq_def]
  exact if_pos h

theorem emitted_none {obu : List UInt8} (h : ¬isSequenceHeader obu) (obus : List (List UInt8)) :
    emitted maxFragmentSize none (obu :: obus) =
      (emitted maxFragmentSize none obus).map (obu :: ·) := by
  rw [emitted.eq_def]
  exact if_neg h

theorem emitted_some {obu : List UInt8} (h : ¬isSequenceHeader obu) (header : List UInt8)
    (obus : List (List UInt8)) :
    emitted maxFragmentSize (some header) (obu :: obus) =
      if header.length + 2 ≤ maxFragmentSize.toNat then
        (emitted maxFragmentSize none obus).map
          ([header.take (header.length % 128), header.drop (header.length % 128) ++ obu] ++ ·)
      else none := by
  rw [emitted.eq_def]
  exact if_neg h

/-- The payloads for an OBU that is no sequence header. -/
theorem packetizeObu_of_not_header {obu : List UInt8} (hne : obu ≠ [])
    (hheader : ¬isSequenceHeader obu) (sequenceHeader : Option (List UInt8)) :
    packetizeObu maxFragmentSize sequenceHeader obu =
      (packetizeLoop maxFragmentSize obu (obu.length + 1) sequenceHeader 0 false).map
        (·, none) := by
  have hpos := List.length_pos_iff.2 hne
  rw [packetizeObu, if_neg (by omega), if_neg hheader]

theorem packetizeObu_of_header {obu : List UInt8} (hne : obu ≠ []) (hheader : isSequenceHeader obu)
    (sequenceHeader : Option (List UInt8)) :
    packetizeObu maxFragmentSize sequenceHeader obu = .ok ([], some obu) := by
  have hpos := List.length_pos_iff.2 hne
  rw [packetizeObu, if_neg (by omega), if_pos hheader]

/-- Payloads that carry what a receiver is to get, or a fault where it is to get nothing. -/
inductive Packetized (maxFragmentSize : UInt16) :
    Option (List (List UInt8)) → Except PacketizeFault (List (List UInt8)) → Prop where
  | fault (fault : PacketizeFault) : Packetized maxFragmentSize none (.error fault)
  | payloads {payloads obus : List (List UInt8)} (h : Carries maxFragmentSize none payloads obus) :
    Packetized maxFragmentSize (some obus) (.ok payloads)

/-- The payloads of an OBU before those of the others. -/
theorem Packetized.map {obus : Option (List (List UInt8))}
    {packetized : Except PacketizeFault (List (List UInt8))}
    (h : Packetized maxFragmentSize obus packetized) {first obus' : List (List UInt8)}
    (hfirst : Carries maxFragmentSize none first obus') :
    Packetized maxFragmentSize (obus.map (obus' ++ ·)) (packetized.map (first ++ ·)) := by
  cases h with
  | fault fault => exact .fault fault
  | payloads hothers => exact .payloads (hfirst.append hothers)

/-- What a receiver gets, by induction on the OBUs: each takes the cached header away or replaces
it. -/
theorem packetizeObus_spec (hmax : 2 ≤ maxFragmentSize.toNat) {obus : List (List UInt8)}
    (hne : ∀ obu ∈ obus, obu ≠ []) :
    ∀ sequenceHeader : Option (List UInt8),
      Packetized maxFragmentSize (emitted maxFragmentSize sequenceHeader obus)
        (packetizeObus maxFragmentSize sequenceHeader obus) := by
  induction obus with
  | nil => exact fun sequenceHeader => .payloads .nil
  | cons obu obus ih =>
    rw [List.forall_mem_cons] at hne
    obtain ⟨hobu, hobus⟩ := hne
    intro sequenceHeader
    rw [packetizeObus]
    by_cases hheader : isSequenceHeader obu
    · -- the header is cached
      rw [packetizeObu_of_header hobu hheader, emitted_of_header hheader]
      have hothers := (ih hobus (some obu)).map .nil
      rwa [show (([] : List (List UInt8)) ++ ·) = id from rfl, Option.map_id] at hothers
    · rw [packetizeObu_of_not_header hobu hheader]
      have hpos := List.length_pos_iff.2 hobu
      cases sequenceHeader with
      | none =>
        have hrounds : obu.length - 0 ≤ obu.length + 1 := by omega
        obtain ⟨first, hloop, hfirst⟩ := packetizeLoop_none hmax none hpos hrounds
        rw [Option.isSome_none] at hloop
        rw [hloop, emitted_none hheader]
        exact (ih hobus none).map hfirst
      | some header =>
        rw [emitted_some hheader]
        by_cases hlong : header.length + 2 ≤ maxFragmentSize.toNat
        · obtain ⟨first, hloop, hfirst⟩ := packetizeLoop_some hmax hpos hlong
          rw [hloop, if_pos hlong]
          exact (ih hobus none).map hfirst
        · rw [packetizeLoop_outside hmax hpos (not_le.1 hlong), if_neg hlong]
          exact .fault .outside

theorem expected_cons_cons (first obu : List UInt8) (obus : List (List UInt8)) :
    expected (first :: obu :: obus) = first :: expected (obu :: obus) := rfl

/-- Only a sequence header at the end does not come out. -/
theorem expected_of_not_header {obu : List UInt8} (h : ¬isSequenceHeader obu)
    (obus : List (List UInt8)) : expected (obu :: obus) = obu :: expected obus := by
  cases obus with
  | nil => simp [expected, h]
  | cons next rest => rfl

/-- A receiver gets no more OBUs than it should, with the cached header in front. -/
theorem length_emitted_le (obus : List (List UInt8)) :
    ∀ {sequenceHeader : Option (List UInt8)} {out : List (List UInt8)},
      (∀ header ∈ sequenceHeader, isSequenceHeader header) →
      emitted maxFragmentSize sequenceHeader obus = some out →
      out.length ≤ (expected (sequenceHeader.toList ++ obus)).length := by
  induction obus with
  | nil =>
    intro sequenceHeader out _ hout
    obtain rfl : [] = out := Option.some.inj hout
    exact Nat.zero_le _
  | cons obu obus ih =>
    intro sequenceHeader out hcached hout
    by_cases hheader : isSequenceHeader obu
    · rw [emitted_of_header hheader] at hout
      have hle := ih (by simpa using hheader) hout
      cases sequenceHeader with
      | none => exact hle
      | some header =>
        -- the cached header is lost
        rw [Option.toList_some, List.singleton_append, expected_cons_cons, List.length_cons]
        exact hle.trans (Nat.le_succ _)
    · have hsent := congrArg List.length (expected_of_not_header hheader obus)
      rw [List.length_cons] at hsent
      cases sequenceHeader with
      | none =>
        rw [emitted_none hheader] at hout
        obtain ⟨others, hothers, rfl⟩ := Option.map_eq_some_iff.1 hout
        have hle := ih (by simp) hothers
        rw [Option.toList_none, List.nil_append] at hle ⊢
        rw [hsent, List.length_cons]
        omega
      | some header =>
        -- two elements for two OBUs
        rw [emitted_some hheader] at hout
        split_ifs at hout
        obtain ⟨others, hothers, rfl⟩ := Option.map_eq_some_iff.1 hout
        have hle := ih (by simp) hothers
        rw [Option.toList_none, List.nil_append] at hle
        rw [Option.toList_some, List.singleton_append, expected_cons_cons, List.length_cons, hsent]
        simp only [List.length_append, List.length_cons, List.length_nil]
        omega

/-- A receiver gets the OBUs exactly if every header is harmless. By induction on the OBUs, with a
cached header in front and without. -/
theorem emitted_eq_iff (obus : List (List UInt8)) :
    (emitted maxFragmentSize none obus = some (expected obus) ↔
      obus.IsChain (Harmless maxFragmentSize)) ∧
    ∀ header, isSequenceHeader header →
      (emitted maxFragmentSize (some header) obus = some (expected (header :: obus)) ↔
        (header :: obus).IsChain (Harmless maxFragmentSize)) := by
  induction obus with
  | nil =>
    refine ⟨by simp [emitted, expected], fun header hheader => ?_⟩
    simp [emitted, expected, hheader]
  | cons obu obus ih =>
    obtain ⟨hnone, hsome⟩ := ih
    by_cases hheader : isSequenceHeader obu
    · constructor
      · rw [emitted_of_header hheader]
        exact hsome obu hheader
      · intro header hcached
        rw [emitted_of_header hheader, expected_cons_cons]
        -- the header is replaced by the next, and an OBU is missing
        refine iff_of_false (fun heq => ?_) fun hchain => ?_
        · have hle := length_emitted_le obus (by simpa using hheader) heq
          rw [Option.toList_some, List.singleton_append, List.length_cons] at hle
          omega
        · exact ((List.isChain_cons_cons.1 hchain).1 hcached).1 hheader
    · have hsent := expected_of_not_header hheader obus
      have hchain : (obu :: obus).IsChain (Harmless maxFragmentSize) ↔
          obus.IsChain (Harmless maxFragmentSize) := by
        cases obus with
        | nil => simp
        | cons next rest =>
          rw [List.isChain_cons_cons]
          exact and_iff_right fun h => absurd h hheader
      constructor
      · rw [emitted_none hheader, hsent, hchain, ← hnone]
        simp
      · intro header hcached
        rw [emitted_some hheader, expected_cons_cons, hsent, List.isChain_cons_cons, hchain,
          ← hnone]
        split_ifs with hfits
        · constructor
          · intro heq
            obtain ⟨others, hothers, hout⟩ := Option.map_eq_some_iff.1 heq
            rw [List.cons_append, List.cons_append, List.nil_append] at hout
            obtain ⟨htake, hout⟩ := List.cons.inj hout
            -- the whole header comes out only if its length has seven bits
            have hlength := congrArg List.length htake
            rw [List.length_take] at hlength
            refine ⟨fun _ => ⟨hheader, by omega, hfits⟩, ?_⟩
            rw [hothers, (List.cons.inj hout).2]
          · rintro ⟨hharmless, hothers⟩
            obtain ⟨-, hshort, -⟩ := hharmless hcached
            rw [hothers, Nat.mod_eq_of_lt (by omega), List.take_length, List.drop_length]
            rfl
        · exact iff_of_false (by simp) fun h => hfits (h.1 hcached).2.2

/-- For every size of at least two bytes and every sequence of OBUs: the payloads fit and a receiver
gets the OBUs in order exactly if every sequence header with an OBU behind it is followed by an OBU
that is none, has at most 127 bytes, and fits a payload with its length and the aggregation
header. -/
theorem payloads_reassemble_iff {maxFragmentSize : UInt16} (hmax : 2 ≤ maxFragmentSize.toNat)
    {obus : List (List UInt8)} (hne : ∀ obu ∈ obus, obu ≠ []) :
    Reassembles maxFragmentSize obus ↔
      obus.IsChain fun obu next => isSequenceHeader obu →
        ¬isSequenceHeader next ∧ obu.length ≤ 127 ∧ obu.length + 2 ≤ maxFragmentSize.toNat := by
  refine Iff.trans ?_ (emitted_eq_iff obus).1
  have hspec := packetizeObus_spec hmax hne none
  rw [Reassembles]
  generalize emitted maxFragmentSize none obus = out at hspec ⊢
  generalize packetizeObus maxFragmentSize none obus = packetized at hspec ⊢
  cases hspec with
  | fault fault => simp
  | payloads hcarries =>
    constructor
    · rintro ⟨payloads', hpayloads, -, hread⟩
      obtain rfl := Except.ok.inj hpayloads
      rw [hcarries.read] at hread
      exact congrArg some (Prod.mk.inj (Option.some.inj hread)).1
    · intro heq
      refine ⟨_, rfl, hcarries.fits, ?_⟩
      rw [hcarries.read, Option.some.inj heq]

/-- A sequence header of one byte and a frame of four bytes, in payloads of at most three bytes: the
first payload has no room for the frame. -/
theorem reassembles_small : Reassembles 3 [[0x08], [0x30, 1, 2, 3]] :=
  (payloads_reassemble_iff (by decide) (by decide)).2 (by decide)

/-- With two headers in a row the first is lost. -/
theorem not_reassembles_twice :
    packetizeObus 1200 none [[0x08], [0x08, 1], [0x30]] = .ok [[0x28, 2, 0x08, 1, 0x30]] ∧
      readPayloads none [[0x28, 2, 0x08, 1, 0x30]] = some ([[0x08, 1], [0x30]], none) ∧
      ¬Reassembles 1200 [[0x08], [0x08, 1], [0x30]] := by
  have hok : packetizeObus 1200 none [[0x08], [0x08, 1], [0x30]] =
      .ok [[0x28, 2, 0x08, 1, 0x30]] := rfl
  have hread : readPayloads none [[0x28, 2, 0x08, 1, 0x30]] =
      some ([[0x08, 1], [0x30]], none) := by decide +kernel
  refine ⟨hok, hread, ?_⟩
  rintro ⟨payloads, hpayloads, -, hexpected⟩
  obtain rfl := Except.ok.inj (hok.symm.trans hpayloads)
  exact absurd (hread.symm.trans hexpected) (by decide +kernel)

end Av1

end Rtc
