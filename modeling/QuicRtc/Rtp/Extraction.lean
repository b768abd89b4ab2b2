import QuicRtc.Lib.Reader
import QuicRtc.Rtp.MalformedFrame
import QuicRtc.Rtp.Packet

/-!
# Extraction of payloads

`RtpDepacketizer::incoming`, and the reads of `H264RtpDepacketizer` and `H265RtpDepacketizer` as
they are made in a message: by `at`, which throws, through the headers laid over the message, which
does not, and as ranges of iterators.

The size of a header extension is read where the header says that the extension is, which may be
behind the end of the message. `RtpDepacketizer` also takes a CSRC for one byte, and does not
compare the size of the headers with that of the message.

* `addPacketChecked_eq`: the extension header apart, the loop of `buildFrames` makes no read and no
  range outside the message.
* `extraction_iff`: for which messages the depacketizers keep inside, and for which packets
  `RtpDepacketizer` gives the payload.
-/

namespace Rtc

/-- How a read can fail. -/
inductive ReadFault where
  /-- A read or a range beyond the end of the message. -/
  | outside
  | thrown (e : DepacketizerException)
  deriving DecidableEq, Repr

/-- The outcome of code that reads a message. -/
abbrev Checked := Except ReadFault

namespace Checked

/-- The exceptions of code that keeps inside the message. -/
def lift {α : Type} (outcome : Except DepacketizerException α) : Checked α :=
  outcome.mapError .thrown

/-- `at`. -/
def byteAt (pkt : List UInt8) (offset : ℕ) : Checked UInt8 :=
  match pkt[offset]? with
  | some b => .ok b
  | none => .error (.thrown .outOfRange)

/-- The bytes from `begin() + first` to `begin() + last`. -/
def range (pkt : List UInt8) (first last : ℕ) : Checked (List UInt8) :=
  if first ≤ last ∧ last ≤ pkt.length then .ok ((pkt.take last).drop first) else .error .outside

variable {pkt rest : List UInt8} {offset : ℕ} {b : UInt8}

theorem byteAt_of_drop_nil (h : pkt.drop offset = []) :
    byteAt pkt offset = .error (.thrown .outOfRange) := by
  rw [byteAt, Reader.getElem?_of_drop_nil h]

theorem byteAt_of_drop (h : pkt.drop offset = b :: rest) : byteAt pkt offset = .ok b := by
  rw [byteAt, Reader.getElem?_of_drop h]

/-- A range up to the end. -/
theorem range_length (h : offset ≤ pkt.length) :
    range pkt offset pkt.length = .ok (pkt.drop offset) := by
  rw [range, if_pos ⟨h, le_rfl⟩, List.take_length]

theorem range_add {n : ℕ} (h : offset + n ≤ pkt.length) :
    range pkt offset (offset + n) = .ok ((pkt.drop offset).take n) := by
  rw [range, if_pos ⟨Nat.le_add_right _ _, h⟩, List.drop_take, Nat.add_sub_cancel_left]

end Checked

open Checked

/-! ## The headers -/

namespace RtpHeader

/-- The header laid over the start of a message. -/
def readChecked (pkt : List UInt8) : Checked RtpHeader :=
  if sizeOf ≤ pkt.length then .ok (read pkt) else .error .outside

/-- `RtpHeader::getExtensionHeaderSize`, with the extension header laid over the message. -/
def getExtensionHeaderSizeChecked (pkt : List UInt8) : Checked ℕ := do
  let h ← readChecked pkt
  if h.extension then
    let extensionHeader ← range pkt h.getSize (h.getSize + RtpExtensionHeader.sizeOf)
    return BigEndian.decode (extensionHeader.drop 2) * 4 + RtpExtensionHeader.sizeOf
  else return 0

/-- The extension header is in the message, if there should be one. -/
def Complete (pkt : List UInt8) : Prop :=
  (read pkt).extension →
    (read pkt).getSize + RtpExtensionHeader.sizeOf ≤ pkt.length

instance (pkt : List UInt8) : Decidable (Complete pkt) :=
  inferInstanceAs (Decidable ((read pkt).extension = true → _))

/-- `RtpHeader::getBody`. -/
def getBody (pkt : List UInt8) : List UInt8 :=
  pkt.drop ((read pkt).getSize + getExtensionHeaderSize pkt)

/-- The size is read inside the message exactly if the extension header is complete. -/
theorem getExtensionHeaderSizeChecked_eq {pkt : List UInt8} (h : sizeOf ≤ pkt.length) :
    getExtensionHeaderSizeChecked pkt =
      if Complete pkt then .ok (getExtensionHeaderSize pkt) else .error .outside := by
  rw [getExtensionHeaderSizeChecked, readChecked, if_pos h, getExtensionHeaderSize]
  show (if (read pkt).extension = true then _ else _) = _
  by_cases hextension : (read pkt).extension = true
  · rw [if_pos hextension]
    by_cases hcomplete : (read pkt).getSize + RtpExtensionHeader.sizeOf ≤ pkt.length
    · have htake : ((pkt.drop (read pkt).getSize).take RtpExtensionHeader.sizeOf).drop 2 =
          (pkt.drop ((read pkt).getSize + 2)).take 2 := by
        rw [List.drop_take, List.drop_drop]
        rfl
      have hall : Complete pkt := fun _ => hcomplete
      rw [range_add hcomplete, if_pos hall]
      simp only [hextension, if_true, ← htake]
      rfl
    · have hrange : range pkt (read pkt).getSize
          ((read pkt).getSize + RtpExtensionHeader.sizeOf) = .error .outside := by
        rw [range, if_neg fun h => hcomplete h.2]
      have hnot : ¬Complete pkt := fun hall => hcomplete (hall hextension)
      rw [hrange, if_neg hnot]
      rfl
  · have hall : Complete pkt := fun h => absurd h hextension
    rw [if_neg hextension, if_pos hall, if_neg hextension]
    rfl

end RtpHeader

/-! ## The loop of `buildFrames` -/

/-- The loop over an aggregation packet, with its `currOffset`. -/
def aggregateChecked (separator : Separator) (tooLarge : DepacketizerException)
    (pkt : List UInt8) (currOffset : ℕ) (accessUnit : List UInt8) : Checked (List UInt8) := do
  if _h : currOffset + 2 < pkt.length then
    let high ← byteAt pkt currOffset
    let low ← byteAt pkt (currOffset + 1)
    let naluSize := high.toNat <<< 8 ||| low.toNat
    if pkt.length < currOffset + 2 + naluSize then throw (.thrown tooLarge)
    let nalu ← range pkt (currOffset + 2) (currOffset + 2 + naluSize)
    aggregateChecked separator tooLarge pkt (currOffset + 2 + naluSize)
      (accessUnit ++ separator.startCode ++ nalu)
  else return accessUnit
termination_by pkt.length - currOffset

/-- The branches of `H264RtpDepacketizer::buildFrames` for a packet. -/
def H264.addPayloadChecked (separator : Separator) (accessUnit pkt : List UInt8)
    (rtpHeaderSize : ℕ) : Checked (List UInt8) := do
  let nalUnitHeader ← byteAt pkt rtpHeaderSize
  if NalUnitHeader.unitType nalUnitHeader = NalUnitFragmentA.nalTypeFuA then
    let nalUnitFragmentHeader ← byteAt pkt (rtpHeaderSize + 1)
    let data ← range pkt (rtpHeaderSize + 2) pkt.length
    if NalUnitFragmentHeader.isStart nalUnitFragmentHeader ∨ accessUnit = [] then
      return accessUnit ++ separator.startCode ++
        [NalUnitHeader.idc nalUnitHeader |||
          NalUnitFragmentHeader.unitType nalUnitFragmentHeader] ++ data
    else return accessUnit ++ data
  else if 0 < NalUnitHeader.unitType nalUnitHeader ∧
      NalUnitHeader.unitType nalUnitHeader < 24 then
    return accessUnit ++ separator.startCode ++ (← range pkt rtpHeaderSize pkt.length)
  else if NalUnitHeader.unitType nalUnitHeader = 24 then
    aggregateChecked separator (.runtimeError "H264 STAP-A declared size is larger than buffer")
      pkt (rtpHeaderSize + 1) accessUnit
  else throw (.thrown (.runtimeError "Unknown H264 RTP Packetization"))

/-- The branches of `H265RtpDepacketizer::buildFrames` for a packet. -/
def H265.addPayloadChecked (separator : Separator) (accessUnit pkt : List UInt8)
    (rtpHeaderSize : ℕ) : Checked (List UInt8) := do
  let first ← byteAt pkt rtpHeaderSize
  let second ← byteAt pkt (rtpHeaderSize + 1)
  let nalUnitHeader : H265NalUnitHeader := ⟨first, second⟩
  if nalUnitHeader.unitType = H265NalUnitFragment.nalTypeFu then
    let nalUnitFragmentHeader ← byteAt pkt (rtpHeaderSize + 2)
    let data ← range pkt (rtpHeaderSize + 3) pkt.length
    if H265NalUnitFragmentHeader.isStart nalUnitFragmentHeader ∨ accessUnit = [] then
      let unit := nalUnitHeader.setUnitType
        (H265NalUnitFragmentHeader.unitType nalUnitFragmentHeader)
      return accessUnit ++ separator.startCode ++ [unit.first, unit.second] ++ data
    else return accessUnit ++ data
  else if nalUnitHeader.unitType = 48 then
    aggregateChecked separator (.runtimeError "H265 AP declared size is larger than buffer")
      pkt (rtpHeaderSize + 2) accessUnit
  else if nalUnitHeader.unitType < 48 then
    return accessUnit ++ separator.startCode ++ (← range pkt rtpHeaderSize pkt.length)
  else return accessUnit

/-- The loop over an aggregation packet reads and copies inside the packet, and adds what it would
add from the bytes behind its offset. -/
theorem aggregateChecked_eq (separator : Separator) (tooLarge : DepacketizerException)
    (pkt : List UInt8) (currOffset : ℕ) (accessUnit : List UInt8) :
    aggregateChecked separator tooLarge pkt currOffset accessUnit =
      lift (addAggregated separator tooLarge accessUnit (pkt.drop currOffset)) := by
  induction hn : pkt.length - currOffset using Nat.strong_induction_on
    generalizing currOffset accessUnit with
  | _ n ih =>
    rw [aggregateChecked]
    split
    · next hmore =>
      -- two bytes of a length and at least one byte behind it
      obtain ⟨high, low, first, rest, hdrop⟩ := exists_cons₃_of_le
        (show 3 ≤ (pkt.drop currOffset).length by rw [List.length_drop]; omega)
      have hdrop' := Reader.drop_succ_of_drop hdrop
      have hdrop'' : pkt.drop (currOffset + 2) = first :: rest := Reader.drop_succ_of_drop hdrop'
      have hlength := congrArg List.length hdrop''
      rw [List.length_drop] at hlength
      rw [byteAt_of_drop hdrop, byteAt_of_drop hdrop', hdrop, addAggregated]
      simp only [Bind.bind, Except.bind]
      by_cases hlarge : pkt.length < currOffset + 2 + (high.toNat <<< 8 ||| low.toNat)
      · rw [if_pos hlarge, if_pos (by omega)]
        rfl
      · rw [if_neg hlarge, if_neg (by omega)]
        have hrange : range pkt (currOffset + 2)
            (currOffset + 2 + (high.toNat <<< 8 ||| low.toNat)) = .ok _ := range_add (by omega)
        rw [hrange, hdrop'']
        show aggregateChecked separator tooLarge pkt _ _ = _
        rw [ih (pkt.length - (currOffset + 2 + (high.toNat <<< 8 ||| low.toNat))) (by omega) _ _
          rfl, ← List.drop_drop, hdrop'']
    · next hend =>
      have hshort : (pkt.drop currOffset).length ≤ 2 := by
        rw [List.length_drop]
        omega
      rw [addAggregated_of_le hshort]
      rfl

/-- What the branches of H.264 read and copy is inside the packet: they are reached behind an `at`
that throws otherwise. -/
theorem H264.addPayloadChecked_eq (separator : Separator) (accessUnit pkt : List UInt8)
    (rtpHeaderSize : ℕ) :
    addPayloadChecked separator accessUnit pkt rtpHeaderSize =
      lift (addPayload separator accessUnit (pkt.drop rtpHeaderSize)) := by
  rw [addPayloadChecked, addPayload.eq_def]
  cases hdrop : pkt.drop rtpHeaderSize with
  | nil =>
    rw [byteAt_of_drop_nil hdrop]
    rfl
  | cons nalUnitHeader rest =>
    have hlt := Reader.lt_length_of_drop hdrop
    have hrest := Reader.drop_succ_of_drop hdrop
    rw [byteAt_of_drop hdrop]
    simp only [Bind.bind, Except.bind, range_length hlt.le, hdrop]
    split_ifs
    · cases rest with
      | nil =>
        rw [byteAt_of_drop_nil hrest]
        rfl
      | cons nalUnitFragmentHeader data =>
        have hlt' := Reader.lt_length_of_drop hrest
        have hdata : pkt.drop (rtpHeaderSize + 2) = data := Reader.drop_succ_of_drop hrest
        rw [byteAt_of_drop hrest, range_length (show rtpHeaderSize + 2 ≤ _ from hlt'),
          hdata]
        show (if _ then _ else _) = lift (if _ then _ else _)
        split_ifs <;> rfl
    · rfl
    · rw [aggregateChecked_eq, hrest]
    · rfl

/-- What the branches of H.265 read and copy is inside the packet. -/
theorem H265.addPayloadChecked_eq (separator : Separator) (accessUnit pkt : List UInt8)
    (rtpHeaderSize : ℕ) :
    addPayloadChecked separator accessUnit pkt rtpHeaderSize =
      lift (addPayload separator accessUnit (pkt.drop rtpHeaderSize)) := by
  rw [addPayloadChecked, addPayload.eq_def]
  cases hdrop : pkt.drop rtpHeaderSize with
  | nil =>
    rw [byteAt_of_drop_nil hdrop]
    rfl
  | cons first rest =>
    have hlt := Reader.lt_length_of_drop hdrop
    have hrest := Reader.drop_succ_of_drop hdrop
    rw [byteAt_of_drop hdrop]
    cases rest with
    | nil =>
      rw [byteAt_of_drop_nil hrest]
      rfl
    | cons second rest =>
      have hlt' := Reader.lt_length_of_drop hrest
      have hrest' : pkt.drop (rtpHeaderSize + 2) = rest := Reader.drop_succ_of_drop hrest
      rw [byteAt_of_drop hrest]
      simp only [Bind.bind, Except.bind, range_length hlt.le, hdrop]
      split_ifs
      · -- a fragment has a third byte, which is read with `at`
        cases rest with
        | nil =>
          rw [byteAt_of_drop_nil hrest']
          rfl
        | cons nalUnitFragmentHeader data =>
          have hlt'' := Reader.lt_length_of_drop hrest'
          have hdata : pkt.drop (rtpHeaderSize + 3) = data := Reader.drop_succ_of_drop hrest'
          rw [byteAt_of_drop hrest', range_length (show rtpHeaderSize + 3 ≤ _ from hlt''),
            hdata]
          show (if _ then _ else _) = lift (if _ then _ else _)
          split_ifs <;> rfl
      · rw [aggregateChecked_eq, hrest']
      · rfl
      · rfl

namespace Depacketizer

/-- The branches of `buildFrames` for a packet. -/
def addPayloadChecked (codec : Codec) : Separator → List UInt8 → List UInt8 → ℕ →
    Checked (List UInt8) :=
  match codec with
  | .h264 => H264.addPayloadChecked
  | .h265 => H265.addPayloadChecked

/-- The loop of `buildFrames` for one packet, with its reads. -/
def addPacketChecked (codec : Codec) (separator : Separator) (accessUnit pkt : List UInt8) :
    Checked (List UInt8) := do
  let h ← RtpHeader.readChecked pkt
  let rtpHeaderSize := h.getSize + (← RtpHeader.getExtensionHeaderSizeChecked pkt)
  let rtpPaddingSize ←
    if h.padding then (byteAt pkt (pkt.length - 1)).map UInt8.toNat else .ok 0
  if pkt.length = rtpHeaderSize + rtpPaddingSize then return accessUnit
  else addPayloadChecked codec separator accessUnit pkt rtpHeaderSize

/-- The loop of `buildFrames`, with its reads. -/
def buildAccessUnitChecked (codec : Codec) (separator : Separator)
    (packets : List (List UInt8)) : Checked (List UInt8) :=
  packets.foldlM (addPacketChecked codec separator) []

theorem addPayloadChecked_eq (codec : Codec) (separator : Separator)
    (accessUnit pkt : List UInt8) (rtpHeaderSize : ℕ) :
    addPayloadChecked codec separator accessUnit pkt rtpHeaderSize =
      lift (addPayload codec separator accessUnit (pkt.drop rtpHeaderSize)) := by
  cases codec with
  | h264 => exact H264.addPayloadChecked_eq separator accessUnit pkt rtpHeaderSize
  | h265 => exact H265.addPayloadChecked_eq separator accessUnit pkt rtpHeaderSize

/-- The loop of `buildFrames` keeps inside a packet exactly if its extension header is complete. -/
theorem addPacketChecked_eq (codec : Codec) (separator : Separator) (accessUnit : List UInt8)
    {pkt : List UInt8} (h : RtpHeader.sizeOf ≤ pkt.length) :
    addPacketChecked codec separator accessUnit pkt =
      if RtpHeader.Complete pkt then
        lift ((addPayload codec separator).addPacket accessUnit pkt)
      else .error .outside := by
  have hsize := RtpHeader.getExtensionHeaderSizeChecked_eq h
  rw [addPacketChecked, RtpHeader.readChecked, if_pos h, hsize]
  split_ifs with hcomplete
  · rw [AddPayload.addPacket_eq, AddPayload.rtpPaddingSize]
    -- a packet has a last byte
    obtain ⟨last, hlast⟩ : ∃ last, pkt.getLast? = some last := by
      refine ⟨_, List.getLast?_eq_some_getLast (List.ne_nil_of_length_pos ?_)⟩
      exact lt_of_lt_of_le (by decide) h
    have hbyte : byteAt pkt (pkt.length - 1) = .ok last := by
      rw [byteAt, ← List.getLast?_eq_getElem?, hlast]
    rw [hbyte, hlast]
    have hbranch : ∀ size, (if pkt.length = rtpHeaderSize pkt + size then pure accessUnit
        else addPayloadChecked codec separator accessUnit pkt (rtpHeaderSize pkt)) =
        lift (if pkt.length = rtpHeaderSize pkt + size then .ok accessUnit
          else addPayload codec separator accessUnit (pkt.drop (rtpHeaderSize pkt))) := by
      intro size
      rw [addPayloadChecked_eq]
      split <;> rfl
    cases hpadding : (RtpHeader.read pkt).padding with
    | true =>
      simp only [Bind.bind, Except.bind, Except.map, hpadding, if_true]
      exact hbranch last.toNat
    | false =>
      simp only [Bind.bind, Except.bind, hpadding, Bool.false_eq_true, if_false]
      exact hbranch 0
  · rfl

/-! ## Runs -/

/-- The loop keeps inside packets with complete headers. -/
theorem buildAccessUnitChecked_of_complete (codec : Codec) (separator : Separator)
    {packets : List (List UInt8)}
    (h : ∀ pkt ∈ packets, RtpHeader.sizeOf ≤ pkt.length ∧ RtpHeader.Complete pkt) :
    buildAccessUnitChecked codec separator packets ≠ .error .outside := by
  suffices hloop : ∀ accessUnit,
      packets.foldlM (addPacketChecked codec separator) accessUnit ≠ .error .outside from hloop []
  induction packets with
  | nil =>
    intro accessUnit
    rw [List.foldlM_nil]
    simp [pure, Except.pure]
  | cons pkt packets ih =>
    intro accessUnit
    obtain ⟨hsize, hcomplete⟩ := h pkt (List.mem_cons_self ..)
    rw [List.foldlM_cons, addPacketChecked_eq codec separator accessUnit hsize,
      if_pos hcomplete]
    cases (addPayload codec separator).addPacket accessUnit pkt with
    | error e =>
      intro heq
      cases Except.error.inj heq
    | ok next => exact ih (fun pkt' hmem => h pkt' (List.mem_cons_of_mem _ hmem)) next

/-- It does not keep inside a first packet with an incomplete extension header. -/
theorem buildAccessUnitChecked_of_not_complete (codec : Codec) (separator : Separator)
    {pkt : List UInt8} (hsize : RtpHeader.sizeOf ≤ pkt.length) (h : ¬RtpHeader.Complete pkt)
    (packets : List (List UInt8)) :
    buildAccessUnitChecked codec separator (pkt :: packets) = .error .outside := by
  rw [buildAccessUnitChecked, List.foldlM_cons, addPacketChecked_eq codec separator [] hsize,
    if_neg h]
  rfl

/-- The packets that a depacketizer has, and those that it has built, satisfy `P`. -/
structure Seen (P : List UInt8 → Prop) (d : Depacketizer) : Prop where
  mRtpBuffer : ∀ pkt ∈ d.mRtpBuffer, P pkt
  calls : ∀ call ∈ d.calls, ∀ pkt ∈ call.packets, P pkt

theorem Seen.loop {P : List UInt8 → Prop} {d : Depacketizer} (h : Seen P d)
    (frames : List Frame) : Seen P (d.loop frames).1 := by
  have hcalled : ∀ {d : Depacketizer} {call : BuildFramesCall}, Seen P d →
      nextCall d.mRtpBuffer = some call → Seen P (d.called call) := by
    intro d call h hcall
    obtain ⟨n, -, -, -, rfl⟩ := nextCall_eq_some hcall
    refine ⟨h.mRtpBuffer, fun call' hcall' pkt hpkt => ?_⟩
    rcases List.mem_append.1 hcall' with hold | hnew
    · exact h.calls call' hold pkt hpkt
    · rw [List.mem_singleton.1 hnew] at hpkt
      exact h.mRtpBuffer pkt (List.mem_of_mem_take hpkt)
  induction d, frames using loop.induct with
  | case1 d frames hcall =>
    rw [loop_of_none hcall]
    exact h
  | case2 d frames call hcall e herror =>
    rw [loop_of_error hcall herror]
    exact hcalled h hcall
  | case3 d frames call hcall built hbuilt ih =>
    rw [loop_of_ok hcall hbuilt]
    have hnext := hcalled h hcall
    exact ih ⟨fun pkt hpkt => hnext.mRtpBuffer pkt (List.mem_of_mem_drop hpkt), hnext.calls⟩

/-- The packets of a run are those of its messages. -/
theorem Seen.deliver {P : List UInt8 → Prop} {d : Depacketizer} (h : Seen P d)
    {calls : List (List Message)} (hcalls : ∀ pkt ∈ packetsOf calls.flatten, P pkt) :
    Seen P (d.deliver calls) := by
  induction calls generalizing d with
  | nil => exact h
  | cons messages calls ih =>
    rw [List.flatten_cons, packetsOf_append] at hcalls
    refine ih (d := (d.incoming messages).1) ?_
      fun pkt hpkt => hcalls pkt (List.mem_append_right _ hpkt)
    show Seen P (Depacketizer.loop (push (packetsOf messages) d) []).1
    refine Seen.loop (d := push (packetsOf messages) d) ⟨fun pkt hpkt => ?_, h.calls⟩ []
    rcases List.mem_append.1 hpkt with hold | hnew
    · exact h.mRtpBuffer pkt hold
    · exact hcalls pkt (List.mem_append_left _ hnew)

/-- The first call of `buildFrames` in a call of `incoming` is made whatever comes of it. -/
theorem mem_calls_loop {d : Depacketizer} {call : BuildFramesCall}
    (h : call ∈ d.calls ∨ nextCall d.mRtpBuffer = some call) (frames : List Frame) :
    call ∈ (d.loop frames).1.calls := by
  induction d, frames using loop.induct with
  | case1 d frames hcall =>
    rw [loop_of_none hcall]
    exact h.resolve_right fun hsome => absurd (hsome.symm.trans hcall) (Option.some_ne_none call)
  | case2 d frames call' hcall e herror =>
    rw [loop_of_error hcall herror]
    refine List.mem_append.2 (h.imp_right fun hsome => ?_)
    rw [Option.some.inj (hsome.symm.trans hcall)]
    exact List.mem_singleton_self _
  | case3 d frames call' hcall built hbuilt ih =>
    rw [loop_of_ok hcall hbuilt]
    refine ih (Or.inl (List.mem_append.2 (h.imp_right fun hsome => ?_)))
    rw [Option.some.inj (hsome.symm.trans hcall)]
    exact List.mem_singleton_self _

/-- Every call of `buildFrames` keeps inside its packets. -/
def SafeRun (codec : Codec) (separator : Separator) (calls : List (List Message)) : Prop :=
  ∀ call ∈ (deliver { codec, mSeparator := separator } calls).calls,
    buildAccessUnitChecked codec separator call.packets ≠ .error .outside

/-- A packet without a payload, which ends the frame before it. -/
def followUp (timestamp : UInt32) : Message :=
  ⟨RtpHeader.toBytes { first := 0x80, timestamp }, .binary, 0, none⟩

theorem read_followUp (timestamp : UInt32) :
    RtpHeader.read (followUp timestamp).data = { first := 0x80, timestamp } := by
  have hread := RtpHeader.read_toBytes_append { first := 0x80, timestamp } []
  rwa [List.append_nil] at hread

theorem complete_followUp (timestamp : UInt32) : RtpHeader.Complete (followUp timestamp).data := by
  rw [RtpHeader.Complete, read_followUp]
  exact fun h => absurd h (by show ¬RtpHeader.extension { first := 0x80 } = true; decide)

theorem isPacket_followUp (timestamp : UInt32) : isPacket (followUp timestamp) := by
  have hlength := RtpHeader.length_toBytes { first := 0x80, timestamp }
  show (decide _ && decide (RtpHeader.sizeOf ≤ _)) = true
  rw [Message.size, followUp, hlength]
  rfl

/-- Two packets make any packet the first of a call of `buildFrames`. -/
theorem exists_nextCall (pkt : List UInt8) : ∃ first second rest call,
    nextCall [pkt, (followUp first).data, (followUp second).data] = some call ∧
      call.packets = pkt :: rest := by
  obtain ⟨first, hfirst, hne, hlt⟩ : ∃ first : UInt32,
      first ≠ (RtpHeader.read pkt).timestamp ∧ first ≠ 0 ∧ first ≠ 3 := by
    by_cases hone : (RtpHeader.read pkt).timestamp = 1
    · exact ⟨2, by rw [hone]; decide, by decide, by decide⟩
    · exact ⟨1, fun h => hone h.symm, by decide, by decide⟩
  by_cases hzero : (RtpHeader.read pkt).timestamp = 0
  · -- the timestamp 0 is taken for none, and the second packet belongs to the frame
    have hcall : nextCall [pkt, (followUp first).data, (followUp 3).data] =
        some ⟨[pkt, (followUp first).data], RtpHeader.payloadType { first := 0x80 }, first⟩ := by
      rw [nextCall, scan, if_pos rfl, hzero, scan, if_pos rfl, scan, read_followUp, if_neg hne,
        read_followUp, if_pos hlt]
      exact if_neg (show ¬2 = 3 by decide)
    exact ⟨first, 3, _, _, hcall, rfl⟩
  · refine ⟨first, 3, [], callOf [pkt], ?_, rfl⟩
    have hsame : ∀ other ∈ [pkt], (RtpHeader.read other).timestamp = frameTimestamp [pkt] := by
      simp [frameTimestamp]
    refine nextCall_frame (List.cons_ne_nil _ _) hsame hzero ?_ _
    rw [read_followUp]
    exact fun h => hfirst h.symm

/-- A message does not make any run read outside exactly if its extension header is complete. -/
theorem safeRun_iff (codec : Codec) (separator : Separator) {message : Message}
    (h : isPacket message) :
    (∀ calls : List (List Message), (∀ other ∈ calls.flatten, isPacket other →
        other = message ∨ RtpHeader.Complete other.data) → SafeRun codec separator calls) ↔
      RtpHeader.Complete message.data := by
  have hsize : ∀ {message : Message}, isPacket message →
      RtpHeader.sizeOf ≤ message.data.length := by
    intro message h
    rw [isPacket, Bool.and_eq_true] at h
    exact of_decide_eq_true h.2
  constructor
  · intro hsafe
    by_contra hincomplete
    -- two empty packets behind the message make a frame of it
    obtain ⟨first, second, rest, call, hcall, hpackets⟩ := exists_nextCall message.data
    have hdata : packetsOf [message, followUp first, followUp second] =
        [message.data, (followUp first).data, (followUp second).data] := by
      simp [packetsOf, h, isPacket_followUp]
    refine hsafe [[message, followUp first, followUp second]] ?_ call
      (mem_calls_loop (Or.inr ?_) []) ?_
    · simp [complete_followUp]
    · show nextCall ([] ++ packetsOf [message, followUp first, followUp second]) = some call
      rw [hdata]
      exact hcall
    · rw [hpackets]
      exact buildAccessUnitChecked_of_not_complete codec separator (hsize h) hincomplete rest
  · intro hcomplete calls hothers call hcall
    have hseen : Seen (fun pkt => RtpHeader.sizeOf ≤ pkt.length ∧ RtpHeader.Complete pkt)
        (deliver { codec, mSeparator := separator } calls) := by
      refine Seen.deliver ⟨by simp, by simp⟩ fun pkt hpkt => ?_
      obtain ⟨other, hother, rfl⟩ := List.mem_map.1 hpkt
      obtain ⟨hmem, hpacket⟩ := List.mem_filter.1 hother
      refine ⟨hsize hpacket, ?_⟩
      rcases hothers other hmem hpacket with rfl | hall
      · exact hcomplete
      · exact hall
    exact buildAccessUnitChecked_of_complete codec separator (hseen.calls call hcall)

end Depacketizer

/-! ## `RtpDepacketizer` -/

namespace RtpDepacketizer

/-- The frame that `RtpDepacketizer::incoming` makes of a packet. A CSRC counts as one byte. -/
def extract (message : Message) : Checked Frame := do
  let pkt ← RtpHeader.readChecked message.data
  let headerSize := RtpHeader.sizeOf + pkt.csrcCount +
    (← RtpHeader.getExtensionHeaderSizeChecked message.data)
  let data ← range message.data headerSize message.data.length
  return ⟨data, pkt.payloadType, pkt.timestamp⟩

/-- `RtpDepacketizer::incoming`: the control messages stay, and packets become frames. -/
def incoming : List Message → Checked (List (Message ⊕ Frame))
  | [] => .ok []
  | message :: messages => do
    if message.type = .control then return .inl message :: (← incoming messages)
    else if message.size < RtpHeader.sizeOf then incoming messages
    else
      let frame ← extract message
      return .inr frame :: (← incoming messages)

/-- The headers, with one byte for a CSRC, end in the packet. -/
def InBounds (pkt : List UInt8) : Prop :=
  RtpHeader.Complete pkt ∧ RtpHeader.sizeOf + (RtpHeader.read pkt).csrcCount +
    RtpHeader.getExtensionHeaderSize pkt ≤ pkt.length

instance (pkt : List UInt8) : Decidable (InBounds pkt) := inferInstanceAs (Decidable (_ ∧ _))

theorem extract_eq {message : Message} (h : RtpHeader.sizeOf ≤ message.data.length) :
    extract message =
      if InBounds message.data then
        .ok ⟨message.data.drop (RtpHeader.sizeOf + (RtpHeader.read message.data).csrcCount +
            RtpHeader.getExtensionHeaderSize message.data),
          (RtpHeader.read message.data).payloadType, (RtpHeader.read message.data).timestamp⟩
      else .error .outside := by
  rw [extract, RtpHeader.readChecked, if_pos h, RtpHeader.getExtensionHeaderSizeChecked_eq h]
  by_cases hcomplete : RtpHeader.Complete message.data
  · rw [if_pos hcomplete]
    by_cases hle : RtpHeader.sizeOf + (RtpHeader.read message.data).csrcCount +
        RtpHeader.getExtensionHeaderSize message.data ≤ message.data.length
    · have hin : InBounds message.data := ⟨hcomplete, hle⟩
      rw [if_pos hin]
      simp only [Bind.bind, Except.bind, range_length hle]
      rfl
    · have hout : ¬InBounds message.data := fun h => hle h.2
      rw [if_neg hout]
      simp only [Bind.bind, Except.bind, range, if_neg fun h : _ ∧ _ => hle h.1]
  · have hout : ¬InBounds message.data := fun h => hcomplete h.1
    rw [if_neg hcomplete, if_neg hout]
    rfl

/-- The messages are read inside exactly if every packet among them is. -/
theorem incoming_ne_outside_iff (messages : List Message) :
    incoming messages ≠ .error .outside ↔
      ∀ message ∈ messages, Depacketizer.isPacket message → InBounds message.data := by
  induction messages with
  | nil => simp [incoming]
  | cons message messages ih =>
    rw [List.forall_mem_cons, ← ih, incoming]
    by_cases hcontrol : message.type = .control
    · have hnot : ¬Depacketizer.isPacket message := by simp [Depacketizer.isPacket, hcontrol]
      rw [if_pos hcontrol]
      cases incoming messages <;> simp [hnot, Bind.bind, Except.bind, pure, Except.pure]
    · by_cases hsmall : message.size < RtpHeader.sizeOf
      · have hnot : ¬Depacketizer.isPacket message := by simp [Depacketizer.isPacket, hsmall]
        rw [if_neg hcontrol, if_pos hsmall]
        simp [hnot]
      · have hpacket : Depacketizer.isPacket message := by
          simp [Depacketizer.isPacket, hcontrol, not_lt.1 hsmall]
        rw [if_neg hcontrol, if_neg hsmall, extract_eq (not_lt.1 hsmall)]
        by_cases hin : InBounds message.data
        · rw [if_pos hin]
          cases incoming messages <;> simp [hin, Bind.bind, Except.bind, pure, Except.pure]
        · rw [if_neg hin]
          simp [hin, hpacket, Bind.bind, Except.bind]

theorem getBody_toBytes (p : RtpPacket) : RtpHeader.getBody p.toBytes = p.payload ++ p.padding :=
  p.drop_toBytes

/-- The message of a well-formed packet. -/
def messageOf (p : RtpPacket) : Message := ⟨p.toBytes, .binary, 0, none⟩

/-- The frame that the packet should become. -/
def bodyFrame (p : RtpPacket) : Frame where
  data := RtpHeader.getBody p.toBytes
  payloadType := p.header.payloadType
  timestamp := p.timestamp

/-- The sizes of a well-formed packet. -/
theorem length_messageOf (p : RtpPacket) :
    (messageOf p).data.length = RtpHeader.sizeOf + 4 * p.csrcs.length + p.extensionBytes.length +
      (p.payload ++ p.padding).length := by
  show p.toBytes.length = _
  rw [RtpPacket.toBytes, RtpPacket.headerBytes]
  simp only [List.length_append, RtpHeader.length_toBytes, RtpPacket.length_csrcBytes,
    RtpHeader.sizeOf]

/-- A well-formed packet is read inside. -/
theorem inBounds_messageOf (p : RtpPacket) : InBounds (messageOf p).data := by
  obtain ⟨-, hextension, hcsrc⟩ := p.flags_header
  have hlength := length_messageOf p
  constructor
  · intro h
    change (RtpHeader.read p.toBytes).extension = true at h
    show (RtpHeader.read p.toBytes).getSize + RtpExtensionHeader.sizeOf ≤ _
    rw [RtpPacket.read_toBytes] at h ⊢
    rw [hextension, Option.isSome_iff_exists] at h
    obtain ⟨e, he⟩ := h
    have hbytes : p.extensionBytes.length = 4 + e.body.length := by
      rw [RtpPacket.extensionBytes, he]
      exact RtpPacket.length_toBytes_extensionHeader e
    rw [RtpHeader.getSize, hcsrc, RtpExtensionHeader.sizeOf]
    omega
  · show _ + (RtpHeader.read p.toBytes).csrcCount + RtpHeader.getExtensionHeaderSize p.toBytes ≤ _
    rw [RtpPacket.read_toBytes, hcsrc, RtpPacket.getExtensionHeaderSize_toBytes]
    omega

/-- What a well-formed packet becomes. -/
theorem incoming_messageOf (p : RtpPacket) :
    incoming [messageOf p] = .ok [.inr
      ⟨p.toBytes.drop (RtpHeader.sizeOf + p.csrcs.length + p.extensionBytes.length),
        p.header.payloadType, p.header.timestamp⟩] := by
  obtain ⟨-, -, hcsrc⟩ := p.flags_header
  have hlength := length_messageOf p
  have hsize : RtpHeader.sizeOf ≤ (messageOf p).data.length := by omega
  have hcontrol : (messageOf p).type ≠ .control := by
    rw [messageOf]
    simp
  rw [incoming, if_neg hcontrol, if_neg (show ¬(messageOf p).size < _ from not_lt.2 hsize),
    extract_eq hsize, if_pos (inBounds_messageOf p)]
  have hdata : (messageOf p).data = p.toBytes := rfl
  rw [hdata, RtpPacket.read_toBytes, hcsrc, RtpPacket.getExtensionHeaderSize_toBytes]
  rfl

/-- A well-formed packet becomes its body exactly if it has no CSRCs. -/
theorem incoming_messageOf_iff (p : RtpPacket) :
    incoming [messageOf p] = .ok [.inr (bodyFrame p)] ↔ p.csrcs = [] := by
  have hlength : p.toBytes.length = _ := length_messageOf p
  rw [incoming_messageOf, bodyFrame, getBody_toBytes]
  constructor
  · intro heq
    -- the lengths differ by three bytes for each CSRC
    have hdata : p.toBytes.drop (RtpHeader.sizeOf + p.csrcs.length + p.extensionBytes.length) =
        p.payload ++ p.padding :=
      congrArg Frame.data (Sum.inr.inj (List.cons.inj (Except.ok.inj heq)).1)
    have hcount := congrArg List.length hdata
    rw [List.length_drop] at hcount
    exact List.length_eq_zero_iff.1 (by omega)
  · intro hnil
    have hoffset : RtpHeader.sizeOf + p.csrcs.length + p.extensionBytes.length =
        rtpHeaderSize p.toBytes := by
      rw [RtpPacket.rtpHeaderSize_toBytes, RtpPacket.headerBytes]
      simp only [List.length_append, RtpHeader.length_toBytes, RtpPacket.length_csrcBytes, hnil,
        List.length_nil, Nat.mul_zero, RtpHeader.sizeOf]
    rw [hoffset, p.drop_toBytes]
    rfl

end RtpDepacketizer

/-- A well-formed packet becomes its body exactly if it has no CSRCs. Messages of at least 12 bytes
are read inside by `RtpDepacketizer` exactly if their headers, with one byte for a CSRC, end in the
message, and by the depacketizers for H.264 and H.265, in every run, exactly if the extension header
is in the message. -/
theorem extraction_iff (p : RtpPacket) (messages : List Message) (codec : Depacketizer.Codec)
    (separator : Separator) {message : Message} (h : Depacketizer.isPacket message) :
    (RtpHeader.getBody p.toBytes = p.payload ++ p.padding ∧
      (RtpDepacketizer.incoming [RtpDepacketizer.messageOf p] =
        .ok [.inr (RtpDepacketizer.bodyFrame p)] ↔ p.csrcs = [])) ∧
    (RtpDepacketizer.incoming messages ≠ .error .outside ↔
      ∀ message ∈ messages, Depacketizer.isPacket message →
        RtpDepacketizer.InBounds message.data) ∧
    ((∀ calls : List (List Message), (∀ other ∈ calls.flatten, Depacketizer.isPacket other →
        other = message ∨ RtpHeader.Complete other.data) →
      Depacketizer.SafeRun codec separator calls) ↔ RtpHeader.Complete message.data) :=
  ⟨⟨RtpDepacketizer.getBody_toBytes p, RtpDepacketizer.incoming_messageOf_iff p⟩,
    RtpDepacketizer.incoming_ne_outside_iff messages,
    Depacketizer.safeRun_iff codec separator h⟩

namespace RtpDepacketizer

/-- A packet with a payload of one byte. -/
def packetWith (csrcs : List UInt32) (h : csrcs.length ≤ 15) : RtpPacket where
  typeByte := 96
  seqNumber := 1
  timestamp := 7
  ssrc := 1
  csrcs
  extensionHeader := none
  payload := [0x65]
  padding := []
  csrcs_le := h
  extensionHeader_body := RtpPacket.extensionHeader_body_none
  padding_last := RtpPacket.padding_last_nil

theorem extraction_plain :
    incoming [messageOf (packetWith [] (by decide))] =
        .ok [.inr (bodyFrame (packetWith [] (by decide)))] ∧
      incoming [messageOf (packetWith [] (by decide))] ≠ .error .outside ∧
      ∀ calls : List (List Message), (∀ other ∈ calls.flatten, Depacketizer.isPacket other →
          other = messageOf (packetWith [] (by decide)) ∨ RtpHeader.Complete other.data) →
        Depacketizer.SafeRun .h264 .startSequence calls := by
  have hpacket : Depacketizer.isPacket (messageOf (packetWith [] (by decide))) := by
    decide +kernel
  obtain ⟨⟨-, hbody⟩, hbounds, hruns⟩ := extraction_iff (packetWith [] (by decide))
    [messageOf (packetWith [] (by decide))] .h264 .startSequence hpacket
  refine ⟨hbody.2 rfl, hbounds.2 ?_, hruns.2 ?_⟩
  · simp only [List.mem_singleton, forall_eq]
    decide +kernel
  · decide +kernel

/-- The last three bytes of a CSRC are taken for payload, and the size of an extension is read
behind a message of 12 bytes. -/
theorem not_extraction :
    incoming [messageOf (packetWith [0x01020304] (by decide))] =
        .ok [.inr ⟨[2, 3, 4, 0x65], 96, 7⟩] ∧
      bodyFrame (packetWith [0x01020304] (by decide)) = ⟨[0x65], 96, 7⟩ ∧
      incoming [⟨[0x90, 96, 0, 1, 0, 0, 0, 7, 0, 0, 0, 1], .binary, 0, none⟩] =
        .error .outside ∧
      Depacketizer.buildAccessUnitChecked .h264 .startSequence
        [[0x90, 96, 0, 1, 0, 0, 0, 7, 0, 0, 0, 1]] = .error .outside :=
  ⟨by rfl, by decide +kernel, by rfl, by rfl⟩

end RtpDepacketizer

end Rtc
