import QuicRtc.Rtcp.Nack

/-!
# The PLI and the REMB handler

`PliHandler::incoming` and `RembHandler::incoming` walk over the headers of each message, call back
at the first one of their kind and go on to the next message. They do not look at the type of the
message, nor do they check that a sub-packet ends inside the message.

A `FeedbackHandler` is what the two have in common: the loop, with what is done at a header. `hit`
are the headers at which the loop ends. `headers` are those that the loop reaches, of which all but
the last belong to the sub-packets of `compound`. The main result is `reacts_iff`.
-/

namespace Rtc

/-! ## REMB packets -/

namespace RtcpRemb

/-- `sizeof(RtcpRemb)`, with one SSRC. -/
def sizeOf : ℕ := 24

/-- The unique identifier: the letters REMB. -/
def uniqueId : List UInt8 := [0x52, 0x45, 0x4D, 0x42]

/-- `RtcpRemb::getBitrate`, of the field `_bitrate` in host order. -/
def getBitrate (br : UInt32) : UInt32 :=
  let exp := ((br <<< 8) >>> 26).toUInt8
  -- `pow(exp, 2)`
  (br &&& 0x3FFFF) * UInt32.ofNat (exp.toNat ^ 2)

end RtcpRemb

/-! ## The handlers -/

/-- Compare bytes of a packet, from an offset on. The first one that differs ends the comparison. -/
def compareBytes (packet : List UInt8) : ℕ → List UInt8 → Except Fault Bool
  | _, [] => .ok true
  | i, byte :: bytes => do
    if (← readByte packet i) = byte then compareBytes packet (i + 1) bytes else return false

/-- A sub-packet ends inside the message. -/
def Whole (data : List UInt8) (subPacket : ℕ × RtcpHeader) : Prop :=
  subPacket.1 + subPacket.2.lengthInBytes ≤ data.length

/-- A handler of feedback. `visit packet header` is done at a header, with the bytes from there to
the end of the message: the argument of the callback, if it is called. -/
structure FeedbackHandler (β : Type) where
  visit : List UInt8 → RtcpHeader → Except Fault (Option β)
  /-- The sub-packets that the handler is for. -/
  kind : List UInt8 → ℕ × RtcpHeader → Prop
  /-- The headers that end the loop. -/
  hit : List UInt8 → ℕ × RtcpHeader → Bool
  visit_of_not_hit : ∀ data subPacket, hit data subPacket = false →
    visit (data.drop subPacket.1) subPacket.2 = .ok none
  visit_of_hit : ∀ data subPacket, hit data subPacket = true →
    (∃ b, visit (data.drop subPacket.1) subPacket.2 = .ok (some b)) ∨
      ¬Whole data subPacket ∧ visit (data.drop subPacket.1) subPacket.2 = .error .outside
  hit_iff : ∀ data subPacket, Whole data subPacket →
    (hit data subPacket = true ↔ kind data subPacket)

namespace FeedbackHandler

variable {β : Type} (handler : FeedbackHandler β)

/-- The `while` loop over a message: the argument of the callback, if it is called. -/
def incomingLoop (data : List UInt8) : ℕ → ℕ → Except Fault (Option β)
  | 0, _ => .error .outOfFuel
  | fuel + 1, offset =>
    if RtcpHeader.sizeOf + offset ≤ data.length then do
      let header ← RtcpHeader.read (data.drop offset)
      match ← handler.visit (data.drop offset) header with
      | some argument => return some argument
      | none => incomingLoop data fuel (offset + header.lengthInBytes)
    else .ok none

/-- `incoming`: the calls of the callback for each message. -/
def incoming (messages : List Message) : Except Fault (List (List β)) :=
  messages.mapM fun message =>
    (handler.incomingLoop message.data (message.data.length + 1) 0).bind fun called =>
      .ok called.toList

end FeedbackHandler

/-- What `PliHandler` takes for a request for a picture: a FIR message, or feedback of the format
PLI. -/
def PliHandler.isPli (header : RtcpHeader) : Bool :=
  header.payloadType = 196 || (header.payloadType = 206 && header.reportCount = 1)

/-- `PliHandler`. -/
def PliHandler : FeedbackHandler Unit where
  visit _ header := .ok (if PliHandler.isPli header then some () else none)
  kind _ subPacket := PliHandler.isPli subPacket.2 = true
  hit _ subPacket := PliHandler.isPli subPacket.2
  visit_of_not_hit := by
    intro data subPacket hhit
    rw [hhit]
    rfl
  visit_of_hit := by
    intro data subPacket hhit
    rw [hhit]
    exact Or.inl ⟨(), rfl⟩
  hit_iff := fun _ _ _ => Iff.rfl

namespace RembHandler

/-- The header of a REMB packet with one SSRC. -/
def isRembHeader (header : RtcpHeader) : Bool :=
  header.payloadType = 206 && header.reportCount = 15 && header.lengthInBytes = RtcpRemb.sizeOf

/-- What the loop does at a header. -/
def visitHeader (packet : List UInt8) (header : RtcpHeader) : Except Fault (Option UInt32) :=
  if isRembHeader header then do
    if ← compareBytes packet 12 RtcpRemb.uniqueId then
      return some (RtcpRemb.getBitrate (← readSsrc packet 16))
    else return none
  else .ok none

/-- A REMB packet with one SSRC. -/
def isRemb (data : List UInt8) (subPacket : ℕ × RtcpHeader) : Prop :=
  isRembHeader subPacket.2 = true ∧
    (data.drop (subPacket.1 + 12)).take 4 = RtcpRemb.uniqueId

/-- A header from which on the identifier is there as far as the message goes. -/
def mayBeRemb (data : List UInt8) (subPacket : ℕ × RtcpHeader) : Bool :=
  isRembHeader subPacket.2 &&
    ((data.drop (subPacket.1 + 12)).take 4).isPrefixOf RtcpRemb.uniqueId

end RembHandler

/-! ## Comparing bytes -/

/-- Bytes that are there are compared. -/
theorem compareBytes_of_eq {packet bytes : List UInt8} {i : ℕ}
    (h : (packet.drop i).take bytes.length = bytes) : compareBytes packet i bytes = .ok true := by
  induction bytes generalizing i with
  | nil => rfl
  | cons byte bytes ih =>
    obtain ⟨b, rest, hdrop⟩ : ∃ b rest, packet.drop i = b :: rest := by
      cases hdrop : packet.drop i with
      | nil => simp [hdrop] at h
      | cons b rest => exact ⟨b, rest, rfl⟩
    rw [hdrop, List.length_cons, List.take_succ_cons, List.cons.injEq] at h
    have hrest : packet.drop (i + 1) = rest := Reader.drop_succ_of_drop hdrop
    rw [compareBytes, readByte_of_drop hdrop]
    show (if b = byte then _ else _) = _
    rw [if_pos h.1]
    exact ih (hrest ▸ h.2)

/-- A byte that differs ends the comparison, and the end of the packet is a fault. -/
theorem compareBytes_of_ne {packet bytes : List UInt8} {i : ℕ}
    (h : (packet.drop i).take bytes.length ≠ bytes) :
    compareBytes packet i bytes =
      if (packet.drop i).take bytes.length <+: bytes then .error .outside else .ok false := by
  induction bytes generalizing i with
  | nil => exact absurd rfl h
  | cons byte bytes ih =>
    cases hdrop : packet.drop i with
    | nil =>
      rw [compareBytes, readByte_of_drop_nil hdrop, List.take_nil, if_pos List.nil_prefix]
      rfl
    | cons b rest =>
      have hrest : packet.drop (i + 1) = rest := Reader.drop_succ_of_drop hdrop
      rw [hdrop, List.length_cons, List.take_succ_cons] at h
      rw [compareBytes, readByte_of_drop hdrop, List.length_cons, List.take_succ_cons]
      show (if b = byte then _ else _) = _
      by_cases hb : b = byte
      · subst hb
        have hne : (packet.drop (i + 1)).take bytes.length ≠ bytes := by
          intro heq
          rw [hrest] at heq
          exact h (congrArg (b :: ·) heq)
        rw [if_pos rfl, ih hne, hrest]
        simp only [List.prefix_cons_inj]
      · rw [if_neg hb, if_neg fun hprefix => hb (List.cons_prefix_cons.1 hprefix).1]
        rfl

namespace RembHandler

variable (data : List UInt8) (subPacket : ℕ × RtcpHeader)

/-- A header is visited as its identifier says. -/
theorem visitHeader_eq (hheader : isRembHeader subPacket.2 = true) :
    visitHeader (data.drop subPacket.1) subPacket.2 =
      if (data.drop (subPacket.1 + 12)).take 4 = RtcpRemb.uniqueId then
        (readSsrc (data.drop subPacket.1) 16).bind fun br =>
          .ok (some (RtcpRemb.getBitrate br))
      else if (data.drop (subPacket.1 + 12)).take 4 <+: RtcpRemb.uniqueId then .error .outside
      else .ok none := by
  have hdrop : (data.drop subPacket.1).drop 12 = data.drop (subPacket.1 + 12) := List.drop_drop
  have hlength : RtcpRemb.uniqueId.length = 4 := rfl
  rw [visitHeader, if_pos hheader, ← hdrop, ← hlength]
  split
  · next heq =>
    rw [compareBytes_of_eq heq]
    rfl
  · next hne =>
    rw [compareBytes_of_ne hne]
    split <;> rfl

end RembHandler

/-- `RembHandler`. -/
def RembHandler : FeedbackHandler UInt32 where
  visit := RembHandler.visitHeader
  kind := RembHandler.isRemb
  hit := RembHandler.mayBeRemb
  visit_of_not_hit := by
    intro data subPacket hhit
    by_cases hheader : RembHandler.isRembHeader subPacket.2 = true
    · rw [RembHandler.mayBeRemb, hheader, Bool.true_and, ← Bool.not_eq_true,
        List.isPrefixOf_iff_prefix] at hhit
      have hne : (data.drop (subPacket.1 + 12)).take 4 ≠ RtcpRemb.uniqueId := by
        intro heq
        exact hhit (heq ▸ List.prefix_rfl)
      rw [RembHandler.visitHeader_eq data subPacket hheader, if_neg hne, if_neg hhit]
    · exact if_neg hheader
  visit_of_hit := by
    intro data subPacket hhit
    rw [RembHandler.mayBeRemb, Bool.and_eq_true, List.isPrefixOf_iff_prefix] at hhit
    obtain ⟨hheader, hprefix⟩ := hhit
    have hsize : subPacket.2.lengthInBytes = RtcpRemb.sizeOf := by
      rw [RembHandler.isRembHeader, Bool.and_eq_true] at hheader
      exact of_decide_eq_true hheader.2
    rw [RembHandler.visitHeader_eq data subPacket hheader, if_pos hprefix, Whole, hsize,
      RtcpRemb.sizeOf]
    split
    · by_cases hinside : 16 + 4 ≤ (data.drop subPacket.1).length
      · rw [readSsrc, if_pos hinside]
        exact Or.inl ⟨_, rfl⟩
      · rw [readSsrc, if_neg hinside]
        refine Or.inr ⟨fun hwhole => hinside ?_, rfl⟩
        rw [List.length_drop]
        omega
    · next hne =>
      -- the identifier of a whole packet is there
      refine Or.inr ⟨fun hwhole => hne ?_, rfl⟩
      refine hprefix.eq_of_length ?_
      rw [List.length_take, List.length_drop]
      show min 4 _ = 4
      omega
  hit_iff := by
    intro data subPacket hwhole
    rw [RembHandler.mayBeRemb, RembHandler.isRemb, Bool.and_eq_true, List.isPrefixOf_iff_prefix]
    refine and_congr_right fun hheader => ⟨fun hprefix => ?_, fun heq => heq ▸ List.prefix_rfl⟩
    have hsize : subPacket.2.lengthInBytes = RtcpRemb.sizeOf := by
      rw [RembHandler.isRembHeader, Bool.and_eq_true] at hheader
      exact of_decide_eq_true hheader.2
    rw [Whole, hsize, RtcpRemb.sizeOf] at hwhole
    refine hprefix.eq_of_length ?_
    rw [List.length_take, List.length_drop]
    show min 4 _ = 4
    omega

/-! ## The headers that are reached -/

/-- The headers that the loop reaches from an offset on if it is not ended. -/
def headers (data : List UInt8) (offset : ℕ) : List (ℕ × RtcpHeader) :=
  if _h : RtcpHeader.sizeOf + offset ≤ data.length then
    match RtcpHeader.read (data.drop offset) with
    | .error _ => []
    | .ok header => (offset, header) :: headers data (offset + header.lengthInBytes)
  else []
termination_by data.length - offset
decreasing_by
  simp only [RtcpHeader.sizeOf, RtcpHeader.lengthInBytes] at _h ⊢
  omega

/-- A header is read where the loop looks for one. -/
theorem read_of_le {data : List UInt8} {offset : ℕ}
    (h : RtcpHeader.sizeOf + offset ≤ data.length) :
    ∃ header, RtcpHeader.read (data.drop offset) = .ok header :=
  RtcpHeader.exists_read (by rw [List.length_drop]; omega)

/-- The headers are those of the sub-packets inside the message, and perhaps one more. -/
theorem headers_eq (data : List UInt8) (offset : ℕ) :
    ∃ truncated, headers data offset = RtcpNackResponder.compound data offset ++ truncated ∧
      ∀ subPacket ∈ truncated, ¬Whole data subPacket := by
  induction offset using headers.induct data with
  | case1 offset hle fault hread =>
    obtain ⟨header, hheader⟩ := read_of_le hle
    cases hread.symm.trans hheader
  | case2 offset hle header hread ih =>
    rw [headers, dif_pos hle, hread, RtcpNackResponder.compound, hread]
    by_cases hlong : data.length - offset < header.lengthInBytes
    · -- the walk ends behind a sub-packet that is not inside
      have hend : headers data (offset + header.lengthInBytes) = [] := by
        rw [headers, dif_neg]
        rw [RtcpHeader.sizeOf]
        omega
      refine ⟨[(offset, header)], by simp [hlong, hend], fun subPacket hmem hwhole => ?_⟩
      obtain rfl := List.mem_singleton.1 hmem
      have hinside : offset + header.lengthInBytes ≤ data.length := hwhole
      omega
    · obtain ⟨truncated, hheaders, hnotWhole⟩ := ih
      exact ⟨truncated, by simp [hlong, hheaders], hnotWhole⟩
  | case3 offset hshort =>
    rw [headers, dif_neg hshort, RtcpNackResponder.compound]
    have hlength : (data.drop offset).length < RtcpHeader.sizeOf := by
      rw [RtcpHeader.sizeOf] at hshort ⊢
      rw [List.length_drop]
      omega
    rw [RtcpHeader.read_of_lt hlength]
    exact ⟨[], rfl, List.forall_mem_nil _⟩

/-- The sub-packets inside a message are whole. -/
theorem whole_of_mem_compound {data : List UInt8} {subPacket : ℕ × RtcpHeader}
    (h : subPacket ∈ RtcpNackResponder.compound data 0) : Whole data subPacket :=
  RtcpNackResponder.fits_of_subPackets (RtcpNackResponder.subPackets_compound data 0) subPacket h

namespace FeedbackHandler

variable {β : Type} (handler : FeedbackHandler β) {data : List UInt8}

/-- The loop visits the first header that ends it. -/
theorem incomingLoop_eq {offset fuel : ℕ} (hfuel : data.length - offset < fuel) :
    handler.incomingLoop data fuel offset =
      match (headers data offset).find? (handler.hit data) with
      | none => .ok none
      | some subPacket => handler.visit (data.drop subPacket.1) subPacket.2 := by
  induction offset using headers.induct data generalizing fuel with
  | case1 offset hle fault hread =>
    obtain ⟨header, hheader⟩ := read_of_le hle
    cases hread.symm.trans hheader
  | case2 offset hle header hread ih =>
    obtain ⟨fuel, rfl⟩ := Nat.exists_eq_add_one_of_ne_zero (Nat.ne_zero_of_lt hfuel)
    have hlength : 4 ≤ header.lengthInBytes := by
      rw [RtcpHeader.lengthInBytes]
      omega
    rw [incomingLoop, if_pos hle, hread, headers, dif_pos hle, hread]
    simp only [List.find?_cons]
    cases hhit : handler.hit data (offset, header) with
    | true =>
      -- the loop ends here, with a value or with a fault
      rcases handler.visit_of_hit data (offset, header) hhit with ⟨b, hvisit⟩ | ⟨-, hvisit⟩
      · have hvisit' : handler.visit (data.drop offset) header = .ok (some b) := hvisit
        simp only [bind, Except.bind, hvisit']
        rfl
      · have hvisit' : handler.visit (data.drop offset) header = .error .outside := hvisit
        simp only [bind, Except.bind, hvisit']
    | false =>
      have hvisit : handler.visit (data.drop offset) header = .ok none :=
        handler.visit_of_not_hit data (offset, header) hhit
      rw [RtcpHeader.sizeOf] at hle
      simp only [bind, Except.bind, hvisit]
      exact ih (by omega)
  | case3 offset hshort =>
    obtain ⟨fuel, rfl⟩ := Nat.exists_eq_add_one_of_ne_zero (Nat.ne_zero_of_lt hfuel)
    rw [incomingLoop, if_neg hshort, headers, dif_neg hshort]
    rfl

/-! ## Reacting to RTCP only -/

/-- The callback is called at most once for a message, and only for a control message that has a
sub-packet of the kind of the handler inside. -/
def Justified (message : Message) (called : List β) : Prop :=
  called.length ≤ 1 ∧ (called ≠ [] → message.type = .control ∧
    ∃ subPacket ∈ RtcpNackResponder.compound message.data 0, handler.kind message.data subPacket)

/-- The handler ends, reads inside the messages, and its calls are justified. -/
def Reacts (messages : List Message) : Prop :=
  ∃ calls, handler.incoming messages = .ok calls ∧
    List.Forall₂ handler.Justified messages calls

/-- The first header at which the loop ends is that of a sub-packet inside a control message. -/
def FirstHitInside (message : Message) : Prop :=
  ∀ subPacket, (headers message.data 0).find? (handler.hit message.data) = some subPacket →
    message.type = .control ∧ Whole message.data subPacket

/-- The calls for a message. -/
def called (message : Message) : Except Fault (List β) :=
  (handler.incomingLoop message.data (message.data.length + 1) 0).bind fun called =>
    .ok called.toList

/-- The messages are taken one after the other. -/
theorem incoming_cons (message : Message) (messages : List Message) :
    handler.incoming (message :: messages) =
      (handler.called message).bind fun first =>
        (handler.incoming messages).bind fun rest => .ok (first :: rest) := by
  rw [incoming, List.mapM_cons]
  rfl

variable {handler} {message : Message}

/-- If the first header that ends the loop is not inside, no sub-packet inside is of the kind. -/
theorem whole_of_kind {subPacket : ℕ × RtcpHeader}
    (hfirst : (headers data 0).find? (handler.hit data) = some subPacket)
    {other : ℕ × RtcpHeader} (hother : other ∈ RtcpNackResponder.compound data 0)
    (hkind : handler.kind data other) : Whole data subPacket := by
  obtain ⟨truncated, hheaders, -⟩ := headers_eq data 0
  have hhit := (handler.hit_iff data other (whole_of_mem_compound hother)).2 hkind
  obtain ⟨found, hfound⟩ := Option.isSome_iff_exists.1
    (List.find?_isSome.2 ⟨other, hother, hhit⟩)
  rw [hheaders, List.find?_append, hfound, Option.some_or, Option.some.injEq] at hfirst
  rw [← hfirst]
  exact whole_of_mem_compound (List.mem_of_find?_eq_some hfound)

/-- The calls for one message. -/
theorem justified_iff :
    (∃ calls, handler.called message = .ok calls ∧ handler.Justified message calls) ↔
      handler.FirstHitInside message := by
  rw [called, handler.incomingLoop_eq (Nat.lt_succ_of_le (Nat.sub_le _ _)), FirstHitInside]
  cases hfirst : (headers message.data 0).find? (handler.hit message.data) with
  | none =>
    refine ⟨fun _ _ h => absurd h.symm (Option.some_ne_none _),
      fun _ => ⟨[], rfl, Nat.zero_le _, fun h => ?_⟩⟩
    exact absurd rfl h
  | some subPacket =>
    have hhit := List.find?_some hfirst
    constructor
    · -- a call needs a sub-packet of the kind inside, and then the first hit is inside too
      rintro ⟨calls, hcalls, -, honly⟩ other hother
      obtain rfl := Option.some.inj hother
      rcases handler.visit_of_hit _ _ hhit with ⟨b, hvisit⟩ | ⟨-, hvisit⟩
      · simp only [hvisit] at hcalls
        obtain rfl := Except.ok.inj hcalls
        obtain ⟨htype, inside, hinside, hkind⟩ := honly (List.cons_ne_nil _ _)
        exact ⟨htype, whole_of_kind hfirst hinside hkind⟩
      · simp only [hvisit] at hcalls
        cases hcalls
    · intro h
      obtain ⟨htype, hwhole⟩ := h subPacket rfl
      obtain ⟨truncated, hheaders, hnotWhole⟩ := headers_eq message.data 0
      -- a whole sub-packet is not the one that is cut off
      have hmem : subPacket ∈ RtcpNackResponder.compound message.data 0 := by
        have hmem := List.mem_of_find?_eq_some hfirst
        rw [hheaders, List.mem_append] at hmem
        exact hmem.resolve_right fun htruncated => hnotWhole _ htruncated hwhole
      rcases handler.visit_of_hit _ _ hhit with ⟨b, hvisit⟩ | ⟨hnot, -⟩
      · refine ⟨[b], by simp only [hvisit]; rfl, le_rfl, fun _ => ⟨htype, subPacket, hmem, ?_⟩⟩
        exact (handler.hit_iff _ _ hwhole).1 hhit
      · exact absurd hwhole hnot

/-- The calls for all messages. -/
theorem reacts_iff (messages : List Message) :
    handler.Reacts messages ↔ ∀ message ∈ messages, handler.FirstHitInside message := by
  induction messages with
  | nil => exact ⟨fun _ => List.forall_mem_nil _, fun _ => ⟨[], rfl, .nil⟩⟩
  | cons message messages ih =>
    rw [List.forall_mem_cons, ← ih, ← justified_iff, Reacts]
    rw [incoming_cons]
    constructor
    · rintro ⟨calls, hcalls, hjustified⟩
      cases hfirst : handler.called message with
      | error fault =>
        rw [hfirst] at hcalls
        cases hcalls
      | ok first =>
        cases hrest : handler.incoming messages with
        | error fault =>
          rw [hfirst, hrest] at hcalls
          cases hcalls
        | ok rest =>
          rw [hfirst, hrest] at hcalls
          obtain rfl := Except.ok.inj hcalls
          obtain ⟨hone, hothers⟩ := List.forall₂_cons.1 hjustified
          exact ⟨⟨first, rfl, hone⟩, rest, hrest, hothers⟩
    · rintro ⟨⟨first, hfirst, hone⟩, rest, hrest, hothers⟩
      refine ⟨first :: rest, ?_, .cons hone hothers⟩
      rw [hfirst, hrest]
      rfl

end FeedbackHandler

/-- **Reacting to RTCP only.** -/
theorem feedback_reacts_iff (messages : List Message) :
    (PliHandler.Reacts messages ↔ ∀ message ∈ messages, PliHandler.FirstHitInside message) ∧
      (RembHandler.Reacts messages ↔ ∀ message ∈ messages, RembHandler.FirstHitInside message) :=
  ⟨FeedbackHandler.reacts_iff messages, FeedbackHandler.reacts_iff messages⟩

/-- An RTP packet with the sequence number 2 and a payload that reads like a FIR message. -/
def mediaPacket : Message where
  data := [0x80, 96, 0, 2, 0, 0, 0, 0, 0, 0, 0, 1, 0x80, 196, 0, 0]
  type := .binary

/-- The sequence number is taken for a length, and the payload for the next header. -/
theorem feedback_reacts_to_media :
    PliHandler.incoming [mediaPacket] = .ok [[()]] ∧
      ¬∀ messages : List Message, PliHandler.Reacts messages ∧ RembHandler.Reacts messages := by
  have hcalled : PliHandler.incoming [mediaPacket] = .ok [[()]] := by decide +kernel
  refine ⟨hcalled, fun hall => ?_⟩
  obtain ⟨calls, hcalls, hjustified⟩ := (hall [mediaPacket]).1
  obtain rfl := Except.ok.inj (hcalled.symm.trans hcalls)
  obtain ⟨-, honly⟩ := (List.forall₂_cons.1 hjustified).1
  exact absurd (honly (List.cons_ne_nil _ _)).1 (by decide)

end Rtc
