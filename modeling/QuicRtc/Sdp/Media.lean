import QuicRtc.Sdp.Sections

/-!
# Media sections are parsed back

The lines of a media section: payload types, SSRCs and RTP maps.

* `Media.foldlM_lines`: a media section is parsed back from its lines, trimmed, except that an empty
  feedback or format parameter is read as the payload type. The line of the parameter ends behind
  the payload type once it is trimmed, and without a space `substr(p + 1)` is the whole value.
-/

namespace Rtc

namespace Sdp

open Http (space lf cr colon)
open WsHandshake (isSpace)
open LocalDescription (Direction)

/-! ## Payload types -/

/-- White space before an integer is skipped. -/
theorem readSigned_space (half : ℕ) (stream : Text) :
    readSigned half (space :: stream) = readSigned half stream := by
  have hspace : isSpace space = true := by decide
  simp [readSigned, readInteger, hspace]

namespace Media

theorem readPayloadTypes_append (payloadType : CInt) {rest : Text} (hrest : NoDigit rest) :
    readPayloadTypes (toString payloadType ++ rest) = payloadType :: readPayloadTypes rest := by
  have hrange : -(2 ^ 31 : ℕ) ≤ payloadType.1 ∧ payloadType.1 < (2 ^ 31 : ℕ) := by
    have hlow := payloadType.2.1
    have hhigh := payloadType.2.2
    constructor <;> norm_num <;> omega
  have hread := readSigned_toString hrange hrest
  rw [readPayloadTypes]
  split
  · next heq =>
    rw [hread] at heq
    cases heq
  · next i stream heq =>
    rw [hread] at heq
    obtain ⟨rfl, rfl⟩ := Prod.mk.inj (Option.some.inj heq)
    rw [CInt.wrap_coe]

theorem readPayloadTypes_space (stream : Text) :
    readPayloadTypes (space :: stream) = readPayloadTypes stream := by
  rw [readPayloadTypes.eq_def, readPayloadTypes.eq_def stream, readSigned_space]

/-- The payload types of a media line are read back, wherever no other one follows. -/
theorem readPayloadTypes_description_append (m : Media) {rest : Text} (hdigit : NoDigit rest)
    (hnone : readSigned (2 ^ 31) rest = none) :
    readPayloadTypes (m.description ++ rest) = m.mOrderedPayloadTypes := by
  have hend : readPayloadTypes rest = [] := by
    rw [readPayloadTypes]
    split
    · rfl
    · next heq =>
      rw [hnone] at heq
      cases heq
  rw [description]
  generalize m.mOrderedPayloadTypes = payloadTypes
  induction payloadTypes with
  | nil => exact hend
  | cons payloadType payloadTypes ih =>
    cases payloadTypes with
    | nil => exact (readPayloadTypes_append payloadType hdigit).trans (congrArg _ hend)
    | cons next payloadTypes =>
      rw [List.map_cons, List.map_cons, joinSpace, List.append_assoc, List.cons_append,
        readPayloadTypes_append payloadType (noDigit_space _), readPayloadTypes_space]
      · exact congrArg _ ih
      · exact List.cons_ne_nil _ _

theorem readPayloadTypes_description (m : Media) :
    readPayloadTypes m.description = m.mOrderedPayloadTypes := by
  have hread := m.readPayloadTypes_description_append noDigit_nil (by decide)
  rwa [List.append_nil] at hread

theorem isPlain_description (m : Media) : IsPlain m.description :=
  isPlain_joinSpace (List.forall_mem_map.2 fun payloadType _ => isWord_toString payloadType)

end Media

/-! ## SSRCs -/

/-- A pattern whose first byte does not occur before it is found. -/
theorem behindText_append {c : UInt8} {pattern pre : Text} (h : c ∉ pre) (rest : Text) :
    behindText (c :: pattern) (pre ++ ((c :: pattern) ++ rest)) = some rest := by
  induction pre with
  | nil =>
    have hmatch : matchPrefix ((c :: pattern) ++ rest) (c :: pattern) = true :=
      List.isPrefixOf_iff_prefix.2 (List.prefix_append _ _)
    change (if matchPrefix ((c :: pattern) ++ rest) (c :: pattern) then _ else _) = _
    rw [if_pos hmatch]
    exact congrArg some List.drop_left
  | cons b pre ih =>
    obtain ⟨hb, hpre⟩ := not_or.1 (List.mem_cons.not.1 h)
    have hmatch : matchPrefix (b :: (pre ++ ((c :: pattern) ++ rest))) (c :: pattern) = false := by
      simp [matchPrefix, List.isPrefixOf, hb]
    rw [List.cons_append, behindText, hmatch, if_neg Bool.false_ne_true]
    exact ih hpre

/-- Where a pattern is found, it stands. -/
theorem behindText_eq_some {pattern s rest : Text} (h : behindText pattern s = some rest) :
    ∃ pre, s = pre ++ (pattern ++ rest) := by
  induction s with
  | nil => cases h
  | cons c s ih =>
    rw [behindText] at h
    split_ifs at h with hmatch
    · obtain ⟨t, ht⟩ := List.isPrefixOf_iff_prefix.1 hmatch
      obtain rfl := Option.some.inj h
      exact ⟨[], by rw [← ht, List.drop_left, List.nil_append]⟩
    · obtain ⟨pre, rfl⟩ := ih h
      exact ⟨c :: pre, rfl⟩

/-- There is no name in a text whose only colon stands behind something else. -/
theorem behindText_cname {x y : Text} (hx : colon ∉ x) (hy : colon ∉ y)
    (hlast : ∀ c ∈ x.getLast?, c ≠ 101) :
    behindText (bytes "cname:") (x ++ colon :: y) = none := by
  by_contra hsome
  obtain ⟨rest, hrest⟩ := Option.ne_none_iff_exists'.1 hsome
  obtain ⟨pre, hpre⟩ := behindText_eq_some hrest
  have hsplit : x ++ colon :: y = (pre ++ bytes "cname") ++ colon :: rest := by
    rw [hpre, List.append_assoc]
    rfl
  obtain ⟨rfl, -, -⟩ := (List.append_cons_inj_of_notMem hx hy).1 hsplit
  rw [List.getLast?_append_of_ne_nil _ (by decide)] at hlast
  exact hlast 101 rfl rfl

namespace Ssrc

variable {s : Ssrc}

/-- The value of the attribute with the name. -/
def namedValue (s : Ssrc) : Text :=
  toString s.ssrc.toNat ++ s.name.elim [] fun name => bytes " cname:" ++ name

/-- The value of the attribute with the stream. -/
def msidValue (s : Ssrc) (msid : Text) : Text := msid ++ space :: s.trackId.getD msid

/-- The attribute with the name stands first, and the other two are there if there is a stream. -/
theorem attributes_eq (s : Ssrc) :
    s.attributes = (bytes "ssrc:" ++ s.namedValue) ::
      s.msid.elim [] fun msid =>
        [bytes "ssrc:" ++ (toString s.ssrc.toNat ++ (bytes " msid:" ++ s.msidValue msid)),
          bytes "msid:" ++ s.msidValue msid] := by
  obtain ⟨ssrc, name, msid, trackId⟩ := s
  rw [attributes, namedValue]
  cases name with
  | some name => cases msid <;> rfl
  | none =>
    rw [Option.elim_none, List.append_nil]
    cases msid <;> rfl

/-- The SSRC ends where the name begins. -/
theorem toUnsigned_namedValue (s : Ssrc) : toUnsigned s.namedValue = .ok s.ssrc.toNat := by
  refine toUnsigned_toString (lt_trans s.ssrc.toNat_lt (by decide)) ?_
  cases s.name with
  | none => exact noDigit_nil
  | some name => exact noDigit_space _

theorem toUnsigned_msid (s : Ssrc) (value : Text) :
    toUnsigned (toString s.ssrc.toNat ++ (bytes " msid:" ++ value)) = .ok s.ssrc.toNat :=
  toUnsigned_toString (lt_trans s.ssrc.toNat_lt (by decide)) (noDigit_space _)

theorem notMem_ssrc {c : UInt8} (hc : WsHandshake.isDigit c = false ∧ c ≠ 45) (s : Ssrc) :
    c ∉ toString s.ssrc.toNat := notMem_toString hc.1 hc.2 _

theorem behindText_namedValue (s : Ssrc) :
    behindText (bytes "cname:") s.namedValue = s.name := by
  rw [namedValue]
  cases s.name with
  | none =>
    rw [Option.elim_none, List.append_nil]
    by_contra hsome
    obtain ⟨rest, hrest⟩ := Option.ne_none_iff_exists'.1 hsome
    obtain ⟨pre, hpre⟩ := behindText_eq_some hrest
    refine s.notMem_ssrc (by decide : WsHandshake.isDigit colon = false ∧ colon ≠ 45) ?_
    rw [hpre]
    exact List.mem_append_right _ (List.mem_append_left _ (by decide))
  | some name =>
    have hpre : (99 : UInt8) ∉ toString s.ssrc.toNat ++ [space] := by
      rw [List.mem_append, not_or]
      exact ⟨s.notMem_ssrc (by decide), by decide⟩
    have hsplit : toString s.ssrc.toNat ++ (bytes " cname:" ++ name) =
        (toString s.ssrc.toNat ++ [space]) ++ (bytes "cname:" ++ name) :=
      (List.append_assoc _ [space] _).symm
    rw [Option.elim_some, hsplit]
    exact behindText_append hpre name

theorem colon_notMem_msidValue (h : s.WellFormed) {msid : Text} (hmsid : s.msid = some msid) :
    colon ∉ s.msidValue msid := by
  have hstream := h.msid msid hmsid
  have htrack : colon ∉ s.trackId.getD msid := by
    cases htrack : s.trackId with
    | none => exact hstream.colon_notMem
    | some trackId => exact (h.trackId trackId htrack).colon_notMem
  rw [msidValue, List.mem_append, not_or, List.mem_cons, not_or]
  exact ⟨hstream.colon_notMem, by decide, htrack⟩

theorem behindText_msid (h : s.WellFormed) {msid : Text} (hmsid : s.msid = some msid) :
    behindText (bytes "cname:") (toString s.ssrc.toNat ++ (bytes " msid:" ++ s.msidValue msid)) =
      none := by
  have hx : colon ∉ toString s.ssrc.toNat ++ bytes " msid" := by
    rw [List.mem_append, not_or]
    exact ⟨s.notMem_ssrc (by decide), by decide⟩
  have hlast : ∀ c ∈ (toString s.ssrc.toNat ++ bytes " msid").getLast?, c ≠ 101 := by
    rw [List.getLast?_append_of_ne_nil _ (by decide)]
    decide +kernel
  have hsplit : toString s.ssrc.toNat ++ (bytes " msid:" ++ s.msidValue msid) =
      (toString s.ssrc.toNat ++ bytes " msid") ++ colon :: s.msidValue msid :=
    (List.append_assoc _ (bytes " msid") _).symm
  rw [hsplit]
  exact behindText_cname hx (colon_notMem_msidValue h hmsid) hlast

theorem isLine_attributes (h : s.WellFormed) :
    ∀ attr ∈ s.attributes, IsLine (bytes "a=" ++ attr) := by
  have hname : IsLine s.namedValue := by
    rw [namedValue]
    cases hname : s.name with
    | none =>
      rw [Option.elim_none, List.append_nil]
      exact (isWord_toString _).isLine
    | some name =>
      exact (((h.name name hname).isLine).append (by decide)).append (isWord_toString _).lf_notMem
  rw [attributes_eq]
  refine List.forall_mem_cons.2 ⟨(hname.append (by decide)).append (by decide), ?_⟩
  cases hmsid : s.msid with
  | none => exact fun _ hmem => (List.not_mem_nil hmem).elim
  | some msid =>
    have hstream := h.msid msid hmsid
    have hvalue : IsLine (s.msidValue msid) := by
      refine hstream.toIsWord.append_isLine ?_
      cases htrack : s.trackId with
      | none => exact hstream.isLine
      | some trackId => exact (h.trackId trackId htrack).isLine
    rw [Option.elim_some, List.forall_mem_cons, List.forall_mem_singleton]
    refine ⟨?_, (hvalue.append (by decide)).append (by decide)⟩
    exact (((hvalue.append (by decide)).append (isWord_toString _).lf_notMem).append
      (by decide)).append (by decide)

end Ssrc

namespace Media

variable {m : Media}

/-- The section with the attributes, the SSRCs and the names that calls of `addSSRC` add. -/
def withSsrcs (m : Media) (ssrcs : List Ssrc) : Media :=
  { m with
    mAttributes := ssrcs.flatMap Ssrc.attributes
    mSsrcs := ssrcs.map Ssrc.ssrc
    mCNameMap := ssrcs.filterMap Ssrc.cname }

theorem parseSdpLine_ssrc (m : Media) {ssrc : UInt32} {value : Text}
    (hvalue : toUnsigned value = .ok ssrc.toNat) :
    m.parseSdpLine (bytes "a=" ++ (bytes "ssrc:" ++ value)) = .ok
      { m with
        mSsrcs := if ssrc ∈ m.mSsrcs then m.mSsrcs else m.mSsrcs ++ [ssrc]
        mCNameMap := emplaceCName m.mCNameMap ssrc (behindText (bytes "cname:") value)
        mAttributes := m.mAttributes ++ [bytes "ssrc:" ++ value] } := by
  change m.parseSSRC (bytes "ssrc:" ++ value) value = _
  rw [parseSSRC, hvalue]
  simp only [bind, Except.bind, UInt32.ofNat_toNat]
  rfl

theorem parseSdpLine_msid (m : Media) (value : Text) :
    m.parseSdpLine (bytes "a=" ++ (bytes "msid:" ++ value)) =
      .ok { m with mAttributes := m.mAttributes ++ [bytes "msid:" ++ value] } := rfl

/-- The attributes of one more SSRC are read back. -/
theorem foldlM_ssrc (m : Media) {done : List Ssrc} {s : Ssrc} (hs : s.WellFormed)
    (hnew : s.ssrc ∉ done.map Ssrc.ssrc) :
    (s.attributes.map (bytes "a=" ++ ·)).foldlM parseSdpLine (m.withSsrcs done) =
      .ok (m.withSsrcs (done ++ [s])) := by
  let added (attributes : List Text) : Media :=
    { m with
      mAttributes := done.flatMap Ssrc.attributes ++ attributes
      mSsrcs := (done ++ [s]).map Ssrc.ssrc
      mCNameMap := (done ++ [s]).filterMap Ssrc.cname }
  have hfinal : m.withSsrcs (done ++ [s]) = added s.attributes := by
    rw [withSsrcs, List.flatMap_append, List.flatMap_singleton]
  -- the name is new in the map, so `emplace` stores it
  have hnames : ∀ entry ∈ done.filterMap Ssrc.cname, entry.1 ≠ s.ssrc := by
    rintro entry hentry heq
    obtain ⟨other, hother, hcname⟩ := List.mem_filterMap.1 hentry
    obtain ⟨name, -, rfl⟩ := Option.map_eq_some_iff.1 hcname
    exact hnew (List.mem_map.2 ⟨other, hother, heq⟩)
  have hnamed : (m.withSsrcs done).parseSdpLine (bytes "a=" ++ (bytes "ssrc:" ++ s.namedValue)) =
      pure (added [bytes "ssrc:" ++ s.namedValue]) := by
    have hssrc : s.ssrc ∉ (m.withSsrcs done).mSsrcs := hnew
    rw [parseSdpLine_ssrc _ s.toUnsigned_namedValue, s.behindText_namedValue, if_neg hssrc]
    simp only [withSsrcs, emplaceCName_of_forall_ne hnames, added]
    rw [List.map_append, List.filterMap_append]
    cases hname : s.name <;> simp [Ssrc.cname, hname, pure, Except.pure]
  rw [hfinal, s.attributes_eq, List.map_cons, List.foldlM_cons, hnamed, pure_bind]
  -- the line with the name is read, the lines with the stream follow if there is one
  cases hmsid : s.msid with
  | none => rfl
  | some msid =>
    have hstream : (added [bytes "ssrc:" ++ s.namedValue]).parseSdpLine
        (bytes "a=" ++ (bytes "ssrc:" ++ (toString s.ssrc.toNat ++
          (bytes " msid:" ++ s.msidValue msid)))) =
        pure (added [bytes "ssrc:" ++ s.namedValue, bytes "ssrc:" ++ (toString s.ssrc.toNat ++
          (bytes " msid:" ++ s.msidValue msid))]) := by
      have hmem : s.ssrc ∈ (done ++ [s]).map Ssrc.ssrc := by simp
      rw [parseSdpLine_ssrc _ (s.toUnsigned_msid _), Ssrc.behindText_msid hs hmsid]
      simp only [added, if_pos hmem, List.append_assoc]
      rfl
    rw [Option.elim_some, List.map_cons, List.map_singleton, List.foldlM_cons, hstream, pure_bind,
      List.foldlM_cons, parseSdpLine_msid]
    simp only [added, List.append_assoc]
    rfl

end Media

/-! ## RTP maps -/

namespace RtpMap

variable {map : RtpMap}

/-- A feedback or format parameter as the parser reads it. -/
def readParameter (payloadType : CInt) (val : Text) : Text :=
  if val = [] then toString payloadType else val

/-- An RTP map as the parser reads it. -/
def reparsed (map : RtpMap) : RtpMap :=
  { map with
    rtcpFbs := map.rtcpFbs.map (readParameter map.payloadType)
    fmtps := map.fmtps.map (readParameter map.payloadType) }

/-- The value of a parameter, trimmed. -/
def parameterText (payloadType : CInt) (val : Text) : Text :=
  toString payloadType ++ if val = [] then [] else space :: val

/-- The line of an empty parameter ends behind the payload type. -/
theorem trimEnd_parameterLine {key val : Text} (hkey : lf ∉ key) (payloadType : CInt)
    (hval : IsTail val) :
    trimEnd (parameterLine key payloadType val) =
        attributeLine key (parameterText payloadType val) ∧
      IsPrinted (parameterLine key payloadType val) := by
  have hline : IsLine (attributeLine key (toString payloadType)) :=
    isLine_attributeLine hkey (isWord_toString _).isLine
  have hsplit : ∀ text, attributeLine key (toString payloadType ++ text) =
      attributeLine key (toString payloadType) ++ text := fun text => by simp [attributeLine]
  rw [parameterLine, parameterText, hsplit, hsplit]
  exact ⟨trimEnd_spaced hline hval, isPrinted_spaced hline hval⟩

/-- Without a space the payload type is read twice. -/
theorem before_parameterText (payloadType : CInt) (val : Text) :
    before space (parameterText payloadType val) = toString payloadType ∧
      behind space (parameterText payloadType val) = readParameter payloadType val := by
  have hspace : space ∉ toString payloadType := (isWord_toString _).space_notMem
  rw [parameterText, readParameter]
  split_ifs
  · rw [List.append_nil, before_of_notMem hspace, behind_of_notMem hspace]
    exact ⟨rfl, rfl⟩
  · rw [before_append hspace, behind_append hspace]
    exact ⟨rfl, rfl⟩

/-- The clock rate and the encoding parameters are read back. -/
theorem setClockRate_clockText (map : RtpMap) {start : RtpMap} (hstart : start.encParams = []) :
    start.setClockRate map.clockText =
      .ok { start with clockRate := map.clockRate, encParams := map.encParams } := by
  have hslash : slash ∉ toString map.clockRate := notMem_toString (by decide) (by decide) _
  have hspace : space ∉ toString map.clockRate := (isWord_toString _).space_notMem
  have hint : toInt (toString map.clockRate) = .ok map.clockRate := by
    simpa using toInt_toString map.clockRate noDigit_nil
  by_cases hnil : map.encParams = []
  · rw [clockText, if_pos hnil, List.append_nil, setClockRate, upTo_of_notMem hslash,
      upTo_of_notMem hspace, hnil, ← hstart]
    simp only [Option.or_none, hint]
    rfl
  · rw [clockText, if_neg hnil, setClockRate, upTo_append hslash]
    simp only [Option.some_or, hint]
    rfl

/-- The value of the attribute `rtpmap`. -/
def value (map : RtpMap) : Text :=
  toString map.payloadType ++ space :: (map.format ++ slash :: map.clockText)

/-- An RTP map is read back without its parameters. -/
theorem ofDescription_value (h : map.Printable) :
    ofDescription map.value = .ok { map with rtcpFbs := [], fmtps := [] } := by
  rw [ofDescription, value, setDescription_append _ _ h.slash_notMem]
  exact setClockRate_clockText map rfl

theorem parsePayloadType_value (map : RtpMap) :
    parsePayloadType map.value = .ok map.payloadType := by
  rw [parsePayloadType, value, before_append (isWord_toString _).space_notMem]
  simpa using toInt_toString map.payloadType noDigit_nil

theorem isLine_line (h : map.Printable) : IsLine map.line := by
  have hclock : IsLine map.clockText := by
    rw [clockText]
    split_ifs with hnil
    · rw [List.append_nil]
      exact (isWord_toString _).isLine
    · exact (h.encParams.isLine hnil).append_cons (isWord_toString _).lf_notMem (by decide)
  exact isLine_attributeLine (by decide)
    ((isWord_toString _).append_isLine (hclock.append_cons h.lf_notMem (by decide)))

theorem isPrinted_lines (h : map.Printable) : ∀ line ∈ map.lines, IsPrinted line := by
  refine List.forall_mem_append.2 ⟨List.forall_mem_cons.2 ⟨?_, ?_⟩, ?_⟩
  · exact (isLine_line h).isPrinted
  · exact List.forall_mem_map.2 fun fb hfb =>
      (trimEnd_parameterLine (by decide) _ (h.rtcpFbs fb hfb)).2
  · exact List.forall_mem_map.2 fun fmtp hfmtp =>
      (trimEnd_parameterLine (by decide) _ (h.fmtps fmtp hfmtp)).2

end RtpMap

namespace Media

variable {m : Media}

theorem parseSdpLine_rtpmap (m : Media) (value : Text) :
    m.parseSdpLine (attributeLine (bytes "rtpmap") value) = m.parseRtpMap value := rfl

theorem parseSdpLine_rtcpFb (m : Media) (value : Text) :
    m.parseSdpLine (attributeLine (bytes "rtcp-fb") value) =
      m.parseParameter value fun map fb => { map with rtcpFbs := map.rtcpFbs ++ [fb] } := rfl

theorem parseSdpLine_fmtp (m : Media) (value : Text) :
    m.parseSdpLine (attributeLine (bytes "fmtp") value) =
      m.parseParameter value fun map fmtp => { map with fmtps := map.fmtps ++ [fmtp] } := rfl

/-- A new RTP map is inserted. -/
theorem parseRtpMap_value {map : RtpMap} (hmap : map.Printable)
    (hnew : m.mRtpMaps.find? map.payloadType = none) :
    m.parseRtpMap map.value = .ok
      { m with
        mRtpMaps :=
          m.mRtpMaps.emplace map.payloadType { map with rtcpFbs := [], fmtps := [] } } := by
  rw [parseRtpMap, RtpMap.parsePayloadType_value, RtpMap.ofDescription_value hmap]
  simp only [Except.bind, bind]
  rw [hnew]
  rfl

/-- A parameter is added to its RTP map. -/
theorem parseParameter_parameterText {payloadType : CInt} {val : Text} {map : RtpMap}
    (hfind : m.mRtpMaps.find? payloadType = some map) (add : RtpMap → Text → RtpMap) :
    m.parseParameter (RtpMap.parameterText payloadType val) add = .ok
      { m with
        mRtpMaps := m.mRtpMaps.modify payloadType fun map =>
          add map (RtpMap.readParameter payloadType val) } := by
  have hint : toInt (toString payloadType) = .ok payloadType := by
    simpa using toInt_toString payloadType noDigit_nil
  obtain ⟨hbefore, hbehind⟩ := RtpMap.before_parameterText payloadType val
  rw [parseParameter, hbefore, hbehind, hint]
  simp only [Except.bind, bind]
  rw [hfind]
  rfl

/-- The section with RTP maps that were parsed from these entries. -/
def withRtpMaps (m : Media) (entries : List (CInt × RtpMap)) : Media :=
  { m with mRtpMaps := .ofList (entries.map fun entry => (entry.1, entry.2.reparsed)) }

section LastMap

variable {entries : List (CInt × RtpMap)} {payloadType : CInt} {map : RtpMap}

/-- The section while the last RTP map is parsed. -/
def withLastMap (m : Media) (entries : List (CInt × RtpMap)) (payloadType : CInt) (map : RtpMap) :
    Media :=
  { m with
    mRtpMaps := .ofList ((entries.map fun entry => (entry.1, entry.2.reparsed)) ++
      [(payloadType, map)]) }

theorem withRtpMaps_append (m : Media) (entries : List (CInt × RtpMap)) (map : RtpMap) :
    m.withRtpMaps (entries ++ [(map.payloadType, map)]) =
      m.withLastMap entries map.payloadType map.reparsed := by
  rw [withRtpMaps, List.map_append]
  rfl

variable (hkeys : (entries ++ [(payloadType, map)]).Pairwise fun x y => x.1 < y.1)
include hkeys

/-- The payload types stay in order. -/
theorem pairwise_reparsed (map' : RtpMap) :
    ((entries.map fun entry => (entry.1, entry.2.reparsed)) ++ [(payloadType, map')]).Pairwise
      fun x y => x.1 < y.1 := by
  obtain ⟨hentries, -, hlast⟩ := List.pairwise_append.1 hkeys
  refine List.pairwise_append.2 ⟨List.pairwise_map.2 hentries, List.pairwise_singleton _ _, ?_⟩
  intro x hx y hy
  obtain ⟨entry, hentry, rfl⟩ := List.mem_map.1 hx
  obtain rfl := List.mem_singleton.1 hy
  exact hlast entry hentry (payloadType, map) List.mem_cons_self

/-- The line of a parameter, where its RTP map comes last. -/
theorem parseParameter_last (m : Media) (map' : RtpMap) (val : Text)
    (add : RtpMap → Text → RtpMap) :
    (m.withLastMap entries payloadType map').parseParameter
        (RtpMap.parameterText payloadType val) add =
      .ok (m.withLastMap entries payloadType
        (add map' (RtpMap.readParameter payloadType val))) := by
  have hlast := pairwise_reparsed hkeys map'
  have hmodify := OrderedMap.modify_ofList_last hlast
    fun map' => add map' (RtpMap.readParameter payloadType val)
  have hfind : (m.withLastMap entries payloadType map').mRtpMaps.find? payloadType = some map' :=
    OrderedMap.find?_ofList_last hlast
  rw [parseParameter_parameterText hfind]
  exact congrArg (fun mRtpMaps => Except.ok { m with mRtpMaps }) hmodify

end LastMap

/-- The lines of an RTP map with its parameters, where it comes last. -/
theorem foldlM_rtpMap {entries : List (CInt × RtpMap)} {map : RtpMap}
    (hkeys : (entries ++ [(map.payloadType, map)]).Pairwise fun x y => x.1 < y.1) (m : Media)
    (hmap : map.Printable) :
    (map.lines.map trimEnd).foldlM parseSdpLine (m.withRtpMaps entries) =
      .ok (m.withRtpMaps (entries ++ [(map.payloadType, map)])) := by
  let read := RtpMap.readParameter map.payloadType
  let last (rtcpFbs fmtps : List Text) : Media :=
    m.withLastMap entries map.payloadType
      { map with rtcpFbs := rtcpFbs.map read, fmtps := fmtps.map read }
  -- the map itself starts without parameters
  have hline : (m.withRtpMaps entries).parseSdpLine map.line = pure (last [] []) := by
    have hnew := OrderedMap.find?_ofList_of_forall_lt (pairwise_reparsed hkeys map.reparsed)
    refine (parseSdpLine_rtpmap _ _).trans ((parseRtpMap_value hmap hnew).trans ?_)
    simp only [last, withLastMap, OrderedMap.ofList_append_singleton]
    rfl
  -- each parameter is added to the last map
  have hfbs : (map.rtcpFbs.map fun fb =>
      trimEnd (RtpMap.parameterLine (bytes "rtcp-fb") map.payloadType fb)).foldlM parseSdpLine
        (last [] []) = pure (last map.rtcpFbs []) := by
    refine Printed.foldlM_map (fun done => last done []) fun done fb rest hsplit => ?_
    rw [(RtpMap.trimEnd_parameterLine (by decide) _ (hmap.rtcpFbs fb (by simp [hsplit]))).1]
    rw [parseSdpLine_rtcpFb]
    refine (parseParameter_last hkeys m _ fb _).trans ?_
    simp only [last, List.map_append]
    rfl
  have hfmtps : (map.fmtps.map fun fmtp =>
      trimEnd (RtpMap.parameterLine (bytes "fmtp") map.payloadType fmtp)).foldlM parseSdpLine
        (last map.rtcpFbs []) = pure (last map.rtcpFbs map.fmtps) := by
    refine Printed.foldlM_map (fun done => last map.rtcpFbs done) fun done fmtp rest hsplit => ?_
    rw [(RtpMap.trimEnd_parameterLine (by decide) _ (hmap.fmtps fmtp (by simp [hsplit]))).1]
    rw [parseSdpLine_fmtp]
    refine (parseParameter_last hkeys m _ fmtp _).trans ?_
    simp only [last, List.map_append]
    rfl
  rw [RtpMap.lines, List.map_append, List.map_cons, List.map_map, List.map_map,
    trimEnd_of_isLine (RtpMap.isLine_line hmap), List.foldlM_append, List.foldlM_cons, hline,
    pure_bind]
  simp only [Function.comp_def]
  rw [hfbs, pure_bind, hfmtps, withRtpMaps_append]
  rfl

/-- The RTP maps are read back from their lines. -/
theorem foldlM_rtpMaps
    (h : ∀ entry ∈ m.mRtpMaps.entries, entry.1 = entry.2.payloadType ∧ entry.2.Printable)
    (start : Media) (hstart : start.mRtpMaps = .empty) :
    ((m.mRtpMaps.entries.flatMap fun entry => entry.2.lines).map trimEnd).foldlM parseSdpLine
        start =
      .ok { start with mRtpMaps := m.mRtpMaps.mapValues RtpMap.reparsed } := by
  have hempty : start = start.withRtpMaps [] :=
    congrArg (fun mRtpMaps => { start with mRtpMaps }) hstart
  have hfinal : start.withRtpMaps m.mRtpMaps.entries =
      { start with mRtpMaps := m.mRtpMaps.mapValues RtpMap.reparsed } :=
    congrArg (fun mRtpMaps => { start with mRtpMaps })
      (OrderedMap.ofList_entries (m.mRtpMaps.mapValues RtpMap.reparsed))
  rw [← hfinal, List.map_flatMap]
  conv_lhs => rw [hempty]
  refine Printed.foldlM_flatMap start.withRtpMaps fun done ⟨payloadType, map⟩ rest hsplit => ?_
  obtain ⟨hkey, hmap⟩ : payloadType = map.payloadType ∧ map.Printable :=
    h (payloadType, map) (by simp [hsplit])
  subst hkey
  refine foldlM_rtpMap ?_ start hmap
  refine List.Pairwise.sublist ?_ m.mRtpMaps.ascending
  simp [hsplit]

/-! ## All lines -/

/-- A media section as the parser reads it. -/
def reparsed (m : Media) : Media :=
  { m with
    mDescription := m.description
    mRtpMaps := m.mRtpMaps.mapValues RtpMap.reparsed }

theorem parseSdpLine_entry (m : Media) {line : Text} (hline : IsEntryLine line) (e : Entry) :
    parseSdpLine { m with toEntry := e } line =
      (fun e => { m with toEntry := e }) <$> e.parseSdpLine line := by
  have hkey : ∀ key ∈ ownKeys, lineKey line ≠ key := fun key hmem heq => hline.key (heq ▸ hmem)
  rw [lineKey] at hkey
  rw [parseSdpLine]
  simp only [if_neg (hkey (bytes "rtpmap") (by decide)),
    if_neg (hkey (bytes "rtcp-fb") (by decide)), if_neg (hkey (bytes "fmtp") (by decide)),
    if_neg (hkey (bytes "rtcp-mux") (by decide)),
    if_neg (hkey (bytes "ssrc") (by decide)), hline.not_prefix, Bool.false_eq_true, if_false,
    bind_pure_comp, ite_self]

/-- Lines that are left to `Entry.parseSdpLine` change what sections have in common. -/
theorem foldlM_entry (m : Media) {lines : List Text} (h : ∀ line ∈ lines, IsEntryLine line)
    (e : Entry) :
    lines.foldlM parseSdpLine { m with toEntry := e } =
      (fun e => { m with toEntry := e }) <$> lines.foldlM Entry.parseSdpLine e :=
  Printed.foldlM_lift (fun e line hline => parseSdpLine_entry m (h line hline) e) e

/-- The lines behind the media line. -/
theorem lines_eq (h : m.WellFormed) :
    connectionLine :: m.generateSdpLines = (connectionLine :: m.commonLines) ++
      (m.mAttributes.map (bytes "a=" ++ ·) ++ bytes "a=rtcp-mux" ::
        m.mRtpMaps.entries.flatMap fun entry => entry.2.lines) := by
  have hbas : ¬0 ≤ m.mBas.1 := by
    rw [h.mBas]
    decide
  rw [generateSdpLines, if_neg hbas, Entry.generateSdpLines_eq h.rids, List.nil_append,
    List.append_assoc, List.cons_append]

theorem isLine_attributes (h : m.WellFormed) :
    ∀ line ∈ m.mAttributes.map (bytes "a=" ++ ·), IsLine line := by
  obtain ⟨ssrcs, hssrcs⟩ := h.ssrcs
  rw [List.forall_mem_map, hssrcs.attributes]
  intro attr hattr
  obtain ⟨s, hs, hattr⟩ := List.mem_flatMap.1 hattr
  exact Ssrc.isLine_attributes (hssrcs.wellFormed s hs) attr hattr

theorem isPrinted_lines (h : m.WellFormed) :
    ∀ line ∈ connectionLine :: m.generateSdpLines, IsPrinted line := by
  rw [lines_eq h]
  refine List.forall_mem_append.2 ⟨?_, List.forall_mem_append.2 ⟨?_, List.forall_mem_cons.2
    ⟨?_, ?_⟩⟩⟩
  · exact fun line hline => (Entry.isLine_connectionLine h.toWellFormed line hline).isPrinted
  · exact fun line hline => (isLine_attributes h line hline).isPrinted
  · exact (isLine_of_text (by decide)).isPrinted
  · intro line hline
    obtain ⟨entry, hentry, hline⟩ := List.mem_flatMap.1 hline
    exact RtpMap.isPrinted_lines (h.rtpMaps entry hentry).2.printable line hline

/-- The RTP maps of a well-formed section are printed. -/
theorem WellFormed.printable (h : m.WellFormed) :
    ∀ entry ∈ m.mRtpMaps.entries, entry.1 = entry.2.payloadType ∧ entry.2.Printable :=
  fun entry hentry => ⟨(h.rtpMaps entry hentry).1, (h.rtpMaps entry hentry).2.printable⟩

/-- A media section is parsed back from its lines. -/
theorem foldlM_lines (h : m.WellFormed) (mid : Text) :
    ((connectionLine :: m.generateSdpLines).map trimEnd).foldlM parseSdpLine
      { mType := m.mType, mProtocol := m.mProtocol, mDescription := m.description, mMid := mid
        mDirection := .unknown, mIsRemoved := m.mIsRemoved
        mOrderedPayloadTypes := m.mOrderedPayloadTypes } = .ok m.reparsed := by
  obtain ⟨ssrcs, hssrcs⟩ := h.ssrcs
  let start : Media :=
    { mType := m.mType, mProtocol := m.mProtocol, mDescription := m.description, mMid := mid
      mDirection := .unknown, mIsRemoved := m.mIsRemoved
      mOrderedPayloadTypes := m.mOrderedPayloadTypes }
  let common : Media :=
    { start with mMid := m.mMid, mExtMaps := m.mExtMaps, mDirection := m.mDirection }
  -- what is read grows with the lines: the entry, the SSRCs, and then the RTP maps
  have hcommon : (connectionLine :: m.commonLines).foldlM parseSdpLine start = pure common := by
    have hlines := Entry.isEntryLine_commonLines m.toEntry
    refine (foldlM_entry start hlines start.toEntry).trans ?_
    rw [Entry.foldlM_connectionLine h.toWellFormed rfl]
    rfl
  have hattributes : (m.mAttributes.map (bytes "a=" ++ ·)).foldlM parseSdpLine common =
      pure (common.withSsrcs ssrcs) := by
    rw [hssrcs.attributes, List.map_flatMap]
    refine Printed.foldlM_flatMap common.withSsrcs fun done s rest hsplit => ?_
    refine foldlM_ssrc common (hssrcs.wellFormed s (by simp [hsplit])) ?_
    have hnodup := hssrcs.nodup
    rw [hsplit, List.map_append, List.map_cons, List.nodup_append] at hnodup
    exact fun hmem => hnodup.2.2 _ hmem _ List.mem_cons_self rfl
  have hmux : (common.withSsrcs ssrcs).parseSdpLine (trimEnd (bytes "a=rtcp-mux")) =
      pure (common.withSsrcs ssrcs) := rfl
  have hfinal : { common.withSsrcs ssrcs with mRtpMaps := m.mRtpMaps.mapValues RtpMap.reparsed } =
      m.reparsed := by
    simp only [common, start, withSsrcs, reparsed, ← hssrcs.attributes, ← hssrcs.mSsrcs,
      ← hssrcs.names, ← h.mBas, ← h.rids]
  rw [lines_eq h, List.map_append, map_trimEnd (Entry.isLine_connectionLine h.toWellFormed),
    List.foldlM_append]
  refine (congrArg (· >>= _) hcommon).trans ?_
  rw [pure_bind, List.map_append, map_trimEnd (isLine_attributes h), List.foldlM_append,
    hattributes, pure_bind, List.map_cons, List.foldlM_cons, hmux, pure_bind,
    foldlM_rtpMaps h.printable _ rfl, hfinal]

end Media

end Sdp

end Rtc
