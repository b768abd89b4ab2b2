import QuicRtc.Sdp.MediaBuilt
import QuicRtc.Sdp.Session

/-!
# Media sections are texts of their own

A section that is built by calls is printed, the constructor makes a section of the text, and that
section is printed to the same text. It is not the section that was built: RIDs come back as
attributes, the SSRCs that are not printed next to RIDs are gone, and a URI with a space comes back
as a shorter one with attributes.

* `Media.foldlM_generateSdpLines`: what the parser makes of the lines, `Media.reread`.
* `Media.text_reread`: it has the same text.
* `Media.text_ofText`: so the text is the same after a round trip.
-/

namespace Rtc

namespace Sdp

open Http (space lf cr colon crlf)
open WsHandshake (isSpace isDigit)
open LocalDescription (Direction)

/-! ## Extensions -/

namespace ExtMap

variable {map : ExtMap}

theorem id_reread (map : ExtMap) : map.reread.id = map.id := by
  rw [reread, setUri]
  split <;> rfl

theorem direction_reread (map : ExtMap) : map.reread.direction = map.direction := by
  rw [reread, setUri]
  split <;> rfl

/-- The URI and the attributes stand behind each other as before. -/
theorem uriText_reread (h : IsLine map.uriText) : map.reread.uriText = map.uriText := by
  rw [reread, setUri]
  split
  · exact List.append_nil _
  · next uri attributes hsplit =>
    obtain ⟨-, heq⟩ := Reader.upTo_eq_some_iff.1 hsplit
    have hne : attributes ≠ [] := by
      rintro rfl
      have hlast := h.last space (by rw [heq, List.getLast?_concat]; rfl)
      exact absurd hlast (by decide)
    rw [heq, uriText, if_neg hne]

theorem line_reread (h : IsLine map.uriText) : map.reread.line = map.line := by
  rw [line, line, idText, idText, id_reread, direction_reread, uriText_reread h]

end ExtMap

/-! ## RTP maps -/

namespace RtpMap

/-- The parser reads the map itself. -/
theorem Restorable.reparsed_eq {map : RtpMap} (h : map.Restorable) : map.reparsed = map := by
  have hread : ∀ texts : List Text, (∀ text ∈ texts, IsLine text) →
      texts.map (readParameter map.payloadType) = texts := fun texts htexts =>
    map_eq_self_iff.2 fun text htext => if_neg (htexts text htext).ne_nil
  rw [reparsed, hread _ h.rtcpFbs, hread _ h.fmtps]

end RtpMap

/-! ## Attributes -/

/-- Lines with semicolons between them. -/
theorem isLine_implode {texts : List Text} (hne : texts ≠ []) (h : ∀ text ∈ texts, IsLine text) :
    IsLine (Utils.implode texts semicolon) := by
  induction texts with
  | nil => exact absurd rfl hne
  | cons text texts ih =>
    obtain ⟨htext, htexts⟩ := List.forall_mem_cons.1 h
    by_cases hnil : texts = []
    · rw [hnil, Utils.implode_singleton]
      exact htext
    · rw [Utils.implode_cons text hnil]
      exact (ih hnil htexts).append_cons htext.lf_notMem (by decide)

/-- An attribute with a key that is not special. -/
theorem isOther_append {key value : Text} (hcolon : colon ∉ key) (hlf : lf ∉ key)
    (hkey : key ∉ specialKeys) (hvalue : IsLine value) : IsOther (key ++ colon :: value) where
  isLine := hvalue.append_cons hlf (by decide)
  key := by
    rw [parsePair_append hcolon]
    exact hkey

namespace Entry

variable {e : Entry}

/-- The attributes that RIDs are printed as. -/
def ridAttributes (e : Entry) : List Text :=
  if e.mRids = [] then []
  else
    e.mRids.map (fun rid => bytes "rid" ++ colon :: (rid ++ bytes " send")) ++
      [bytes "simulcast" ++ colon :: (bytes "send " ++ Utils.implode e.mRids semicolon)]

/-- The attributes that are printed: next to RIDs, none of an SSRC. -/
def printedAttributes (e : Entry) : List Text :=
  (e.mAttributes.filter fun attr => e.mRids = [] ∨ matchPrefix attr (bytes "ssrc:") = false) ++
    e.ridAttributes

theorem generateSdpLines_eq_printed (e : Entry) :
    e.generateSdpLines = e.commonLines ++ e.printedAttributes.map (bytes "a=" ++ ·) := by
  have hrids : e.ridLines = e.ridAttributes.map (bytes "a=" ++ ·) := by
    rw [ridLines, ridAttributes]
    split_ifs
    · rfl
    · rw [List.map_append, List.map_map]
      rfl
  rw [generateSdpLines, hrids, attributeLines, printedAttributes, List.map_append,
    List.append_assoc]
  rfl

theorem isKept_printedAttributes (h : e.Printable) : ∀ attr ∈ e.printedAttributes, IsKept attr := by
  refine List.forall_mem_append.2 ⟨fun attr hattr => ?_, ?_⟩
  · exact h.attributes attr (List.mem_of_mem_filter hattr)
  · rw [ridAttributes]
    split_ifs with hrids
    · exact List.forall_mem_nil _
    · refine List.forall_mem_append.2 ⟨List.forall_mem_map.2 fun rid hrid => ?_,
        List.forall_mem_singleton.2 ?_⟩
      · have hsend : IsLine (rid ++ bytes " send") :=
          IsLine.append (h.rids rid hrid).lf_notMem (isLine_of_text (by decide))
        exact .inl (isOther_append (by decide) (by decide) (by decide) hsend)
      · have hsend : IsLine (bytes "send " ++ Utils.implode e.mRids semicolon) :=
          (isLine_implode hrids h.rids).append (by decide)
        exact .inl (isOther_append (by decide) (by decide) (by decide) hsend)

/-- An attribute that is not special is left as it is. -/
theorem parseSdpLine_isOther (e : Entry) {attr : Text} (h : IsOther attr) :
    e.parseSdpLine (bytes "a=" ++ attr) =
      .ok { e with mAttributes := e.mAttributes ++ [attr] } := by
  have hkey : ∀ key ∈ specialKeys, (parsePair attr).1 ≠ key :=
    fun key hmem heq => h.key (heq ▸ hmem)
  have hsend : attr ≠ bytes "sendonly" := by
    rintro rfl
    exact h.key (by decide)
  have hrecv : attr ≠ bytes "recvonly" := by
    rintro rfl
    exact h.key (by decide)
  change e.parseAttribute attr = _
  rw [parseAttribute]
  simp only [if_neg (hkey (bytes "mid") (by decide)), if_neg (hkey (bytes "extmap") (by decide)),
    if_neg hsend, if_neg hrecv, if_neg (hkey (bytes "sendrecv") (by decide)),
    if_neg (hkey (bytes "inactive") (by decide)), if_neg (hkey (bytes "bundle-only") (by decide))]

end Entry

namespace Media

variable {m : Media}

/-- An attribute that is kept, maybe with an SSRC and its name. -/
theorem parseSdpLine_isKept (m : Media) {attr : Text} (h : IsKept attr) :
    ∃ ssrcs names, m.parseSdpLine (bytes "a=" ++ attr) = .ok
      { m with mAttributes := m.mAttributes ++ [attr], mSsrcs := ssrcs, mCNameMap := names } := by
  rcases h with hother | ⟨-, ssrc, rest, rfl, hdigit⟩
  · have hkey : ∀ key ∈ specialKeys, (parsePair attr).1 ≠ key :=
      fun key hmem heq => hother.key (heq ▸ hmem)
    have hentry : m.parseSdpLine (bytes "a=" ++ attr) =
        (do return { m with toEntry := ← m.toEntry.parseSdpLine (bytes "a=" ++ attr) }) := by
      have hdrop : (bytes "a=" ++ attr).drop 2 = attr := rfl
      have hbegins : matchPrefix (bytes "a=" ++ attr) (bytes "a=") = true := rfl
      rw [parseSdpLine, if_pos hbegins, hdrop]
      simp only [if_neg (hkey (bytes "rtpmap") (by decide)),
        if_neg (hkey (bytes "rtcp-fb") (by decide)), if_neg (hkey (bytes "fmtp") (by decide)),
        if_neg (hkey (bytes "rtcp-mux") (by decide)), if_neg (hkey (bytes "ssrc") (by decide))]
    refine ⟨m.mSsrcs, m.mCNameMap, ?_⟩
    rw [hentry, m.toEntry.parseSdpLine_isOther hother]
    rfl
  · rw [ssrcPrefix, List.append_assoc]
    have hvalue : toUnsigned (toString ssrc.toNat ++ rest) = .ok ssrc.toNat :=
      toUnsigned_toString (lt_trans ssrc.toNat_lt (by decide)) hdigit
    exact ⟨_, _, parseSdpLine_ssrc m hvalue⟩

/-- The attributes that are printed are kept in their order. -/
theorem foldlM_isKept (m : Media) {attributes : List Text} (h : ∀ attr ∈ attributes, IsKept attr) :
    ∃ ssrcs names, (attributes.map (bytes "a=" ++ ·)).foldlM parseSdpLine m = .ok
      { m with
        mAttributes := m.mAttributes ++ attributes, mSsrcs := ssrcs, mCNameMap := names } := by
  induction attributes generalizing m with
  | nil =>
    refine ⟨m.mSsrcs, m.mCNameMap, ?_⟩
    rw [List.append_nil]
    rfl
  | cons attr attributes ih =>
    obtain ⟨hattr, hattributes⟩ := List.forall_mem_cons.1 h
    obtain ⟨ssrcs, names, hfirst⟩ := m.parseSdpLine_isKept hattr
    obtain ⟨ssrcs', names', hrest⟩ := ih
      { m with mAttributes := m.mAttributes ++ [attr], mSsrcs := ssrcs, mCNameMap := names }
      hattributes
    refine ⟨ssrcs', names', ?_⟩
    rw [List.map_cons, List.foldlM_cons, hfirst]
    refine hrest.trans ?_
    rw [List.append_assoc, List.singleton_append]

/-! ## All lines -/

/-- The line of the bandwidth, if there is one. -/
def basLines (m : Media) : List Text :=
  if 0 ≤ m.mBas.1 then [bytes "b=AS:" ++ toString m.mBas] else []

/-- The bandwidth that is read back. -/
def printedBas (m : Media) : CInt := if 0 ≤ m.mBas.1 then m.mBas else CInt.unset

/-- The lines in front of the RTP maps. -/
def frontLines (m : Media) : List Text :=
  connectionLine :: (m.basLines ++ (m.commonLines ++ m.printedAttributes.map (bytes "a=" ++ ·)))

/-- The lines behind the media line. -/
theorem lines_eq_frontLines (m : Media) :
    connectionLine :: m.generateSdpLines = m.frontLines ++ bytes "a=rtcp-mux" ::
      m.mRtpMaps.entries.flatMap fun entry => entry.2.lines := by
  rw [generateSdpLines, Entry.generateSdpLines_eq_printed, frontLines]
  simp only [List.cons_append, List.append_assoc]
  rfl

/-- What the media line begins with, when it is read to its end. -/
def readDescription (m : Media) : Text := before lf (trimBegin (space :: (m.description ++ [cr])))

/-- The section before its lines are read. -/
def fresh (m : Media) : Media where
  mType := m.mType
  mProtocol := m.mProtocol
  mDescription := m.readDescription
  mMid := []
  mDirection := .unknown
  mIsRemoved := m.mIsRemoved
  mOrderedPayloadTypes := m.mOrderedPayloadTypes

/-- The section as the parser reads it, with some SSRCs and names. -/
def reread (m : Media) (ssrcs : List UInt32) (names : List (UInt32 × Text)) : Media :=
  { m.fresh with
    mMid := m.mMid
    mExtMaps := m.mExtMaps.mapValues ExtMap.reread
    mDirection := m.mDirection
    mAttributes := m.printedAttributes
    mBas := m.printedBas
    mRtpMaps := m.mRtpMaps
    mSsrcs := ssrcs
    mCNameMap := names }

theorem parseSdpLine_bas (m : Media) (bas : CInt) :
    m.parseSdpLine (bytes "b=AS:" ++ toString bas) = .ok { m with mBas := bas } := by
  have hbehind : behind colon (bytes "b=AS:" ++ toString bas) = toString bas :=
    behind_append (by decide : colon ∉ bytes "b=AS")
  have hint : toInt (toString bas) = .ok bas := by simpa using toInt_toString bas noDigit_nil
  change (do return { m with mBas := ← toInt (behind colon (bytes "b=AS:" ++ toString bas)) }) = _
  rw [hbehind, hint]
  rfl

theorem foldlM_basLines (m : Media) {start : Media} (hstart : start.mBas = CInt.unset) :
    m.basLines.foldlM parseSdpLine start = .ok { start with mBas := m.printedBas } := by
  rw [basLines, printedBas]
  split_ifs
  · rw [List.foldlM_cons, parseSdpLine_bas]
    rfl
  · rw [← hstart]
    rfl

/-- The RTP maps are read back as they are. -/
theorem mapValues_reparsed (h : m.Printable) :
    m.mRtpMaps.mapValues RtpMap.reparsed = m.mRtpMaps :=
  OrderedMap.ext (map_eq_self_iff.2 fun entry hentry =>
    Prod.ext rfl (h.rtpMaps entry hentry).2.reparsed_eq)

theorem isLine_basLines (m : Media) : ∀ line ∈ m.basLines, IsLine line := by
  rw [basLines]
  split_ifs
  · exact List.forall_mem_singleton.2 ((isWord_toString _).isLine.append (by decide))
  · exact List.forall_mem_nil _

theorem isLine_frontLines (h : m.Printable) : ∀ line ∈ m.frontLines, IsLine line := by
  refine List.forall_mem_cons.2 ⟨isLine_of_text (by decide), ?_⟩
  refine List.forall_mem_append.2 ⟨m.isLine_basLines, List.forall_mem_append.2 ⟨?_, ?_⟩⟩
  · exact Entry.isLine_commonLines h.mid fun entry hentry => (h.extMaps entry hentry).2
  · refine List.forall_mem_map.2 fun attr hattr => ?_
    exact (Entry.isKept_printedAttributes h.toPrintable attr hattr).isLine.append (by decide)

theorem printable_rtpMaps (h : m.Printable) :
    ∀ entry ∈ m.mRtpMaps.entries, entry.1 = entry.2.payloadType ∧ entry.2.Printable :=
  fun entry hentry => ⟨(h.rtpMaps entry hentry).1, (h.rtpMaps entry hentry).2.printable⟩

theorem isPrinted_generateSdpLines (h : m.Printable) :
    ∀ line ∈ connectionLine :: m.generateSdpLines, IsPrinted line := by
  rw [lines_eq_frontLines]
  refine List.forall_mem_append.2 ⟨fun line hline => (isLine_frontLines h line hline).isPrinted,
    List.forall_mem_cons.2 ⟨(isLine_of_text (by decide)).isPrinted, ?_⟩⟩
  intro line hline
  obtain ⟨entry, hentry, hline⟩ := List.mem_flatMap.1 hline
  exact RtpMap.isPrinted_lines (printable_rtpMaps h entry hentry).2 line hline

/-- The lines in front of the RTP maps set all but the RTP maps. -/
theorem foldlM_frontLines (h : m.Printable) :
    ∃ ssrcs names, m.frontLines.foldlM parseSdpLine m.fresh =
      .ok { m.reread ssrcs names with mRtpMaps := .empty } := by
  let common : Media :=
    { m.fresh with
      mBas := m.printedBas
      mMid := m.mMid
      mExtMaps := m.mExtMaps.mapValues ExtMap.reread
      mDirection := m.mDirection }
  have hconnection : m.fresh.parseSdpLine connectionLine = pure m.fresh := rfl
  have hbas : m.basLines.foldlM parseSdpLine m.fresh =
      pure { m.fresh with mBas := m.printedBas } := m.foldlM_basLines rfl
  have hcommon : m.commonLines.foldlM parseSdpLine { m.fresh with mBas := m.printedBas } =
      pure common := by
    have hlines := fun line hline =>
      Entry.isEntryLine_commonLines m.toEntry line (List.mem_cons_of_mem _ hline)
    have hentry := Entry.foldlM_commonLines (fun entry hentry => (h.extMaps entry hentry).1)
      (rfl : m.fresh.mExtMaps = .empty) fun _ => rfl
    refine (foldlM_entry { m.fresh with mBas := m.printedBas } hlines m.fresh.toEntry).trans ?_
    rw [hentry]
    rfl
  obtain ⟨ssrcs, names, hattributes⟩ :=
    common.foldlM_isKept (Entry.isKept_printedAttributes h.toPrintable)
  refine ⟨ssrcs, names, ?_⟩
  rw [frontLines, List.foldlM_cons, hconnection, pure_bind, List.foldlM_append, hbas, pure_bind,
    List.foldlM_append, hcommon, pure_bind, hattributes]
  rfl

/-- What the parser makes of the lines behind the media line. -/
theorem foldlM_generateSdpLines (h : m.Printable) :
    ∃ ssrcs names,
      ((connectionLine :: m.generateSdpLines).map trimEnd).foldlM parseSdpLine m.fresh =
        .ok (m.reread ssrcs names) := by
  obtain ⟨ssrcs, names, hfront⟩ := foldlM_frontLines h
  have hmux : ∀ start : Media, start.parseSdpLine (trimEnd (bytes "a=rtcp-mux")) = pure start :=
    fun start => rfl
  have hmaps := foldlM_rtpMaps (printable_rtpMaps h)
    { m.reread ssrcs names with mRtpMaps := .empty } rfl
  refine ⟨ssrcs, names, ?_⟩
  rw [lines_eq_frontLines, List.map_append, map_trimEnd (isLine_frontLines h), List.foldlM_append,
    hfront, List.map_cons]
  change List.foldlM parseSdpLine _ _ = _
  rw [List.foldlM_cons, hmux, pure_bind, hmaps, mapValues_reparsed h]
  rfl

/-! ## The text -/

theorem lf_notMem_description (m : Media) : lf ∉ m.description ++ [cr] := by
  rw [List.mem_append, not_or]
  exact ⟨(isPlain_description m).lf_notMem, by decide⟩

/-- White space in front of the payload types is skipped, and none stands behind them. -/
theorem readPayloadTypes_readDescription (m : Media) :
    readPayloadTypes m.readDescription = m.mOrderedPayloadTypes := by
  have hlf : lf ∉ trimBegin (space :: (m.description ++ [cr])) := by
    intro hmem
    rcases List.mem_cons.1 ((List.dropWhile_sublist _).subset hmem) with heq | hmem
    · exact absurd heq (by decide)
    · exact m.lf_notMem_description hmem
  have htrim : ∀ stream : Text, readPayloadTypes (trimBegin stream) = readPayloadTypes stream := by
    intro stream
    have hread : readSigned (2 ^ 31) (trimBegin stream) = readSigned (2 ^ 31) stream := by
      rw [readSigned, readSigned, readInteger, readInteger, trimBegin, List.dropWhile_idempotent]
    rw [readPayloadTypes.eq_def, readPayloadTypes.eq_def stream, hread]
  have hdigit : NoDigit [cr] := by
    rintro c hc
    obtain rfl := Option.some.inj hc
    decide
  rw [readDescription, before_of_notMem hlf, htrim, readPayloadTypes_space,
    m.readPayloadTypes_description_append hdigit (by decide)]

/-- The first line and the others. -/
theorem text_eq (m : Media) : m.text = ((Section.media m).mLine 9 ++ [cr]) ++
    lf :: (connectionLine :: m.generateSdpLines).flatMap (· ++ crlf) := by
  rw [text, Section.generateSdp, List.flatMap_cons, crlf, List.append_assoc, List.append_assoc]
  rfl

theorem lf_notMem_mLine (h : m.Printable) : lf ∉ (Section.media m).mLine 9 ++ [cr] := by
  rw [List.mem_append, not_or]
  exact ⟨(trimEnd_mLine _ h.type h.protocol (isPlain_description m)).2.lf_notMem, by decide⟩

/-- The section is created from its media line, which ends with a carriage return. -/
theorem ofMLine_text (h : m.Printable) :
    ofMLine (before lf m.text) [] .unknown = .ok m.fresh := by
  let port : ℕ := if m.mIsRemoved then 0 else 9
  have hport : port < 2 ^ 16 := by
    simp only [port]
    split_ifs <;> decide
  have hremoved : decide (port = 0) = m.mIsRemoved := by
    by_cases hcase : m.mIsRemoved = true
    · rw [hcase, decide_eq_true (if_pos hcase)]
    · rw [Bool.eq_false_iff.2 hcase]
      exact decide_eq_false ((if_neg hcase).trans_ne (by decide))
  -- the carriage return is still there when the media line is read
  have hline : (Section.media m).mLine 9 ++ [cr] = bytes "m=" ++ (m.mType ++ space ::
      (toString port ++ space :: (m.mProtocol ++ space :: (m.description ++ [cr])))) := by
    change (bytes "m=" ++ (m.mType ++ space :: (toString port ++ space ::
      (m.mProtocol ++ space :: m.description)))) ++ [cr] = _
    simp only [List.append_assoc, List.cons_append]
  have hread : Entry.readMLine (m.mType ++ space :: (toString port ++ space ::
      (m.mProtocol ++ space :: (m.description ++ [cr])))) =
      some (m.mType, port, m.mProtocol, m.readDescription) := by
    simp only [Entry.readMLine, word_append h.type (atSpace_space _), Option.bind_eq_bind,
      Option.bind_some, readUnsigned_space, readUnsigned_toString hport (noDigit_space _),
      word_space_append h.protocol (atSpace_space _)]
    rfl
  -- the description is read up to it
  have hentry : Entry.ofMLine ((Section.media m).mLine 9 ++ [cr]) [] .unknown =
      .ok m.fresh.toEntry := by
    have hdrop : ∀ rest : Text, (bytes "m=" ++ rest).drop 2 = rest := fun rest => rfl
    have hbegins : ∀ rest : Text, matchPrefix (bytes "m=" ++ rest) (bytes "m=") = true :=
      fun rest => rfl
    rw [Entry.ofMLine, hline, if_pos (hbegins _), hdrop, hread]
    simp only [hremoved]
    rfl
  rw [text_eq, before_append (lf_notMem_mLine h), ofMLine, hentry]
  change Except.ok ({ m.fresh with
    mOrderedPayloadTypes := readPayloadTypes m.readDescription } : Media) = _
  rw [readPayloadTypes_readDescription]
  rfl

/-- Behind the last line stands the end of a line. -/
theorem getLast?_flatMap_crlf {texts : List Text} (hne : texts ≠ []) :
    (texts.flatMap (· ++ crlf)).getLast? = some lf := by
  induction texts using List.reverseRecOn with
  | nil => exact absurd rfl hne
  | append_singleton texts text _ =>
    rw [List.flatMap_append, List.flatMap_singleton, ← List.append_assoc,
      List.getLast?_append_of_ne_nil _ (by decide)]
    rfl

/-- The other lines are read behind the first one. -/
theorem linesOf_text (h : m.Printable) :
    linesOf m.text = (connectionLine :: m.generateSdpLines).map trimEnd := by
  have hlast : m.text.getLast? = some lf := getLast?_flatMap_crlf (List.cons_ne_nil _ _)
  rw [linesOf, if_pos hlast, text_eq, Utils.explode_append (lf_notMem_mLine h), List.tail_cons,
    List.append_nil]
  exact Description.lines_flatMap (isPrinted_generateSdpLines h)

/-- The section that is read has the same text. -/
theorem text_reread (h : m.Printable) (ssrcs : List UInt32) (names : List (UInt32 × Text)) :
    (m.reread ssrcs names).text = m.text := by
  have hcommon : (m.reread ssrcs names).commonLines = m.commonLines := by
    have hextMaps : ((m.mExtMaps.mapValues ExtMap.reread).entries.map fun entry => entry.2.line) =
        m.mExtMaps.entries.map fun entry => entry.2.line := by
      rw [OrderedMap.mapValues, List.map_map]
      exact List.map_congr_left fun entry hentry => ExtMap.line_reread (h.extMaps entry hentry).2
    rw [Entry.commonLines, Entry.commonLines, ← hextMaps]
    rfl
  -- there are no RIDs any more, so no attribute is left out
  have hattributes : (m.reread ssrcs names).printedAttributes = m.printedAttributes := by
    have hrids : (m.reread ssrcs names).mRids = [] := rfl
    rw [Entry.printedAttributes, Entry.ridAttributes, if_pos hrids, List.append_nil]
    exact List.filter_eq_self.2 fun attr _ => decide_eq_true (.inl hrids)
  have hbas : (m.reread ssrcs names).basLines = m.basLines := by
    have hprinted : (m.reread ssrcs names).mBas = m.printedBas := rfl
    rw [basLines, basLines, hprinted, printedBas]
    by_cases hbas : 0 ≤ m.mBas.1
    · rw [if_pos hbas]
    · rw [if_neg hbas, if_neg hbas]
      exact if_neg (by decide)
  have hlines : connectionLine :: (m.reread ssrcs names).generateSdpLines =
      connectionLine :: m.generateSdpLines := by
    rw [lines_eq_frontLines, lines_eq_frontLines, frontLines, frontLines, hcommon, hattributes,
      hbas]
    rfl
  rw [text_eq, text_eq, hlines]
  rfl

/-- **A media section that is built by calls has the text that the constructor's section has.** -/
theorem text_ofText (h : Built m) : ∃ m', ofText m.text = .ok m' ∧ m'.text = m.text := by
  have hprintable := h.printable
  obtain ⟨ssrcs, names, hlines⟩ := foldlM_generateSdpLines hprintable
  refine ⟨m.reread ssrcs names, ?_, text_reread hprintable ssrcs names⟩
  rw [ofText, ofMLine_text hprintable, linesOf_text hprintable]
  change (List.foldlM parseSdpLine m.fresh _ >>= _) = _
  rw [hlines]
  exact if_neg hprintable.mid.ne_nil

/-- The calls for a video with two RIDs. -/
def simulcastCalls : List Call :=
  [.addVideoCodec ⟨96, by decide⟩ (bytes "H264") (some (bytes "packetization-mode=1")),
    .addExtMap { id := ⟨1, by decide⟩, uri := bytes "urn:ietf:params:rtp-hdrext:sdes:mid" },
    .addSSRC 1234 (some (bytes "camera")) (some (bytes "stream")) none, .addRid (bytes "hi"),
    .addRid (bytes "lo"), .setBitrate ⟨3000, by decide⟩, .addAttribute (bytes "rtcp-rsize")]

theorem allowed_simulcastCalls : ∀ c ∈ simulcastCalls, c.Allowed := by
  have hline : ∀ text ∈ [bytes "H264", bytes "packetization-mode=1", bytes "camera",
      bytes "stream", bytes "hi", bytes "lo", bytes "rtcp-rsize",
      bytes "urn:ietf:params:rtp-hdrext:sdes:mid"], IsLine text := by
    refine fun text htext => isLine_of_text ?_
    revert text
    decide
  have hsome : ∀ {text : Text}, IsLine text → ∀ text' ∈ some text, IsLine text' := by
    rintro text htext _ ⟨⟩
    exact htext
  simp only [List.forall_mem_cons] at hline
  obtain ⟨hcodec, hprofile, hname, hstream, hhi, hlo, hattr, huri, -⟩ := hline
  rw [← List.append_nil (bytes "urn:ietf:params:rtp-hdrext:sdes:mid")] at huri
  simp only [simulcastCalls, List.forall_mem_cons]
  exact ⟨⟨hcodec, hsome hprofile⟩, huri, ⟨hsome hname, hsome hstream, fun _ h => by cases h⟩,
    hhi, hlo, trivial, ⟨hattr, by decide⟩, List.forall_mem_nil _⟩

theorem text_ofText_simulcast : ∃ start m',
    ofMLine (bytes "video 9 UDP/TLS/RTP/SAVPF") (bytes "video") .sendOnly = .ok start ∧
      ofText (simulcastCalls.foldl call start).text = .ok m' ∧
        m'.text = (simulcastCalls.foldl call start).text := by
  have hmid : IsLine (bytes "video") := isLine_of_text (by decide)
  obtain ⟨start, hstart⟩ : ∃ start,
      ofMLine (bytes "video 9 UDP/TLS/RTP/SAVPF") (bytes "video") .sendOnly = .ok start := ⟨_, rfl⟩
  obtain ⟨m', hread, htext⟩ :=
    text_ofText ((Built.ofMLine hmid hstart).foldl allowed_simulcastCalls)
  exact ⟨start, m', hstart, hread, htext⟩

end Media

end Sdp

end Rtc
