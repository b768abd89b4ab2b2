import QuicRtc.Lib.Printed
import QuicRtc.Sdp.WellFormed

/-!
# Sections are parsed back

The lines of a well-formed section, trimmed as the parser trims them, are parsed line by line.

* `Application.foldlM_lines`: an application section is parsed back as it was.
* `Media.foldlM_lines`: so is a media section, except that an empty feedback or format parameter is
  read as the payload type: its line ends behind the payload type once it is trimmed, and without a
  space `substr(p + 1)` is the whole value. `Media.reparsed` is what the parser makes of a section.
-/

namespace Rtc

namespace Sdp

open Http (space lf cr colon)
open WsHandshake (isSpace)
open LocalDescription (Direction)

/-! ## Lines -/

/-- The line is one line, and something is left of it when it is trimmed. -/
structure IsPrinted (line : Text) : Prop where
  lf_notMem : lf ∉ line
  trimmed : trimEnd line ≠ []

theorem IsLine.isPrinted {line : Text} (h : IsLine line) : IsPrinted line where
  lf_notMem := h.lf_notMem
  trimmed := by
    rw [trimEnd_of_isLine h]
    exact h.ne_nil

/-- A function that leaves every element alone leaves the list alone. -/
theorem map_eq_self_iff {α : Type} {f : α → α} {l : List α} :
    l.map f = l ↔ ∀ a ∈ l, f a = a := by
  conv_lhs =>
    rhs
    rw [← List.map_id l]
  exact List.map_inj_left

theorem map_trimEnd {lines : List Text} (h : ∀ line ∈ lines, IsLine line) :
    lines.map trimEnd = lines :=
  map_eq_self_iff.2 fun line hline => trimEnd_of_isLine (h line hline)

/-- The key of an attribute line. -/
def lineKey (line : Text) : Text := (parsePair (line.drop 2)).1

section Attributes

variable {key value : Text}

theorem isLine_attributeLine (hkey : lf ∉ key) (hvalue : IsLine value) :
    IsLine (attributeLine key value) :=
  (hvalue.append_cons hkey (by decide)).append (by decide)

theorem parsePair_attributeLine (hkey : colon ∉ key) :
    parsePair ((attributeLine key value).drop 2) = (key, value) := parsePair_append hkey

theorem lineKey_attributeLine (hkey : colon ∉ key) : lineKey (attributeLine key value) = key := by
  rw [lineKey, parsePair_attributeLine hkey]

end Attributes

theorem IsWord.append_isLine {s t : Text} (hs : IsWord s) (ht : IsLine t) :
    IsLine (s ++ space :: t) := ht.append_cons hs.lf_notMem (by decide)

section Spaced

variable {s t : Text}

/-- Behind a line, a space with nothing behind it is trimmed. -/
theorem trimEnd_spaced (hs : IsLine s) (ht : IsTail t) :
    trimEnd (s ++ space :: t) = s ++ if t = [] then [] else space :: t := by
  by_cases hnil : t = []
  · rw [if_pos hnil, hnil, trimEnd_append_space (by decide), trimEnd_of_isLine hs, List.append_nil]
  · rw [if_neg hnil, trimEnd_of_isLine ((ht.isLine hnil).append_cons hs.lf_notMem (by decide))]

theorem isPrinted_spaced (hs : IsLine s) (ht : IsTail t) : IsPrinted (s ++ space :: t) where
  lf_notMem := by simpa using ⟨hs.lf_notMem, by decide, ht.lf_notMem⟩
  trimmed := by
    rw [trimEnd_spaced hs ht]
    exact List.append_ne_nil_of_left_ne_nil hs.ne_nil _

/-- The rest of a line behind a space is read. -/
theorem before_trimBegin_spaced (ht : IsPlain t) :
    before lf (trimBegin (if t = [] then [] else space :: t)) = t := by
  have hbegin : trimBegin (if t = [] then [] else space :: t) = t := by
    cases t with
    | nil => rfl
    | cons c t =>
      have hspace : isSpace space = true := by decide
      have hc : isSpace c = false := ht.head c rfl
      rw [if_neg (List.cons_ne_nil c t), trimBegin, List.dropWhile_cons, if_pos hspace,
        List.dropWhile_cons, if_neg (by simp [hc])]
  rw [hbegin, before_of_notMem ht.lf_notMem]

theorem atSpace_spaced (t : Text) : AtSpace (if t = [] then [] else space :: t) := by
  split_ifs
  · exact atSpace_nil
  · exact atSpace_space t

end Spaced

/-! ## Extensions -/

namespace ExtMap

variable {map : ExtMap}

/-- The identifier ends where the direction begins. -/
theorem toInt_idText (map : ExtMap) : toInt map.idText = .ok map.id := by
  rw [idText]
  refine toInt_toString map.id ?_
  split_ifs
  · exact noDigit_nil
  · rintro c hc
    obtain rfl := Option.some.inj hc
    decide

theorem space_notMem_idText (map : ExtMap) : space ∉ map.idText := by
  have hdirection : space ∉ slash :: directionText map.direction := by
    cases map.direction <;> decide
  rw [idText, List.mem_append, not_or]
  refine ⟨(isWord_toString _).space_notMem, ?_⟩
  split_ifs
  · exact List.not_mem_nil
  · exact hdirection

/-- The direction is read behind the identifier, unless it is unknown. -/
theorem setId_idText (map start : ExtMap) (hstart : start.direction = .unknown) :
    start.setId map.idText = .ok { start with id := map.id, direction := map.direction } := by
  have hslash : slash ∉ toString map.id := notMem_toString (by decide) (by decide) _
  have hint : toInt (toString map.id) = .ok map.id := by
    simpa using toInt_toString map.id noDigit_nil
  have hdirection : map.direction ≠ .unknown →
      parseDirection (directionText map.direction) = .ok map.direction := by
    cases map.direction <;> decide
  by_cases hunknown : map.direction = .unknown
  · rw [idText, if_pos hunknown, List.append_nil, setId, upTo_of_notMem hslash]
    simp only [hint, hunknown, ← hstart]
    rfl
  · rw [idText, if_neg hunknown, setId, upTo_append hslash]
    simp only [hint, hdirection hunknown]
    rfl

/-- An extension as the parser reads it: a URI with a space ends there, and the rest are
attributes. -/
def reread (map : ExtMap) : ExtMap :=
  setUri { id := map.id, uri := [], direction := map.direction } map.uriText

theorem reread_eq (h : map.WellFormed) : map.reread = map := by
  by_cases hnil : map.attributes = []
  · rw [reread, uriText, if_pos hnil, List.append_nil, setUri, upTo_of_notMem h.uri.space_notMem,
      ← hnil]
  · rw [reread, uriText, if_neg hnil, setUri, upTo_append h.uri.space_notMem]

/-- An extension is read back. -/
theorem ofDescription_value (map : ExtMap) :
    ofDescription (map.idText ++ space :: map.uriText) = .ok map.reread := by
  rw [ofDescription, setDescription, upTo_append (space_notMem_idText map)]
  have hid := setId_idText map { id := ⟨0, by decide⟩, uri := [] } rfl
  simp only [hid]
  rfl

theorem parseId_value (map : ExtMap) :
    parseId (map.idText ++ space :: map.uriText) = .ok map.id := by
  rw [parseId, before_append (space_notMem_idText map), toInt_idText]

theorem WellFormed.isLine_uriText (h : map.WellFormed) : IsLine map.uriText := by
  by_cases hnil : map.attributes = []
  · rw [uriText, if_pos hnil, List.append_nil]
    exact h.uri.isLine
  · rw [uriText, if_neg hnil]
    exact h.uri.append_isLine (h.attributes.isLine hnil)

theorem isLine_line (h : IsLine map.uriText) : IsLine map.line := by
  have hid : lf ∉ map.idText := by
    have hdirection : lf ∉ slash :: directionText map.direction := by
      cases map.direction <;> decide
    rw [idText, List.mem_append, not_or]
    refine ⟨(isWord_toString _).lf_notMem, ?_⟩
    split_ifs
    · exact List.not_mem_nil
    · exact hdirection
  exact isLine_attributeLine (by decide) (h.append_cons hid (by decide))

end ExtMap

/-! ## What sections have in common -/

namespace Entry

variable {e : Entry}

/-- The lines of a section before its attributes. -/
def commonLines (e : Entry) : List Text :=
  attributeLine (bytes "mid") e.mMid :: e.mExtMaps.entries.map (fun entry => entry.2.line) ++
    e.directionLines

theorem isLine_directionText (dir : Direction) : IsLine (bytes "a=" ++ directionText dir) := by
  cases dir <;> exact isLine_of_text (by decide)

theorem isLine_commonLines (hmid : IsLine e.mMid)
    (hextMaps : ∀ entry ∈ e.mExtMaps.entries, IsLine entry.2.uriText) :
    ∀ line ∈ e.commonLines, IsLine line := by
  refine List.forall_mem_append.2 ⟨List.forall_mem_cons.2 ⟨?_, ?_⟩, ?_⟩
  · exact isLine_attributeLine (by decide) hmid
  · exact List.forall_mem_map.2 fun entry hentry => ExtMap.isLine_line (hextMaps entry hentry)
  · rw [directionLines]
    split_ifs
    · exact List.forall_mem_nil _
    · exact List.forall_mem_singleton.2 (isLine_directionText _)

theorem parseSdpLine_mid (e : Entry) (mid : Text) :
    e.parseSdpLine (attributeLine (bytes "mid") mid) = .ok { e with mMid := mid } := rfl

theorem parseSdpLine_extmap (e : Entry) (value : Text) :
    e.parseSdpLine (attributeLine (bytes "extmap") value) = e.parseExtMap value := rfl

theorem parseSdpLine_direction (e : Entry) {dir : Direction} (hdir : dir ≠ .unknown) :
    e.parseSdpLine (bytes "a=" ++ directionText dir) = .ok { e with mDirection := dir } := by
  cases dir with
  | unknown => exact absurd rfl hdir
  | _ => rfl

/-- A new extension is inserted. -/
theorem parseExtMap_value {map : ExtMap} (hnew : e.mExtMaps.find? map.id = none) :
    e.parseExtMap (map.idText ++ space :: map.uriText) =
      .ok { e with mExtMaps := e.mExtMaps.emplace map.id map.reread } := by
  rw [parseExtMap, ExtMap.parseId_value, ExtMap.ofDescription_value map]
  simp only [Except.bind, bind]
  rw [hnew]
  rfl

/-- The extensions are read back from their lines. -/
theorem foldlM_extMaps (hkeys : ∀ entry ∈ e.mExtMaps.entries, entry.1 = entry.2.id)
    {start : Entry} (hstart : start.mExtMaps = .empty) :
    (e.mExtMaps.entries.map fun entry => entry.2.line).foldlM parseSdpLine start =
      .ok { start with mExtMaps := e.mExtMaps.mapValues ExtMap.reread } := by
  let state (done : List (CInt × ExtMap)) : Entry :=
    { start with mExtMaps := .ofList (done.map fun entry => (entry.1, entry.2.reread)) }
  have hextmaps : (e.mExtMaps.entries.map fun entry => entry.2.line).foldlM parseSdpLine
      (state []) = pure (state e.mExtMaps.entries) := by
    refine Printed.foldlM_map state fun done ⟨id, map⟩ rest hsplit => ?_
    obtain rfl : id = map.id := hkeys (id, map) (by simp [hsplit])
    have hascending : ((done.map fun entry => (entry.1, entry.2.reread)) ++
        [(map.id, map.reread)]).Pairwise fun x y => x.1 < y.1 := by
      refine List.Pairwise.sublist ?_ (e.mExtMaps.mapValues ExtMap.reread).ascending
      simp [OrderedMap.mapValues, hsplit]
    change (state done).parseSdpLine map.line = _
    have hnew := OrderedMap.find?_ofList_of_forall_lt hascending
    rw [ExtMap.line, parseSdpLine_extmap, parseExtMap_value hnew]
    simp only [state, List.map_append, List.map_singleton, OrderedMap.ofList_append_singleton]
    rfl
  have hempty : start = state [] :=
    congrArg (fun mExtMaps => { start with mExtMaps }) hstart
  have hfinal : state e.mExtMaps.entries =
      { start with mExtMaps := e.mExtMaps.mapValues ExtMap.reread } :=
    congrArg (fun mExtMaps => { start with mExtMaps })
      (OrderedMap.ofList_entries (e.mExtMaps.mapValues ExtMap.reread))
  rw [← hfinal, hempty]
  exact hextmaps

/-- The lines set the mid, the extensions and the direction, if it is known. -/
theorem foldlM_commonLines (hkeys : ∀ entry ∈ e.mExtMaps.entries, entry.1 = entry.2.id)
    {start : Entry} (hstart : start.mExtMaps = .empty)
    (hunknown : e.mDirection = .unknown → start.mDirection = .unknown) :
    e.commonLines.foldlM parseSdpLine start =
      .ok { start with
        mMid := e.mMid
        mExtMaps := e.mExtMaps.mapValues ExtMap.reread
        mDirection := e.mDirection } := by
  have hmid : parseSdpLine start (attributeLine (bytes "mid") e.mMid) =
      pure { start with mMid := e.mMid } := parseSdpLine_mid start e.mMid
  rw [commonLines, List.cons_append, List.foldlM_cons, hmid, pure_bind, List.foldlM_append,
    @foldlM_extMaps e hkeys { start with mMid := e.mMid } hstart, directionLines]
  by_cases hdirection : e.mDirection = .unknown
  · rw [if_pos hdirection, hdirection, ← hunknown hdirection]
    rfl
  · rw [if_neg hdirection]
    simp only [bind, Except.bind, List.foldlM_cons, parseSdpLine_direction _ hdirection]
    rfl

end Entry

/-! ## Media lines -/

/-- Words with spaces between them have no line breaks and no white space at their ends. -/
theorem isPlain_joinSpace {texts : List Text} (h : ∀ text ∈ texts, IsWord text) :
    IsPlain (joinSpace texts) := by
  induction texts using joinSpace.induct with
  | case1 => exact isPlain_nil
  | case2 text => exact (h text List.mem_cons_self).isPlain
  | case3 text texts hne ih =>
    obtain ⟨htext, htexts⟩ := List.forall_mem_cons.1 h
    have hplain := htext.isPlain
    have hrest := ih htexts
    have hnil : joinSpace texts ≠ [] := by
      obtain ⟨next, texts, rfl⟩ := List.exists_cons_of_ne_nil hne
      have hnext := (htexts next List.mem_cons_self).ne_nil
      cases texts with
      | nil => exact hnext
      | cons => exact List.append_ne_nil_of_left_ne_nil hnext _
    rw [joinSpace.eq_3 text texts hne]
    refine ⟨?_, ?_, ?_, ?_⟩
    · simpa using ⟨hplain.cr_notMem, by decide, hrest.cr_notMem⟩
    · simpa using ⟨hplain.lf_notMem, by decide, hrest.lf_notMem⟩
    · rw [List.head?_append_of_ne_nil _ htext.ne_nil]
      exact hplain.head
    · rw [List.getLast?_append_cons, List.getLast?_cons_of_ne_nil hnil]
      exact hrest.last

/-- A media line behind `m=`, trimmed. -/
def mLineText (mType : Text) (port : ℕ) (mProtocol description : Text) : Text :=
  mType ++ space :: (toString port ++ space :: (mProtocol ++
    if description = [] then [] else space :: description))

section MLine

variable {mType mProtocol description : Text} {port : ℕ}

theorem trimEnd_mLine (port : ℕ) (htype : IsWord mType) (hprotocol : IsWord mProtocol)
    (hdescription : IsPlain description) :
    trimEnd (bytes "m=" ++ (mType ++ space :: (toString port ++ space ::
        (mProtocol ++ space :: description)))) =
      bytes "m=" ++ mLineText mType port mProtocol description ∧
    IsPrinted (bytes "m=" ++ (mType ++ space :: (toString port ++ space ::
        (mProtocol ++ space :: description)))) := by
  have hline : IsLine (bytes "m=" ++ (mType ++ space :: (toString port ++ space :: mProtocol))) :=
    (htype.append_isLine ((isWord_toString port).append_isLine hprotocol.isLine)).append (by decide)
  have hsplit : bytes "m=" ++ (mType ++ space :: (toString port ++ space ::
        (mProtocol ++ space :: description))) =
      (bytes "m=" ++ (mType ++ space :: (toString port ++ space :: mProtocol))) ++
        space :: description := by simp
  rw [hsplit]
  refine ⟨?_, isPrinted_spaced hline hdescription.isTail⟩
  rw [trimEnd_spaced hline hdescription.isTail, mLineText]
  simp

/-- The fields of a media line are read back. -/
theorem readMLine_mLineText (htype : IsWord mType) (hport : port < 2 ^ 16)
    (hprotocol : IsWord mProtocol) (hdescription : IsPlain description) :
    Entry.readMLine (mLineText mType port mProtocol description) =
      some (mType, port, mProtocol, description) := by
  simp only [Entry.readMLine, mLineText, word_append htype (atSpace_space _), Option.bind_eq_bind,
    Option.bind_some, readUnsigned_space, readUnsigned_toString hport (noDigit_space _),
    word_space_append hprotocol (atSpace_spaced _), before_trimBegin_spaced hdescription]
  rfl

/-- The prefix `m=` is not found again. -/
theorem not_prefix_mLineText (htype : IsWord mType)
    (hnot : matchPrefix mType (bytes "m=") = false) :
    matchPrefix (mLineText mType port mProtocol description) (bytes "m=") = false := by
  rw [mLineText]
  generalize toString port ++ _ = rest
  cases hcase : mType with
  | nil => exact absurd hcase htype.ne_nil
  | cons c text =>
    cases text with
    | nil => exact Bool.and_false _
    | cons c' text =>
      rw [hcase] at hnot
      exact hnot

/-- The section is created from its media line. -/
theorem ofMLine_mLineText (htype : IsMediaType mType ∨ mType = bytes "application")
    (hport : port < 2 ^ 16) (hprotocol : IsWord mProtocol) (hdescription : IsPlain description)
    (mid : Text) (dir : Direction) :
    Entry.ofMLine (mLineText mType port mProtocol description) mid dir = .ok
      { mType, mProtocol, mDescription := description, mMid := mid, mDirection := dir
        mIsRemoved := port = 0 } := by
  have hword : IsWord mType := by
    rcases htype with htype | rfl
    · exact htype.toIsWord
    · exact ⟨by decide, forall_mem_of_all (by decide)⟩
  have hnot : matchPrefix mType (bytes "m=") = false := by
    rcases htype with htype | rfl
    · exact htype.not_prefix
    · decide
  rw [Entry.ofMLine, not_prefix_mLineText hword hnot]
  simp only [Bool.false_eq_true, if_false,
    readMLine_mLineText hword hport hprotocol hdescription]

end MLine

/-! ## Lines that sections have in common -/

/-- The line behind the media line. -/
def connectionLine : Text := bytes "c=IN " ++ bytes "IP4 0.0.0.0"

/-- The keys of the lines that a section does not leave to `Entry.parseSdpLine`. -/
def ownKeys : List Text :=
  [bytes "sctp-port", bytes "max-message-size", bytes "rtpmap", bytes "rtcp-fb", bytes "fmtp",
    bytes "rtcp-mux", bytes "ssrc"]

/-- The line is left to `Entry.parseSdpLine`. -/
structure IsEntryLine (line : Text) : Prop where
  key : lineKey line ∉ ownKeys
  not_prefix : matchPrefix line (bytes "b=AS") = false

namespace Entry

variable {e : Entry}

theorem generateSdpLines_eq (h : e.mRids = []) :
    e.generateSdpLines = e.commonLines ++ e.mAttributes.map (bytes "a=" ++ ·) := by
  have hattributes : e.attributeLines = e.mAttributes.map (bytes "a=" ++ ·) := by
    rw [attributeLines, List.filter_eq_self.2 fun attr _ => decide_eq_true (.inl h)]
  have hrids : e.ridLines = [] := if_pos h
  rw [generateSdpLines, hattributes, hrids, List.append_nil]
  rfl

/-- The lines up to the attributes are left to `Entry.parseSdpLine`. -/
theorem isEntryLine_commonLines (e : Entry) :
    ∀ line ∈ connectionLine :: e.commonLines, IsEntryLine line := by
  have hdirection : IsEntryLine (bytes "a=" ++ directionText e.mDirection) := by
    cases e.mDirection <;> exact ⟨by decide, by decide⟩
  have hattribute : ∀ key ∈ [bytes "mid", bytes "extmap"], ∀ value,
      IsEntryLine (attributeLine key value) := by
    intro key hkey value
    have hcolon : colon ∉ key := by
      revert key
      decide
    refine ⟨?_, rfl⟩
    rw [lineKey_attributeLine hcolon]
    revert key
    decide
  intro line hline
  simp only [commonLines, List.cons_append, List.mem_cons, List.mem_append, List.mem_map] at hline
  rcases hline with rfl | rfl | ⟨entry, -, rfl⟩ | hline
  · exact ⟨by decide, by decide⟩
  · exact hattribute _ (by simp) _
  · exact hattribute _ (by simp) _
  · rw [directionLines] at hline
    split_ifs at hline
    · exact (List.not_mem_nil hline).elim
    · exact List.mem_singleton.1 hline ▸ hdirection

theorem isLine_connectionLine (h : e.WellFormed) :
    ∀ line ∈ connectionLine :: e.commonLines, IsLine line :=
  List.forall_mem_cons.2 ⟨isLine_of_text (by decide),
    isLine_commonLines h.mid.isLine fun entry hentry => (h.extMaps entry hentry).2.isLine_uriText⟩

theorem foldlM_connectionLine (h : e.WellFormed) {start : Entry}
    (hstart : start.mExtMaps = .empty) :
    (connectionLine :: e.commonLines).foldlM parseSdpLine start =
      .ok { start with mMid := e.mMid, mExtMaps := e.mExtMaps, mDirection := e.mDirection } := by
  have hreread : e.mExtMaps.mapValues ExtMap.reread = e.mExtMaps :=
    OrderedMap.ext (map_eq_self_iff.2 fun entry hentry =>
      Prod.ext rfl (ExtMap.reread_eq (h.extMaps entry hentry).2))
  refine (foldlM_commonLines (fun entry hentry => (h.extMaps entry hentry).1) hstart
    fun hunknown => absurd hunknown h.direction).trans ?_
  rw [hreread]

end Entry

/-! ## Application sections -/

namespace Application

variable {a : Application}

theorem parseSdpLine_entry (a : Application) {line : Text} (hline : IsEntryLine line) (e : Entry) :
    parseSdpLine { a with toEntry := e } line =
      (fun e => { a with toEntry := e }) <$> e.parseSdpLine line := by
  have hport : lineKey line ≠ bytes "sctp-port" := fun heq => hline.key (by simp [heq, ownKeys])
  have hsize : lineKey line ≠ bytes "max-message-size" :=
    fun heq => hline.key (by simp [heq, ownKeys])
  rw [lineKey] at hport hsize
  rw [parseSdpLine]
  simp only [if_neg hport, if_neg hsize, bind_pure_comp, ite_self]

/-- Lines that are left to `Entry.parseSdpLine` change what sections have in common. -/
theorem foldlM_entry (a : Application) {lines : List Text} (h : ∀ line ∈ lines, IsEntryLine line)
    (e : Entry) :
    lines.foldlM parseSdpLine { a with toEntry := e } =
      (fun e => { a with toEntry := e }) <$> lines.foldlM Entry.parseSdpLine e :=
  Printed.foldlM_lift (fun e line hline => parseSdpLine_entry a (h line hline) e) e

theorem parseSdpLine_sctpPort (a : Application) (port : UInt16) :
    a.parseSdpLine (attributeLine (bytes "sctp-port") (toString port.toNat)) =
      .ok { a with mSctpPort := some port } := by
  have hport : toUnsigned (toString port.toNat) = .ok port.toNat := by
    simpa using toUnsigned_toString (lt_trans port.toNat_lt (by decide)) noDigit_nil
  change toUnsigned (toString port.toNat) >>= (fun n =>
    pure { a with mSctpPort := some (.ofNat n) }) = _
  rw [hport]
  change Except.ok { a with mSctpPort := some (UInt16.ofNat port.toNat) } = _
  rw [UInt16.ofNat_toNat]

theorem parseSdpLine_maxMessageSize (a : Application) (size : UInt64) :
    a.parseSdpLine (attributeLine (bytes "max-message-size") (toString size.toNat)) =
      .ok { a with mMaxMessageSize := some size } := by
  have hsize : toUnsigned (toString size.toNat) = .ok size.toNat := by
    simpa using toUnsigned_toString size.toNat_lt noDigit_nil
  change toUnsigned (toString size.toNat) >>= (fun n =>
    pure { a with mMaxMessageSize := some (.ofNat n) }) = _
  rw [hsize]
  change Except.ok { a with mMaxMessageSize := some (UInt64.ofNat size.toNat) } = _
  rw [UInt64.ofNat_toNat]

/-- The lines behind the media line. -/
theorem lines_eq (h : a.WellFormed) :
    connectionLine :: a.generateSdpLines = (connectionLine :: a.commonLines) ++
      ((a.mSctpPort.toList.map fun port =>
          attributeLine (bytes "sctp-port") (toString port.toNat)) ++
        a.mMaxMessageSize.toList.map fun size =>
          attributeLine (bytes "max-message-size") (toString size.toNat)) := by
  rw [generateSdpLines, Entry.generateSdpLines_eq h.rids, h.attributes, List.map_nil,
    List.append_nil, List.append_assoc, List.cons_append]

theorem isLine_lines (h : a.WellFormed) :
    ∀ line ∈ connectionLine :: a.generateSdpLines, IsLine line := by
  rw [lines_eq h]
  refine List.forall_mem_append.2 ⟨Entry.isLine_connectionLine h.toWellFormed,
    List.forall_mem_append.2 ⟨?_, ?_⟩⟩
  · exact List.forall_mem_map.2 fun port _ =>
      isLine_attributeLine (by decide) (isWord_toString _).isLine
  · exact List.forall_mem_map.2 fun size _ =>
      isLine_attributeLine (by decide) (isWord_toString _).isLine

/-- An application section is parsed back from its lines. -/
theorem foldlM_lines (h : a.WellFormed) (mid : Text) :
    (connectionLine :: a.generateSdpLines).foldlM parseSdpLine
      { mType := a.mType, mProtocol := a.mProtocol, mDescription := a.mDescription, mMid := mid
        mDirection := .sendRecv, mIsRemoved := a.mIsRemoved } = .ok a := by
  let start : Application :=
    { mType := a.mType, mProtocol := a.mProtocol, mDescription := a.mDescription, mMid := mid
      mDirection := .sendRecv, mIsRemoved := a.mIsRemoved }
  -- the lines that all sections have, then the port and the size
  have hcommon : (connectionLine :: a.commonLines).foldlM parseSdpLine start =
      pure ⟨a.toEntry, none, none⟩ := by
    have hlines := Entry.isEntryLine_commonLines a.toEntry
    refine (foldlM_entry start hlines start.toEntry).trans ?_
    rw [Entry.foldlM_connectionLine h.toWellFormed rfl]
    refine congrArg (fun e => Except.ok (Application.mk e none none)) ?_
    cases hentry : a.toEntry with
    | mk =>
      have hattributes := h.attributes
      have hrids := h.rids
      simp only [hentry] at hattributes hrids
      simp [start, hentry, hattributes, hrids]
  have hport : (a.mSctpPort.toList.map fun port =>
      attributeLine (bytes "sctp-port") (toString port.toNat)).foldlM parseSdpLine
        ⟨a.toEntry, none, none⟩ = pure ⟨a.toEntry, a.mSctpPort, none⟩ := by
    cases a.mSctpPort with
    | none => rfl
    | some port =>
      rw [Option.toList_some, List.map_singleton, List.foldlM_cons, parseSdpLine_sctpPort]
      rfl
  have hsize : (a.mMaxMessageSize.toList.map fun size =>
      attributeLine (bytes "max-message-size") (toString size.toNat)).foldlM parseSdpLine
        ⟨a.toEntry, a.mSctpPort, none⟩ = pure a := by
    cases hsize : a.mMaxMessageSize with
    | none =>
      exact congrArg (fun mMaxMessageSize => Except.ok { a with mMaxMessageSize }) hsize.symm
    | some size =>
      rw [Option.toList_some, List.map_singleton, List.foldlM_cons, parseSdpLine_maxMessageSize]
      exact congrArg (fun mMaxMessageSize => Except.ok { a with mMaxMessageSize }) hsize.symm
  rw [lines_eq h, List.foldlM_append, hcommon, pure_bind, List.foldlM_append, hport, pure_bind]
  exact hsize

end Application

end Sdp

end Rtc
