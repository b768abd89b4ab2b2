import QuicRtc.Sdp.DefaultCandidate
import QuicRtc.Sdp.Media

/-!
# Descriptions are parsed back

The text that `generateSdp` prints for a description that was built by calls is parsed by the
constructor.

* `Description.Parser.parseAttribute_cases`: an attribute is taken by the session, and then changes
  neither the sections nor the attributes, or it is left.
* `Description.foldlM_session`, `Description.foldlM_entryLines`: the parser takes the lines of the
  session, and then those of one section after the other.
* `Description.parse_credentials`: from the lines with the credentials it makes the description that
  the calls start with.
* `Description.parse_generateSdp`: the parser accepts the text, and `Description.reparsed` is what
  it makes of it.
-/

namespace Rtc

namespace Sdp

open Http (space lf cr colon crlf)
open WsHandshake (isSpace)
open LocalDescription (Direction)

/-! ## Sections -/

/-- The keys that the session takes before the sections. -/
def sessionKeys : List Text :=
  [bytes "setup", bytes "fingerprint", bytes "ice-ufrag", bytes "ice-pwd", bytes "ice-options",
    bytes "candidate", bytes "end-of-candidates"]

/-- The line is left to the current section. -/
structure IsSectionLine (line : Text) : Prop where
  not_media : matchPrefix line (bytes "m=") = false
  not_origin : matchPrefix line (bytes "o=") = false
  key : lineKey line ∉ sessionKeys

/-- The keys of the attributes that sections print with a value. -/
def sectionKeys : List Text :=
  [bytes "mid", bytes "extmap", bytes "sctp-port", bytes "max-message-size", bytes "ssrc",
    bytes "msid", bytes "rtpmap", bytes "rtcp-fb", bytes "fmtp"]

theorem isSectionLine_attributeLine {key : Text} (hkey : key ∈ sectionKeys) (value : Text) :
    IsSectionLine (attributeLine key value) := by
  have hcolon : colon ∉ key := by
    revert key
    decide
  refine ⟨rfl, rfl, ?_⟩
  rw [lineKey_attributeLine hcolon]
  revert key
  decide

theorem isSectionLine_connectionLine : IsSectionLine connectionLine :=
  ⟨by decide, by decide, by decide⟩

theorem Entry.isSectionLine_commonLines {e : Entry} (h : e.WellFormed) :
    ∀ line ∈ e.commonLines, IsSectionLine line := by
  have hdirection : IsSectionLine (bytes "a=" ++ directionText e.mDirection) := by
    cases e.mDirection <;> exact ⟨by decide, by decide, by decide⟩
  intro line hline
  simp only [commonLines, List.cons_append, List.mem_cons, List.mem_append, List.mem_map] at hline
  rcases hline with rfl | ⟨entry, -, rfl⟩ | hline
  · exact isSectionLine_attributeLine (by decide) _
  · exact isSectionLine_attributeLine (by decide) _
  · rw [directionLines, if_neg h.direction, List.mem_singleton] at hline
    exact hline ▸ hdirection

theorem Application.isSectionLine_lines {a : Application} (h : a.WellFormed) :
    ∀ line ∈ connectionLine :: a.generateSdpLines, IsSectionLine line := by
  rw [lines_eq h]
  refine List.forall_mem_append.2 ⟨List.forall_mem_cons.2 ⟨isSectionLine_connectionLine, ?_⟩,
    List.forall_mem_append.2 ⟨?_, ?_⟩⟩
  · exact Entry.isSectionLine_commonLines h.toWellFormed
  · exact List.forall_mem_map.2 fun port _ => isSectionLine_attributeLine (by decide) _
  · exact List.forall_mem_map.2 fun size _ => isSectionLine_attributeLine (by decide) _

theorem Ssrc.isSectionLine_attributes (s : Ssrc) :
    ∀ attr ∈ s.attributes, IsSectionLine (bytes "a=" ++ attr) := by
  have hssrc : ∀ value, IsSectionLine (bytes "a=" ++ (bytes "ssrc:" ++ value)) := fun value =>
    isSectionLine_attributeLine (by decide : bytes "ssrc" ∈ sectionKeys) value
  have hmsid : ∀ value, IsSectionLine (bytes "a=" ++ (bytes "msid:" ++ value)) := fun value =>
    isSectionLine_attributeLine (by decide : bytes "msid" ∈ sectionKeys) value
  rw [attributes_eq]
  refine List.forall_mem_cons.2 ⟨hssrc _, ?_⟩
  cases s.msid with
  | none => exact fun _ hmem => (List.not_mem_nil hmem).elim
  | some msid =>
    rw [Option.elim_some, List.forall_mem_cons, List.forall_mem_singleton]
    exact ⟨hssrc _, hmsid _⟩

theorem RtpMap.isSectionLine_lines {map : RtpMap} (h : map.Printable) :
    ∀ line ∈ map.lines.map trimEnd, IsSectionLine line := by
  rw [List.forall_mem_map]
  refine List.forall_mem_append.2 ⟨List.forall_mem_cons.2 ⟨?_, ?_⟩, ?_⟩
  · rw [trimEnd_of_isLine (isLine_line h)]
    exact isSectionLine_attributeLine (by decide) _
  · refine List.forall_mem_map.2 fun fb hfb => ?_
    rw [(trimEnd_parameterLine (by decide) _ (h.rtcpFbs fb hfb)).1]
    exact isSectionLine_attributeLine (by decide) _
  · refine List.forall_mem_map.2 fun fmtp hfmtp => ?_
    rw [(trimEnd_parameterLine (by decide) _ (h.fmtps fmtp hfmtp)).1]
    exact isSectionLine_attributeLine (by decide) _

theorem Media.isSectionLine_lines {m : Media} (h : m.WellFormed) :
    ∀ line ∈ (connectionLine :: m.generateSdpLines).map trimEnd, IsSectionLine line := by
  obtain ⟨ssrcs, hssrcs⟩ := h.ssrcs
  rw [lines_eq h, List.map_append, map_trimEnd (Entry.isLine_connectionLine h.toWellFormed),
    List.map_append, map_trimEnd (isLine_attributes h), List.map_cons]
  refine List.forall_mem_append.2 ⟨List.forall_mem_cons.2 ⟨isSectionLine_connectionLine, ?_⟩,
    List.forall_mem_append.2 ⟨?_, List.forall_mem_cons.2 ⟨?_, ?_⟩⟩⟩
  · exact Entry.isSectionLine_commonLines h.toWellFormed
  · rw [List.forall_mem_map, hssrcs.attributes]
    intro attr hattr
    obtain ⟨s, -, hattr⟩ := List.mem_flatMap.1 hattr
    exact s.isSectionLine_attributes attr hattr
  · exact ⟨by decide, by decide, by decide⟩
  · rw [List.map_flatMap]
    intro line hline
    obtain ⟨entry, hentry, hline⟩ := List.mem_flatMap.1 hline
    exact RtpMap.isSectionLine_lines (h.printable entry hentry).2 line hline

namespace Section

variable {s : Section}

/-- A section as the parser reads it. -/
def reparsed : Section → Section
  | .application a => .application a
  | .media m => .media m.reparsed

/-- A section as the parser creates it from its media line. -/
def created (mid : Text) : Section → Section
  | .application a => .application
    { mType := a.mType, mProtocol := a.mProtocol, mDescription := a.mDescription, mMid := mid
      mDirection := .sendRecv, mIsRemoved := a.mIsRemoved }
  | .media m => .media
    { mType := m.mType, mProtocol := m.mProtocol, mDescription := m.description, mMid := mid
      mDirection := .unknown, mIsRemoved := m.mIsRemoved
      mOrderedPayloadTypes := m.mOrderedPayloadTypes }

theorem isSectionLine_lines (h : s.WellFormed) :
    ∀ line ∈ (connectionLine :: s.generateSdpLines).map trimEnd, IsSectionLine line := by
  cases s with
  | application a =>
    change ∀ line ∈ (connectionLine :: a.generateSdpLines).map trimEnd, IsSectionLine line
    rw [map_trimEnd (Application.isLine_lines h)]
    exact Application.isSectionLine_lines h
  | media m => exact Media.isSectionLine_lines h

/-- The parts of the media line. -/
theorem words (h : s.WellFormed) :
    IsWord s.entry.mType ∧ IsWord s.entry.mProtocol ∧ IsPlain s.description := by
  cases s with
  | application a =>
    have htype : IsWord a.mType := by
      rw [h.type]
      exact ⟨by decide, forall_mem_of_all (by decide)⟩
    have hplain : IsPlain a.mDescription := by
      rw [h.description]
      exact (isLine_of_text (by decide)).isPlain (by decide) (by decide)
    exact ⟨htype, h.protocol, hplain⟩
  | media m => exact ⟨h.type.toIsWord, h.protocol, m.isPlain_description⟩

theorem isPrinted_lines (h : s.WellFormed) :
    ∀ line ∈ connectionLine :: s.generateSdpLines, IsPrinted line := by
  cases s with
  | application a => exact fun line hline => (Application.isLine_lines h line hline).isPrinted
  | media m => exact Media.isPrinted_lines h

/-- A section is parsed back from its lines. -/
theorem foldlM_lines (h : s.WellFormed) (mid : Text) :
    ((connectionLine :: s.generateSdpLines).map trimEnd).foldlM (fun s line => parseSdpLine line s)
      (s.created mid) = .ok s.reparsed := by
  cases s with
  | application a =>
    have hlines := Application.foldlM_lines h mid
    rw [← map_trimEnd (Application.isLine_lines h)] at hlines
    refine (Printed.foldlM_lift (f := Section.application) ?_ _).trans (congrArg (_ <$> ·) hlines)
    exact fun a line _ => bind_pure_comp _ _
  | media m =>
    refine (Printed.foldlM_lift (f := Section.media) ?_ _).trans
      (congrArg (_ <$> ·) (Media.foldlM_lines h mid))
    exact fun m line _ => bind_pure_comp _ _

end Section

namespace Description

variable {d : Description}

/-! ## An attribute, at the level of the session -/

/-- What the session does with an attribute that it takes, with this value. -/
structure Taken (d d' : Description) (value : Text) : Prop where
  mEntries : d'.mEntries = d.mEntries
  mAttributes : d'.mAttributes = d.mAttributes
  mUsername : d'.mUsername = d.mUsername
  mSessionId : d'.mSessionId = d.mSessionId
  mIceOptions : d'.mIceOptions = d.mIceOptions ∨ d'.mIceOptions = Utils.explode value comma
  mFingerprint : d'.mFingerprint = d.mFingerprint ∨
    ∃ f : CertificateFingerprint, f.isValid = true ∧
      d'.mFingerprint = some { f with value := f.value.map toUpper }

namespace Taken

variable {d d' : Description} {value : Text}

theorem refl (d : Description) (value : Text) : Taken d d value :=
  ⟨rfl, rfl, rfl, rfl, .inl rfl, .inl rfl⟩

theorem addCandidate (d : Description) (candidate : Candidate) (value : Text) :
    Taken d (d.addCandidate candidate) value := by
  rw [Description.addCandidate]
  split_ifs
  · exact refl d value
  · exact ⟨rfl, rfl, rfl, rfl, .inl rfl, .inl rfl⟩

theorem parseFingerprint (h : Parser.parseFingerprint d value = .ok d') : Taken d d' value := by
  rw [Parser.parseFingerprint] at h
  split at h
  · split at h
    · rw [setFingerprint] at h
      split at h
      · next hvalid =>
        obtain rfl := Except.ok.inj h
        exact ⟨rfl, rfl, rfl, rfl, .inl rfl, .inr ⟨_, hvalid, rfl⟩⟩
      · cases h
    · obtain rfl := Except.ok.inj h
      exact refl d value
  · obtain rfl := Except.ok.inj h
    exact refl d value

end Taken

/-! ## The lines of a section, at the level of the session -/

namespace Parser

/-- Other keys than those of the session are left to the sections, if there are any. -/
theorem parseAttribute_other (d : Description) (index : ℤ) {line : Text}
    (hline : lineKey line ∉ sessionKeys) : parseAttribute d index line = parseOther d line := by
  have hkey : ∀ key ∈ sessionKeys, lineKey line ≠ key := fun key hmem heq => hline (heq ▸ hmem)
  rw [lineKey] at hkey
  rw [parseAttribute]
  simp only [if_neg (hkey (bytes "setup") (by decide)),
    if_neg (hkey (bytes "fingerprint") (by decide)), if_neg (hkey (bytes "ice-ufrag") (by decide)),
    if_neg (hkey (bytes "ice-pwd") (by decide)), if_neg (hkey (bytes "ice-options") (by decide)),
    if_neg (hkey (bytes "candidate") (by decide)),
    if_neg (hkey (bytes "end-of-candidates") (by decide))]

/-- An attribute is taken by the session, or it is left to the current section. -/
theorem parseAttribute_cases {d d' : Description} {index : ℤ} {line : Text}
    (h : parseAttribute d index line = .ok d') :
    (lineKey line ∈ sessionKeys ∧ Taken d d' (parsePair (line.drop 2)).2) ∨
      (lineKey line ∉ sessionKeys ∧ parseOther d line = .ok d') := by
  by_cases hkey : lineKey line ∈ sessionKeys
  · refine .inl ⟨hkey, ?_⟩
    rw [parseAttribute] at h
    dsimp only at h
    split at h
    · -- `setup`
      obtain rfl := Except.ok.inj h
      exact ⟨rfl, rfl, rfl, rfl, .inl rfl, .inl rfl⟩
    split at h
    · -- `fingerprint`
      split at h
      · exact .parseFingerprint h
      · obtain rfl := Except.ok.inj h
        exact .refl _ _
    split at h
    · -- `ice-ufrag`
      obtain rfl := Except.ok.inj h
      split
      · exact ⟨rfl, rfl, rfl, rfl, .inl rfl, .inl rfl⟩
      · exact .refl _ _
    split at h
    · -- `ice-pwd`
      obtain rfl := Except.ok.inj h
      split
      · exact ⟨rfl, rfl, rfl, rfl, .inl rfl, .inl rfl⟩
      · exact .refl _ _
    split at h
    · -- `ice-options`
      obtain rfl := Except.ok.inj h
      split
      · exact ⟨rfl, rfl, rfl, rfl, .inr rfl, .inl rfl⟩
      · exact .refl _ _
    split at h
    · -- `candidate`
      obtain ⟨candidate, -, h⟩ := bind_eq_ok.1 h
      obtain rfl := Except.ok.inj h
      exact .addCandidate _ _ _
    split at h
    · -- `end-of-candidates`
      obtain rfl := Except.ok.inj h
      exact ⟨rfl, rfl, rfl, rfl, .inl rfl, .inl rfl⟩
    · next hsetup hfingerprint hufrag hpwd hoptions hcandidate hend =>
      have hnone : lineKey line ∉ sessionKeys := by
        simp only [sessionKeys, List.mem_cons, List.not_mem_nil, or_false, not_or]
        exact ⟨hsetup, hfingerprint, hufrag, hpwd, hoptions, hcandidate, hend⟩
      exact absurd hkey hnone
  · exact .inr ⟨hkey, parseAttribute_other d index hkey ▸ h⟩

/-- A line of a section is left to the section. -/
theorem parseLine_section (d : Description) (entries : List Section) (index : ℤ) {line : Text}
    (hline : IsSectionLine line) (s : Section) :
    parseLine { description := { d with mEntries := entries ++ [s] }, index } line =
      (fun s => { description := { d with mEntries := entries ++ [s] }, index }) <$>
        s.parseSdpLine line := by
  have hcurrent : parseCurrent { d with mEntries := entries ++ [s] } line =
      (fun s => { d with mEntries := entries ++ [s] }) <$> s.parseSdpLine line := by
    simp [parseCurrent]
  have hattribute : parseAttribute { d with mEntries := entries ++ [s] } index line =
      parseCurrent { d with mEntries := entries ++ [s] } line := by
    rw [parseAttribute_other _ _ hline.key]
    exact if_neg (List.append_ne_nil_of_right_ne_nil _ (List.cons_ne_nil _ _))
  rw [parseLine, hline.not_media, hline.not_origin, hattribute, hcurrent]
  simp

/-- The lines of a section are left to the section. -/
theorem foldlM_section (d : Description) (entries : List Section) (index : ℤ) {s : Section}
    (h : s.WellFormed) (mid : Text) :
    ((connectionLine :: s.generateSdpLines).map trimEnd).foldlM parseLine
        { description := { d with mEntries := entries ++ [s.created mid] }, index } =
      .ok { description := { d with mEntries := entries ++ [s.reparsed] }, index } := by
  have hlines := Section.isSectionLine_lines h
  refine (Printed.foldlM_lift
    (fun s' line hline => parseLine_section d entries index (hlines line hline) s') _).trans ?_
  rw [Section.foldlM_lines h]
  rfl

/-- The text of a section behind `m=`. -/
def mLineOf (s : Section) : Text :=
  mLineText s.entry.mType (if s.entry.mIsRemoved then 0 else 9) s.entry.mProtocol s.description

theorem ofMLine_mLineOf {s : Section} (h : s.WellFormed) (mid : Text) (dir : Direction) :
    Entry.ofMLine (mLineOf s) mid dir = .ok
      { mType := s.entry.mType, mProtocol := s.entry.mProtocol, mDescription := s.description
        mMid := mid, mDirection := dir, mIsRemoved := s.entry.mIsRemoved } := by
  have hport : (if s.entry.mIsRemoved then 0 else 9) < 2 ^ 16 := by split_ifs <;> decide
  have hremoved : decide ((if s.entry.mIsRemoved then 0 else 9) = 0) = s.entry.mIsRemoved := by
    cases s.entry.mIsRemoved <;> rfl
  have htype : IsMediaType s.entry.mType ∨ s.entry.mType = bytes "application" := by
    cases s with
    | application a => exact .inr h.type
    | media m => exact .inl h.type
  obtain ⟨-, hprotocol, hplain⟩ := Section.words h
  rw [mLineOf, ofMLine_mLineText htype hport hprotocol hplain, hremoved]

theorem createEntry_mLine {s : Section} (h : s.WellFormed)
    (hentries : s.isApplication = true → d.mEntries.countP Section.isApplication = 0) (mid : Text) :
    d.createEntry (mLineOf s) mid .unknown = .ok (d.addSection (s.created mid)) := by
  have hbefore : before space (mLineOf s) = s.entry.mType :=
    before_append (Section.words h).1.space_notMem
  rw [createEntry, hbefore]
  cases s with
  | application a =>
    have hkept : d.removeApplication = d := by
      rw [removeApplication, List.eraseP_of_forall_not]
      exact List.countP_eq_zero.1 (hentries rfl)
    refine (if_pos h.type).trans ?_
    rw [Application.ofMLine, ofMLine_mLineOf h, hkept]
    rfl
  | media m =>
    have hread : Media.readPayloadTypes (Section.media m).description = m.mOrderedPayloadTypes :=
      m.readPayloadTypes_description
    refine (if_neg h.type.ne_application).trans ?_
    rw [Media.ofMLine, ofMLine_mLineOf h]
    simp only [bind, Except.bind, hread]
    rfl

/-- The section is created from its media line. -/
theorem parseLine_mLine (p : Parser) {s : Section} (h : s.WellFormed)
    (hentries : s.isApplication = true → p.description.mEntries.countP Section.isApplication = 0) :
    p.parseLine (trimEnd (s.mLine 9)) = .ok
      { description := p.description.addSection (s.created (toString (p.index + 1)))
        index := p.index + 1 } ∧ IsPrinted (s.mLine 9) := by
  obtain ⟨htype, hprotocol, hplain⟩ := Section.words h
  obtain ⟨htrim, hprinted⟩ :=
    trimEnd_mLine (if s.entry.mIsRemoved then 0 else 9) htype hprotocol hplain
  refine ⟨?_, hprinted⟩
  have hline : trimEnd (s.mLine 9) = bytes "m=" ++ mLineOf s := htrim
  have hparse : p.parseLine (bytes "m=" ++ mLineOf s) =
      p.description.createEntry (mLineOf s) (toString (p.index + 1)) .unknown >>=
        fun description => pure { description, index := p.index + 1 } := rfl
  rw [hline, hparse, createEntry_mLine h hentries]
  rfl

/-! ### Attributes of the session -/

theorem parseLine_setup (d : Description) (index : ℤ) (role : Role) :
    parseLine { description := d, index } (attributeLine (bytes "setup") (roleText role)) =
      .ok { description := { d with mRole := role }, index } := by
  cases role <;> rfl

theorem parseLine_ufrag (d : Description) (index : ℤ) (ufrag : Text) :
    parseLine { description := d, index } (attributeLine (bytes "ice-ufrag") ufrag) =
      .ok
        { description :=
            if d.mIceUfrag = none ∨ index = 0 then { d with mIceUfrag := some ufrag } else d
          index } := rfl

theorem parseLine_pwd (d : Description) (index : ℤ) (pwd : Text) :
    parseLine { description := d, index } (attributeLine (bytes "ice-pwd") pwd) =
      .ok
        { description := if d.mIcePwd = none ∨ index = 0 then { d with mIcePwd := some pwd } else d
          index } := rfl

theorem parseLine_candidate (d : Description) (index : ℤ) {c : Candidate} (hc : c.WellFormed) :
    parseLine { description := d, index } c.line =
      .ok { description := d.addCandidate c, index } := by
  have hparse : parseLine { description := d, index } c.line =
      Candidate.ofText c.candidate >>= fun candidate =>
        pure { description := d.addCandidate candidate, index } := by
    change (Candidate.ofText c.candidate >>= fun candidate => pure (d.addCandidate candidate)) >>=
      _ = _
    rw [bind_assoc]
    rfl
  rw [hparse, Candidate.ofText_candidate hc]
  rfl

/-- Candidates that differ are all added. -/
theorem foldlM_candidates (d : Description) (index : ℤ) {candidates : List Candidate}
    (h : ∀ c ∈ candidates, c.WellFormed)
    (hdistinct : candidates.Pairwise fun c other => c.same other = false) :
    (candidates.map Candidate.line).foldlM parseLine
        { description := { d with mCandidates := [] }, index } =
      .ok { description := { d with mCandidates := candidates }, index } := by
  refine Printed.foldlM_map
    (fun done => { description := { d with mCandidates := done }, index : Parser })
    fun done c rest hsplit => ?_
  have hnew : hasCandidate { d with mCandidates := done } c = false := by
    rw [hasCandidate, List.any_eq_false]
    intro other hother
    rw [hsplit] at hdistinct
    simp [(List.pairwise_append.1 hdistinct).2.2 other hother c List.mem_cons_self]
  rw [parseLine_candidate _ _ (h c (by simp [hsplit])), addCandidate, hnew]
  rfl

/-- A credential that was not known is taken, and a known one is the same. -/
theorem foldlM_credential {key : Text} {x : Description} {index : ℤ} {known : Option Text}
    (set : Option Text → Description) (hset : set known = x)
    (hparse : ∀ text, parseLine { description := x, index } (attributeLine key text) =
      .ok { description := if known = none ∨ index = 0 then set (some text) else x, index })
    (value : Option Text) (h : known = none ∨ known = value) :
    (value.toList.map fun text => attributeLine key text).foldlM parseLine
        { description := x, index } = .ok { description := set value, index } := by
  cases value with
  | none =>
    obtain rfl : known = none := h.elim id id
    rw [hset]
    rfl
  | some text =>
    rw [Option.toList_some, List.map_singleton, List.foldlM_cons, hparse]
    split_ifs with hfirst
    · rfl
    · -- the description has this credential already
      obtain rfl : known = some text := h.resolve_left fun hnone => hfirst (.inl hnone)
      rw [hset]
      rfl

theorem foldlM_ufrag (x : Description) (index : ℤ) (ufrag : Option Text)
    (h : x.mIceUfrag = none ∨ x.mIceUfrag = ufrag) :
    (ufrag.toList.map fun ufrag => attributeLine (bytes "ice-ufrag") ufrag).foldlM parseLine
        { description := x, index } =
      .ok { description := { x with mIceUfrag := ufrag }, index } :=
  foldlM_credential (fun mIceUfrag => { x with mIceUfrag }) rfl (parseLine_ufrag x index) ufrag h

theorem foldlM_pwd (x : Description) (index : ℤ) (pwd : Option Text)
    (h : x.mIcePwd = none ∨ x.mIcePwd = pwd) :
    (pwd.toList.map fun pwd => attributeLine (bytes "ice-pwd") pwd).foldlM parseLine
        { description := x, index } =
      .ok { description := { x with mIcePwd := pwd }, index } :=
  foldlM_credential (fun mIcePwd => { x with mIcePwd }) rfl (parseLine_pwd x index) pwd h

/-- The lines behind each section set the role and the credentials. -/
theorem foldlM_transportLines (d x : Description) (index : ℤ)
    (hufrag : x.mIceUfrag = none ∨ x.mIceUfrag = d.mIceUfrag)
    (hpwd : x.mIcePwd = none ∨ x.mIcePwd = d.mIcePwd) :
    d.transportLines.foldlM parseLine { description := x, index } = .ok
      { description :=
          { x with mRole := d.mRole, mIceUfrag := d.mIceUfrag, mIcePwd := d.mIcePwd }
        index } := by
  have hrole := parseLine_setup x index d.mRole
  have hufrags := foldlM_ufrag { x with mRole := d.mRole } index _ hufrag
  have hpwds := foldlM_pwd { x with mRole := d.mRole, mIceUfrag := d.mIceUfrag } index _ hpwd
  rw [transportLines, List.foldlM_cons, hrole]
  change List.foldlM parseLine _ _ = _
  rw [List.foldlM_append, hufrags]
  exact hpwds

/-- The candidates are added, and the end of them is noted. -/
theorem foldlM_candidateLines (h : d.WellFormed) (x : Description) (index : ℤ)
    (hcandidates : x.mCandidates = []) (hended : x.mEnded = false) :
    d.candidateLines.foldlM parseLine { description := x, index } = .ok
      { description := { x with mCandidates := d.mCandidates, mEnded := d.mEnded }, index } := by
  have hx : x = { x with mCandidates := [], mEnded := false } := by
    rw [← hcandidates, ← hended]
  have hfold := foldlM_candidates { x with mEnded := false } index h.candidates h.distinct
  rw [candidateLines, List.foldlM_append]
  conv_lhs => rw [hx, hfold]
  change List.foldlM parseLine _ _ = _
  cases d.mEnded <;> rfl

end Parser

/-! ### All sections -/

/-- No candidate is resolved, so that every section is printed with the default address. -/
theorem addrPort_eq (h : d.WellFormed) : d.addrPort = (bytes "IP4 0.0.0.0", 9) := by
  refine addrPort_of_unresolved fun c hc => ?_
  have hmem : c ∈ d.mCandidates := (List.mem_filter.1 (List.mem_of_head? hc)).1
  rw [Candidate.isResolved, (h.candidates c hmem).unresolved]
  rfl

theorem isLine_transportLines (h : d.WellFormed) : ∀ line ∈ d.transportLines, IsLine line := by
  have hrole : IsLine (roleText d.mRole) := by
    cases d.mRole <;> exact isLine_of_text (by decide)
  refine List.forall_mem_cons.2 ⟨isLine_attributeLine (by decide) hrole,
    List.forall_mem_append.2 ⟨?_, ?_⟩⟩
  · exact List.forall_mem_map.2 fun ufrag hufrag =>
      isLine_attributeLine (by decide) (h.iceUfrag ufrag (Option.mem_toList.1 hufrag)).isLine
  · exact List.forall_mem_map.2 fun pwd hpwd =>
      isLine_attributeLine (by decide) (h.icePwd pwd (Option.mem_toList.1 hpwd)).isLine

theorem isLine_candidateLines (h : d.WellFormed) : ∀ line ∈ d.candidateLines, IsLine line := by
  refine List.forall_mem_append.2 ⟨?_, ?_⟩
  · exact List.forall_mem_map.2 fun c hc => Candidate.isLine_line (h.candidates c hc)
  · split_ifs
    · rw [List.forall_mem_singleton]
      exact isLine_of_text (by decide)
    · exact fun _ hmem => (List.not_mem_nil hmem).elim

/-- The parser when it has read the sections `done` of a description, after the session `x`. -/
def afterSections (d x : Description) (done : List Section) : Parser where
  description :=
    { x with
      mRole := if done = [] then x.mRole else d.mRole
      mIceUfrag := if done = [] then none else d.mIceUfrag
      mIcePwd := if done = [] then none else d.mIcePwd
      mEntries := done.map Section.reparsed
      mCandidates := if done.all (·.entry.mIsRemoved) then [] else d.mCandidates
      mEnded := if done.all (·.entry.mIsRemoved) then false else d.mEnded }
  index := done.length - 1

/-- The lines of one more section. -/
theorem foldlM_entryLine (h : d.WellFormed) (x : Description) {done rest : List Section}
    {s : Section} (hsplit : d.mEntries = done ++ s :: rest) :
    ((s.generateSdp d.addrPort.1 d.addrPort.2 ++ d.transportLines ++
        if !s.entry.mIsRemoved && done.all (·.entry.mIsRemoved) then d.candidateLines
        else []).map trimEnd).foldlM Parser.parseLine (afterSections d x done) =
      .ok (afterSections d x (done ++ [s])) := by
  have hs : s.WellFormed := h.sections s (by simp [hsplit])
  have hone : s.isApplication = true →
      (done.map Section.reparsed).countP Section.isApplication = 0 := by
    intro happ
    have hsame : Section.isApplication ∘ Section.reparsed = Section.isApplication := by
      funext s
      cases s <;> rfl
    have hcount := h.oneApplication
    rw [hsplit, List.countP_append, List.countP_cons_of_pos happ] at hcount
    rw [List.countP_map, hsame]
    omega
  -- the lines of the section itself, then those of the transport, then the candidates
  let entries (s : Section) : Description :=
    { (afterSections d x done).description with mEntries := done.map Section.reparsed ++ [s] }
  have hlines : (s.generateSdp d.addrPort.1 d.addrPort.2).map trimEnd =
      trimEnd (s.mLine 9) :: (connectionLine :: s.generateSdpLines).map trimEnd := by
    rw [addrPort_eq h]
    rfl
  have hsection : ((s.generateSdp d.addrPort.1 d.addrPort.2).map trimEnd).foldlM Parser.parseLine
      (afterSections d x done) =
        pure { description := entries s.reparsed, index := done.length } := by
    rw [hlines, List.foldlM_cons, (Parser.parseLine_mLine _ hs hone).1]
    refine (Parser.foldlM_section (afterSections d x done).description (done.map Section.reparsed) _
      hs _).trans ?_
    simp only [entries, afterSections, sub_add_cancel]
    rfl
  have hufrag : (entries s.reparsed).mIceUfrag = none ∨
      (entries s.reparsed).mIceUfrag = d.mIceUfrag := by
    simp only [entries, afterSections]
    split_ifs
    · exact .inl rfl
    · exact .inr rfl
  have hpwd : (entries s.reparsed).mIcePwd = none ∨
      (entries s.reparsed).mIcePwd = d.mIcePwd := by
    simp only [entries, afterSections]
    split_ifs
    · exact .inl rfl
    · exact .inr rfl
  have htransport := Parser.foldlM_transportLines d (entries s.reparsed) done.length hufrag hpwd
  rw [List.map_append, List.map_append, List.foldlM_append, List.foldlM_append, hsection, pure_bind,
    map_trimEnd (isLine_transportLines h), htransport]
  change List.foldlM Parser.parseLine _ _ = _
  -- the candidates stand in the first section that is not removed
  cases hfirst : done.all (·.entry.mIsRemoved) with
  | false =>
    rw [Bool.and_false]
    simp [afterSections, entries, hfirst, pure, Except.pure]
  | true =>
    cases hremoved : s.entry.mIsRemoved with
    | true => simp [afterSections, entries, hfirst, hremoved, pure, Except.pure]
    | false =>
      rw [Bool.not_false, Bool.and_self, if_pos rfl, map_trimEnd (isLine_candidateLines h),
        Parser.foldlM_candidateLines h]
      · simp [afterSections, entries, hremoved]
      · exact if_pos hfirst
      · exact if_pos hfirst

/-- The lines of the sections that are left. -/
theorem foldlM_entryLines (h : d.WellFormed) (x : Description) {rest : List Section} :
    ∀ {done : List Section}, d.mEntries = done ++ rest →
      ((d.entryLines (done.all (·.entry.mIsRemoved)) rest).map trimEnd).foldlM Parser.parseLine
        (afterSections d x done) = .ok (afterSections d x d.mEntries) := by
  induction rest with
  | nil =>
    intro done hsplit
    rw [hsplit, List.append_nil]
    rfl
  | cons s rest ih =>
    intro done hsplit
    have hnext : d.mEntries = (done ++ [s]) ++ rest := by
      rw [hsplit, List.append_assoc, List.singleton_append]
    have hfirst : (s.entry.mIsRemoved && done.all (·.entry.mIsRemoved)) =
        (done ++ [s]).all (·.entry.mIsRemoved) := by
      rw [List.all_append, Bool.and_comm]
      simp
    rw [entryLines, List.map_append, List.foldlM_append, foldlM_entryLine h x hsplit, hfirst]
    exact ih hnext

/-! ### The session -/

/-- The lines that the parser keeps as attributes of the session. -/
def otherLines (d : Description) : List Text :=
  groupLines (bytes "BUNDLE") d.kept ++
    groupLines (bytes "LS") (d.kept.filter fun s => !s.isApplication) ++
    [bytes "a=msid-semantic:WMS *"]

/-- A group ends with a mid. -/
theorem isLine_group {semantics : Text} (hsemantics : lf ∉ semantics) {sections : List Section}
    (hne : sections ≠ []) (hmids : ∀ s ∈ sections, IsWord s.entry.mMid) :
    IsLine (semantics ++ sections.flatMap fun s => space :: s.entry.mMid) := by
  induction sections generalizing semantics with
  | nil => exact absurd rfl hne
  | cons s sections ih =>
    obtain ⟨hmid, hrest⟩ := List.forall_mem_cons.1 hmids
    have hline : IsLine (semantics ++ space :: s.entry.mMid) :=
      hmid.isLine.append_cons hsemantics (by decide)
    rw [List.flatMap_cons, ← List.append_assoc]
    by_cases hnil : sections = []
    · rw [hnil, List.flatMap_nil, List.append_nil]
      exact hline
    · exact ih hline.lf_notMem hnil hrest

/-- The line of a group of sections. -/
theorem isLine_groupLines (h : d.WellFormed) {semantics : Text} (hsemantics : lf ∉ semantics)
    {sections : List Section} (hsections : ∀ s ∈ sections, s ∈ d.mEntries) :
    ∀ line ∈ groupLines semantics sections, IsLine line ∧
      matchPrefix line (bytes "a=") = true ∧ IsSectionLine line := by
  have hmids : ∀ s ∈ sections, IsWord s.entry.mMid := by
    intro s hs
    have hwf := h.sections s (hsections s hs)
    cases s with
    | application a => exact hwf.mid.toIsWord
    | media m => exact hwf.mid.toIsWord
  intro line hline
  rw [groupLines] at hline
  split_ifs at hline with hnil
  · exact (List.not_mem_nil hline).elim
  · obtain rfl := List.mem_singleton.1 hline
    have hline := isLine_group hsemantics hnil hmids
    refine ⟨isLine_attributeLine (by decide) hline, rfl, rfl, rfl, ?_⟩
    rw [lineKey_attributeLine (by decide)]
    decide

theorem isLine_otherLines (h : d.WellFormed) :
    ∀ line ∈ d.otherLines, IsLine line ∧
      matchPrefix line (bytes "a=") = true ∧ IsSectionLine line := by
  have hkept : ∀ s ∈ d.kept, s ∈ d.mEntries := fun s hs => List.mem_of_mem_filter hs
  refine List.forall_mem_append.2 ⟨List.forall_mem_append.2 ⟨?_, ?_⟩, ?_⟩
  · exact isLine_groupLines h (by decide) hkept
  · exact isLine_groupLines h (by decide) fun s hs => hkept s (List.mem_of_mem_filter hs)
  · rw [List.forall_mem_singleton]
    exact ⟨isLine_of_text (by decide), by decide, ⟨by decide, by decide, by decide +kernel⟩⟩

/-- Before the first section they are attributes of the session. -/
theorem foldlM_otherLines (h : d.WellFormed) (x : Description) (index : ℤ)
    (hattributes : x.mAttributes = []) (hentries : x.mEntries = []) :
    d.otherLines.foldlM Parser.parseLine { description := x, index } = .ok
      { description := { x with mAttributes := d.otherLines.map (List.drop 2) }, index } := by
  have hx : x = { x with mAttributes := List.map (List.drop 2) [] } :=
    congrArg (fun mAttributes => { x with mAttributes }) hattributes
  let state (done : List Text) : Parser :=
    { description := { x with mAttributes := done.map (List.drop 2) }, index }
  have hfold : (d.otherLines.map id).foldlM Parser.parseLine (state []) =
      pure (state d.otherLines) := by
    refine Printed.foldlM_map state fun done line rest hsplit => ?_
    obtain ⟨-, hprefix, hline⟩ := isLine_otherLines h line (by simp [hsplit])
    have hother : Parser.parseAttribute (state done).description index line =
        pure (state (done ++ [line])).description := by
      rw [Parser.parseAttribute_other _ _ hline.key]
      refine (if_pos hentries).trans ?_
      simp only [state, List.map_append]
      rfl
    rw [id, Parser.parseLine, hline.not_media, hline.not_origin, hprefix]
    change Parser.parseAttribute (state done).description index line >>= _ = _
    rw [hother]
    rfl
  rw [List.map_id] at hfold
  refine Eq.trans ?_ hfold
  exact congrArg (fun x => d.otherLines.foldlM Parser.parseLine { description := x, index }) hx

/-- Words that are printed in the origin line are read back. -/
theorem parseOrigin_words {username sessionId : Text} (husername : IsWord username)
    (hsessionId : IsWord sessionId) (x : Description) :
    Parser.parseOrigin x (username ++ space :: (sessionId ++ bytes " 0 IN IP4 127.0.0.1")) =
      { x with mUsername := username, mSessionId := sessionId } := by
  have hspace : AtSpace (bytes " 0 IN IP4 127.0.0.1") := atSpace_space _
  rw [Parser.parseOrigin, word_append husername (atSpace_space _)]
  simp only [word_space_append hsessionId hspace]

/-- The lines before the attributes set the user name and the session identifier. -/
theorem foldlM_headerLines (h : d.WellFormed) (x : Description) (index : ℤ)
    (hentries : x.mEntries = []) :
    (d.headerLines.map trimEnd).foldlM Parser.parseLine { description := x, index } = .ok
      { description := { x with mUsername := d.mUsername, mSessionId := d.mSessionId }
        index } := by
  let origin : Text := d.mUsername ++ space :: (d.mSessionId ++ bytes " 0 IN IP4 127.0.0.1")
  have horigin : IsLine (bytes "o=" ++ origin) := by
    have hend : IsLine (bytes " 0 IN IP4 127.0.0.1") := isLine_of_text (by decide)
    exact (((hend.append h.sessionId.lf_notMem).append_cons h.username.lf_notMem (by decide)).append
      (by decide))
  -- before the first section, a line that is neither of the three is for nobody
  have hignored : ∀ x : Description, x.mEntries = [] → ∀ line,
      matchPrefix line (bytes "m=") = false → matchPrefix line (bytes "o=") = false →
      matchPrefix line (bytes "a=") = false →
      Parser.parseLine { description := x, index } line = pure { description := x, index } := by
    intro x hx line hmedia horigin hattribute
    have hcurrent : Parser.parseCurrent x line = .ok x := by
      rw [Parser.parseCurrent, hx]
      rfl
    rw [Parser.parseLine, hmedia, horigin, hattribute]
    simp only [Bool.false_eq_true, if_false, hcurrent]
    rfl
  let named : Description := { x with mUsername := d.mUsername, mSessionId := d.mSessionId }
  have hread : Parser.parseLine { description := x, index } (bytes "o=" ++ origin) =
      pure { description := named, index } :=
    congrArg (fun description => Except.ok { description, index : Parser })
      (parseOrigin_words h.username h.sessionId x)
  have htrim : d.headerLines.map trimEnd =
      [bytes "v=0", bytes "o=" ++ origin, bytes "s=-", bytes "t=0 0"] := by
    rw [headerLines, List.map_cons, List.map_cons, trimEnd_of_isLine horigin]
    rfl
  rw [htrim, List.foldlM_cons, hignored x hentries _ (by decide) (by decide) (by decide), pure_bind,
    List.foldlM_cons, hread, pure_bind, List.foldlM_cons,
    hignored named hentries _ (by decide) (by decide) (by decide), pure_bind, List.foldlM_cons,
    hignored named hentries _ (by decide) (by decide) (by decide)]
  rfl

/-- The digits and colons of a fingerprint are one word. -/
theorem isWord_fingerprint {f : CertificateFingerprint} (hf : f.isValid = true) :
    IsWord f.value := by
  obtain ⟨hlength, hall⟩ := of_decide_eq_true hf
  have hbyte : ∀ c : UInt8, isXDigit c = true ∨ c = colon → isSpace c = false :=
    BigEndian.forall_byte (by decide +kernel)
  refine ⟨?_, fun c hc => hbyte c ?_⟩
  · rintro hnil
    rw [hnil] at hlength
    cases halgorithm : f.algorithm <;> rw [halgorithm] at hlength <;>
      exact absurd hlength (by decide)
  · obtain ⟨i, hi, rfl⟩ := List.mem_iff_getElem.1 hc
    have hmem : (f.value[i], i) ∈ f.value.zipIdx :=
      List.mk_mem_zipIdx_iff_getElem?.2 (by simp [hi])
    have hci := List.all_eq_true.1 hall (f.value[i], i) hmem
    simp only at hci
    split_ifs at hci
    · exact .inr (of_decide_eq_true hci)
    · exact .inl hci

/-- The fingerprint is read back. -/
theorem parseFingerprint_value {f : CertificateFingerprint} (hf : f.WellFormed) (x : Description) :
    Parser.parseFingerprint x (f.algorithm.identifier ++ space :: f.value) =
      .ok { x with mFingerprint := some f } := by
  have hvalue := isWord_fingerprint hf.valid
  have hexplode : Utils.explode (f.algorithm.identifier ++ space :: f.value) space =
      [f.algorithm.identifier, f.value] := by
    rw [Utils.explode_append, Utils.explode_token hvalue.ne_nil hvalue.space_notMem]
    rw [hf.sha256]
    decide
  have halgorithm : Algorithm.ofIdentifier (f.algorithm.identifier.map Http.toLower) =
      some f.algorithm := by
    rw [hf.sha256]
    decide
  rw [Parser.parseFingerprint, hexplode]
  simp only [halgorithm, setFingerprint, hf.valid, hf.upper, if_true]

/-- The description when the parser has read the session. -/
def afterSession (d : Description) (type : Kind) (role : Role) : Description :=
  { hintType { mRole := role } type with
    mUsername := d.mUsername
    mSessionId := d.mSessionId
    mIceOptions := d.mIceOptions
    mFingerprint := d.mFingerprint
    mAttributes := d.otherLines.map (List.drop 2) }

/-- The lines with the ICE options and the fingerprint. -/
def iceLines (d : Description) : List Text :=
  (if d.mIceOptions = [] then []
    else [attributeLine (bytes "ice-options") (Utils.implode d.mIceOptions comma)]) ++
    d.mFingerprint.toList.map fun f =>
      attributeLine (bytes "fingerprint") (f.algorithm.identifier ++ space :: f.value)

theorem sessionLines_eq (h : d.WellFormed) : d.sessionLines = d.otherLines ++ d.iceLines := by
  rw [sessionLines, otherLines, iceLines, h.attributes]
  simp

theorem isLine_implode {tokens : List Text} (hne : tokens ≠ [])
    (h : ∀ token ∈ tokens, IsToken token) : IsLine (Utils.implode tokens comma) := by
  induction tokens with
  | nil => exact absurd rfl hne
  | cons token tokens ih =>
    obtain ⟨htoken, htokens⟩ := List.forall_mem_cons.1 h
    by_cases hnil : tokens = []
    · rw [hnil, Utils.implode_singleton]
      exact htoken.isLine
    · rw [Utils.implode_cons token hnil]
      exact (ih hnil htokens).append_cons htoken.lf_notMem (by decide)

theorem isLine_iceLines (h : d.WellFormed) : ∀ line ∈ d.iceLines, IsLine line := by
  refine List.forall_mem_append.2 ⟨?_, List.forall_mem_map.2 fun f hf => ?_⟩
  · split_ifs with hnil
    · exact fun _ hmem => (List.not_mem_nil hmem).elim
    · rw [List.forall_mem_singleton]
      exact isLine_attributeLine (by decide) (isLine_implode hnil h.iceOptions)
  · have hwf := h.fingerprint f (Option.mem_toList.1 hf)
    have hidentifier : lf ∉ f.algorithm.identifier := by
      rw [hwf.sha256]
      decide
    exact isLine_attributeLine (by decide)
      ((isWord_fingerprint hwf.valid).isLine.append_cons hidentifier (by decide))

/-- The ICE options and the fingerprint are read back. -/
theorem foldlM_iceLines (h : d.WellFormed) (x : Description) (hoptions : x.mIceOptions = [])
    (hfingerprint : x.mFingerprint = none) :
    d.iceLines.foldlM Parser.parseLine { description := x } = .ok
      { description :=
          { x with mIceOptions := d.mIceOptions, mFingerprint := d.mFingerprint } } := by
  -- first the options, which are only read while there are none
  let optioned : Description := { x with mIceOptions := d.mIceOptions }
  have hice : (if d.mIceOptions = [] then []
      else [attributeLine (bytes "ice-options") (Utils.implode d.mIceOptions comma)]).foldlM
        Parser.parseLine { description := x } = pure { description := optioned } := by
    split_ifs with hnil
    · exact congrArg
        (fun mIceOptions => Except.ok { description := { x with mIceOptions } : Parser })
        (hoptions.trans hnil.symm)
    · have hexplode : Utils.explode (Utils.implode d.mIceOptions comma) comma = d.mIceOptions :=
        Utils.explode_implode fun option hoption =>
          ⟨(h.iceOptions option hoption).ne_nil, (h.iceOptions option hoption).comma_notMem⟩
      have hparse : ∀ value, Parser.parseLine { description := x }
          (attributeLine (bytes "ice-options") value) = .ok
            { description :=
                if x.mIceOptions = [] then { x with mIceOptions := Utils.explode value comma }
                else x } := fun value => rfl
      rw [List.foldlM_cons, hparse, if_pos hoptions, hexplode]
      rfl
  rw [iceLines, List.foldlM_append, hice, pure_bind]
  -- then the fingerprint
  cases hf : d.mFingerprint with
  | none =>
    exact congrArg
      (fun mFingerprint => Except.ok { description := { optioned with mFingerprint } : Parser })
      hfingerprint
  | some f =>
    have hparse : ∀ value, Parser.parseLine { description := optioned }
        (attributeLine (bytes "fingerprint") value) =
          (if optioned.mFingerprint = none ∨ (-1 : ℤ) = 0 then
            Parser.parseFingerprint optioned value else .ok optioned) >>= fun description =>
              pure { description } := fun value => rfl
    rw [Option.toList_some, List.map_singleton, List.foldlM_cons, hparse,
      if_pos (.inl hfingerprint), parseFingerprint_value (h.fingerprint f hf)]
    rfl

/-- The session is read before the sections. -/
theorem foldlM_session (h : d.WellFormed) (type : Kind) (role : Role) :
    ((d.headerLines ++ d.sessionLines).map trimEnd).foldlM Parser.parseLine
        { description := hintType { mRole := role } type } =
      .ok (afterSections d (d.afterSession type role) []) := by
  let start : Description := { mType := type, mRole := role }
  have hhint : hintType { mRole := role } type = start := if_pos rfl
  have hheader := foldlM_headerLines h start (-1) rfl
  have hother := foldlM_otherLines h
    { start with mUsername := d.mUsername, mSessionId := d.mSessionId } (-1) rfl rfl
  have hice := foldlM_iceLines h
    { start with
      mUsername := d.mUsername, mSessionId := d.mSessionId
      mAttributes := d.otherLines.map (List.drop 2) } rfl rfl
  rw [hhint, sessionLines_eq h, List.map_append, List.map_append,
    map_trimEnd fun line hline => (isLine_otherLines h line hline).1,
    map_trimEnd (isLine_iceLines h), List.foldlM_append, hheader]
  change List.foldlM Parser.parseLine _ _ = _
  rw [List.foldlM_append, hother]
  change List.foldlM Parser.parseLine _ _ = _
  rw [hice, afterSession, hhint]
  rfl

/-! ### The text -/

/-- Every line is trimmed to something. -/
theorem isPrinted_sdpLines (h : d.WellFormed) : ∀ line ∈ d.sdpLines, IsPrinted line := by
  have hheader : ∀ line ∈ d.headerLines, IsPrinted line := by
    have horigin : IsLine (d.mSessionId ++ bytes " 0 IN IP4 127.0.0.1") :=
      IsLine.append h.sessionId.lf_notMem (isLine_of_text (by decide))
    intro line hline
    simp only [headerLines, List.mem_cons, List.not_mem_nil, or_false] at hline
    rcases hline with rfl | rfl | rfl | rfl
    · exact (isLine_of_text (by decide)).isPrinted
    · exact ((h.username.append_isLine horigin).append (by decide)).isPrinted
    · exact (isLine_of_text (by decide)).isPrinted
    · exact (isLine_of_text (by decide)).isPrinted
  -- by induction on the sections, the first of which has the candidates
  have hentries : ∀ sections : List Section, (∀ s ∈ sections, s.WellFormed) → ∀ first,
      ∀ line ∈ d.entryLines first sections, IsPrinted line := by
    intro sections
    induction sections with
    | nil => exact fun _ _ _ hmem => (List.not_mem_nil hmem).elim
    | cons s sections ih =>
      intro hsections first
      obtain ⟨hs, hrest⟩ := List.forall_mem_cons.1 hsections
      rw [entryLines, addrPort_eq h]
      refine List.forall_mem_append.2 ⟨List.forall_mem_append.2 ⟨List.forall_mem_append.2
        ⟨?_, ?_⟩, ?_⟩, ih hrest _⟩
      · refine List.forall_mem_cons.2 ⟨?_, Section.isPrinted_lines hs⟩
        obtain ⟨htype, hprotocol, hplain⟩ := Section.words hs
        exact (trimEnd_mLine _ htype hprotocol hplain).2
      · exact fun line hline => (isLine_transportLines h line hline).isPrinted
      · split_ifs
        · exact fun line hline => (isLine_candidateLines h line hline).isPrinted
        · exact fun _ hmem => (List.not_mem_nil hmem).elim
  rw [sdpLines, sessionLines_eq h]
  refine List.forall_mem_append.2 ⟨List.forall_mem_append.2 ⟨hheader, List.forall_mem_append.2
    ⟨?_, ?_⟩⟩, hentries _ h.sections _⟩
  · exact fun line hline => (isLine_otherLines h line hline).1.isPrinted
  · exact fun line hline => (isLine_iceLines h line hline).isPrinted

/-- The text is split into its lines. -/
theorem lines_flatMap {texts : List Text} (h : ∀ line ∈ texts, IsPrinted line) :
    lines (texts.flatMap (· ++ crlf)) = texts.map trimEnd := by
  induction texts with
  | nil =>
    rw [lines, List.flatMap_nil, Utils.explode]
    rfl
  | cons line texts ih =>
    obtain ⟨hline, htexts⟩ := List.forall_mem_cons.1 h
    have hsplit : ((line :: texts).flatMap (· ++ crlf)) =
        (line ++ [cr]) ++ lf :: texts.flatMap (· ++ crlf) := by
      simp [crlf]
    have hlf : lf ∉ line ++ [cr] := by
      rw [List.mem_append, not_or]
      exact ⟨hline.lf_notMem, by decide⟩
    have htrim : trimEnd (line ++ [cr]) = trimEnd line := trimEnd_append_space (by decide)
    have hih := ih htexts
    rw [lines] at hih ⊢
    rw [hsplit, Utils.explode_append hlf, List.map_cons, htrim, List.filter_cons,
      if_pos (decide_eq_true hline.trimmed), hih, List.map_cons]

/-- A description as the parser reads it. -/
def reparsed (d : Description) (type : Kind) (role : Role) : Description :=
  (afterSections d (d.afterSession type role) d.mEntries).description

/-- The text of a well-formed description is parsed. -/
theorem parse_generateSdp (h : d.WellFormed) (type : Kind) (role : Role) (random : UInt32) :
    parse (d.generateSdp crlf) type role random = .ok (d.reparsed type role) := by
  have hfinish : finish (d.reparsed type role) random = d.reparsed type role := by
    have husername : (d.reparsed type role).mUsername = d.mUsername := rfl
    have hsessionId : (d.reparsed type role).mSessionId = d.mSessionId := rfl
    rw [finish, husername, hsessionId, if_neg h.username.ne_nil, if_neg h.sessionId.ne_nil]
    rfl
  have hentries : ((d.entryLines true d.mEntries).map trimEnd).foldlM Parser.parseLine
      (afterSections d (d.afterSession type role) []) =
      .ok (afterSections d (d.afterSession type role) d.mEntries) := foldlM_entryLines h _ rfl
  have hfold : (d.sdpLines.map trimEnd).foldlM Parser.parseLine
      { description := hintType { mRole := role } type } =
      .ok (afterSections d (d.afterSession type role) d.mEntries) := by
    rw [sdpLines, List.map_append, List.foldlM_append, foldlM_session h]
    exact hentries
  rw [parse, generateSdp, lines_flatMap (isPrinted_sdpLines h)]
  simp only [hfold]
  exact congrArg Except.ok hfinish

/-- The constructor makes a description without sections from the lines with the credentials. -/
theorem parse_credentials {ufrag pwd : Option Text} (hufrag : ∀ text ∈ ufrag, IsToken text)
    (hpwd : ∀ text ∈ pwd, IsToken text) (type : Kind) (role : Role) (random : UInt32) :
    parse (((ufrag.toList.map fun ufrag => attributeLine (bytes "ice-ufrag") ufrag) ++
        pwd.toList.map fun pwd => attributeLine (bytes "ice-pwd") pwd).flatMap (· ++ crlf))
      type role random = .ok (start type role ufrag pwd random) := by
  have hlines : ∀ line ∈ (ufrag.toList.map fun ufrag => attributeLine (bytes "ice-ufrag") ufrag) ++
      pwd.toList.map fun pwd => attributeLine (bytes "ice-pwd") pwd, IsLine line := by
    refine List.forall_mem_append.2 ⟨?_, ?_⟩
    · exact List.forall_mem_map.2 fun text htext =>
        isLine_attributeLine (by decide) (hufrag text (Option.mem_toList.1 htext)).isLine
    · exact List.forall_mem_map.2 fun text htext =>
        isLine_attributeLine (by decide) (hpwd text (Option.mem_toList.1 htext)).isLine
  have hhint : hintType { mRole := role } type = { mType := type, mRole := role } := if_pos rfl
  have hufrags := Parser.foldlM_ufrag { mType := type, mRole := role } (-1) ufrag (.inl rfl)
  have hpwds := Parser.foldlM_pwd { mType := type, mRole := role, mIceUfrag := ufrag } (-1) pwd
    (.inl rfl)
  rw [parse, lines_flatMap fun line hline => (hlines line hline).isPrinted, map_trimEnd hlines,
    hhint]
  simp only [List.foldlM_append, hufrags]
  change List.foldlM Parser.parseLine _ _ >>= _ = _
  rw [hpwds]
  rfl

end Description

end Sdp

end Rtc
