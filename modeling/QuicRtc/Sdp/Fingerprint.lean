import QuicRtc.Sdp.ParsedLines

/-!
# Fingerprints are read back

`setFingerprint` stores a valid fingerprint in upper case, and `generateSdp` and
`generateApplicationSdp` print it with the identifier of its algorithm. The parser looks for the
first algorithm with that identifier, and `AlgorithmIdentifier` gives SHA-384 the one of SHA-256.

* `Parser.parseLine_withFingerprint`: a line that brings no fingerprint does the same to a
  description with one.
* `parse_fingerprintLine`: if a text is parsed and has no fingerprint, then with the line of one
  anywhere in it it is parsed to the same description with that fingerprint, except for SHA-384,
  where it is not parsed.
* `recoversFingerprint_iff`: both texts of a description that is built by calls bring the
  fingerprint back exactly if it is not of SHA-384, and what is parsed is valid.
-/

namespace Rtc

namespace Sdp

open Http (space lf cr colon crlf toLower)
open WsHandshake (isSpace)
open LocalDescription (Direction)

/-! ## The text of the application -/

/-- The constructor of an application section. -/
def Application.ofMid (mid : Text) : Except Exception Application :=
  ofMLine (bytes "application 9 UDP/DTLS/SCTP webrtc-datachannel") mid

namespace Description

/-- `mApplication`. -/
def mApplication (d : Description) : Option Application :=
  d.mEntries.findSome? fun s =>
    match s with
    | .application a => some a
    | .media _ => none

/-- The line of a fingerprint. -/
def fingerprintLine (f : CertificateFingerprint) : Text :=
  attributeLine (bytes "fingerprint") (f.algorithm.identifier ++ space :: f.value)

/-- `generateApplicationSdp`: the lines for an application section. -/
def applicationSdpLines (d : Description) (app : Application) : List Text :=
  d.headerLines ++ bytes "a=msid-semantic:WMS *" ::
      ((if d.mIceOptions = [] then []
        else [attributeLine (bytes "ice-options") (Utils.implode d.mIceOptions comma)]) ++
      d.mAttributes.map (bytes "a=" ++ ·)) ++
    (Section.application app).generateSdp d.addrPort.1 d.addrPort.2 ++ d.transportLines ++
    d.mFingerprint.toList.map fingerprintLine ++ d.candidateLines

/-- `generateApplicationSdp`. -/
def generateApplicationSdp (d : Description) (eol : Text) : Except Exception Text := do
  let app ←
    match d.mApplication with
    | some app => .ok app
    | none => Application.ofMid (bytes "data")
  return (d.applicationSdpLines app).flatMap (· ++ eol)

/-! ## A fingerprint beside the rest -/

/-- The description with a fingerprint. -/
def withFingerprint (d : Description) (f : CertificateFingerprint) : Description :=
  { d with mFingerprint := some f }

namespace Parser

variable {d d' : Description} {line : Text}

/-- A fingerprint that is not stored is not looked at. -/
theorem parseFingerprint_of_none {value : Text} (h : parseFingerprint d value = .ok d')
    (hnone : d'.mFingerprint = none) : d' = d ∧ ∀ x, parseFingerprint x value = .ok x := by
  rw [parseFingerprint] at h
  split at h
  · next first second hexplode =>
    split at h
    · rw [setFingerprint] at h
      split at h
      · obtain rfl := Except.ok.inj h
        cases hnone
      · cases h
    · next halgorithm =>
      refine ⟨(Except.ok.inj h).symm, fun x => ?_⟩
      rw [parseFingerprint, hexplode]
      simp only [halgorithm]
  · next hexplode =>
    refine ⟨(Except.ok.inj h).symm, fun x => ?_⟩
    rw [parseFingerprint]
    split
    · next first second heq => exact absurd heq (hexplode first second)
    · rfl

theorem parseCurrent_withFingerprint (f : CertificateFingerprint)
    (h : parseCurrent d line = .ok d') :
    parseCurrent (d.withFingerprint f) line = .ok (d'.withFingerprint f) ∧
      d'.mFingerprint = d.mFingerprint := by
  rw [parseCurrent] at h
  rw [parseCurrent, withFingerprint]
  dsimp only
  split at h
  · obtain ⟨s, hs, h⟩ := bind_eq_ok.1 h
    obtain rfl := Except.ok.inj h
    refine ⟨?_, rfl⟩
    rw [hs]
    rfl
  · obtain rfl := Except.ok.inj h
    exact ⟨rfl, rfl⟩

theorem addCandidate_withFingerprint (d : Description) (candidate : Candidate)
    (f : CertificateFingerprint) :
    (d.withFingerprint f).addCandidate candidate =
      (d.addCandidate candidate).withFingerprint f := by
  have hsame : (d.withFingerprint f).hasCandidate candidate = d.hasCandidate candidate := rfl
  rw [addCandidate, addCandidate, hsame]
  split_ifs <;> rfl

/-- An attribute that brings no fingerprint. -/
theorem parseAttribute_withFingerprint (f : CertificateFingerprint) {index : ℤ}
    (hd : d.mFingerprint = none) (hd' : d'.mFingerprint = none)
    (h : parseAttribute d index line = .ok d') :
    parseAttribute (d.withFingerprint f) index line = .ok (d'.withFingerprint f) := by
  rw [parseAttribute] at h ⊢
  dsimp only at h ⊢
  -- the keys of the session in the order of the code, which the fingerprint does not meet
  by_cases hsetup : (parsePair (line.drop 2)).1 = bytes "setup"
  · rw [if_pos hsetup] at h ⊢
    obtain rfl := Except.ok.inj h
    rfl
  rw [if_neg hsetup] at h ⊢
  by_cases hfingerprint : (parsePair (line.drop 2)).1 = bytes "fingerprint"
  · -- the value was no valid fingerprint, since none is stored
    rw [if_pos hfingerprint, if_pos (.inl hd)] at h
    obtain ⟨rfl, hany⟩ := parseFingerprint_of_none h hd'
    rw [if_pos hfingerprint]
    split_ifs
    · exact hany _
    · rfl
  rw [if_neg hfingerprint] at h ⊢
  by_cases hufrag : (parsePair (line.drop 2)).1 = bytes "ice-ufrag"
  · rw [if_pos hufrag] at h ⊢
    obtain rfl := Except.ok.inj h
    rw [withFingerprint]
    dsimp only
    split_ifs <;> rfl
  rw [if_neg hufrag] at h ⊢
  by_cases hpwd : (parsePair (line.drop 2)).1 = bytes "ice-pwd"
  · rw [if_pos hpwd] at h ⊢
    obtain rfl := Except.ok.inj h
    rw [withFingerprint]
    dsimp only
    split_ifs <;> rfl
  rw [if_neg hpwd] at h ⊢
  by_cases hoptions : (parsePair (line.drop 2)).1 = bytes "ice-options"
  · rw [if_pos hoptions] at h ⊢
    obtain rfl := Except.ok.inj h
    rw [withFingerprint]
    dsimp only
    split_ifs <;> rfl
  rw [if_neg hoptions] at h ⊢
  by_cases hcandidate : (parsePair (line.drop 2)).1 = bytes "candidate"
  · rw [if_pos hcandidate] at h ⊢
    obtain ⟨candidate, hc, h⟩ := bind_eq_ok.1 h
    obtain rfl := Except.ok.inj h
    rw [hc]
    exact congrArg Except.ok (addCandidate_withFingerprint d candidate f)
  rw [if_neg hcandidate] at h ⊢
  by_cases hend : (parsePair (line.drop 2)).1 = bytes "end-of-candidates"
  · rw [if_pos hend] at h ⊢
    obtain rfl := Except.ok.inj h
    rfl
  rw [if_neg hend] at h ⊢
  -- what is left goes to the section, or to the attributes of the session
  have hentries : (d.withFingerprint f).mEntries = d.mEntries := rfl
  rw [parseOther] at h ⊢
  rw [hentries]
  split_ifs at h ⊢
  · obtain rfl := Except.ok.inj h
    rfl
  · exact (parseCurrent_withFingerprint f h).1

/-- A fingerprint that is stored is replaced at most. -/
theorem parseLine_mFingerprint {p p' : Parser} (h : p.parseLine line = .ok p')
    (hnone : p'.description.mFingerprint = none) : p.description.mFingerprint = none := by
  rw [parseLine] at h
  split_ifs at h
  · obtain ⟨d, hd, h⟩ := bind_eq_ok.1 h
    obtain rfl := Except.ok.inj h
    rw [createEntry] at hd
    split_ifs at hd
    · obtain ⟨a, -, hd⟩ := bind_eq_ok.1 hd
      obtain rfl := Except.ok.inj hd
      exact hnone
    · obtain ⟨m, -, hd⟩ := bind_eq_ok.1 hd
      obtain rfl := Except.ok.inj hd
      exact hnone
  · obtain rfl := Except.ok.inj h
    rw [parseOrigin] at hnone
    split at hnone
    · exact hnone
    · split at hnone <;> exact hnone
  · obtain ⟨d, hd, h⟩ := bind_eq_ok.1 h
    obtain rfl := Except.ok.inj h
    -- only an attribute brings a fingerprint, and it would still be there
    rcases parseAttribute_cases hd with ⟨-, ht⟩ | ⟨-, hother⟩
    · rcases ht.mFingerprint with hsame | ⟨g, -, hsome⟩
      · exact hsame ▸ hnone
      · rw [hsome] at hnone
        cases hnone
    · rw [parseOther] at hother
      split_ifs at hother
      · obtain rfl := Except.ok.inj hother
        exact hnone
      · exact (parseCurrent_withFingerprint ⟨.sha1, []⟩ hother).2 ▸ hnone
  · obtain ⟨d, hd, h⟩ := bind_eq_ok.1 h
    obtain rfl := Except.ok.inj h
    exact (parseCurrent_withFingerprint ⟨.sha1, []⟩ hd).2 ▸ hnone

/-- The parser with a fingerprint. -/
def withFingerprint (p : Parser) (f : CertificateFingerprint) : Parser :=
  { p with description := p.description.withFingerprint f }

/-- A line that brings no fingerprint does the same beside one. -/
theorem parseLine_withFingerprint (f : CertificateFingerprint) {p p' : Parser}
    (h : p.parseLine line = .ok p') (hnone : p'.description.mFingerprint = none) :
    (p.withFingerprint f).parseLine line = .ok (p'.withFingerprint f) := by
  have hbefore := parseLine_mFingerprint h hnone
  rw [parseLine] at h ⊢
  -- a media line, the origin, an attribute, or a line for the current section
  split_ifs at h ⊢
  · obtain ⟨d, hd, h⟩ := bind_eq_ok.1 h
    obtain rfl := Except.ok.inj h
    have hcreate : (p.description.withFingerprint f).createEntry (line.drop 2)
        (toString (p.index + 1)) .unknown = .ok (d.withFingerprint f) := by
      rw [createEntry] at hd ⊢
      split_ifs at hd ⊢
      · obtain ⟨a, ha, hd⟩ := bind_eq_ok.1 hd
        obtain rfl := Except.ok.inj hd
        rw [ha]
        rfl
      · obtain ⟨m, hm, hd⟩ := bind_eq_ok.1 hd
        obtain rfl := Except.ok.inj hd
        rw [hm]
        rfl
    exact bind_eq_ok.2 ⟨_, hcreate, rfl⟩
  · obtain rfl := Except.ok.inj h
    have horigin : parseOrigin (p.description.withFingerprint f) (line.drop 2) =
        (parseOrigin p.description (line.drop 2)).withFingerprint f := by
      rw [parseOrigin, parseOrigin]
      split
      · rfl
      · split <;> rfl
    exact congrArg (fun description => Except.ok { p with description }) horigin
  · obtain ⟨d, hd, h⟩ := bind_eq_ok.1 h
    obtain rfl := Except.ok.inj h
    exact bind_eq_ok.2 ⟨_, parseAttribute_withFingerprint f hbefore hnone hd, rfl⟩
  · obtain ⟨d, hd, h⟩ := bind_eq_ok.1 h
    obtain rfl := Except.ok.inj h
    exact bind_eq_ok.2 ⟨_, (parseCurrent_withFingerprint f hd).1, rfl⟩

/-- Lines that bring no fingerprint. -/
theorem foldlM_withFingerprint (f : CertificateFingerprint) {texts : List Text} {p p' : Parser}
    (h : texts.foldlM parseLine p = .ok p') (hnone : p'.description.mFingerprint = none) :
    p.description.mFingerprint = none ∧
      texts.foldlM parseLine (p.withFingerprint f) = .ok (p'.withFingerprint f) := by
  induction texts generalizing p with
  | nil =>
    obtain rfl := Except.ok.inj h
    exact ⟨hnone, rfl⟩
  | cons line texts ih =>
    obtain ⟨p₁, hp₁, h⟩ := bind_eq_ok.1 h
    obtain ⟨hnone₁, hrest⟩ := ih h
    refine ⟨parseLine_mFingerprint hp₁ hnone₁, ?_⟩
    rw [List.foldlM_cons, parseLine_withFingerprint f hp₁ hnone₁]
    exact hrest

end Parser

end Description

/-! ## The line of a fingerprint -/

namespace CertificateFingerprint

variable {f : CertificateFingerprint}

/-- The fingerprint as `setFingerprint` stores it. -/
def stored (f : CertificateFingerprint) : CertificateFingerprint :=
  { f with value := f.value.map toUpper }

theorem stored_stored (f : CertificateFingerprint) : f.stored.stored = f.stored := by
  rw [stored, stored, List.map_map]
  exact congrArg (fun value => { f with value })
    (List.map_congr_left fun c _ => (Description.toUpper_byte c).1)

end CertificateFingerprint

/-- The identifier of SHA-384 is found as the one of SHA-256. -/
theorem Algorithm.ofIdentifier_identifier (a : Algorithm) :
    ofIdentifier (a.identifier.map toLower) = some (if a = .sha384 then .sha256 else a) := by
  cases a <;> decide

namespace Description

variable {f : CertificateFingerprint}

theorem isLine_fingerprintLine (hf : f.isValid = true) : IsLine (fingerprintLine f) := by
  have hidentifier : lf ∉ f.algorithm.identifier := by
    cases f.algorithm <;> decide
  exact isLine_attributeLine (by decide)
    ((isWord_fingerprint hf).isLine.append_cons hidentifier (by decide))

namespace Parser

/-- The parser takes the value for one of the algorithm that it finds. -/
theorem parseFingerprint_line (hf : f.isValid = true) (x : Description) :
    parseFingerprint x (f.algorithm.identifier ++ space :: f.value) =
      x.setFingerprint
        { algorithm := if f.algorithm = .sha384 then .sha256 else f.algorithm
          value := f.value } := by
  have hvalue := isWord_fingerprint hf
  have hidentifier : space ∉ f.algorithm.identifier := by
    cases f.algorithm <;> decide
  have hexplode : Utils.explode (f.algorithm.identifier ++ space :: f.value) space =
      [f.algorithm.identifier, f.value] := by
    rw [Utils.explode_append hidentifier, Utils.explode_token hvalue.ne_nil hvalue.space_notMem]
  rw [parseFingerprint, hexplode]
  simp only [Algorithm.ofIdentifier_identifier]

theorem parseLine_fingerprintLine {p : Parser} (hf : f.isValid = true)
    (hnone : p.description.mFingerprint = none) :
    p.parseLine (fingerprintLine f) =
      p.description.setFingerprint
          { algorithm := if f.algorithm = .sha384 then .sha256 else f.algorithm
            value := f.value } >>=
        fun description => pure { p with description } := by
  rw [← parseFingerprint_line hf]
  have hparse : p.parseLine (fingerprintLine f) =
      (if p.description.mFingerprint = none ∨ p.index = 0 then
        parseFingerprint p.description (f.algorithm.identifier ++ space :: f.value)
        else .ok p.description) >>= fun description => pure { p with description } := rfl
  rw [hparse, if_pos (.inl hnone)]

end Parser

/-- A text is parsed, and there is no fingerprint in it. -/
def IsBare (text : Text) (type : Kind) (role : Role) (random : UInt32) (e : Description) : Prop :=
  parse text type role random = .ok e ∧ e.mFingerprint = none

section Insert

variable {type : Kind} {role : Role} {random : UInt32} {e : Description} {texts rest : List Text}

/-- The lines of a text where the line of a fingerprint is put in. -/
theorem lines_insert (hf : f.isValid = true) (texts rest : List Text) :
    lines ((texts ++ fingerprintLine f :: rest).flatMap (· ++ crlf)) =
      lines (texts.flatMap (· ++ crlf)) ++ fingerprintLine f ::
        lines (rest.flatMap (· ++ crlf)) := by
  have hline := isLine_fingerprintLine hf
  have hone : lines ([fingerprintLine f].flatMap (· ++ crlf)) = [fingerprintLine f] := by
    rw [lines_flatMap (List.forall_mem_singleton.2 hline.isPrinted), List.map_singleton,
      trimEnd_of_isLine hline]
  have hsplit : fingerprintLine f :: rest = [fingerprintLine f] ++ rest := rfl
  rw [List.flatMap_append, lines_flatMap_append, hsplit, List.flatMap_append, lines_flatMap_append,
    hone]
  rfl

/-- The parser in front of the line, and behind the other lines. -/
theorem IsBare.split (h : IsBare ((texts ++ rest).flatMap (· ++ crlf)) type role random e) :
    ∃ p q : Parser,
      (lines (texts.flatMap (· ++ crlf))).foldlM Parser.parseLine
        { description := hintType { mRole := role } type } = .ok p ∧
      (lines (rest.flatMap (· ++ crlf))).foldlM Parser.parseLine p = .ok q ∧
      q.description.mFingerprint = none ∧ e = q.description.finish random := by
  obtain ⟨hparse, hnone⟩ := h
  obtain ⟨q, hq, he⟩ := bind_eq_ok.1 hparse
  obtain rfl := Except.ok.inj he
  rw [List.flatMap_append, lines_flatMap_append, List.foldlM_append] at hq
  obtain ⟨p, hp, hq⟩ := bind_eq_ok.1 hq
  exact ⟨p, q, hp, hq, hnone, rfl⟩

/-- With the line of a fingerprint, the same is parsed with the fingerprint. -/
theorem IsBare.parse_insert (h : IsBare ((texts ++ rest).flatMap (· ++ crlf)) type role random e)
    (hf : f.isValid = true) (hstored : f.stored = f) (hne : f.algorithm ≠ .sha384) :
    parse ((texts ++ fingerprintLine f :: rest).flatMap (· ++ crlf)) type role random =
      .ok (e.withFingerprint f) := by
  obtain ⟨p, q, hp, hq, hnone, rfl⟩ := h.split
  obtain ⟨hbefore, hrest⟩ := Parser.foldlM_withFingerprint f hq hnone
  have hset : p.description.setFingerprint
      { algorithm := f.algorithm, value := f.value } = .ok (p.description.withFingerprint f) := by
    rw [setFingerprint, if_pos hf]
    exact congrArg (fun g => Except.ok (p.description.withFingerprint g)) hstored
  have hline : p.parseLine (fingerprintLine f) = .ok (p.withFingerprint f) := by
    rw [Parser.parseLine_fingerprintLine hf hbefore, if_neg hne, hset]
    rfl
  refine bind_eq_ok.2 ⟨q.withFingerprint f, ?_, rfl⟩
  rw [lines_insert hf, List.foldlM_append]
  refine bind_eq_ok.2 ⟨p, hp, ?_⟩
  rw [List.foldlM_cons]
  exact bind_eq_ok.2 ⟨_, hline, hrest⟩

/-- A fingerprint of SHA-384 is too long for SHA-256. -/
theorem IsBare.not_parse_insert
    (h : IsBare ((texts ++ rest).flatMap (· ++ crlf)) type role random e)
    (hf : f.isValid = true) (heq : f.algorithm = .sha384) (e' : Description) :
    parse ((texts ++ fingerprintLine f :: rest).flatMap (· ++ crlf)) type role random ≠ .ok e' := by
  obtain ⟨p, q, hp, hq, hnone, rfl⟩ := h.split
  obtain ⟨hbefore, -⟩ := Parser.foldlM_withFingerprint f hq hnone
  have hlength :
      CertificateFingerprint.isValid { algorithm := .sha256, value := f.value } = false := by
    obtain ⟨hlength, -⟩ := of_decide_eq_true hf
    rw [heq] at hlength
    refine decide_eq_false fun hboth => ?_
    have hsame : Algorithm.sha384.size * 3 - 1 = Algorithm.sha256.size * 3 - 1 :=
      hlength.symm.trans hboth.1
    exact absurd hsame (by decide)
  intro hparse
  obtain ⟨q', hq', -⟩ := bind_eq_ok.1 hparse
  rw [lines_insert hf, List.foldlM_append] at hq'
  obtain ⟨p', hp', hq'⟩ := bind_eq_ok.1 hq'
  obtain rfl := Except.ok.inj (hp.symm.trans hp')
  rw [List.foldlM_cons, Parser.parseLine_fingerprintLine hf hbefore, if_pos heq, setFingerprint,
    hlength] at hq'
  cases hq'

end Insert

/-! ## The texts of a description -/

section Texts

variable {d : Description}

theorem entryLines_withFingerprint (d : Description) (f : CertificateFingerprint) (first : Bool)
    (sections : List Section) :
    (d.withFingerprint f).entryLines first sections = d.entryLines first sections := by
  induction sections generalizing first with
  | nil => rfl
  | cons s sections ih =>
    rw [entryLines, entryLines, ih]
    rfl

/-- The lines in front of the fingerprint. -/
def frontLines (d : Description) : List Text :=
  d.headerLines ++ (groupLines (bytes "BUNDLE") d.kept ++
    groupLines (bytes "LS") (d.kept.filter fun s => !s.isApplication) ++
    bytes "a=msid-semantic:WMS *" ::
      (if d.mIceOptions = [] then []
        else [attributeLine (bytes "ice-options") (Utils.implode d.mIceOptions comma)]))

/-- The lines behind it. -/
def backLines (d : Description) : List Text :=
  d.mAttributes.map (bytes "a=" ++ ·) ++ d.entryLines true d.mEntries

theorem sdpLines_of_none (h : d.mFingerprint = none) :
    d.sdpLines = d.frontLines ++ d.backLines := by
  rw [sdpLines, sessionLines, frontLines, backLines, h]
  simp

theorem sdpLines_withFingerprint (d : Description) (f : CertificateFingerprint) :
    (d.withFingerprint f).sdpLines = d.frontLines ++ fingerprintLine f :: d.backLines := by
  have hlines : (d.withFingerprint f).sdpLines =
      d.headerLines ++ (groupLines (bytes "BUNDLE") d.kept ++
        groupLines (bytes "LS") (d.kept.filter fun s => !s.isApplication) ++
        bytes "a=msid-semantic:WMS *" ::
          ((if d.mIceOptions = [] then []
            else [attributeLine (bytes "ice-options") (Utils.implode d.mIceOptions comma)]) ++
          [fingerprintLine f] ++ d.mAttributes.map (bytes "a=" ++ ·))) ++
        (d.withFingerprint f).entryLines true d.mEntries := rfl
  rw [hlines, entryLines_withFingerprint, frontLines, backLines]
  simp

/-- The lines of the application in front of the fingerprint. -/
def applicationLines (d : Description) (app : Application) : List Text :=
  d.headerLines ++ bytes "a=msid-semantic:WMS *" ::
      ((if d.mIceOptions = [] then []
        else [attributeLine (bytes "ice-options") (Utils.implode d.mIceOptions comma)]) ++
      d.mAttributes.map (bytes "a=" ++ ·)) ++
    (Section.application app).generateSdp d.addrPort.1 d.addrPort.2 ++ d.transportLines

theorem applicationSdpLines_of_none (h : d.mFingerprint = none) (app : Application) :
    d.applicationSdpLines app = d.applicationLines app ++ d.candidateLines := by
  rw [applicationSdpLines, applicationLines, h]
  simp

theorem applicationSdpLines_withFingerprint (d : Description) (f : CertificateFingerprint)
    (app : Application) :
    (d.withFingerprint f).applicationSdpLines app =
      d.applicationLines app ++ fingerprintLine f :: d.candidateLines := by
  have hlines : (d.withFingerprint f).applicationSdpLines app =
      d.applicationLines app ++ [fingerprintLine f] ++ d.candidateLines := rfl
  rw [hlines, List.append_assoc]
  rfl

variable (type : Kind) (role : Role) (random : UInt32)

theorem isBare_generateSdp (h : d.WellFormed) (hnone : d.mFingerprint = none) :
    IsBare (d.generateSdp crlf) type role random (d.reparsed type role) :=
  ⟨parse_generateSdp h type role random, hnone⟩

/-- The text of the application is parsed. -/
theorem isBare_applicationSdp (h : d.WellFormed) (hnone : d.mFingerprint = none)
    {app : Application} (happ : app.WellFormed) :
    ∃ e, IsBare ((d.applicationSdpLines app).flatMap (· ++ crlf)) type role random e := by
  let session : Description := { d with mEntries := [] }
  let single : Description := { d with mEntries := [.application app] }
  have hsession : session.WellFormed :=
    { h with
      sections := fun _ hmem => (List.not_mem_nil hmem).elim
      oneApplication := Nat.zero_le 1 }
  have hsingle : single.WellFormed :=
    { h with sections := List.forall_mem_singleton.2 happ, oneApplication := le_refl 1 }
  have hlines : d.applicationSdpLines app =
      (session.headerLines ++ session.sessionLines) ++
        ((Section.application app).generateSdp single.addrPort.1 single.addrPort.2 ++
          single.transportLines) ++ single.candidateLines := by
    rw [applicationSdpLines_of_none hnone, applicationLines, sessionLines]
    simp [session, single, hnone, kept, groupLines, headerLines, transportLines, candidateLines,
      addrPort, defaultCandidate]
  have hprinted : ∀ line ∈ d.applicationSdpLines app, IsPrinted line := by
    rw [hlines]
    refine List.forall_mem_append.2 ⟨List.forall_mem_append.2 ⟨fun line hline => ?_,
      fun line hline => ?_⟩, fun line hline => (isLine_candidateLines h line hline).isPrinted⟩
    · exact isPrinted_sdpLines hsession line (List.mem_append_left _ hline)
    · refine isPrinted_sdpLines hsingle line (List.mem_append_right _ ?_)
      exact List.mem_append_left _ (List.mem_append_left _ hline)
  let x : Description := session.afterSession type role
  have hfirst : ((session.headerLines ++ session.sessionLines).map trimEnd).foldlM Parser.parseLine
      { description := hintType { mRole := role } type } = .ok (afterSections single x []) :=
    foldlM_session hsession type role
  have hsecond := @foldlM_entryLine single hsingle x [] [] (.application app) rfl
  obtain ⟨q, hq, hqnone⟩ : ∃ q : Parser,
      ((d.applicationSdpLines app).map trimEnd).foldlM Parser.parseLine
        { description := hintType { mRole := role } type } = .ok q ∧
      q.description.mFingerprint = none := by
    rw [hlines, List.append_assoc, List.map_append, List.foldlM_append, hfirst]
    cases hremoved : app.mIsRemoved with
    | false =>
      -- the candidates stand in the section
      have hkept : (!(Section.application app).entry.mIsRemoved &&
          ([] : List Section).all (·.entry.mIsRemoved)) = true := by
        simp [Section.entry, hremoved]
      rw [hkept, if_pos rfl] at hsecond
      exact ⟨_, hsecond, hnone⟩
    | true =>
      -- the section is printed without candidates, and they come behind it
      have hkept : (!(Section.application app).entry.mIsRemoved &&
          ([] : List Section).all (·.entry.mIsRemoved)) = false := by
        simp [Section.entry, hremoved]
      have hall : ([Section.application app].all (·.entry.mIsRemoved)) = true := by
        simp [Section.entry, hremoved]
      rw [hkept, if_neg Bool.false_ne_true, List.append_nil] at hsecond
      let y : Parser := afterSections single x [.application app]
      have hcandidates := Parser.foldlM_candidateLines hsingle y.description y.index (if_pos hall)
        (if_pos hall)
      let z : Description :=
        { y.description with mCandidates := d.mCandidates, mEnded := d.mEnded }
      refine ⟨⟨z, y.index⟩, ?_, hnone⟩
      show List.foldlM Parser.parseLine _ _ = _
      rw [List.map_append, List.foldlM_append, hsecond,
        map_trimEnd (isLine_candidateLines hsingle)]
      exact hcandidates
  refine ⟨q.description.finish random, bind_eq_ok.2 ⟨q, ?_, rfl⟩, hqnone⟩
  rw [lines_flatMap hprinted]
  exact hq

end Texts

/-! ## The main result -/

/-- The parser takes the fingerprint out of a text. -/
def Recovers (text : Text) (f : CertificateFingerprint) : Prop :=
  ∀ type role random, ∃ d, parse text type role random = .ok d ∧ d.mFingerprint = some f

/-- Both texts are printed, and the parser takes the fingerprint out of them. -/
def RecoversBoth (d : Description) (f : CertificateFingerprint) : Prop :=
  Recovers (d.generateSdp crlf) f ∧
    ∃ text, d.generateApplicationSdp crlf = .ok text ∧ Recovers text f

section Recovers

variable {d : Description}

/-- There is an application section to print. -/
theorem exists_application (h : d.WellFormed) : ∃ app : Application, app.WellFormed ∧
    ∀ x : Description, x.mEntries = d.mEntries → ∀ eol,
      x.generateApplicationSdp eol = .ok ((x.applicationSdpLines app).flatMap (· ++ eol)) := by
  have hprint : ∀ x : Description, x.mEntries = d.mEntries → x.mApplication = d.mApplication :=
    fun x hx => by rw [mApplication, mApplication, hx]
  cases happ : d.mApplication with
  | some app =>
    obtain ⟨s, hs, hsome⟩ := List.exists_of_findSome?_eq_some happ
    cases s with
    | application a =>
      obtain rfl := Option.some.inj hsome
      refine ⟨a, h.sections _ hs, fun x hx eol => ?_⟩
      rw [generateApplicationSdp, hprint x hx, happ]
      rfl
    | media m => cases hsome
  | none =>
    have hmid : IsToken (bytes "data") :=
      ⟨⟨by decide, forall_mem_of_all (by decide)⟩, by decide, by decide, by decide⟩
    refine ⟨newApplication (bytes "data"), wellFormed_newApplication hmid, fun x hx eol => ?_⟩
    rw [generateApplicationSdp, hprint x hx, happ]
    simp only [Application.ofMid, ofMLine_application]
    rfl

theorem recovers_of_isBare {texts rest : List Text} (hf : f.isValid = true)
    (hstored : f.stored = f) (h : ∀ type role random, ∃ e,
      IsBare ((texts ++ rest).flatMap (· ++ crlf)) type role random e) :
    Recovers ((texts ++ fingerprintLine f :: rest).flatMap (· ++ crlf)) f ↔
      f.algorithm ≠ .sha384 := by
  constructor
  · intro hrecovers heq
    obtain ⟨e, he⟩ := h .unspec .actPass 0
    obtain ⟨d, hd, -⟩ := hrecovers .unspec .actPass 0
    exact he.not_parse_insert hf heq d hd
  · intro hne type role random
    obtain ⟨e, he⟩ := h type role random
    exact ⟨_, he.parse_insert hf hstored hne, rfl⟩

/-- Both texts bring the fingerprint back, except for SHA-384. -/
theorem recoversBoth_iff (h : d.WellFormed) (hnone : d.mFingerprint = none)
    (hf : f.isValid = true) (hstored : f.stored = f) :
    (d.withFingerprint f).RecoversBoth f ↔ f.algorithm ≠ .sha384 := by
  obtain ⟨app, happ, htext⟩ := exists_application h
  have hsdp : Recovers ((d.withFingerprint f).generateSdp crlf) f ↔ f.algorithm ≠ .sha384 := by
    rw [generateSdp, sdpLines_withFingerprint]
    refine recovers_of_isBare hf hstored fun type role random => ⟨d.reparsed type role, ?_⟩
    have hbare := isBare_generateSdp type role random h hnone
    rwa [generateSdp, sdpLines_of_none hnone] at hbare
  have happlication : Recovers
      (((d.withFingerprint f).applicationSdpLines app).flatMap (· ++ crlf)) f ↔
        f.algorithm ≠ .sha384 := by
    rw [applicationSdpLines_withFingerprint]
    refine recovers_of_isBare hf hstored fun type role random => ?_
    rw [← applicationSdpLines_of_none hnone]
    exact isBare_applicationSdp type role random h hnone happ
  rw [RecoversBoth, hsdp, htext (d.withFingerprint f) rfl]
  constructor
  · exact And.left
  · exact fun hne => ⟨hne, _, rfl, happlication.2 hne⟩

/-- **Fingerprints.** A valid fingerprint that is set comes back from both texts of a description
that is built by calls, in upper case, if it is not of SHA-384, and only then. What is parsed is
valid. -/
theorem recoversFingerprint_iff (h : Built d) (hf : f.isValid = true) :
    ((∃ d', d.setFingerprint f = .ok d' ∧ d'.RecoversBoth f.stored) ∧
      ∀ sdp type role random e, parse sdp type role random = .ok e →
        ∀ g ∈ e.mFingerprint, g.isValid = true) ↔ f.algorithm ≠ .sha384 := by
  have hset : d.setFingerprint f =
      .ok (withFingerprint { d with mFingerprint := none } f.stored) := by
    rw [setFingerprint, if_pos hf]
    rfl
  have hbare : WellFormed { d with mFingerprint := none } :=
    { h.wellFormed with fingerprint := fun _ hmem => by cases hmem }
  have hiff := recoversBoth_iff hbare rfl (isValid_upper hf) f.stored_stored
  constructor
  · rintro ⟨⟨d', hd', hboth⟩, -⟩
    obtain rfl := Except.ok.inj (hset.symm.trans hd')
    exact hiff.1 hboth
  · intro hne
    exact ⟨⟨_, hset, hiff.2 hne⟩, fun sdp type role random e he => (Parsed.parse he).fingerprint⟩

end Recovers

/-- A fingerprint of an algorithm that is valid. -/
def plainFingerprint (algorithm : Algorithm) : CertificateFingerprint where
  algorithm := algorithm
  value := (List.replicate (algorithm.size - 1) (bytes "aB:")).flatten ++ bytes "aB"

theorem isValid_plainFingerprint (algorithm : Algorithm) :
    (plainFingerprint algorithm).isValid = true := by
  cases algorithm <;> decide +kernel

/-- A description without sections. -/
theorem built_start : Built (start .unspec .actPass none none 0) :=
  .start (fun _ hmem => by cases hmem) fun _ hmem => by cases hmem

/-- A fingerprint of SHA-512. -/
theorem recovers_sha512 :
    ∃ d', (start .unspec .actPass none none 0).setFingerprint (plainFingerprint .sha512) = .ok d' ∧
      d'.RecoversBoth (plainFingerprint .sha512).stored :=
  ((recoversFingerprint_iff built_start (isValid_plainFingerprint .sha512)).2 (by decide)).1

/-- A fingerprint of SHA-384 is printed as one of SHA-256, and the text is not parsed. -/
theorem not_recovers_sha384 :
    ¬∀ (d : Description) (f : CertificateFingerprint), Built d → f.isValid = true →
      ∃ d', d.setFingerprint f = .ok d' ∧ d'.RecoversBoth f.stored := by
  intro hall
  have hf := isValid_plainFingerprint .sha384
  obtain ⟨d', hd', hboth⟩ := hall _ _ built_start hf
  have hset : (start .unspec .actPass none none 0).setFingerprint (plainFingerprint .sha384) =
      .ok ((start .unspec .actPass none none 0).withFingerprint
        (plainFingerprint .sha384).stored) := by
    rw [setFingerprint, if_pos hf]
    rfl
  obtain rfl := Except.ok.inj (hset.symm.trans hd')
  exact (recoversBoth_iff built_start.wellFormed rfl (isValid_upper hf)
    (plainFingerprint .sha384).stored_stored).1 hboth rfl

end Description

end Sdp

end Rtc
