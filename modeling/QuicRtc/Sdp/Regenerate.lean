import QuicRtc.Sdp.ParsedLines

/-!
# A text that is printed again grows

`generateSdp` always prints the line `a=msid-semantic:WMS *`, and the parser keeps a line before the
first section that it does not know as an attribute of the session, which is printed again.

* `foldlM_mAttributes`: the attributes of a parsed description are the session lines with keys that
  the session does not take.
* `sublist_mAttributes`: those of a text that was printed for a parsed description are the line and
  the attributes before.
* `generateSdp_ne`: no description is printed to a text that is printed again when it is parsed.
-/

namespace Rtc

namespace Sdp

open Http (space lf cr colon crlf)
open WsHandshake (isSpace)
open LocalDescription (Direction)

namespace Description

/-! ## The attributes of the session -/

/-- The attribute that the session keeps of a line. -/
def sessionAttribute (line : Text) : Option Text :=
  if matchPrefix line (bytes "a=") = true ∧ lineKey line ∉ sessionKeys then some (line.drop 2)
  else none

/-- The attributes that the session keeps of the lines before the first section. -/
def sessionAttributes (texts : List Text) : List Text :=
  (texts.takeWhile fun line => !matchPrefix line (bytes "m=")).filterMap sessionAttribute

section Step

variable {p p' : Parser} {line : Text}

theorem parseCurrent_mEntries {d d' : Description} (h : Parser.parseCurrent d line = .ok d') :
    d'.mAttributes = d.mAttributes ∧ (d'.mEntries = [] ↔ d.mEntries = []) := by
  rw [Parser.parseCurrent] at h
  split at h
  · next current hcurrent =>
    obtain ⟨s, -, h⟩ := bind_eq_ok.1 h
    obtain rfl := Except.ok.inj h
    have hne : d.mEntries ≠ [] := by
      rintro hnil
      rw [hnil] at hcurrent
      cases hcurrent
    exact ⟨rfl, by simp [hne]⟩
  · obtain rfl := Except.ok.inj h
    exact ⟨rfl, Iff.rfl⟩

/-- A media line begins a section. -/
theorem parseLine_media (hmedia : matchPrefix line (bytes "m=") = true)
    (h : p.parseLine line = .ok p') :
    p'.description.mAttributes = p.description.mAttributes ∧ p'.description.mEntries ≠ [] := by
  rw [Parser.parseLine, if_pos hmedia] at h
  obtain ⟨d, hd, h⟩ := bind_eq_ok.1 h
  obtain rfl := Except.ok.inj h
  rw [createEntry] at hd
  split_ifs at hd
  · obtain ⟨a, -, hd⟩ := bind_eq_ok.1 hd
    obtain rfl := Except.ok.inj hd
    exact ⟨rfl, List.append_ne_nil_of_right_ne_nil _ (List.cons_ne_nil _ _)⟩
  · obtain ⟨m, -, hd⟩ := bind_eq_ok.1 hd
    obtain rfl := Except.ok.inj hd
    exact ⟨rfl, List.append_ne_nil_of_right_ne_nil _ (List.cons_ne_nil _ _)⟩

/-- Another line begins no section, and it adds to the attributes where there is none. -/
theorem parseLine_other (hmedia : ¬matchPrefix line (bytes "m=") = true)
    (h : p.parseLine line = .ok p') :
    (p'.description.mEntries = [] ↔ p.description.mEntries = []) ∧
      p'.description.mAttributes = p.description.mAttributes ++
        if p.description.mEntries = [] then (sessionAttribute line).toList else [] := by
  rw [Parser.parseLine, if_neg hmedia] at h
  split_ifs at h with horigin hattribute
  · obtain rfl := Except.ok.inj h
    have hnone : sessionAttribute line = none := by
      obtain ⟨text, rfl⟩ := List.isPrefixOf_iff_prefix.1 horigin
      have hnot : matchPrefix (bytes "o=" ++ text) (bytes "a=") = false := rfl
      rw [sessionAttribute, hnot, if_neg (by simp)]
    have hsame : ∀ origin, (Parser.parseOrigin p.description origin).mEntries =
        p.description.mEntries ∧ (Parser.parseOrigin p.description origin).mAttributes =
          p.description.mAttributes := by
      intro origin
      rw [Parser.parseOrigin]
      split
      · exact ⟨rfl, rfl⟩
      · split <;> exact ⟨rfl, rfl⟩
    obtain ⟨hentries, hattributes⟩ := hsame (line.drop 2)
    refine ⟨by rw [hentries], ?_⟩
    rw [hattributes, hnone]
    simp
  · obtain ⟨d, hd, h⟩ := bind_eq_ok.1 h
    obtain rfl := Except.ok.inj h
    rcases Parser.parseAttribute_cases hd with ⟨hkey, ht⟩ | ⟨hkey, hother⟩
    · -- the session takes the attribute
      have hnone : sessionAttribute line = none := if_neg fun hboth => hboth.2 hkey
      refine ⟨by rw [ht.mEntries], ?_⟩
      rw [ht.mAttributes, hnone]
      simp
    · rw [Parser.parseOther] at hother
      split_ifs at hother with hentries
      · obtain rfl := Except.ok.inj hother
        have hsome : sessionAttribute line = some (line.drop 2) := if_pos ⟨hattribute, hkey⟩
        refine ⟨Iff.rfl, ?_⟩
        rw [if_pos hentries, hsome]
        rfl
      · obtain ⟨hsame, hiff⟩ := parseCurrent_mEntries hother
        exact ⟨hiff, by rw [hsame, if_neg hentries, List.append_nil]⟩
  · obtain ⟨d, hd, h⟩ := bind_eq_ok.1 h
    obtain rfl := Except.ok.inj h
    have hnone : sessionAttribute line = none := if_neg fun hboth => hattribute hboth.1
    obtain ⟨hsame, hiff⟩ := parseCurrent_mEntries hd
    refine ⟨hiff, ?_⟩
    rw [hsame, hnone]
    simp

end Step

/-- Once there is a section, the session keeps no more attributes. -/
theorem foldlM_mAttributes_of_ne_nil {texts : List Text} {p p' : Parser}
    (hentries : p.description.mEntries ≠ []) (h : texts.foldlM Parser.parseLine p = .ok p') :
    p'.description.mAttributes = p.description.mAttributes := by
  induction texts generalizing p with
  | nil =>
    obtain rfl := Except.ok.inj h
    rfl
  | cons line texts ih =>
    obtain ⟨p₁, hp₁, h⟩ := bind_eq_ok.1 h
    by_cases hmedia : matchPrefix line (bytes "m=") = true
    · obtain ⟨hattributes, hne⟩ := parseLine_media hmedia hp₁
      rw [ih hne h, hattributes]
    · obtain ⟨hiff, hattributes⟩ := parseLine_other hmedia hp₁
      rw [ih (mt hiff.1 hentries) h, hattributes, if_neg hentries, List.append_nil]

/-- The session keeps the attributes before the first section. -/
theorem foldlM_mAttributes {texts : List Text} {p p' : Parser}
    (hentries : p.description.mEntries = []) (h : texts.foldlM Parser.parseLine p = .ok p') :
    p'.description.mAttributes = p.description.mAttributes ++ sessionAttributes texts := by
  induction texts generalizing p with
  | nil =>
    obtain rfl := Except.ok.inj h
    exact (List.append_nil _).symm
  | cons line texts ih =>
    obtain ⟨p₁, hp₁, h⟩ := bind_eq_ok.1 h
    by_cases hmedia : matchPrefix line (bytes "m=") = true
    · obtain ⟨hattributes, hne⟩ := parseLine_media hmedia hp₁
      rw [foldlM_mAttributes_of_ne_nil hne h, hattributes, sessionAttributes, List.takeWhile_cons,
        hmedia]
      simp
    · obtain ⟨hiff, hattributes⟩ := parseLine_other hmedia hp₁
      rw [ih (hiff.2 hentries) h, hattributes, if_pos hentries, List.append_assoc,
        sessionAttributes, sessionAttributes, List.takeWhile_cons, Bool.eq_false_iff.2 hmedia]
      cases hline : sessionAttribute line <;> simp [hline]

theorem mAttributes_parse {sdp : Text} {type : Kind} {role : Role} {random : UInt32}
    {d : Description} (h : parse sdp type role random = .ok d) :
    d.mAttributes = sessionAttributes (lines sdp) := by
  obtain ⟨p, hp, hd⟩ := bind_eq_ok.1 h
  obtain rfl := Except.ok.inj hd
  have hstart : (hintType { mRole := role } type).mEntries = [] ∧
      (hintType { mRole := role } type).mAttributes = [] := by
    rw [hintType]
    split_ifs <;> exact ⟨rfl, rfl⟩
  have hfold := foldlM_mAttributes (p := { description := hintType { mRole := role } type })
    hstart.1 hp
  rw [hstart.2, List.nil_append] at hfold
  exact hfold

/-! ## The lines of the session -/

section Printed

variable {d : Description}

/-- Attributes whose value has no line feed are printed, and they begin no section. -/
theorem isPrinted_attributeLine {key value : Text} (hkey : lf ∉ key) (hvalue : lf ∉ value) :
    IsPrinted (attributeLine key value) ∧
      matchPrefix (attributeLine key value) (bytes "m=") = false := by
  refine ⟨isPrinted_cons (by decide) ?_, rfl⟩
  show lf ∉ attributeLine key value
  rw [attributeLine, List.mem_append, List.mem_append, List.mem_cons, not_or, not_or, not_or]
  exact ⟨by decide, hkey, by decide, hvalue⟩

theorem lf_notMem_implode {tokens : List Text} (h : ∀ token ∈ tokens, lf ∉ token) :
    lf ∉ Utils.implode tokens comma := by
  intro hmem
  obtain ⟨token, htoken, hmem⟩ := List.mem_flatMap.1 (List.dropLast_subset _ hmem)
  rcases List.mem_append.1 hmem with hmem | hmem
  · exact h token htoken hmem
  · exact absurd (List.mem_singleton.1 hmem) (by decide)

theorem isPrinted_groupLines {semantics : Text} (hsemantics : lf ∉ semantics)
    {sections : List Section} (hmids : ∀ s ∈ sections, lf ∉ s.entry.mMid) :
    ∀ line ∈ groupLines semantics sections,
      IsPrinted line ∧ matchPrefix line (bytes "m=") = false := by
  rw [groupLines]
  split_ifs
  · exact fun _ hmem => (List.not_mem_nil hmem).elim
  · refine List.forall_mem_singleton.2 (isPrinted_attributeLine (by decide) ?_)
    rw [List.mem_append, not_or, List.mem_flatMap]
    refine ⟨hsemantics, ?_⟩
    rintro ⟨s, hs, hmem⟩
    rcases List.mem_cons.1 hmem with heq | hmem
    · exact absurd heq (by decide)
    · exact hmids s hs hmem

/-- The lines before the sections of a parsed description. -/
theorem isPrinted_sessionLines (h : Parsed d) :
    ∀ line ∈ d.headerLines ++ d.sessionLines,
      IsPrinted line ∧ matchPrefix line (bytes "m=") = false := by
  have horigin : lf ∉ d.mUsername ++ space :: (d.mSessionId ++ bytes " 0 IN IP4 127.0.0.1") := by
    rw [List.mem_append, List.mem_cons, List.mem_append, not_or, not_or, not_or]
    exact ⟨h.username, by decide, h.sessionId, by decide⟩
  have hkept : ∀ s ∈ d.kept, lf ∉ s.entry.mMid := fun s hs => h.mids s (List.mem_of_mem_filter hs)
  refine List.forall_mem_append.2 ⟨?_, List.forall_mem_append.2 ⟨List.forall_mem_append.2
    ⟨isPrinted_groupLines (by decide) hkept, ?_⟩, List.forall_mem_cons.2 ⟨?_,
      List.forall_mem_append.2 ⟨List.forall_mem_append.2 ⟨?_, ?_⟩, ?_⟩⟩⟩⟩
  · refine List.forall_mem_cons.2 ⟨⟨isPrinted_cons (by decide) (by decide), rfl⟩,
      List.forall_mem_cons.2 ⟨⟨isPrinted_cons (by decide) ?_, rfl⟩, List.forall_mem_cons.2
        ⟨⟨isPrinted_cons (by decide) (by decide), rfl⟩, List.forall_mem_singleton.2
          ⟨isPrinted_cons (by decide) (by decide), rfl⟩⟩⟩⟩
    show lf ∉ bytes "o=" ++ _
    rw [List.mem_append, not_or]
    exact ⟨by decide, horigin⟩
  · exact isPrinted_groupLines (by decide) fun s hs => hkept s (List.mem_of_mem_filter hs)
  · exact ⟨isPrinted_cons (by decide) (by decide), rfl⟩
  · split_ifs
    · exact fun _ hmem => (List.not_mem_nil hmem).elim
    · exact List.forall_mem_singleton.2
        (isPrinted_attributeLine (by decide) (lf_notMem_implode h.iceOptions))
  · refine List.forall_mem_map.2 fun f hf => isPrinted_attributeLine (by decide) ?_
    rw [List.mem_append, List.mem_cons, not_or, not_or]
    have hvalue := isWord_fingerprint (h.fingerprint f (Option.mem_toList.1 hf))
    refine ⟨?_, by decide, hvalue.lf_notMem⟩
    cases f.algorithm <;> decide
  · exact List.forall_mem_map.2 fun attr hattr => ⟨(h.attributes attr hattr).isLine.isPrinted, rfl⟩

/-- Behind the session, the text ends or a section begins. -/
theorem sessionAttributes_entryLines (d : Description) (first : Bool) (sections : List Section) :
    sessionAttributes (lines ((d.entryLines first sections).flatMap (· ++ crlf))) = [] := by
  cases sections with
  | nil =>
    rw [entryLines, List.flatMap_nil, lines_nil]
    rfl
  | cons s sections =>
    obtain ⟨text, htext⟩ : ∃ text,
        (d.entryLines first (s :: sections)).flatMap (· ++ crlf) = bytes "m=" ++ text := by
      rw [entryLines, Section.generateSdp, Section.mLine]
      exact ⟨_, rfl⟩
    obtain ⟨line, rest, hlines, hmedia⟩ := lines_media text
    rw [htext, hlines, sessionAttributes, List.takeWhile_cons, hmedia]
    rfl

/-- The lines of attributes are the attributes again. -/
theorem filterMap_attributes {attributes : List Text}
    (h : ∀ attr ∈ attributes, IsSessionAttribute attr) :
    ((attributes.map (bytes "a=" ++ ·)).map trimEnd).filterMap sessionAttribute = attributes := by
  induction attributes with
  | nil => rfl
  | cons attr attributes ih =>
    obtain ⟨hattr, hattributes⟩ := List.forall_mem_cons.1 h
    have hsome : sessionAttribute (trimEnd (bytes "a=" ++ attr)) = some attr := by
      rw [trimEnd_of_isLine hattr.isLine]
      exact if_pos ⟨rfl, hattr.key⟩
    rw [List.map_cons, List.map_cons, List.filterMap_cons_some hsome, ih hattributes]

/-- The line that is always printed is kept together with the attributes. -/
theorem sublist_sessionAttributes (h : Parsed d) :
    (bytes "msid-semantic:WMS *" :: d.mAttributes).Sublist
      (sessionAttributes (lines (d.generateSdp crlf))) := by
  have hprinted := isPrinted_sessionLines h
  have hsplit : d.generateSdp crlf = (d.headerLines ++ d.sessionLines).flatMap (· ++ crlf) ++
      (d.entryLines true d.mEntries).flatMap (· ++ crlf) := by
    rw [generateSdp, sdpLines, List.flatMap_append]
  have htaken : ∀ rest, sessionAttributes ((d.headerLines ++ d.sessionLines).map trimEnd ++ rest) =
      ((d.headerLines ++ d.sessionLines).map trimEnd).filterMap sessionAttribute ++
        sessionAttributes rest := by
    intro rest
    rw [sessionAttributes, List.takeWhile_append_of_pos, List.filterMap_append, sessionAttributes]
    refine List.forall_mem_map.2 fun line hline => ?_
    have hnot := (hprinted line hline).2
    rw [Bool.not_eq_true', Bool.eq_false_iff]
    exact fun hmedia => absurd (matchPrefix_of_trimEnd hmedia) (by rw [hnot]; decide)
  rw [hsplit, lines_flatMap_append, lines_flatMap fun line hline => (hprinted line hline).1, htaken,
    sessionAttributes_entryLines, List.append_nil, List.map_append, List.filterMap_append,
    sessionLines, List.map_append, List.filterMap_append]
  refine (List.Sublist.trans ?_ (List.sublist_append_right _ _)).trans
    (List.sublist_append_right _ _)
  rw [List.map_cons, List.map_append, List.filterMap_cons, List.filterMap_append,
    filterMap_attributes h.attributes]
  exact .cons_cons _ (List.sublist_append_right _ _)

end Printed

/-! ## The main result -/

/-- The attributes grow when a text is printed and parsed. -/
theorem sublist_mAttributes {sdp : Text} {type type' : Kind} {role role' : Role}
    {random random' : UInt32} {d d' : Description} (h : parse sdp type role random = .ok d)
    (h' : parse (d.generateSdp crlf) type' role' random' = .ok d') :
    (bytes "msid-semantic:WMS *" :: d.mAttributes).Sublist d'.mAttributes := by
  rw [mAttributes_parse h']
  exact sublist_sessionAttributes (.parse h)

/-- **Regeneration.** What is printed for a description is never printed again when it is parsed. -/
theorem generateSdp_ne (d : Description) : ¬∃ type role random d',
    parse (d.generateSdp crlf) type role random = .ok d' ∧
      d'.generateSdp crlf = d.generateSdp crlf := by
  rintro ⟨type, role, random, d', hd', hsame⟩
  have hparse : parse (d'.generateSdp crlf) type role random = .ok d' := hsame ▸ hd'
  -- the attributes would have to be longer than they are
  have hlength := (sublist_mAttributes hd' hparse).length_le
  rw [List.length_cons] at hlength
  omega

/-- The lines that are printed for the empty text. -/
def emptyTextLines : List Text :=
  [bytes "v=0", bytes "o=rtc 0 0 IN IP4 127.0.0.1", bytes "s=-", bytes "t=0 0",
    bytes "a=msid-semantic:WMS *"]

theorem isPrinted_emptyTextLines : ∀ line ∈ emptyTextLines, IsPrinted line := by
  intro line hline
  refine ⟨?_, ?_⟩
  · revert line
    decide +kernel
  · revert line
    decide +kernel

/-- The empty text is printed with one line more when it is parsed again. -/
theorem not_regenerated_empty :
    ¬∀ (sdp : Text) (type : Kind) (role : Role) (random : UInt32) (d : Description),
      parse sdp type role random = .ok d →
      ∃ d', parse (d.generateSdp crlf) type role random = .ok d' ∧
        d'.generateSdp crlf = d.generateSdp crlf := by
  intro hall
  obtain ⟨d, hd, hlines⟩ : ∃ d, parse [] .offer .actPass 0 = .ok d ∧
      d.sdpLines = emptyTextLines := by
    rw [parse, lines_nil]
    exact ⟨_, rfl, by decide +kernel⟩
  obtain ⟨d', hd', hgrown⟩ : ∃ d', parse (d.generateSdp crlf) .offer .actPass 0 = .ok d' ∧
      d'.sdpLines = emptyTextLines ++ [bytes "a=msid-semantic:WMS *"] := by
    rw [parse, generateSdp, hlines, lines_flatMap isPrinted_emptyTextLines]
    exact ⟨_, rfl, by decide +kernel⟩
  obtain ⟨d'', hd'', hsame⟩ := hall [] .offer .actPass 0 d hd
  obtain rfl := Except.ok.inj (hd'.symm.trans hd'')
  rw [generateSdp, generateSdp, hlines, hgrown] at hsame
  exact absurd hsame (by decide +kernel)

end Description

end Sdp

end Rtc
