import QuicRtc.Sdp.Numbering

/-!
# The lines of a text

The lines that the constructor of `Description` takes from any text, and what it makes of them.

* `isLine_of_mem_lines`, `lines_flatMap_append`, `lines_media`: the lines of a text are trimmed, a
  text is split behind what is printed, and a section begins with a media line.
* `Parsed.parse`: what is in a parsed description stands on one line, its fingerprint is valid, and
  its attributes have keys that the session does not take.
-/

namespace Rtc

namespace Sdp

open Http (space lf cr colon crlf toLower)
open WsHandshake (isSpace)
open LocalDescription (Direction)

/-! ## Lines -/

/-- What is left of a text when it is trimmed is a prefix. -/
theorem matchPrefix_of_trimEnd {line pre : Text} (h : matchPrefix (trimEnd line) pre = true) :
    matchPrefix line pre = true := by
  rw [matchPrefix, List.isPrefixOf_iff_prefix] at h ⊢
  exact h.trans (List.rdropWhile_prefix _ _)

/-- A text that is trimmed to something is trimmed to a line. -/
theorem isLine_trimEnd {text : Text} (hlf : lf ∉ text) (hne : trimEnd text ≠ []) :
    IsLine (trimEnd text) where
  ne_nil := hne
  lf_notMem hmem := hlf ((List.rdropWhile_prefix _ _).subset hmem)
  last c hc := by
    have hlast := List.rdropWhile_last_not isSpace text hne
    rw [List.getLast?_eq_getLast_of_ne_nil hne, Option.mem_some_iff] at hc
    rw [← hc]
    exact Bool.eq_false_iff.2 hlast

/-- A text that does not begin with white space is printed, if it has no line feed. -/
theorem isPrinted_cons {c : UInt8} {text : Text} (hc : isSpace c = false) (hlf : lf ∉ c :: text) :
    IsPrinted (c :: text) where
  lf_notMem := hlf
  trimmed hnil := by
    have hall := List.rdropWhile_eq_nil_iff.1 hnil c List.mem_cons_self
    rw [hc] at hall
    cases hall

namespace Description

theorem isLine_of_mem_lines {sdp line : Text} (h : line ∈ lines sdp) : IsLine line := by
  obtain ⟨hmem, hne⟩ := List.mem_filter.1 h
  obtain ⟨token, htoken, rfl⟩ := List.mem_map.1 hmem
  exact isLine_trimEnd (Utils.of_mem_explode htoken).1 (of_decide_eq_true hne)

theorem lines_nil : lines [] = [] := by
  rw [lines, Utils.explode, if_pos rfl]
  rfl

/-- A text is split at one of its line feeds. -/
theorem lines_append_lf (text rest : Text) :
    lines (text ++ lf :: rest) = lines (text ++ [lf]) ++ lines rest := by
  rw [lines, Utils.explode_append_append, List.map_append, List.filter_append]
  rfl

/-- Behind lines that are printed, whatever they contain, other lines begin. -/
theorem lines_flatMap_append (texts : List Text) (rest : Text) :
    lines (texts.flatMap (· ++ crlf) ++ rest) =
      lines (texts.flatMap (· ++ crlf)) ++ lines rest := by
  have hcons : ∀ text rest : Text,
      lines (text ++ crlf ++ rest) = lines (text ++ crlf) ++ lines rest := by
    intro text rest
    have hsplit : text ++ crlf ++ rest = (text ++ [cr]) ++ lf :: rest := by simp [crlf]
    have hend : text ++ crlf = (text ++ [cr]) ++ [lf] := by simp [crlf]
    rw [hsplit, hend, lines_append_lf]
  induction texts with
  | nil =>
    rw [List.flatMap_nil, lines_nil]
    rfl
  | cons text texts ih =>
    rw [List.flatMap_cons, List.append_assoc, hcons, hcons, ih, List.append_assoc]

/-- A media line is not trimmed to nothing. -/
theorem matchPrefix_trimEnd_media (text : Text) :
    matchPrefix (trimEnd (bytes "m=" ++ text)) (bytes "m=") = true := by
  induction text using List.reverseRecOn with
  | nil => decide
  | append_singleton text c ih =>
    rw [← List.append_assoc, trimEnd]
    by_cases hc : isSpace c = true
    · rw [List.rdropWhile_concat_pos _ _ _ hc]
      exact ih
    · rw [List.rdropWhile_concat_neg _ _ _ hc]
      rfl

/-- The first line of a section is a media line, whatever the section is. -/
theorem lines_media (text : Text) : ∃ line rest,
    lines (bytes "m=" ++ text) = line :: rest ∧ matchPrefix line (bytes "m=") = true := by
  have hmedia : ∀ first rest, matchPrefix (trimEnd (bytes "m=" ++ first)) (bytes "m=") = true ∧
      ((trimEnd (bytes "m=" ++ first) :: rest).filter fun line => line ≠ []) =
        trimEnd (bytes "m=" ++ first) :: rest.filter fun line => line ≠ [] := by
    intro first rest
    have hmatch := matchPrefix_trimEnd_media first
    refine ⟨hmatch, List.filter_cons_of_pos (decide_eq_true fun hnil => ?_)⟩
    rw [hnil] at hmatch
    cases hmatch
  cases hread : Reader.upTo lf text with
  | some result =>
    obtain ⟨first, rest⟩ := result
    obtain ⟨hlf, rfl⟩ := Reader.upTo_eq_some_iff.1 hread
    have hfirst : lf ∉ bytes "m=" ++ first := by
      rw [List.mem_append, not_or]
      exact ⟨by decide, hlf⟩
    obtain ⟨hmatch, hfilter⟩ := hmedia first ((Utils.explode rest lf).map trimEnd)
    refine ⟨_, lines rest, ?_, hmatch⟩
    rw [lines, ← List.append_assoc, Utils.explode_append hfirst, List.map_cons, hfilter, lines]
  | none =>
    have hfirst : lf ∉ bytes "m=" ++ text := by
      rw [List.mem_append, not_or]
      exact ⟨by decide, Reader.upTo_eq_none_iff.1 hread⟩
    obtain ⟨hmatch, hfilter⟩ := hmedia text []
    refine ⟨_, [], ?_, hmatch⟩
    have hne : bytes "m=" ++ text ≠ [] := List.append_ne_nil_of_left_ne_nil (by decide) _
    rw [lines, Utils.explode_token hne hfirst, List.map_singleton, hfilter, List.filter_nil]

/-! ## Parsed descriptions -/

/-- An attribute that the parser keeps for the session. -/
structure IsSessionAttribute (attr : Text) : Prop where
  isLine : IsLine (bytes "a=" ++ attr)
  key : lineKey (bytes "a=" ++ attr) ∉ sessionKeys

/-- What the parser makes of lines. -/
structure Parsed (d : Description) : Prop where
  username : lf ∉ d.mUsername
  sessionId : lf ∉ d.mSessionId
  iceOptions : ∀ option ∈ d.mIceOptions, lf ∉ option
  fingerprint : ∀ f ∈ d.mFingerprint, f.isValid = true
  attributes : ∀ attr ∈ d.mAttributes, IsSessionAttribute attr
  mids : ∀ s ∈ d.mEntries, lf ∉ s.entry.mMid

namespace Parsed

variable {d d' : Description} {line : Text}

/-- What stands behind a prefix of a line is on the line, too. -/
theorem lf_notMem_value (h : IsLine line) : lf ∉ (parsePair (line.drop 2)).2 := by
  have hdrop : lf ∉ line.drop 2 := fun hmem => h.lf_notMem (List.mem_of_mem_drop hmem)
  rw [parsePair]
  cases hread : Reader.upTo colon (line.drop 2) with
  | none => exact List.not_mem_nil
  | some result =>
    obtain ⟨-, hsplit⟩ := Reader.upTo_eq_some_iff.1 hread
    intro hmem
    rw [hsplit] at hdrop
    exact hdrop (List.mem_append_right _ (List.mem_cons_of_mem _ hmem))

theorem taken (h : Parsed d) {value : Text} (hvalue : lf ∉ value) (ht : Taken d d' value) :
    Parsed d' where
  username := ht.mUsername ▸ h.username
  sessionId := ht.mSessionId ▸ h.sessionId
  iceOptions option hoption := by
    rcases ht.mIceOptions with hsame | hnew
    · exact h.iceOptions option (hsame ▸ hoption)
    · rw [hnew] at hoption
      exact fun hmem => hvalue ((Utils.of_mem_explode hoption).2 hmem)
  fingerprint f hf := by
    rcases ht.mFingerprint with hsame | ⟨g, hvalid, hnew⟩
    · exact h.fingerprint f (hsame ▸ hf)
    · rw [hnew] at hf
      obtain rfl := Option.some.inj hf
      exact isValid_upper hvalid
  attributes attr hattr := h.attributes attr (ht.mAttributes ▸ hattr)
  mids s hs := h.mids s (ht.mEntries ▸ hs)

theorem parseOrigin (h : Parsed d) (origin : Text) : Parsed (Parser.parseOrigin d origin) := by
  rw [Parser.parseOrigin]
  split
  · exact h
  · next hname =>
    have husername := (isWord_of_word hname).lf_notMem
    split
    · exact ⟨husername, h.sessionId, h.iceOptions, h.fingerprint, h.attributes, h.mids⟩
    · next hid =>
      exact ⟨husername, (isWord_of_word hid).lf_notMem, h.iceOptions, h.fingerprint, h.attributes,
        h.mids⟩

theorem parseCurrent (h : Parsed d) (hline : IsLine line)
    (hd : Parser.parseCurrent d line = .ok d') : Parsed d' := by
  rw [Parser.parseCurrent] at hd
  split at hd
  · next current hcurrent =>
    obtain ⟨s, hs, hd⟩ := bind_eq_ok.1 hd
    obtain rfl := Except.ok.inj hd
    have hmid : lf ∉ s.entry.mMid := by
      rw [(Section.parseSdpLine_eq hs).2, midOf]
      split_ifs
      · exact lf_notMem_value hline
      · exact h.mids current (List.mem_of_getLast? hcurrent)
    refine ⟨h.username, h.sessionId, h.iceOptions, h.fingerprint, h.attributes, ?_⟩
    refine List.forall_mem_append.2 ⟨fun s hs => h.mids s (List.dropLast_subset _ hs), ?_⟩
    exact List.forall_mem_singleton.2 hmid
  · obtain rfl := Except.ok.inj hd
    exact h

theorem parseAttribute (h : Parsed d) (hline : IsLine line)
    (ha : matchPrefix line (bytes "a=") = true) {index : ℤ}
    (hd : Parser.parseAttribute d index line = .ok d') : Parsed d' := by
  rcases Parser.parseAttribute_cases hd with ⟨-, ht⟩ | ⟨hkey, hother⟩
  · exact h.taken (lf_notMem_value hline) ht
  · rw [Parser.parseOther] at hother
    split_ifs at hother
    · obtain rfl := Except.ok.inj hother
      obtain ⟨attr, rfl⟩ := List.isPrefixOf_iff_prefix.1 ha
      refine ⟨h.username, h.sessionId, h.iceOptions, h.fingerprint, ?_, h.mids⟩
      exact List.forall_mem_append.2 ⟨h.attributes, List.forall_mem_singleton.2 ⟨hline, hkey⟩⟩
    · exact h.parseCurrent hline hother

theorem addSection (h : Parsed d) {s : Section} (hs : lf ∉ s.entry.mMid) :
    Parsed (d.addSection s) where
  username := h.username
  sessionId := h.sessionId
  iceOptions := h.iceOptions
  fingerprint := h.fingerprint
  attributes := h.attributes
  mids := List.forall_mem_append.2 ⟨h.mids, List.forall_mem_singleton.2 hs⟩

theorem createEntry (h : Parsed d) {mline mid : Text} {dir : Direction} (hmid : lf ∉ mid)
    (hd : d.createEntry mline mid dir = .ok d') : Parsed d' := by
  rw [Description.createEntry] at hd
  split_ifs at hd
  · obtain ⟨a, ha, hd⟩ := bind_eq_ok.1 hd
    obtain rfl := Except.ok.inj hd
    obtain ⟨e, he, ha⟩ := bind_eq_ok.1 ha
    obtain rfl := Except.ok.inj ha
    have hremoved : Parsed d.removeApplication :=
      ⟨h.username, h.sessionId, h.iceOptions, h.fingerprint, h.attributes,
        fun s hs => h.mids s (List.mem_of_mem_eraseP hs)⟩
    refine hremoved.addSection ?_
    show lf ∉ e.mMid
    exact (Entry.ofMLine_eq he).1 ▸ hmid
  · obtain ⟨m, hm, hd⟩ := bind_eq_ok.1 hd
    obtain rfl := Except.ok.inj hd
    obtain ⟨e, he, hm⟩ := bind_eq_ok.1 hm
    obtain rfl := Except.ok.inj hm
    refine h.addSection ?_
    show lf ∉ e.mMid
    exact (Entry.ofMLine_eq he).1 ▸ hmid

/-- One line. -/
theorem parseLine {p p' : Parser} (h : Parsed p.description) (hline : IsLine line)
    (hp : p.parseLine line = .ok p') : Parsed p'.description := by
  rw [Parser.parseLine] at hp
  split_ifs at hp with hmedia horigin hattribute
  · obtain ⟨d, hd, hp⟩ := bind_eq_ok.1 hp
    obtain rfl := Except.ok.inj hp
    exact h.createEntry (isWord_toString _).lf_notMem hd
  · obtain rfl := Except.ok.inj hp
    exact h.parseOrigin _
  · obtain ⟨d, hd, hp⟩ := bind_eq_ok.1 hp
    obtain rfl := Except.ok.inj hp
    exact h.parseAttribute hline hattribute hd
  · obtain ⟨d, hd, hp⟩ := bind_eq_ok.1 hp
    obtain rfl := Except.ok.inj hp
    exact h.parseCurrent hline hd

/-- The lines of a text. -/
theorem foldlM {texts : List Text} {p p' : Parser} (h : Parsed p.description)
    (hlines : ∀ line ∈ texts, IsLine line) (hp : texts.foldlM Parser.parseLine p = .ok p') :
    Parsed p'.description := by
  induction texts generalizing p with
  | nil =>
    obtain rfl := Except.ok.inj hp
    exact h
  | cons line texts ih =>
    obtain ⟨hline, htexts⟩ := List.forall_mem_cons.1 hlines
    obtain ⟨p₁, hp₁, hp⟩ := bind_eq_ok.1 hp
    exact ih (h.parseLine hline hp₁) htexts hp

/-- Every text that is accepted. -/
theorem parse {sdp : Text} {type : Kind} {role : Role} {random : UInt32}
    (h : parse sdp type role random = .ok d) : Parsed d := by
  obtain ⟨p, hp, hd⟩ := bind_eq_ok.1 h
  obtain rfl := Except.ok.inj hd
  have hstart : Parsed (hintType { mRole := role } type) := by
    rw [hintType]
    split_ifs
    · exact ⟨by simp, by simp, by simp, by simp, by simp, by simp⟩
    · exact ⟨by simp, by simp, by simp, by simp, by simp, by simp⟩
  have hparsed := hstart.foldlM (p := { description := hintType { mRole := role } type })
    (fun line hline => isLine_of_mem_lines hline) hp
  refine ⟨?_, ?_, hparsed.iceOptions, hparsed.fingerprint, hparsed.attributes, hparsed.mids⟩
  · rw [finish]
    dsimp only
    split_ifs
    · decide
    · exact hparsed.username
  · rw [finish]
    dsimp only
    split_ifs
    · exact (isWord_toString _).lf_notMem
    · exact hparsed.sessionId

end Parsed

end Description

end Sdp

end Rtc
