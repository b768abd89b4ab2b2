import QuicRtc.Utils

/-!
# HTTP header blocks

The functions of `impl/http.cpp`, which the WebSocket handshake is read with.

* `readLines_append`: what follows a header block does not change how it is read.
* `reads_block`: lines ended by CR LF and followed by an empty line are read as these lines, and
  nothing is read from a strict prefix.
* `parseHeader_field`: the key and the value of a header line.
-/

namespace Rtc.Http

/-- `'\r'`. -/
def cr : UInt8 := 13

/-- `'\n'`. -/
def lf : UInt8 := 10

/-- `' '`. -/
def space : UInt8 := 32

/-- `':'`. -/
def colon : UInt8 := 58

/-- `"\r\n"`. -/
def crlf : List UInt8 := [cr, lf]

/-- `std::tolower`, in the "C" locale. -/
def toLower (c : UInt8) : UInt8 := if 65 ≤ c ∧ c ≤ 90 then c + 32 else c

/-! ## Methods -/

/-- The loop of `isHttpRequest`, from the byte at the index `i`. -/
def isHttpRequestFrom (i : ℕ) : List UInt8 → Bool
  | [] => true
  | c :: buffer =>
    if 0 < i ∧ c = space then true
    -- not in the range from 'A' to 'Z'
    else if i ≥ 8 ∨ c < 65 ∨ c > 90 then false
    else isHttpRequestFrom (i + 1) buffer

/-- `isHttpRequest`: the buffer starts with a valid-looking HTTP method. -/
def isHttpRequest (buffer : List UInt8) : Bool := isHttpRequestFrom 0 buffer

theorem isHttpRequestFrom_of_append {i : ℕ} {buffer more : List UInt8}
    (h : isHttpRequestFrom i (buffer ++ more) = true) : isHttpRequestFrom i buffer = true := by
  induction buffer generalizing i with
  | nil => rfl
  | cons c buffer ih =>
    rw [List.cons_append, isHttpRequestFrom] at h
    rw [isHttpRequestFrom]
    split_ifs with hspace hbad
    · rfl
    · simp [hspace, hbad] at h
    · rw [if_neg hspace, if_neg hbad] at h
      exact ih h

/-- The start of a request is not rejected before the whole is there. -/
theorem isHttpRequest_of_start {p buffer : List UInt8} (hp : p <+: buffer)
    (h : isHttpRequest buffer = true) : isHttpRequest p = true := by
  obtain ⟨more, rfl⟩ := hp
  exact isHttpRequestFrom_of_append h

/-- The method ends before the first LF. -/
theorem isHttpRequestFrom_append {i : ℕ} {buffer : List UInt8} (hlf : lf ∈ buffer)
    (h : isHttpRequestFrom i buffer = true) (more : List UInt8) :
    isHttpRequestFrom i (buffer ++ more) = true := by
  induction buffer generalizing i with
  | nil => simp at hlf
  | cons c buffer ih =>
    rw [isHttpRequestFrom] at h
    rw [List.cons_append, isHttpRequestFrom]
    split_ifs at h ⊢ with hspace hbad
    · rfl
    · refine ih ?_ h
      -- a letter is not an LF
      rcases List.mem_cons.1 hlf with rfl | hmem
      · exact absurd (Or.inr (Or.inl (by decide))) hbad
      · exact hmem

/-! ## Lines -/

/-- The line without the CR at its end, if there is one. -/
def stripCR (line : List UInt8) : List UInt8 :=
  if line.getLast? = some cr then line.dropLast else line

/-- One round of the loop of `parseHttpLines`: the line up to the next LF. -/
def readLine : List UInt8 → Option (List UInt8 × List UInt8) :=
  Reader.map stripCR (Reader.upTo lf)

theorem readLine_append : Reader.Stable readLine := (Reader.Stable.upTo lf).map stripCR

/-- The bytes behind the line are fewer. -/
theorem length_of_readLine {cur line rest : List UInt8} (h : readLine cur = some (line, rest)) :
    rest.length < cur.length := by
  obtain ⟨⟨value, r⟩, hread, heq⟩ := Option.map_eq_some_iff.1 h
  obtain ⟨rfl, rfl⟩ := Prod.mk.inj heq
  obtain ⟨-, rfl⟩ := Reader.upTo_eq_some_iff.1 hread
  simp
  omega

/-- The loop of `parseHttpLines`: the lines before the first empty one, and the bytes behind that.
The source returns `0` where the result is `none`. -/
def readLines (cur : List UInt8) : Option (List (List UInt8) × List UInt8) :=
  match _h : readLine cur with
  | none => none
  | some (line, rest) =>
    if line = [] then some ([], rest)
    else (readLines rest).map fun (lines, rest) => (line :: lines, rest)
termination_by cur.length
decreasing_by exact length_of_readLine _h

/-- `parseHttpLines`: the value it returns and the lines, which its callers do not look at when it
returns `0`. -/
def parseHttpLines (buffer : List UInt8) : ℕ × List (List UInt8) :=
  match readLines buffer with
  | none => (0, [])
  | some (lines, rest) => (buffer.length - rest.length, lines)

theorem readLines_eq_none {cur : List UInt8} (h : readLine cur = none) : readLines cur = none := by
  rw [readLines]
  split
  · rfl
  · next heq => simp [h] at heq

theorem readLines_eq {cur line rest : List UInt8} (h : readLine cur = some (line, rest)) :
    readLines cur = if line = [] then some ([], rest)
      else (readLines rest).map fun (lines, rest) => (line :: lines, rest) := by
  rw [readLines]
  split
  · next heq => simp [h] at heq
  · next heq =>
    obtain ⟨rfl, rfl⟩ := Prod.mk.inj (Option.some.inj (h.symm.trans heq))
    rfl

/-- The bytes behind a header block stay behind it. -/
theorem readLines_append : Reader.Stable readLines := by
  intro stream
  -- by the rounds of the loop
  induction stream using readLines.induct with
  | case1 cur hline =>
    intro lines rest hread
    simp [readLines_eq_none hline] at hread
  | case2 cur rest hline =>
    intro lines rest' hread more
    rw [readLines_eq hline, if_pos rfl] at hread
    obtain ⟨rfl, rfl⟩ := Prod.mk.inj (Option.some.inj hread)
    have hmore := readLine_append _ _ _ hline more
    rw [readLines_eq hmore, if_pos rfl]
  | case3 cur line rest hline hne ih =>
    intro lines rest' hread more
    rw [readLines_eq hline, if_neg hne] at hread
    obtain ⟨⟨lines, r⟩, htail, heq⟩ := Option.map_eq_some_iff.1 hread
    obtain ⟨rfl, rfl⟩ := Prod.mk.inj heq
    have hmore := readLine_append _ _ _ hline more
    rw [readLines_eq hmore, if_neg hne, ih _ _ htail more]
    rfl

theorem length_of_readLines {cur : List UInt8} : ∀ {lines : List (List UInt8)} {rest : List UInt8},
    readLines cur = some (lines, rest) → rest.length < cur.length := by
  induction cur using readLines.induct with
  | case1 cur hline =>
    intro lines rest hread
    simp [readLines_eq_none hline] at hread
  | case2 cur rest hline =>
    intro lines rest' hread
    rw [readLines_eq hline, if_pos rfl] at hread
    obtain ⟨rfl, rfl⟩ := Prod.mk.inj (Option.some.inj hread)
    exact length_of_readLine hline
  | case3 cur line rest hline hne ih =>
    intro lines rest' hread
    rw [readLines_eq hline, if_neg hne] at hread
    obtain ⟨⟨lines, r⟩, htail, heq⟩ := Option.map_eq_some_iff.1 hread
    obtain ⟨rfl, rfl⟩ := Prod.mk.inj heq
    exact (ih htail).trans (length_of_readLine hline)

theorem lf_mem_of_readLines {cur : List UInt8} {read : List (List UInt8) × List UInt8}
    (h : readLines cur = some read) : lf ∈ cur := by
  cases hline : readLine cur with
  | none =>
    rw [readLines_eq_none hline] at h
    cases h
  | some line =>
    obtain ⟨⟨value, rest⟩, hread, -⟩ := Option.map_eq_some_iff.1 hline
    obtain ⟨-, rfl⟩ := Reader.upTo_eq_some_iff.1 hread
    simp

/-- A complete header block: all of it is consumed, up to the empty line. -/
def IsBlock (block : List UInt8) : Prop := block ≠ [] ∧ (parseHttpLines block).1 = block.length

theorem isBlock_iff {block : List UInt8} :
    IsBlock block ↔ ∃ lines, readLines block = some (lines, []) := by
  constructor
  · rintro ⟨hne, hlength⟩
    have hpos : 0 < block.length := List.length_pos_iff.2 hne
    cases hread : readLines block with
    | none =>
      simp only [parseHttpLines, hread] at hlength
      omega
    | some read =>
      obtain ⟨lines, rest⟩ := read
      simp only [parseHttpLines, hread] at hlength
      have hrest : rest = [] := List.length_eq_zero_iff.1 (by omega)
      exact ⟨lines, by rw [hrest]⟩
  · rintro ⟨lines, hread⟩
    have hpos := length_of_readLines hread
    refine ⟨?_, by simp [parseHttpLines, hread]⟩
    rintro rfl
    simp at hpos

/-- A header block is read in the same way whatever follows it. -/
theorem parseHttpLines_append {block : List UInt8} {lines : List (List UInt8)}
    (h : readLines block = some (lines, [])) (rest : List UInt8) :
    parseHttpLines (block ++ rest) = (block.length, lines) := by
  rw [parseHttpLines, (readLines_append.reads h).complete rest]
  simp

/-- The parser waits for the end of a header block. -/
theorem parseHttpLines_waits {block p : List UInt8} (h : IsBlock block) (hp : p <+: block)
    (hne : p ≠ block) : parseHttpLines p = (0, []) := by
  obtain ⟨lines, hread⟩ := isBlock_iff.1 h
  rw [parseHttpLines, (readLines_append.reads hread).incomplete p hp hne]

/-! ## Blocks that are written -/

/-- Lines, each ended by CR LF, and the empty line. -/
def block (lines : List (List UInt8)) : List UInt8 :=
  (lines.flatMap fun line => line ++ crlf) ++ crlf

theorem readLine_crlf {line : List UInt8} (h : lf ∉ line) (rest : List UInt8) :
    readLine (line ++ crlf ++ rest) = some (line, rest) := by
  have hlf : lf ∉ line ++ [cr] := by
    simp only [List.mem_append, List.mem_singleton, not_or]
    exact ⟨h, by decide⟩
  have hread : Reader.upTo lf (line ++ crlf ++ rest) = some (line ++ [cr], rest) :=
    Reader.upTo_eq_some_iff.2 ⟨hlf, by simp [crlf]⟩
  rw [readLine, Reader.map, hread]
  simp [stripCR]

theorem readLines_block {lines : List (List UInt8)} (h : ∀ line ∈ lines, line ≠ [] ∧ lf ∉ line) :
    readLines (block lines) = some (lines, []) := by
  induction lines with
  | nil =>
    have hline : readLine ([] ++ crlf ++ []) = some ([], []) := readLine_crlf (by simp) []
    exact readLines_eq hline
  | cons line lines ih =>
    obtain ⟨hne, hlf⟩ := h line (by simp)
    have hline : readLine (block (line :: lines)) = some (line, block lines) := by
      rw [show block (line :: lines) = line ++ crlf ++ block lines by simp [block]]
      exact readLine_crlf hlf (block lines)
    rw [readLines_eq hline, if_neg hne, ih fun line hmem => h line (by simp [hmem])]
    rfl

theorem isBlock_block {lines : List (List UInt8)} (h : ∀ line ∈ lines, line ≠ [] ∧ lf ∉ line) :
    IsBlock (block lines) := isBlock_iff.2 ⟨lines, readLines_block h⟩

/-! ## Headers -/

/-- The key and the value that `parseHttpHeaders` takes from a line. -/
def parseHeader (line : List UInt8) : List UInt8 × List UInt8 :=
  match Reader.upTo colon line with
  | some (key, value) => (key.map toLower, value.dropWhile (· == space))
  | none => (line, [])

/-- `parseHttpHeaders`. The entries of the `std::multimap` are in the order of insertion, and
`find` gives the first one that has the key. -/
def parseHttpHeaders (lines : List (List UInt8)) : List (List UInt8 × List UInt8) :=
  lines.map parseHeader

/-- A header line as the handshake writes it. -/
theorem parseHeader_field {key value : List UInt8} (hkey : colon ∉ key)
    (hvalue : value.head? ≠ some space) :
    parseHeader (key ++ bytes ": " ++ value) = (key.map toLower, value) := by
  have hread : Reader.upTo colon (key ++ bytes ": " ++ value) = some (key, space :: value) := by
    rw [show bytes ": " = [colon, space] by decide]
    exact Reader.upTo_eq_some_iff.2 ⟨hkey, by simp⟩
  -- the value starts at the first byte that is not a space
  have hdrop : (space :: value).dropWhile (· == space) = value := by
    cases value with
    | nil => simp
    | cons c value =>
      have hc : c ≠ space := by simpa using hvalue
      simp [hc]
  rw [parseHeader, hread]
  simp only [hdrop]

end Rtc.Http
