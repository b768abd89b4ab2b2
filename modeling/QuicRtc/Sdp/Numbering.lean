import Mathlib.Data.List.Forall2
import QuicRtc.Sdp.Session

/-!
# The sections of a parsed text

The constructor of `Description` makes a section of every media line, with the number of the line as
its mid until an attribute gives another. But `createEntry` keeps one application section only: a
second one erases the first from `mEntries`.

* `blocks`: the media lines of a text, each with the lines behind it.
* `Aligned.parseLine`: the sections are those of the blocks that are `alive`.
* `numbered_iff`: there is a section for every media line, at its place and with its mid, if at most
  one of the lines is of an application, and only then.
-/

namespace Rtc

namespace Sdp

open Http (space)
open LocalDescription (Direction)

/-! ## Blocks -/

/-- A media line, without `m=`, and the lines behind it. -/
structure Block where
  mline : Text
  body : List Text

/-- The value of the attribute `mid`. -/
def midOf (line : Text) : Option Text :=
  if matchPrefix line (bytes "a=") && (parsePair (line.drop 2)).1 = bytes "mid" then
    some (parsePair (line.drop 2)).2
  else none

namespace Block

/-- The line is of an application, as `createEntry` sees it. -/
def isApplication (b : Block) : Bool := before space b.mline = bytes "application"

/-- The mid that is announced last, or the number of the line. -/
def mid (b : Block) (index : ℕ) : Text :=
  (b.body.filterMap midOf).getLast?.getD (toString index)

/-- A line behind the media line. -/
def addLine (b : Block) (line : Text) : Block := { b with body := b.body ++ [line] }

end Block

/-- A line begins a block or belongs to the last one. -/
def addLine (blocks : List Block) (line : Text) : List Block :=
  if matchPrefix line (bytes "m=") then blocks ++ [⟨line.drop 2, []⟩]
  else blocks.dropLast ++ blocks.getLast?.toList.map fun last => last.addLine line

/-- The blocks of a text. -/
def blocks (texts : List Text) : List Block := texts.foldl addLine []

/-! ## The blocks that are left -/

/-- The blocks with their numbers, without those of applications before another one. -/
def alive : ℕ → List Block → List (ℕ × Block)
  | _, [] => []
  | i, b :: bs =>
    if b.isApplication && bs.any Block.isApplication then alive (i + 1) bs
    else (i, b) :: alive (i + 1) bs

/-- What a further block leaves. -/
def without (application : Bool) (numbered : List (ℕ × Block)) : List (ℕ × Block) :=
  if application then numbered.filter fun entry => !entry.2.isApplication else numbered

theorem alive_append (i : ℕ) (bs : List Block) (b : Block) :
    alive i (bs ++ [b]) = without b.isApplication (alive i bs) ++ [(i + bs.length, b)] := by
  induction bs generalizing i with
  | nil =>
    cases hb : b.isApplication <;> simp [alive, without]
  | cons b' bs ih =>
    have hnumber : i + 1 + bs.length = i + (b' :: bs).length := by
      rw [List.length_cons]
      omega
    rw [List.cons_append, alive, alive, ih, hnumber, List.any_append]
    cases hb' : b'.isApplication <;> cases hb : b.isApplication <;>
      cases bs.any Block.isApplication <;> simp [without, hb, hb']

/-- All are left if there is one application at most. -/
theorem alive_eq_of_countP_le {bs : List Block} (h : bs.countP Block.isApplication ≤ 1) (i : ℕ) :
    alive i bs = (bs.zipIdx i).map fun entry => (entry.2, entry.1) := by
  induction bs generalizing i with
  | nil => rfl
  | cons b bs ih =>
    rw [List.countP_cons] at h
    have hcond : (b.isApplication && bs.any Block.isApplication) = false := by
      cases hb : b.isApplication with
      | false => rfl
      | true =>
        rw [hb, if_pos rfl] at h
        have hzero : bs.countP Block.isApplication = 0 := by omega
        rw [Bool.true_and, List.any_eq_false]
        exact fun b' hb' => List.countP_eq_zero.1 hzero b' hb'
    rw [alive, hcond, ih (by omega)]
    rfl

/-- Otherwise there are fewer. -/
theorem length_alive_lt {bs : List Block} (h : 1 < bs.countP Block.isApplication) (i : ℕ) :
    (alive i bs).length < bs.length := by
  have hle : ∀ (i : ℕ) (bs : List Block), (alive i bs).length ≤ bs.length := by
    intro i bs
    induction bs generalizing i with
    | nil => exact le_rfl
    | cons b bs ih =>
      rw [alive]
      split
      · exact (ih (i + 1)).trans (Nat.le_succ _)
      · exact Nat.succ_le_succ (ih (i + 1))
  induction bs generalizing i with
  | nil => simp at h
  | cons b bs ih =>
    rw [alive]
    split
    · exact Nat.lt_succ_of_le (hle (i + 1) bs)
    · next hcond =>
      refine Nat.succ_lt_succ (ih ?_ (i + 1))
      cases hb : b.isApplication with
      | false => rwa [List.countP_cons, hb, if_neg (by simp), Nat.add_zero] at h
      | true =>
        -- the applications behind it are none
        rw [hb, Bool.true_and, Bool.not_eq_true, List.any_eq_false] at hcond
        have hzero := List.countP_eq_zero.2 hcond
        rw [List.countP_cons, hzero] at h
        split at h <;> omega

/-! ## Sections -/

/-- The section of a block: what its media line says, and its mid. -/
structure FromBlock (numbered : ℕ × Block) (s : Section) : Prop where
  mline : ∃ mline port, (mline = numbered.2.mline ∨ mline = numbered.2.mline.drop 2) ∧
    Entry.readMLine mline =
      some (s.entry.mType, port, s.entry.mProtocol, s.entry.mDescription)
  application : s.isApplication = numbered.2.isApplication
  mid : s.entry.mMid = numbered.2.mid numbered.1

/-- What is common to a section before and behind a line. -/
structure SameLine (s s' : Section) : Prop where
  mType : s'.entry.mType = s.entry.mType
  mProtocol : s'.entry.mProtocol = s.entry.mProtocol
  mDescription : s'.entry.mDescription = s.entry.mDescription
  isApplication : s'.isApplication = s.isApplication

namespace Entry

variable {e e' : Entry}

theorem ofMLine_eq {mline mid : Text} {dir : Direction} (h : ofMLine mline mid dir = .ok e) :
    e.mMid = mid ∧ ∃ mline' port, (mline' = mline ∨ mline' = mline.drop 2) ∧
      readMLine mline' = some (e.mType, port, e.mProtocol, e.mDescription) := by
  rw [ofMLine] at h
  split at h
  · cases h
  · next mType port mProtocol mDescription hread =>
    obtain rfl := Except.ok.inj h
    refine ⟨rfl, _, port, ?_, hread⟩
    split
    · exact Or.inr rfl
    · exact Or.inl rfl

/-- An attribute changes the mid if it is the mid, and never what the media line says. -/
theorem parseAttribute_eq {attr : Text} (h : e.parseAttribute attr = .ok e') :
    e'.mType = e.mType ∧ e'.mProtocol = e.mProtocol ∧ e'.mDescription = e.mDescription ∧
      e'.mMid = if (parsePair attr).1 = bytes "mid" then (parsePair attr).2 else e.mMid := by
  rw [parseAttribute] at h
  dsimp only at h
  split at h
  · next hmid =>
    obtain rfl := Except.ok.inj h
    exact ⟨rfl, rfl, rfl, (if_pos hmid).symm⟩
  · next hmid =>
    rw [if_neg hmid]
    split at h
    · -- the extensions
      obtain ⟨id, -, h⟩ := bind_eq_ok.1 h
      split at h
      · obtain ⟨map, -, h⟩ := bind_eq_ok.1 h
        obtain rfl := Except.ok.inj h
        exact ⟨rfl, rfl, rfl, rfl⟩
      · obtain ⟨map, -, h⟩ := bind_eq_ok.1 h
        obtain rfl := Except.ok.inj h
        exact ⟨rfl, rfl, rfl, rfl⟩
    · -- the directions, `bundle-only` and the rest
      repeat' split at h
      all_goals
        obtain rfl := Except.ok.inj h
        exact ⟨rfl, rfl, rfl, rfl⟩

theorem parseSdpLine_eq {line : Text} (h : e.parseSdpLine line = .ok e') :
    e'.mType = e.mType ∧ e'.mProtocol = e.mProtocol ∧ e'.mDescription = e.mDescription ∧
      e'.mMid = (midOf line).getD e.mMid := by
  rw [parseSdpLine] at h
  rw [midOf]
  split at h
  · next ha =>
    have hattr := parseAttribute_eq h
    rw [ha, Bool.true_and]
    by_cases hmid : (parsePair (line.drop 2)).1 = bytes "mid"
    · rw [if_pos hmid] at hattr
      rw [if_pos (decide_eq_true hmid)]
      exact hattr
    · rw [if_neg hmid] at hattr
      rw [if_neg (by simpa using hmid)]
      exact hattr
  · next ha =>
    obtain rfl := Except.ok.inj h
    rw [Bool.eq_false_iff.2 ha]
    exact ⟨rfl, rfl, rfl, rfl⟩

end Entry

/-- An attribute with another key is not the mid. -/
theorem midOf_of_key {line key : Text} (h : (parsePair (line.drop 2)).1 = key)
    (hne : key ≠ bytes "mid") : midOf line = none := by
  rw [midOf, h, decide_eq_false hne, Bool.and_false]
  rfl

theorem midOf_of_not_attribute {line : Text} (h : ¬matchPrefix line (bytes "a=") = true) :
    midOf line = none := by
  rw [midOf, Bool.eq_false_iff.2 h]
  rfl

theorem Application.parseSdpLine_eq {a a' : Application} {line : Text}
    (h : a.parseSdpLine line = .ok a') :
    a'.mType = a.mType ∧ a'.mProtocol = a.mProtocol ∧ a'.mDescription = a.mDescription ∧
      a'.mMid = (midOf line).getD a.mMid := by
  rw [parseSdpLine] at h
  split at h
  · dsimp only at h
    split at h
    · next hkey =>
      obtain ⟨port, -, h⟩ := bind_eq_ok.1 h
      obtain rfl := Except.ok.inj h
      rw [midOf_of_key hkey (by decide)]
      exact ⟨rfl, rfl, rfl, rfl⟩
    · split at h
      · next hkey =>
        obtain ⟨size, -, h⟩ := bind_eq_ok.1 h
        obtain rfl := Except.ok.inj h
        rw [midOf_of_key hkey (by decide)]
        exact ⟨rfl, rfl, rfl, rfl⟩
      · obtain ⟨e, he, h⟩ := bind_eq_ok.1 h
        obtain rfl := Except.ok.inj h
        exact Entry.parseSdpLine_eq he
  · obtain ⟨e, he, h⟩ := bind_eq_ok.1 h
    obtain rfl := Except.ok.inj h
    exact Entry.parseSdpLine_eq he

namespace Media

variable {m m' : Media} {line : Text}

theorem toEntry_parseRtpMap {value : Text} (h : m.parseRtpMap value = .ok m') :
    m'.toEntry = m.toEntry := by
  obtain ⟨payloadType, -, h⟩ := bind_eq_ok.1 h
  split at h
  · obtain ⟨map, -, h⟩ := bind_eq_ok.1 h
    obtain rfl := Except.ok.inj h
    rfl
  · obtain ⟨map, -, h⟩ := bind_eq_ok.1 h
    obtain rfl := Except.ok.inj h
    rfl

theorem toEntry_parseParameter {value : Text} {add : RtpMap → Text → RtpMap}
    (h : m.parseParameter value add = .ok m') : m'.toEntry = m.toEntry := by
  obtain ⟨payloadType, -, h⟩ := bind_eq_ok.1 h
  obtain rfl := Except.ok.inj h
  rfl

/-- Only the attributes that are left to `Entry.parseSdpLine` change what the media line says or
the mid. -/
theorem parseSdpLine_eq (h : m.parseSdpLine line = .ok m') :
    m'.mType = m.mType ∧ m'.mProtocol = m.mProtocol ∧ m'.mDescription = m.mDescription ∧
      m'.mMid = (midOf line).getD m.mMid := by
  rw [parseSdpLine] at h
  split at h
  · -- the keys of media sections, none of which is `mid`
    dsimp only at h
    split at h
    · next hkey =>
      rw [midOf_of_key hkey (by decide), toEntry_parseRtpMap h]
      exact ⟨rfl, rfl, rfl, rfl⟩
    split at h
    · next hkey =>
      rw [midOf_of_key hkey (by decide), toEntry_parseParameter h]
      exact ⟨rfl, rfl, rfl, rfl⟩
    split at h
    · next hkey =>
      rw [midOf_of_key hkey (by decide), toEntry_parseParameter h]
      exact ⟨rfl, rfl, rfl, rfl⟩
    split at h
    · next hkey =>
      obtain rfl := Except.ok.inj h
      rw [midOf_of_key hkey (by decide)]
      exact ⟨rfl, rfl, rfl, rfl⟩
    split at h
    · next hkey =>
      obtain ⟨ssrc, -, h⟩ := bind_eq_ok.1 h
      obtain rfl := Except.ok.inj h
      rw [midOf_of_key hkey (by decide)]
      exact ⟨rfl, rfl, rfl, rfl⟩
    · obtain ⟨e, he, h⟩ := bind_eq_ok.1 h
      obtain rfl := Except.ok.inj h
      exact Entry.parseSdpLine_eq he
  · -- no attribute: the bandwidth, or a line for the entry
    next ha =>
    split at h
    · obtain ⟨bas, -, h⟩ := bind_eq_ok.1 h
      obtain rfl := Except.ok.inj h
      rw [midOf_of_not_attribute ha]
      exact ⟨rfl, rfl, rfl, rfl⟩
    · obtain ⟨e, he, h⟩ := bind_eq_ok.1 h
      obtain rfl := Except.ok.inj h
      exact Entry.parseSdpLine_eq he

end Media

/-- A line changes the mid of a section if it is the mid, and never what the media line says. -/
theorem Section.parseSdpLine_eq {s s' : Section} {line : Text} (h : s.parseSdpLine line = .ok s') :
    SameLine s s' ∧ s'.entry.mMid = (midOf line).getD s.entry.mMid := by
  cases s with
  | application a =>
    obtain ⟨a', ha', h⟩ := bind_eq_ok.1 h
    obtain rfl := Except.ok.inj h
    obtain ⟨htype, hprotocol, hdescription, hmid⟩ := Application.parseSdpLine_eq ha'
    exact ⟨⟨htype, hprotocol, hdescription, rfl⟩, hmid⟩
  | media m =>
    obtain ⟨m', hm', h⟩ := bind_eq_ok.1 h
    obtain rfl := Except.ok.inj h
    obtain ⟨htype, hprotocol, hdescription, hmid⟩ := Media.parseSdpLine_eq hm'
    exact ⟨⟨htype, hprotocol, hdescription, rfl⟩, hmid⟩

namespace FromBlock

variable {i : ℕ} {b : Block} {s s' : Section} {line : Text}

theorem mid_addLine (b : Block) (line : Text) (i : ℕ) :
    (b.addLine line).mid i = (midOf line).getD (b.mid i) := by
  rw [Block.mid, Block.mid, Block.addLine, List.filterMap_append]
  cases hline : midOf line with
  | none => simp [hline]
  | some value => simp [hline]

/-- A line that the section parses. -/
theorem addLine (h : FromBlock (i, b) s) (hs : s.parseSdpLine line = .ok s') :
    FromBlock (i, b.addLine line) s' := by
  obtain ⟨hsame, hmid⟩ := Section.parseSdpLine_eq hs
  obtain ⟨mline, port, hmline, hread⟩ := h.mline
  refine ⟨⟨mline, port, hmline, ?_⟩, ?_, ?_⟩
  · rw [hsame.mType, hsame.mProtocol, hsame.mDescription]
    exact hread
  · rw [hsame.isApplication]
    exact h.application
  · rw [hmid, h.mid]
    exact (mid_addLine b line i).symm

/-- A line that it does not see. -/
theorem addLine_of_none (h : FromBlock (i, b) s) (hline : midOf line = none) :
    FromBlock (i, b.addLine line) s := by
  refine ⟨h.mline, h.application, ?_⟩
  rw [h.mid]
  exact (by rw [mid_addLine, hline]; rfl : b.mid i = (b.addLine line).mid i)

end FromBlock

/-! ## Parsing -/

/-- What has been parsed of a text with the given blocks. -/
structure Aligned (p : Description.Parser) (bs : List Block) : Prop where
  index : p.index = bs.length - 1
  applications : p.description.mEntries.countP Section.isApplication ≤ 1
  sections : List.Forall₂ FromBlock (alive 0 bs) p.description.mEntries

theorem eraseP_eq_filter {α : Type} {p : α → Bool} {l : List α} (h : l.countP p ≤ 1) :
    l.eraseP p = l.filter fun a => !p a := by
  induction l with
  | nil => rfl
  | cons a l ih =>
    rw [List.countP_cons] at h
    cases ha : p a with
    | false =>
      rw [List.eraseP_cons_of_neg (by simp [ha]), List.filter_cons_of_pos (by simp [ha]),
        ih (by omega)]
    | true =>
      rw [ha, if_pos rfl] at h
      have hnone := List.countP_eq_zero.1 (by omega : l.countP p = 0)
      rw [List.eraseP_cons_of_pos ha, List.filter_cons_of_neg (by simp [ha]),
        List.filter_eq_self.2 fun b hb => by simpa using hnone b hb]

namespace Aligned

variable {p p' : Description.Parser} {bs : List Block} {b : Block} {line : Text}

/-- The sections that a further block leaves. -/
theorem without_sections (h : List.Forall₂ FromBlock (alive 0 bs) p.description.mEntries) :
    List.Forall₂ FromBlock (without true (alive 0 bs))
      (p.description.mEntries.filter fun s => !s.isApplication) := by
  refine List.rel_filter (fun entry s hentry => ?_) h
  show (!entry.2.isApplication) = true ↔ (!s.isApplication) = true
  rw [hentry.application]

/-- A media line. -/
theorem createEntry (h : Aligned p bs) {mline : Text} {d : Description}
    (hd : p.description.createEntry mline (toString (bs.length : ℕ)) .unknown = .ok d) :
    Aligned ⟨d, p.index + 1⟩ (bs ++ [⟨mline, []⟩]) := by
  have hindex : p.index + 1 = ((bs ++ [Block.mk mline []]).length : ℤ) - 1 := by
    rw [h.index, List.length_append, List.length_singleton]
    omega
  rw [Description.createEntry] at hd
  split at hd
  · next hmline =>
    -- the application before it is erased
    have hlast : Block.isApplication ⟨mline, []⟩ = true := decide_eq_true hmline
    obtain ⟨application, happlication, hd⟩ := bind_eq_ok.1 hd
    obtain rfl := Except.ok.inj hd
    obtain ⟨e, he, happlication⟩ := bind_eq_ok.1 happlication
    obtain rfl := Except.ok.inj happlication
    obtain ⟨hmid, hread⟩ := Entry.ofMLine_eq he
    have herase := eraseP_eq_filter h.applications
    refine ⟨hindex, ?_, ?_⟩
    · show (p.description.mEntries.eraseP Section.isApplication ++ [_]).countP _ ≤ 1
      have hone := List.countP_le_length (p := Section.isApplication)
        (l := [Section.application { toEntry := e }])
      rw [herase, List.countP_append, List.countP_filter]
      simpa using hone
    · show List.Forall₂ FromBlock _ (p.description.mEntries.eraseP Section.isApplication ++ [_])
      rw [alive_append, hlast, herase, Nat.zero_add]
      obtain ⟨mline', port, hmline', hread⟩ := hread
      exact List.rel_append (without_sections h.sections)
        (.cons ⟨⟨mline', port, hmline', hread⟩, hlast.symm, hmid⟩ .nil)
  · next hmline =>
    have hlast : Block.isApplication ⟨mline, []⟩ = false := decide_eq_false hmline
    obtain ⟨media, hmedia, hd⟩ := bind_eq_ok.1 hd
    obtain rfl := Except.ok.inj hd
    obtain ⟨e, he, hmedia⟩ := bind_eq_ok.1 hmedia
    obtain rfl := Except.ok.inj hmedia
    obtain ⟨hmid, hread⟩ := Entry.ofMLine_eq he
    refine ⟨hindex, ?_, ?_⟩
    · show (p.description.mEntries ++ [_]).countP _ ≤ 1
      rw [List.countP_append]
      simpa [Section.isApplication] using h.applications
    · show List.Forall₂ FromBlock _ (p.description.mEntries ++ [_])
      rw [alive_append, hlast, Nat.zero_add]
      obtain ⟨mline', port, hmline', hread⟩ := hread
      exact List.rel_append h.sections
        (.cons ⟨⟨mline', port, hmline', hread⟩, hlast.symm, hmid⟩ .nil)

/-- The section of the last block. -/
theorem last (h : Aligned p (bs ++ [b])) : ∃ entries s,
    p.description.mEntries = entries ++ [s] ∧
      List.Forall₂ FromBlock (without b.isApplication (alive 0 bs)) entries ∧
      FromBlock (0 + bs.length, b) s := by
  have hsections := h.sections
  rw [alive_append] at hsections
  rcases List.eq_nil_or_concat' p.description.mEntries with hnil | ⟨entries, s, hentries⟩
  · rw [hnil] at hsections
    have hlength := hsections.length_eq
    simp at hlength
  · rw [hentries] at hsections
    have hlength := hsections.length_eq
    rw [List.length_append, List.length_append, List.length_singleton, List.length_singleton]
      at hlength
    have htake := List.forall₂_take_append _ _ _ hsections
    have hdrop := List.forall₂_drop_append _ _ _ hsections
    rw [List.take_left' (by omega)] at htake
    rw [List.drop_left' (by omega)] at hdrop
    obtain ⟨hs, -⟩ := List.forall₂_cons.1 hdrop
    exact ⟨entries, s, hentries, htake, hs⟩

theorem addLine_concat (bs : List Block) (b : Block) (h : ¬matchPrefix line (bytes "m=") = true) :
    addLine (bs ++ [b]) line = bs ++ [b.addLine line] := by
  rw [addLine, if_neg h, List.dropLast_concat, List.getLast?_concat]
  rfl

/-- The last block gets a line, and the last section changes with it. -/
theorem replaceLast (h : Aligned p (bs ++ [b])) (hline : ¬matchPrefix line (bytes "m=") = true)
    {entries : List Section} {s s' : Section} {d : Description}
    (hentries : p.description.mEntries = entries ++ [s])
    (hinit : List.Forall₂ FromBlock (without b.isApplication (alive 0 bs)) entries)
    (hs : FromBlock (0 + bs.length, b.addLine line) s') (hsame : s'.isApplication = s.isApplication)
    (hd : d.mEntries = entries ++ [s']) : Aligned ⟨d, p.index⟩ (addLine (bs ++ [b]) line) := by
  have happlications := h.applications
  rw [addLine_concat bs b hline]
  refine ⟨?_, ?_, ?_⟩
  · show p.index = _
    rw [h.index, List.length_append, List.length_append]
    rfl
  · show d.mEntries.countP _ ≤ 1
    rw [hentries, List.countP_append, List.countP_singleton] at happlications
    rwa [hd, List.countP_append, List.countP_singleton, hsame]
  · show List.Forall₂ FromBlock _ d.mEntries
    rw [alive_append, hd]
    exact List.rel_append hinit (.cons hs .nil)

/-- A line that no section sees. -/
theorem unseen (h : Aligned p bs) (hline : ¬matchPrefix line (bytes "m=") = true)
    (hmid : midOf line = none) {d : Description} (hd : d.mEntries = p.description.mEntries) :
    Aligned ⟨d, p.index⟩ (addLine bs line) := by
  rcases List.eq_nil_or_concat' bs with rfl | ⟨init, b, rfl⟩
  · have hnil : addLine [] line = [] := by
      rw [addLine, if_neg hline]
      rfl
    rw [hnil]
    exact ⟨h.index, hd ▸ h.applications, hd ▸ h.sections⟩
  · obtain ⟨entries, s, hentries, hinit, hs⟩ := h.last
    exact h.replaceLast hline hentries hinit (hs.addLine_of_none hmid) rfl (hd.trans hentries)

/-- A line that is left to the current section. -/
theorem parseCurrent (h : Aligned p bs) (hline : ¬matchPrefix line (bytes "m=") = true)
    {d : Description} (hd : Description.Parser.parseCurrent p.description line = .ok d) :
    Aligned ⟨d, p.index⟩ (addLine bs line) := by
  rcases List.eq_nil_or_concat' bs with rfl | ⟨init, b, rfl⟩
  · have hnone : p.description.mEntries = [] := List.forall₂_nil_left_iff.1 h.sections
    rw [Description.Parser.parseCurrent, hnone] at hd
    obtain rfl := Except.ok.inj hd
    have hnil : addLine [] line = [] := by
      rw [addLine, if_neg hline]
      rfl
    rw [hnil]
    exact h
  · obtain ⟨entries, s, hentries, hinit, hs⟩ := h.last
    rw [Description.Parser.parseCurrent, hentries, List.getLast?_concat] at hd
    obtain ⟨s', hs', hd⟩ := bind_eq_ok.1 hd
    rw [List.dropLast_concat] at hd
    obtain rfl := Except.ok.inj hd
    exact h.replaceLast hline hentries hinit (hs.addLine hs')
      (Section.parseSdpLine_eq hs').1.isApplication rfl

/-- An attribute: those of the session are not the mid. -/
theorem parseAttribute (h : Aligned p bs) (hline : ¬matchPrefix line (bytes "m=") = true)
    {d : Description}
    (hd : Description.Parser.parseAttribute p.description p.index line = .ok d) :
    Aligned ⟨d, p.index⟩ (addLine bs line) := by
  rcases Description.Parser.parseAttribute_cases hd with ⟨hkey, htaken⟩ | ⟨-, hd⟩
  · have hmid : lineKey line ≠ bytes "mid" := by
      intro heq
      rw [heq] at hkey
      exact absurd hkey (by decide)
    exact h.unseen hline (midOf_of_key rfl hmid) htaken.mEntries
  · rw [Description.Parser.parseOther] at hd
    split at hd
    · next hnone =>
      -- before the first media line there is no block
      obtain rfl := Except.ok.inj hd
      obtain rfl : bs = [] := by
        by_contra hne
        obtain ⟨init, b, rfl⟩ := (List.eq_nil_or_concat' bs).resolve_left hne
        obtain ⟨entries, s, hentries, -⟩ := h.last
        rw [hnone] at hentries
        exact List.cons_ne_nil s [] (List.append_eq_nil_iff.1 hentries.symm).2
      have hnil : addLine [] line = [] := by
        rw [addLine, if_neg hline]
        rfl
      rw [hnil]
      exact ⟨h.index, h.applications, h.sections⟩
    · exact h.parseCurrent hline hd

/-- One line. -/
theorem parseLine (h : Aligned p bs) (hp : p.parseLine line = .ok p') :
    Aligned p' (addLine bs line) := by
  rw [Description.Parser.parseLine] at hp
  split at hp
  · next hline =>
    have hnumber : p.index + 1 = (bs.length : ℕ) := by
      rw [h.index, Int.sub_add_cancel]
    obtain ⟨d, hd, hp⟩ := bind_eq_ok.1 hp
    obtain rfl := Except.ok.inj hp
    rw [hnumber] at hd
    rw [addLine, if_pos hline]
    exact h.createEntry hd
  · next hline =>
    split at hp
    · next horigin =>
      obtain rfl := Except.ok.inj hp
      have hattribute : ¬matchPrefix line (bytes "a=") = true := by
        intro ha
        obtain ⟨rest, rfl⟩ := List.isPrefixOf_iff_prefix.1 ha
        have hne : matchPrefix (bytes "a=" ++ rest) (bytes "o=") = false := rfl
        rw [hne] at horigin
        cases horigin
      refine h.unseen hline (midOf_of_not_attribute hattribute) ?_
      rw [Description.Parser.parseOrigin]
      split
      · rfl
      · split <;> rfl
    · split at hp
      · obtain ⟨d, hd, hp⟩ := bind_eq_ok.1 hp
        obtain rfl := Except.ok.inj hp
        exact h.parseAttribute hline hd
      · obtain ⟨d, hd, hp⟩ := bind_eq_ok.1 hp
        obtain rfl := Except.ok.inj hp
        exact h.parseCurrent hline hd

/-- The lines of a text. -/
theorem foldlM {texts : List Text} (h : Aligned p bs)
    (hp : texts.foldlM Description.Parser.parseLine p = .ok p') :
    Aligned p' (texts.foldl addLine bs) := by
  induction texts generalizing p bs with
  | nil =>
    obtain rfl := Except.ok.inj hp
    exact h
  | cons line texts ih =>
    obtain ⟨p₁, hp₁, hp⟩ := bind_eq_ok.1 hp
    exact ih (h.parseLine hp₁) hp

end Aligned

/-! ## The main result -/

namespace Description

/-- `mediaCount`. -/
def mediaCount (d : Description) : ℕ := d.mEntries.length

/-- There is a section for every block, at its place. -/
def Numbered (d : Description) (bs : List Block) : Prop :=
  d.mediaCount = bs.length ∧
    ∀ (i : ℕ) (b : Block) (s : Section), bs[i]? = some b → d.mEntries[i]? = some s →
      FromBlock (i, b) s

/-- **Section numbering.** The sections are the media lines of the text, at their places and with
their mids, if at most one line is of an application, and only then. -/
theorem numbered_iff {sdp : Text} {type : Kind} {role : Role} {random : UInt32} {d : Description}
    (h : parse sdp type role random = .ok d) :
    d.Numbered (blocks (lines sdp)) ↔ (blocks (lines sdp)).countP Block.isApplication ≤ 1 := by
  obtain ⟨p, hp, hd⟩ := bind_eq_ok.1 h
  obtain rfl := Except.ok.inj hd
  have hstart : Aligned { description := hintType { mRole := role } type } [] := by
    have hnone : (hintType { mRole := role } type).mEntries = [] := by
      rw [hintType]
      split <;> rfl
    refine ⟨rfl, ?_, ?_⟩
    · show (hintType { mRole := role } type).mEntries.countP _ ≤ 1
      rw [hnone]
      exact Nat.zero_le 1
    · show List.Forall₂ FromBlock [] (hintType { mRole := role } type).mEntries
      rw [hnone]
      exact .nil
  have hsections : List.Forall₂ FromBlock (alive 0 (blocks (lines sdp))) p.description.mEntries :=
    (hstart.foldlM hp).sections
  have hlength := hsections.length_eq
  -- with a second application the first one is dropped, and a section is missing
  constructor
  · rintro ⟨hcount, -⟩
    by_contra hmore
    have hlt := length_alive_lt (not_le.1 hmore) 0
    rw [hlength] at hlt
    exact absurd hcount (Nat.ne_of_lt hlt)
  · intro hone
    rw [alive_eq_of_countP_le hone] at hsections hlength
    rw [List.length_map, List.length_zipIdx] at hlength
    refine ⟨hlength.symm, fun i b s hb hs => ?_⟩
    obtain ⟨hi, hs⟩ := List.getElem?_eq_some_iff.1 hs
    obtain ⟨hi', hb⟩ := List.getElem?_eq_some_iff.1 hb
    have hget := List.Forall₂.get hsections (i := i) (by simpa using hi') hi
    simp only [List.get_eq_getElem, List.getElem_map, List.getElem_zipIdx, Nat.zero_add, hb]
      at hget
    exact hs ▸ hget

/-- The media line of an application. -/
def applicationLine : Text := bytes "m=application 9 UDP/DTLS/SCTP webrtc-datachannel"

theorem isPrinted_applicationLine : IsPrinted applicationLine :=
  (isLine_of_text (by decide)).isPrinted

theorem isPrinted_mid : IsPrinted (bytes "a=mid:x") :=
  (isLine_of_text (by decide)).isPrinted

/-- One application with a mid. -/
theorem numbered_of_one : ∃ d,
    parse ([applicationLine, bytes "a=mid:x"].flatMap (· ++ Http.crlf)) .offer .actPass 0 = .ok d ∧
    (d.Numbered (blocks (lines ([applicationLine, bytes "a=mid:x"].flatMap (· ++ Http.crlf)))) ↔
      (blocks (lines ([applicationLine, bytes "a=mid:x"].flatMap (· ++ Http.crlf)))).countP
        Block.isApplication ≤ 1) := by
  have hprinted : ∀ line ∈ [applicationLine, bytes "a=mid:x"], IsPrinted line :=
    List.forall_mem_cons.2 ⟨isPrinted_applicationLine,
      List.forall_mem_cons.2 ⟨isPrinted_mid, List.forall_mem_nil _⟩⟩
  obtain ⟨d, hd⟩ : ∃ d, parse ([applicationLine, bytes "a=mid:x"].flatMap (· ++ Http.crlf)) .offer
      .actPass 0 = .ok d := by
    rw [parse, lines_flatMap hprinted]
    exact ⟨_, rfl⟩
  exact ⟨d, hd, numbered_iff hd⟩

/-- Of two applications the second is left, with the mid of its line. -/
theorem not_numbered_of_two :
    ¬∀ (sdp : Text) (type : Kind) (role : Role) (random : UInt32) (d : Description),
      parse sdp type role random = .ok d → d.Numbered (blocks (lines sdp)) := by
  intro hall
  have hprinted : ∀ line ∈ [applicationLine, applicationLine], IsPrinted line :=
    List.forall_mem_cons.2 ⟨isPrinted_applicationLine,
      List.forall_mem_cons.2 ⟨isPrinted_applicationLine, List.forall_mem_nil _⟩⟩
  have hlines := lines_flatMap hprinted
  obtain ⟨d, hd, hone⟩ : ∃ d, parse ([applicationLine, applicationLine].flatMap (· ++ Http.crlf))
      .offer .actPass 0 = .ok d ∧ d.mediaCount = 1 := by
    rw [parse, hlines]
    exact ⟨_, rfl, rfl⟩
  obtain ⟨hcount, -⟩ := hall _ .offer .actPass 0 d hd
  rw [hone, hlines] at hcount
  exact absurd hcount (by decide +kernel)

end Description

end Sdp

end Rtc
