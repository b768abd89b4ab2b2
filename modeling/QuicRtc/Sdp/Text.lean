import Mathlib.Data.List.DropRight
import QuicRtc.Message
import QuicRtc.WsHandshake.Defs

/-!
# The text of descriptions

The helpers of `description.cpp` and `candidate.cpp` on strings and integers, and what they make of
the texts that are printed: a key before a colon, a word before a space, an integer before anything
but a digit, and a line without white space at its end.
-/

namespace Rtc

namespace Sdp

open Http (space lf cr colon)
open WsHandshake (isSpace isDigit readWord readDigits)

/-- A `std::string`. -/
abbrev Text := List UInt8

/-- `==` on texts is equality. -/
scoped instance lawfulBEq_text : LawfulBEq Text := inferInstance

/-- `'/'`. -/
def slash : UInt8 := 47

/-- The part before the first delimiter, or everything. -/
def before (delim : UInt8) (s : Text) : Text := ((Reader.upTo delim s).map Prod.fst).getD s

/-- `s.substr(p + 1)` for the position `p` of the first delimiter. Without a delimiter `p + 1` is
zero. -/
def behind (delim : UInt8) (s : Text) : Text := ((Reader.upTo delim s).map Prod.snd).getD s

/-- `match_prefix`. -/
def matchPrefix (str pre : Text) : Bool := pre.isPrefixOf str

/-- `trim_end`. -/
def trimEnd (str : Text) : Text := str.rdropWhile isSpace

/-- `trim_begin`. -/
def trimBegin (str : Text) : Text := str.dropWhile isSpace

/-- `parse_pair`. -/
def parsePair (attr : Text) : Text × Text := (Reader.upTo colon attr).getD (attr, [])

/-- `>>` to a string, which fails when no word is left. -/
def word (stream : Text) : Option (Text × Text) :=
  if (readWord stream).1 = [] then none else some (readWord stream)

/-! ## Integers -/

/-- The value of an `int`. -/
abbrev CInt := {i : ℤ // -2147483648 ≤ i ∧ i < 2147483648}

/-- `==` on `int` is equality. -/
scoped instance lawfulBEq_cInt : LawfulBEq CInt := inferInstance

/-- The value `-1`, which stands for no value. -/
def CInt.unset : CInt := ⟨-1, by decide⟩

/-- The conversion to `int`. -/
def CInt.wrap (i : ℤ) : CInt :=
  ⟨Int.bmod i 4294967296, by have := Int.le_bmod (x := i) (m := 4294967296) (by decide); omega,
    by have := Int.bmod_lt (x := i) (m := 4294967296) (by decide); omega⟩

/-- `std::to_string` and `<<` of an integer. -/
def toString (i : ℤ) : Text :=
  if i < 0 then 45 :: WsHandshake.toString i.natAbs else WsHandshake.toString i.natAbs

/-- White space, an optional sign and digits, as `strtol` and `>>` read them. -/
def readInteger (stream : Text) : Option (ℤ × Text) :=
  let stream := stream.dropWhile isSpace
  let negative := stream.head? = some 45
  let digits := if negative ∨ stream.head? = some 43 then stream.tail else stream
  if digits.takeWhile isDigit = [] then none
  else
    some (if negative then -(readDigits digits : ℤ) else readDigits digits,
      digits.dropWhile isDigit)

/-- `>>` to a signed integer with values below `half`, which fails on overflow. -/
def readSigned (half : ℕ) (stream : Text) : Option (ℤ × Text) :=
  (readInteger stream).filter fun (i, _) => -half ≤ i ∧ i < half

/-- `>>` to an unsigned integer with values below `size`. A sign negates the value. -/
def readUnsigned (size : ℕ) (stream : Text) : Option (ℕ × Text) :=
  ((readInteger stream).filter fun (i, _) => i.natAbs < size).map fun (i, rest) =>
    ((i % size).toNat, rest)

/-- An integer takes at least one digit. -/
theorem readInteger_length {stream rest : Text} {i : ℤ}
    (h : readInteger stream = some (i, rest)) : rest.length < stream.length := by
  have htail : ∀ s : Text, s.tail.length ≤ s.length := fun s => by simp
  have hskip : (stream.dropWhile isSpace).length ≤ stream.length :=
    (List.dropWhile_sublist _).length_le
  simp only [readInteger] at h
  -- the digits stand in the stream, behind the white space and the sign
  generalize hdigits : (if (stream.dropWhile isSpace).head? = some 45 ∨
    (stream.dropWhile isSpace).head? = some 43 then (stream.dropWhile isSpace).tail
    else stream.dropWhile isSpace) = digits at h
  have hle : digits.length ≤ stream.length := by
    subst hdigits
    split_ifs
    · exact (htail _).trans hskip
    · exact hskip
  split_ifs at h with hnil hneg
  all_goals
    obtain ⟨-, rfl⟩ := Prod.mk.inj (Option.some.inj h)
    have hsplit := congrArg List.length
      (List.takeWhile_append_dropWhile (p := isDigit) (l := digits))
    have hpos := List.length_pos_iff.2 hnil
    rw [List.length_append] at hsplit
    omega

theorem readSigned_length {half : ℕ} {stream rest : Text} {i : ℤ}
    (h : readSigned half stream = some (i, rest)) : rest.length < stream.length :=
  readInteger_length (Option.filter_eq_some_iff.1 h).1

/-- A text in the message of an exception. -/
def shown (s : Text) : String := String.ofList (s.map fun c => Char.ofNat c.toNat)

/-- The exception of `to_integer`. -/
def invalidInteger (s : Text) : Exception :=
  .invalidArgument ("Invalid integer \"" ++ shown s ++ "\" in description")

/-- `to_integer<int>`. -/
def toInt (s : Text) : Except Exception CInt :=
  match readSigned (2 ^ 63) s with
  | some (i, _) => .ok (CInt.wrap i)
  | none => .error (invalidInteger s)

/-- `to_integer` to an unsigned type. -/
def toUnsigned (s : Text) : Except Exception ℕ :=
  match readUnsigned (2 ^ 64) s with
  | some (n, _) => .ok n
  | none => .error (invalidInteger s)

/-- Both parts of a computation succeed. -/
theorem bind_eq_ok {α β : Type} {x : Except Exception α} {f : α → Except Exception β} {b : β} :
    x >>= f = .ok b ↔ ∃ a, x = .ok a ∧ f a = .ok b := by
  constructor
  · intro h
    cases x with
    | error e => cases h
    | ok a => exact ⟨a, rfl, h⟩
  · rintro ⟨a, rfl, h⟩
    exact h

/-! ## What the helpers make of printed texts -/

section Split

variable {delim : UInt8} {s rest : Text}

theorem upTo_append (h : delim ∉ s) (rest : Text) :
    Reader.upTo delim (s ++ delim :: rest) = some (s, rest) :=
  Reader.upTo_eq_some_iff.2 ⟨h, rfl⟩

theorem upTo_of_notMem (h : delim ∉ s) : Reader.upTo delim s = none :=
  Reader.upTo_eq_none_iff.2 h

theorem notMem_before (delim : UInt8) (s : Text) : delim ∉ before delim s := by
  rw [before]
  cases hread : Reader.upTo delim s with
  | some result => exact (Reader.upTo_eq_some_iff.1 hread).1
  | none => exact Reader.upTo_eq_none_iff.1 hread

theorem before_append (h : delim ∉ s) : before delim (s ++ delim :: rest) = s := by
  rw [before, upTo_append h]
  rfl

theorem behind_append (h : delim ∉ s) : behind delim (s ++ delim :: rest) = rest := by
  rw [behind, upTo_append h]
  rfl

theorem before_of_notMem (h : delim ∉ s) : before delim s = s := by
  rw [before, upTo_of_notMem h]
  rfl

theorem behind_of_notMem (h : delim ∉ s) : behind delim s = s := by
  rw [behind, upTo_of_notMem h]
  rfl

theorem parsePair_append (h : colon ∉ s) : parsePair (s ++ colon :: rest) = (s, rest) := by
  rw [parsePair, upTo_append h]
  rfl

end Split

/-! ## White space -/

/-- A text is not empty and contains no white space, so that `>>` reads it as a whole. -/
structure IsWord (s : Text) : Prop where
  ne_nil : s ≠ []
  not_space : ∀ c ∈ s, isSpace c = false

/-- A text is not empty, does not end with white space, and contains no line feed. -/
structure IsLine (s : Text) : Prop where
  ne_nil : s ≠ []
  lf_notMem : lf ∉ s
  last : ∀ c ∈ s.getLast?, isSpace c = false

/-- The test of a text for a line. -/
def isLineText (s : Text) : Bool := s.all (· ≠ lf) && s.getLast?.any (!isSpace ·)

theorem isLine_of_text {s : Text} (h : isLineText s = true) : IsLine s := by
  obtain ⟨hlf, hlast⟩ := Bool.and_eq_true_iff.1 h
  obtain ⟨last, hlast, hspace⟩ := (Option.any_eq_true _ _).1 hlast
  refine ⟨?_, fun hmem => ?_, fun c hc => ?_⟩
  · rintro rfl
    cases hlast
  · simpa using List.all_eq_true.1 hlf lf hmem
  · obtain rfl := Option.some.inj (hlast.symm.trans hc)
    simpa using hspace

theorem IsWord.lf_notMem {s : Text} (h : IsWord s) : lf ∉ s :=
  fun hmem => absurd (h.not_space lf hmem) (by decide)

theorem IsWord.space_notMem {s : Text} (h : IsWord s) : space ∉ s :=
  fun hmem => absurd (h.not_space space hmem) (by decide)

theorem IsWord.isLine {s : Text} (h : IsWord s) : IsLine s where
  ne_nil := h.ne_nil
  lf_notMem := h.lf_notMem
  last c hc := h.not_space c (List.mem_of_getLast? hc)

/-- A line with a text before it. -/
theorem IsLine.append {s t : Text} (hs : lf ∉ s) (ht : IsLine t) : IsLine (s ++ t) where
  ne_nil := List.append_ne_nil_of_right_ne_nil s ht.ne_nil
  lf_notMem := by
    rw [List.mem_append, not_or]
    exact ⟨hs, ht.lf_notMem⟩
  last c hc := by
    rw [List.getLast?_append_of_ne_nil _ ht.ne_nil] at hc
    exact ht.last c hc

/-- A line behind a delimiter. -/
theorem IsLine.append_cons {s t : Text} {c : UInt8} (hs : lf ∉ s) (hc : lf ≠ c) (ht : IsLine t) :
    IsLine (s ++ c :: t) := by
  have hcons : IsLine (c :: t) := ht.append (s := [c]) (by simpa using hc)
  exact hcons.append hs

/-- Lines are not trimmed. -/
theorem trimEnd_of_isLine {s : Text} (h : IsLine s) : trimEnd s = s := by
  rw [trimEnd, List.rdropWhile_eq_self_iff]
  intro hne
  rw [h.last _ (List.getLast?_eq_getLast_of_ne_nil hne)]
  exact Bool.false_ne_true

/-- White space at the end is removed. -/
theorem trimEnd_append_space {s : Text} {c : UInt8} (hc : isSpace c = true) :
    trimEnd (s ++ [c]) = trimEnd s := List.rdropWhile_concat_pos _ _ _ hc

/-! ## Words -/

/-- The stream ends, or goes on with white space. -/
def AtSpace (rest : Text) : Prop := ∀ c ∈ rest.head?, isSpace c = true

theorem word_append {s rest : Text} (h : IsWord s) (hrest : AtSpace rest) :
    word (s ++ rest) = some (s, rest) := by
  have hnot : ∀ c ∈ s, (!isSpace c) = true := fun c hc => by rw [h.not_space c hc]; rfl
  have hstart : (s ++ rest).dropWhile isSpace = s ++ rest := by
    obtain ⟨c, s, rfl⟩ := List.exists_cons_of_ne_nil h.ne_nil
    rw [List.cons_append, List.dropWhile_cons, if_neg (by simp [h.not_space c])]
  have hend : rest.takeWhile (!isSpace ·) = [] ∧ rest.dropWhile (!isSpace ·) = rest := by
    cases rest with
    | nil => exact ⟨rfl, rfl⟩
    | cons c rest => simp [hrest c rfl]
  have hread : readWord (s ++ rest) = (s, rest) := by
    rw [readWord, hstart]
    simp only [List.takeWhile_append_of_pos hnot, List.dropWhile_append_of_pos hnot, hend,
      List.append_nil]
  rw [word, hread, if_neg h.ne_nil]

/-- A word is read behind a space. -/
theorem word_space_append {s rest : Text} (h : IsWord s) (hrest : AtSpace rest) :
    word (space :: (s ++ rest)) = some (s, rest) := by
  have hskip : word (space :: (s ++ rest)) = word (s ++ rest) := by
    rw [word, word, WsHandshake.readWord_space]
  rw [hskip, word_append h hrest]

theorem atSpace_space (rest : Text) : AtSpace (space :: rest) := by
  rintro c hc
  obtain rfl := Option.some.inj hc
  decide

theorem atSpace_nil : AtSpace [] := fun c hc => by cases hc

/-- What `>>` reads is a word. -/
theorem isWord_of_word {stream s rest : Text} (h : word stream = some (s, rest)) : IsWord s := by
  rw [word] at h
  split_ifs at h with hnil
  obtain ⟨rfl, -⟩ := Prod.mk.inj (Option.some.inj h)
  refine ⟨hnil, fun c hc => ?_⟩
  simpa using List.mem_takeWhile_imp (p := fun c => !isSpace c) hc

/-! ## Printed integers -/

section Integers

/-- No digit follows. -/
def NoDigit (rest : Text) : Prop := ∀ c ∈ rest.head?, isDigit c = false

/-- What the byte of a digit is read as. -/
theorem digit_byte {c : Char} (h : c.isDigit = true) :
    isDigit c.val.toUInt8 = true ∧ (c.val.toUInt8 - 48).toNat = c.toNat - '0'.toNat := by
  simp only [Char.isDigit, Bool.and_eq_true, decide_eq_true_eq, ge_iff_le, UInt32.le_iff_toNat_le]
    at h
  have hlow : 48 ≤ c.val.toNat := h.1
  have hhigh : c.val.toNat ≤ 57 := h.2
  have hbyte : c.val.toUInt8.toNat = c.val.toNat := by
    rw [UInt32.toNat_toUInt8]
    omega
  have hle : (48 : UInt8) ≤ c.val.toUInt8 := by
    rw [UInt8.le_iff_toNat_le, hbyte]
    exact hlow
  refine ⟨?_, ?_⟩
  · rw [isDigit, Bool.and_eq_true, decide_eq_true_eq, decide_eq_true_eq]
    refine ⟨hle, ?_⟩
    rw [UInt8.le_iff_toNat_le, hbyte]
    exact hhigh
  · rw [UInt8.toNat_sub_of_le _ _ hle, hbyte]
    rfl

theorem toString_eq_map (n : ℕ) :
    WsHandshake.toString n = (Nat.toDigits 10 n).map fun c => c.val.toUInt8 := by
  rw [WsHandshake.toString, bytes, Nat.repr, String.toList_ofList]

theorem isDigit_toString (n : ℕ) : ∀ c ∈ WsHandshake.toString n, isDigit c = true := by
  rw [toString_eq_map, List.forall_mem_map]
  intro c hc
  exact (digit_byte (Nat.isDigit_of_mem_toDigits (by decide) (by decide) hc)).1

theorem toString_ne_nil (n : ℕ) : WsHandshake.toString n ≠ [] := by
  rw [toString_eq_map, ne_eq, List.map_eq_nil_iff]
  exact Nat.toDigits_ne_nil

/-- The digits of a number end where no digit follows. -/
theorem takeWhile_toString (n : ℕ) {rest : Text} (h : NoDigit rest) :
    (WsHandshake.toString n ++ rest).takeWhile isDigit = WsHandshake.toString n ∧
      (WsHandshake.toString n ++ rest).dropWhile isDigit = rest := by
  have hdigits := isDigit_toString n
  rw [List.takeWhile_append_of_pos hdigits, List.dropWhile_append_of_pos hdigits]
  cases rest with
  | nil => simp
  | cons c rest =>
    have hc : isDigit c = false := h c rfl
    simp [hc]

theorem readDigits_toString (n : ℕ) {rest : Text} (h : NoDigit rest) :
    readDigits (WsHandshake.toString n ++ rest) = n := by
  rw [readDigits, (takeWhile_toString n h).1, toString_eq_map, List.foldl_map]
  calc (Nat.toDigits 10 n).foldl (fun value c => 10 * value + (c.val.toUInt8 - 48).toNat) 0
      = (Nat.toDigits 10 n).foldl (fun value c => 10 * value + (c.toNat - '0'.toNat)) 0 := by
        refine List.foldl_ext _ _ 0 fun value c hc => ?_
        rw [(digit_byte (Nat.isDigit_of_mem_toDigits (by decide) (by decide) hc)).2]
    _ = n := Nat.ofDigitChars_ten_toDigits

/-- A digit is no white space and no sign. -/
theorem not_space_of_isDigit : ∀ c : UInt8, isDigit c = true →
    isSpace c = false ∧ c ≠ 45 ∧ c ≠ 43 :=
  BigEndian.forall_byte (by decide +kernel)

/-- A printed integer is read back, wherever no digit follows. -/
theorem readInteger_toString (i : ℤ) {rest : Text} (h : NoDigit rest) :
    readInteger (toString i ++ rest) = some (i, rest) := by
  obtain ⟨hdigits, hrest⟩ := takeWhile_toString i.natAbs h
  have hvalue : readDigits (WsHandshake.toString i.natAbs ++ rest) = i.natAbs :=
    readDigits_toString i.natAbs h
  by_cases hneg : i < 0
  · have hspace : isSpace 45 = false := by decide
    rw [toString, if_pos hneg, List.cons_append, readInteger]
    simp only [List.dropWhile_cons, hspace, Bool.false_eq_true, if_false, List.head?_cons, true_or,
      if_true, List.tail_cons, hdigits, toString_ne_nil, hvalue, hrest]
    rw [Int.natCast_natAbs, abs_of_neg hneg, neg_neg]
  · obtain ⟨c, digits, hc⟩ := List.exists_cons_of_ne_nil (toString_ne_nil i.natAbs)
    obtain ⟨hspace, hminus, hplus⟩ :=
      not_space_of_isDigit c (isDigit_toString i.natAbs c (hc ▸ List.mem_cons_self))
    have hstart : (WsHandshake.toString i.natAbs ++ rest).dropWhile isSpace =
        WsHandshake.toString i.natAbs ++ rest := by
      rw [hc, List.cons_append, List.dropWhile_cons, if_neg (by simp [hspace])]
    have hhead : (WsHandshake.toString i.natAbs ++ rest).head? = some c := by
      rw [hc]
      rfl
    rw [toString, if_neg hneg, readInteger]
    simp only [hstart, hhead, Option.some.injEq, hminus, hplus, or_self, if_false, hdigits,
      toString_ne_nil, hvalue, hrest]
    rw [Int.natCast_natAbs, abs_of_nonneg (not_lt.1 hneg)]

theorem readSigned_toString {half : ℕ} {i : ℤ} (hi : -half ≤ i ∧ i < half) {rest : Text}
    (h : NoDigit rest) : readSigned half (toString i ++ rest) = some (i, rest) := by
  rw [readSigned, readInteger_toString i h]
  simp [hi]

theorem readUnsigned_toString {size n : ℕ} (hn : n < size) {rest : Text} (h : NoDigit rest) :
    readUnsigned size (toString n ++ rest) = some (n, rest) := by
  have hmod : ((n : ℤ) % size).toNat = n := by
    rw [← Int.natCast_mod, Nat.mod_eq_of_lt hn, Int.toNat_natCast]
  rw [readUnsigned, readInteger_toString _ h]
  simp [hn, hmod]

/-- A number is read behind a space. -/
theorem readUnsigned_space (size : ℕ) (stream : Text) :
    readUnsigned size (space :: stream) = readUnsigned size stream := by
  have hspace : isSpace space = true := by decide
  simp [readUnsigned, readInteger, hspace]

theorem noDigit_space (rest : Text) : NoDigit (space :: rest) := by
  rintro c hc
  obtain rfl := Option.some.inj hc
  decide

theorem noDigit_nil : NoDigit [] := fun c hc => by cases hc

@[simp]
theorem CInt.wrap_coe (i : CInt) : CInt.wrap i = i := by
  obtain ⟨i, hlow, hhigh⟩ := i
  refine Subtype.ext ?_
  change Int.bmod i 4294967296 = i
  exact Int.bmod_eq_of_le (by simpa using hlow) (by simpa using hhigh)

/-- `to_integer<int>` of a printed `int`. -/
theorem toInt_toString (i : CInt) {rest : Text} (h : NoDigit rest) :
    toInt (toString i ++ rest) = .ok i := by
  have hi : -(2 ^ 63 : ℕ) ≤ i.1 ∧ i.1 < (2 ^ 63 : ℕ) := by
    have hlow := i.2.1
    have hhigh := i.2.2
    constructor <;> norm_num <;> omega
  rw [toInt, readSigned_toString hi h]
  simp

/-- `to_integer` of a printed number. -/
theorem toUnsigned_toString {n : ℕ} (hn : n < 2 ^ 64) {rest : Text} (h : NoDigit rest) :
    toUnsigned (toString n ++ rest) = .ok n := by
  rw [toUnsigned, readUnsigned_toString hn h]

/-- A printed integer is a word. -/
theorem isWord_toString (i : ℤ) : IsWord (toString i) := by
  have hdigits : ∀ c ∈ WsHandshake.toString i.natAbs, isSpace c = false :=
    fun c hc => (not_space_of_isDigit c (isDigit_toString _ c hc)).1
  rw [toString]
  split_ifs
  · refine ⟨List.cons_ne_nil _ _, fun c hc => ?_⟩
    rcases List.mem_cons.1 hc with rfl | hc
    · decide
    · exact hdigits c hc
  · exact ⟨toString_ne_nil _, hdigits⟩

/-- A printed integer consists of digits and a sign. -/
theorem notMem_toString {c : UInt8} (hc : isDigit c = false) (hsign : c ≠ 45) (i : ℤ) :
    c ∉ toString i := by
  have hdigits : c ∉ WsHandshake.toString i.natAbs := by
    intro hmem
    rw [isDigit_toString _ c hmem] at hc
    cases hc
  rw [toString]
  split_ifs
  · rw [List.mem_cons, not_or]
    exact ⟨hsign, hdigits⟩
  · exact hdigits

end Integers

end Sdp

end Rtc
