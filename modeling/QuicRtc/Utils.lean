import Mathlib.Data.List.GetD
import QuicRtc.Lib.Reader
import QuicRtc.Lib.BigEndian

/-!
# Text utilities

The functions of `impl/utils.cpp` that work on text: `explode`, `implode` and `base64_encode`. A
`std::string` is the list of its bytes.
-/

namespace Rtc

/-- The bytes of a string literal. -/
def bytes (s : String) : List UInt8 := s.toList.map fun c => c.val.toUInt8

/-- A property of the bytes of a text is decided byte by byte. -/
theorem forall_mem_of_all {P : UInt8 → Prop} [DecidablePred P] {text : List UInt8}
    (h : text.all (fun c => decide (P c)) = true) : ∀ c ∈ text, P c := by
  simpa using h

namespace Utils

/-! ## Lists of tokens -/

/-- `utils::explode`. A call to `getline` takes the text up to the delimiter or the end, and fails
when nothing is left. -/
def explode (str : List UInt8) (delim : UInt8) : List (List UInt8) :=
  if str = [] then []
  else
    match _h : Reader.upTo delim str with
    | some (token, rest) => token :: explode rest delim
    | none => [str]
termination_by str.length
decreasing_by
  obtain ⟨-, rfl⟩ := Reader.upTo_eq_some_iff.1 _h
  simp
  omega

/-- `utils::implode`: the delimiter is written behind every token, and the last one is removed. -/
def implode (tokens : List (List UInt8)) (delim : UInt8) : List UInt8 :=
  (tokens.flatMap fun token => token ++ [delim]).dropLast

theorem implode_singleton (token : List UInt8) (delim : UInt8) :
    implode [token] delim = token := by
  simp [implode]

theorem implode_cons (token : List UInt8) {tokens : List (List UInt8)} (h : tokens ≠ [])
    (delim : UInt8) :
    implode (token :: tokens) delim = token ++ delim :: implode tokens delim := by
  have hne : (tokens.flatMap fun token => token ++ [delim]) ≠ [] := by
    simpa using List.exists_mem_of_ne_nil tokens h
  rw [implode, List.flatMap_cons, List.dropLast_append_of_ne_nil hne]
  simp [implode]

/-- A text without delimiter is one token. -/
theorem explode_token {token : List UInt8} {delim : UInt8} (hne : token ≠ []) (h : delim ∉ token) :
    explode token delim = [token] := by
  have hnone : Reader.upTo delim token = none := Reader.upTo_eq_none_iff.2 h
  rw [explode, if_neg hne]
  split
  · next heq => simp [hnone] at heq
  · rfl

theorem explode_append {token : List UInt8} {delim : UInt8} (h : delim ∉ token)
    (rest : List UInt8) : explode (token ++ delim :: rest) delim = token :: explode rest delim := by
  have hsome : Reader.upTo delim (token ++ delim :: rest) = some (token, rest) :=
    Reader.upTo_eq_some_iff.2 ⟨h, rfl⟩
  rw [explode, if_neg (by simp)]
  split
  · next heq =>
    rw [hsome] at heq
    obtain ⟨rfl, rfl⟩ := Prod.mk.inj (Option.some.inj heq)
    rfl
  · next heq => simp [hsome] at heq

/-- A text is split at one of its delimiters. -/
theorem explode_append_append (str : List UInt8) (delim : UInt8) (rest : List UInt8) :
    explode (str ++ delim :: rest) delim =
      explode (str ++ [delim]) delim ++ explode rest delim := by
  have hend : explode [] delim = [] := by rw [explode, if_pos rfl]
  induction str using explode.induct delim with
  | case1 =>
    have hsplit := @explode_append [] delim List.not_mem_nil
    rw [hsplit rest, hsplit [], hend]
    rfl
  | case2 str hne first others hsplit ih =>
    obtain ⟨hfirst, rfl⟩ := Reader.upTo_eq_some_iff.1 hsplit
    rw [List.append_assoc, List.append_assoc, List.cons_append, List.cons_append,
      explode_append hfirst, explode_append hfirst, ih, List.cons_append]
  | case3 str hne hnone =>
    have hdelim := Reader.upTo_eq_none_iff.1 hnone
    rw [explode_append hdelim, explode_append hdelim, hend]
    rfl

/-- A token is a part of the text and does not contain the delimiter. -/
theorem of_mem_explode {str token : List UInt8} {delim : UInt8} (h : token ∈ explode str delim) :
    delim ∉ token ∧ token ⊆ str := by
  induction str using explode.induct delim with
  | case1 =>
    rw [explode, if_pos rfl] at h
    exact (List.not_mem_nil h).elim
  | case2 str hne first rest hsplit ih =>
    obtain ⟨hfirst, rfl⟩ := Reader.upTo_eq_some_iff.1 hsplit
    rw [explode_append hfirst] at h
    rcases List.mem_cons.1 h with rfl | hrest
    · exact ⟨hfirst, List.subset_append_left _ _⟩
    · obtain ⟨hdelim, hsub⟩ := ih hrest
      refine ⟨hdelim, fun c hc => ?_⟩
      exact List.mem_append_right _ (List.mem_cons_of_mem _ (hsub hc))
  | case3 str hne hnone =>
    have hdelim := Reader.upTo_eq_none_iff.1 hnone
    rw [explode_token hne hdelim] at h
    obtain rfl := List.mem_singleton.1 h
    exact ⟨hdelim, List.Subset.refl _⟩

/-- `explode` inverts `implode` on tokens that are not empty and do not contain the delimiter. -/
theorem explode_implode {tokens : List (List UInt8)} {delim : UInt8}
    (h : ∀ token ∈ tokens, token ≠ [] ∧ delim ∉ token) :
    explode (implode tokens delim) delim = tokens := by
  induction tokens with
  | nil => simp [implode, explode]
  | cons token tokens ih =>
    have htoken := h token (by simp)
    by_cases htokens : tokens = []
    · rw [htokens, implode_singleton]
      exact explode_token htoken.1 htoken.2
    · rw [implode_cons token htokens, explode_append htoken.2,
        ih fun token hmem => h token (by simp [hmem])]

/-- Only the delimiter is added. -/
theorem mem_implode {tokens : List (List UInt8)} {delim c : UInt8} (h : c ∈ implode tokens delim) :
    c = delim ∨ ∃ token ∈ tokens, c ∈ token := by
  obtain ⟨token, hmem, hc⟩ := List.mem_flatMap.1 (List.dropLast_subset _ h)
  rcases List.mem_append.1 hc with hc | hc
  · exact Or.inr ⟨token, hmem, hc⟩
  · exact Or.inl (by simpa using hc)

/-! ## Base 64 -/

/-- `tab`. -/
def tab : List UInt8 := bytes "ABCDEFGHIJKLMNOPQRSTUVWXYZabcdefghijklmnopqrstuvwxyz0123456789+/"

/-- `tab[i]`. The indices of `base64_encode` are below 64. -/
def tabAt (i : UInt8) : UInt8 := tab.getD i.toNat 0

/-- `utils::base64_encode`, for sizes that its index reaches. -/
def base64Encode : List UInt8 → List UInt8
  | d0 :: d1 :: d2 :: data =>
    tabAt (d0 >>> 2) :: tabAt (((d0 &&& 3) <<< (4 : UInt8)) ||| (d1 >>> 4)) ::
      tabAt (((d1 &&& 0x0F) <<< (2 : UInt8)) ||| (d2 >>> 6)) :: tabAt (d2 &&& 0x3F) ::
        base64Encode data
  | [d0, d1] =>
    [tabAt (d0 >>> 2), tabAt (((d0 &&& 3) <<< (4 : UInt8)) ||| (d1 >>> 4)),
      tabAt ((d1 &&& 0x0F) <<< 2)] ++ bytes "="
  | [d0] => [tabAt (d0 >>> 2), tabAt ((d0 &&& 3) <<< 4)] ++ bytes "=="
  | [] => []

theorem tabAt_mem {i : UInt8} (h : i < 64) : tabAt i ∈ tab := by
  have hlength : i.toNat < tab.length := by
    rw [show tab.length = 64 by decide]
    exact UInt8.lt_iff_toNat_lt.1 h
  rw [tabAt, List.getD_eq_getElem _ _ hlength]
  exact List.getElem_mem hlength

theorem or_lt_64 {a b : UInt8} (ha : a < 64) (hb : b < 64) : a ||| b < 64 := by
  rw [UInt8.lt_iff_toNat_lt] at ha hb ⊢
  rw [UInt8.toNat_or]
  exact Nat.or_lt_two_pow (n := 6) ha hb

/-- The six-bit pieces of a byte. -/
theorem pieces_lt_64 : ∀ d : UInt8, d >>> 2 < 64 ∧ (d &&& 3) <<< 4 < 64 ∧ d >>> 4 < 64 ∧
    (d &&& 0x0F) <<< 2 < 64 ∧ d >>> 6 < 64 ∧ d &&& 0x3F < 64 :=
  BigEndian.forall_byte (by decide +kernel)

/-- A base 64 text consists of the 64 digits and the padding. -/
theorem mem_base64Encode {data : List UInt8} {c : UInt8} (h : c ∈ base64Encode data) :
    c ∈ tab ++ bytes "=" := by
  induction data using base64Encode.induct with
  | case1 d0 d1 d2 data ih =>
    obtain ⟨h0, h0', -⟩ := pieces_lt_64 d0
    obtain ⟨-, -, h1, h1', -⟩ := pieces_lt_64 d1
    obtain ⟨-, -, -, -, h2, h2'⟩ := pieces_lt_64 d2
    simp only [base64Encode, List.mem_cons] at h
    rcases h with rfl | rfl | rfl | rfl | h
    · exact List.mem_append_left _ (tabAt_mem h0)
    · exact List.mem_append_left _ (tabAt_mem (or_lt_64 h0' h1))
    · exact List.mem_append_left _ (tabAt_mem (or_lt_64 h1' h2))
    · exact List.mem_append_left _ (tabAt_mem h2')
    · exact ih h
  | case2 d0 d1 =>
    obtain ⟨h0, h0', -⟩ := pieces_lt_64 d0
    obtain ⟨-, -, h1, h1', -⟩ := pieces_lt_64 d1
    simp only [base64Encode, List.mem_append, List.mem_cons, List.not_mem_nil, or_false] at h
    rcases h with (rfl | rfl | rfl) | h
    · exact List.mem_append_left _ (tabAt_mem h0)
    · exact List.mem_append_left _ (tabAt_mem (or_lt_64 h0' h1))
    · exact List.mem_append_left _ (tabAt_mem h1')
    · exact List.mem_append_right _ h
  | case3 d0 =>
    obtain ⟨h0, h0', -⟩ := pieces_lt_64 d0
    simp only [base64Encode, List.mem_append, List.mem_cons, List.not_mem_nil, or_false] at h
    rcases h with (rfl | rfl) | h
    · exact List.mem_append_left _ (tabAt_mem h0)
    · exact List.mem_append_left _ (tabAt_mem h0')
    · have hc : ∀ c ∈ bytes "==", c ∈ bytes "=" := forall_mem_of_all (by decide)
      exact List.mem_append_right _ (hc c h)
  | case4 => simp [base64Encode] at h

end Utils

end Rtc
