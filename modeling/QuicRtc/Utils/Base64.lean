import QuicRtc.Lib.Base64
import QuicRtc.Utils

/-!
# Base 64 by index

`utils::base64_encode` takes three bytes at a time, with an index that is an `int` while the size is
not. `base64Encode` leaves the index out. Here it is kept: beyond the largest `int` nothing is
promised, neither for the next element nor for the next step.

* `base64Encode_eq`: without the index, the text is that of RFC 4648.
* `base64EncodeIndexed_eq`: with the index, the same as long as it does not overflow.
* `base64EncodeIndexed_isTextOf_iff`: for which sizes the function does what it is for.
-/

namespace Rtc

namespace Utils

/-! ## The digits of the code -/

/-- The six-bit pieces of a byte, as numbers. -/
theorem pieces_toNat : ∀ d : UInt8, (d >>> 2).toNat = d.toNat / 4 ∧
    ((d &&& 3) <<< 4).toNat = d.toNat % 4 * 16 ∧ (d >>> 4).toNat = d.toNat / 16 ∧
    ((d &&& 0x0F) <<< 2).toNat = d.toNat % 16 * 4 ∧ (d >>> 6).toNat = d.toNat / 64 ∧
    (d &&& 0x3F).toNat = d.toNat % 64 :=
  BigEndian.forall_byte (by decide +kernel)

/-- Pieces that do not overlap are added. -/
theorem toNat_or {a b : UInt8} {m k : ℕ} (i : ℕ) (ha : a.toNat = m * 2 ^ i) (hb : b.toNat = k)
    (hk : k < 2 ^ i) : (a ||| b).toNat = m * 2 ^ i + k := by
  rw [UInt8.toNat_or, ha, hb, Nat.mul_comm m, Nat.two_pow_add_eq_or_of_lt hk]

theorem tab_eq : tab = (List.range 64).map Base64.digit := by decide +kernel

theorem tabAt_eq {i : UInt8} {n : ℕ} (hi : i.toNat = n) (hn : n < 64) :
    tabAt i = Base64.digit n := by
  rw [tabAt, hi, tab_eq, List.getD_eq_getElem _ _ (by simpa using hn), List.getElem_map,
    List.getElem_range]

/-- The text of the code is that of RFC 4648. -/
theorem base64Encode_eq (data : List UInt8) : base64Encode data = Base64.encode data := by
  induction data using base64Encode.induct with
  | case1 d0 d1 d2 data ih =>
    obtain ⟨h0, h0', -⟩ := pieces_toNat d0
    obtain ⟨-, -, h1, h1', -⟩ := pieces_toNat d1
    obtain ⟨-, -, -, -, h2, h2'⟩ := pieces_toNat d2
    have hlt0 := d0.toNat_lt
    have hlt1 := d1.toNat_lt
    have hlt2 := d2.toNat_lt
    have h01 := toNat_or 4 h0' h1 (by omega)
    have h12 := toNat_or 2 h1' h2 (by omega)
    rw [base64Encode, Base64.encode, ih, tabAt_eq (h0.trans ?_), tabAt_eq (h01.trans ?_),
      tabAt_eq (h12.trans ?_), tabAt_eq (h2'.trans ?_)]
    all_goals omega
  | case2 d0 d1 =>
    obtain ⟨h0, h0', -⟩ := pieces_toNat d0
    obtain ⟨-, -, h1, h1', -⟩ := pieces_toNat d1
    have hlt0 := d0.toNat_lt
    have hlt1 := d1.toNat_lt
    have h01 := toNat_or 4 h0' h1 (by omega)
    rw [base64Encode, Base64.encode, tabAt_eq (h0.trans ?_), tabAt_eq (h01.trans ?_),
      tabAt_eq (h1'.trans ?_)]
    · rfl
    all_goals omega
  | case3 d0 =>
    obtain ⟨h0, h0', -⟩ := pieces_toNat d0
    have hlt0 := d0.toNat_lt
    rw [base64Encode, Base64.encode, tabAt_eq (h0.trans ?_), tabAt_eq (h0'.trans ?_)]
    · rfl
    all_goals omega
  | case4 => rfl

/-! ## The index of the code -/

/-- The loop of `base64_encode` from the index `i` on, which does not pass the end. Nothing if the
index overflows. -/
def base64Loop (data : List UInt8) (i : ℕ) (out : List UInt8) : Option (ℕ × List UInt8) :=
  if _h : 3 ≤ data.length - i then
    if i + 3 < 2 ^ 31 then do
      let d0 ← data[i]?
      let d1 ← data[i + 1]?
      let d2 ← data[i + 2]?
      base64Loop data (i + 3)
        (out ++ [tabAt (d0 >>> 2), tabAt (((d0 &&& 3) <<< (4 : UInt8)) ||| (d1 >>> 4)),
          tabAt (((d1 &&& 0x0F) <<< (2 : UInt8)) ||| (d2 >>> 6)), tabAt (d2 &&& 0x3F)])
    else none
  else some (i, out)
termination_by data.length - i

/-- The end of `base64_encode`, for what the loop has left. -/
def base64Left (data : List UInt8) (i : ℕ) (out : List UInt8) : Option (List UInt8) :=
  let left := data.length - i
  if left = 0 then some out
  else do
    let d0 ← data[i]?
    if left = 1 then
      some (out ++ ([tabAt (d0 >>> 2), tabAt ((d0 &&& 3) <<< 4)] ++ bytes "=="))
    else
      let d1 ← data[i + 1]?
      some (out ++ ([tabAt (d0 >>> 2), tabAt (((d0 &&& 3) <<< (4 : UInt8)) ||| (d1 >>> 4)),
        tabAt ((d1 &&& 0x0F) <<< 2)] ++ bytes "="))

/-- `utils::base64_encode` with its index, or nothing if that overflows. -/
def base64EncodeIndexed (data : List UInt8) : Option (List UInt8) := do
  let (i, out) ← base64Loop data 0 []
  base64Left data i out

/-- The text is that of the bytes: its length, its padding, and what the reference reads from it. -/
structure IsTextOf (text data : List UInt8) : Prop where
  length : text.length = 4 * (data.length ⌈/⌉ 3)
  padded : Base64.IsPadded text
  decode : Base64.decode text = some data

section Index

variable {data rest : List UInt8} {i : ℕ}

/-- What is left where the loop ends. -/
theorem base64Left_of_drop (hdrop : data.drop i = rest) (hshort : rest.length < 3)
    (out : List UInt8) : base64Left data i out = some (out ++ base64Encode rest) := by
  have hlength : data.length - i = rest.length := by rw [← hdrop, List.length_drop]
  rw [base64Left, hlength]
  cases rest with
  | nil => rw [base64Encode, List.append_nil]; rfl
  | cons d0 rest =>
    have h0 : data[i]? = some d0 := Reader.getElem?_of_drop hdrop
    cases rest with
    | nil =>
      rw [h0]
      rfl
    | cons d1 rest =>
      have hdrop1 := Reader.drop_succ_of_drop hdrop
      have hnil : rest = [] := by
        rw [List.length_cons, List.length_cons] at hshort
        exact List.length_eq_zero_iff.1 (by omega)
      subst hnil
      rw [h0, Reader.getElem?_of_drop hdrop1]
      rfl

/-- One step of the loop. -/
theorem base64Loop_of_drop {d0 d1 d2 : UInt8} (hdrop : data.drop i = d0 :: d1 :: d2 :: rest)
    (out : List UInt8) : base64Loop data i out =
      if i + 3 < 2 ^ 31 then
        base64Loop data (i + 3)
          (out ++ [tabAt (d0 >>> 2), tabAt (((d0 &&& 3) <<< (4 : UInt8)) ||| (d1 >>> 4)),
            tabAt (((d1 &&& 0x0F) <<< (2 : UInt8)) ||| (d2 >>> 6)), tabAt (d2 &&& 0x3F)])
      else none := by
  have hdrop1 := Reader.drop_succ_of_drop hdrop
  have hdrop2 := Reader.drop_succ_of_drop hdrop1
  have hleft : 3 ≤ data.length - i := by
    rw [← List.length_drop, hdrop, List.length_cons, List.length_cons, List.length_cons]
    omega
  rw [base64Loop, dif_pos hleft, Reader.getElem?_of_drop hdrop, Reader.getElem?_of_drop hdrop1,
    Reader.getElem?_of_drop hdrop2]
  rfl

/-- With less than three bytes the loop ends. -/
theorem base64Loop_bind_of_short (hi : i < 2 ^ 31) (hdrop : data.drop i = rest)
    (hshort : rest.length < 3) (out : List UInt8) :
    ((base64Loop data i out).bind fun result => base64Left data result.1 result.2) =
      if i + 3 * (rest.length / 3) < 2 ^ 31 then some (out ++ base64Encode rest) else none := by
  have hleft : ¬3 ≤ data.length - i := by
    rw [← List.length_drop, hdrop]
    omega
  rw [base64Loop, dif_neg hleft, Option.bind_some, base64Left_of_drop hdrop hshort,
    if_pos (by omega)]

/-- The loop and what it leaves, from any index on. -/
theorem base64Loop_bind (hi : i < 2 ^ 31) (hdrop : data.drop i = rest) (out : List UInt8) :
    ((base64Loop data i out).bind fun result => base64Left data result.1 result.2) =
      if i + 3 * (rest.length / 3) < 2 ^ 31 then some (out ++ base64Encode rest) else none := by
  induction rest using base64Encode.induct generalizing i out with
  | case1 d0 d1 d2 rest ih =>
    have hdrop3 := Reader.drop_succ_of_drop (Reader.drop_succ_of_drop
      (Reader.drop_succ_of_drop hdrop))
    have hcount : i + 3 * ((d0 :: d1 :: d2 :: rest).length / 3) =
        i + 3 + 3 * (rest.length / 3) := by
      rw [List.length_cons, List.length_cons, List.length_cons]
      omega
    rw [base64Loop_of_drop hdrop, hcount]
    by_cases hnext : i + 3 < 2 ^ 31
    · rw [if_pos hnext, ih hnext hdrop3, base64Encode, List.append_assoc]
      rfl
    · -- the index overflows on this step
      rw [if_neg hnext, if_neg (by omega)]
      rfl
  | case2 d0 d1 => exact base64Loop_bind_of_short hi hdrop (by simp) out
  | case3 d0 => exact base64Loop_bind_of_short hi hdrop (by simp) out
  | case4 => exact base64Loop_bind_of_short hi hdrop (by simp) out

/-- The index does not overflow up to 2 GiB. -/
theorem base64EncodeIndexed_eq (data : List UInt8) : base64EncodeIndexed data =
    if data.length ≤ 2 ^ 31 then some (base64Encode data) else none := by
  have hloop := @base64Loop_bind data data 0 (by decide) rfl []
  have hsize : 0 + 3 * (data.length / 3) < 2 ^ 31 ↔ data.length ≤ 2 ^ 31 := by omega
  simp only [hsize, List.nil_append] at hloop
  exact hloop

end Index

theorem isTextOf_base64Encode (data : List UInt8) : IsTextOf (base64Encode data) data := by
  rw [base64Encode_eq]
  exact ⟨Base64.length_encode data, Base64.isPadded_encode data, Base64.decode_encode data⟩

theorem base64Encode_injective : Function.Injective base64Encode := by
  intro data data' heq
  have hread := (isTextOf_base64Encode data).decode
  rw [heq, (isTextOf_base64Encode data').decode] at hread
  exact (Option.some.inj hread).symm

/-- The function returns the text of its bytes if and only if these are at most 2 GiB. -/
theorem base64EncodeIndexed_isTextOf_iff (data : List UInt8) :
    (∃ text, base64EncodeIndexed data = some text ∧ IsTextOf text data) ↔
      data.length ≤ 2 ^ 31 := by
  rw [base64EncodeIndexed_eq]
  constructor
  · rintro ⟨text, htext, -⟩
    by_contra hlarge
    rw [if_neg hlarge] at htext
    cases htext
  · intro hsize
    exact ⟨base64Encode data, if_pos hsize, isTextOf_base64Encode data⟩

/-- One byte more is too much. -/
theorem not_isTextOf_large : ¬∃ text,
    base64EncodeIndexed (List.replicate (2 ^ 31 + 1) 0) = some text ∧
      IsTextOf text (List.replicate (2 ^ 31 + 1) 0) := by
  rintro ⟨text, htext, -⟩
  rw [base64EncodeIndexed_eq, List.length_replicate, if_neg (by norm_num)] at htext
  cases htext

end Utils

end Rtc
