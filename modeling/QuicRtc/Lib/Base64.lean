import Mathlib.Algebra.Order.Floor.Div
import Mathlib.Data.List.Basic

/-!
# Base 64

The encoding of RFC 4648. Three bytes are a number of 24 bits, which is written with four digits. At
the end, two bytes are three digits and one byte is two digits, with zero bits behind the last byte
and padding up to four characters. `decode` is the reference: it takes padding in the last four
characters only, and zero bits in front of it only.

* `length_encode`: the length of a text.
* `isPadded_encode`: digits, with padding at the end only.
* `decode_encode`: the bytes are read back.
-/

namespace Base64

/-- The character of a digit: `A` to `Z`, `a` to `z`, `0` to `9`, `+` and `/`. -/
def digit (n : ℕ) : UInt8 :=
  if n < 26 then UInt8.ofNat (65 + n)
  else if n < 52 then UInt8.ofNat (97 + (n - 26))
  else if n < 62 then UInt8.ofNat (48 + (n - 52))
  else if n = 62 then 43
  else 47

/-- The digit of a character. -/
def value (c : UInt8) : Option ℕ :=
  if 65 ≤ c.toNat ∧ c.toNat ≤ 90 then some (c.toNat - 65)
  else if 97 ≤ c.toNat ∧ c.toNat ≤ 122 then some (c.toNat - 97 + 26)
  else if 48 ≤ c.toNat ∧ c.toNat ≤ 57 then some (c.toNat - 48 + 52)
  else if c = 43 then some 62
  else if c = 47 then some 63
  else none

/-- `=`. -/
def pad : UInt8 := 61

/-- The text of bytes. -/
def encode : List UInt8 → List UInt8
  | b₀ :: b₁ :: b₂ :: rest =>
    let n := (b₀.toNat * 256 + b₁.toNat) * 256 + b₂.toNat
    digit (n / 262144) :: digit (n / 4096 % 64) :: digit (n / 64 % 64) :: digit (n % 64) ::
      encode rest
  | [b₀, b₁] =>
    let n := (b₀.toNat * 256 + b₁.toNat) * 4
    [digit (n / 4096), digit (n / 64 % 64), digit (n % 64), pad]
  | [b₀] =>
    let n := b₀.toNat * 16
    [digit (n / 64), digit (n % 64), pad, pad]
  | [] => []

/-- The bytes of the last digits, in front of the padding. -/
def decodePadded (c₀ c₁ c₂ : UInt8) : Option (List UInt8) := do
  let v₀ ← value c₀
  let v₁ ← value c₁
  if c₂ = pad then
    let n := v₀ * 64 + v₁
    if n % 16 = 0 then some [UInt8.ofNat (n / 16)] else none
  else
    let v₂ ← value c₂
    let n := (v₀ * 64 + v₁) * 64 + v₂
    if n % 4 = 0 then some [UInt8.ofNat (n / 4 / 256), UInt8.ofNat (n / 4)] else none

/-- The bytes of a text, or nothing. -/
def decode : List UInt8 → Option (List UInt8)
  | c₀ :: c₁ :: c₂ :: c₃ :: rest =>
    if c₃ = pad then
      if rest = [] then decodePadded c₀ c₁ c₂ else none
    else do
      let v₀ ← value c₀
      let v₁ ← value c₁
      let v₂ ← value c₂
      let v₃ ← value c₃
      let n := ((v₀ * 64 + v₁) * 64 + v₂) * 64 + v₃
      let bytes ← decode rest
      some (UInt8.ofNat (n / 256 / 256) :: UInt8.ofNat (n / 256) :: UInt8.ofNat n :: bytes)
  | [] => some []
  | _ => none

/-- The text consists of digits, and of at most two characters of padding at its end. -/
def IsPadded (text : List UInt8) : Prop :=
  ∃ digits k, text = digits ++ List.replicate k pad ∧ k ≤ 2 ∧ ∀ c ∈ digits, ∃ n < 64, c = digit n

/-! ## Digits -/

theorem value_digit : ∀ n < 64, value (digit n) = some n := by decide

theorem digit_ne_pad : ∀ n < 64, digit n ≠ pad := by decide

/-! ## Texts -/

/-- Three bytes or less are four characters. -/
theorem length_encode (data : List UInt8) : (encode data).length = 4 * (data.length ⌈/⌉ 3) := by
  induction data using encode.induct with
  | case1 b₀ b₁ b₂ rest ih =>
    simp only [encode, List.length_cons, ih, Nat.ceilDiv_eq_add_pred_div]
    omega
  | case2 b₀ b₁ => simp [encode, Nat.ceilDiv_eq_add_pred_div]
  | case3 b₀ => simp [encode, Nat.ceilDiv_eq_add_pred_div]
  | case4 => rfl

theorem isPadded_encode (data : List UInt8) : IsPadded (encode data) := by
  induction data using encode.induct with
  | case1 b₀ b₁ b₂ rest ih =>
    obtain ⟨digits, k, htext, hk, hdigits⟩ := ih
    have h₀ := b₀.toNat_lt
    have h₁ := b₁.toNat_lt
    have h₂ := b₂.toNat_lt
    rw [encode, htext]
    refine ⟨_ :: _ :: _ :: _ :: digits, k, rfl, hk, ?_⟩
    simp only [List.forall_mem_cons]
    refine ⟨⟨_, ?_, rfl⟩, ⟨_, ?_, rfl⟩, ⟨_, ?_, rfl⟩, ⟨_, ?_, rfl⟩, hdigits⟩ <;> omega
  | case2 b₀ b₁ =>
    have h₀ := b₀.toNat_lt
    have h₁ := b₁.toNat_lt
    refine ⟨[_, _, _], 1, rfl, by decide, ?_⟩
    simp only [List.forall_mem_cons, List.not_mem_nil, false_implies, implies_true, and_true]
    refine ⟨⟨_, ?_, rfl⟩, ⟨_, ?_, rfl⟩, ⟨_, ?_, rfl⟩⟩ <;> omega
  | case3 b₀ =>
    have h₀ := b₀.toNat_lt
    refine ⟨[_, _], 2, rfl, by decide, ?_⟩
    simp only [List.forall_mem_cons, List.not_mem_nil, false_implies, implies_true, and_true]
    refine ⟨⟨_, ?_, rfl⟩, ⟨_, ?_, rfl⟩⟩ <;> omega
  | case4 => exact ⟨[], 0, rfl, by decide, fun c hc => absurd hc List.not_mem_nil⟩

/-- Four digits are read as the number they were taken from. -/
theorem decode_digits {n : ℕ} (hn : n < 16777216) (rest : List UInt8) :
    decode (digit (n / 262144) :: digit (n / 4096 % 64) :: digit (n / 64 % 64) ::
      digit (n % 64) :: rest) =
      (decode rest).map fun bytes =>
        UInt8.ofNat (n / 256 / 256) :: UInt8.ofNat (n / 256) :: UInt8.ofNat n :: bytes := by
  have hvalue : ((n / 262144 * 64 + n / 4096 % 64) * 64 + n / 64 % 64) * 64 + n % 64 = n := by omega
  rw [decode, if_neg (digit_ne_pad _ (by omega)), value_digit _ (by omega),
    value_digit _ (by omega), value_digit _ (by omega), value_digit _ (by omega)]
  simp only [Option.bind_eq_bind, Option.bind_some, hvalue]
  cases decode rest <;> rfl

theorem decodePadded_three {n : ℕ} (hn : n < 262144) (hzero : n % 4 = 0) :
    decodePadded (digit (n / 4096)) (digit (n / 64 % 64)) (digit (n % 64)) =
      some [UInt8.ofNat (n / 4 / 256), UInt8.ofNat (n / 4)] := by
  have hvalue : (n / 4096 * 64 + n / 64 % 64) * 64 + n % 64 = n := by omega
  rw [decodePadded, value_digit _ (by omega), value_digit _ (by omega), value_digit _ (by omega)]
  simp only [Option.bind_eq_bind, Option.bind_some, hvalue, hzero, if_true,
    if_neg (digit_ne_pad (n % 64) (by omega))]

theorem decodePadded_two {n : ℕ} (hn : n < 4096) (hzero : n % 16 = 0) :
    decodePadded (digit (n / 64)) (digit (n % 64)) pad = some [UInt8.ofNat (n / 16)] := by
  have hvalue : n / 64 * 64 + n % 64 = n := by omega
  rw [decodePadded, value_digit _ (by omega), value_digit _ (by omega)]
  simp only [Option.bind_eq_bind, Option.bind_some, hvalue, hzero, if_true]

theorem add_toNat_div (n : ℕ) (b : UInt8) : (n * 256 + b.toNat) / 256 = n := by
  have := b.toNat_lt
  omega

/-- A byte is what is left of a number that ends with it. -/
theorem ofNat_add_toNat (n : ℕ) (b : UInt8) : UInt8.ofNat (n * 256 + b.toNat) = b := by
  rw [← UInt8.toNat_inj, UInt8.toNat_ofNat']
  have := b.toNat_lt
  omega

/-- The bytes are read back. -/
theorem decode_encode (data : List UInt8) : decode (encode data) = some data := by
  induction data using encode.induct with
  | case1 b₀ b₁ b₂ rest ih =>
    have h₀ := b₀.toNat_lt
    have h₁ := b₁.toNat_lt
    have h₂ := b₂.toNat_lt
    have hlt : (b₀.toNat * 256 + b₁.toNat) * 256 + b₂.toNat < 16777216 := by omega
    -- the bytes are the digits of the number in base 256
    rw [encode, decode_digits hlt, ih, Option.map_some, add_toNat_div _ b₂,
      add_toNat_div b₀.toNat b₁, ofNat_add_toNat b₀.toNat b₁, ofNat_add_toNat _ b₂,
      UInt8.ofNat_toNat]
  | case2 b₀ b₁ =>
    have h₀ := b₀.toNat_lt
    have h₁ := b₁.toNat_lt
    have hbytes : (b₀.toNat * 256 + b₁.toNat) * 4 / 4 = b₀.toNat * 256 + b₁.toNat := by omega
    rw [encode, decode, if_pos rfl, if_pos rfl, decodePadded_three (by omega) (by omega), hbytes,
      add_toNat_div b₀.toNat b₁, ofNat_add_toNat b₀.toNat b₁, UInt8.ofNat_toNat]
  | case3 b₀ =>
    have h₀ := b₀.toNat_lt
    have hbytes : b₀.toNat * 16 / 16 = b₀.toNat := by omega
    rw [encode, decode, if_pos rfl, if_pos rfl, decodePadded_two (by omega) (by omega), hbytes,
      UInt8.ofNat_toNat]
  | case4 => rfl

end Base64
