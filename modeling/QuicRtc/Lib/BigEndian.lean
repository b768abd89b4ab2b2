import Mathlib.Data.List.Induction
import Mathlib.Data.Nat.Notation
import Mathlib.Tactic.Ring

/-!
# Big-endian byte fields

Fixed-width unsigned integers in network byte order. `BigEndian.encode w n` lays out `n` on `w`
bytes, most significant byte first, and `BigEndian.decode` reads such a field back. The two are
inverse on the numbers that fit (`decode_encode`, `encode_decode`). `BigEndian.swap` is what a
little-endian host does to convert between its own byte order and this one.
-/

namespace BigEndian

/-- The `w` low-order bytes of `n`, most significant first. -/
def encode : ℕ → ℕ → List UInt8
  | 0, _ => []
  | w + 1, n => encode w (n / 256) ++ [UInt8.ofNat n]

/-- The number whose base-256 digits are `bytes`, most significant first. -/
def decode (bytes : List UInt8) : ℕ :=
  bytes.foldl (fun acc b => acc * 256 + b.toNat) 0

/-- A field of width `w` occupies `w` bytes. -/
@[simp]
theorem length_encode (w n : ℕ) : (encode w n).length = w := by
  induction w generalizing n with
  | zero => rfl
  | succ w ih => simp [encode, ih]

/-- Reading one more low-order byte. -/
theorem decode_append_singleton (bytes : List UInt8) (b : UInt8) :
    decode (bytes ++ [b]) = decode bytes * 256 + b.toNat := by
  simp [decode]

/-- A field of `w` bytes holds a number below `256 ^ w`. -/
theorem decode_lt (bytes : List UInt8) : decode bytes < 256 ^ bytes.length := by
  induction bytes using List.reverseRecOn with
  | nil => decide
  | append_singleton bytes b ih =>
    have hb := b.toNat_lt
    rw [decode_append_singleton, List.length_append, List.length_singleton, pow_succ]
    omega

/-- A number that fits in `w` bytes is recovered from its field. -/
theorem decode_encode {w n : ℕ} (h : n < 256 ^ w) : decode (encode w n) = n := by
  induction w generalizing n with
  | zero =>
    have hn : n = 0 := by simpa using h
    rw [hn]
    rfl
  | succ w ih =>
    have hhigh : n / 256 < 256 ^ w := by
      rw [Nat.div_lt_iff_lt_mul (by norm_num), ← pow_succ]
      exact h
    have hlow : (UInt8.ofNat n).toNat = n % 256 := by simp
    rw [encode, decode_append_singleton, ih hhigh, hlow]
    omega

/-- A field is recovered from the number it holds. -/
theorem encode_decode (bytes : List UInt8) : encode bytes.length (decode bytes) = bytes := by
  induction bytes using List.reverseRecOn with
  | nil => rfl
  | append_singleton bytes b ih =>
    have hlt := b.toNat_lt
    have hhigh : (decode bytes * 256 + b.toNat) / 256 = decode bytes := by omega
    have hlow : UInt8.ofNat (decode bytes * 256 + b.toNat) = b := by
      rw [← UInt8.toNat_inj, UInt8.toNat_ofNat']
      omega
    rw [decode_append_singleton, List.length_append, List.length_singleton, encode, hhigh, ih, hlow]

/-- The number with the bytes of a field in the opposite order. -/
def swap (w n : ℕ) : ℕ := decode (encode w n).reverse

theorem swap_lt (w n : ℕ) : swap w n < 256 ^ w := by
  have hlt := decode_lt (encode w n).reverse
  rwa [List.length_reverse, length_encode] at hlt

/-- Two conversions cancel. -/
theorem swap_swap {w n : ℕ} (h : n < 256 ^ w) : swap w (swap w n) = n := by
  have hbytes := encode_decode (encode w n).reverse
  rw [List.length_reverse, length_encode] at hbytes
  rw [swap, swap, hbytes, List.reverse_reverse, decode_encode h]

/-- The number at the front of a buffer. -/
theorem decode_take_encode_append {w n : ℕ} (h : n < 256 ^ w) (rest : List UInt8) :
    decode ((encode w n ++ rest).take w) = n := by
  rw [List.take_left' (length_encode w n), decode_encode h]

/-- A property of bytes, checked on the 256 numbers they stand for. -/
theorem forall_byte {P : UInt8 → Prop} (h : ∀ n < 256, P (UInt8.ofNat n)) (b : UInt8) : P b := by
  rw [← UInt8.ofNat_toNat (x := b)]
  exact h b.toNat b.toNat_lt

end BigEndian
