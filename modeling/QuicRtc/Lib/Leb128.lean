import Mathlib.Data.List.Basic
import Mathlib.Data.Nat.Notation

/-!
# LEB128

Unsigned integers in groups of seven bits, least significant first. The high bit of a byte says that
another one follows. `Encodes bytes n` are the encodings of a number, which may have more bytes than
it needs, and `decode` reads one from the front of a buffer.
-/

namespace Leb128

/-- The bytes encode the number. -/
inductive Encodes : List UInt8 → ℕ → Prop where
  | last {b : UInt8} (h : b.toNat < 128) : Encodes [b] b.toNat
  | more {b : UInt8} {bytes : List UInt8} {n : ℕ} (h : 128 ≤ b.toNat) (hbytes : Encodes bytes n) :
    Encodes (b :: bytes) (b.toNat - 128 + 128 * n)

/-- The number at the front of a buffer, and what follows. -/
def decode : List UInt8 → Option (ℕ × List UInt8)
  | [] => none
  | b :: rest =>
    if b.toNat < 128 then some (b.toNat, rest)
    else (decode rest).map fun (n, rest) => (b.toNat - 128 + 128 * n, rest)

theorem Encodes.ne_nil {bytes : List UInt8} {n : ℕ} (h : Encodes bytes n) : bytes ≠ [] := by
  rintro rfl
  cases h

/-- A number that is above the seven bits of the first byte has another byte. -/
theorem Encodes.cons_of_le {bytes : List UInt8} {n : ℕ} (h : Encodes bytes n) (hn : 128 ≤ n) :
    ∃ b rest m, bytes = b :: rest ∧ 128 ≤ b.toNat ∧ Encodes rest m ∧
      n = b.toNat - 128 + 128 * m := by
  cases h with
  | last h => omega
  | more h hbytes => exact ⟨_, _, _, rfl, h, hbytes, rfl⟩

/-- A number is read back from any of its encodings. -/
theorem Encodes.decode_append {bytes : List UInt8} {n : ℕ} (h : Encodes bytes n)
    (rest : List UInt8) : decode (bytes ++ rest) = some (n, rest) := by
  induction h with
  | last h => rw [List.singleton_append, decode, if_pos h]
  | more h _ ih =>
    rw [List.cons_append, decode, if_neg (Nat.not_lt.2 h), ih]
    rfl

/-- A number of at most seven bits takes one byte. -/
theorem encodes_of_lt {n : ℕ} (h : n < 128) : Encodes [UInt8.ofNat n] n := by
  have hn : (UInt8.ofNat n).toNat = n := UInt8.toNat_ofNat_of_lt' (by show n < 256; omega)
  have hlast : Encodes [UInt8.ofNat n] (UInt8.ofNat n).toNat := .last (by rw [hn]; exact h)
  rwa [hn] at hlast

end Leb128
