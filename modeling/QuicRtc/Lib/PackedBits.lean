import Mathlib.Data.List.Basic
import Mathlib.Data.Nat.Notation

/-!
# Bits packed into words

An array of `w`-bit words holds a sequence of bits: bit `i` is bit `i % w`, counted from the least
significant one, of the word `i / w`.

* `inPlace f xs n` is the loop that overwrites the positions `0, …, n - 1` of an array from left to
  right. When every value is computed from positions that are not yet overwritten, the loop is a
  parallel assignment (`getElem?_inPlace`).
* `funnel lo hi s` moves the `s` low-order bits of the word `hi` into the high-order end of `lo`.
  This is how a shift by less than a word crosses from one word to the next (`bit_funnel`).
* `setBit` sets one bit and keeps the others (`bit_setBit`).
-/

namespace PackedBits

/-! ## Loops over an array -/

variable {α : Type*}

/-- Assign to the positions `0, …, n - 1`, in this order, what `f` computes from the array as the
assignments before have left it. -/
def inPlace (f : List α → ℕ → α) (xs : List α) : ℕ → List α
  | 0 => xs
  | n + 1 => (inPlace f xs n).set n (f (inPlace f xs n) n)

@[simp]
theorem length_inPlace (f : List α → ℕ → α) (xs : List α) (n : ℕ) :
    (inPlace f xs n).length = xs.length := by
  induction n with
  | zero => rfl
  | succ n ih => rw [inPlace, List.length_set, ih]

/-- Each assignment reads only at its own position and to the right of it. -/
def ReadsAhead (f : List α → ℕ → α) : Prop :=
  ∀ xs ys n, (∀ j, n ≤ j → ys[j]? = xs[j]?) → f ys n = f xs n

/-- A loop that reads ahead computes all its values from the array it started with. -/
theorem getElem?_inPlace {f : List α → ℕ → α} (hf : ReadsAhead f) (xs : List α) (n j : ℕ) :
    (inPlace f xs n)[j]? = if j < n then xs[j]?.map fun _ => f xs j else xs[j]? := by
  induction n generalizing j with
  | zero => rfl
  | succ n ih =>
    -- the positions from `n` on are still those of `xs`
    have hread : f (inPlace f xs n) n = f xs n := by
      apply hf
      intro j hj
      rw [ih, if_neg (by omega)]
    rw [inPlace, List.getElem?_set, hread, length_inPlace]
    by_cases hn : n = j
    · subst hn
      by_cases hlt : n < xs.length
      · simp [hlt]
      · simp [hlt]
    · rw [if_neg hn, ih]
      by_cases hj : j < n
      · rw [if_pos hj, if_pos (by omega)]
      · rw [if_neg hj, if_neg (by omega)]

/-- The same for reading with a default. -/
theorem getD_inPlace {f : List α → ℕ → α} (hf : ReadsAhead f) (xs : List α) (d : α) {n j : ℕ}
    (hn : n ≤ xs.length) :
    (inPlace f xs n).getD j d = if j < n then f xs j else xs.getD j d := by
  rw [List.getD_eq_getElem?_getD, getElem?_inPlace hf]
  by_cases hj : j < n
  · rw [if_pos hj, if_pos hj, List.getElem?_eq_getElem (by omega)]
    rfl
  · rw [if_neg hj, if_neg hj, List.getD_eq_getElem?_getD]

/-! ## Bits -/

variable {w : ℕ}

/-- Bit `i` of the sequence; `false` behind the end of the array. -/
def bit (words : List (BitVec w)) (i : ℕ) : Bool :=
  (words.getD (i / w) 0).getLsbD (i % w)

/-- Set bit `i`. -/
def setBit (words : List (BitVec w)) (i : ℕ) : List (BitVec w) :=
  words.modify (i / w) (· ||| 1#w <<< (i % w))

@[simp]
theorem length_setBit (words : List (BitVec w)) (i : ℕ) :
    (setBit words i).length = words.length := by
  simp [setBit]

/-- Setting a bit sets this one only. -/
theorem bit_setBit {words : List (BitVec w)} {i : ℕ} (hi : i < w * words.length) (j : ℕ) :
    bit (setBit words i) j = (decide (i = j) || bit words j) := by
  have hw : 0 < w := Nat.pos_of_mul_pos_right (Nat.zero_lt_of_lt hi)
  have hword : i / w < words.length := Nat.div_lt_of_lt_mul hi
  rw [bit, bit, setBit, List.getD_eq_getElem?_getD, List.getElem?_modify,
    List.getD_eq_getElem?_getD]
  by_cases hdiv : i / w = j / w
  · rw [← hdiv, List.getElem?_eq_getElem hword]
    have hj : j % w < w := Nat.mod_lt j hw
    have hi' : i % w < w := Nat.mod_lt i hw
    have hone : (1#w <<< (i % w)).getLsbD (j % w) = decide (i = j) := by
      rw [BitVec.getLsbD_shiftLeft, BitVec.getLsbD_one]
      by_cases hij : i = j
      · simp [← hij, hi', hw]
      · have hne : i % w ≠ j % w := by
          intro hmod
          apply hij
          rw [← Nat.div_add_mod i w, ← Nat.div_add_mod j w, hdiv, hmod]
        have hfar : ¬(i % w ≤ j % w ∧ j % w - i % w = 0) := by omega
        simp only [hij, decide_false]
        grind
    simp [hone, Bool.or_comm]
  · have hne : i ≠ j := by
      rintro rfl
      exact hdiv rfl
    simp [hdiv, hne]

/-- The words `lo` and `hi` side by side, shifted by `s` towards the low-order end of `lo`. -/
def funnel (lo hi : BitVec w) (s : ℕ) : BitVec w := lo >>> s ^^^ hi <<< (w - s)

/-- A bit of the result comes from `lo`, or from `hi` where `lo` ends. -/
theorem getLsbD_funnel (lo hi : BitVec w) {s k : ℕ} (hk : k < w) (hsw : s < w) :
    (funnel lo hi s).getLsbD k =
      if k + s < w then lo.getLsbD (k + s) else hi.getLsbD (k + s - w) := by
  rw [funnel, BitVec.getLsbD_xor, BitVec.getLsbD_ushiftRight, BitVec.getLsbD_shiftLeft]
  by_cases h : k + s < w
  · have hlow : k < w - s := by omega
    simp [h, hlow, hk, Nat.add_comm s k]
  · have hhigh : ¬k < w - s := by omega
    have hpast : lo.getLsbD (s + k) = false := BitVec.getLsbD_of_ge lo _ (by omega)
    have hindex : k - (w - s) = k + s - w := by omega
    simp [h, hhigh, hk, hpast, hindex]

/-- Funnelling neighbouring words moves every bit of the sequence by `s` and whole words. -/
theorem bit_funnel (words : List (BitVec w)) {base s i : ℕ} (hsw : s < w) :
    (funnel (words.getD (i / w + base) 0) (words.getD (i / w + base + 1) 0) s).getLsbD (i % w) =
      bit words (i + (w * base + s)) := by
  have hw : 0 < w := by omega
  have hmod : i % w < w := Nat.mod_lt i hw
  have hi : i + (w * base + s) = w * (i / w + base) + (i % w + s) := by
    have := Nat.div_add_mod i w
    rw [Nat.mul_add]
    omega
  rw [getLsbD_funnel _ _ hmod hsw, bit, hi, Nat.mul_add_div hw, Nat.mul_add_mod]
  by_cases h : i % w + s < w
  · rw [if_pos h, Nat.div_eq_of_lt h, Nat.mod_eq_of_lt h, Nat.add_zero]
  · have hdiv : (i % w + s) / w = 1 := by
      rw [Nat.div_eq_iff hw]
      omega
    have hrest : (i % w + s) % w = i % w + s - w := by
      rw [Nat.mod_eq_sub_mod (by omega), Nat.mod_eq_of_lt (by omega)]
    rw [if_neg h, hdiv, hrest]

/-- Moving whole words moves every bit of the sequence. -/
theorem bit_word (words : List (BitVec w)) {base i : ℕ} (hw : 0 < w) :
    (words.getD (i / w + base) 0).getLsbD (i % w) = bit words (i + w * base) := by
  rw [bit, Nat.add_mul_div_left i base hw, Nat.add_mul_mod_self_left]

end PackedBits
