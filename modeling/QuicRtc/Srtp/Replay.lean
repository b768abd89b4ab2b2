import Mathlib.Data.List.Nodup
import Mathlib.Tactic.Linarith
import QuicRtc.Lib.PackedBits

/-!
# The replay databases of libSRTP

`srtp_rdbx_t` (`crypto/replay/rdbx.c`) remembers which of the last `length` packet indices of an RTP
stream have been received, and guesses the 48-bit index of a packet from the 16 bits in its header.
`srtp_rdb_t` (`crypto/replay/rdb.c`) does the former for the 31-bit indices of SRTCP. Both keep a
bit mask in 32-bit words (`crypto/math/datatypes.c`) that is shifted as the window moves on.

* `Fresh` says, without a window, which indices such a database lets through.
* `Rdbx.Represents` and `Rdb.Represents` connect a database with the indices added to it:
  `check` lets through the fresh ones, and `addIndex` adds one.
* `Rdbx.estimateIndex_eq`: the guess is right for every packet whose index is less than 2¹⁵ away
  from the highest one received.
-/

namespace Rtc.Srtp

/-- `srtp_err_status_t`, the errors that the modelled functions return. -/
inductive ErrStatus where
  | badParam
  | noCtx
  | replayFail
  | replayOld
  | authFail
  | cipherFail
  | parseErr
  | keyExpired
  | cantCheck
  deriving DecidableEq, Repr

/-- The index has not been received, and nothing received is `window` or more ahead of it. -/
def Fresh (window : ℕ) (seen : List ℕ) (i : ℕ) : Prop :=
  i ∉ seen ∧ ∀ j ∈ seen, j < i + window

instance (window : ℕ) (seen : List ℕ) (i : ℕ) : Decidable (Fresh window seen i) :=
  inferInstanceAs (Decidable (_ ∧ _))

/-! ## Bit vectors -/

/-- `bitvector_t`; a `v128_t` is one of 128 bits. -/
structure Bitvector where
  length : ℕ
  word : List (BitVec 32)
  isPacked : length = 32 * word.length

namespace Bitvector

/-- `bitvector_get_bit`, `v128_get_bit`. -/
def getBit (v : Bitvector) (bitIndex : ℕ) : Bool := PackedBits.bit v.word bitIndex

/-- `bitvector_set_bit`, `v128_set_bit`. -/
def setBit (v : Bitvector) (bitIndex : ℕ) : Bitvector where
  length := v.length
  word := PackedBits.setBit v.word bitIndex
  isPacked := by rw [PackedBits.length_setBit, ← v.isPacked]

/-- `bitvector_set_to_zero`, `v128_set_to_zero`. -/
def setToZero (v : Bitvector) : Bitvector where
  length := v.length
  word := List.replicate v.word.length 0
  isPacked := by rw [List.length_replicate, ← v.isPacked]

/-- `bitvector_alloc`. -/
def alloc (length : ℕ) : Bitvector where
  length := 32 * ((length + 31) / 32)
  word := List.replicate ((length + 31) / 32) 0
  isPacked := by rw [List.length_replicate]

/-- What `bitvector_left_shift` and `v128_left_shift` do before they wrap up the final portion. -/
def moveWords (word : List (BitVec 32)) (baseIndex bitIndex : ℕ) : List (BitVec 32) :=
  let wordLength := word.length
  if bitIndex = 0 then
    PackedBits.inPlace (fun x i => x.getD (i + baseIndex) 0) word (wordLength - baseIndex)
  else
    let x := PackedBits.inPlace
      (fun x i =>
        PackedBits.funnel (x.getD (i + baseIndex) 0) (x.getD (i + baseIndex + 1) 0) bitIndex)
      word (wordLength - baseIndex - 1)
    x.set (wordLength - baseIndex - 1) (x.getD (wordLength - 1) 0 >>> bitIndex)

/-- The words after `bitvector_left_shift` or `v128_left_shift`. -/
def shiftWords (word : List (BitVec 32)) (shift : ℕ) : List (BitVec 32) :=
  (moveWords word (shift / 32) (shift % 32)).take (word.length - shift / 32) ++
    List.replicate (shift / 32) 0

theorem length_moveWords (word : List (BitVec 32)) (baseIndex bitIndex : ℕ) :
    (moveWords word baseIndex bitIndex).length = word.length := by
  rw [moveWords]
  split <;> simp

theorem length_shiftWords {word : List (BitVec 32)} {shift : ℕ} (h : shift < 32 * word.length) :
    (shiftWords word shift).length = word.length := by
  rw [shiftWords, List.length_append, List.length_take, length_moveWords, List.length_replicate]
  omega

/-- `bitvector_left_shift`, `v128_left_shift`: towards the low-order end. -/
def leftShift (x : Bitvector) (shift : ℕ) : Bitvector :=
  if h : x.length ≤ shift then x.setToZero
  else
    { length := x.length
      word := shiftWords x.word shift
      isPacked := by
        have := x.isPacked
        rw [length_shiftWords (by omega), ← x.isPacked] }

@[simp]
theorem length_setBit (v : Bitvector) (i : ℕ) : (v.setBit i).length = v.length := rfl

@[simp]
theorem length_leftShift (v : Bitvector) (shift : ℕ) : (v.leftShift shift).length = v.length := by
  rw [leftShift]
  split
  · rfl
  · rfl

theorem getBit_setBit {v : Bitvector} {i : ℕ} (hi : i < v.length) (j : ℕ) :
    (v.setBit i).getBit j = (decide (i = j) || v.getBit j) := by
  apply PackedBits.bit_setBit
  rw [← v.isPacked]
  exact hi

/-- Nothing is set behind the end. -/
theorem getBit_of_le {v : Bitvector} {i : ℕ} (hi : v.length ≤ i) : v.getBit i = false := by
  have hword : v.word.length ≤ i / 32 := by
    have := v.isPacked
    omega
  simp [getBit, PackedBits.bit, hword]

theorem getBit_replicate (n length i : ℕ) (h : length = 32 * (List.replicate n (0#32)).length) :
    getBit ⟨length, List.replicate n 0, h⟩ i = false := by
  by_cases hi : i / 32 < n
  · simp [getBit, PackedBits.bit, List.getD_eq_getElem?_getD, hi]
  · simp [getBit, PackedBits.bit, List.getD_eq_getElem?_getD, hi]

@[simp]
theorem getBit_alloc (length i : ℕ) : (alloc length).getBit i = false :=
  getBit_replicate _ _ _ _

/-- Every word that is kept is put together from the words `baseIndex` further on. -/
theorem getD_moveWords {word : List (BitVec 32)} {baseIndex bitIndex q : ℕ}
    (hq : q < word.length - baseIndex) :
    (moveWords word baseIndex bitIndex).getD q 0 =
      if bitIndex = 0 then word.getD (q + baseIndex) 0
      else PackedBits.funnel (word.getD (q + baseIndex) 0) (word.getD (q + baseIndex + 1) 0)
        bitIndex := by
  rw [moveWords]
  split
  · have hreads : PackedBits.ReadsAhead
        fun (x : List (BitVec 32)) i => x.getD (i + baseIndex) 0 := by
      intro xs ys n hsame
      simp only [List.getD_eq_getElem?_getD, hsame (n + baseIndex) (by omega)]
    rw [PackedBits.getD_inPlace hreads word 0 (by omega), if_pos hq]
  · have hreads : PackedBits.ReadsAhead fun (x : List (BitVec 32)) i =>
        PackedBits.funnel (x.getD (i + baseIndex) 0) (x.getD (i + baseIndex + 1) 0) bitIndex := by
      intro xs ys n hsame
      simp only [List.getD_eq_getElem?_getD, hsame (n + baseIndex) (by omega),
        hsame (n + baseIndex + 1) (by omega)]
    have hloop := fun j => PackedBits.getD_inPlace (j := j) hreads word 0
      (n := word.length - baseIndex - 1) (by omega)
    rw [List.getD_eq_getElem?_getD, List.getElem?_set]
    by_cases hlast : word.length - baseIndex - 1 = q
    · -- the last word has no neighbour to take bits from
      have hpast : word.getD (q + baseIndex + 1) 0 = 0#32 := by
        rw [List.getD_eq_getElem?_getD, List.getElem?_eq_none (by omega)]
        rfl
      have hend : word.length - 1 = q + baseIndex := by omega
      rw [if_pos hlast, PackedBits.length_inPlace, if_pos (by omega), hloop, if_neg (by omega),
        hpast, hend, PackedBits.funnel, BitVec.zero_shiftLeft, BitVec.xor_zero]
      rfl
    · rw [if_neg hlast, ← List.getD_eq_getElem?_getD, hloop, if_pos (by omega)]

/-- Every bit moves by the shift. -/
theorem bit_shiftWords {word : List (BitVec 32)} {shift : ℕ} (h : shift < 32 * word.length)
    (i : ℕ) : PackedBits.bit (shiftWords word shift) i = PackedBits.bit word (i + shift) := by
  have hshift : 32 * (shift / 32) + shift % 32 = shift := Nat.div_add_mod shift 32
  have hlength : ((moveWords word (shift / 32) (shift % 32)).take
      (word.length - shift / 32)).length = word.length - shift / 32 := by
    rw [List.length_take, length_moveWords]
    omega
  by_cases hq : i / 32 < word.length - shift / 32
  · have hword : (shiftWords word shift).getD (i / 32) 0 =
        (moveWords word (shift / 32) (shift % 32)).getD (i / 32) 0 := by
      rw [shiftWords, List.getD_eq_getElem?_getD, List.getElem?_append_left (by omega),
        List.getElem?_take_of_lt hq, ← List.getD_eq_getElem?_getD]
    rw [PackedBits.bit, hword, getD_moveWords hq]
    split
    case isTrue hbit =>
      rw [PackedBits.bit_word word (by decide)]
      congr 1
      omega
    case isFalse hbit =>
      rw [PackedBits.bit_funnel word (Nat.mod_lt _ (by decide)), hshift]
  · -- behind the last word kept, both sides are clear
    have hzero : (shiftWords word shift).getD (i / 32) 0 = 0#32 := by
      rw [shiftWords, List.getD_eq_getElem?_getD, List.getElem?_append_right (by omega),
        List.getElem?_replicate]
      split <;> rfl
    have hpast : word.getD ((i + shift) / 32) 0 = 0#32 := by
      rw [List.getD_eq_getElem?_getD, List.getElem?_eq_none (by omega)]
      rfl
    rw [PackedBits.bit, PackedBits.bit, hzero, hpast]
    simp

theorem getBit_leftShift (v : Bitvector) (shift i : ℕ) :
    (v.leftShift shift).getBit i = v.getBit (i + shift) := by
  rw [leftShift]
  split
  case isTrue h =>
    rw [getBit_of_le (v := v) (by omega)]
    exact getBit_replicate _ _ _ _
  case isFalse h =>
    apply bit_shiftWords
    rw [← v.isPacked]
    omega

end Bitvector
/-! ## The database of an RTP stream -/

/-- `srtp_rdbx_t`: the highest index received, and which of the last ones have been received. The
highest bit of the mask stands for `index`. -/
structure Rdbx where
  index : ℕ
  bitmask : Bitvector

namespace Rdbx

/-- `srtp_rdbx_init`, for a window that is not empty. -/
def init (ws : ℕ) : Rdbx where
  index := 0
  bitmask := .alloc ws

/-- `srtp_index_guess`: the guess, and its difference to `localIndex`. -/
def indexGuess (localIndex s : ℕ) : ℕ × ℤ :=
  let localRoc : ℕ := localIndex / 2 ^ 16 % 2 ^ 32
  let localSeq : ℕ := localIndex % 2 ^ 16
  let guessRoc : ℕ :=
    if localSeq < 0x8000 then
      if (s : ℤ) - localSeq > 0x8000 then (localRoc + (2 ^ 32 - 1)) % 2 ^ 32 else localRoc
    else if localSeq - 0x8000 > s then (localRoc + 1) % 2 ^ 32
    else localRoc
  let difference : ℤ :=
    if localSeq < 0x8000 then
      if (s : ℤ) - localSeq > 0x8000 then s - localSeq - 0x10000 else s - localSeq
    else if localSeq - 0x8000 > s then s - localSeq + 0x10000
    else s - localSeq
  (guessRoc * 2 ^ 16 + s, difference)

/-- `srtp_rdbx_estimate_index`. -/
def estimateIndex (r : Rdbx) (s : ℕ) : ℕ × ℤ :=
  if 0x8000 < r.index then indexGuess r.index s
  else (s, s - (r.index % 2 ^ 16 : ℕ))

/-- `srtp_rdbx_check`. -/
def check (r : Rdbx) (delta : ℤ) : Except ErrStatus Unit :=
  if 0 < delta then .ok ()
  else if (r.bitmask.length : ℤ) - 1 + delta < 0 then .error .replayOld
  else if r.bitmask.getBit ((r.bitmask.length : ℤ) - 1 + delta).toNat then .error .replayFail
  else .ok ()

/-- `srtp_rdbx_add_index`. -/
def addIndex (r : Rdbx) (delta : ℤ) : Rdbx :=
  if 0 < delta then
    -- shift forward by delta
    { index := (r.index + delta.toNat % 2 ^ 16) % 2 ^ 64
      bitmask := (r.bitmask.leftShift delta.toNat).setBit (r.bitmask.length - 1) }
  else
    { r with bitmask := r.bitmask.setBit ((r.bitmask.length : ℤ) - 1 + delta).toNat }

/-- The guess has the sequence number of the packet, and there is room for it in 48 bits. -/
theorem estimateIndex_mod (r : Rdbx) {s : ℕ} (hs : s < 2 ^ 16) :
    (r.estimateIndex s).1 % 2 ^ 16 = s ∧ (r.estimateIndex s).1 < 2 ^ 48 := by
  rw [estimateIndex]
  split
  · have hroc : (indexGuess r.index s).1 / 2 ^ 16 < 2 ^ 32 := by
      rw [indexGuess]
      split_ifs <;> simp only <;> omega
    have hseq : (indexGuess r.index s).1 % 2 ^ 16 = s := by
      rw [indexGuess]
      simp only
      omega
    constructor
    · exact hseq
    · omega
  · simp only
    omega

/-- Before the last value of the rollover counter, the two results of the guess agree. -/
theorem estimateIndex_sub {r : Rdbx} (hr : r.index < 2 ^ 48 - 2 ^ 16) (s : ℕ) :
    ((r.estimateIndex s).1 : ℤ) = r.index + (r.estimateIndex s).2 := by
  rw [estimateIndex]
  split
  · rw [indexGuess]
    split_ifs <;> simp only <;> omega
  · simp only
    omega

/-- The guess is less than one rollover ahead. -/
theorem estimateIndex_lt (r : Rdbx) {s : ℕ} (hs : s < 2 ^ 16) : (r.estimateIndex s).2 < 2 ^ 16 := by
  rw [estimateIndex]
  split
  · rw [indexGuess]
    split_ifs <;> simp only <;> omega
  · simp only
    omega

/-- The guess is right for an index less than 2¹⁵ away from the highest one received. -/
theorem estimateIndex_eq {r : Rdbx} {i : ℕ} (hi : i < 2 ^ 48) (hr : r.index < 2 ^ 48)
    (hahead : i < r.index + 2 ^ 15) (hbehind : r.index < i + 2 ^ 15) :
    r.estimateIndex (i % 2 ^ 16) = (i, (i : ℤ) - r.index) := by
  rw [estimateIndex]
  split
  · rw [indexGuess]
    ext
    · simp only
      split_ifs <;> omega
    · simp only
      split_ifs <;> omega
  · ext
    · simp only
      omega
    · simp only
      omega

/-- The database holds exactly the indices of `seen`, as far as its window reaches. -/
structure Represents (r : Rdbx) (seen : List ℕ) : Prop where
  length_pos : 0 < r.bitmask.length
  le_index : ∀ i ∈ seen, i ≤ r.index
  index_mem : r.index ∈ seen ∨ seen = [] ∧ r.index = 0
  getBit_iff : ∀ d < r.bitmask.length, r.bitmask.getBit (r.bitmask.length - 1 - d) = true ↔
    d ≤ r.index ∧ r.index - d ∈ seen

variable {r : Rdbx} {seen : List ℕ} {i : ℕ} {delta : ℤ}

theorem represents_init {ws : ℕ} (h : 0 < ws) : (init ws).Represents [] where
  length_pos := by
    show 0 < 32 * ((ws + 31) / 32)
    omega
  le_index := by simp
  index_mem := .inr ⟨rfl, rfl⟩
  getBit_iff := by simp [init]

/-- The check lets through what is fresh. -/
theorem Represents.check_eq_ok_iff (h : r.Represents seen) (hi : (i : ℤ) = r.index + delta) :
    r.check delta = .ok () ↔ Fresh r.bitmask.length seen i := by
  have hpos := h.length_pos
  rw [check]
  split
  case isTrue hdelta =>
    -- ahead of everything received
    have hfresh : Fresh r.bitmask.length seen i := by
      constructor
      · intro hmem
        have := h.le_index i hmem
        omega
      · intro j hj
        have := h.le_index j hj
        omega
    simp [hfresh]
  case isFalse hdelta =>
    split
    case isTrue hold =>
      have hstale : ¬Fresh r.bitmask.length seen i := by
        rintro ⟨-, hnear⟩
        rcases h.index_mem with hmem | ⟨-, hzero⟩
        · have := hnear _ hmem
          omega
        · omega
      simp [hstale]
    case isFalse hold =>
      have hd : r.index - i < r.bitmask.length := by omega
      have hbit := h.getBit_iff (r.index - i) hd
      have hposition : ((r.bitmask.length : ℤ) - 1 + delta).toNat =
          r.bitmask.length - 1 - (r.index - i) := by omega
      have hindex : r.index - (r.index - i) = i := by omega
      rw [hindex] at hbit
      have hfresh : Fresh r.bitmask.length seen i ↔ i ∉ seen := by
        constructor
        · exact And.left
        · intro hmem
          refine ⟨hmem, fun j hj => ?_⟩
          have := h.le_index j hj
          omega
      rw [hposition, hfresh]
      split
      case isTrue hset => simp [(hbit.1 hset).2]
      case isFalse hset =>
        have hmem : i ∉ seen := fun hmem => hset (hbit.2 ⟨by omega, hmem⟩)
        simp [hmem]

/-- An index that is not behind the window is added. -/
theorem Represents.addIndex (h : r.Represents seen) (hi : (i : ℤ) = r.index + delta)
    (hwindow : r.index < i + r.bitmask.length) (hdelta : delta < 2 ^ 16) (hlt : i < 2 ^ 64) :
    (r.addIndex delta).Represents (i :: seen) ∧
      (r.addIndex delta).bitmask.length = r.bitmask.length := by
  have hpos := h.length_pos
  rw [Rdbx.addIndex]
  split
  case isTrue hahead =>
    have hindex : (r.index + delta.toNat % 2 ^ 16) % 2 ^ 64 = i := by omega
    have hlength : ((r.bitmask.leftShift delta.toNat).setBit (r.bitmask.length - 1)).length =
        r.bitmask.length := by simp
    rw [hindex]
    refine ⟨⟨?_, ?_, .inl List.mem_cons_self, ?_⟩, hlength⟩
    · simp only [hlength, hpos]
    · intro j hj
      rcases List.mem_cons.1 hj with rfl | hj
      · exact le_refl _
      · have := h.le_index j hj
        simp only
        omega
    · simp only [hlength]
      intro d hd
      rw [Bitvector.getBit_setBit (by rw [Bitvector.length_leftShift]; omega),
        Bitvector.getBit_leftShift, Bool.or_eq_true, decide_eq_true_eq, List.mem_cons]
      by_cases hfar : d < delta.toNat
      · -- between the old and the new highest index nothing has been received
        have hclear : r.bitmask.getBit (r.bitmask.length - 1 - d + delta.toNat) = false :=
          Bitvector.getBit_of_le (by omega)
        have hnotMem : i - d ∉ seen := by
          intro hmem
          have := h.le_index _ hmem
          omega
        simp only [hclear, hnotMem, Bool.false_eq_true, or_false]
        omega
      · have hbit := h.getBit_iff (d - delta.toNat) (by omega)
        have hposition : r.bitmask.length - 1 - d + delta.toNat =
            r.bitmask.length - 1 - (d - delta.toNat) := by omega
        have hsame : r.index - (d - delta.toNat) = i - d := by omega
        rw [hposition, hbit, hsame]
        constructor
        · rintro (heq | ⟨hle, hmem⟩)
          · omega
          · exact ⟨by omega, .inr hmem⟩
        · rintro ⟨hle, heq | hmem⟩
          · omega
          · exact .inr ⟨by omega, hmem⟩
  case isFalse hbehind =>
    have hposition : ((r.bitmask.length : ℤ) - 1 + delta).toNat =
        r.bitmask.length - 1 - (r.index - i) := by omega
    rw [hposition]
    refine ⟨⟨hpos, ?_, ?_, ?_⟩, rfl⟩
    · intro j hj
      rcases List.mem_cons.1 hj with rfl | hj
      · show j ≤ r.index
        omega
      · exact h.le_index j hj
    · rcases h.index_mem with hmem | ⟨-, hzero⟩
      · exact .inl (List.mem_cons_of_mem _ hmem)
      · left
        have hsame : i = r.index := by omega
        simp [hsame]
    · intro d hd
      simp only [Bitvector.length_setBit] at hd ⊢
      rw [Bitvector.getBit_setBit (by omega), Bool.or_eq_true, decide_eq_true_eq,
        h.getBit_iff d hd, List.mem_cons]
      constructor
      · rintro (heq | ⟨hle, hmem⟩)
        · exact ⟨by omega, .inl (by omega)⟩
        · exact ⟨hle, .inr hmem⟩
      · rintro ⟨hle, heq | hmem⟩
        · exact .inl (by omega)
        · exact .inr ⟨hle, hmem⟩

end Rdbx

/-! ## The database of an RTCP stream -/

/-- `srtp_rdb_t`: which indices from `windowStart` on have been received. -/
structure Rdb where
  windowStart : ℕ
  bitmask : Bitvector
  isV128 : bitmask.length = 128

namespace Rdb

/-- `srtp_rdb_init`. -/
def init : Rdb where
  windowStart := 0
  bitmask := .alloc 128
  isV128 := rfl

/-- `srtp_rdb_check`. -/
def check (r : Rdb) (pIndex : ℕ) : Except ErrStatus Unit :=
  if r.windowStart + 128 ≤ pIndex then .ok ()
  else if pIndex < r.windowStart then .error .replayOld
  else if r.bitmask.getBit (pIndex - r.windowStart) then .error .replayFail
  else .ok ()

/-- `srtp_rdb_add_index`. -/
def addIndex (r : Rdb) (pIndex : ℕ) : Rdb :=
  if pIndex < r.windowStart then r
  else if pIndex - r.windowStart < 128 then
    { r with
      bitmask := r.bitmask.setBit (pIndex - r.windowStart)
      isV128 := r.isV128 }
  else
    let delta := pIndex - r.windowStart - 127
    -- shift the window forward by delta bits
    { windowStart := r.windowStart + delta
      bitmask := (r.bitmask.leftShift delta).setBit 127
      isV128 := by simp [r.isV128] }

/-- `srtp_rdb_increment`. -/
def increment (r : Rdb) : Except ErrStatus Rdb :=
  if 0x7fffffff ≤ r.windowStart then .error .keyExpired
  else .ok { r with windowStart := r.windowStart + 1, isV128 := r.isV128 }

/-- The database holds exactly the indices of `seen`, as far as its window reaches. -/
structure Represents (r : Rdb) (seen : List ℕ) : Prop where
  lt_end : ∀ i ∈ seen, i < r.windowStart + 128
  end_mem : r.windowStart = 0 ∨ r.windowStart + 127 ∈ seen
  getBit_iff : ∀ d < 128, r.bitmask.getBit d = true ↔ r.windowStart + d ∈ seen

variable {r : Rdb} {seen : List ℕ} {i : ℕ}

theorem represents_init : init.Represents [] where
  lt_end := by simp
  end_mem := .inl rfl
  getBit_iff := by simp [init]

/-- The check lets through what is fresh. -/
theorem Represents.check_eq_ok_iff (h : r.Represents seen) :
    r.check i = .ok () ↔ Fresh 128 seen i := by
  rw [check]
  split
  case isTrue hahead =>
    have hfresh : Fresh 128 seen i := by
      constructor
      · intro hmem
        have := h.lt_end i hmem
        omega
      · intro j hj
        have := h.lt_end j hj
        omega
    simp [hfresh]
  case isFalse hahead =>
    split
    case isTrue hold =>
      have hstale : ¬Fresh 128 seen i := by
        rintro ⟨-, hnear⟩
        rcases h.end_mem with hzero | hmem
        · omega
        · have := hnear _ hmem
          omega
      simp [hstale]
    case isFalse hold =>
      have hbit := h.getBit_iff (i - r.windowStart) (by omega)
      have hindex : r.windowStart + (i - r.windowStart) = i := by omega
      have hfresh : Fresh 128 seen i ↔ i ∉ seen := by
        constructor
        · exact And.left
        · intro hmem
          refine ⟨hmem, fun j hj => ?_⟩
          have := h.lt_end j hj
          omega
      rw [hindex] at hbit
      rw [hfresh, ← hbit]
      split <;> simp_all

/-- An index that is not behind the window is added. -/
theorem Represents.addIndex (h : r.Represents seen) (hwindow : r.windowStart ≤ i) :
    (r.addIndex i).Represents (i :: seen) := by
  have hlength := r.isV128
  rw [Rdb.addIndex, if_neg (by omega)]
  split
  case isTrue hwithin =>
    constructor
    · intro j hj
      rcases List.mem_cons.1 hj with rfl | hj
      · show j < r.windowStart + 128
        omega
      · exact h.lt_end j hj
    · exact h.end_mem.imp id (List.mem_cons_of_mem _)
    · intro d hd
      simp only
      rw [Bitvector.getBit_setBit (by omega), Bool.or_eq_true, decide_eq_true_eq,
        h.getBit_iff d hd, List.mem_cons]
      apply or_congr_left
      omega
  case isFalse hbeyond =>
    constructor
    · intro j hj
      rcases List.mem_cons.1 hj with rfl | hj
      · simp only
        omega
      · have := h.lt_end j hj
        simp only
        omega
    · right
      simp only [List.mem_cons]
      omega
    · intro d hd
      simp only
      rw [Bitvector.getBit_setBit (by rw [Bitvector.length_leftShift]; omega),
        Bitvector.getBit_leftShift, Bool.or_eq_true, decide_eq_true_eq, List.mem_cons]
      have hpart : r.bitmask.getBit (d + (i - r.windowStart - 127)) = true ↔
          r.windowStart + (i - r.windowStart - 127) + d ∈ seen := by
        by_cases hin : d + (i - r.windowStart - 127) < 128
        · rw [h.getBit_iff _ hin]
          have hsame : r.windowStart + (d + (i - r.windowStart - 127)) =
              r.windowStart + (i - r.windowStart - 127) + d := by omega
          rw [hsame]
        · -- behind the old window nothing has been received
          have hclear : r.bitmask.getBit (d + (i - r.windowStart - 127)) = false :=
            Bitvector.getBit_of_le (by omega)
          have hnotMem : r.windowStart + (i - r.windowStart - 127) + d ∉ seen := by
            intro hmem
            have := h.lt_end _ hmem
            omega
          simp [hclear, hnotMem]
      rw [hpart]
      apply or_congr_left
      omega

end Rdb

end Rtc.Srtp
