import QuicRtc.Rtcp.Defs

/-!
# What the SDES walk reads

`RtcpSdes::isValid` walks over the chunks of a packet and over the items of each chunk before it
knows that they are inside the packet. Here the bytes are described without the loops: the items of
a chunk end with a zero type (`Items`), or one is too large by itself (`TooLarge`), or they run out
of the packet (`Overrun`); and the chunks fill the packet (`Chunks`), or are rejected (`Rejected`),
or one is reached whose items run out (`Overruns`).

The limit that `safelyCountChunkSize` checks does not grow with the items before, so two items that
fit by themselves may run out together. The loops are determined by the three cases in
`isValid_of_overruns`, `isValid_of_chunks` and `isValid_of_rejected`.
-/

namespace Rtc

/-! ## The items of a chunk -/

/-- Items that end with a zero type, with the lengths of their texts. -/
inductive Items : List UInt8 → List UInt8 → Prop where
  | nil {rest : List UInt8} : Items (0 :: rest) []
  | cons {type length : UInt8} {text lengths : List UInt8} (type_ne : type ≠ 0)
      (tail : Items (text.drop length.toNat) lengths) :
      Items (type :: length :: text) (length :: lengths)

/-- One of the items is too large by itself, and those before it are not. -/
inductive TooLarge (limit : ℕ) : List UInt8 → Prop where
  | here {type length : UInt8} {text : List UInt8} (type_ne : type ≠ 0)
      (large : limit ≤ length.toNat) : TooLarge limit (type :: length :: text)
  | later {type length : UInt8} {text : List UInt8} (type_ne : type ≠ 0)
      (fits : length.toNat < limit) (tail : TooLarge limit (text.drop length.toNat)) :
      TooLarge limit (type :: length :: text)

/-- The items run out of the bytes, and none of them is too large by itself. -/
inductive Overrun (limit : ℕ) : List UInt8 → Prop where
  | type : Overrun limit []
  | length {type : UInt8} (type_ne : type ≠ 0) : Overrun limit [type]
  | later {type length : UInt8} {text : List UInt8} (type_ne : type ≠ 0)
      (fits : length.toNat < limit) (tail : Overrun limit (text.drop length.toNat)) :
      Overrun limit (type :: length :: text)

/-- There is no other case. -/
theorem items_cases (limit : ℕ) (bytes : List UInt8) :
    (∃ lengths, Items bytes lengths ∧ ∀ length ∈ lengths, length.toNat < limit) ∨
      TooLarge limit bytes ∨ Overrun limit bytes := by
  induction hsize : bytes.length using Nat.strong_induction_on generalizing bytes with
  | _ size ih =>
    match bytes, hsize with
    | [], _ => exact .inr (.inr .type)
    | [type], _ =>
      by_cases htype : type = 0
      · subst htype
        exact .inl ⟨[], .nil, by simp⟩
      · exact .inr (.inr (.length htype))
    | type :: length :: text, hsize =>
      by_cases htype : type = 0
      · subst htype
        exact .inl ⟨[], .nil, by simp⟩
      · by_cases hfits : length.toNat < limit
        · have hshorter : (text.drop length.toNat).length < size := by
            rw [← hsize, List.length_drop]
            simp only [List.length_cons]
            omega
          rcases ih _ hshorter _ rfl with ⟨lengths, hitems, hlengths⟩ | hlarge | hover
          · refine .inl ⟨length :: lengths, .cons htype hitems, ?_⟩
            rintro length' (_ | ⟨_, hmem⟩)
            · exact hfits
            · exact hlengths length' hmem
          · exact .inr (.inl (.later htype hfits hlarge))
          · exact .inr (.inr (.later htype hfits hover))
        · exact .inr (.inl (.here htype (not_lt.1 hfits)))

/-- Items are inside the bytes. -/
theorem Items.two_mul_length_lt {bytes lengths : List UInt8} (h : Items bytes lengths) :
    2 * lengths.length < bytes.length := by
  induction h with
  | nil => simp
  | cons _ _ ih =>
    simp only [List.length_drop, List.length_cons] at ih ⊢
    omega

/-! ## Reading -/

section Reading

variable {data rest : List UInt8} {i : ℕ}

theorem readByte_of_drop {byte : UInt8} (h : data.drop i = byte :: rest) :
    readByte data i = .ok byte := by
  rw [readByte, Reader.getElem?_of_drop h]

theorem readByte_of_drop_nil (h : data.drop i = []) : readByte data i = .error .outside := by
  rw [readByte, Reader.getElem?_of_drop_nil h]

theorem drop_add_of_drop {n : ℕ} (h : data.drop i = rest) : data.drop (i + n) = rest.drop n := by
  rw [← List.drop_drop, h]

end Reading

namespace RtcpSdesChunk

variable {data : List UInt8} {chunk : ℕ}

/-- One item further. -/
theorem getItemFrom_succ (base num : ℕ) :
    getItemFrom data base (num + 1) = (getItemFrom data base num).bind fun item =>
      (RtcpSdesItem.length data item).bind fun length =>
        .ok (item + RtcpSdesItem.sizeWith length) := by
  induction num generalizing base with
  | zero =>
    rw [getItemFrom, getItemFrom]
    rfl
  | succ num ih =>
    rw [getItemFrom, getItemFrom]
    cases RtcpSdesItem.length data base with
    | error e => rfl
    | ok length => exact ih _

/-- The item behind one that has been read. -/
theorem getItem_succ {i item : ℕ} {type length : UInt8} {text : List UInt8}
    (hitem : getItem data chunk i = .ok item) (hdata : data.drop item = type :: length :: text) :
    RtcpSdesItem.length data item = .ok length ∧
      getItem data chunk (i + 1) = .ok (item + RtcpSdesItem.sizeWith length) ∧
      data.drop (item + RtcpSdesItem.sizeWith length) = text.drop length.toNat := by
  have hlength : RtcpSdesItem.length data item = .ok length :=
    readByte_of_drop (drop_add_of_drop hdata)
  refine ⟨hlength, ?_, ?_⟩
  · have hfrom : getItemFrom data (chunk + 4) i = .ok item := hitem
    rw [getItem, getItemFrom_succ, hfrom]
    show (RtcpSdesItem.length data item).bind _ = _
    rw [hlength]
    rfl
  · rw [drop_add_of_drop hdata, RtcpSdesItem.sizeWith, Nat.add_comm, ← List.drop_drop]
    rfl

/-- The loop of `getSize` over items. -/
theorem textLengthsLoop_of_items {bytes lengths : List UInt8} (h : Items bytes lengths) :
    ∀ {fuel : ℕ} {read : List UInt8} {i item : ℕ}, bytes.length < fuel →
      getItem data chunk i = .ok item → data.drop item = bytes →
        textLengthsLoop data chunk fuel read i item = .ok (read ++ lengths) := by
  induction h with
  | nil =>
    intro fuel read i item hfuel _ hdata
    obtain ⟨fuel, rfl⟩ := Nat.exists_eq_add_one_of_ne_zero (Nat.ne_zero_of_lt hfuel)
    rw [textLengthsLoop, RtcpSdesItem.type, readByte_of_drop hdata, List.append_nil]
    rfl
  | @cons type length text lengths htype _ ih =>
    intro fuel read i item hfuel hitem hdata
    obtain ⟨fuel, rfl⟩ := Nat.exists_eq_add_one_of_ne_zero (Nat.ne_zero_of_lt hfuel)
    obtain ⟨hlength, hnext, hrest⟩ := getItem_succ hitem hdata
    have hfuel' : (text.drop length.toNat).length < fuel := by
      simp only [List.length_drop, List.length_cons] at hfuel ⊢
      omega
    have hloop := @ih fuel (read ++ [length]) _ _ hfuel' hnext hrest
    rw [textLengthsLoop, RtcpSdesItem.type, readByte_of_drop hdata, hlength]
    show (if type ≠ 0 then _ else _) = _
    rw [if_pos htype]
    show (getItem data chunk (i + 1)).bind _ = _
    rw [hnext]
    show textLengthsLoop data chunk fuel _ _ _ = _
    rw [hloop, List.append_assoc, List.singleton_append]

/-- `getSize` of a chunk with items. -/
theorem textLengths_of_items {lengths : List UInt8} (h : Items (data.drop (chunk + 4)) lengths) :
    textLengths data chunk = .ok lengths :=
  textLengthsLoop_of_items h (by rw [List.length_drop]; omega) rfl rfl

theorem getSize_of_items {lengths : List UInt8} (h : Items (data.drop (chunk + 4)) lengths) :
    getSize data chunk = .ok (sizeWith lengths) := by
  rw [getSize, textLengths_of_items h]
  rfl

/-! ## `safelyCountChunkSize` -/

/-- What the loop does with an item. -/
theorem safelyCountLoop_step {maxChunkSize fuel i item : ℕ} {type length : UInt8}
    {text read : List UInt8} (hmax : 6 ≤ maxChunkSize) (htype : type ≠ 0)
    (hitem : getItem data chunk i = .ok item) (hdata : data.drop item = type :: length :: text) :
    safelyCountLoop data chunk maxChunkSize (fuel + 1) read i item =
      if maxChunkSize - 6 ≤ length.toNat then .ok none
      else safelyCountLoop data chunk maxChunkSize fuel (read ++ [length]) (i + 1)
        (item + RtcpSdesItem.sizeWith length) := by
  obtain ⟨hlength, hnext, -⟩ := getItem_succ hitem hdata
  have hshort : ¬maxChunkSize < 4 + RtcpSdesItem.sizeWith 0 := by
    rw [RtcpSdesItem.sizeWith, UInt8.toNat_zero]
    omega
  have hlarge : maxChunkSize ≤ 4 + RtcpSdesItem.sizeWith length ↔
      maxChunkSize - 6 ≤ length.toNat := by
    rw [RtcpSdesItem.sizeWith]
    omega
  rw [safelyCountLoop, RtcpSdesItem.type, readByte_of_drop hdata, hlength]
  show (if type ≠ 0 then _ else _) = _
  rw [if_pos htype, if_neg hshort]
  show (if _ then _ else _) = _
  simp only [hlarge]
  split
  · rfl
  · rw [hnext]
    rfl

/-- The loop over items that end. -/
theorem safelyCountLoop_of_items {maxChunkSize : ℕ} (hmax : 6 ≤ maxChunkSize)
    {bytes lengths : List UInt8} (h : Items bytes lengths) :
    ∀ {fuel : ℕ} {read : List UInt8} {i item : ℕ},
      (∀ length ∈ lengths, length.toNat < maxChunkSize - 6) → bytes.length < fuel →
      getItem data chunk i = .ok item → data.drop item = bytes →
        safelyCountLoop data chunk maxChunkSize fuel read i item =
          .ok (some (read ++ lengths)) := by
  induction h with
  | nil =>
    intro fuel read i item _ hfuel _ hdata
    obtain ⟨fuel, rfl⟩ := Nat.exists_eq_add_one_of_ne_zero (Nat.ne_zero_of_lt hfuel)
    rw [safelyCountLoop, RtcpSdesItem.type, readByte_of_drop hdata, List.append_nil]
    rfl
  | @cons type length text lengths htype _ ih =>
    intro fuel read i item hfits hfuel hitem hdata
    obtain ⟨fuel, rfl⟩ := Nat.exists_eq_add_one_of_ne_zero (Nat.ne_zero_of_lt hfuel)
    obtain ⟨-, hnext, hrest⟩ := getItem_succ hitem hdata
    have hlength := hfits length (by simp)
    rw [safelyCountLoop_step hmax htype hitem hdata, if_neg (by omega),
      ih (fun length' hmem => hfits length' (List.mem_cons_of_mem _ hmem))
        (by simp only [List.length_drop, List.length_cons] at hfuel ⊢; omega) hnext hrest,
      List.append_assoc, List.singleton_append]

/-- The loop up to an item that is too large by itself. -/
theorem safelyCountLoop_of_tooLarge {maxChunkSize : ℕ} (hmax : 6 ≤ maxChunkSize)
    {bytes : List UInt8} (h : TooLarge (maxChunkSize - 6) bytes) :
    ∀ {fuel : ℕ} {read : List UInt8} {i item : ℕ}, bytes.length < fuel →
      getItem data chunk i = .ok item → data.drop item = bytes →
        safelyCountLoop data chunk maxChunkSize fuel read i item = .ok none := by
  induction h with
  | @here type length text htype hlarge =>
    intro fuel read i item hfuel hitem hdata
    obtain ⟨fuel, rfl⟩ := Nat.exists_eq_add_one_of_ne_zero (Nat.ne_zero_of_lt hfuel)
    rw [safelyCountLoop_step hmax htype hitem hdata, if_pos hlarge]
  | @later type length text htype hfits _ ih =>
    intro fuel read i item hfuel hitem hdata
    obtain ⟨fuel, rfl⟩ := Nat.exists_eq_add_one_of_ne_zero (Nat.ne_zero_of_lt hfuel)
    obtain ⟨-, hnext, hrest⟩ := getItem_succ hitem hdata
    rw [safelyCountLoop_step hmax htype hitem hdata, if_neg (by omega)]
    exact ih (by simp only [List.length_drop, List.length_cons] at hfuel ⊢; omega) hnext hrest

/-- The loop over items that run out of the packet. -/
theorem safelyCountLoop_of_overrun {maxChunkSize : ℕ} (hmax : 6 ≤ maxChunkSize)
    {bytes : List UInt8} (h : Overrun (maxChunkSize - 6) bytes) :
    ∀ {fuel : ℕ} {read : List UInt8} {i item : ℕ}, bytes.length < fuel →
      getItem data chunk i = .ok item → data.drop item = bytes →
        safelyCountLoop data chunk maxChunkSize fuel read i item = .error .outside := by
  induction h with
  | type =>
    intro fuel read i item hfuel _ hdata
    obtain ⟨fuel, rfl⟩ := Nat.exists_eq_add_one_of_ne_zero (Nat.ne_zero_of_lt hfuel)
    rw [safelyCountLoop, RtcpSdesItem.type, readByte_of_drop_nil hdata]
    rfl
  | @length type htype =>
    intro fuel read i item hfuel _ hdata
    obtain ⟨fuel, rfl⟩ := Nat.exists_eq_add_one_of_ne_zero (Nat.ne_zero_of_lt hfuel)
    have hlength : RtcpSdesItem.length data item = .error .outside :=
      readByte_of_drop_nil (drop_add_of_drop hdata)
    have hshort : ¬maxChunkSize < 4 + RtcpSdesItem.sizeWith 0 := by
      rw [RtcpSdesItem.sizeWith, UInt8.toNat_zero]
      omega
    rw [safelyCountLoop, RtcpSdesItem.type, readByte_of_drop hdata, hlength]
    show (if type ≠ 0 then _ else _) = _
    rw [if_pos htype, if_neg hshort]
    rfl
  | @later type length text htype hfits _ ih =>
    intro fuel read i item hfuel hitem hdata
    obtain ⟨fuel, rfl⟩ := Nat.exists_eq_add_one_of_ne_zero (Nat.ne_zero_of_lt hfuel)
    obtain ⟨-, hnext, hrest⟩ := getItem_succ hitem hdata
    rw [safelyCountLoop_step hmax htype hitem hdata, if_neg (by omega)]
    exact ih (by simp only [List.length_drop, List.length_cons] at hfuel ⊢; omega) hnext hrest

theorem sizeWith_nil : sizeWith [] = 8 := by
  decide

theorem four_le_sizeWith (lengths : List UInt8) : 4 ≤ sizeWith lengths := by
  rw [sizeWith]
  omega

theorem sizeWith_le (lengths : List UInt8) : sizeWith lengths ≤ 1024 := by
  have := (UInt8.ofNat (((lengths.map RtcpSdesItem.sizeWith).sum + 1) ⌈/⌉ 4)).toNat_lt
  rw [sizeWith]
  omega

/-- The function is determined by its loop. -/
theorem safelyCountChunkSize_of_loop {maxChunkSize : ℕ} (hmax : 8 ≤ maxChunkSize)
    {result : Except Fault (Option (List UInt8))}
    (h : safelyCountLoop data chunk maxChunkSize (data.length + 1) [] 0 (chunk + 4) = result) :
    safelyCountChunkSize data chunk maxChunkSize = result.bind fun textsLength =>
      .ok (textsLength.bind fun textsLength =>
        if maxChunkSize < sizeWith textsLength then none else some (sizeWith textsLength)) := by
  rw [safelyCountChunkSize, sizeWith_nil, if_neg (by omega)]
  show (safelyCountLoop data chunk maxChunkSize (data.length + 1) [] 0 (chunk + 4)).bind _ = _
  rw [h]
  cases result with
  | error e => rfl
  | ok textsLength =>
    cases textsLength with
    | none => rfl
    | some textsLength =>
      show (if _ then _ else _) = _
      show _ = Except.ok (if _ then _ else _)
      split <;> rfl

end RtcpSdesChunk

/-! ## The chunks of a packet -/

open RtcpSdesChunk

/-- A chunk that fits in the `size` bytes that are left, with the lengths of its texts. -/
structure ChunkFits (size : ℕ) (bytes lengths : List UInt8) : Prop where
  eight_le : 8 ≤ size
  items : Items (bytes.drop 4) lengths
  fits : ∀ length ∈ lengths, length.toNat < size - 6
  sizeWith_le : sizeWith lengths ≤ size

/-- The chunks fill the `size` bytes that are left. -/
inductive Chunks : ℕ → List UInt8 → List (List UInt8) → Prop where
  | nil {bytes : List UInt8} : Chunks 0 bytes []
  | cons {size : ℕ} {bytes lengths : List UInt8} {rest : List (List UInt8)}
      (chunk : ChunkFits size bytes lengths)
      (tail : Chunks (size - sizeWith lengths) (bytes.drop (sizeWith lengths)) rest) :
      Chunks size bytes (lengths :: rest)

/-- The walk stops at a chunk that does not fit, or at a rest that is too short for a chunk. -/
inductive Rejected : ℕ → List UInt8 → Prop where
  | truncated {size : ℕ} {bytes : List UInt8} (pos : 0 < size) (lt : size < 8) :
      Rejected size bytes
  | tooLarge {size : ℕ} {bytes : List UInt8} (eight_le : 8 ≤ size)
      (large : TooLarge (size - 6) (bytes.drop 4)) : Rejected size bytes
  | tooLong {size : ℕ} {bytes lengths : List UInt8} (eight_le : 8 ≤ size)
      (items : Items (bytes.drop 4) lengths) (fits : ∀ length ∈ lengths, length.toNat < size - 6)
      (long : size < sizeWith lengths) : Rejected size bytes
  | later {size : ℕ} {bytes lengths : List UInt8} (chunk : ChunkFits size bytes lengths)
      (tail : Rejected (size - sizeWith lengths) (bytes.drop (sizeWith lengths))) :
      Rejected size bytes

/-- The walk gets to a chunk the items of which run out of the bytes. -/
inductive Overruns : ℕ → List UInt8 → Prop where
  | here {size : ℕ} {bytes : List UInt8} (eight_le : 8 ≤ size)
      (overrun : Overrun (size - 6) (bytes.drop 4)) : Overruns size bytes
  | later {size : ℕ} {bytes lengths : List UInt8} (chunk : ChunkFits size bytes lengths)
      (tail : Overruns (size - sizeWith lengths) (bytes.drop (sizeWith lengths))) :
      Overruns size bytes

/-- There is no other case. -/
theorem chunks_cases (size : ℕ) (bytes : List UInt8) :
    (∃ chunks, Chunks size bytes chunks) ∨ Rejected size bytes ∨ Overruns size bytes := by
  induction size using Nat.strong_induction_on generalizing bytes with
  | _ size ih =>
    by_cases hzero : size = 0
    · subst hzero
      exact .inl ⟨[], .nil⟩
    by_cases height : size < 8
    · exact .inr (.inl (.truncated (by omega) height))
    rw [not_lt] at height
    rcases items_cases (size - 6) (bytes.drop 4) with ⟨lengths, hitems, hfits⟩ | hlarge | hover
    · by_cases hlong : size < sizeWith lengths
      · exact .inr (.inl (.tooLong height hitems hfits hlong))
      · have hchunk : ChunkFits size bytes lengths := ⟨height, hitems, hfits, not_lt.1 hlong⟩
        have hfour := four_le_sizeWith lengths
        rcases ih (size - sizeWith lengths) (by omega) (bytes.drop (sizeWith lengths)) with
          ⟨chunks, hchunks⟩ | hrejected | hoverruns
        · exact .inl ⟨_, .cons hchunk hchunks⟩
        · exact .inr (.inl (.later hchunk hrejected))
        · exact .inr (.inr (.later hchunk hoverruns))
    · exact .inr (.inl (.tooLarge height hlarge))
    · exact .inr (.inr (.here height hover))

namespace RtcpSdes

variable {data : List UInt8} {chunksSize : ℕ}

/-- One chunk further. -/
theorem getChunkFrom_succ (base num : ℕ) :
    getChunkFrom data base (num + 1) = (getChunkFrom data base num).bind fun chunk =>
      (getSize data chunk).bind fun chunkSize => .ok (chunk + chunkSize) := by
  induction num generalizing base with
  | zero =>
    rw [getChunkFrom, getChunkFrom]
    rfl
  | succ num ih =>
    rw [getChunkFrom, getChunkFrom]
    cases getSize data base with
    | error e => rfl
    | ok chunkSize => exact ih _

/-- The chunk behind one that has items. -/
theorem getChunk_succ {i chunk : ℕ} {bytes lengths : List UInt8}
    (hchunk : getChunk data i = .ok chunk)
    (hdata : data.drop chunk = bytes) (hitems : Items (bytes.drop 4) lengths) :
    getSize data chunk = .ok (sizeWith lengths) ∧
      getChunk data (i + 1) = .ok (chunk + sizeWith lengths) ∧
      data.drop (chunk + sizeWith lengths) = bytes.drop (sizeWith lengths) := by
  have hsize : getSize data chunk = .ok (sizeWith lengths) :=
    getSize_of_items ((drop_add_of_drop hdata).symm ▸ hitems)
  refine ⟨hsize, ?_, drop_add_of_drop hdata⟩
  have hfrom : getChunkFrom data RtcpHeader.sizeOf i = .ok chunk := hchunk
  rw [getChunk, getChunkFrom_succ, hfrom]
  show (getSize data chunk).bind _ = _
  rw [hsize]
  rfl

/-- What the loop of `isValid` does with a chunk. -/
theorem isValidLoop_step {fuel size i chunk : ℕ} (hsize : 8 ≤ chunksSize - size)
    (hchunk : getChunk data i = .ok chunk) {result : Except Fault (Option ℕ)}
    (hresult : safelyCountChunkSize data chunk (chunksSize - size) = result) :
    isValidLoop data chunksSize (fuel + 1) size i = result.bind fun chunkSize =>
      match chunkSize with
      | none => .ok false
      | some chunkSize => isValidLoop data chunksSize fuel (size + chunkSize) (i + 1) := by
  rw [isValidLoop, if_pos (by omega), sizeWith_nil, if_neg (by omega), hchunk]
  show (safelyCountChunkSize data chunk (chunksSize - size)).bind _ = _
  rw [hresult]
  cases result with
  | error e => rfl
  | ok chunkSize => cases chunkSize <;> rfl

section Loop

variable {left : ℕ} {bytes : List UInt8} {fuel size i chunk : ℕ}

/-- `safelyCountChunkSize` on a chunk that fits. -/
theorem safelyCountChunkSize_of_fits {lengths : List UInt8} (h : ChunkFits left bytes lengths)
    (hdata : data.drop chunk = bytes) :
    safelyCountChunkSize data chunk left = .ok (some (sizeWith lengths)) := by
  rw [safelyCountChunkSize_of_loop h.eight_le
    (safelyCountLoop_of_items (by have := h.eight_le; omega)
    h.items h.fits (by rw [← hdata]; simp only [List.length_drop]; omega) rfl
    (drop_add_of_drop hdata))]
  show Except.ok (if _ then _ else _) = _
  rw [List.nil_append, if_neg (not_lt.2 h.sizeWith_le)]

/-- The loop over a chunk that fits. -/
theorem isValidLoop_of_fits {lengths : List UInt8} (h : ChunkFits left bytes lengths)
    (hleft : chunksSize - size = left) (hchunk : getChunk data i = .ok chunk)
    (hdata : data.drop chunk = bytes) :
    isValidLoop data chunksSize (fuel + 1) size i =
        isValidLoop data chunksSize fuel (size + sizeWith lengths) (i + 1) ∧
      chunksSize - (size + sizeWith lengths) = left - sizeWith lengths ∧
      getChunk data (i + 1) = .ok (chunk + sizeWith lengths) ∧
      data.drop (chunk + sizeWith lengths) = bytes.drop (sizeWith lengths) := by
  obtain ⟨-, hnext, hrest⟩ := getChunk_succ hchunk hdata h.items
  refine ⟨?_, by omega, hnext, hrest⟩
  rw [isValidLoop_step (hleft ▸ h.eight_le) hchunk (hleft ▸ safelyCountChunkSize_of_fits h hdata)]
  rfl

/-- Chunks that fill the packet are valid. -/
theorem isValidLoop_of_chunks {chunks : List (List UInt8)} (h : Chunks left bytes chunks) :
    ∀ {fuel size i chunk : ℕ}, size + left = chunksSize → left < fuel →
      getChunk data i = .ok chunk → data.drop chunk = bytes →
        isValidLoop data chunksSize fuel size i = .ok true := by
  induction h with
  | nil =>
    intro fuel size i chunk hleft hfuel _ _
    obtain ⟨fuel, rfl⟩ := Nat.exists_eq_add_one_of_ne_zero (Nat.ne_zero_of_lt hfuel)
    rw [isValidLoop, if_neg (by omega), decide_eq_true (by omega)]
    rfl
  | @cons left bytes lengths rest hfits _ ih =>
    intro fuel size i chunk hleft hfuel hchunk hdata
    obtain ⟨fuel, rfl⟩ := Nat.exists_eq_add_one_of_ne_zero (Nat.ne_zero_of_lt hfuel)
    obtain ⟨hstep, -, hnext, hrest⟩ :=
      isValidLoop_of_fits hfits (by omega : chunksSize - size = left) hchunk hdata
    have hle := hfits.sizeWith_le
    have hfour := four_le_sizeWith lengths
    rw [hstep]
    exact ih (by omega) (by omega) hnext hrest

/-- Chunks that do not are invalid. -/
theorem isValidLoop_of_rejected (h : Rejected left bytes) :
    ∀ {fuel size i chunk : ℕ}, size + left = chunksSize → left < fuel →
      getChunk data i = .ok chunk → data.drop chunk = bytes →
        isValidLoop data chunksSize fuel size i = .ok false := by
  induction h with
  | @truncated left bytes hpos hlt =>
    -- not even the SSRC of a chunk is left
    intro fuel size i chunk hleft hfuel _ _
    obtain ⟨fuel, rfl⟩ := Nat.exists_eq_add_one_of_ne_zero (Nat.ne_zero_of_lt hfuel)
    rw [isValidLoop, if_pos (by omega), sizeWith_nil, if_pos (by omega)]
    rfl
  | @tooLarge left bytes height hlarge =>
    intro fuel size i chunk hleft hfuel hchunk hdata
    obtain ⟨fuel, rfl⟩ := Nat.exists_eq_add_one_of_ne_zero (Nat.ne_zero_of_lt hfuel)
    have hleft' : chunksSize - size = left := by omega
    have hlength : (bytes.drop 4).length < data.length + 1 := by
      rw [← hdata, List.length_drop, List.length_drop]
      omega
    have hloop : safelyCountLoop data chunk left (data.length + 1) [] 0 (chunk + 4) = .ok none :=
      safelyCountLoop_of_tooLarge (by omega) hlarge hlength rfl (drop_add_of_drop hdata)
    rw [isValidLoop_step (hleft'.symm ▸ height) hchunk
      (hleft'.symm ▸ safelyCountChunkSize_of_loop height hloop)]
    rfl
  | @tooLong left bytes lengths height hitems hfits hlong =>
    intro fuel size i chunk hleft hfuel hchunk hdata
    obtain ⟨fuel, rfl⟩ := Nat.exists_eq_add_one_of_ne_zero (Nat.ne_zero_of_lt hfuel)
    have hleft' : chunksSize - size = left := by omega
    have hlength : (bytes.drop 4).length < data.length + 1 := by
      rw [← hdata, List.length_drop, List.length_drop]
      omega
    have hloop : safelyCountLoop data chunk left (data.length + 1) [] 0 (chunk + 4) =
        .ok (some ([] ++ lengths)) :=
      safelyCountLoop_of_items (by omega) hitems hfits hlength rfl (drop_add_of_drop hdata)
    -- the items fit, but not the padding behind them
    have hresult : safelyCountChunkSize data chunk left = .ok none := by
      rw [safelyCountChunkSize_of_loop height hloop]
      show Except.ok (if _ then _ else _) = _
      rw [List.nil_append, if_pos hlong]
    rw [isValidLoop_step (hleft'.symm ▸ height) hchunk (hleft'.symm ▸ hresult)]
    rfl
  | @later left bytes lengths hfits _ ih =>
    intro fuel size i chunk hleft hfuel hchunk hdata
    obtain ⟨fuel, rfl⟩ := Nat.exists_eq_add_one_of_ne_zero (Nat.ne_zero_of_lt hfuel)
    obtain ⟨hstep, -, hnext, hrest⟩ :=
      isValidLoop_of_fits hfits (by omega : chunksSize - size = left) hchunk hdata
    have hle := hfits.sizeWith_le
    have hfour := four_le_sizeWith lengths
    rw [hstep]
    exact ih (by omega) (by omega) hnext hrest

/-- Items that run out of the packet are followed to its end. -/
theorem isValidLoop_of_overruns (h : Overruns left bytes) :
    ∀ {fuel size i chunk : ℕ}, size + left = chunksSize → left < fuel →
      getChunk data i = .ok chunk → data.drop chunk = bytes →
        isValidLoop data chunksSize fuel size i = .error .outside := by
  induction h with
  | @here left bytes height hoverrun =>
    intro fuel size i chunk hleft hfuel hchunk hdata
    obtain ⟨fuel, rfl⟩ := Nat.exists_eq_add_one_of_ne_zero (Nat.ne_zero_of_lt hfuel)
    have hleft' : chunksSize - size = left := by omega
    have hlength : (bytes.drop 4).length < data.length + 1 := by
      rw [← hdata, List.length_drop, List.length_drop]
      omega
    have hloop : safelyCountLoop data chunk left (data.length + 1) [] 0 (chunk + 4) =
        .error .outside :=
      safelyCountLoop_of_overrun (by omega) hoverrun hlength rfl (drop_add_of_drop hdata)
    rw [isValidLoop_step (hleft'.symm ▸ height) hchunk
      (hleft'.symm ▸ safelyCountChunkSize_of_loop height hloop)]
    rfl
  | @later left bytes lengths hfits _ ih =>
    intro fuel size i chunk hleft hfuel hchunk hdata
    obtain ⟨fuel, rfl⟩ := Nat.exists_eq_add_one_of_ne_zero (Nat.ne_zero_of_lt hfuel)
    obtain ⟨hstep, -, hnext, hrest⟩ :=
      isValidLoop_of_fits hfits (by omega : chunksSize - size = left) hchunk hdata
    have hle := hfits.sizeWith_le
    have hfour := four_le_sizeWith lengths
    rw [hstep]
    exact ih (by omega) (by omega) hnext hrest

end Loop

/-! ## The chunks of a valid packet -/

/-- The chunks fill the packet. -/
theorem sum_of_chunks {left : ℕ} {bytes : List UInt8} {chunks : List (List UInt8)}
    (h : Chunks left bytes chunks) : (chunks.map sizeWith).sum = left := by
  induction h with
  | nil => rfl
  | cons hfits _ ih =>
    have hle := hfits.sizeWith_le
    rw [List.map_cons, List.sum_cons, ih]
    omega

theorem length_le_of_chunks {left : ℕ} {bytes : List UInt8} {chunks : List (List UInt8)}
    (h : Chunks left bytes chunks) : chunks.length ≤ left := by
  induction h with
  | nil => exact le_rfl
  | @cons left bytes lengths rest hfits _ ih =>
    have hle := hfits.sizeWith_le
    have hfour := four_le_sizeWith lengths
    rw [List.length_cons]
    omega

/-- `getChunk` gets to each of them. -/
theorem getChunk_of_chunks {left : ℕ} {bytes : List UInt8} {chunks : List (List UInt8)}
    (h : Chunks left bytes chunks) :
    ∀ {i chunk : ℕ}, getChunk data i = .ok chunk → data.drop chunk = bytes →
      chunk + left ≤ data.length → ∀ k (hk : k < chunks.length),
        ∃ chunk', getChunk data (i + k) = .ok chunk' ∧
          chunk' + sizeWith chunks[k] ≤ data.length ∧
          Items (data.drop (chunk' + 4)) chunks[k] := by
  induction h with
  | nil =>
    intro i chunk _ _ _ k hk
    exact absurd hk (Nat.not_lt_zero k)
  | @cons left bytes lengths rest hfits _ ih =>
    intro i chunk hchunk hdata hin k hk
    have hle := hfits.sizeWith_le
    obtain ⟨-, hnext, hrest⟩ := getChunk_succ hchunk hdata hfits.items
    cases k with
    | zero =>
      refine ⟨chunk, hchunk, by rw [List.getElem_cons_zero]; omega, ?_⟩
      rw [List.getElem_cons_zero, drop_add_of_drop hdata]
      exact hfits.items
    | succ k =>
      obtain ⟨chunk', hchunk', hinside⟩ := ih hnext hrest (by omega) k (by simpa using hk)
      refine ⟨chunk', ?_, hinside⟩
      rw [← hchunk', Nat.add_comm k, ← Nat.add_assoc]

/-- How many chunks the loop of `chunksCount` counts. -/
def countUntil (chunksSize : ℕ) : ℕ → List (List UInt8) → ℕ
  | _, [] => 0
  | size, lengths :: rest =>
    if size < chunksSize then countUntil chunksSize (size + sizeWith lengths) rest + 1 else 0

theorem countUntil_le (size : ℕ) (chunks : List (List UInt8)) :
    countUntil chunksSize size chunks ≤ chunks.length := by
  induction chunks generalizing size with
  | nil => rfl
  | cons lengths rest ih =>
    rw [countUntil]
    split
    · exact Nat.succ_le_succ (ih _)
    · exact Nat.zero_le _

theorem chunksCountLoop_of_chunks {left : ℕ} {bytes : List UInt8} {chunks : List (List UInt8)}
    (h : Chunks left bytes chunks) :
    ∀ {fuel size i chunk : ℕ}, chunksSize ≤ size + left → left < fuel →
      getChunk data i = .ok chunk → data.drop chunk = bytes →
        chunksCountLoop data chunksSize fuel size i =
          .ok (i + countUntil chunksSize size chunks) := by
  induction h with
  | nil =>
    intro fuel size i chunk hsize hfuel _ _
    obtain ⟨fuel, rfl⟩ := Nat.exists_eq_add_one_of_ne_zero (Nat.ne_zero_of_lt hfuel)
    rw [chunksCountLoop, if_neg (by omega)]
    rfl
  | @cons left bytes lengths rest hfits _ ih =>
    intro fuel size i chunk hsize hfuel hchunk hdata
    obtain ⟨fuel, rfl⟩ := Nat.exists_eq_add_one_of_ne_zero (Nat.ne_zero_of_lt hfuel)
    have hle := hfits.sizeWith_le
    have hfour := four_le_sizeWith lengths
    obtain ⟨hgetSize, hnext, hrest⟩ := getChunk_succ hchunk hdata hfits.items
    rw [chunksCountLoop, countUntil]
    split
    · rw [hchunk]
      show (getSize data chunk).bind _ = _
      rw [hgetSize]
      show chunksCountLoop data chunksSize fuel _ _ = _
      rw [ih (by omega) (by omega) hnext hrest]
      congr 1
      omega
    · rfl

/-- All chunks are counted if the size is that of all of them. -/
theorem countUntil_eq_length {size : ℕ} {chunks : List (List UInt8)}
    (h : size + (chunks.map sizeWith).sum = chunksSize) :
    countUntil chunksSize size chunks = chunks.length := by
  induction chunks generalizing size with
  | nil => rfl
  | cons lengths rest ih =>
    have hfour := four_le_sizeWith lengths
    rw [List.map_cons, List.sum_cons] at h
    rw [countUntil, if_pos (by omega), ih (by omega), List.length_cons]

/-- The counted chunks end at most 1023 bytes behind the size. -/
theorem sum_countUntil_lt {size : ℕ} {chunks : List (List UInt8)} (h : size < chunksSize + 1024) :
    size + ((chunks.take (countUntil chunksSize size chunks)).map sizeWith).sum <
      chunksSize + 1024 := by
  induction chunks generalizing size with
  | nil => simpa [countUntil] using h
  | cons lengths rest ih =>
    have hle := sizeWith_le lengths
    rw [countUntil]
    split
    · have hrest := @ih (size + sizeWith lengths) (by omega)
      rw [List.take_succ_cons, List.map_cons, List.sum_cons]
      omega
    · simpa using h

/-! ## The items of a chunk -/

/-- `getItem` gets to every item, and the item is inside the packet. -/
theorem getItem_of_items {chunk : ℕ} {bytes lengths : List UInt8} (h : Items bytes lengths) :
    ∀ {i item : ℕ}, getItem data chunk i = .ok item → data.drop item = bytes →
      ∀ k (hk : k < lengths.length), ∃ item', getItem data chunk (i + k) = .ok item' ∧
        item' + RtcpSdesItem.sizeWith lengths[k] ≤ data.length := by
  induction h with
  | nil =>
    intro i item _ _ k hk
    exact absurd hk (Nat.not_lt_zero k)
  | @cons type length text lengths _ htail ih =>
    intro i item hitem hdata k hk
    obtain ⟨-, hnext, hrest⟩ := getItem_succ hitem hdata
    cases k with
    | zero =>
      refine ⟨item, hitem, ?_⟩
      have htext := htail.two_mul_length_lt
      have hlength := congrArg List.length hdata
      simp only [List.length_drop, List.length_cons] at htext hlength
      rw [List.getElem_cons_zero, RtcpSdesItem.sizeWith]
      omega
    | succ k =>
      obtain ⟨item', hitem', hinside⟩ := ih hnext hrest k (by simpa using hk)
      refine ⟨item', ?_, hinside⟩
      rw [← hitem', Nat.add_comm k, ← Nat.add_assoc]

/-! ## Soundness -/

/-- The chunks of a valid packet, of the given sizes: they and their items are inside the packet,
and they fill it. -/
structure ChunksInside (data : List UInt8) (sizes : List ℕ) : Prop where
  chunksCount : chunksCount data = .ok sizes.length
  chunk : ∀ i (h : i < sizes.length), ∃ chunk lengths, getChunk data i = .ok chunk ∧
    getSize data chunk = .ok sizes[i] ∧ chunk + 4 ≤ data.length ∧
    chunk + sizes[i] ≤ data.length ∧ textLengths data chunk = .ok lengths ∧
    ∀ j (hj : j < lengths.length), ∃ item, getItem data chunk j = .ok item ∧
      item + RtcpSdesItem.sizeWith lengths[j] ≤ data.length
  sum : sizes.sum = data.length - RtcpHeader.sizeOf

/-- `isValid` reads inside the packet only, and if it returns true, so do the accessors. -/
def Sound (data : List UInt8) : Prop :=
  ∃ valid, isValid data = .ok valid ∧ (valid = true → ∃ sizes, ChunksInside data sizes)

section Packet

variable {header : RtcpHeader}

/-- The function is determined by its loop. -/
theorem isValid_eq (hheader : RtcpHeader.read data = .ok header) :
    isValid data = isValidLoop data (4 * header.length.toNat) (data.length + 1) 0 0 := by
  have hsize : header.lengthInBytes - RtcpHeader.sizeOf = 4 * header.length.toNat := by
    rw [RtcpHeader.lengthInBytes, RtcpHeader.sizeOf]
    omega
  rw [isValid, hheader]
  show (if header.lengthInBytes - RtcpHeader.sizeOf = 0 then _ else _) = _
  rw [hsize]
  split
  · next hzero =>
    rw [hzero]
    rfl
  · rfl

theorem chunksCount_eq (hheader : RtcpHeader.read data = .ok header)
    {chunks : List (List UInt8)} (hlength : header.lengthInBytes ≤ data.length)
    (h : Chunks (4 * header.length.toNat) (data.drop 4) chunks) :
    chunksCount data =
      .ok (countUntil (4 * header.length.toNat % 65536) 0 chunks) := by
  have hfuel : 4 * header.length.toNat < data.length + 1 := by
    rw [RtcpHeader.lengthInBytes] at hlength
    omega
  have hvalid := (isValid_eq hheader).trans
    (isValidLoop_of_chunks h (i := 0) (by omega) hfuel rfl rfl)
  have hsize : (UInt16.ofNat (4 * (header.length.toNat + 1) - RtcpHeader.sizeOf)).toNat =
      4 * header.length.toNat % 65536 := by
    rw [UInt16.toNat_ofNat', RtcpHeader.sizeOf]
    congr 1
  have hle := Nat.mod_le (4 * header.length.toNat) 65536
  rw [chunksCount, hvalid, hheader]
  show chunksCountLoop data (UInt16.ofNat _).toNat _ 0 0 = _
  rw [hsize, chunksCountLoop_of_chunks h (by omega) hfuel rfl rfl, Nat.zero_add]

/-- The counted chunks are inside the packet. -/
theorem chunk_inside (hlength : data.length = 4 + 4 * header.length.toNat)
    {chunks : List (List UInt8)} (h : Chunks (4 * header.length.toNat) (data.drop 4) chunks) {i : ℕ}
    (hi : i < chunks.length) :
    ∃ chunk, getChunk data i = .ok chunk ∧ getSize data chunk = .ok (sizeWith chunks[i]) ∧
      chunk + 4 ≤ data.length ∧ chunk + sizeWith chunks[i] ≤ data.length ∧
      textLengths data chunk = .ok chunks[i] ∧
      ∀ j (hj : j < chunks[i].length), ∃ item, getItem data chunk j = .ok item ∧
        item + RtcpSdesItem.sizeWith chunks[i][j] ≤ data.length := by
  obtain ⟨chunk, hchunk, hinside, hitems⟩ :=
    getChunk_of_chunks h (i := 0) rfl rfl (by rw [hlength, RtcpHeader.sizeOf]) i hi
  rw [Nat.zero_add] at hchunk
  have hfour := four_le_sizeWith chunks[i]
  refine ⟨chunk, hchunk, getSize_of_items hitems, by omega, hinside, textLengths_of_items hitems,
    fun j hj => ?_⟩
  obtain ⟨item, hitem, hitemInside⟩ := getItem_of_items hitems (i := 0) rfl rfl j hj
  rw [Nat.zero_add] at hitem
  exact ⟨item, hitem, hitemInside⟩

/-- Chunks that fill less than 64 KiB are all counted. -/
theorem chunksInside_of_chunks (hheader : RtcpHeader.read data = .ok header)
    (hlength : data.length = header.lengthInBytes) (hlt : 4 * header.length.toNat < 65536)
    {chunks : List (List UInt8)} (h : Chunks (4 * header.length.toNat) (data.drop 4) chunks) :
    ChunksInside data (chunks.map sizeWith) := by
  have hdata : data.length = 4 + 4 * header.length.toNat := by
    rw [hlength, RtcpHeader.lengthInBytes]
    omega
  refine ⟨?_, fun i hi => ?_, ?_⟩
  · rw [chunksCount_eq hheader hlength.ge h, Nat.mod_eq_of_lt hlt,
      countUntil_eq_length (by rw [sum_of_chunks h, Nat.zero_add]), List.length_map]
  · rw [List.length_map] at hi
    obtain ⟨chunk, hinside⟩ := chunk_inside hdata h hi
    rw [List.getElem_map]
    obtain ⟨hgetChunk, hgetSize, hssrc, hin, htexts, hitems⟩ := hinside
    exact ⟨chunk, chunks[i], hgetChunk, hgetSize, hssrc, hin, htexts, hitems⟩
  · rw [sum_of_chunks h, RtcpHeader.sizeOf]
    omega

/-- Of more than that only the first ones are counted, which do not fill the packet. -/
theorem not_chunksInside_of_large (hheader : RtcpHeader.read data = .ok header)
    (hlength : data.length = header.lengthInBytes) (hlarge : 65536 ≤ 4 * header.length.toNat)
    {chunks : List (List UInt8)} (h : Chunks (4 * header.length.toNat) (data.drop 4) chunks)
    (sizes : List ℕ) : ¬ChunksInside data sizes := by
  rintro ⟨hcount, hchunk, hsum⟩
  have hdata : data.length = 4 + 4 * header.length.toNat := by
    rw [hlength, RtcpHeader.lengthInBytes]
    omega
  rw [chunksCount_eq hheader hlength.ge h] at hcount
  -- the sizes that are read are those of the first chunks
  have hsizes : sizes = (chunks.take sizes.length).map sizeWith := by
    have hle := @countUntil_le (4 * header.length.toNat % 65536) 0 chunks
    rw [Except.ok.inj hcount] at hle
    refine List.ext_getElem (by simpa using hle) fun i hi hi' => ?_
    obtain ⟨chunk, -, hgetChunk, hgetSize, -⟩ := hchunk i hi
    obtain ⟨chunk', hgetChunk', hgetSize', -⟩ := chunk_inside hdata h (i := i) (by omega)
    rw [Except.ok.inj (hgetChunk.symm.trans hgetChunk')] at hgetSize
    rw [List.getElem_map, List.getElem_take]
    exact Except.ok.inj (hgetSize.symm.trans hgetSize')
  have hlt := @sum_countUntil_lt (4 * header.length.toNat % 65536) 0 chunks (by omega)
  rw [Except.ok.inj hcount, ← hsizes, hsum, RtcpHeader.sizeOf] at hlt
  omega

/-- **SDES validation.** It is sound unless the items of a chunk run out of the packet, or the
packet is valid and the size of its chunks does not fit in 16 bits. -/
theorem sdes_sound_iff (hheader : RtcpHeader.read data = .ok header)
    (hlength : data.length = header.lengthInBytes) :
    Sound data ↔ ¬Overruns (4 * header.length.toNat) (data.drop 4) ∧
      ¬(65536 ≤ 4 * header.length.toNat ∧
        ∃ chunks, Chunks (4 * header.length.toNat) (data.drop 4) chunks) := by
  have hfuel : 4 * header.length.toNat < data.length + 1 := by
    rw [hlength, RtcpHeader.lengthInBytes]
    omega
  have hvalid := isValid_eq hheader
  constructor
  · rintro ⟨valid, hresult, hinside⟩
    rw [hvalid] at hresult
    refine ⟨fun hoverruns => ?_, ?_⟩
    · rw [isValidLoop_of_overruns hoverruns (i := 0) (by omega) hfuel rfl rfl] at hresult
      exact absurd hresult nofun
    · rintro ⟨hlarge, chunks, hchunks⟩
      rw [isValidLoop_of_chunks hchunks (i := 0) (by omega) hfuel rfl rfl] at hresult
      obtain ⟨sizes, hsizes⟩ := hinside (Except.ok.inj hresult).symm
      exact not_chunksInside_of_large hheader hlength hlarge hchunks sizes hsizes
  · rintro ⟨hoverruns, hsmall⟩
    -- the loop takes the packet, rejects it, or runs out of it
    rcases chunks_cases (4 * header.length.toNat) (data.drop 4) with
      ⟨chunks, hchunks⟩ | hrejected | hoverruns'
    · have hlt : 4 * header.length.toNat < 65536 := by
        by_contra hlarge
        exact hsmall ⟨not_lt.1 hlarge, chunks, hchunks⟩
      exact ⟨true, hvalid.trans (isValidLoop_of_chunks hchunks (i := 0) (by omega) hfuel rfl rfl),
        fun _ => ⟨_, chunksInside_of_chunks hheader hlength hlt hchunks⟩⟩
    · exact ⟨false, hvalid.trans
        (isValidLoop_of_rejected hrejected (i := 0) (by omega) hfuel rfl rfl), nofun⟩
    · exact absurd hoverruns' hoverruns

/-- A packet with one chunk that has an item of one byte. -/
theorem sdes_sound_of_one_chunk :
    Sound [0x81, 202, 0, 3, 0, 0, 0, 1, 1, 1, 0x61, 0, 0, 0, 0, 0] ↔
      ¬Overruns 12 [0, 0, 0, 1, 1, 1, 0x61, 0, 0, 0, 0, 0] ∧
      ¬(65536 ≤ 12 ∧ ∃ chunks, Chunks 12 [0, 0, 0, 1, 1, 1, 0x61, 0, 0, 0, 0, 0] chunks) :=
  @sdes_sound_iff [0x81, 202, 0, 3, 0, 0, 0, 1, 1, 1, 0x61, 0, 0, 0, 0, 0] ⟨0x81, 202, 3⟩
    (by decide) (by decide)

/-- Two empty items that take the last four bytes. -/
theorem sdes_reads_outside :
    ¬∀ (data : List UInt8) (header : RtcpHeader), RtcpHeader.read data = .ok header →
      data.length = header.lengthInBytes → Sound data := by
  intro hall
  obtain ⟨valid, hvalid, -⟩ := hall [0x81, 202, 0, 2, 0, 0, 0, 1, 1, 0, 1, 0] ⟨0x81, 202, 2⟩
    (by decide) (by decide)
  have houtside : isValid [0x81, 202, 0, 2, 0, 0, 0, 1, 1, 0, 1, 0] = .error .outside := by
    decide
  exact absurd (houtside.symm.trans hvalid) nofun

end Packet

end RtcpSdes

end Rtc
