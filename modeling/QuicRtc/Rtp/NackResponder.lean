import QuicRtc.Rtp.Fragments

/-!
# The retransmission store

`RtcpNackResponder::Storage` keeps the last packets that were sent, in a hash map by sequence number
and in a linked list from the oldest to the newest.

A packet whose number is not in the map adds a key, and the one that is evicted is that of the
oldest packet, so the map and the list go together: `Kept` is the invariant of such stores. A packet
whose number is in the map is linked into the list and not entered into the map.

* `storeAll_window`: with consecutive sequence numbers a window of at most 65535 packets has no
  number twice, however often the numbers wrap.
* `consistent_iff`: with any numbers, the two structures go together at all times exactly if no
  number comes back while it is stored.
-/

namespace Rtc

namespace RtcpNackResponder

/-- `RtcpNackResponder::Storage::Element`. `next` points to the newer element. -/
structure Element where
  packet : List UInt8
  sequenceNumber : UInt16
  next : Option ℕ := none
  deriving DecidableEq, Repr

/-- `RtcpNackResponder::Storage`. The elements are in `heap` in the order in which they were made,
and a `shared_ptr<Element>` is an index into it. -/
structure Storage where
  heap : List Element := []
  oldest : Option ℕ := none
  newest : Option ℕ := none
  storage : Std.HashMap UInt16 ℕ := ∅
  maxSize : ℕ

namespace Storage

/-- `RtcpNackResponder::Storage::size`. -/
def size (s : Storage) : ℕ := s.storage.size

/-- `RtcpNackResponder::Storage::get`. -/
def get (s : Storage) (sequenceNumber : UInt16) : Option (List UInt8) :=
  s.storage[sequenceNumber]?.bind fun element => s.heap[element]?.map Element.packet

/-- The first half of `store`: the element becomes the newest. -/
def link (s : Storage) (packet : List UInt8) (sequenceNumber : UInt16) : Storage :=
  let current := s.heap.length
  let heap := s.heap ++ [{ packet, sequenceNumber }]
  if s.size = 0 then { s with heap, newest := some current, oldest := some current }
  else
    match s.newest with
    | some newest =>
      { s with
        heap := heap.modify newest fun e => { e with next := some current }
        newest := some current }
    | none => { s with heap, newest := some current }

/-- The second half of `store`: the oldest element is dropped if there are too many. -/
def evict (s : Storage) : Storage :=
  if s.maxSize < s.size then
    match s.oldest.bind fun oldest => s.heap[oldest]? with
    | some e => { s with storage := s.storage.erase e.sequenceNumber, oldest := e.next }
    | none => s
  else s

/-- `RtcpNackResponder::Storage::store`. A packet without an RTP header is not stored. -/
def store (s : Storage) (packet : List UInt8) : Storage :=
  if packet.length < RtpHeader.sizeOf then s
  else
    let sequenceNumber := (RtpHeader.read packet).seqNumber
    let linked := s.link packet sequenceNumber
    -- `emplace` does nothing if the key is there
    let emplaced := match linked.newest with
      | some newest =>
        { linked with storage := linked.storage.insertIfNew sequenceNumber newest }
      | none => linked
    emplaced.evict

/-- The elements reached from a pointer by following `next`. -/
inductive Reaches (heap : List Element) : Option ℕ → List ℕ → Prop where
  | nil : Reaches heap none []
  | cons {i : ℕ} {e : Element} {rest : List ℕ} (element : heap[i]? = some e)
      (tail : Reaches heap e.next rest) : Reaches heap (some i) (i :: rest)

/-- The linked list, from the oldest to the newest element, holds these packets. -/
def Lists (s : Storage) (packets : List (List UInt8)) : Prop :=
  ∃ elements, Reaches s.heap s.oldest elements ∧ elements.getLast? = s.newest ∧
    elements.map (fun i => s.heap[i]?.map Element.packet) = packets.map some

end Storage

/-- The packets have RTP headers with consecutive sequence numbers from `start` on. -/
def Consecutive (start : UInt16) (packets : List (List UInt8)) : Prop :=
  ∀ i (h : i < packets.length), RtpHeader.sizeOf ≤ packets[i].length ∧
    (RtpHeader.read packets[i]).seqNumber = start + UInt16.ofNat i

/-- The last packet with a sequence number. -/
def lastWith (packets : List (List UInt8)) (sequenceNumber : UInt16) : Option (List UInt8) :=
  packets.reverse.find? fun packet => (RtpHeader.read packet).seqNumber = sequenceNumber

/-! ## The invariant -/

/-- The sequence number in the header of a packet. -/
abbrev seqNumberOf (packet : List UInt8) : UInt16 := (RtpHeader.read packet).seqNumber

/-- The element that is made for the `i`-th packet, whatever its number. -/
def keptElement (packets : List (List UInt8)) (i : ℕ) (packet : List UInt8) : Element where
  packet := packet
  sequenceNumber := seqNumberOf packet
  next := if i + 1 < packets.length then some (i + 1) else none

/-- The state after `packets` with any numbers, of which those from the index `first` on are kept:
they are the packets on the list and those in the map. -/
structure Storage.Kept (packets : List (List UInt8)) (first : ℕ) (s : Storage) : Prop where
  heap : ∀ i, s.heap[i]? = packets[i]?.map (keptElement packets i)
  oldest : s.oldest = if packets = [] then none else some first
  newest : s.newest = if packets = [] then none else some (packets.length - 1)
  storage : ∀ key i, s.storage[key]? = some i ↔
    first ≤ i ∧ ∃ packet, packets[i]? = some packet ∧ seqNumberOf packet = key
  size : s.size = packets.length - first
  first_lt : packets ≠ [] → first < packets.length
  first_eq : packets = [] → first = 0

/-- Numbers less than 65536 apart give different sequence numbers. -/
theorem sequenceNumber_ne {start : UInt16} {i j : ℕ} (hlt : i < j) (hdistance : j < i + 65536) :
    start + UInt16.ofNat i ≠ start + UInt16.ofNat j := by
  intro heq
  have hofNat : UInt16.ofNat i = UInt16.ofNat j := by
    simpa using heq
  have hmod : i % 65536 = j % 65536 := by
    simpa using congrArg UInt16.toNat hofNat
  omega

namespace Storage

variable {packets : List (List UInt8)} {first : ℕ} {s : Storage}

theorem Kept.length_heap (h : s.Kept packets first) : s.heap.length = packets.length := by
  have hlast := h.heap packets.length
  have hend := h.heap s.heap.length
  simp only [List.getElem?_eq_none le_rfl, Option.map_none, Option.map_eq_none_iff,
    List.getElem?_eq_none_iff, eq_comm (a := none)] at hlast hend
  omega

theorem Kept.first_le (h : s.Kept packets first) : first ≤ packets.length := by
  by_cases hnil : packets = []
  · rw [h.first_eq hnil]
    exact Nat.zero_le _
  · exact (h.first_lt hnil).le

/-- The keys of the map are the numbers of the window. -/
theorem Kept.mem_storage_iff (h : s.Kept packets first) (key : UInt16) :
    key ∈ s.storage ↔
      ∃ i packet, first ≤ i ∧ packets[i]? = some packet ∧ seqNumberOf packet = key := by
  rw [← Std.HashMap.isSome_getElem?_iff_mem, Option.isSome_iff_exists]
  constructor
  · rintro ⟨i, hi⟩
    obtain ⟨hle, packet, hpacket, hkey⟩ := (h.storage key i).1 hi
    exact ⟨i, packet, hle, hpacket, hkey⟩
  · rintro ⟨i, packet, hle, hpacket, hkey⟩
    exact ⟨i, (h.storage key i).2 ⟨hle, packet, hpacket, hkey⟩⟩

/-- The elements once more packets are there: only the pointer of the newest one changes. -/
theorem keptElement_append {i : ℕ} (packet p : List UInt8) (hi : i < packets.length) :
    keptElement (packets ++ [packet]) i p =
      if packets.length - 1 = i then
        { keptElement packets i p with next := some packets.length }
      else keptElement packets i p := by
  simp only [keptElement, List.length_append, List.length_singleton]
  by_cases hlast : packets.length - 1 = i
  · have hnext : i + 1 = packets.length := by omega
    rw [if_pos hlast, if_pos (by omega), hnext]
  · rw [if_neg hlast, if_pos (by omega), if_pos (by omega)]

/-- The new element becomes the newest, and the oldest too if it is the only one. -/
theorem Kept.link (h : s.Kept packets first) (packet : List UInt8) :
    let linked := s.link packet (seqNumberOf packet)
    (∀ i, linked.heap[i]? =
        (packets ++ [packet])[i]?.map (keptElement (packets ++ [packet]) i)) ∧
      linked.oldest = some first ∧ linked.newest = some packets.length ∧
      linked.storage = s.storage ∧ linked.maxSize = s.maxSize := by
  have hlength := h.length_heap
  have hsize := h.size
  by_cases hnil : packets = []
  · subst hnil
    have hheap : s.heap = [] := List.length_eq_zero_iff.1 hlength
    rw [Storage.link, if_pos (by simpa using hsize)]
    refine ⟨fun i => ?_, ?_, ?_, rfl, rfl⟩
    · cases i <;> simp [hheap, keptElement]
    · simp [hheap, h.first_eq rfl]
    · simp [hheap]
  · have hfirst := h.first_lt hnil
    have hnewest := h.newest
    rw [if_neg hnil] at hnewest
    rw [Storage.link, if_neg (by omega), hnewest]
    refine ⟨fun i => ?_, ?_, ?_, rfl, rfl⟩
    · show ((s.heap ++ [_]).modify (packets.length - 1) _)[i]? = _
      rw [List.getElem?_modify]
      -- the older elements, of which the last one gets its link; the new one; and none behind it
      rcases lt_trichotomy i packets.length with hlt | rfl | hgt
      · rw [List.getElem?_append_left (hlength ▸ hlt), List.getElem?_append_left hlt, h.heap,
          List.getElem?_eq_getElem hlt, Option.map_some, Option.map_some,
          keptElement_append packet _ hlt, ← hlength]
        rfl
      · have hne : packets.length - 1 ≠ packets.length := by omega
        have hnew : (s.heap ++ [{ packet, sequenceNumber := seqNumberOf packet }])[
            packets.length]? = some { packet, sequenceNumber := seqNumberOf packet } := by
          rw [← hlength, List.getElem?_concat_length]
        rw [hnew, List.getElem?_concat_length]
        simp [hne, keptElement]
      · rw [List.getElem?_eq_none (by simp; omega), List.getElem?_eq_none (by simp; omega)]
        rfl
    · show s.oldest = _
      rw [h.oldest, if_neg hnil]
    · show some s.heap.length = _
      rw [hlength]

/-- With a new key in the map the window has grown by the new packet. -/
theorem Kept.emplace (h : s.Kept packets first) {packet : List UInt8}
    (hnew : seqNumberOf packet ∉ s.storage) :
    Kept (packets ++ [packet]) first { s.link packet (seqNumberOf packet) with
      storage := s.storage.insertIfNew (seqNumberOf packet) packets.length } := by
  obtain ⟨hlinkedHeap, hlinkedOldest, hlinkedNewest, -⟩ := h.link packet
  have hle := h.first_le
  have hne : packets ++ [packet] ≠ [] := by simp
  refine ⟨hlinkedHeap, ?_, ?_, fun key i => ?_, ?_, fun _ => ?_, fun hnil => absurd hnil hne⟩
  · rw [if_neg hne]
    exact hlinkedOldest
  · rw [if_neg hne, List.length_append, List.length_singleton, Nat.add_sub_cancel]
    exact hlinkedNewest
  · show (s.storage.insertIfNew _ _)[key]? = _ ↔ _
    rw [Std.HashMap.getElem?_insertIfNew]
    split
    · next hkey =>
      -- the new key leads to the new packet, and no packet of the window has it
      obtain rfl := beq_iff_eq.1 hkey.1
      constructor
      · intro heq
        obtain rfl := Option.some.inj heq
        exact ⟨hle, packet, List.getElem?_concat_length, rfl⟩
      · rintro ⟨hfirst, other, hother, hnumber⟩
        rcases lt_trichotomy i packets.length with hlt | rfl | hgt
        · rw [List.getElem?_append_left hlt] at hother
          exact absurd ((h.mem_storage_iff _).2 ⟨i, other, hfirst, hother, hnumber⟩) hnew
        · rfl
        · rw [List.getElem?_eq_none (by simp; omega)] at hother
          cases hother
    · next hkey =>
      rw [h.storage]
      refine and_congr_right fun hfirst => exists_congr fun other =>
        and_congr_left fun hnumber => ?_
      rcases lt_trichotomy i packets.length with hlt | rfl | hgt
      · rw [List.getElem?_append_left hlt]
      · rw [List.getElem?_eq_none le_rfl, List.getElem?_concat_length]
        refine ⟨fun heq => absurd heq (Option.some_ne_none _).symm,
          fun heq => absurd ⟨beq_iff_eq.2 ?_, hnew⟩ hkey⟩
        rw [Option.some.inj heq, hnumber]
      · rw [List.getElem?_eq_none (by omega), List.getElem?_eq_none (by simp; omega)]
  · show (s.storage.insertIfNew _ _).size = _
    rw [Std.HashMap.size_insertIfNew, if_neg hnew, List.length_append, List.length_singleton,
      show s.storage.size = packets.length - first from h.size]
    omega
  · simp only [List.length_append, List.length_singleton]
    omega

/-- Dropping the oldest packet moves the window by one. -/
theorem Kept.evict (h : s.Kept packets first) (hmax : 1 ≤ s.maxSize) :
    s.evict.Kept packets
      (if s.maxSize < packets.length - first then first + 1 else first) := by
  rw [Storage.evict, h.size]
  split
  · next hfull =>
    have hnil : packets ≠ [] := by
      rintro rfl
      simp at hfull
    have hfirst := h.first_lt hnil
    have hat : packets[first]? = some packets[first] := List.getElem?_eq_getElem hfirst
    -- the element that is evicted holds the first packet of the window
    have holdest : (s.oldest.bind fun oldest => s.heap[oldest]?) =
        some (keptElement packets first packets[first]) := by
      rw [h.oldest, if_neg hnil, Option.bind_some, h.heap, hat]
      rfl
    have hevicted : s.storage[seqNumberOf packets[first]]? = some first :=
      (h.storage _ _).2 ⟨le_rfl, _, hat, rfl⟩
    rw [holdest]
    refine ⟨h.heap, ?_, h.newest, fun key i => ?_, ?_, fun _ => ?_,
      fun hempty => absurd hempty hnil⟩
    · rw [if_neg hnil]
      exact if_pos (by omega)
    · show (s.storage.erase (seqNumberOf packets[first]))[key]? = _ ↔ _
      rw [Std.HashMap.getElem?_erase]
      split
      · next hkey =>
        obtain rfl := beq_iff_eq.1 hkey
        constructor
        · exact fun heq => absurd heq (Option.some_ne_none i).symm
        · rintro ⟨hlt, packet, hpacket, hnumber⟩
          have hsame := (h.storage _ i).2 ⟨by omega, packet, hpacket, hnumber⟩
          have := Option.some.inj (hevicted.symm.trans hsame)
          omega
      · next hkey =>
        rw [h.storage]
        constructor
        · rintro ⟨hle, packet, hpacket, hnumber⟩
          refine ⟨?_, packet, hpacket, hnumber⟩
          rcases Nat.lt_or_eq_of_le hle with hlt | rfl
          · exact hlt
          · have hsame := Option.some.inj (hat.symm.trans hpacket)
            exact absurd (beq_iff_eq.2 (hsame ▸ hnumber)) hkey
        · rintro ⟨hle, hpacket⟩
          exact ⟨by omega, hpacket⟩
    · have hmem : seqNumberOf packets[first] ∈ s.storage := by
        rw [← Std.HashMap.isSome_getElem?_iff_mem, hevicted]
        rfl
      show (s.storage.erase (seqNumberOf packets[first])).size = _
      rw [Std.HashMap.size_erase, if_pos hmem, show s.storage.size = _ from h.size]
      omega
    · omega
  · exact h

/-- Where the window starts after `n` packets. -/
def windowStart (maxSize n : ℕ) : ℕ := n - min n maxSize

@[simp]
theorem maxSize_evict (s : Storage) : s.evict.maxSize = s.maxSize := by
  unfold evict
  split
  · split <;> rfl
  · rfl

/-- `store` is to link the element, to enter it into the map, and to evict the oldest one. -/
theorem Kept.store_eq (h : s.Kept packets first) {packet : List UInt8}
    (hlength : RtpHeader.sizeOf ≤ packet.length) :
    s.store packet = Storage.evict { s.link packet (seqNumberOf packet) with
      storage := s.storage.insertIfNew (seqNumberOf packet) packets.length } := by
  obtain ⟨-, -, hnewest, hstorage, -⟩ := h.link packet
  rw [Storage.store, if_neg (not_lt.2 hlength)]
  dsimp only
  rw [hnewest]
  dsimp only
  rw [hstorage]

/-- Storing a packet the number of which is not stored. -/
theorem Kept.store (hmax : 1 ≤ s.maxSize)
    (h : s.Kept packets (windowStart s.maxSize packets.length)) {packet : List UInt8}
    (hlength : RtpHeader.sizeOf ≤ packet.length) (hnew : seqNumberOf packet ∉ s.storage) :
    (s.store packet).Kept (packets ++ [packet])
      (windowStart s.maxSize (packets ++ [packet]).length) ∧
      (s.store packet).maxSize = s.maxSize := by
  obtain ⟨-, -, -, -, hmaxSize⟩ := h.link packet
  have hevict := (h.emplace hnew).evict (hmax.trans_eq hmaxSize.symm)
  rw [h.store_eq hlength, maxSize_evict]
  refine ⟨?_, hmaxSize⟩
  -- the window starts one packet later once it is full
  have hstart : windowStart s.maxSize (packets ++ [packet]).length =
      if (s.link packet (seqNumberOf packet)).maxSize <
        (packets ++ [packet]).length - windowStart s.maxSize packets.length then
        windowStart s.maxSize packets.length + 1 else windowStart s.maxSize packets.length := by
    simp only [windowStart, hmaxSize, List.length_append, List.length_singleton]
    split <;> omega
  rw [hstart]
  exact hevict

end Storage

/-- The store after storing packets one by one. -/
def Storage.storeAll (maxSize : ℕ) (packets : List (List UInt8)) : Storage :=
  packets.foldl Storage.store { maxSize }

/-! ## The list and the map -/

/-- The last packet with a number, when no later one has it. -/
theorem lastWith_eq_some {packets : List (List UInt8)} {key : UInt16} {i : ℕ}
    (hi : i < packets.length) (hkey : (RtpHeader.read packets[i]).seqNumber = key)
    (hlater : ∀ j (hj : j < packets.length), i < j →
      (RtpHeader.read packets[j]).seqNumber ≠ key) :
    lastWith packets key = some packets[i] := by
  rw [lastWith, List.find?_eq_some_iff_getElem]
  refine ⟨by simpa using hkey, packets.length - 1 - i, by rw [List.length_reverse]; omega, ?_,
    fun j hj => ?_⟩
  · rw [List.getElem_reverse]
    congr 1
    omega
  · rw [List.getElem_reverse]
    simpa using hlater (packets.length - 1 - j) (by omega) (by omega)

namespace Storage

variable {packets : List (List UInt8)} {first : ℕ} {s : Storage}

/-- `get` finds the packets of the window. -/
theorem Kept.get_eq (h : s.Kept packets first) (key : UInt16) :
    s.get key = lastWith (packets.drop first) key := by
  rw [Storage.get]
  cases hlookup : s.storage[key]? with
  | none =>
    refine (List.find?_eq_none.2 fun packet hpacket => ?_).symm
    obtain ⟨j, hj⟩ := List.mem_iff_getElem?.1 (List.mem_reverse.1 hpacket)
    rw [List.getElem?_drop] at hj
    rw [decide_eq_true_iff]
    intro hkey
    have hfound := (h.storage key (first + j)).2 ⟨Nat.le_add_right _ _, packet, hj, hkey⟩
    exact absurd (hfound.symm.trans hlookup) (Option.some_ne_none _)
  | some i =>
    obtain ⟨hfirst, packet, hpacket, hkey⟩ := (h.storage key i).1 hlookup
    obtain ⟨j, rfl⟩ := Nat.exists_eq_add_of_le hfirst
    obtain ⟨hj, hat⟩ :
        ∃ hj : j < (packets.drop first).length, (packets.drop first)[j] = packet := by
      rw [← List.getElem?_eq_some_iff, List.getElem?_drop]
      exact hpacket
    -- a later packet of the window with the same number would have the same index
    have hlast := lastWith_eq_some hj (hat ▸ hkey) fun j' hj' hlater heq => by
      have hsame := (h.storage key (first + j')).2 ⟨Nat.le_add_right _ _, _, by
        rw [← List.getElem?_drop]
        exact List.getElem?_eq_getElem hj', heq⟩
      have := Option.some.inj (hlookup.symm.trans hsame)
      omega
    rw [hlast, Option.bind_some, h.heap, hpacket, hat]
    rfl

/-- The pointers lead from each packet to the next. -/
theorem reaches_range' {heap : List Element}
    (hheap : ∀ i, heap[i]? = packets[i]?.map (keptElement packets i)) :
    ∀ count i, i + count = packets.length →
      Reaches heap (if i < packets.length then some i else none) (List.range' i count) := by
  intro count
  induction count with
  | zero =>
    intro i hi
    rw [if_neg (by omega)]
    exact .nil
  | succ count ih =>
    intro i hi
    rw [if_pos (by omega), List.range'_succ]
    refine .cons (e := keptElement packets i packets[i]) ?_ (ih (i + 1) (by omega))
    rw [hheap, List.getElem?_eq_getElem (by omega)]
    rfl

/-- What is on the elements of the window. -/
theorem map_range'_heap {α : Type} {heap : List Element} {first : ℕ}
    (hheap : ∀ i, heap[i]? = packets[i]?.map (keptElement packets i)) (hle : first ≤ packets.length)
    {f : Element → α} {g : List UInt8 → α}
    (hf : ∀ i packet, f (keptElement packets i packet) = g packet) :
    (List.range' first (packets.length - first)).map (fun i => heap[i]?.map f) =
      ((packets.drop first).map g).map some := by
  refine List.ext_getElem (by simp) fun i hi hi' => ?_
  simp only [List.length_map, List.length_range', List.length_drop] at hi hi'
  rw [List.getElem_map, List.getElem_map, List.getElem_map, List.getElem_range', List.getElem_drop,
    hheap, Nat.one_mul, List.getElem?_eq_getElem (by omega), Option.map_some, Option.map_some, hf]

/-- The elements of the list. -/
theorem Kept.reaches (h : s.Kept packets first) :
    Reaches s.heap s.oldest (List.range' first (packets.length - first)) ∧
      (List.range' first (packets.length - first)).getLast? = s.newest := by
  have hle := h.first_le
  constructor
  · have hreaches := reaches_range' h.heap (packets.length - first) first (by omega)
    rw [h.oldest]
    split
    · next hnil =>
      rwa [if_neg (by simp [hnil])] at hreaches
    · next hnil =>
      rwa [if_pos (h.first_lt hnil)] at hreaches
  · rw [h.newest, List.getLast?_range']
    by_cases hnil : packets = []
    · simp [hnil]
    · have hfirst := h.first_lt hnil
      rw [if_neg hnil, if_neg (by omega)]
      congr 1
      omega

/-- The linked list holds the packets of the window. -/
theorem Kept.lists (h : s.Kept packets first) : s.Lists (packets.drop first) := by
  obtain ⟨hreaches, hlast⟩ := h.reaches
  refine ⟨_, hreaches, hlast, ?_⟩
  rw [map_range'_heap h.heap h.first_le (g := id) fun i packet => rfl, List.map_id]

/-- A list is followed in one way. -/
theorem reaches_unique {heap : List Element} {pointer : Option ℕ} {elements elements' : List ℕ}
    (h : Reaches heap pointer elements) (h' : Reaches heap pointer elements') :
    elements = elements' := by
  induction h generalizing elements' with
  | nil =>
    cases h'
    rfl
  | cons helement _ ih =>
    cases h' with
    | cons helement' htail' =>
      obtain rfl := Option.some.inj (helement.symm.trans helement')
      rw [ih htail']

end Storage

/-! ## Numbers that do not come back -/

/-- No packet has the number of one of the `maxSize` packets before it. -/
def Spaced (maxSize : ℕ) (packets : List (List UInt8)) : Prop :=
  ∀ i j packet later, i < j → j ≤ i + maxSize → packets[i]? = some packet →
    packets[j]? = some later → seqNumberOf packet ≠ seqNumberOf later

section Spaced

variable {maxSize : ℕ} {packets : List (List UInt8)} {packet : List UInt8}

/-- One packet more. -/
theorem spaced_append_iff :
    Spaced maxSize (packets ++ [packet]) ↔
      Spaced maxSize packets ∧ ∀ i other, packets.length ≤ i + maxSize → packets[i]? = some other →
        seqNumberOf other ≠ seqNumberOf packet := by
  constructor
  · intro h
    refine ⟨fun i j p q hlt hle hp hq => ?_, fun i other hle hother => ?_⟩
    · have hi := (List.getElem?_eq_some_iff.1 hp).1
      have hj := (List.getElem?_eq_some_iff.1 hq).1
      exact h i j p q hlt hle ((List.getElem?_append_left hi).trans hp)
        ((List.getElem?_append_left hj).trans hq)
    · have hi := (List.getElem?_eq_some_iff.1 hother).1
      exact h i packets.length other packet hi hle ((List.getElem?_append_left hi).trans hother)
        List.getElem?_concat_length
  · rintro ⟨h, hlast⟩ i j p q hlt hle hp hq
    have hj := (List.getElem?_eq_some_iff.1 hq).1
    rw [List.length_append, List.length_singleton] at hj
    rw [List.getElem?_append_left (by omega)] at hp
    rcases Nat.lt_or_eq_of_le (Nat.le_of_lt_succ hj) with hlater | rfl
    · rw [List.getElem?_append_left hlater] at hq
      exact h i j p q hlt hle hp hq
    · rw [List.getElem?_concat_length, Option.some.injEq] at hq
      exact hq ▸ hlast i p hle hp

/-- The invariant holds after packets with numbers that do not come back. -/
theorem kept_storeAll (hmax : 1 ≤ maxSize)
    (hlength : ∀ packet ∈ packets, RtpHeader.sizeOf ≤ packet.length)
    (hspaced : Spaced maxSize packets) :
    (Storage.storeAll maxSize packets).Kept packets
      (Storage.windowStart maxSize packets.length) ∧
      (Storage.storeAll maxSize packets).maxSize = maxSize := by
  induction packets using List.reverseRecOn with
  | nil =>
    refine ⟨⟨fun i => rfl, rfl, rfl, fun key i => ?_, rfl, fun h => absurd rfl h, fun _ => ?_⟩, rfl⟩
    · simp [Storage.storeAll]
    · simp [Storage.windowStart]
  | append_singleton packets packet ih =>
    obtain ⟨hbefore, hlast⟩ := spaced_append_iff.1 hspaced
    obtain ⟨hkept, hmaxSize⟩ := ih
      (fun p hp => hlength p (List.mem_append_left _ hp)) hbefore
    have hnew : seqNumberOf packet ∉ (Storage.storeAll maxSize packets).storage := by
      rw [hkept.mem_storage_iff]
      rintro ⟨i, other, hfirst, hother, hnumber⟩
      refine hlast i other ?_ hother hnumber
      rw [Storage.windowStart] at hfirst
      omega
    have hstored := Storage.Kept.store (s := Storage.storeAll maxSize packets) (by omega)
      (by rw [hmaxSize]; exact hkept)
      (hlength packet (List.mem_append_right _ (List.mem_singleton.2 rfl))) hnew
    rw [hmaxSize] at hstored
    rw [Storage.storeAll, List.foldl_concat]
    exact hstored

end Spaced

/-! ## The window -/

section Window

variable {start : UInt16} {packets : List (List UInt8)} {maxSize : ℕ}

/-- The number of a packet. -/
theorem Consecutive.seqNumberOf_eq (h : Consecutive start packets) {i : ℕ} {packet : List UInt8}
    (hpacket : packets[i]? = some packet) : seqNumberOf packet = start + UInt16.ofNat i := by
  obtain ⟨hi, rfl⟩ := List.getElem?_eq_some_iff.1 hpacket
  exact (h i hi).2

/-- Consecutive numbers do not come back within 65535 packets. -/
theorem Consecutive.spaced (h : Consecutive start packets) (hbound : maxSize ≤ 65535) :
    Spaced maxSize packets := by
  intro i j packet later hlt hle hpacket hlater
  rw [h.seqNumberOf_eq hpacket, h.seqNumberOf_eq hlater]
  exact sequenceNumber_ne hlt (by omega)

/-- **The retransmission store.** After packets with consecutive sequence numbers, `get` returns the
last packet with a number if it is one of the last `maxSize`, and the linked list holds these. -/
theorem storeAll_window (hmax : 1 ≤ maxSize) (hbound : maxSize ≤ 65535)
    (hconsecutive : Consecutive start packets) :
    let window := packets.drop (packets.length - min packets.length maxSize)
    (∀ key, (Storage.storeAll maxSize packets).get key = lastWith window key) ∧
      (Storage.storeAll maxSize packets).Lists window := by
  have hlength : ∀ packet ∈ packets, RtpHeader.sizeOf ≤ packet.length := by
    intro packet hpacket
    obtain ⟨i, hi, rfl⟩ := List.getElem_of_mem hpacket
    exact (hconsecutive i hi).1
  obtain ⟨hkept, -⟩ := kept_storeAll hmax hlength (hconsecutive.spaced hbound)
  exact ⟨hkept.get_eq, hkept.lists⟩

end Window

/-! ## Any numbers -/

/-- The packets that `store` takes: those with an RTP header. -/
def stored (packets : List (List UInt8)) : List (List UInt8) :=
  packets.filter fun packet => RtpHeader.sizeOf ≤ packet.length

/-- The linked list, from the oldest to the newest element, holds these numbers. -/
def Storage.ListsNumbers (s : Storage) (numbers : List UInt16) : Prop :=
  ∃ elements, Reaches s.heap s.oldest elements ∧ elements.getLast? = s.newest ∧
    elements.map (fun i => s.heap[i]?.map Element.sequenceNumber) = numbers.map some

/-- The store after `packets` is not too large, its list and its map hold the same numbers, each of
them once, and a packet that it finds is the last one with its number. -/
structure Storage.Consistent (maxSize : ℕ) (packets : List (List UInt8)) (s : Storage) :
    Prop where
  size_le : s.size ≤ maxSize
  numbers : ∃ numbers, s.ListsNumbers numbers ∧ numbers.Nodup ∧
    ∀ key, key ∈ numbers ↔ key ∈ s.storage
  get : ∀ key, s.get key = none ∨ s.get key = lastWith (stored packets) key

section AnyNumbers

variable {maxSize : ℕ} {packets : List (List UInt8)}

/-- A packet without a header changes nothing. -/
theorem storeAll_stored (maxSize : ℕ) (packets : List (List UInt8)) :
    Storage.storeAll maxSize packets = Storage.storeAll maxSize (stored packets) := by
  induction packets using List.reverseRecOn with
  | nil => rfl
  | append_singleton packets packet ih =>
    rw [Storage.storeAll, List.foldl_concat, stored, List.filter_append]
    by_cases hlength : RtpHeader.sizeOf ≤ packet.length
    · rw [List.filter_singleton, decide_eq_true hlength, cond_true, Storage.storeAll,
        List.foldl_concat]
      exact congrArg (Storage.store · packet) ih
    · rw [List.filter_singleton, decide_eq_false hlength, cond_false, List.append_nil]
      refine Eq.trans ?_ ih
      rw [Storage.store, if_pos (not_le.1 hlength)]
      rfl

theorem length_of_mem_stored {packet : List UInt8} (h : packet ∈ stored packets) :
    RtpHeader.sizeOf ≤ packet.length :=
  of_decide_eq_true (List.mem_filter.1 h).2

/-- The numbers of the window, from the oldest to the newest packet. -/
theorem Storage.Kept.listsNumbers {first : ℕ} {s : Storage} (h : s.Kept packets first) :
    s.ListsNumbers ((packets.drop first).map seqNumberOf) := by
  obtain ⟨hreaches, hlast⟩ := h.reaches
  exact ⟨_, hreaches, hlast, map_range'_heap h.heap h.first_le fun i packet => rfl⟩

/-- The numbers of the window differ. -/
theorem Storage.Kept.nodup {first : ℕ} {s : Storage} (h : s.Kept packets first) :
    ((packets.drop first).map seqNumberOf).Nodup := by
  rw [List.nodup_iff_pairwise_ne, List.pairwise_map, List.pairwise_iff_getElem]
  intro i j hi hj hlt heq
  have hfound : ∀ k (hk : k < (packets.drop first).length),
      s.storage[seqNumberOf (packets.drop first)[k]]? = some (first + k) := by
    intro k hk
    refine (h.storage _ _).2 ⟨Nat.le_add_right _ _, _, ?_, rfl⟩
    rw [← List.getElem?_drop]
    exact List.getElem?_eq_getElem hk
  have hsame := (hfound i hi).symm.trans (heq ▸ hfound j hj)
  have := Option.some.inj hsame
  omega

/-- The last packet with a number is the last one of the window. -/
theorem lastWith_drop (first : ℕ) (packets : List (List UInt8)) (key : UInt16) :
    lastWith (packets.drop first) key = none ∨
      lastWith (packets.drop first) key = lastWith packets key := by
  have hsplit : lastWith packets key =
      (lastWith (packets.drop first) key).or (lastWith (packets.take first) key) := by
    rw [lastWith, lastWith, lastWith, ← List.find?_append, ← List.reverse_append,
      List.take_append_drop]
  rw [hsplit]
  cases lastWith (packets.drop first) key with
  | none => exact Or.inl rfl
  | some packet => exact Or.inr rfl

theorem Storage.Kept.consistent {s : Storage}
    (h : s.Kept (stored packets) (windowStart maxSize (stored packets).length)) :
    s.Consistent maxSize packets where
  size_le := by
    rw [h.size, windowStart]
    omega
  numbers := by
    refine ⟨_, h.listsNumbers, h.nodup, fun key => ?_⟩
    rw [h.mem_storage_iff, List.mem_map]
    constructor
    · rintro ⟨packet, hpacket, hkey⟩
      obtain ⟨j, hj⟩ := List.mem_iff_getElem?.1 hpacket
      rw [List.getElem?_drop] at hj
      exact ⟨_, packet, Nat.le_add_right _ _, hj, hkey⟩
    · rintro ⟨i, packet, hle, hpacket, hkey⟩
      obtain ⟨j, rfl⟩ := Nat.exists_eq_add_of_le hle
      rw [← List.getElem?_drop] at hpacket
      exact ⟨packet, List.mem_of_getElem? hpacket, hkey⟩
  get key := by
    rw [h.get_eq]
    exact lastWith_drop _ _ _

/-- A number that comes back is linked into the list a second time. -/
theorem Storage.Kept.not_consistent_store {s : Storage} {packet : List UInt8}
    (h : s.Kept packets (windowStart s.maxSize packets.length))
    (hlength : RtpHeader.sizeOf ≤ packet.length) (hold : seqNumberOf packet ∈ s.storage)
    (later : List (List UInt8)) : ¬(s.store packet).Consistent s.maxSize later := by
  rintro ⟨-, ⟨numbers, hlists, hnodup, -⟩, -⟩
  obtain ⟨hheap, holdest, hnewest, hstorage, hmaxSize⟩ := h.link packet
  -- no key is added, so that nothing is evicted
  have hstore : s.store packet = { s.link packet (seqNumberOf packet) with
      storage := s.storage.insertIfNew (seqNumberOf packet) packets.length } := by
    have hfits : ¬s.maxSize < (s.storage.insertIfNew (seqNumberOf packet) packets.length).size := by
      have hsize : s.storage.size = _ := h.size
      rw [Std.HashMap.size_insertIfNew, if_pos hold, hsize, windowStart]
      omega
    rw [h.store_eq hlength, Storage.evict]
    refine if_neg ?_
    rw [← hmaxSize] at hfits
    exact hfits
  obtain ⟨i, other, hfirst, hother, hnumber⟩ := (h.mem_storage_iff _).1 hold
  have hi := (List.getElem?_eq_some_iff.1 hother).1
  -- the list holds the window and the new element
  have hreaches := reaches_range' hheap
    (packets.length + 1 - windowStart s.maxSize packets.length)
    (windowStart s.maxSize packets.length) (by
      have := h.first_le
      rw [List.length_append, List.length_singleton]
      omega)
  rw [if_pos (by rw [List.length_append, List.length_singleton]; omega)] at hreaches
  have hle : windowStart s.maxSize packets.length ≤ (packets ++ [packet]).length := by
    have := h.first_le
    rw [List.length_append]
    omega
  have hnumbers := map_range'_heap hheap hle
    (f := Element.sequenceNumber) (g := seqNumberOf) fun i packet => rfl
  rw [hstore] at hlists
  obtain ⟨elements, hreaches', -, hmap⟩ := hlists
  obtain rfl := reaches_unique (holdest ▸ hreaches) hreaches'
  rw [List.length_append, List.length_singleton] at hnumbers
  obtain rfl := List.map_injective_iff.2 (Option.some_injective _) (hmap.symm.trans hnumbers)
  -- the number is in it twice
  rw [List.drop_append_of_le_length h.first_le, List.map_append, List.map_singleton] at hnodup
  refine List.disjoint_of_nodup_append hnodup (a := seqNumberOf packet) ?_
    (List.mem_singleton.2 rfl)
  obtain ⟨j, rfl⟩ := Nat.exists_eq_add_of_le hfirst
  rw [← List.getElem?_drop] at hother
  exact List.mem_map.2 ⟨other, List.mem_of_getElem? hother, hnumber⟩

/-- Where the two structures go together at all times, no number comes back. -/
theorem spaced_of_consistent (hmax : 1 ≤ maxSize)
    (h : ∀ before, before <+: packets →
      (Storage.storeAll maxSize before).Consistent maxSize before) :
    Spaced maxSize (stored packets) := by
  induction packets using List.reverseRecOn with
  | nil =>
    intro i j packet later _ _ hpacket
    cases hpacket
  | append_singleton packets packet ih =>
    have hbefore := ih fun before hpre => h before (hpre.trans (List.prefix_append _ _))
    by_cases hlength : RtpHeader.sizeOf ≤ packet.length
    · have hstored : stored (packets ++ [packet]) = stored packets ++ [packet] := by
        rw [stored, List.filter_append, List.filter_singleton, decide_eq_true hlength, cond_true]
        rfl
      obtain ⟨hkept, hmaxSize⟩ :=
        kept_storeAll hmax (fun _ hpacket => length_of_mem_stored hpacket) hbefore
      rw [hstored, spaced_append_iff]
      refine ⟨hbefore, fun i other hle hother hnumber => ?_⟩
      -- the state after this packet is one of those that are consistent
      have hconsistent := h (packets ++ [packet]) List.prefix_rfl
      rw [storeAll_stored, hstored, Storage.storeAll, List.foldl_concat] at hconsistent
      have hkept' : (Storage.storeAll maxSize (stored packets)).Kept (stored packets)
          (Storage.windowStart (Storage.storeAll maxSize (stored packets)).maxSize
            (stored packets).length) := by rwa [hmaxSize]
      have hold := (hkept.mem_storage_iff (seqNumberOf packet)).2
        ⟨i, other, by rw [Storage.windowStart]; omega, hother, hnumber⟩
      have hnot := hkept'.not_consistent_store hlength hold (packets ++ [packet])
      rw [hmaxSize] at hnot
      exact hnot hconsistent
    · have hstored : stored (packets ++ [packet]) = stored packets := by
        rw [stored, List.filter_append, List.filter_singleton, decide_eq_false hlength, cond_false,
          List.append_nil]
        rfl
      rw [hstored]
      exact hbefore

/-- What is stored of a part of the packets comes first. -/
theorem stored_prefix {before : List (List UInt8)} (h : before <+: packets) :
    stored before <+: stored packets := by
  obtain ⟨after, rfl⟩ := h
  exact ⟨stored after, (List.filter_append ..).symm⟩

/-- **Any numbers.** The list and the map go together at all times, with the last packet for each
number, exactly if no packet has the number of one of the `maxSize` packets stored before it. -/
theorem consistent_iff (hmax : 1 ≤ maxSize) :
    (∀ before, before <+: packets →
        (Storage.storeAll maxSize before).Consistent maxSize before) ↔
      Spaced maxSize (stored packets) := by
  constructor
  · exact spaced_of_consistent hmax
  · intro hspaced before hprefix
    obtain ⟨after, hafter⟩ := stored_prefix hprefix
    have hbefore : Spaced maxSize (stored before) := by
      intro i j packet later hlt hle hpacket hlater
      have hi := (List.getElem?_eq_some_iff.1 hpacket).1
      have hj := (List.getElem?_eq_some_iff.1 hlater).1
      refine hspaced i j packet later hlt hle ?_ ?_
      · rw [← hafter, List.getElem?_append_left hi]
        exact hpacket
      · rw [← hafter, List.getElem?_append_left hj]
        exact hlater
    obtain ⟨hkept, -⟩ :=
      kept_storeAll hmax (fun _ hpacket => length_of_mem_stored hpacket) hbefore
    rw [storeAll_stored]
    exact hkept.consistent

/-- A packet with only a header. -/
def bare (low last : UInt8) : List UInt8 := [0x80, 96, 0, low, 0, 0, 0, 0, 0, 0, 0, 1, last]

/-- Two packets with different numbers. -/
theorem consistent_two : Spaced 2 (stored [bare 1 0, bare 2 0]) ∧
    ∀ before, before <+: [bare 1 0, bare 2 0] →
      (Storage.storeAll 2 before).Consistent 2 before := by
  have hspaced : Spaced 2 (stored [bare 1 0, bare 2 0]) := by
    have hstored : stored [bare 1 0, bare 2 0] = [bare 1 0, bare 2 0] := by decide +kernel
    rw [hstored]
    intro i j packet later hlt _ hpacket hlater
    have hj := (List.getElem?_eq_some_iff.1 hlater).1
    rw [List.length_cons, List.length_singleton] at hj
    obtain ⟨rfl, rfl⟩ : i = 0 ∧ j = 1 := by omega
    obtain rfl := Option.some.inj hpacket
    obtain rfl := Option.some.inj hlater
    decide +kernel
  exact ⟨hspaced, (consistent_iff (by decide)).2 hspaced⟩

/-- A number that comes back in a store for two. -/
theorem not_consistent_twice :
    ¬∀ before, before <+: [bare 1 0, bare 1 7] →
      (Storage.storeAll 2 before).Consistent 2 before := by
  intro hconsistent
  have hspaced := spaced_of_consistent (by decide) hconsistent
  have hstored : stored [bare 1 0, bare 1 7] = [bare 1 0, bare 1 7] := by decide +kernel
  rw [hstored] at hspaced
  exact hspaced 0 1 (bare 1 0) (bare 1 7) (by decide) (by decide) rfl rfl (by decide +kernel)

end AnyNumbers

/-! ## With the packetizer -/

/-- The packets of a frame have consecutive sequence numbers. -/
theorem consecutive_packets (config : RtpPacketizationConfig) (fragments : List (List UInt8)) :
    Consecutive config.sequenceNumber (config.packets fragments) := by
  intro i h
  simp only [RtpPacketizationConfig.packets_eq_mapIdx, List.getElem_mapIdx]
  refine ⟨?_, ?_⟩
  · rw [RtpPacketizationConfig.length_packetize, RtpHeader.sizeOf]
    omega
  · rw [RtpPacketizationConfig.read_packetize, RtpPacketizationConfig.seqNumber_header]
    rfl

/-- Three packets, the numbers of which wrap, in a store for two. -/
theorem storeAll_window_wraps :
    let config : RtpPacketizationConfig :=
      { ssrc := 1, payloadType := 96, sequenceNumber := 65535, timestamp := 0 }
    let packets := config.packets [[1], [2], [3]]
    let window := packets.drop (packets.length - min packets.length 2)
    (∀ key, (Storage.storeAll 2 packets).get key = lastWith window key) ∧
      (Storage.storeAll 2 packets).Lists window :=
  storeAll_window (by decide) (by decide) (consecutive_packets _ _)

end RtcpNackResponder

end Rtc
