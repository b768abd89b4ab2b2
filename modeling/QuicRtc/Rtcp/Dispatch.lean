import QuicRtc.Message
import QuicRtc.Rtcp.Sdes

/-!
# Dispatching compound RTCP packets

`PeerConnection::dispatchMedia` splits a control message into its sub-packets and collects the SSRCs
of each, to find the tracks the message is for. It checks the declared length of a sub-packet
against the rest of the message, but not that the fields it reads are inside the declared length.

`SubPackets` is the split without the loop, and `FieldsInside` says for a sub-packet that what is
read of it is inside the message. The main result is `dispatchMedia_safe_iff`.
-/

namespace Rtc

namespace PeerConnection

/-- The members of `PeerConnection` that `dispatchMedia` uses. A `weak_ptr` that has expired is
`none`. -/
structure TrackTable (Track : Type) where
  mTrackLines : List (Option Track)
  mTracksBySsrc : List (UInt32 × Option Track)

/-- The track that `mTracksBySsrc` has for an SSRC, if it is still there. -/
def TrackTable.find {Track : Type} (s : TrackTable Track) (ssrc : UInt32) : List Track :=
  ((s.mTracksBySsrc.lookup ssrc).bind id).toList

/-- `std::set::insert`. -/
def insertSsrc (ssrcs : List UInt32) (ssrc : UInt32) : List UInt32 :=
  if ssrc ∈ ssrcs then ssrcs else ssrcs.orderedInsert (· ≤ ·) ssrc

/-- The SSRCs of `count` report blocks of 24 bytes, the first one at `reportBlocks`. -/
def reportBlockSsrcs (packet : List UInt8) (reportBlocks count : ℕ) :
    Except Fault (List UInt32) :=
  (List.range count).mapM fun i => readSsrc packet (reportBlocks + 24 * i)

/-- The loop over the chunks of a valid SDES packet. -/
def chunkSsrcsLoop (packet : List UInt8) : ℕ → ℕ → List UInt32 → Except Fault (List UInt32)
  | 0, _, _ => .error .outOfFuel
  | fuel + 1, i, ssrcs => do
    if i < (← RtcpSdes.chunksCount packet) then
      let chunk ← RtcpSdes.getChunk packet i
      let ssrc ← RtcpSdesChunk.ssrc packet chunk
      chunkSsrcsLoop packet fuel (i + 1) (ssrcs ++ [ssrc])
    else return ssrcs

/-- The SSRCs that are collected of a sub-packet. `packet` goes to the end of the message. -/
def subPacketSsrcs (header : RtcpHeader) (packet : List UInt8) : Except Fault (List UInt32) := do
  if header.payloadType = 205 ∨ header.payloadType = 206 then
    let packetSenderSsrc ← readSsrc packet 4
    let mediaSourceSsrc ← readSsrc packet 8
    return [packetSenderSsrc, mediaSourceSsrc]
  else if header.payloadType = 200 then
    let senderSsrc ← readSsrc packet 4
    return senderSsrc :: (← reportBlockSsrcs packet 28 header.reportCount)
  else if header.payloadType = 201 then
    let senderSsrc ← readSsrc packet 4
    return senderSsrc :: (← reportBlockSsrcs packet 8 header.reportCount)
  else if header.payloadType = 202 then
    if ← RtcpSdes.isValid packet then chunkSsrcsLoop packet (packet.length + 1) 0 []
    else return []
  else return []

/-- The loop over the sub-packets: the SSRCs, and the offsets that it visits. -/
def dispatchLoop (data : List UInt8) :
    ℕ → ℕ → List UInt32 → List ℕ → Except Fault (List UInt32 × List ℕ)
  | 0, _, _, _ => .error .outOfFuel
  | fuel + 1, offset, ssrcs, visited => do
    if RtcpHeader.sizeOf + offset ≤ data.length then
      let header ← RtcpHeader.read (data.drop offset)
      -- a sub-packet that is truncated ends the loop
      if data.length - offset < header.lengthInBytes then return (ssrcs, visited)
      else
        let found ← subPacketSsrcs header (data.drop offset)
        dispatchLoop data fuel (offset + header.lengthInBytes) (found.foldl insertSsrc ssrcs)
          (visited ++ [offset])
    else return (ssrcs, visited)

/-- What `dispatchMedia` did: the tracks the message was given to, and the offsets of the
sub-packets that were visited. -/
structure Dispatched (Track : Type) where
  tracks : List Track
  visited : List ℕ

/-- `PeerConnection::dispatchMedia`. -/
def dispatchMedia {Track : Type} (s : TrackTable Track) (message : Message) :
    Except Fault (Dispatched Track) := do
  let byStream := s.find (UInt32.ofNat message.stream)
  match s.mTrackLines with
  | [track] => return ⟨track.toList, []⟩
  | _ =>
    if message.type = .control then
      let (ssrcs, visited) ← dispatchLoop message.data (message.data.length + 1) 0 [] []
      return ⟨if ssrcs = [] then byStream else ssrcs.flatMap s.find, visited⟩
    else return ⟨byStream, []⟩

/-! ## The sub-packets -/

/-- The sub-packets of a message from an offset on, with their offsets. -/
inductive SubPackets (data : List UInt8) : ℕ → List (ℕ × RtcpHeader) → Prop where
  | nil {offset : ℕ} (short : data.length < RtcpHeader.sizeOf + offset) : SubPackets data offset []
  | truncated {offset : ℕ} {header : RtcpHeader}
      (read : RtcpHeader.read (data.drop offset) = .ok header)
      (long : data.length - offset < header.lengthInBytes) : SubPackets data offset []
  | cons {offset : ℕ} {header : RtcpHeader} {rest : List (ℕ × RtcpHeader)}
      (read : RtcpHeader.read (data.drop offset) = .ok header)
      (fits : header.lengthInBytes ≤ data.length - offset)
      (tail : SubPackets data (offset + header.lengthInBytes) rest) :
      SubPackets data offset ((offset, header) :: rest)

/-- The fields of a sub-packet are inside the message, of which `packet` is the rest. -/
def FieldsInside (header : RtcpHeader) (packet : List UInt8) : Prop :=
  if header.payloadType = 205 ∨ header.payloadType = 206 then 12 ≤ packet.length
  else if header.payloadType = 200 then
    8 ≤ packet.length ∧ ∀ i ∈ List.range header.reportCount, 28 + 24 * i + 4 ≤ packet.length
  else if header.payloadType = 201 then
    8 ≤ packet.length ∧ ∀ i ∈ List.range header.reportCount, 8 + 24 * i + 4 ≤ packet.length
  else if header.payloadType = 202 then ¬Overruns (4 * header.length.toNat) (packet.drop 4)
  else True

/-! ## Reading a sub-packet -/

/-- The reads are inside if, and only if, the condition holds. -/
structure ReadsIff {α : Type} (result : Except Fault α) (inside : Prop) : Prop where
  ok : inside → ∃ a, result = .ok a
  outside : ¬inside → result = .error .outside

namespace ReadsIff

variable {α β : Type} {result : Except Fault α} {p q : Prop}

theorem pure (a : α) : ReadsIff (.ok a) True where
  ok := fun _ => ⟨a, rfl⟩
  outside := fun h => absurd trivial h

theorem congr (h : ReadsIff result p) (hiff : q ↔ p) : ReadsIff result q :=
  propext hiff ▸ h

/-- One read after the other. -/
theorem bind {f : α → Except Fault β} (h : ReadsIff result p)
    (hf : ∀ a, result = .ok a → ReadsIff (f a) q) : ReadsIff (result.bind f) (p ∧ q) where
  ok := by
    rintro ⟨hp, hq⟩
    obtain ⟨a, ha⟩ := h.ok hp
    rw [ha]
    exact (hf a ha).ok hq
  outside := by
    intro hnot
    by_cases hp : p
    · obtain ⟨a, ha⟩ := h.ok hp
      rw [ha]
      exact (hf a ha).outside fun hq => hnot ⟨hp, hq⟩
    · rw [h.outside hp]
      rfl

/-- A result that is only rearranged. -/
theorem map (h : ReadsIff result p) (f : α → β) : ReadsIff (result.bind fun a => .ok (f a)) p :=
  (h.bind fun a _ => pure (f a)).congr (and_true p).symm.to_iff

/-- The reads of a list. -/
theorem mapM {f : α → Except Fault β} {inside : α → Prop} (hf : ∀ a, ReadsIff (f a) (inside a))
    (l : List α) : ReadsIff (l.mapM f) (∀ a ∈ l, inside a) := by
  induction l with
  | nil => exact (pure []).congr (by simp)
  | cons a l ih =>
    rw [List.mapM_cons]
    exact ((hf a).bind fun b _ => ih.map (b :: ·)).congr (List.forall_mem_cons)

end ReadsIff

theorem readsIff_readSsrc (packet : List UInt8) (i : ℕ) :
    ReadsIff (readSsrc packet i) (i + 4 ≤ packet.length) where
  ok := fun h => ⟨_, if_pos h⟩
  outside := fun h => if_neg h

theorem readsIff_reportBlockSsrcs (packet : List UInt8) (reportBlocks count : ℕ) :
    ReadsIff (reportBlockSsrcs packet reportBlocks count)
      (∀ i ∈ List.range count, reportBlocks + 24 * i + 4 ≤ packet.length) :=
  ReadsIff.mapM (fun i => readsIff_readSsrc packet (reportBlocks + 24 * i)) _

/-- The sender and the report blocks of a report. -/
theorem readsIff_report (packet : List UInt8) (reportBlocks count : ℕ) :
    ReadsIff ((readSsrc packet 4).bind fun senderSsrc =>
        (reportBlockSsrcs packet reportBlocks count).bind fun ssrcs => .ok (senderSsrc :: ssrcs))
      (8 ≤ packet.length ∧
        ∀ i ∈ List.range count, reportBlocks + 24 * i + 4 ≤ packet.length) :=
  (readsIff_readSsrc packet 4).bind fun senderSsrc _ =>
    (readsIff_reportBlockSsrcs packet reportBlocks count).map (senderSsrc :: ·)

/-! ## Reading an SDES packet -/

section Sdes

variable {header : RtcpHeader} {packet : List UInt8} {chunks : List (List UInt8)}

/-- The loop over the chunks of a valid packet. -/
theorem chunkSsrcsLoop_of_chunks (hheader : RtcpHeader.read packet = .ok header)
    (hfits : header.lengthInBytes ≤ packet.length)
    (h : Chunks (4 * header.length.toNat) (packet.drop 4) chunks) :
    ∀ {fuel i : ℕ} {ssrcs : List UInt32}, chunks.length - i < fuel →
      ∃ ssrcs', chunkSsrcsLoop packet fuel i ssrcs = .ok ssrcs' := by
  have hcount := RtcpSdes.chunksCount_eq hheader hfits h
  have hin : RtcpHeader.sizeOf + 4 * header.length.toNat ≤ packet.length := by
    rw [RtcpHeader.lengthInBytes] at hfits
    rw [RtcpHeader.sizeOf]
    omega
  intro fuel
  -- each round takes one of the chunks that `isValid` walked over
  induction fuel with
  | zero =>
    intro i ssrcs hfuel
    exact absurd hfuel (Nat.not_lt_zero _)
  | succ fuel ih =>
    intro i ssrcs hfuel
    rw [chunkSsrcsLoop, hcount]
    show ∃ ssrcs', (if i < _ then _ else _) = Except.ok ssrcs'
    split
    · next hlt =>
      have hi := hlt.trans_le (RtcpSdes.countUntil_le _ _)
      obtain ⟨chunk, hchunk, hinside, -⟩ :=
        RtcpSdes.getChunk_of_chunks h (i := 0) rfl rfl hin i hi
      rw [Nat.zero_add] at hchunk
      have hfour := RtcpSdesChunk.four_le_sizeWith chunks[i]
      obtain ⟨ssrc, hssrc⟩ := (readsIff_readSsrc packet chunk).ok (by omega)
      obtain ⟨ssrcs', hloop⟩ := ih (i := i + 1) (by omega)
      refine ⟨ssrcs', ?_⟩
      rw [hchunk]
      show (readSsrc packet chunk).bind _ = _
      rw [hssrc]
      exact hloop
    · exact ⟨ssrcs, rfl⟩

/-- Only items that run out of the message are read outside. -/
theorem readsIff_sdes (hheader : RtcpHeader.read packet = .ok header)
    (hfits : header.lengthInBytes ≤ packet.length) :
    ReadsIff ((RtcpSdes.isValid packet).bind fun valid =>
        if valid then chunkSsrcsLoop packet (packet.length + 1) 0 [] else .ok [])
      (¬Overruns (4 * header.length.toNat) (packet.drop 4)) := by
  have hfuel : 4 * header.length.toNat < packet.length + 1 := by
    rw [RtcpHeader.lengthInBytes] at hfits
    omega
  rw [RtcpSdes.isValid_eq hheader]
  constructor
  · intro hover
    rcases chunks_cases (4 * header.length.toNat) (packet.drop 4) with
      ⟨chunks, hchunks⟩ | hrejected | hover'
    · have hlength := RtcpSdes.length_le_of_chunks hchunks
      rw [RtcpSdes.isValidLoop_of_chunks hchunks (i := 0) (by omega) hfuel rfl rfl]
      exact chunkSsrcsLoop_of_chunks hheader hfits hchunks (by omega)
    · rw [RtcpSdes.isValidLoop_of_rejected hrejected (i := 0) (by omega) hfuel rfl rfl]
      exact ⟨[], rfl⟩
    · exact absurd hover' hover
  · intro hover
    rw [RtcpSdes.isValidLoop_of_overruns (not_not.1 hover) (i := 0) (by omega) hfuel rfl rfl]
    rfl

end Sdes

/-- What is read of a sub-packet. -/
theorem readsIff_subPacketSsrcs {header : RtcpHeader} {packet : List UInt8}
    (hheader : RtcpHeader.read packet = .ok header)
    (hfits : header.lengthInBytes ≤ packet.length) :
    ReadsIff (subPacketSsrcs header packet) (FieldsInside header packet) := by
  rw [subPacketSsrcs, FieldsInside]
  split
  · refine ((readsIff_readSsrc packet 4).bind fun sender _ =>
      (readsIff_readSsrc packet 8).map ([sender, ·])).congr ?_
    omega
  split
  · exact readsIff_report packet 28 header.reportCount
  split
  · exact readsIff_report packet 8 header.reportCount
  split
  · exact readsIff_sdes hheader hfits
  · exact ReadsIff.pure []

/-! ## The loop -/

section Loop

variable {data : List UInt8} {offset : ℕ} {packets : List (ℕ × RtcpHeader)}

/-- A message can be split from every offset. -/
theorem exists_subPackets (data : List UInt8) (offset : ℕ) :
    ∃ packets, SubPackets data offset packets := by
  induction hleft : data.length - offset using Nat.strong_induction_on generalizing offset with
  | _ left ih =>
    by_cases hshort : data.length < RtcpHeader.sizeOf + offset
    · exact ⟨[], .nil hshort⟩
    · have hsize : RtcpHeader.sizeOf ≤ (data.drop offset).length := by
        rw [List.length_drop]
        omega
      obtain ⟨header, hheader⟩ := RtcpHeader.exists_read hsize
      by_cases hlong : data.length - offset < header.lengthInBytes
      · exact ⟨[], .truncated hheader hlong⟩
      · rw [RtcpHeader.sizeOf] at hshort
        have hlength : 4 ≤ header.lengthInBytes := by
          rw [RtcpHeader.lengthInBytes]
          omega
        obtain ⟨rest, hrest⟩ := ih _ (by omega) (offset + header.lengthInBytes) rfl
        exact ⟨_, .cons hheader (not_lt.1 hlong) hrest⟩

/-- A sub-packet has its own offset. -/
theorem subPackets_increasing (h : SubPackets data offset packets) :
    (packets.map Prod.fst).Pairwise (· < ·) ∧ ∀ packet ∈ packets, offset ≤ packet.1 := by
  induction h with
  | nil => exact ⟨.nil, by simp⟩
  | truncated => exact ⟨.nil, by simp⟩
  | @cons offset header rest _ _ _ ih =>
    obtain ⟨hpairwise, hle⟩ := ih
    have hlength : 4 ≤ header.lengthInBytes := by
      rw [RtcpHeader.lengthInBytes]
      omega
    refine ⟨?_, ?_⟩
    · rw [List.map_cons, List.pairwise_cons]
      refine ⟨fun later hlater => ?_, hpairwise⟩
      obtain ⟨packet, hpacket, rfl⟩ := List.mem_map.1 hlater
      have := hle packet hpacket
      show offset < packet.1
      omega
    · rintro packet (_ | ⟨_, hpacket⟩)
      · exact le_rfl
      · have := hle packet hpacket
        omega

/-- The loop visits the sub-packets, and reads outside if the fields of one are. -/
theorem readsIff_dispatchLoop (h : SubPackets data offset packets) :
    ∀ {fuel : ℕ} {ssrcs : List UInt32} {visited : List ℕ}, data.length - offset < fuel →
      ReadsIff (dispatchLoop data fuel offset ssrcs visited)
        (∀ packet ∈ packets, FieldsInside packet.2 (data.drop packet.1)) ∧
      ∀ result, dispatchLoop data fuel offset ssrcs visited = .ok result →
        result.2 = visited ++ packets.map Prod.fst := by
  induction h with
  | @nil offset hshort =>
    intro fuel ssrcs visited hfuel
    obtain ⟨fuel, rfl⟩ := Nat.exists_eq_add_one_of_ne_zero (Nat.ne_zero_of_lt hfuel)
    rw [dispatchLoop, if_neg (by omega)]
    refine ⟨(ReadsIff.pure (ssrcs, visited)).congr (by simp), fun result hresult => ?_⟩
    rw [← Except.ok.inj hresult, List.map_nil, List.append_nil]
  | @truncated offset header hread hlong =>
    -- the header is read, and its length ends the loop
    intro fuel ssrcs visited hfuel
    obtain ⟨fuel, rfl⟩ := Nat.exists_eq_add_one_of_ne_zero (Nat.ne_zero_of_lt hfuel)
    have hloop : dispatchLoop data (fuel + 1) offset ssrcs visited = .ok (ssrcs, visited) := by
      rw [dispatchLoop, hread]
      split
      · exact if_pos hlong
      · rfl
    rw [hloop]
    refine ⟨(ReadsIff.pure (ssrcs, visited)).congr (by simp), fun result hresult => ?_⟩
    rw [← Except.ok.inj hresult, List.map_nil, List.append_nil]
  | @cons offset header rest hread hfits _ ih =>
    intro fuel ssrcs visited hfuel
    obtain ⟨fuel, rfl⟩ := Nat.exists_eq_add_one_of_ne_zero (Nat.ne_zero_of_lt hfuel)
    have hlength : 4 ≤ header.lengthInBytes := by
      rw [RtcpHeader.lengthInBytes]
      omega
    have hloop : dispatchLoop data (fuel + 1) offset ssrcs visited =
        (subPacketSsrcs header (data.drop offset)).bind fun found =>
          dispatchLoop data fuel (offset + header.lengthInBytes) (found.foldl insertSsrc ssrcs)
            (visited ++ [offset]) := by
      rw [dispatchLoop, if_pos (by rw [RtcpHeader.sizeOf]; omega), hread]
      exact if_neg (not_lt.2 hfits)
    have hpacket := readsIff_subPacketSsrcs hread (by rw [List.length_drop]; exact hfits)
    rw [hloop]
    refine ⟨(hpacket.bind fun found _ => (ih (by omega)).1).congr List.forall_mem_cons,
      fun result hresult => ?_⟩
    cases hfound : subPacketSsrcs header (data.drop offset) with
    | error fault =>
      rw [hfound] at hresult
      cases hresult
    | ok found =>
      rw [hfound] at hresult
      rw [(ih (by omega)).2 result hresult, List.map_cons, List.append_assoc, List.singleton_append]

end Loop

/-! ## Dispatching is safe -/

/-- The compound-packet loop is run. -/
def Splits {Track : Type} (s : TrackTable Track) (message : Message) : Prop :=
  s.mTrackLines.length ≠ 1 ∧ message.type = .control

/-- `dispatchMedia` reads inside the message and ends, and its loop visits each sub-packet once. -/
def DispatchSafe {Track : Type} (s : TrackTable Track) (message : Message) : Prop :=
  ∃ result, dispatchMedia s message = .ok result ∧ result.visited.Pairwise (· < ·) ∧
    (Splits s message → ∀ packets, SubPackets message.data 0 packets →
      result.visited = packets.map Prod.fst)

section Safe

variable {Track : Type} {s : TrackTable Track} {message : Message}

/-- Without the loop nothing is read. -/
theorem dispatchMedia_of_not_splits (h : ¬Splits s message) :
    ∃ tracks, dispatchMedia s message = .ok ⟨tracks, []⟩ := by
  unfold dispatchMedia
  split
  · exact ⟨_, rfl⟩
  · next hlines =>
    rw [if_neg]
    · exact ⟨_, rfl⟩
    · intro htype
      refine h ⟨fun hone => ?_, htype⟩
      obtain ⟨track, htrack⟩ := List.length_eq_one_iff.1 hone
      exact hlines track htrack

theorem dispatchMedia_of_splits (h : Splits s message) :
    ∃ deliver : List UInt32 → List Track, dispatchMedia s message =
      (dispatchLoop message.data (message.data.length + 1) 0 [] []).bind fun found =>
        .ok ⟨deliver found.1, found.2⟩ := by
  unfold dispatchMedia
  split
  · next hlines => exact absurd (by rw [hlines]; rfl) h.1
  · rw [if_pos h.2]
    exact ⟨fun ssrcs => if ssrcs = [] then s.find (UInt32.ofNat message.stream)
      else ssrcs.flatMap s.find, rfl⟩

/-- **Dispatching RTCP.** The reads are inside the message exactly if the fields of each sub-packet
are. -/
theorem dispatchMedia_safe_iff :
    DispatchSafe s message ↔ (Splits s message → ∀ packets, SubPackets message.data 0 packets →
      ∀ packet ∈ packets, FieldsInside packet.2 (message.data.drop packet.1)) := by
  by_cases hsplits : Splits s message
  · obtain ⟨deliver, hdispatch⟩ := dispatchMedia_of_splits hsplits
    have hfuel : message.data.length - 0 < message.data.length + 1 := by omega
    have hloop := fun packets (h : SubPackets message.data 0 packets) =>
      @readsIff_dispatchLoop _ _ _ h (message.data.length + 1) [] [] hfuel
    constructor
    · rintro ⟨result, hresult, -, -⟩ - packets hpackets
      by_contra hfields
      rw [hdispatch, (hloop packets hpackets).1.outside hfields] at hresult
      exact absurd hresult nofun
    · intro hfields
      obtain ⟨packets, hpackets⟩ := exists_subPackets message.data 0
      obtain ⟨found, hfound⟩ := (hloop packets hpackets).1.ok (hfields hsplits packets hpackets)
      have hvisited := (hloop packets hpackets).2 found hfound
      rw [List.nil_append] at hvisited
      refine ⟨⟨deliver found.1, found.2⟩, by rw [hdispatch, hfound]; rfl, ?_, ?_⟩
      · show found.2.Pairwise _
        rw [hvisited]
        exact (subPackets_increasing hpackets).1
      · intro _ packets' hpackets'
        have hvisited' := (hloop packets' hpackets').2 found hfound
        rwa [List.nil_append] at hvisited'
  · obtain ⟨tracks, hdispatch⟩ := dispatchMedia_of_not_splits hsplits
    exact ⟨fun _ h => absurd h hsplits,
      fun _ => ⟨⟨tracks, []⟩, hdispatch, .nil, fun h => absurd h hsplits⟩⟩

/-- A feedback packet that is only a header. -/
theorem dispatchMedia_reads_outside :
    ¬∀ (s : TrackTable Unit) (message : Message), DispatchSafe s message := by
  intro hall
  obtain ⟨result, hresult, -⟩ :=
    hall ⟨[some (), some ()], []⟩ ⟨[0x80, 205, 0, 0], .control, 0, none⟩
  have houtside : dispatchMedia (⟨[some (), some ()], []⟩ : TrackTable Unit)
      ⟨[0x80, 205, 0, 0], .control, 0, none⟩ = .error .outside := rfl
  exact absurd (houtside.symm.trans hresult) nofun

end Safe

end PeerConnection

end Rtc
