import Mathlib.Algebra.Order.BigOperators.Group.List
import Mathlib.Logic.Relation
import QuicRtc.Rtcp.MissingPackets
import QuicRtc.Rtcp.Remb

/-!
# Recovering lost packets

A sender with `RtcpNackResponder` in its chain, a receiver that asks for packets with messages built
by `RtcpNack`, and a network between them that loses, repeats and reorders whatever it carries.

`incoming_requests` is the meeting of the two ends: the responder reads from a message just the
fields that `addMissingPacket` has put there. With the store of `NackResponder` it gives the main
result, `loss_recovery`: in every state that is reached nothing but sent packets arrive and no
answer reads outside a message, and while no number has come back within the window, a request leads
to the packets of the window with the missing numbers, each of them once.
-/

namespace Rtc

/-! ## The message -/

namespace RtcpNackPart

/-- A field as laid out in the packet. -/
def toBytes (part : RtcpNackPart) : List UInt8 :=
  BigEndian.encode 2 part.pid.toNat ++ BigEndian.encode 2 part.blp.toNat

@[simp]
theorem length_toBytes (part : RtcpNackPart) : part.toBytes.length = 4 := rfl

theorem ofBytes_toBytes_append (part : RtcpNackPart) (rest : List UInt8) :
    ofBytes (part.toBytes ++ rest) 0 = part := by
  have hpid : BigEndian.decode ((part.toBytes ++ rest).take 2) = part.pid.toNat := by
    rw [toBytes, List.append_assoc]
    exact BigEndian.decode_take_encode_append part.pid.toNat_lt _
  have hblp : BigEndian.decode (((part.toBytes ++ rest).drop 2).take 2) = part.blp.toNat := by
    rw [toBytes, List.append_assoc, List.drop_left' (BigEndian.length_encode 2 _)]
    exact BigEndian.decode_take_encode_append part.blp.toNat_lt _
  show RtcpNackPart.mk _ _ = part
  rw [List.drop_zero, hpid, hblp, UInt16.ofNat_toNat, UInt16.ofNat_toNat]

/-- A field behind a part of the buffer. -/
theorem ofBytes_append (front rest : List UInt8) (i : ℕ) :
    ofBytes (front ++ rest) (front.length + i) = ofBytes rest i := by
  rw [ofBytes, ofBytes, Nat.add_assoc, List.drop_length_add_append, List.drop_length_add_append]

/-- The field at an index, by induction on the fields before it. -/
theorem ofBytes_flatMap {fields : List RtcpNackPart} {i : ℕ} (hi : i < fields.length) :
    ofBytes (fields.flatMap toBytes) (4 * i) = fields[i] := by
  induction fields generalizing i with
  | nil => exact absurd hi (Nat.not_lt_zero i)
  | cons part fields ih =>
    rw [List.flatMap_cons]
    cases i with
    | zero => exact ofBytes_toBytes_append part _
    | succ i =>
      have hoffset : 4 * (i + 1) = part.toBytes.length + 4 * i := by
        rw [length_toBytes]
        omega
      rw [hoffset, ofBytes_append]
      exact ih (Nat.lt_of_succ_lt_succ hi)

end RtcpNackPart

/-- The header of a feedback message as laid out in the packet. -/
def RtcpFbHeader.toBytes (h : RtcpFbHeader) : List UInt8 :=
  h.header.toBytes ++ BigEndian.encode 4 h.packetSender.toNat ++
    BigEndian.encode 4 h.mediaSource.toNat

namespace RtcpNack

/-- `RtcpNack::Size`. -/
def size (discreteSeqNoCount : ℕ) : ℕ := parts + 4 * discreteSeqNoCount

/-- `RtcpNack::preparePacket`. The count is converted to 16 bits. -/
def preparePacket (ssrc : UInt32) (discreteSeqNoCount : ℕ) : RtcpFbHeader where
  header := RtcpHeader.prepareHeader 205 1 (2 + UInt16.ofNat discreteSeqNoCount)
  packetSender := ssrc
  mediaSource := ssrc

/-- A packet with fields as laid out in the buffer. -/
def toBytes (ssrc : UInt32) (fields : List RtcpNackPart) : List UInt8 :=
  (preparePacket ssrc fields.length).toBytes ++ fields.flatMap RtcpNackPart.toBytes

/-- The message that asks for packets: a call of `addMissingPacket` for each of them, and
`preparePacket` for the fields that these fill. The memory of the fields and the last argument are
not initialized. -/
def request (ssrc : UInt32) (memory : ℕ → RtcpNackPart) (fciPID : UInt16)
    (missing : List UInt16) : Option Message := do
  let (_, final) ← addMissingPackets ⟨memory, 0, fciPID⟩ missing
  return { data := toBytes ssrc final.fields, type := .control }

section Layout

variable {ssrc : UInt32} {fields : List RtcpNackPart}

theorem length_toBytes : (toBytes ssrc fields).length = size fields.length := by
  have hfields : (fields.flatMap RtcpNackPart.toBytes).length = 4 * fields.length := by
    induction fields with
    | nil => rfl
    | cons part fields ih =>
      rw [List.flatMap_cons, List.length_append, ih, RtcpNackPart.length_toBytes,
        List.length_cons]
      omega
  rw [toBytes, List.length_append, hfields]
  rfl

/-- With at most 65533 fields the length in the header does not wrap. -/
theorem length_header (hmany : fields.length ≤ 65533) :
    (preparePacket ssrc fields.length).header.length.toNat = 2 + fields.length := by
  show (2 + UInt16.ofNat fields.length).toNat = _
  rw [UInt16.toNat_add, UInt16.toNat_ofNat']
  show (2 + fields.length % 2 ^ 16) % 2 ^ 16 = _
  omega

theorem read_toBytes : RtcpHeader.read (toBytes ssrc fields) =
    .ok (preparePacket ssrc fields.length).header := by
  rw [toBytes, RtcpFbHeader.toBytes, List.append_assoc, List.append_assoc]
  exact RtcpHeader.read_toBytes_append _ _

/-- The fields are read back. -/
theorem fields_toBytes : RtcpNackResponder.fields (toBytes ssrc fields) fields.length = fields := by
  unfold RtcpNackResponder.fields
  apply List.ext_getElem
  · rw [List.length_map, List.length_range']
  · intro i hi hi'
    rw [List.getElem_map, List.getElem_range', Nat.zero_add, Nat.one_mul]
    have hheader : (preparePacket ssrc fields.length).toBytes.length = parts := rfl
    rw [toBytes, ← hheader, RtcpNackPart.ofBytes_append]
    exact RtcpNackPart.ofBytes_flatMap hi'

end Layout

/-- There are at most as many fields as sequence numbers. -/
theorem Fci.length_fields_le (s : Fci) : s.fields.length ≤ s.sequenceNumbers.length := by
  have hpositive : ∀ n ∈ s.fields.map (fun part => part.getSequenceNumbers.length), 1 ≤ n := by
    intro n hn
    obtain ⟨part, -, rfl⟩ := List.mem_map.1 hn
    exact Nat.le_add_left 1 _
  have hsum := List.length_le_sum_of_one_le _ hpositive
  rwa [List.length_map, ← List.length_flatMap] at hsum

/-- A message for distinct numbers is built, and its fields stand for them. -/
theorem request_eq (ssrc : UInt32) (memory : ℕ → RtcpNackPart) (fciPID : UInt16)
    {missing : List UInt16} (hnodup : missing.Nodup) :
    ∃ fields : List RtcpNackPart, fields.length ≤ missing.length ∧
      (fields.flatMap RtcpNackPart.encoded).Perm missing ∧
      request ssrc memory fciPID missing =
        some { data := toBytes ssrc fields, type := .control } := by
  have hempty : Fci.Packed [] ⟨memory, 0, fciPID⟩ := ⟨.refl _, fun n hn => absurd hn (by simp)⟩
  have hnodup' : ([] ++ missing).Nodup := hnodup
  obtain ⟨grown, final, hcalls, hpacked, -⟩ := hempty.addMissingPackets hnodup'
  have hperm : final.sequenceNumbers.Perm missing := hpacked.perm
  refine ⟨final.fields, final.length_fields_le.trans_eq hperm.length_eq, ?_, ?_⟩
  · have hencoded : RtcpNackPart.getSequenceNumbers = RtcpNackPart.encoded :=
      funext RtcpNackPart.getSequenceNumbers_eq
    rw [← hencoded]
    exact hperm
  · rw [request, hcalls]
    rfl

end RtcpNack

/-! ## The answer -/

namespace RtcpNackResponder

open RtcpNack

/-- A message that a receiver has built. -/
def IsRequest (message : Message) : Prop :=
  ∃ ssrc fields, fields.length ≤ 65533 ∧
    message = { data := RtcpNack.toBytes ssrc fields, type := .control }

/-- The numbers that the fields of a message stand for are those that are looked up. -/
theorem incomingLoop_toBytes (s : Storage) (ssrc : UInt32) {fields : List RtcpNackPart}
    (hmany : fields.length ≤ 65533) :
    incomingLoop s (RtcpNack.toBytes ssrc fields)
        ((RtcpNack.toBytes ssrc fields).length + 1) 0 =
      .ok ((fields.flatMap RtcpNackPart.encoded).filterMap s.get) := by
  have hlength : (preparePacket ssrc fields.length).header.length.toNat = 2 + fields.length :=
    length_header hmany
  have hwhole : (preparePacket ssrc fields.length).header.lengthInBytes =
      (RtcpNack.toBytes ssrc fields).length := by
    rw [RtcpHeader.lengthInBytes, hlength, length_toBytes, size, parts]
    omega
  -- the message is one sub-packet
  have hend : PeerConnection.SubPackets (RtcpNack.toBytes ssrc fields)
      (0 + (preparePacket ssrc fields.length).header.lengthInBytes) [] := by
    apply PeerConnection.SubPackets.nil
    rw [hwhole, RtcpHeader.sizeOf]
    omega
  have hsplit : PeerConnection.SubPackets (RtcpNack.toBytes ssrc fields) 0
      [(0, (preparePacket ssrc fields.length).header)] :=
    .cons (by rw [List.drop_zero]; exact read_toBytes) (by rw [hwhole]; exact le_rfl) hend
  have hnack : IsNack (preparePacket ssrc fields.length).header := by
    refine ⟨rfl, ?_⟩
    show ((((0x80 : UInt8) &&& 0xE0) ||| (1 &&& 0x1F)) &&& 0x1F).toNat = 1
    decide
  have hrequests : subPacketRequests s (RtcpNack.toBytes ssrc fields)
      (0, (preparePacket ssrc fields.length).header) =
        (fields.flatMap RtcpNackPart.encoded).filterMap s.get := by
    rw [subPacketRequests, nacked, if_pos hnack, List.drop_zero, hlength, Nat.add_sub_cancel_left,
      fields_toBytes]
  rw [incomingLoop_eq hsplit (by omega)]
  refine collect_cons_eq_ok_iff.2 ⟨_, [], subPacketSends_of_two_le ?_ ?_, rfl, ?_⟩
  · rw [Nat.zero_add, hwhole]
  · rw [hlength]
    exact Nat.le_add_right 2 _
  · rw [List.append_nil, hrequests]

/-- **The two ends.** The responder reads inside the messages that receivers have built, and looks
up numbers only. -/
theorem incoming_requests (s : Storage) {messages : List Message}
    (h : ∀ message ∈ messages, IsRequest message) :
    ∃ numbers : List UInt16, incoming s messages = .ok (numbers.filterMap s.get) := by
  induction messages with
  | nil => exact ⟨[], rfl⟩
  | cons message messages ih =>
    obtain ⟨⟨ssrc, fields, hmany, rfl⟩, hrest⟩ := List.forall_mem_cons.1 h
    obtain ⟨numbers, hnumbers⟩ := ih hrest
    refine ⟨fields.flatMap RtcpNackPart.encoded ++ numbers, ?_⟩
    refine collect_cons_eq_ok_iff.2 ⟨_, _, ?_, hnumbers, List.filterMap_append.symm⟩
    rw [if_neg (fun hne => hne rfl)]
    exact incomingLoop_toBytes s ssrc hmany

/-- The answer to one message. -/
theorem incoming_request (s : Storage) (ssrc : UInt32) {fields : List RtcpNackPart}
    (hmany : fields.length ≤ 65533) :
    incoming s [{ data := RtcpNack.toBytes ssrc fields, type := .control }] =
      .ok ((fields.flatMap RtcpNackPart.encoded).filterMap s.get) := by
  refine collect_cons_eq_ok_iff.2 ⟨_, [], ?_, rfl, List.append_nil _⟩
  rw [if_neg (fun hne => hne rfl)]
  exact incomingLoop_toBytes s ssrc hmany

/-! ## The store -/

/-- The media packets of messages. -/
def mediaPackets (messages : List Message) : List (List UInt8) :=
  (messages.filter fun message => message.type ≠ .control).map Message.data

/-- `RtcpNackResponder::outgoing`. The messages are passed on as they are. -/
def outgoing (s : Storage) (messages : List Message) : Storage :=
  messages.foldl
    (fun s message => if message.type ≠ .control then s.store message.data else s) s

theorem mediaPackets_cons (message : Message) (messages : List Message) :
    mediaPackets (message :: messages) =
      if message.type ≠ .control then message.data :: mediaPackets messages
      else mediaPackets messages := by
  unfold mediaPackets
  by_cases htype : message.type = .control <;> simp [htype]

theorem outgoing_eq (s : Storage) (messages : List Message) :
    outgoing s messages = (mediaPackets messages).foldl Storage.store s := by
  induction messages generalizing s with
  | nil => rfl
  | cons message messages ih =>
    rw [outgoing, List.foldl_cons, mediaPackets_cons]
    split
    · exact ih _
    · exact ih _

/-- The packets that the store keeps of those that were sent. -/
def window (maxSize : ℕ) (sent : List (List UInt8)) : List (List UInt8) :=
  (stored sent).drop (Storage.windowStart maxSize (stored sent).length)

section Store

variable {maxSize : ℕ} {sent : List (List UInt8)}

/-- The element that becomes the newest holds the packet, and the others keep theirs. -/
theorem map_packet_link (s : Storage) (packet : List UInt8) (sequenceNumber : UInt16) :
    (s.link packet sequenceNumber).heap.map Element.packet =
      s.heap.map Element.packet ++ [packet] := by
  have hmodify : ∀ (heap : List Element) (i : ℕ) (next : Option ℕ),
      (heap.modify i fun e => { e with next }).map Element.packet = heap.map Element.packet := by
    intro heap i next
    apply List.ext_getElem?
    intro j
    rw [List.getElem?_map, List.getElem?_map, List.getElem?_modify]
    by_cases hij : i = j
    · subst hij
      cases heap[i]? <;> simp
    · simp [hij]
  rw [Storage.link]
  split
  · exact List.map_append
  · split
    · rw [hmodify, List.map_append]
      rfl
    · exact List.map_append

theorem heap_evict (s : Storage) : s.evict.heap = s.heap := by
  rw [Storage.evict]
  split
  · split <;> rfl
  · rfl

theorem map_packet_store (s : Storage) (packet : List UInt8) :
    (s.store packet).heap.map Element.packet = s.heap.map Element.packet ++ stored [packet] := by
  rw [Storage.store]
  by_cases hshort : packet.length < RtpHeader.sizeOf
  · rw [if_pos hshort, stored, List.filter_singleton, decide_eq_false (not_le.2 hshort),
      cond_false, List.append_nil]
  · rw [if_neg hshort, stored, List.filter_singleton, decide_eq_true (not_lt.1 hshort), cond_true,
      heap_evict, ← map_packet_link s packet (RtpHeader.read packet).seqNumber]
    split <;> rfl

/-- The elements hold the packets that were stored, whatever their numbers. -/
theorem map_packet_storeAll (maxSize : ℕ) (packets : List (List UInt8)) :
    (Storage.storeAll maxSize packets).heap.map Element.packet = stored packets := by
  induction packets using List.reverseRecOn with
  | nil => rfl
  | append_singleton packets packet ih =>
    rw [Storage.storeAll, List.foldl_concat, map_packet_store]
    show (Storage.storeAll maxSize packets).heap.map Element.packet ++ stored [packet] = _
    rw [ih]
    exact (List.filter_append _ _).symm

/-- What is found was sent. -/
theorem mem_of_get {key : UInt16} {packet : List UInt8}
    (h : (Storage.storeAll maxSize sent).get key = some packet) : packet ∈ sent := by
  obtain ⟨i, -, hi⟩ := Option.bind_eq_some_iff.1 h
  obtain ⟨e, he, rfl⟩ := Option.map_eq_some_iff.1 hi
  have hmem : e.packet ∈ stored sent := by
    rw [← map_packet_storeAll maxSize]
    exact List.mem_map_of_mem (List.mem_of_getElem? he)
  exact (List.mem_filter.1 hmem).1

/-- With numbers that do not come back within the window, what is found are its packets, each by
its own number. -/
theorem get_eq_some_iff (hmax : 1 ≤ maxSize) (hspaced : Spaced maxSize (stored sent))
    {key : UInt16} {packet : List UInt8} :
    (Storage.storeAll maxSize sent).get key = some packet ↔
      packet ∈ window maxSize sent ∧ seqNumberOf packet = key := by
  obtain ⟨hkept, -⟩ := kept_storeAll hmax (fun _ hpacket => length_of_mem_stored hpacket) hspaced
  rw [storeAll_stored, hkept.get_eq, lastWith]
  constructor
  · intro hfound
    have hnumber := List.find?_some hfound
    exact ⟨List.mem_reverse.1 (List.mem_of_find?_eq_some hfound), of_decide_eq_true hnumber⟩
  · rintro ⟨hmem, hkey⟩
    cases hfind : ((stored sent).drop
        (Storage.windowStart maxSize (stored sent).length)).reverse.find?
          fun packet => (RtpHeader.read packet).seqNumber = key with
    | none =>
      have hnone := List.find?_eq_none.1 hfind packet (List.mem_reverse.2 hmem)
      exact absurd (decide_eq_true hkey) hnone
    | some other =>
      -- another packet with this number would be the same one
      have hother := List.mem_reverse.1 (List.mem_of_find?_eq_some hfind)
      have hnumber := List.find?_some hfind
      have hsame : seqNumberOf other = seqNumberOf packet :=
        (of_decide_eq_true hnumber).trans hkey.symm
      exact congrArg some (List.inj_on_of_nodup_map hkept.nodup hother hmem hsame)

theorem nodup_window (hmax : 1 ≤ maxSize) (hspaced : Spaced maxSize (stored sent)) :
    (window maxSize sent).Nodup := by
  obtain ⟨hkept, -⟩ := kept_storeAll hmax (fun _ hpacket => length_of_mem_stored hpacket) hspaced
  exact hkept.nodup.of_map

/-- Looking up distinct numbers gives the packets with these numbers, each of them once. -/
theorem filterMap_get_perm (hmax : 1 ≤ maxSize) (hspaced : Spaced maxSize (stored sent))
    {missing : List UInt16} (hnodup : missing.Nodup) :
    (missing.filterMap (Storage.storeAll maxSize sent).get).Perm
      ((window maxSize sent).filter fun packet => seqNumberOf packet ∈ missing) := by
  have hfound : (missing.filterMap (Storage.storeAll maxSize sent).get).Nodup := by
    apply hnodup.filterMap
    intro key key' packet hkey hkey'
    have hnumber := ((get_eq_some_iff hmax hspaced).1 hkey).2
    have hnumber' := ((get_eq_some_iff hmax hspaced).1 hkey').2
    exact hnumber.symm.trans hnumber'
  apply (List.perm_ext_iff_of_nodup hfound ((nodup_window hmax hspaced).filter _)).2
  intro packet
  rw [List.mem_filterMap, List.mem_filter, decide_eq_true_iff]
  constructor
  · rintro ⟨key, hkey, hget⟩
    obtain ⟨hmem, rfl⟩ := (get_eq_some_iff hmax hspaced).1 hget
    exact ⟨hmem, hkey⟩
  · rintro ⟨hmem, hkey⟩
    exact ⟨_, hkey, (get_eq_some_iff hmax hspaced).2 ⟨hmem, rfl⟩⟩

end Store

/-! ## The two ends and the network -/

/-- The two ends. `sent` are the media packets that went through `outgoing`. The network keeps what
was put on it, so that it can lose, repeat and reorder it. -/
structure Link where
  responder : Storage
  sent : List (List UInt8) := []
  network : List (List UInt8) := []
  received : List (List UInt8) := []
  requests : List Message := []

namespace Link

/-- One step of the two ends and the network. -/
inductive Step : Link → Link → Prop where
  /-- A batch of messages goes out. -/
  | send (s : Link) (messages : List Message) :
    Step s
      { s with
        responder := outgoing s.responder messages
        sent := s.sent ++ mediaPackets messages
        network := s.network ++ mediaPackets messages }
  /-- A packet arrives, perhaps again. -/
  | arrive (s : Link) (packet : List UInt8) (h : packet ∈ s.network) :
    Step s { s with received := s.received ++ [packet] }
  /-- The receiver asks for packets. -/
  | ask (s : Link) (ssrc : UInt32) (memory : ℕ → RtcpNackPart) (fciPID : UInt16)
      (missing : List UInt16) (message : Message) (hnodup : missing.Nodup)
      (hmany : missing.length ≤ 65533)
      (h : request ssrc memory fciPID missing = some message) :
    Step s { s with requests := s.requests ++ [message] }
  /-- Requests arrive, perhaps late or again, and are answered. -/
  | answer (s : Link) (messages : List Message) (resent : List (List UInt8))
      (hrequests : ∀ message ∈ messages, message ∈ s.requests)
      (h : incoming s.responder messages = .ok resent) :
    Step s { s with network := s.network ++ resent }

/-- The states that are reached with a store for `maxSize` packets. -/
def Reachable (maxSize : ℕ) (s : Link) : Prop :=
  Relation.ReflTransGen Step { responder := { maxSize } } s

/-- What holds in these states. -/
structure Inv (maxSize : ℕ) (s : Link) : Prop where
  responder : s.responder = Storage.storeAll maxSize s.sent
  network : ∀ packet ∈ s.network, packet ∈ s.sent
  received : ∀ packet ∈ s.received, packet ∈ s.sent
  requests : ∀ message ∈ s.requests, IsRequest message

/-- A step preserves it. -/
theorem Inv.step {maxSize : ℕ} {s t : Link} (h : s.Inv maxSize) (hstep : Step s t) :
    t.Inv maxSize := by
  cases hstep with
  | send messages =>
    refine ⟨?_, ?_, ?_, h.requests⟩
    · rw [outgoing_eq, h.responder, Storage.storeAll, Storage.storeAll, List.foldl_append]
    · intro packet hpacket
      rcases List.mem_append.1 hpacket with hold | hnew
      · exact List.mem_append_left _ (h.network packet hold)
      · exact List.mem_append_right _ hnew
    · intro packet hpacket
      exact List.mem_append_left _ (h.received packet hpacket)
  | arrive packet hmem =>
    refine ⟨h.responder, h.network, ?_, h.requests⟩
    intro other hother
    rcases List.mem_append.1 hother with hold | hnew
    · exact h.received other hold
    · rw [List.mem_singleton.1 hnew]
      exact h.network packet hmem
  | ask ssrc memory fciPID missing message hnodup hmany hrequest =>
    refine ⟨h.responder, h.network, h.received, ?_⟩
    intro other hother
    rcases List.mem_append.1 hother with hold | hnew
    · exact h.requests other hold
    · obtain ⟨fields, hlength, -, hbuilt⟩ := request_eq ssrc memory fciPID hnodup
      rw [List.mem_singleton.1 hnew]
      exact ⟨ssrc, fields, hlength.trans hmany, Option.some.inj (hrequest.symm.trans hbuilt)⟩
  | answer messages resent hrequests hresent =>
    refine ⟨h.responder, ?_, h.received, h.requests⟩
    intro packet hpacket
    rcases List.mem_append.1 hpacket with hold | hnew
    · exact h.network packet hold
    · -- an answer is made of packets that are found in the store
      obtain ⟨numbers, hnumbers⟩ := incoming_requests s.responder
        fun message hmessage => h.requests message (hrequests message hmessage)
      obtain rfl := Except.ok.inj (hnumbers.symm.trans hresent)
      obtain ⟨key, -, hkey⟩ := List.mem_filterMap.1 hnew
      rw [h.responder] at hkey
      exact mem_of_get hkey

/-- It holds in every state that is reached, by induction on the steps. -/
theorem Reachable.inv {maxSize : ℕ} {s : Link} (h : Reachable maxSize s) : s.Inv maxSize := by
  induction h with
  | refl => exact ⟨rfl, List.forall_mem_nil _, List.forall_mem_nil _, List.forall_mem_nil _⟩
  | tail _ hstep ih => exact ih.step hstep

/-- **Recovering lost packets.** In every state that is reached the receiver has sent packets only,
and requests that are under way are answered without a fault, by sent packets. While no packet has
the number of one of the `maxSize` packets stored before it, these are packets of the window, and a
request for distinct numbers is built and answered by the packets of the window with these numbers,
each of them once. -/
theorem loss_recovery {maxSize : ℕ} (hmax : 1 ≤ maxSize) {s : Link} (h : Reachable maxSize s) :
    (∀ packet ∈ s.received, packet ∈ s.sent) ∧
      (∀ messages : List Message, (∀ message ∈ messages, message ∈ s.requests) →
        ∃ resent, incoming s.responder messages = .ok resent ∧ ∀ packet ∈ resent,
          packet ∈ s.sent ∧
            (Spaced maxSize (stored s.sent) → packet ∈ window maxSize s.sent)) ∧
      (Spaced maxSize (stored s.sent) →
        ∀ ssrc memory fciPID (missing : List UInt16), missing.Nodup → missing.length ≤ 65533 →
          ∃ message resent, request ssrc memory fciPID missing = some message ∧
            incoming s.responder [message] = .ok resent ∧
            resent.Perm
              ((window maxSize s.sent).filter fun packet => seqNumberOf packet ∈ missing)) := by
  have hinv := h.inv
  refine ⟨hinv.received, ?_, ?_⟩
  · intro messages hmessages
    obtain ⟨numbers, hnumbers⟩ := incoming_requests s.responder
      fun message hmessage => hinv.requests message (hmessages message hmessage)
    refine ⟨_, hnumbers, ?_⟩
    intro packet hpacket
    obtain ⟨key, -, hkey⟩ := List.mem_filterMap.1 hpacket
    rw [hinv.responder] at hkey
    exact ⟨mem_of_get hkey, fun hspaced => ((get_eq_some_iff hmax hspaced).1 hkey).1⟩
  · intro hspaced ssrc memory fciPID missing hnodup hmany
    obtain ⟨fields, hlength, hperm, hbuilt⟩ := request_eq ssrc memory fciPID hnodup
    refine ⟨_, _, hbuilt, incoming_request s.responder ssrc (hlength.trans hmany), ?_⟩
    rw [hinv.responder]
    exact (hperm.filterMap _).trans (filterMap_get_perm hmax hspaced hnodup)

/-- Three messages with packets, the numbers of which wrap. -/
def three : List Message :=
  RtpPacketizationConfig.packets
    { ssrc := 1, payloadType := 96, sequenceNumber := 65535, timestamp := 0 } [[1], [2], [3]]
    |>.map fun data => { data, type := .binary }

/-- They are on their way, two of them still in the store. -/
def threeSent : Link where
  responder := outgoing { maxSize := 2 } three
  sent := mediaPackets three
  network := mediaPackets three

/-- Only the last one has arrived. -/
def lastArrived : Link := { threeSent with received := (mediaPackets three).drop 2 }

theorem loss_recovery_lastArrived :
    (∀ packet ∈ lastArrived.received, packet ∈ lastArrived.sent) ∧
      ∀ ssrc memory fciPID (missing : List UInt16), missing.Nodup → missing.length ≤ 65533 →
        ∃ message resent, request ssrc memory fciPID missing = some message ∧
          incoming lastArrived.responder [message] = .ok resent ∧
          resent.Perm
            ((window 2 lastArrived.sent).filter fun packet => seqNumberOf packet ∈ missing) := by
  have hpackets : stored (mediaPackets three) =
      RtpPacketizationConfig.packets
        { ssrc := 1, payloadType := 96, sequenceNumber := 65535, timestamp := 0 }
        [[1], [2], [3]] := by decide +kernel
  have hspaced : Spaced 2 (stored lastArrived.sent) := by
    show Spaced 2 (stored (mediaPackets three))
    rw [hpackets]
    exact (consecutive_packets _ _).spaced (by decide)
  have hsent : Reachable 2 threeSent := .single (.send _ three)
  obtain ⟨packet, hpacket⟩ : ∃ packet, (mediaPackets three).drop 2 = [packet] :=
    List.length_eq_one_iff.1 (by decide +kernel)
  have harrived : Step threeSent lastArrived := by
    have hmem : packet ∈ threeSent.network := by
      apply List.mem_of_mem_drop
      show packet ∈ (mediaPackets three).drop 2
      rw [hpacket]
      exact List.mem_singleton.2 rfl
    rw [lastArrived, hpacket]
    exact Step.arrive threeSent packet hmem
  obtain ⟨hreceived, -, hanswers⟩ := loss_recovery (by decide) (hsent.tail harrived)
  exact ⟨hreceived, hanswers hspaced⟩

end Link

end RtcpNackResponder

end Rtc
