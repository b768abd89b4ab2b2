import Mathlib.Logic.Relation
import QuicRtc.DataChannel.Spec
import QuicRtc.PeerConnection.Defs

/-!
# What the functions of a peer connection do

Every function that runs without a call to `open` and without `removeDataChannel` is a sequence of
elementary changes, listed once in `Change`: a call of `close` or `incoming` on a channel, the
destruction of a channel, the assignment of an unused stream, the registration of an incoming
channel on an unused stream, the end of the list of unassigned channels, another order of the table,
and a reset handed to the transport by the peer connection itself.
Invariants are proved over `Change`.

* `assignDataChannels_changes`, `destroy_changes`, `forwardMessage_changes`: the functions.
* `registerDataChannel_cases`, `forwardMessage_reset`: creation and stream resets, which are not
  covered by `Change`.
* `Consistent`: the table holds channels under their own streams.
-/

namespace Rtc

/-- The number of streams has 16 bits, and so has the last id. -/
theorem SctpStatus.maxStream_lt (t : SctpStatus) : t.maxStream < 65536 := by
  unfold maxStream
  cases t.mNegotiatedStreamsCount with
  | none => decide
  | some streams =>
    have hlt := streams.toNat_lt
    simp only [Option.map_some, Option.getD_some]
    split <;> omega

namespace PeerConnection

open Relation

variable {pc pc' : PeerConnection}

/-! ## Objects -/

/-- The objects after the creation of one. -/
theorem getElem?_objects_append {o o' : Object} {c : ℕ} :
    (pc.objects ++ [o])[c]? = some o' ↔
      pc.objects[c]? = some o' ∨ c = pc.objects.length ∧ o' = o := by
  rcases Nat.lt_trichotomy c pc.objects.length with hlt | rfl | hgt
  · simp [List.getElem?_append_left hlt, Nat.ne_of_lt hlt]
  · simp [eq_comm]
  · have hend : (pc.objects ++ [o]).length ≤ c := by simpa using Nat.succ_le_of_lt hgt
    rw [List.getElem?_eq_none hend, List.getElem?_eq_none (Nat.le_of_lt hgt)]
    simp [Nat.ne_of_gt hgt]

theorem getElem?_objects_append_of_ne {o : Object} {c : ℕ} (hne : c ≠ pc.objects.length) :
    (pc.objects ++ [o])[c]? = pc.objects[c]? := by
  ext o'
  rw [getElem?_objects_append]
  simp [hne]

/-- The objects after a call on one of them. -/
theorem getElem?_objects_call (pc : PeerConnection) (c c' : ℕ)
    (function : DataChannel → DataChannel.Outcome) :
    (pc.call c function).1.objects[c']? =
      (pc.objects[c']?).map fun o =>
        if c = c' then { o with channel := (function o.channel).channel } else o := by
  unfold call
  split
  · next hnone =>
    by_cases heq : c = c'
    · simp [← heq, hnone]
    · simp [heq]
  · next o ho =>
    simp only [setChannel, List.getElem?_modify]
    by_cases heq : c = c'
    · simp [← heq, ho]
    · simp [heq]

/-- A call touches the objects and the log only. -/
theorem call_frame (pc : PeerConnection) (c : ℕ) (function : DataChannel → DataChannel.Outcome) :
    (pc.call c function).1.mDataChannels = pc.mDataChannels ∧
      (pc.call c function).1.assigned = pc.assigned ∧
      (pc.call c function).1.removed = pc.removed ∧
      (pc.call c function).1.mIceTransport = pc.mIceTransport ∧
      (pc.call c function).1.mSctpTransport = pc.mSctpTransport ∧
      (pc.call c function).1.mUnassignedDataChannels = pc.mUnassignedDataChannels := by
  unfold call
  split <;> exact ⟨rfl, rfl, rfl, rfl, rfl, rfl⟩

/-- A call logs the messages it hands over. -/
theorem handed_call (pc : PeerConnection) (c : ℕ) (function : DataChannel → DataChannel.Outcome) :
    (pc.call c function).1.handed = pc.handed ∨
      ∃ o, pc.objects[c]? = some o ∧
        (pc.call c function).1.handed =
          pc.handed ++ (function o.channel).messages.map (some c, ·) := by
  unfold call
  split
  · exact Or.inl rfl
  · next o ho => exact Or.inr ⟨o, ho, rfl⟩

@[simp]
theorem length_objects_call (pc : PeerConnection) (c : ℕ)
    (function : DataChannel → DataChannel.Outcome) :
    (pc.call c function).1.objects.length = pc.objects.length := by
  unfold call
  split <;> simp [setChannel]

/-- The objects after the destruction of one of them. -/
theorem getElem?_objects_destroy (pc : PeerConnection) (c c' : ℕ) :
    (pc.destroy c).objects[c']? =
      (pc.objects[c']?).map fun o =>
        if c = c' then { channel := o.channel.close.channel, live := false } else o := by
  unfold destroy
  rw [getElem?_objects_call]
  simp only [List.getElem?_modify, Option.map_eq_map, Option.map_map]
  congr 1
  funext o
  by_cases heq : c = c' <;> simp [heq]

/-- The destruction of a channel touches the objects and the log only. -/
theorem destroy_frame (pc : PeerConnection) (c : ℕ) :
    (pc.destroy c).mDataChannels = pc.mDataChannels ∧
      (pc.destroy c).assigned = pc.assigned ∧
      (pc.destroy c).removed = pc.removed ∧
      (pc.destroy c).mIceTransport = pc.mIceTransport ∧
      (pc.destroy c).mSctpTransport = pc.mSctpTransport ∧
      (pc.destroy c).mUnassignedDataChannels = pc.mUnassignedDataChannels :=
  call_frame _ c _

/-- The destruction of a channel logs the messages of its `close`. -/
theorem handed_destroy (pc : PeerConnection) (c : ℕ) :
    (pc.destroy c).handed = pc.handed ∨
      ∃ o, pc.objects[c]? = some o ∧
        (pc.destroy c).handed = pc.handed ++ o.channel.close.messages.map (some c, ·) := by
  unfold destroy
  rcases handed_call { pc with objects := pc.objects.modify c fun o => { o with live := false } } c
    DataChannel.close with hsame | ⟨o, ho, hhanded⟩
  · exact Or.inl hsame
  · simp only [List.getElem?_modify_eq, Option.map_eq_map, Option.map_eq_some_iff] at ho
    obtain ⟨o', ho', rfl⟩ := ho
    exact Or.inr ⟨o', ho', hhanded⟩

@[simp]
theorem length_objects_destroy (pc : PeerConnection) (c : ℕ) :
    (pc.destroy c).objects.length = pc.objects.length := by
  simp [destroy]

/-- A locked channel is that of a live object. -/
theorem lock_eq_some {c : ℕ} {channel : DataChannel} :
    pc.lock c = some channel ↔
      ∃ o, pc.objects[c]? = some o ∧ o.live = true ∧ o.channel = channel := by
  simp only [lock, Option.bind_eq_some_iff, Option.ite_none_right_eq_some, Option.some.injEq]

/-! ## Stream ids -/

theorem maxDataChannelStream_lt (pc : PeerConnection) : pc.maxDataChannelStream < 65536 := by
  unfold maxDataChannelStream
  split
  · next transport _ => exact transport.maxStream_lt
  · decide

/-- The stream found is unused, not above the maximum, and has the parity of the first one. -/
theorem unusedStream_eq_found {table : AList (fun _ : ℕ => ℕ)} {maxStream rounds first stream : ℕ}
    (h : unusedStream table maxStream rounds first = .found stream) :
    stream ∉ table ∧ stream ≤ maxStream ∧ stream % 2 = first % 2 := by
  induction rounds generalizing first with
  | zero => cases h
  | succ rounds ih =>
    unfold unusedStream at h
    split at h
    · cases h
    · split at h
      · next hle hfree =>
        cases h
        exact ⟨hfree, Nat.le_of_not_lt hle, rfl⟩
      · -- the stream is used; the search goes on two streams further, in 16 bits
        obtain ⟨hfree, hle, hparity⟩ := ih h
        exact ⟨hfree, hle, by omega⟩

/-! ## Elementary changes -/

/-- The elementary changes of a peer connection. -/
inductive Change (pc : PeerConnection) : PeerConnection → Prop where
  | close (c : ℕ) : Change pc (pc.call c DataChannel.close).1
  | incoming (c : ℕ) (message : Message) : Change pc (pc.call c (·.incoming message)).1
  | destroy (c : ℕ) : Change pc (pc.destroy c)
  | assign {c stream : ℕ} {channel : DataChannel} {role : Description.Role}
    (hlock : pc.lock c = some channel) (hnone : channel.mStream = none)
    (hrole : pc.mIceTransport = some role) (hparity : stream % 2 = parity role)
    (hmax : stream ≤ pc.maxDataChannelStream) (hfree : stream ∉ pc.mDataChannels) :
    Change pc
      { pc.setChannel c { channel with mStream := some stream } with
        mDataChannels := pc.mDataChannels.insert stream c
        assigned := pc.assigned ++ [c] }
  | settle : Change pc { pc with mUnassignedDataChannels := [] }
  | accept {stream : ℕ} {role : Description.Role} (hrole : pc.mIceTransport = some role)
    (hparity : stream % 2 = if role = .active then 1 else 0) (hfree : stream ∉ pc.mDataChannels)
    (hbound : stream < 65536) :
    Change pc
      { pc with
        objects := pc.objects ++
          [{ channel := { DataChannel.makeIncoming with mStream := some stream } }]
        mDataChannels := pc.mDataChannels.insert stream pc.objects.length
        assigned := pc.assigned ++ [pc.objects.length] }
  | rehash {table : AList (fun _ : ℕ => ℕ)} (hperm : table.entries.Perm pc.mDataChannels.entries) :
    Change pc { pc with mDataChannels := table }
  | handReset (stream : ℕ) :
    Change pc { pc with handed := pc.handed ++ [(none, DataChannel.resetMessage stream)] }

/-- A sequence of elementary changes. -/
def Changes : PeerConnection → PeerConnection → Prop := ReflTransGen Change

/-- The invariant rule for sequences of changes. -/
theorem Changes.invariant {P : PeerConnection → Prop} (hchanges : Changes pc pc')
    (hchange : ∀ pc pc', P pc → Change pc pc' → P pc') (h : P pc) : P pc' := by
  induction hchanges with
  | refl => exact h
  | tail _ hlast ih => exact hchange _ _ ih hlast

theorem emplace_of_notMem {table : AList (fun _ : ℕ => ℕ)} {stream : ℕ} (h : stream ∉ table)
    (c : ℕ) : emplace table stream c = table.insert stream c := by
  rw [emplace, if_neg h]

/-! ## Functions -/

theorem destroy_changes (pc : PeerConnection) (c : ℕ) : Changes pc (pc.destroy c) :=
  .single (.destroy c)

theorem rehash_changes {table : AList (fun _ : ℕ => ℕ)} (h : pc.rehash table = some pc') :
    Changes pc pc' := by
  unfold rehash at h
  split at h
  · next hperm =>
    cases h
    exact .single (.rehash hperm)
  · cases h

theorem parity_mod_two (role : Description.Role) : parity role % 2 = parity role := by
  unfold parity
  split <;> rfl

/-- The loop of `assignDataChannels` assigns unused streams of the right parity, one after the
other, up to an exception. -/
private theorem assignLoop_changes {role : Description.Role} {maxStream : ℕ} (cs : List ℕ)
    {pc pc' : PeerConnection} {thrown : Option Exception} (hrole : pc.mIceTransport = some role)
    (hmax : maxStream = pc.maxDataChannelStream)
    (h : assignLoop maxStream (parity role) cs pc = some (pc', thrown)) : Changes pc pc' := by
  induction cs generalizing pc with
  | nil =>
    cases h
    exact .single .settle
  | cons c rest ih =>
    unfold assignLoop at h
    split at h
    · exact ih hrole hmax h
    · next channel hlock =>
      split at h
      · cases h
      · cases h
        exact .refl
      · next stream hunused =>
        obtain ⟨hfree, hle, hparity⟩ := unusedStream_eq_found hunused
        rw [parity_mod_two] at hparity
        unfold DataChannel.assignStream at h
        cases hstream : channel.mStream with
        -- `assignStream` throws on a channel that has a stream
        | some s =>
          simp only [hstream] at h
          cases h
          exact .refl
        | none =>
          -- the stream was unused, so `emplace` inserts
          simp only [hstream, emplace_of_notMem hfree] at h
          refine ReflTransGen.head (.assign hlock hstream hrole hparity (hmax ▸ hle) hfree) ?_
          exact ih hrole hmax h

theorem assignDataChannels_changes {thrown : Option Exception}
    (h : pc.assignDataChannels = some (pc', thrown)) : Changes pc pc' := by
  unfold assignDataChannels at h
  split at h
  · cases h
    exact .refl
  · next role hrole => exact assignLoop_changes _ hrole rfl h

/-- The channel object created for the arguments of `emplaceDataChannel`. -/
def created (label : List UInt8) (init : DataChannelInit) : DataChannel where
  kind := if init.negotiated then .negotiated else .outgoing
  mLabel := label
  mProtocol := init.protocol
  mReliability := init.reliability
  mStream := init.id

/-- Creation of a channel: it fails without a trace, or the new object waits for a stream, or it has
the one chosen by the user. -/
theorem registerDataChannel_cases (pc : PeerConnection) (label : List UInt8)
    (init : DataChannelInit) :
    (∃ e, pc.registerDataChannel label init = (pc, .error e)) ∨
      (init.id = none ∧
        pc.registerDataChannel label init =
          ({ pc with
              objects := pc.objects ++ [{ channel := created label init }]
              mUnassignedDataChannels := pc.mUnassignedDataChannels ++ [pc.objects.length] },
            .ok pc.objects.length)) ∨
      ∃ stream, init.id = some stream ∧ stream ≤ pc.maxDataChannelStream ∧
        pc.registerDataChannel label init =
          ({ pc with
              objects := pc.objects ++ [{ channel := created label init }]
              mDataChannels := emplace pc.mDataChannels stream pc.objects.length
              assigned := pc.assigned ++ [pc.objects.length] },
            .ok pc.objects.length) := by
  unfold registerDataChannel DataChannel.make created
  -- the constructor refuses two limits before anything is stored
  by_cases hboth : init.reliability.maxPacketLifeTime.isSome ∧
    init.reliability.maxRetransmits.isSome
  · rw [if_pos hboth]
    exact Or.inl ⟨_, rfl⟩
  · rw [if_neg hboth]
    cases hid : init.id with
    | none => exact Or.inr (Or.inl ⟨rfl, rfl⟩)
    | some stream =>
      by_cases hhigh : stream > pc.maxDataChannelStream
      · refine Or.inl ⟨.invalidArgument "DataChannel stream id is too high", ?_⟩
        simp only [if_pos hhigh]
      · refine Or.inr (Or.inr ⟨stream, rfl, Nat.le_of_not_lt hhigh, ?_⟩)
        simp only [if_neg hhigh, DataChannel.assignStream, allocate]

/-- `emplaceDataChannel` stops after the registration, or goes on to assign the streams and to open
the new channel, which it destroys if one of the two throws. -/
theorem emplaceDataChannel_cases {label : List UInt8} {init : DataChannelInit}
    {created : Except Exception ℕ} (h : pc.emplaceDataChannel label init = some (pc', created)) :
    pc' = (pc.registerDataChannel label init).1 ∨
      ∃ pc₁ c pc₂ thrown, pc.registerDataChannel label init = (pc₁, .ok c) ∧
        pc₁.assignDataChannels = some (pc₂, thrown) ∧
        (pc' = pc₂.destroy c ∨ pc' = (pc₂.call c DataChannel.openOn).1 ∨
          pc' = (pc₂.call c DataChannel.openOn).1.destroy c) := by
  unfold emplaceDataChannel at h
  rcases hreg : pc.registerDataChannel label init with ⟨pc₁, e | c⟩
  · rw [hreg] at h
    cases h
    exact Or.inl rfl
  · rw [hreg] at h
    dsimp only at h
    split at h
    · -- with a connected transport
      refine Or.inr ⟨pc₁, c, ?_⟩
      rcases hassign : pc₁.assignDataChannels with _ | ⟨pc₂, _ | e⟩
      · rw [hassign] at h
        cases h
      · rw [hassign] at h
        refine ⟨pc₂, none, rfl, rfl, ?_⟩
        dsimp only at h
        rcases hcall : pc₂.call c DataChannel.openOn with ⟨pc₃, _ | e⟩
        · rw [hcall] at h
          cases h
          exact Or.inr (Or.inl rfl)
        · rw [hcall] at h
          cases h
          exact Or.inr (Or.inr rfl)
      · rw [hassign] at h
        cases h
        exact ⟨pc₂, some e, rfl, rfl, Or.inl rfl⟩
    · cases h
      exact Or.inl rfl

private theorem closeStream_changes (pc : PeerConnection) (stream : ℕ) :
    Changes pc (pc.closeStream stream).1 := by
  unfold closeStream
  split
  · exact .refl
  · exact .single (.handReset _)

private theorem iterateClose_changes (pc : PeerConnection) :
    Changes pc (pc.iterateDataChannels DataChannel.close) := by
  unfold iterateDataChannels
  generalize pc.lockedChannels = cs
  induction cs generalizing pc with
  | nil => exact .refl
  | cons c rest ih => exact ReflTransGen.head (.close c) (ih _)

private theorem acceptDataChannel_changes {role : Description.Role} {stream : ℕ}
    (hrole : pc.mIceTransport = some role)
    (hparity : stream % 2 = if role = .active then 1 else 0) (hfree : stream ∉ pc.mDataChannels)
    (hbound : stream < 65536) (message : Message) :
    Changes pc (pc.acceptDataChannel stream message).1 := by
  unfold acceptDataChannel
  simp only [allocate, emplace_of_notMem hfree]
  have haccepted := (ReflTransGen.single (Change.accept hrole hparity hfree hbound)).tail
    (Change.incoming pc.objects.length message)
  split
  · next hcall =>
    rw [hcall] at haccepted
    exact haccepted.trans (destroy_changes _ _)
  · next hcall =>
    rw [hcall] at haccepted
    exact haccepted

/-- An entry is found exactly when the stream is in the table. -/
theorem findDataChannel_eq {stream : ℕ} {channel : Option ℕ} {found : Bool}
    (h : pc.findDataChannel stream = (channel, found)) :
    (found = false ∧ stream ∉ pc.mDataChannels ∧ channel = none) ∨
      ∃ c, found = true ∧ pc.mDataChannels.lookup stream = some c ∧
        channel = if (pc.lock c).isSome then some c else none := by
  unfold findDataChannel at h
  split at h
  · next c hlookup =>
    obtain ⟨rfl, rfl⟩ := Prod.mk.inj h
    exact Or.inr ⟨c, rfl, hlookup, rfl⟩
  · next hlookup =>
    obtain ⟨rfl, rfl⟩ := Prod.mk.inj h
    exact Or.inl ⟨rfl, AList.lookup_eq_none.1 hlookup, rfl⟩

private theorem forwardOpenMessage_changes {role : Description.Role}
    (hrole : pc.mIceTransport = some role) (message : Message) :
    Changes pc (pc.forwardOpenMessage role message).1 := by
  unfold forwardOpenMessage
  dsimp only
  rcases hfind : pc.findDataChannel (message.stream % 65536) with ⟨channel, _ | _⟩
  · obtain ⟨-, hfree, rfl⟩ | ⟨c, hfound, -⟩ := findDataChannel_eq hfind
    · dsimp only
      -- a stream of the other parity belongs to this side and is reset
      by_cases hparity : message.stream % 65536 % 2 = if role = .active then 1 else 0
      · rw [if_neg (not_not.2 hparity)]
        exact acceptDataChannel_changes hrole hparity hfree (Nat.mod_lt _ (by decide)) message
      · rw [if_pos hparity]
        exact closeStream_changes pc _
    · cases hfound
  · cases channel with
    | some c =>
      dsimp only
      split
      · exact .single (.close c)
      · exact closeStream_changes pc _
    | none => exact closeStream_changes pc _

/-- `forwardMessage` on anything but a stream reset. -/
theorem forwardMessage_changes (pc : PeerConnection) (message : Option Message)
    (hreset : ∀ m ∈ message, m.type ≠ .reset) : Changes pc (pc.forwardMessage message).1 := by
  unfold forwardMessage
  split
  · exact iterateClose_changes pc
  · next m =>
    have hm : m.type ≠ .reset := hreset m rfl
    split
    · next role _ hrole _ =>
      split
      · exact forwardOpenMessage_changes hrole m
      · unfold forwardOtherMessage
        simp only [if_neg hm]
        rcases hfind : pc.findDataChannel (m.stream % 65536) with ⟨channel, _ | _⟩
        · exact closeStream_changes pc _
        · cases channel with
          | some c => exact .single (.incoming c m)
          | none => exact .refl
    · exact .refl

/-- `forwardMessage` on a stream reset: nothing is registered on the stream, or the entry is removed
and then the channel, if its pointer has not expired, receives the message. -/
theorem forwardMessage_reset (pc : PeerConnection) {message : Message}
    (hreset : message.type = .reset) :
    (pc.forwardMessage (some message)).1 = pc ∨
      ∃ c, pc.mDataChannels.lookup (message.stream % 65536) = some c ∧
        (pc.forwardMessage (some message)).1 =
          if (pc.lock c).isSome then
            ((pc.removeDataChannel (message.stream % 65536)).call c (·.incoming message)).1
          else pc.removeDataChannel (message.stream % 65536) := by
  have hopen : isOpenMessage message = false := by simp [isOpenMessage, hreset]
  unfold forwardMessage
  dsimp only
  split
  · rw [hopen, if_neg Bool.false_ne_true]
    unfold forwardOtherMessage
    simp only [if_pos hreset]
    rcases hfind : pc.findDataChannel (message.stream % 65536) with ⟨channel, _ | _⟩
    · exact Or.inl rfl
    · obtain ⟨hfound, -⟩ | ⟨c, -, hlookup, rfl⟩ := findDataChannel_eq hfind
      · cases hfound
      · refine Or.inr ⟨c, hlookup, ?_⟩
        cases pc.lock c <;> rfl
  · exact Or.inl rfl

/-! ## Consistency of the table -/

/-- Every entry of the table is an object with that stream. -/
def Consistent (pc : PeerConnection) : Prop :=
  ∀ stream c, pc.mDataChannels.lookup stream = some c →
    ∃ o, pc.objects[c]? = some o ∧ o.channel.mStream = some stream

namespace Consistent

/-- Objects may be added and may change as long as those with a stream keep it. -/
theorem of_objects (h : Consistent pc) (htable : pc'.mDataChannels = pc.mDataChannels)
    (hobjects : ∀ (c : ℕ) (o : Object), pc.objects[c]? = some o → o.channel.mStream.isSome →
      ∃ o', pc'.objects[c]? = some o' ∧ o'.channel.mStream = o.channel.mStream) :
    Consistent pc' := by
  intro stream c hlookup
  rw [htable] at hlookup
  obtain ⟨o, ho, hstream⟩ := h stream c hlookup
  obtain ⟨o', ho', hsame⟩ := hobjects c o ho (by simp [hstream])
  exact ⟨o', ho', hsame.trans hstream⟩

theorem call (h : Consistent pc) (c : ℕ) {function : DataChannel → DataChannel.Outcome}
    (hkeeps : ∀ ch, DataChannel.Keeps ch (function ch).channel) :
    Consistent (pc.call c function).1 := by
  refine h.of_objects (call_frame pc c function).1 ?_
  intro c' o ho _
  rw [getElem?_objects_call, ho]
  refine ⟨_, rfl, ?_⟩
  split
  · exact (hkeeps o.channel).mStream
  · rfl

/-- A new object, registered on an unused stream. -/
theorem insert (h : Consistent pc) {o : Object} {stream : ℕ}
    (hstream : o.channel.mStream = some stream) {assigned : List ℕ} :
    Consistent
      { pc with
        objects := pc.objects ++ [o]
        mDataChannels := pc.mDataChannels.insert stream pc.objects.length
        assigned } := by
  intro s c hlookup
  by_cases hs : s = stream
  · subst hs
    obtain rfl : pc.objects.length = c := by simpa using hlookup
    exact ⟨o, by simp, hstream⟩
  · obtain ⟨o', ho', hs'⟩ := h s c (by simpa [AList.lookup_insert_ne hs] using hlookup)
    exact ⟨o', getElem?_objects_append.2 (Or.inl ho'), hs'⟩

/-- Every elementary change preserves consistency. -/
theorem change (h : Consistent pc) (hchange : Change pc pc') : Consistent pc' := by
  cases hchange with
  | close c => exact h.call c DataChannel.keeps_close
  | incoming c message => exact h.call c fun ch => DataChannel.keeps_incoming ch message
  | destroy c =>
    refine h.of_objects (destroy_frame pc c).1 ?_
    intro c' o ho _
    rw [getElem?_objects_destroy, ho]
    refine ⟨_, rfl, ?_⟩
    split
    · exact (DataChannel.keeps_close o.channel).mStream
    · rfl
  | @assign c stream channel role hlock hnone hrole hparity hmax hfree =>
    obtain ⟨o, ho, hlive, rfl⟩ := lock_eq_some.1 hlock
    intro s c' hlookup
    by_cases hs : s = stream
    · subst hs
      obtain rfl : c = c' := by simpa using hlookup
      exact ⟨_, by simp only [setChannel, List.getElem?_modify, ho]; rfl, by simp⟩
    · obtain ⟨o', ho', hs'⟩ := h s c' (by simpa [AList.lookup_insert_ne hs] using hlookup)
      -- the channel assigned had no stream, so it is not the one registered under another key
      have hne : c ≠ c' := by
        rintro rfl
        rw [Option.some.inj (ho.symm.trans ho')] at hnone
        rw [hnone] at hs'
        cases hs'
      exact ⟨o', by simp [setChannel, ho', hne], hs'⟩
  | settle => exact h
  | accept => exact h.insert rfl
  | rehash hperm =>
    intro s c hlookup
    exact h s c ((AList.perm_lookup hperm).symm.trans hlookup)
  | handReset stream => exact h

theorem changes (h : Consistent pc) (hchanges : Changes pc pc') : Consistent pc' :=
  hchanges.invariant (fun _ _ h hchange => h.change hchange) h

theorem removeDataChannel (h : Consistent pc) (stream : ℕ) :
    Consistent (pc.removeDataChannel stream) := by
  intro s c hlookup
  by_cases hs : s = stream
  · subst hs
    simp [PeerConnection.removeDataChannel] at hlookup
  · exact h s c ((AList.lookup_erase_ne hs).symm.trans hlookup)

/-- Creation of a channel, also with an explicit id that is in use. -/
theorem registerDataChannel (h : Consistent pc) (label : List UInt8) (init : DataChannelInit) :
    Consistent (pc.registerDataChannel label init).1 := by
  have hkept : ∀ (o : Object) (c : ℕ) (o' : Object), pc.objects[c]? = some o' →
      ∃ o'', (pc.objects ++ [o])[c]? = some o'' ∧ o''.channel.mStream = o'.channel.mStream :=
    fun o c o' ho' => ⟨o', getElem?_objects_append.2 (Or.inl ho'), rfl⟩
  rcases registerDataChannel_cases pc label init with
    ⟨e, hreg⟩ | ⟨hnone, hreg⟩ | ⟨stream, hsome, hmax, hreg⟩
  · rw [hreg]
    exact h
  · rw [hreg]
    exact h.of_objects rfl fun c o ho _ => hkept _ c o ho
  · rw [hreg]
    -- `emplace` does nothing when the key exists: the new object is in no entry
    by_cases hused : stream ∈ pc.mDataChannels
    · rw [emplace, if_pos hused]
      exact h.of_objects rfl fun c o ho _ => hkept _ c o ho
    · rw [emplace_of_notMem hused]
      exact h.insert hsome

/-- The sweep locks every channel once. -/
theorem nodup_lockedChannels (h : Consistent pc) : pc.lockedChannels.Nodup := by
  apply List.Nodup.filter
  -- the stream of a registered channel is its key, and the keys are distinct
  let stream : ℕ → ℕ := fun c => ((pc.objects[c]?).bind (·.channel.mStream)).getD 0
  have hkeys : (pc.mDataChannels.entries.map (·.2)).map stream = pc.mDataChannels.keys := by
    rw [List.map_map]
    apply List.map_congr_left
    intro entry hentry
    have hlookup : pc.mDataChannels.lookup entry.1 = some entry.2 :=
      AList.mem_lookup_iff.2 hentry
    obtain ⟨o, ho, hstream⟩ := h entry.1 entry.2 hlookup
    simp [stream, ho, hstream]
  have hnodup := pc.mDataChannels.keys_nodup
  rw [← hkeys] at hnodup
  exact hnodup.of_map stream

end Consistent

end PeerConnection

end Rtc
