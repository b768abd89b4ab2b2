import Mathlib.Data.Finset.Card
import Mathlib.Order.Lattice
import QuicRtc.PeerConnection.StreamTable

/-!
# Running out of stream ids

`assignDataChannels` gives the unassigned channels their streams one after the other and clears the
list at the end. When the ids run out it throws halfway, with the list unchanged, or, where the
next id would not fit in 16 bits, starts the search again and does not return.

* `unusedStream_of_free`, `unusedStream_of_used`: how the search for an id ends.
* `assignLoop_of_le`: with an id for every channel, each of them gets one.
* `assignLoop_of_lt`, `assignLoop_endless`: with fewer ids, they are all used, and the call throws
  or does not return.
* `assignLoop_stuck`: with a channel in the list that has a stream the call does not succeed.
* `recovers_iff`: the call can be made good later unless some of the channels got a stream and some
  did not, or it does not return.
-/

namespace Rtc.PeerConnection

/-! ## Ids and channels -/

/-- The channel is live and has no stream yet. -/
def lacksStream (pc : PeerConnection) (c : ℕ) : Bool := (pc.lock c).any (·.mStream.isNone)

/-- The unassigned channels that still need a stream. -/
def needing (pc : PeerConnection) : List ℕ := pc.mUnassignedDataChannels.filter pc.lacksStream

/-- The ids that `assignDataChannels` may choose: unused, of the parity of the first one. -/
def freeIds (table : AList (fun _ : ℕ => ℕ)) (maxStream first : ℕ) : Finset ℕ :=
  (Finset.range (maxStream + 1)).filter fun stream => stream % 2 = first ∧ stream ∉ table

/-- The list holds channels without a stream, each of them once. -/
structure Waiting (pc : PeerConnection) : Prop where
  nodup : pc.mUnassignedDataChannels.Nodup
  noStream : ∀ c ∈ pc.mUnassignedDataChannels, ∀ channel, pc.lock c = some channel →
    channel.mStream = none

/-- What a call that ends in `pc'` has done: it has cleared the list and given every channel that
needed one an id that was free, under which the channel is found. -/
structure Assigned (pc pc' : PeerConnection) (role : Description.Role) : Prop where
  cleared : pc'.mUnassignedDataChannels = []
  assigned : ∀ c ∈ pc.needing,
    ∃ stream ∈ freeIds pc.mDataChannels pc.maxDataChannelStream (parity role),
      (pc'.lock c).bind (·.mStream) = some stream ∧ pc'.mDataChannels.lookup stream = some c
  distinct : ∀ c ∈ pc.needing, ∀ c' ∈ pc.needing,
    (pc'.lock c).bind (·.mStream) = (pc'.lock c').bind (·.mStream) → c = c'

/-- `assignDataChannels` returns and assigns all streams. -/
def AssignsAll (pc : PeerConnection) (role : Description.Role) : Prop :=
  ∃ pc', pc.assignDataChannels = some (pc', none) ∧ pc.Assigned pc' role

/-- `assignDataChannels` assigns all streams, or it throws and does so later, once enough ids have
been removed from the table. -/
def Recovers (pc : PeerConnection) (role : Description.Role) : Prop :=
  pc.AssignsAll role ∨
    ∃ pc', pc.assignDataChannels = some (pc', some (.runtimeError "Too many DataChannels")) ∧
      ∀ freed : List ℕ,
        let later := freed.foldl removeDataChannel pc'
        later.needing.length ≤
            (freeIds later.mDataChannels later.maxDataChannelStream (parity role)).card →
          later.AssignsAll role

/-- The state after a round of the loop that assigns a stream. -/
def assignTo (pc : PeerConnection) (c : ℕ) (channel : DataChannel) (stream : ℕ) : PeerConnection :=
  { pc.setChannel c { channel with mStream := some stream } with
    mDataChannels := pc.mDataChannels.insert stream c
    assigned := pc.assigned ++ [c] }

variable {pc : PeerConnection} {maxStream first c : ℕ} {channel : DataChannel}

theorem mem_freeIds {table : AList (fun _ : ℕ => ℕ)} {stream : ℕ} :
    stream ∈ freeIds table maxStream first ↔
      stream ≤ maxStream ∧ stream % 2 = first ∧ stream ∉ table := by
  rw [freeIds, Finset.mem_filter, Finset.mem_range, Nat.lt_succ_iff]

/-- The ids of a parity that may be chosen start with 0 or 1 and end with `maxStream`. -/
theorem freeIds_eq_empty {table : AList (fun _ : ℕ => ℕ)}
    (hempty : freeIds table maxStream first = ∅) {stream : ℕ} (hle : stream ≤ maxStream)
    (hparity : stream % 2 = first) : stream ∈ table := by
  by_contra hfree
  have hmem := mem_freeIds.2 ⟨hle, hparity, hfree⟩
  rw [hempty] at hmem
  exact Finset.notMem_empty stream hmem

/-! ## The search -/

/-- The search finds an id if there is a free one ahead. -/
theorem unusedStream_of_free {table : AList (fun _ : ℕ => ℕ)} {rounds start free : ℕ}
    (hle : start ≤ free) (hrounds : free < start + 2 * rounds) (hparity : free % 2 = start % 2)
    (hmax : free ≤ maxStream) (hbound : maxStream < 65536) (hfree : free ∉ table) :
    ∃ stream, unusedStream table maxStream rounds start = .found stream := by
  induction rounds generalizing start with
  | zero => omega
  | succ rounds ih =>
    unfold unusedStream
    rw [if_neg (by omega)]
    split
    · exact ⟨start, rfl⟩
    · next hused =>
      have hne : start ≠ free := fun heq => hused (heq ▸ hfree)
      rw [Nat.mod_eq_of_lt (by omega)]
      exact ih (by omega) (by omega) (by omega)

/-- With every id used, it gets past `maxStream`. -/
theorem unusedStream_of_used {table : AList (fun _ : ℕ => ℕ)} (hfirst : first < 2)
    (hempty : freeIds table maxStream first = ∅) (hmax : maxStream < 65534 + first)
    {rounds start : ℕ} (hparity : start % 2 = first) (hstart : start ≤ maxStream + 2)
    (hrounds : maxStream + 2 < start + 2 * rounds) :
    unusedStream table maxStream rounds start = .tooMany := by
  induction rounds generalizing start with
  | zero => omega
  | succ rounds ih =>
    unfold unusedStream
    split
    · rfl
    · next hle =>
      have hused : start ∈ table := freeIds_eq_empty hempty (Nat.le_of_not_lt hle) hparity
      rw [if_neg (not_not.2 hused), Nat.mod_eq_of_lt (by omega)]
      exact ih (by omega) (by omega) (by omega)

/-- If `maxStream` is the last 16-bit id of the parity, it never gets past it. -/
theorem unusedStream_endless {table : AList (fun _ : ℕ => ℕ)} (hfirst : first < 2)
    (hempty : freeIds table maxStream first = ∅) (hmax : 65534 + first ≤ maxStream)
    (rounds : ℕ) {start : ℕ} (hparity : start % 2 = first) (hstart : start < 65536) :
    unusedStream table maxStream rounds start = .endless := by
  induction rounds generalizing start with
  | zero => rfl
  | succ rounds ih =>
    have hle : start ≤ maxStream := by omega
    unfold unusedStream
    rw [if_neg (by omega), if_neg (not_not.2 (freeIds_eq_empty hempty hle hparity))]
    exact ih (by omega) (by omega)

/-- The search of `assignDataChannels` finds a free id; if there is none, it gives up or goes on for
ever. -/
theorem unusedStream_cases (table : AList (fun _ : ℕ => ℕ)) (hfirst : first < 2)
    (hbound : maxStream < 65536) :
    (∃ stream ∈ freeIds table maxStream first,
        unusedStream table maxStream (maxStream + 2) first = .found stream) ∨
      freeIds table maxStream first = ∅ ∧
        unusedStream table maxStream (maxStream + 2) first =
          if maxStream < 65534 + first then .tooMany else .endless := by
  have hparity : first % 2 = first := Nat.mod_eq_of_lt hfirst
  rcases (freeIds table maxStream first).eq_empty_or_nonempty with hempty | ⟨free, hmem⟩
  · refine .inr ⟨hempty, ?_⟩
    split
    · next hmax => exact unusedStream_of_used hfirst hempty hmax hparity (by omega) (by omega)
    · next hmax => exact unusedStream_endless hfirst hempty (not_lt.1 hmax) _ hparity (by omega)
  · obtain ⟨hle, hfree, hnot⟩ := mem_freeIds.1 hmem
    obtain ⟨stream, hfound⟩ :
        ∃ stream, unusedStream table maxStream (maxStream + 2) first = .found stream :=
      unusedStream_of_free (by omega) (by omega) (hfree.trans hparity.symm) hle hbound hnot
    obtain ⟨hunused, hle', hsame⟩ := unusedStream_eq_found hfound
    exact .inl ⟨stream, mem_freeIds.2 ⟨hle', hsame.trans hparity, hunused⟩, hfound⟩

/-! ## A round of the loop -/

theorem freeIds_insert {table : AList (fun _ : ℕ => ℕ)} (stream c : ℕ) :
    freeIds (table.insert stream c) maxStream first =
      (freeIds table maxStream first).erase stream := by
  ext s
  rw [Finset.mem_erase, mem_freeIds, mem_freeIds, AList.mem_insert]
  tauto

/-- The state of the channel that is assigned. -/
theorem lock_assignTo_self (stream : ℕ) (h : pc.lock c = some channel) :
    (pc.assignTo c channel stream).lock c = some { channel with mStream := some stream } := by
  obtain ⟨o, ho, hlive, -⟩ := lock_eq_some.1 h
  refine lock_eq_some.2 ⟨{ o with channel := { channel with mStream := some stream } }, ?_, hlive,
    rfl⟩
  simp [assignTo, setChannel, ho]

/-- The others stay as they are. -/
theorem lock_assignTo_of_ne {c' : ℕ} (stream : ℕ) (hne : c ≠ c') :
    (pc.assignTo c channel stream).lock c' = pc.lock c' := by
  simp [lock, assignTo, setChannel, hne]

/-- What a round of the loop does: it passes over an expired channel, gives up or goes on for ever,
fails on a channel with a stream, or assigns a free id. -/
theorem assignLoop_cons (hbound : maxStream < 65536) (hfirst : first < 2) (c : ℕ) (rest : List ℕ)
    (pc : PeerConnection) :
    (pc.lock c = none ∧
        assignLoop maxStream first (c :: rest) pc = assignLoop maxStream first rest pc) ∨
      ∃ channel, pc.lock c = some channel ∧
        ((freeIds pc.mDataChannels maxStream first = ∅ ∧
            assignLoop maxStream first (c :: rest) pc =
              if maxStream < 65534 + first then
                some (pc, some (.runtimeError "Too many DataChannels"))
              else none) ∨
          (channel.mStream ≠ none ∧ freeIds pc.mDataChannels maxStream first ≠ ∅ ∧
            ∃ e, assignLoop maxStream first (c :: rest) pc = some (pc, some e)) ∨
          channel.mStream = none ∧ ∃ stream ∈ freeIds pc.mDataChannels maxStream first,
            assignLoop maxStream first (c :: rest) pc =
              assignLoop maxStream first rest (pc.assignTo c channel stream)) := by
  rw [assignLoop]
  cases hlock : pc.lock c with
  | none => exact .inl ⟨rfl, rfl⟩
  | some channel =>
    refine .inr ⟨channel, rfl, ?_⟩
    -- the search for a stream comes before the test for one that is already assigned
    rcases unusedStream_cases pc.mDataChannels hfirst hbound with
      ⟨stream, hmem, hunused⟩ | ⟨hempty, hunused⟩
    · right
      cases hstream : channel.mStream with
      | some s =>
        refine .inl ⟨nofun, Finset.ne_empty_of_mem hmem,
          .logicError "DataChannel already has a stream assigned", ?_⟩
        simp only [hunused, DataChannel.assignStream, hstream]
      | none =>
        refine .inr ⟨rfl, stream, hmem, ?_⟩
        simp only [hunused, DataChannel.assignStream, hstream,
          emplace_of_notMem (mem_freeIds.1 hmem).2.2]
        rfl
    · refine .inl ⟨hempty, ?_⟩
      rw [hunused]
      by_cases hmax : maxStream < 65534 + first
      · simp only [if_pos hmax]
      · simp only [if_neg hmax]

/-- What the loop keeps: the transports, the channels that are not in its list, the entries of the
table, and the shared pointers. -/
structure LoopKeeps (pending : List ℕ) (pc pc' : PeerConnection) : Prop where
  role : pc'.mIceTransport = pc.mIceTransport
  sctp : pc'.mSctpTransport = pc.mSctpTransport
  others : ∀ c ∉ pending, pc'.lock c = pc.lock c
  entries : ∀ s c, pc.mDataChannels.lookup s = some c → pc'.mDataChannels.lookup s = some c
  live : ∀ c, (pc'.lock c).isSome = (pc.lock c).isSome

/-- A round that assigns an id keeps all that. -/
theorem LoopKeeps.of_assignTo {rest : List ℕ} {stream : ℕ} {pc' : PeerConnection}
    (hlock : pc.lock c = some channel)
    (hmem : stream ∈ freeIds pc.mDataChannels maxStream first)
    (h : LoopKeeps rest (pc.assignTo c channel stream) pc') : LoopKeeps (c :: rest) pc pc' where
  role := h.role
  sctp := h.sctp
  others c' hc' := by
    rw [h.others c' (List.not_mem_of_not_mem_cons hc')]
    exact lock_assignTo_of_ne stream (List.ne_of_not_mem_cons hc').symm
  entries s c' hs :=
    h.entries s c' (Registered.lookup_insert_of_notMem hs (mem_freeIds.1 hmem).2.2)
  live c' := by
    rw [h.live]
    by_cases heq : c = c'
    · rw [← heq, lock_assignTo_self stream hlock, hlock]
      rfl
    · rw [lock_assignTo_of_ne stream heq]

theorem assignLoop_keeps (hbound : maxStream < 65536) (hfirst : first < 2) {pending : List ℕ}
    {pc pc' : PeerConnection} {thrown : Option Exception}
    (h : assignLoop maxStream first pending pc = some (pc', thrown)) :
    LoopKeeps pending pc pc' := by
  induction pending generalizing pc with
  | nil =>
    cases h
    exact ⟨rfl, rfl, fun _ _ => rfl, fun _ _ h => h, fun _ => rfl⟩
  | cons c rest ih =>
    rcases assignLoop_cons hbound hfirst c rest pc with ⟨-, hloop⟩ | ⟨channel, hlock, hround⟩
    · rw [hloop] at h
      have hrest := ih h
      exact { hrest with
        others := fun c' hc' => hrest.others c' (List.not_mem_of_not_mem_cons hc') }
    · rcases hround with ⟨-, hloop⟩ | ⟨-, -, e, hloop⟩ | ⟨-, stream, hmem, hloop⟩
      · rw [hloop] at h
        split at h
        · cases h
          exact ⟨rfl, rfl, fun _ _ => rfl, fun _ _ h => h, fun _ => rfl⟩
        · cases h
      · rw [hloop] at h
        cases h
        exact ⟨rfl, rfl, fun _ _ => rfl, fun _ _ h => h, fun _ => rfl⟩
      · rw [hloop] at h
        exact .of_assignTo hlock hmem (ih h)

/-! ## Enough ids, and too few -/

theorem lacksStream_of_lock (h : pc.lock c = some channel) (hnone : channel.mStream = none) :
    pc.lacksStream c = true := by
  rw [lacksStream, h, Option.any_some, hnone]
  rfl

theorem not_lacksStream_of_expired (h : pc.lock c = none) : ¬pc.lacksStream c = true := by
  simp [lacksStream, h]

/-- One assignment leaves the channels that are still to come as they were. -/
theorem lock_assignTo_of_mem {rest : List ℕ} (stream : ℕ) (hc : c ∉ rest) :
    ∀ c' ∈ rest, (pc.assignTo c channel stream).lock c' = pc.lock c' :=
  fun _ hc' => lock_assignTo_of_ne stream (ne_of_mem_of_not_mem hc' hc).symm

/-- They have no stream if they had none. -/
theorem noStream_assignTo {rest : List ℕ} (channel : DataChannel) (stream : ℕ) (hc : c ∉ rest)
    (hnone : ∀ c' ∈ rest, ∀ channel', pc.lock c' = some channel' → channel'.mStream = none) :
    ∀ c' ∈ rest, ∀ channel', (pc.assignTo c channel stream).lock c' = some channel' →
      channel'.mStream = none := by
  intro c' hc' channel' hlock
  rw [lock_assignTo_of_mem stream hc c' hc'] at hlock
  exact hnone c' hc' channel' hlock

theorem countP_assignTo {rest : List ℕ} (stream : ℕ) (hc : c ∉ rest) :
    rest.countP (pc.assignTo c channel stream).lacksStream = rest.countP pc.lacksStream := by
  refine List.countP_congr fun c' hc' => ?_
  rw [lacksStream, lacksStream, lock_assignTo_of_mem stream hc c' hc']

theorem card_freeIds_assignTo (c : ℕ) (channel : DataChannel) {stream : ℕ}
    (hmem : stream ∈ freeIds pc.mDataChannels maxStream first) :
    (freeIds (pc.assignTo c channel stream).mDataChannels maxStream first).card + 1 =
      (freeIds pc.mDataChannels maxStream first).card := by
  rw [assignTo, freeIds_insert]
  exact Finset.card_erase_add_one hmem

/-- With an id for every channel, each of them gets one. -/
theorem assignLoop_of_le (hbound : maxStream < 65536) (hfirst : first < 2) {pending : List ℕ}
    (hnodup : pending.Nodup)
    (hnone : ∀ c ∈ pending, ∀ channel, pc.lock c = some channel → channel.mStream = none)
    (hle : pending.countP pc.lacksStream ≤ (freeIds pc.mDataChannels maxStream first).card) :
    ∃ pc', assignLoop maxStream first pending pc = some (pc', none) ∧
      pc'.mUnassignedDataChannels = [] ∧
      ∀ c ∈ pending, pc.lacksStream c = true →
        ∃ stream ∈ freeIds pc.mDataChannels maxStream first,
          (pc'.lock c).bind (·.mStream) = some stream ∧
            pc'.mDataChannels.lookup stream = some c := by
  induction pending generalizing pc with
  | nil => exact ⟨_, rfl, rfl, fun _ hmem => (List.not_mem_nil hmem).elim⟩
  | cons c rest ih =>
    obtain ⟨hc, hnodup⟩ := List.nodup_cons.1 hnodup
    have hnone' := (List.forall_mem_cons.1 hnone).2
    rcases assignLoop_cons hbound hfirst c rest pc with ⟨hlock, hloop⟩ | ⟨channel, hlock, hround⟩
    · rw [hloop]
      have hlacks := not_lacksStream_of_expired hlock
      rw [List.countP_cons_of_neg hlacks] at hle
      -- a channel that has expired is skipped
      obtain ⟨pc', hreturned, hcleared, hassigned⟩ := ih hnodup hnone' hle
      exact ⟨pc', hreturned, hcleared,
        List.forall_mem_cons.2 ⟨fun h => absurd h hlacks, hassigned⟩⟩
    · have hstream : channel.mStream = none := hnone c List.mem_cons_self channel hlock
      rw [List.countP_cons_of_pos (lacksStream_of_lock hlock hstream)] at hle
      rcases hround with ⟨hempty, -⟩ | ⟨hsome, -⟩ | ⟨-, stream, hmem, hloop⟩
      · rw [hempty, Finset.card_empty] at hle
        omega
      · exact absurd hstream hsome
      · rw [hloop]
        have hfree := card_freeIds_assignTo c channel hmem
        have hlater := noStream_assignTo channel stream hc hnone'
        obtain ⟨pc', hreturned, hcleared, hassigned⟩ := ih hnodup hlater
          (by rw [countP_assignTo stream hc]; omega)
        have hkeeps := assignLoop_keeps hbound hfirst hreturned
        refine ⟨pc', hreturned, hcleared,
          List.forall_mem_cons.2 ⟨fun _ => ?_, fun c' hc' hlacks => ?_⟩⟩
        · -- the rounds behind this one keep its channel and its entry
          refine ⟨stream, hmem, ?_, hkeeps.entries stream c (AList.lookup_insert _)⟩
          rw [hkeeps.others c hc, lock_assignTo_self stream hlock]
          rfl
        · obtain ⟨stream', hmem', hstream'⟩ := hassigned c' hc' (by
            rw [lacksStream, lock_assignTo_of_mem stream hc c' hc']
            exact hlacks)
          rw [assignTo, freeIds_insert] at hmem'
          exact ⟨stream', Finset.mem_of_mem_erase hmem', hstream'⟩

/-- With fewer ids, all are used, the list stays, and the call throws. -/
theorem assignLoop_of_lt (hmax : maxStream < 65534 + first) (hfirst : first < 2)
    {pending : List ℕ} (hnodup : pending.Nodup)
    (hnone : ∀ c ∈ pending, ∀ channel, pc.lock c = some channel → channel.mStream = none)
    (hlt : (freeIds pc.mDataChannels maxStream first).card < pending.countP pc.lacksStream) :
    ∃ pc', assignLoop maxStream first pending pc =
        some (pc', some (.runtimeError "Too many DataChannels")) ∧
      pc'.mUnassignedDataChannels = pc.mUnassignedDataChannels ∧
      pending.countP pc'.lacksStream + (freeIds pc.mDataChannels maxStream first).card =
        pending.countP pc.lacksStream := by
  have hbound : maxStream < 65536 := by omega
  induction pending generalizing pc with
  | nil => exact absurd hlt (Nat.not_lt_zero _)
  | cons c rest ih =>
    obtain ⟨hc, hnodup⟩ := List.nodup_cons.1 hnodup
    have hnone' := (List.forall_mem_cons.1 hnone).2
    rcases assignLoop_cons hbound hfirst c rest pc with ⟨hlock, hloop⟩ | ⟨channel, hlock, hround⟩
    · rw [hloop]
      have hlacks := not_lacksStream_of_expired hlock
      rw [List.countP_cons_of_neg hlacks] at hlt ⊢
      obtain ⟨pc', hthrew, hkept, hcount⟩ := ih hnodup hnone' hlt
      refine ⟨pc', hthrew, hkept, ?_⟩
      rw [List.countP_cons_of_neg, hcount]
      rw [lacksStream, (assignLoop_keeps hbound hfirst hthrew).others c hc, hlock]
      simp
    · have hstream : channel.mStream = none := hnone c List.mem_cons_self channel hlock
      rw [List.countP_cons_of_pos (lacksStream_of_lock hlock hstream)] at hlt ⊢
      rcases hround with ⟨hempty, hloop⟩ | ⟨hsome, -⟩ | ⟨-, stream, hmem, hloop⟩
      · -- the loop stops here: no channel of the rest has got a stream
        rw [hloop, hempty, if_pos hmax]
        refine ⟨pc, rfl, rfl, ?_⟩
        rw [List.countP_cons_of_pos (lacksStream_of_lock hlock hstream), Finset.card_empty]
      · exact absurd hstream hsome
      · rw [hloop]
        have hfree := card_freeIds_assignTo c channel hmem
        have hlater := noStream_assignTo channel stream hc hnone'
        obtain ⟨pc', hthrew, hlist, hcount⟩ := ih hnodup hlater
          (by rw [countP_assignTo stream hc]; omega)
        refine ⟨pc', hthrew, hlist, ?_⟩
        -- one id and one channel less
        rw [countP_assignTo stream hc] at hcount
        rw [List.countP_cons_of_neg]
        · omega
        · rw [lacksStream, (assignLoop_keeps hbound hfirst hthrew).others c hc,
            lock_assignTo_self stream hlock]
          simp

/-- With fewer ids, and the last one the last 16-bit id of its parity, the call does not return. -/
theorem assignLoop_endless (hmax : 65534 + first ≤ maxStream) (hbound : maxStream < 65536)
    (hfirst : first < 2) {pending : List ℕ} (hnodup : pending.Nodup)
    (hnone : ∀ c ∈ pending, ∀ channel, pc.lock c = some channel → channel.mStream = none)
    (hlt : (freeIds pc.mDataChannels maxStream first).card < pending.countP pc.lacksStream) :
    assignLoop maxStream first pending pc = none := by
  induction pending generalizing pc with
  | nil => exact absurd hlt (Nat.not_lt_zero _)
  | cons c rest ih =>
    obtain ⟨hc, hnodup⟩ := List.nodup_cons.1 hnodup
    have hnone' := (List.forall_mem_cons.1 hnone).2
    rcases assignLoop_cons hbound hfirst c rest pc with ⟨hlock, hloop⟩ | ⟨channel, hlock, hround⟩
    · rw [List.countP_cons_of_neg (not_lacksStream_of_expired hlock)] at hlt
      rw [hloop]
      exact ih hnodup hnone' hlt
    · have hstream : channel.mStream = none := hnone c List.mem_cons_self channel hlock
      rw [List.countP_cons_of_pos (lacksStream_of_lock hlock hstream)] at hlt
      rcases hround with ⟨-, hloop⟩ | ⟨hsome, -⟩ | ⟨-, stream, hmem, hloop⟩
      · rw [hloop, if_neg (not_lt.2 hmax)]
      · exact absurd hstream hsome
      · have hfree := card_freeIds_assignTo c channel hmem
        rw [hloop]
        refine ih hnodup (noStream_assignTo channel stream hc hnone') ?_
        rw [countP_assignTo stream hc]
        omega

/-- Without any id the call throws before it assigns one. -/
theorem assignLoop_of_empty {pending : List ℕ}
    (hempty : freeIds pc.mDataChannels maxStream first = ∅) (hmax : maxStream < 65534 + first)
    (hfirst : first < 2) (hlt : 0 < pending.countP pc.lacksStream) :
    assignLoop maxStream first pending pc =
      some (pc, some (.runtimeError "Too many DataChannels")) := by
  have hbound : maxStream < 65536 := by omega
  induction pending with
  | nil => exact absurd hlt (Nat.not_lt_zero _)
  | cons c rest ih =>
    rcases assignLoop_cons hbound hfirst c rest pc with ⟨hlock, hloop⟩ | ⟨channel, -, hround⟩
    · have hlacks := not_lacksStream_of_expired hlock
      rw [List.countP_cons_of_neg hlacks] at hlt
      rw [hloop]
      exact ih hlt
    · rcases hround with ⟨-, hloop⟩ | ⟨-, hne, -⟩ | ⟨-, stream, hmem, -⟩
      · rw [hloop, if_pos hmax]
      · exact absurd hempty hne
      · rw [hempty] at hmem
        exact absurd hmem (Finset.notMem_empty stream)

/-- With a channel in the list that has a stream the call does not succeed. -/
theorem assignLoop_stuck (hbound : maxStream < 65536) (hfirst : first < 2) {pending : List ℕ}
    (hc : c ∈ pending) (hlock : pc.lock c = some channel) (hsome : channel.mStream ≠ none)
    (pc' : PeerConnection) : assignLoop maxStream first pending pc ≠ some (pc', none) := by
  induction pending generalizing pc with
  | nil => exact (List.not_mem_nil hc).elim
  | cons c' rest ih =>
    rcases assignLoop_cons hbound hfirst c' rest pc with
      ⟨hdead, hloop⟩ | ⟨channel', hlock', hround⟩
    · have hne : c ≠ c' := by
        rintro rfl
        rw [hlock] at hdead
        cases hdead
      rw [hloop]
      exact ih (List.mem_of_ne_of_mem hne hc) hlock
    · rcases hround with ⟨-, hloop⟩ | ⟨-, -, e, hloop⟩ | ⟨hnone, stream, -, hloop⟩
      · rw [hloop]
        split <;> simp
      · rw [hloop]
        simp
      · have hne : c' ≠ c := by
          rintro rfl
          obtain rfl := Option.some.inj (hlock.symm.trans hlock')
          exact hsome hnone
        rw [hloop]
        refine ih (List.mem_of_ne_of_mem hne.symm hc) ?_
        rw [lock_assignTo_of_ne stream hne, hlock]

/-! ## The whole call -/

variable {role : Description.Role}

theorem parity_lt_two (role : Description.Role) : parity role < 2 := by
  unfold parity
  split <;> omega

theorem assignDataChannels_eq (hice : pc.mIceTransport = some role) :
    pc.assignDataChannels =
      assignLoop pc.maxDataChannelStream (parity role) pc.mUnassignedDataChannels pc := by
  rw [assignDataChannels, hice]

theorem length_needing : pc.needing.length = pc.mUnassignedDataChannels.countP pc.lacksStream :=
  List.countP_eq_length_filter.symm

/-- With an id for every channel that needs one. -/
theorem assignsAll_of_le (hice : pc.mIceTransport = some role) (h : pc.Waiting)
    (hle : pc.needing.length ≤
      (freeIds pc.mDataChannels pc.maxDataChannelStream (parity role)).card) :
    pc.AssignsAll role := by
  rw [length_needing] at hle
  obtain ⟨pc', hreturned, hcleared, hassigned⟩ :=
    assignLoop_of_le pc.maxDataChannelStream_lt (parity_lt_two role) h.nodup h.noStream hle
  rw [← assignDataChannels_eq hice] at hreturned
  have hneeding : ∀ c ∈ pc.needing,
      ∃ stream ∈ freeIds pc.mDataChannels pc.maxDataChannelStream (parity role),
        (pc'.lock c).bind (·.mStream) = some stream ∧
          pc'.mDataChannels.lookup stream = some c := by
    intro c hc
    obtain ⟨hmem, hlacks⟩ := List.mem_filter.1 hc
    exact hassigned c hmem hlacks
  refine ⟨pc', hreturned, hcleared, hneeding, fun c hc c' hc' hsame => ?_⟩
  -- the table has one channel under each id
  obtain ⟨stream, -, hstream, hlookup⟩ := hneeding c hc
  obtain ⟨stream', -, hstream', hlookup'⟩ := hneeding c' hc'
  rw [hstream, hstream'] at hsame
  obtain rfl := Option.some.inj hsame
  exact Option.some.inj (hlookup.symm.trans hlookup')

/-! ## The state it leaves behind -/

/-- What a call that runs out of ids leaves behind. -/
theorem assignDataChannels_of_lt (hice : pc.mIceTransport = some role) (h : pc.Waiting)
    (hmax : pc.maxDataChannelStream < 65534 + parity role)
    (hlt : (freeIds pc.mDataChannels pc.maxDataChannelStream (parity role)).card <
      pc.needing.length) :
    ∃ pc', pc.assignDataChannels = some (pc', some (.runtimeError "Too many DataChannels")) ∧
      pc'.mUnassignedDataChannels = pc.mUnassignedDataChannels ∧
      pc'.needing.length +
          (freeIds pc.mDataChannels pc.maxDataChannelStream (parity role)).card =
        pc.needing.length := by
  rw [length_needing] at hlt
  obtain ⟨pc', hthrew, hlist, hcount⟩ :=
    assignLoop_of_lt hmax (parity_lt_two role) h.nodup h.noStream hlt
  rw [← assignDataChannels_eq hice] at hthrew
  exact ⟨pc', hthrew, hlist, by rw [length_needing, length_needing, hlist, hcount]⟩

/-- A call that runs out of ids does not return when the last one is the last of its parity. -/
theorem assignDataChannels_endless (hice : pc.mIceTransport = some role) (h : pc.Waiting)
    (hmax : 65534 + parity role ≤ pc.maxDataChannelStream)
    (hlt : (freeIds pc.mDataChannels pc.maxDataChannelStream (parity role)).card <
      pc.needing.length) : pc.assignDataChannels = none := by
  rw [length_needing] at hlt
  rw [assignDataChannels_eq hice]
  exact assignLoop_endless hmax pc.maxDataChannelStream_lt (parity_lt_two role) h.nodup
    h.noStream hlt

theorem assignDataChannels_keeps {pc' : PeerConnection} {thrown : Option Exception}
    (hice : pc.mIceTransport = some role) (h : pc.assignDataChannels = some (pc', thrown)) :
    LoopKeeps pc.mUnassignedDataChannels pc pc' := by
  rw [assignDataChannels_eq hice] at h
  exact assignLoop_keeps pc.maxDataChannelStream_lt (parity_lt_two role) h

theorem LoopKeeps.maxDataChannelStream {pending : List ℕ} {pc' : PeerConnection}
    (h : LoopKeeps pending pc pc') : pc'.maxDataChannelStream = pc.maxDataChannelStream := by
  rw [PeerConnection.maxDataChannelStream, PeerConnection.maxDataChannelStream, h.sctp]

/-- The state after some entries have been removed from the table. -/
structure Freed (pc later : PeerConnection) (freed : List ℕ) : Prop where
  lock : later.lock = pc.lock
  unassigned : later.mUnassignedDataChannels = pc.mUnassignedDataChannels
  ice : later.mIceTransport = pc.mIceTransport
  maxStream : later.maxDataChannelStream = pc.maxDataChannelStream
  table : ∀ stream, stream ∈ later.mDataChannels ↔ stream ∈ pc.mDataChannels ∧ stream ∉ freed

theorem freed_foldl (freed : List ℕ) (pc : PeerConnection) :
    Freed pc (freed.foldl removeDataChannel pc) freed := by
  induction freed generalizing pc with
  | nil => exact ⟨rfl, rfl, rfl, rfl, fun stream => by simp⟩
  | cons s freed ih =>
    have hrest := ih (pc.removeDataChannel s)
    refine ⟨hrest.lock, hrest.unassigned, hrest.ice, hrest.maxStream, fun stream => ?_⟩
    rw [List.foldl_cons, hrest.table, removeDataChannel, AList.mem_erase, List.mem_cons]
    tauto

namespace Freed

variable {later : PeerConnection} {freed : List ℕ}

theorem needing (h : Freed pc later freed) : later.needing = pc.needing := by
  rw [PeerConnection.needing, PeerConnection.needing, h.unassigned]
  refine List.filter_congr fun c _ => ?_
  rw [lacksStream, lacksStream, h.lock]

theorem waiting (h : Freed pc later freed) (hwaiting : pc.Waiting) : later.Waiting := by
  refine ⟨by rw [h.unassigned]; exact hwaiting.nodup, ?_⟩
  rw [h.unassigned, h.lock]
  exact hwaiting.noStream

/-- Removing every id frees all of them. -/
theorem freeIds_range (h : Freed pc later (List.range (maxStream + 1))) :
    freeIds later.mDataChannels maxStream first = freeIds ∅ maxStream first := by
  ext stream
  rw [mem_freeIds, mem_freeIds, h.table, List.mem_range, Nat.lt_succ_iff]
  simp only [AList.notMem_empty, not_false_eq_true, and_true]
  tauto

/-- After a call that assigned some of the streams, no call assigns the others. -/
theorem not_assignsAll {pc' : PeerConnection} {thrown : Option Exception}
    (hice : pc.mIceTransport = some role) (hcall : pc.assignDataChannels = some (pc', thrown))
    (hlist : pc'.mUnassignedDataChannels = pc.mUnassignedDataChannels)
    (hfewer : pc'.needing.length < pc.needing.length) (h : Freed pc' later freed) :
    ¬later.AssignsAll role := by
  rintro ⟨pc'', hreturned, -⟩
  have hkeeps := assignDataChannels_keeps hice hcall
  -- one of the channels that needed a stream has one
  obtain ⟨c, hc, hlacked, hhas⟩ : ∃ c ∈ pc.mUnassignedDataChannels, pc.lacksStream c = true ∧
      ¬pc'.lacksStream c = true := by
    by_contra hnone
    push Not at hnone
    have hmono := List.countP_mono_left hnone
    rw [← length_needing, ← hlist, ← length_needing] at hmono
    omega
  have hlive : (later.lock c).isSome = true := by
    rw [h.lock, hkeeps.live]
    exact Option.isSome_of_any hlacked
  obtain ⟨channel, hlock⟩ := Option.isSome_iff_exists.1 hlive
  have hstream : channel.mStream ≠ none := by
    intro hnone
    rw [h.lock] at hlock
    exact hhas (lacksStream_of_lock hlock hnone)
  rw [← hlist, ← h.unassigned] at hc
  rw [assignDataChannels_eq (h.ice.trans (hkeeps.role.trans hice))] at hreturned
  exact assignLoop_stuck later.maxDataChannelStream_lt (parity_lt_two role) hc hlock hstream
    pc'' hreturned

end Freed

/-- The free ids are among all ids of the parity. -/
theorem card_freeIds_le (table : AList (fun _ : ℕ => ℕ)) (maxStream first : ℕ) :
    (freeIds table maxStream first).card ≤ (freeIds ∅ maxStream first).card := by
  refine Finset.card_le_card fun stream hmem => ?_
  obtain ⟨hle, hparity, -⟩ := mem_freeIds.1 hmem
  exact mem_freeIds.2 ⟨hle, hparity, AList.notMem_empty stream⟩

/-- **Running out of stream ids.** The call assigns all streams, or it can be repeated when enough
ids are free, unless it gives some of the channels a stream and leaves others without, or does not
return; nothing is asked where these others are more than all the ids. -/
theorem recovers_iff (hice : pc.mIceTransport = some role) (h : pc.Waiting) :
    pc.Recovers role ↔
      pc.needing.length ≤ (freeIds pc.mDataChannels pc.maxDataChannelStream (parity role)).card ∨
        pc.maxDataChannelStream < 65534 + parity role ∧
          (freeIds pc.mDataChannels pc.maxDataChannelStream (parity role) = ∅ ∨
            (freeIds ∅ pc.maxDataChannelStream (parity role)).card <
              pc.needing.length -
                (freeIds pc.mDataChannels pc.maxDataChannelStream (parity role)).card) := by
  by_cases hle : pc.needing.length ≤
      (freeIds pc.mDataChannels pc.maxDataChannelStream (parity role)).card
  · exact ⟨fun _ => .inl hle, fun _ => .inl (assignsAll_of_le hice h hle)⟩
  by_cases hmax : pc.maxDataChannelStream < 65534 + parity role
  · obtain ⟨pc', hthrew, hlist, hcount⟩ := assignDataChannels_of_lt hice h hmax (not_le.1 hle)
    have hkeeps := assignDataChannels_keeps hice hthrew
    constructor
    · rintro (⟨pc'', hreturned, -⟩ | ⟨pc'', hcall, hlater⟩)
      · rw [hthrew] at hreturned
        cases hreturned
      · rw [hthrew] at hcall
        cases hcall
        by_contra hmiss
        simp only [hle, hmax, true_and, false_or, not_or] at hmiss
        have hsome := Finset.card_pos.2 (Finset.nonempty_iff_ne_empty.2 hmiss.1)
        -- all ids are removed, which is enough for the channels that are left
        have hfreed := freed_foldl (List.range (pc.maxDataChannelStream + 1)) pc'
        refine hfreed.not_assignsAll hice hthrew hlist (by omega) (hlater _ ?_)
        rw [hfreed.needing, hfreed.maxStream, hkeeps.maxDataChannelStream, hfreed.freeIds_range]
        omega
    · intro hcases
      refine .inr ⟨pc', hthrew, fun freed => ?_⟩
      intro later henough
      have hfreed : Freed pc' later freed := freed_foldl freed _
      rcases hcases with hle' | ⟨-, hempty | hmany⟩
      · exact absurd hle' hle
      · -- nothing was assigned, so the state is the one before the call
        have hsame : pc' = pc := by
          rw [assignDataChannels_eq hice, assignLoop_of_empty hempty hmax (parity_lt_two role)
            (by rw [← length_needing]; omega)] at hthrew
          cases hthrew
          rfl
        rw [hsame] at hfreed
        exact assignsAll_of_le (hfreed.ice.trans hice) (hfreed.waiting h) henough
      · rw [hfreed.needing, hfreed.maxStream, hkeeps.maxDataChannelStream] at henough
        have hcapacity :=
          card_freeIds_le later.mDataChannels pc.maxDataChannelStream (parity role)
        omega
  · -- the search goes round in 16 bits
    have hendless := assignDataChannels_endless hice h (not_lt.1 hmax) (not_le.1 hle)
    constructor
    · rintro (⟨pc', hreturned, -⟩ | ⟨pc', hthrew, -⟩)
      · rw [hendless] at hreturned
        cases hreturned
      · rw [hendless] at hthrew
        cases hthrew
    · rintro (hle' | ⟨hmax', -⟩)
      · exact absurd hle' hle
      · exact absurd hmax' hmax

/-- Channels are created before the transport is connected, the first one with an explicit id; the
transport then has three streams, of which the ids 0 and 2 are even. -/
def crowdedRun (channels : ℕ) : List Operation :=
  .ice (some .active) :: .emplaceDataChannel [] { id := some 0 } ::
    (List.replicate channels (.emplaceDataChannel [] {}) ++
      [.sctp (some { state := .connected, mNegotiatedStreamsCount := some 3 })])

/-- The state at the end of the run. -/
def crowded (channels : ℕ) : PeerConnection :=
  (Transition.run perform {} (crowdedRun channels)).getD {}

/-- What the call leaves behind at the end of the run, and the removal of id 0 from that. -/
def crowdedFreed (channels : ℕ) : PeerConnection :=
  (((crowded channels).assignDataChannels.map Prod.fst).getD {}).removeDataChannel 0

/-- With one channel there is an id for it. -/
theorem recovers_crowded : (crowded 1).Recovers .active :=
  (recovers_iff rfl ⟨by decide, by decide⟩).2 (.inl (by decide))

/-- With two channels the first one gets the free id; when the other id has been removed from the
table, the call throws on the first channel, which has a stream. -/
theorem not_recovers_crowded :
    ¬∀ (pc : PeerConnection) (role : Description.Role), pc.mIceTransport = some role →
      pc.Waiting → pc.Recovers role := by
  intro h
  have hthrew : (crowded 2).assignDataChannels.map (·.2) =
      some (some (.runtimeError "Too many DataChannels")) := by decide
  have hthrows : (crowdedFreed 2).assignDataChannels.map (·.2) =
      some (some (.logicError "DataChannel already has a stream assigned")) := by decide
  rcases h (crowded 2) .active rfl ⟨by decide, by decide⟩ with
    ⟨pc', hreturned, -⟩ | ⟨pc', hcall, hlater⟩
  · rw [hreturned] at hthrew
    cases hthrew
  · have hfreed : [0].foldl removeDataChannel pc' = crowdedFreed 2 := by
      simp [crowdedFreed, hcall]
    have hagain := hlater [0]
    rw [hfreed] at hagain
    obtain ⟨pc'', hreturned, -⟩ := hagain (by decide)
    rw [hreturned] at hthrows
    cases hthrows

end Rtc.PeerConnection
