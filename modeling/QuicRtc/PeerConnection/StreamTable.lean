import QuicRtc.DataChannel.Spec
import QuicRtc.Lib.Transition
import QuicRtc.PeerConnection.Spec

/-!
# The stream table

The id of a channel is stored twice: in the channel and as a key of `mDataChannels`, and `emplace`
does nothing when the key exists. The two agree in every run in which `emplaceDataChannel` is not
given an explicit id that is already a key.

* `Registered`: every live channel with a stream that was not reset is the one registered there.
* `Registered.step`: every operation preserves it, given an unused explicit id.
* `findDataChannel_complete`: the property of whole runs.
-/

namespace Rtc.PeerConnection

/-- The operations on the data channels of a peer connection, and the changes of its transports
and of the order of its table between them. -/
inductive Operation where
  | emplaceDataChannel (label : List UInt8) (init : DataChannelInit)
  | assignDataChannels
  | openDataChannels
  | forwardMessage (message : Option Message)
  | removeDataChannel (stream : ℕ)
  | close (c : ℕ)
  | destroy (c : ℕ)
  | ice (role : Option Description.Role)
  | sctp (status : Option SctpStatus)
  | rehash (table : AList (fun _ : ℕ => ℕ))

/-- Execute an operation. Its exception, if any, goes to the caller. There is no step for a call
that does not return. -/
def perform (pc : PeerConnection) : Operation → Option PeerConnection
  | .emplaceDataChannel label init => (pc.emplaceDataChannel label init).map (·.1)
  | .assignDataChannels => pc.assignDataChannels.map (·.1)
  | .openDataChannels => some pc.openDataChannels
  | .forwardMessage message => some (pc.forwardMessage message).1
  | .removeDataChannel stream => some (pc.removeDataChannel stream)
  | .close c => some (pc.call c DataChannel.close).1
  | .destroy c => some (pc.destroy c)
  | .ice role => some { pc with mIceTransport := role }
  | .sctp status => some { pc with mSctpTransport := status }
  | .rehash table => pc.rehash table

/-- An explicit id passed to `emplaceDataChannel`, unless it is too high, is not a key of
`mDataChannels`. -/
def UnusedId (pc : PeerConnection) : Operation → Prop
  | .emplaceDataChannel _ init =>
    ∀ stream ∈ init.id, stream ≤ pc.maxDataChannelStream → stream ∉ pc.mDataChannels
  | _ => True

instance (pc : PeerConnection) : DecidablePred (UnusedId pc)
  | .emplaceDataChannel _ init =>
    inferInstanceAs (Decidable (∀ stream ∈ init.id,
      stream ≤ pc.maxDataChannelStream → stream ∉ pc.mDataChannels))
  | .assignDataChannels => isTrue trivial
  | .openDataChannels => isTrue trivial
  | .forwardMessage _ => isTrue trivial
  | .removeDataChannel _ => isTrue trivial
  | .close _ => isTrue trivial
  | .destroy _ => isTrue trivial
  | .ice _ => isTrue trivial
  | .sctp _ => isTrue trivial
  | .rehash _ => isTrue trivial

/-- Every live channel with a stream that was not reset is registered on it. -/
def Registered (pc : PeerConnection) : Prop :=
  ∀ c o stream, pc.objects[c]? = some o → o.live = true → o.channel.mStream = some stream →
    c ∉ pc.removed → pc.mDataChannels.lookup stream = some c

namespace Registered

variable {pc : PeerConnection}

/-- Objects may change as long as none becomes live or changes its stream. -/
theorem of_objects (h : Registered pc) {pc' : PeerConnection}
    (htable : pc'.mDataChannels = pc.mDataChannels) (hremoved : pc'.removed = pc.removed)
    (hobjects : ∀ (c : ℕ) (o' : Object), pc'.objects[c]? = some o' → o'.live = true →
      ∃ o, pc.objects[c]? = some o ∧ o.live = true ∧ o.channel.mStream = o'.channel.mStream) :
    Registered pc' := by
  intro c o' stream hc hlive hstream hnot
  obtain ⟨o, ho, hlive', hsame⟩ := hobjects c o' hc hlive
  rw [htable]
  exact h c o stream ho hlive' (hsame.trans hstream) (hremoved ▸ hnot)

/-- A call on a channel leaves its stream. -/
theorem call (h : Registered pc) (c : ℕ) {function : DataChannel → DataChannel.Outcome}
    (hkeeps : ∀ ch, DataChannel.Keeps ch (function ch).channel) :
    Registered (pc.call c function).1 := by
  obtain ⟨htable, -, hremoved, -⟩ := call_frame pc c function
  refine h.of_objects htable hremoved ?_
  intro c' o' hc' hlive
  rw [getElem?_objects_call, Option.map_eq_some_iff] at hc'
  obtain ⟨o, ho, rfl⟩ := hc'
  refine ⟨o, ho, ?_, ?_⟩
  · split at hlive <;> exact hlive
  · split
    · exact (hkeeps o.channel).mStream.symm
    · rfl

/-- An entry is not shadowed by one on an unused stream. -/
theorem lookup_insert_of_notMem {table : AList (fun _ : ℕ => ℕ)} {s stream c c' : ℕ}
    (hlookup : table.lookup s = some c) (hfree : stream ∉ table) :
    (table.insert stream c').lookup s = some c := by
  have hne : s ≠ stream := by
    rintro rfl
    exact hfree (AList.lookup_isSome.1 (by rw [hlookup]; rfl))
  rw [AList.lookup_insert_ne hne]
  exact hlookup

/-- A new object that is registered on an unused stream. -/
theorem insert (h : Registered pc) {channel : DataChannel} {stream : ℕ}
    (hstream : channel.mStream = some stream) (hfree : stream ∉ pc.mDataChannels) :
    Registered
      { pc with
        objects := pc.objects ++ [{ channel }]
        mDataChannels := pc.mDataChannels.insert stream pc.objects.length
        assigned := pc.assigned ++ [pc.objects.length] } := by
  intro c o s hc hlive hs hnot
  rcases getElem?_objects_append.1 hc with hold | ⟨rfl, rfl⟩
  · -- an older object: its stream is used, so it is another one
    exact lookup_insert_of_notMem (h c o s hold hlive hs hnot) hfree
  · obtain rfl : stream = s := Option.some.inj (hstream.symm.trans hs)
    exact AList.lookup_insert _

/-- Every elementary change preserves the property. -/
theorem change (h : Registered pc) {pc' : PeerConnection} (hchange : Change pc pc') :
    Registered pc' := by
  cases hchange with
  | close c => exact h.call c DataChannel.keeps_close
  | incoming c message => exact h.call c fun ch => DataChannel.keeps_incoming ch message
  | destroy c =>
    obtain ⟨htable, -, hremoved, -⟩ := destroy_frame pc c
    refine h.of_objects htable hremoved ?_
    intro c' o' hc' hlive
    rw [getElem?_objects_destroy, Option.map_eq_some_iff] at hc'
    obtain ⟨o, ho, rfl⟩ := hc'
    split at hlive
    · cases hlive
    · next hne => exact ⟨o, ho, hlive, by rw [if_neg hne]⟩
  | @assign c stream channel role hlock hnone hrole hparity hmax hfree =>
    obtain ⟨o, ho, hlive, rfl⟩ := lock_eq_some.1 hlock
    intro c' o' s hc' hlive' hs hnot
    simp only [setChannel, List.getElem?_modify, Option.map_eq_map,
      Option.map_eq_some_iff] at hc'
    obtain ⟨o'', ho'', rfl⟩ := hc'
    -- the channel assigned is registered by the same change; the others keep their entries
    by_cases heq : c = c'
    · rw [if_pos heq] at hs
      obtain rfl : stream = s := Option.some.inj hs
      rw [heq]
      exact AList.lookup_insert _
    · rw [if_neg heq] at hs hlive'
      exact lookup_insert_of_notMem (h c' o'' s ho'' hlive' hs hnot) hfree
  | settle => exact h
  | accept hrole hparity hfree hbound => exact h.insert rfl hfree
  | rehash hperm =>
    intro c o s hc hlive hs hnot
    exact (AList.perm_lookup hperm).trans (h c o s hc hlive hs hnot)
  | handReset stream => exact h

theorem changes {pc' : PeerConnection} (h : Registered pc) (hchanges : Changes pc pc') :
    Registered pc' :=
  hchanges.invariant (fun _ _ h hchange => h.change hchange) h

/-- Removing an entry resets the channel registered there. -/
theorem removeDataChannel (h : Registered pc) (stream : ℕ) :
    Registered (pc.removeDataChannel stream) := by
  intro c o s hc hlive hs hnot
  simp only [PeerConnection.removeDataChannel, List.mem_append, not_or,
    Option.mem_toList] at hnot
  have hlookup := h c o s hc hlive hs hnot.1
  have hne : s ≠ stream := by
    rintro rfl
    exact hnot.2 hlookup
  exact (AList.lookup_erase_ne hne).trans hlookup

/-- Creation of a channel, with an explicit id that is unused. -/
theorem registerDataChannel (h : Registered pc) (label : List UInt8) {init : DataChannelInit}
    (hid : ∀ stream ∈ init.id, stream ≤ pc.maxDataChannelStream → stream ∉ pc.mDataChannels) :
    Registered (pc.registerDataChannel label init).1 := by
  rcases registerDataChannel_cases pc label init with
    ⟨e, hreg⟩ | ⟨hnone, hreg⟩ | ⟨stream, hsome, hmax, hreg⟩
  · rw [hreg]
    exact h
  · rw [hreg]
    intro c o s hc hlive hs hnot
    rcases getElem?_objects_append.1 hc with hold | ⟨rfl, rfl⟩
    · exact h c o s hold hlive hs hnot
    · -- the new channel waits for a stream and claims none
      rw [show (created label init).mStream = none from hnone] at hs
      cases hs
  · rw [hreg]
    have hfree := hid stream hsome hmax
    rw [emplace_of_notMem hfree]
    exact h.insert hsome hfree

theorem emplaceDataChannel (h : Registered pc) {pc' : PeerConnection} {label : List UInt8}
    {init : DataChannelInit} {created : Except Exception ℕ}
    (hid : ∀ stream ∈ init.id, stream ≤ pc.maxDataChannelStream → stream ∉ pc.mDataChannels)
    (hcall : pc.emplaceDataChannel label init = some (pc', created)) : Registered pc' := by
  have hregistered := h.registerDataChannel label hid
  rcases emplaceDataChannel_cases hcall with rfl | ⟨pc₁, c, pc₂, thrown, hreg, hassign, hemplace⟩
  · exact hregistered
  · rw [hreg] at hregistered
    -- the streams are assigned and the channel opened, then it is destroyed if one of the two threw
    have hassigned := hregistered.changes (assignDataChannels_changes hassign)
    have hopened := hassigned.call c DataChannel.keeps_openOn
    rcases hemplace with rfl | rfl | rfl
    · exact hassigned.changes (destroy_changes _ c)
    · exact hopened
    · exact hopened.changes (destroy_changes _ c)

theorem openDataChannels (h : Registered pc) : Registered pc.openDataChannels := by
  have hkeeps : ∀ ch, DataChannel.Keeps ch (openUnlessOpen ch).channel := by
    intro ch
    unfold openUnlessOpen
    split
    · exact DataChannel.Keeps.refl ch
    · exact DataChannel.keeps_openOn ch
  -- by induction on the channels of the sweep, `open` keeping the stream of each
  have hsweep : ∀ (cs : List ℕ) (pc : PeerConnection), Registered pc →
      Registered (cs.foldl (fun pc c => (pc.call c openUnlessOpen).1) pc) := by
    intro cs
    induction cs with
    | nil => exact fun _ h => h
    | cons c rest ih => exact fun pc h => ih _ (h.call c hkeeps)
  unfold PeerConnection.openDataChannels
  split
  · exact hsweep _ pc h
  · exact h

theorem forwardMessage (h : Registered pc) (message : Option Message) :
    Registered (pc.forwardMessage message).1 := by
  -- only a reset removes an entry, and it also ends the claim of the channel
  by_cases hreset : ∃ m ∈ message, m.type = .reset
  · obtain ⟨m, rfl, hm⟩ := hreset
    rcases forwardMessage_reset pc hm with hsame | ⟨c, -, hforward⟩
    · rw [hsame]
      exact h
    · rw [hforward]
      split
      · exact (h.removeDataChannel _).call c fun ch => DataChannel.keeps_incoming ch m
      · exact h.removeDataChannel _
  · push Not at hreset
    exact h.changes (forwardMessage_changes pc message hreset)

/-- Every operation preserves the property, given an unused explicit id. -/
theorem step {operation : Operation} {pc' : PeerConnection} (h : Registered pc)
    (hok : UnusedId pc operation) (hstep : pc.perform operation = some pc') : Registered pc' := by
  -- only a new channel with an id of its own takes an entry that may be in use
  cases operation with
  | emplaceDataChannel label init =>
    obtain ⟨⟨_, created⟩, hcall, rfl⟩ := Option.map_eq_some_iff.1 hstep
    exact h.emplaceDataChannel hok hcall
  | assignDataChannels =>
    obtain ⟨⟨_, thrown⟩, hcall, rfl⟩ := Option.map_eq_some_iff.1 hstep
    exact h.changes (assignDataChannels_changes hcall)
  | openDataChannels =>
    cases hstep
    exact h.openDataChannels
  | forwardMessage message =>
    cases hstep
    exact h.forwardMessage message
  | removeDataChannel stream =>
    cases hstep
    exact h.removeDataChannel stream
  | close c =>
    cases hstep
    exact h.call c DataChannel.keeps_close
  | destroy c =>
    cases hstep
    exact h.changes (destroy_changes pc c)
  | ice role =>
    cases hstep
    exact h
  | sctp status =>
    cases hstep
    exact h
  | rehash table => exact h.changes (rehash_changes hstep)

end Registered

/-- In every run from a new peer connection in which explicit ids are unused, `findDataChannel`
returns every live channel for its stream, until the stream is reset, and no two of them share a
stream. -/
theorem findDataChannel_complete {operations : List Operation} {pc : PeerConnection}
    (hrun : Transition.run perform {} operations = some pc)
    (hok : Transition.Meets perform UnusedId {} operations) :
    (∀ c channel stream, pc.lock c = some channel → channel.mStream = some stream →
        c ∉ pc.removed → pc.findDataChannel stream = (some c, true)) ∧
      ∀ c c' channel channel' stream, pc.lock c = some channel → pc.lock c' = some channel' →
        channel.mStream = some stream → channel'.mStream = some stream →
        c ∉ pc.removed → c' ∉ pc.removed → c = c' := by
  have hstart : Registered {} := by
    intro c o stream hc
    simp at hc
  have h : Registered pc := Transition.run_invariant
    (fun _ _ _ hw hstepOk hstep => hw.step hstepOk hstep) hstart hok hrun
  have hlookup : ∀ c channel stream, pc.lock c = some channel →
      channel.mStream = some stream → c ∉ pc.removed →
      pc.mDataChannels.lookup stream = some c := by
    intro c channel stream hlock hstream hnot
    obtain ⟨o, ho, hlive, rfl⟩ := lock_eq_some.1 hlock
    exact h c o stream ho hlive hstream hnot
  constructor
  · intro c channel stream hlock hstream hnot
    simp [findDataChannel, hlookup c channel stream hlock hstream hnot, hlock]
  · intro c c' channel channel' stream hlock hlock' hstream hstream' hnot hnot'
    have h₁ := hlookup c channel stream hlock hstream hnot
    have h₂ := hlookup c' channel' stream hlock' hstream' hnot'
    exact Option.some.inj (h₁.symm.trans h₂)

/-- Channels with an explicit and an assigned id, an OPEN message of the peer, a reset, and the id
used again. -/
def reuseRun : List Operation :=
  [.ice (some .passive), .emplaceDataChannel [] { id := some 1 },
    .sctp (some { state := .connected }), .emplaceDataChannel [] {},
    .forwardMessage (some (DataChannel.plainOpenMessage 4)),
    .forwardMessage (some (DataChannel.resetMessage 3)),
    .emplaceDataChannel [] { id := some 3 }]

theorem findDataChannel_complete_reuseRun :
    ∃ pc, Transition.run perform {} reuseRun = some pc ∧
      Transition.Meets perform UnusedId {} reuseRun ∧
      (pc.lock 3).bind (·.mStream) = some 3 ∧ pc.findDataChannel 3 = (some 3, true) := by
  have hok : Transition.Meets perform UnusedId {} reuseRun := by decide
  exact ⟨_, rfl, hok, by decide, (findDataChannel_complete rfl hok).1 3 _ 3 rfl rfl (by decide)⟩

/-- A second channel with an explicit id in use is not registered: `findDataChannel` returns the
first one, and both are live on the same stream. -/
theorem findDataChannel_duplicate_id :
    ∃ pc, Transition.run perform {}
        [.emplaceDataChannel [] { id := some 5 }, .emplaceDataChannel [] { id := some 5 }] =
          some pc ∧
      (pc.lock 0).bind (·.mStream) = some 5 ∧ (pc.lock 1).bind (·.mStream) = some 5 ∧
      pc.removed = [] ∧ pc.findDataChannel 5 = (some 0, true) :=
  ⟨_, rfl, by decide, by decide, by decide, by decide⟩

end Rtc.PeerConnection
