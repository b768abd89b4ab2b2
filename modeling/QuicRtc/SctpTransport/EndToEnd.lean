import Mathlib.Data.List.Forall2
import QuicRtc.SctpTransport.Chunks
import QuicRtc.SctpTransport.Order

/-!
# Two transports, end to end

The send path of one transport and the receive path of another, with an association of usrsctp
between them. What the association does with the records that it is given is left open: it may lose,
repeat and reorder them and cut them into chunks as it likes. `Carries` says only that a record that
arrives is one that was sent.

* `received_eq`: what is delivered is, record by record, what was handed to usrsctp.
* `delivered_per_stream`: on a stream whose records arrive in order, what is delivered, what is
  still under way and what is still queued make up what the sender took charge of.
-/

namespace Rtc.SctpTransport

/-! ## Records on the association -/

/-- A data record as usrsctp transmits it, with the fields of `sctp_rcvinfo` it arrives with. -/
structure Record where
  data : List UInt8
  sid : ℕ
  ppid : ℕ
  deriving DecidableEq, Repr

/-- The record that a call of `usrsctp_sendv` sends. SCTP has no empty messages, `trySendMessage`
sends a zero byte instead. -/
def Output.record : Output → Option Record
  | .sendv m spa =>
    some { data := if m.empty then [0] else m.data, sid := spa.sid, ppid := spa.ppid }
  | .resetStream _ => none
  | .shutdown => none
  | .earlyShutdown => none

/-- The chunks of a data message bring a record. -/
def Carries (chunks : List (Chunk UInt8)) (record : Record) : Prop :=
  content chunks = record.data ∧
    chunks.getLast?.bind Chunk.info = some { rcvSid := record.sid, rcvPpid := record.ppid }

/-- A message as the receiving side is to see it. -/
def delivered (m : Message) : Received UInt8 where
  data := m.data
  type := m.type
  stream := m.stream

/-- The messages of a list that are not resets, as the receiving side is to see them. -/
def deliveredAll (messages : List Message) : List (Received UInt8) :=
  (messages.filter fun m => decide (m.type ≠ .reset)).map delivered

/-- Those on one stream. -/
def deliveredOn (stream : ℕ) (messages : List Message) : List (Received UInt8) :=
  (deliveredAll messages).filter fun r => r.stream = stream

/-- A message that the receiving side takes as it is: it is not longer than the limit there, and it
is not an empty control message, for which there is no payload protocol identifier. -/
def Fits (maxMessageSize : ℕ) (m : Message) : Prop :=
  m.size ≤ maxMessageSize ∧ (m.type = .control → m.data ≠ [])

@[simp]
theorem deliveredAll_append (xs ys : List Message) :
    deliveredAll (xs ++ ys) = deliveredAll xs ++ deliveredAll ys := by
  simp [deliveredAll]

@[simp]
theorem deliveredOn_append (stream : ℕ) (xs ys : List Message) :
    deliveredOn stream (xs ++ ys) = deliveredOn stream xs ++ deliveredOn stream ys := by
  simp [deliveredOn]

/-! ## What the sending side hands over -/

/-- A call into usrsctp belongs to its message. -/
inductive Output.Genuine : Output → Prop
  | sendv {m : Message} {spa : SendvSpa} (data : m.type ≠ .reset) (sendable : Sendable m)
    (params : sendvSpa m = .ok spa) : Output.Genuine (.sendv m spa)
  | resetStream {m : Message} (reset : m.type = .reset) : Output.Genuine (.resetStream m)
  | shutdown : Output.Genuine .shutdown
  | earlyShutdown : Output.Genuine .earlyShutdown

/-- `trySendMessage` hands over its own message. -/
theorem genuine_of_accepted {t t' : SctpTransport} {m : Message} {result : SendvResult}
    {output : Output} (hm : Sendable m) (h : t.trySendMessage m result = .accepted t' output) :
    output.Genuine := by
  unfold trySendMessage at h
  split at h
  · cases h
  · split at h
    · next hreset =>
      cases h
      exact .resetStream hreset
    · next hdata =>
      split at h
      · cases h
      · next spa hspa =>
        split at h
        · cases h
          exact .sendv hdata hm hspa
        · cases h
        · cases h

/-- Every call made so far belongs to its message, and no call has been refused. -/
structure Truthful (w : World) : Prop where
  outputs : ∀ output ∈ w.outputs, output.Genuine
  unrefused : Unrefused w

namespace Truthful

variable {w : World}

/-- One more call. -/
theorem forall_concat {outputs : List Output} {output : Output}
    (h : ∀ o ∈ outputs, o.Genuine) (hgenuine : output.Genuine) :
    ∀ o ∈ outputs ++ [output], o.Genuine := by
  intro o hmem
  rcases List.mem_append.1 hmem with hmem | hmem
  · exact h o hmem
  · rw [List.mem_singleton.1 hmem]
    exact hgenuine

theorem outputs_updateAmount (h : ∀ o ∈ w.outputs, o.Genuine) (streamId : ℕ) (delta : ℤ) :
    ∀ o ∈ (w.updateAmount streamId delta).outputs, o.Genuine := by
  obtain ⟨-, -, -, houtputs, -⟩ := w.updateAmount_frame streamId delta
  rw [houtputs]
  exact h

theorem outputs_shutdownIfStopped (h : ∀ o ∈ w.outputs, o.Genuine) (result : ShutdownResult) :
    ∀ o ∈ (w.shutdownIfStopped result).outputs, o.Genuine := by
  unfold World.shutdownIfStopped
  split
  · exact forall_concat h .shutdown
  · exact h

theorem outputs_returnFlushed (h : ∀ o ∈ w.outputs, o.Genuine)
    (hpending : ∀ m ∈ pendingSends w.stack, Sendable m) (result : SendvResult) :
    ∀ o ∈ (w.returnFlushed result).outputs, o.Genuine := by
  unfold World.returnFlushed
  split
  · next m rest hstack =>
    have hm : Sendable m := hpending m (by rw [hstack]; exact List.mem_cons_self)
    unfold World.sendDirect
    split
    · exact h
    · exact h
    · next htry => exact forall_concat h (genuine_of_accepted hm htry)
  · exact h

theorem outputs_trySendQueue (h : ∀ o ∈ w.outputs, o.Genuine) (hw : Unrefused w)
    (answer : Answer) : ∀ o ∈ (w.trySendQueue answer).outputs, o.Genuine := by
  unfold World.trySendQueue
  split
  · exact outputs_returnFlushed (outputs_shutdownIfStopped h _) (hw.shutdownIfStopped _).pending _
  · next m hpeek =>
    have hm : Sendable m := hw.queue m (List.mem_of_mem_head? hpeek)
    split
    · exact h
    · exact h
    · next htry =>
      have hnew := forall_concat h (genuine_of_accepted hm htry)
      split
      · exact hnew
      · apply outputs_updateAmount
        exact hnew

theorem outputs_sendQueueing (h : ∀ o ∈ w.outputs, o.Genuine) (m : Message) :
    ∀ o ∈ (w.sendQueueing m).outputs, o.Genuine := by
  unfold World.sendQueueing
  split
  · exact h
  · apply outputs_updateAmount
    exact h

/-- Every step without a send error preserves the property. -/
theorem step {e : Event} {w' : World} (h : Truthful w) (hok : NoSendError e)
    (hstep : w.Takes e w') : Truthful w' := by
  refine ⟨?_, h.unrefused.step hok hstep⟩
  have hw := h.outputs
  cases hstep with
  | @send message =>
    unfold World.send
    split
    · exact hw
    · split
      · exact hw
      · split <;> exact hw
  | @closeStream stream =>
    unfold World.closeStream
    split <;> exact hw
  | flush => exact hw
  | flushRefused => exact hw
  | doFlush => exact hw
  | close =>
    unfold World.close
    dsimp only
    split
    · exact forall_concat hw .earlyShutdown
    · exact hw
  | @trySendQueue answer rest hstack =>
    apply outputs_trySendQueue
    · exact hw
    · exact h.unrefused.of_stack (by simp [hstack])
  | sendQueueing =>
    apply outputs_sendQueueing
    exact hw
  | callbackReturn => exact hw

end Truthful

/-! ## What the receiving side makes of it -/

/-- A record as `processData` gets it. -/
def Record.incoming (maxMessageSize : ℕ) (record : Record) : Incoming UInt8 where
  data := record.data.take maxMessageSize
  sid := record.sid
  ppid := .ofNat record.ppid

/-- The parameters of a message give its stream and its payload protocol identifier. -/
theorem sid_ppid_of_sendvSpa {m : Message} {spa : SendvSpa} (h : sendvSpa m = .ok spa) :
    spa.sid = m.stream % 65536 ∧ spa.ppid = ppid m := by
  unfold sendvSpa at h
  cases hinfo : prInfo (m.reliability.getD {}) with
  | error e => simp [hinfo, Except.map] at h
  | ok info =>
    simp only [hinfo, Except.map, Except.ok.injEq] at h
    rw [← h]
    exact ⟨rfl, rfl⟩

/-- The record of a message that fits is delivered as that message, and leaves nothing behind. -/
theorem delivery_record {n : ℕ} {m : Message} (hdata : m.type ≠ .reset) (hfits : Fits n m) :
    let e : Incoming UInt8 :=
      { data := (if m.empty then [0] else m.data).take n
        sid := m.stream
        ppid := .ofNat (ppid m) }
    e.delivery n (fun _ => none) = some (delivered m) ∧
      e.advance (fun _ => none) = fun _ => none := by
  obtain ⟨data, type, stream, reliability⟩ := m
  have htake : data.take n = data := List.take_of_length_le hfits.1
  have hadvance (kind : DataKind) : Function.update (fun _ => none : Unfinished UInt8) kind none =
      fun _ => none := Function.update_eq_self kind _
  -- the payload protocol identifier tells the type, and whether the message is empty
  cases type with
  | reset => exact absurd rfl hdata
  | control =>
    have hne : data ≠ [] := hfits.2 rfl
    refine ⟨?_, rfl⟩
    simp [Incoming.delivery, PayloadId.role, PayloadId.ofNat, ppid, delivered, Message.empty, hne,
      htake]
  | string =>
    by_cases hempty : data = []
    · subst hempty
      exact ⟨rfl, hadvance .string⟩
    · refine ⟨?_, ?_⟩
      · simp [Incoming.delivery, PayloadId.role, PayloadId.ofNat, ppid, delivered, Message.empty,
          hempty, htake, Incoming.finalContent, Incoming.buffer, DataKind.type]
      · simp [Incoming.advance, PayloadId.role, PayloadId.ofNat, ppid, Message.empty, hempty]
  | binary =>
    by_cases hempty : data = []
    · subst hempty
      exact ⟨rfl, hadvance .binary⟩
    · refine ⟨?_, ?_⟩
      · simp [Incoming.delivery, PayloadId.role, PayloadId.ofNat, ppid, delivered, Message.empty,
          hempty, htake, Incoming.finalContent, Incoming.buffer, DataKind.type]
      · simp [Incoming.advance, PayloadId.role, PayloadId.ofNat, ppid, Message.empty, hempty]

/-- The records of any calls, in any order, are delivered as their messages. -/
theorem deliveries_records {n : ℕ} {outputs : List Output} (hgenuine : ∀ o ∈ outputs, o.Genuine)
    (hfits : ∀ m ∈ handed outputs, Fits n m) :
    Incoming.deliveries n (fun _ => none)
        ((outputs.filterMap Output.record).map (Record.incoming n)) =
      deliveredAll (handed outputs) := by
  induction outputs with
  | nil => rfl
  | cons o outputs ih =>
    obtain ⟨ho, hrest⟩ := List.forall_mem_cons.1 hgenuine
    cases ho with
    | @sendv m spa hdata hsendable hparams =>
      have hhanded : handed (.sendv m spa :: outputs) = m :: handed outputs := rfl
      rw [hhanded] at hfits ⊢
      obtain ⟨hm, hfits⟩ := List.forall_mem_cons.1 hfits
      obtain ⟨hsid, hppid⟩ := sid_ppid_of_sendvSpa hparams
      rw [Nat.mod_eq_of_lt (Nat.lt_succ_of_le hsendable.1)] at hsid
      obtain ⟨hdelivery, hadvance⟩ := delivery_record hdata hm
      have hincoming : ((Output.sendv m spa :: outputs).filterMap Output.record).map
          (Record.incoming n) =
          { data := (if m.empty then [0] else m.data).take n, sid := m.stream,
            ppid := .ofNat (ppid m) } ::
          (outputs.filterMap Output.record).map (Record.incoming n) := by
        simp [Output.record, Record.incoming, hsid, hppid]
      rw [hincoming, Incoming.deliveries, hdelivery, hadvance, ih hrest hfits]
      simp [deliveredAll, hdata]
    | @resetStream m hreset =>
      have hhanded : handed (.resetStream m :: outputs) = m :: handed outputs := rfl
      rw [hhanded] at hfits ⊢
      have hall : deliveredAll (m :: handed outputs) = deliveredAll (handed outputs) := by
        simp [deliveredAll, hreset]
      rw [hall]
      exact ih hrest (List.forall_mem_cons.1 hfits).2
    | shutdown => exact ih hrest hfits
    | earlyShutdown => exact ih hrest hfits

/-- The records in the calls of `processData`. -/
theorem map_call_incomings (calls : List (RecvCall UInt8)) :
    (RecvWorld.incomings calls).map Incoming.call = dataCalls calls := by
  induction calls with
  | nil => rfl
  | cons call calls ih =>
    cases call with
    | processData data sid ppid => exact congrArg (RecvCall.processData data sid ppid :: ·) ih
    | processNotification notification => exact ih

theorem call_injective : Function.Injective (@Incoming.call UInt8) := by
  intro e f h
  cases e
  cases f
  cases h
  rfl

theorem map_dataRecord (n : ℕ) {chunks : List (List (Chunk UInt8))} {arrived : List Record}
    (h : List.Forall₂ Carries chunks arrived) :
    chunks.map (dataRecord n) = (arrived.map (Record.incoming n)).map some := by
  induction h with
  | nil => rfl
  | cons hfirst hrest ih =>
    obtain ⟨hcontent, hlast⟩ := hfirst
    rw [List.map_cons, List.map_cons, List.map_cons, ih, dataRecord, hlast, hcontent]
    rfl

/-- The records that arrive are those that `doRecv` passes to `processData`. -/
theorem incomings_of_carries {n : ℕ} {events : List (RecvEvent UInt8)} {w : RecvWorld UInt8}
    (hinfo : ∀ chunk ∈ dataChunks events, chunk.info.isSome)
    (hrun : Transition.run RecvWorld.step (RecvWorld.start n) events = some w)
    {arrived : List Record}
    (hcarries : List.Forall₂ Carries (records (dataChunks events)) arrived) :
    RecvWorld.incomings w.calls = arrived.map (Record.incoming n) := by
  have hcalls := (RecvWorld.follows_run hinfo hrun).data
  have hrecords := map_dataRecord n hcarries
  have hmap : (dataCalls w.calls).map some =
      ((arrived.map (Record.incoming n)).map Incoming.call).map some := by
    calc (dataCalls w.calls).map some
        = ((records (dataChunks events)).map (dataRecord n)).map (Option.map Incoming.call) := by
          rw [hcalls, List.map_map]
          rfl
      _ = ((arrived.map (Record.incoming n)).map some).map (Option.map Incoming.call) := by
          rw [hrecords]
      _ = _ := by simp only [List.map_map, Function.comp_def, Option.map_some]
  apply List.map_injective_iff.2 call_injective
  rw [map_call_incomings]
  exact List.map_injective_iff.2 (Option.some_injective _) hmap

/-! ## End to end -/

section

variable {n n' : ℕ} {events : List Event} {w : World} {events' : List (RecvEvent UInt8)}
  {w' : RecvWorld UInt8}

/-- In every run without send errors the calls into usrsctp belong to their messages. -/
theorem truthful_run (hrun : Transition.run World.step (World.start n) events = some w)
    (herrors : ∀ e ∈ events, NoSendError e) : Truthful w := by
  have hstart : Truthful (World.start n) := ⟨by simp [World.start], .start n⟩
  have hmeets : Transition.Meets World.step (fun _ e => NoSendError e) (World.start n) events :=
    Transition.meets_of_forall herrors
  exact Transition.run_invariant (fun _ _ _ hw hok hstep => hw.step hok (.of_step hstep)) hstart
    hmeets hrun

/-- Whatever the association does with the records, what is delivered is, record by record and in
the order in which they arrive, the messages of the calls that sent them. -/
theorem received_eq (hrun : Transition.run World.step (World.start n) events = some w)
    (herrors : ∀ e ∈ events, NoSendError e)
    (hrun' : Transition.run RecvWorld.step (RecvWorld.start n') events' = some w')
    (hinfo : ∀ chunk ∈ dataChunks events', chunk.info.isSome)
    {arrived : List Output} (hsent : ∀ output ∈ arrived, output ∈ w.outputs)
    (hfits : ∀ m ∈ handed w.outputs, Fits n' m)
    (hcarries : List.Forall₂ Carries (records (dataChunks events'))
      (arrived.filterMap Output.record)) :
    w'.received = deliveredAll (handed arrived) := by
  have hgenuine : ∀ output ∈ arrived, output.Genuine := fun output hmem =>
    (truthful_run hrun herrors).outputs output (hsent output hmem)
  have hfits' : ∀ m ∈ handed arrived, Fits n' m := by
    intro m hmem
    obtain ⟨output, houtput, hm⟩ := List.mem_filterMap.1 hmem
    exact hfits m (List.mem_filterMap.2 ⟨output, hsent output houtput, hm⟩)
  rw [RecvWorld.received_eq_processAll hrun', incomings_of_carries hinfo hrun' hcarries,
    Receiver.processAll_received (Receiver.holds_none rfl rfl)]
  exact deliveries_records hgenuine hfits'

/-- Two transports with an association between them, for every run of the sending side without send
errors and every run of the receiving side. Every message delivered is one that the sender took
charge of. On every stream whose records arrive in order and without loss, what is delivered, what
is still under way and what is still in the send queue are together the messages that the sender
took charge of on that stream, in the order it did, with their content and type. -/
theorem delivered_per_stream (hrun : Transition.run World.step (World.start n) events = some w)
    (hclose : Transition.Meets World.step NoSendAfterClose (World.start n) events)
    (herrors : ∀ e ∈ events, NoSendError e)
    (hrun' : Transition.run RecvWorld.step (RecvWorld.start n') events' = some w')
    (hinfo : ∀ chunk ∈ dataChunks events', chunk.info.isSome)
    {arrived : List Output} (hsent : ∀ output ∈ arrived, output ∈ w.outputs)
    (hfits : ∀ m ∈ w.accepted, Fits n' m)
    (hcarries : List.Forall₂ Carries (records (dataChunks events'))
      (arrived.filterMap Output.record)) :
    (∀ r ∈ w'.received, ∃ m ∈ w.accepted, r = delivered m) ∧
      ∀ (stream : ℕ) (underWay : List (Received UInt8)),
        deliveredOn stream (handed arrived) ++ underWay = deliveredOn stream (handed w.outputs) →
        (w'.received.filter fun r => r.stream = stream) ++ underWay ++
            deliveredOn stream w.transport.mSendQueue.mQueue =
          deliveredOn stream w.accepted := by
  have hordered : Ordered w := Transition.run_invariant
    (fun _ _ _ hw hok hstep => hw.step hok (.of_step hstep)) (Ordered.start n) hclose hrun
  have horder := hordered.order
  have hfits' : ∀ m ∈ handed w.outputs, Fits n' m := by
    intro m hmem
    exact hfits m (horder ▸ List.mem_append_left _ hmem)
  have hreceived := received_eq hrun herrors hrun' hinfo hsent hfits' hcarries
  constructor
  · intro r hr
    rw [hreceived, deliveredAll] at hr
    obtain ⟨m, hm, rfl⟩ := List.mem_map.1 hr
    obtain ⟨output, houtput, hmessage⟩ := List.mem_filterMap.1 (List.mem_of_mem_filter hm)
    refine ⟨m, ?_, rfl⟩
    rw [← horder]
    exact List.mem_append_left _
      (List.mem_filterMap.2 ⟨output, hsent output houtput, hmessage⟩)
  · intro stream underWay hstream
    have hon : (w'.received.filter fun r => r.stream = stream) =
        deliveredOn stream (handed arrived) := by rw [hreceived, deliveredOn]
    rw [hon, hstream, ← deliveredOn_append, horder]

end

/-- A text on stream 0, an empty binary message on stream 2, and a text on stream 0 that usrsctp
does not take. -/
def threeSends : List Event :=
  [.send (some { data := [104, 105], type := .string }), .next {},
    .send (some { data := [], type := .binary, stream := 2 }), .next {},
    .send (some { data := [33], type := .string }), .next { sendv := .wouldBlock }, .next {},
    .callbackReturn]

/-- The empty message overtakes the text, which comes in two chunks. -/
def threeChunks : List (RecvEvent UInt8) :=
  let chunk (buffer : List UInt8) (eor : Bool) (rcvSid rcvPpid : ℕ) : RecvEvent UInt8 :=
    .recvv (.chunk { buffer, notification := false, eor, info := some { rcvSid, rcvPpid } })
  [.doRecv, .state .connected, chunk [0] true 2 57, .state .connected, chunk [104] false 0 51,
    .state .connected, chunk [105] true 0 51]

theorem delivered_per_stream_three :
    ∃ w w', Transition.run World.step (World.start 16) threeSends = some w ∧
      Transition.run RecvWorld.step (RecvWorld.start 16) threeChunks = some w' ∧
      w'.received = [{ data := [], type := .binary, stream := 2 },
        { data := [104, 105], type := .string, stream := 0 }] ∧
      (w'.received.filter fun r => r.stream = 0) ++ [] ++
          deliveredOn 0 w.transport.mSendQueue.mQueue =
        deliveredOn 0 w.accepted := by
  have hclose : Transition.Meets World.step NoSendAfterClose (World.start 16) threeSends := by
    decide
  have herrors : ∀ e ∈ threeSends, NoSendError e := by
    have hsent : ∀ errno, SendvResult.sent ≠ .failed errno := by simp
    have hblocked : ∀ errno, SendvResult.wouldBlock ≠ .failed errno := by simp
    simp only [threeSends, List.forall_mem_cons, NoSendError]
    exact ⟨⟨by decide, _, rfl⟩, hsent, ⟨by decide, _, rfl⟩, hsent, ⟨by decide, _, rfl⟩, hblocked,
      hsent, trivial, by simp⟩
  have hinfo : ∀ chunk ∈ dataChunks threeChunks, chunk.info.isSome := by decide
  let text : Message := { data := [104, 105], type := .string }
  let nothing : Message := { data := [], type := .binary, stream := 2 }
  let arrived : List Output :=
    [.sendv nothing { sid := 2, ppid := 57, unordered := false, prPolicy := .none, prValue := 0 },
      .sendv text { sid := 0, ppid := 51, unordered := false, prPolicy := .none, prValue := 0 }]
  have hcarries : List.Forall₂ Carries (records (dataChunks threeChunks))
      (arrived.filterMap Output.record) :=
    .cons ⟨rfl, rfl⟩ (.cons ⟨rfl, rfl⟩ .nil)
  have hfits (w : World) (haccepted : w.accepted =
      [text, nothing, { data := [33], type := .string }]) : ∀ m ∈ w.accepted, Fits 16 m := by
    rw [haccepted]
    simp [Fits, text, nothing, Message.size]
  refine ⟨_, _, rfl, rfl, rfl, ?_⟩
  exact (delivered_per_stream rfl hclose herrors rfl hinfo (by decide) (hfits _ rfl) hcarries).2
    0 [] rfl

end Rtc.SctpTransport
