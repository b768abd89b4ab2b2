import QuicRtc.Callbacks.Steps
import QuicRtc.Channel.Defs
import QuicRtc.Queue.Representation

/-!
# Peeking

`peek` converts the message at the head of the receive queue, which stays in the queue. The channels
share their interface but not the conversion: a data channel copies the message, while a track and a
WebSocket move the payload out of a binary one.

* `Sound`: what holds of the receive queue of a channel that is used.
* `Harmless`: without the calls of `peek` every other result is the same; the message at the head is
  peeked and received in full, and the amount counts the messages not yet received.
* `harmless_iff_meets`: this holds along a run exactly when no `peek` finds a payload that it moves
  out of its message.
-/

namespace Rtc.Channel

open Queue.World (total total_cons total_append_singleton)

/-! ## What `peek` leaves -/

/-- `peek` leaves the message as it is: it is copied, or there is nothing to move. -/
def Object.Copies : Object → Message → Prop
  | .dataChannel _, _ => True
  | .track _, message => message.data = [] ∨ message.type = .string ∨ message.type = .control
  | .webSocket, message => message.data = [] ∨ message.type = .string

instance : ∀ (object : Object) (message : Message), Decidable (object.Copies message)
  | .dataChannel _, _ => isTrue trivial
  | .track _, message =>
    inferInstanceAs (Decidable (message.data = [] ∨ message.type = .string ∨
      message.type = .control))
  | .webSocket, message => inferInstanceAs (Decidable (message.data = [] ∨ message.type = .string))

variable {object : Object} {message : Message}

/-- A message with nothing in it is left as it is. -/
theorem movedOut_of_empty (hdata : message.data = []) : message.movedOut = message := by
  have hsame : { message with data := [] } = message := by rw [← hdata]
  unfold Message.movedOut
  split
  · rfl
  · exact hsame
  · exact hsame
  · exact hsame

/-- A message that is not copied is binary, and left without its data. -/
theorem peeked_cases (object : Object) (message : Message) :
    object.Copies message ∧ object.peeked message = message ∨
      ¬object.Copies message ∧ message.data ≠ [] ∧ message.type ≠ .string ∧
        object.peeked message = { message with data := [] } := by
  by_cases hdata : message.data = []
  · -- nothing to move
    have hmoved := movedOut_of_empty hdata
    left
    cases object with
    | dataChannel channel => exact ⟨trivial, rfl⟩
    | webSocket => exact ⟨.inl hdata, hmoved⟩
    | track direction =>
      refine ⟨.inl hdata, ?_⟩
      show trackMessage message = message
      unfold trackMessage
      cases message.type with
      | control => rfl
      | binary | string | reset => exact hmoved
  · cases object with
    | dataChannel channel => exact .inl ⟨trivial, rfl⟩
    | track direction =>
      cases htype : message.type with
      | string =>
        exact .inl ⟨.inr (.inl htype),
          by simp [Object.peeked, trackMessage, Message.movedOut, htype]⟩
      | control => exact .inl ⟨.inr (.inr htype), by simp [Object.peeked, trackMessage, htype]⟩
      | binary | reset =>
        refine .inr ⟨?_, hdata, by simp, ?_⟩
        · simp [Object.Copies, hdata, htype]
        · simp [Object.peeked, trackMessage, Message.movedOut, htype]
    | webSocket =>
      cases htype : message.type with
      | string => exact .inl ⟨.inr htype, by simp [Object.peeked, Message.movedOut, htype]⟩
      | binary | control | reset =>
        refine .inr ⟨?_, hdata, by simp, ?_⟩
        · simp [Object.Copies, hdata, htype]
        · simp [Object.peeked, Message.movedOut, htype]

theorem peeked_of_copies (hcopies : object.Copies message) : object.peeked message = message := by
  rcases peeked_cases object message with ⟨-, hsame⟩ | ⟨hmoves, -⟩
  · exact hsame
  · exact absurd hcopies hmoves

/-- A message whose data was moved out is converted to something else from then on. -/
theorem toVariant_peeked_ne (hmoves : ¬object.Copies message) :
    toVariant (object.peeked message) ≠ toVariant message := by
  rcases peeked_cases object message with ⟨hcopies, -⟩ | ⟨-, hdata, htype, hempty⟩
  · exact absurd hcopies hmoves
  · rw [hempty]
    intro heq
    unfold toVariant at heq
    cases hm : message.type with
    | string => exact htype hm
    | binary | control | reset =>
      simp only [hm, MessageVariant.binary.injEq] at heq
      exact hdata heq.symm

/-! ## The queue of a channel -/

/-- The queue is not stopped, and its amount is the total size of the messages in it. -/
structure Sound (c : Channel) : Prop where
  running : c.mRecvQueue.mStopping = false
  mAmountFunction : c.mRecvQueue.mAmountFunction = c.object.amountFunction
  mAmount : c.mRecvQueue.mAmount = total Message.size c.mRecvQueue.mQueue
  sizes : ∀ m ∈ c.mRecvQueue.mQueue, c.object.amountFunction m = m.size

/-- What `incoming` does: it puts messages behind those that are there. -/
structure Appends (c c' : Channel) : Prop where
  sound : Sound c'
  messages : ∃ pushed, c'.mRecvQueue.mQueue = c.mRecvQueue.mQueue ++ pushed

variable {c c' : Channel}

namespace Sound

theorem make (object : Object) : Sound (make object) where
  running := rfl
  mAmountFunction := rfl
  mAmount := rfl
  sizes := fun _ hm => absurd hm List.not_mem_nil

theorem appends_self (h : Sound c) : Appends c c := ⟨h, [], (List.append_nil _).symm⟩

theorem push (h : Sound c) (hsize : c.object.amountFunction message = message.size) :
    Appends c { c with mRecvQueue := c.mRecvQueue.push message } := by
  have hqueue := Queue.mQueue_push_of_running h.running message
  refine ⟨⟨?_, ?_, ?_, fun m hm => ?_⟩, [message], hqueue⟩
  · show (c.mRecvQueue.push message).mStopping = false
    rw [Queue.mStopping_push]
    exact h.running
  · show (c.mRecvQueue.push message).mAmountFunction = _
    rw [Queue.push, if_neg (by simp [h.running])]
    exact h.mAmountFunction
  · show (c.mRecvQueue.push message).mAmount = total _ (c.mRecvQueue.push message).mQueue
    rw [hqueue, total_append_singleton, ← h.mAmount, Queue.push, if_neg (by simp [h.running])]
    show c.mRecvQueue.mAmount + .ofNat (c.mRecvQueue.mAmountFunction message) = _
    rw [h.mAmountFunction, hsize]
  · have hm : m ∈ (c.mRecvQueue.push message).mQueue := hm
    rw [hqueue, List.mem_append, List.mem_singleton] at hm
    rcases hm with hm | rfl
    · exact h.sizes m hm
    · exact hsize

theorem receive (h : Sound c) : Sound c.receive.2 := by
  show Sound { c with mRecvQueue := c.mRecvQueue.pop.2 }
  unfold Queue.pop
  cases hqueue : c.mRecvQueue.mQueue with
  | nil => exact h
  | cons message rest =>
    refine ⟨h.running, h.mAmountFunction, ?_, fun m hm => ?_⟩
    · show c.mRecvQueue.mAmount - .ofNat (c.mRecvQueue.mAmountFunction message) = total _ rest
      rw [h.mAmount, h.mAmountFunction, hqueue, total_cons, h.sizes message (by simp [hqueue]),
        UInt64.add_comm, UInt64.add_sub_cancel]
    · exact h.sizes m (by rw [hqueue]; exact List.mem_cons_of_mem _ hm)

end Sound

theorem Appends.trans {c₁ c₂ c₃ : Channel} (h₁ : Appends c₁ c₂) (h₂ : Appends c₂ c₃) :
    Appends c₁ c₃ := by
  obtain ⟨pushed₁, hqueue₁⟩ := h₁.messages
  obtain ⟨pushed₂, hqueue₂⟩ := h₂.messages
  refine ⟨h₂.sound, pushed₁ ++ pushed₂, ?_⟩
  rw [hqueue₂, hqueue₁, List.append_assoc]

/-- The loop of a track appends what there is room for. -/
theorem Sound.pushAll (h : Sound c) (hsize : ∀ m : Message, c.object.amountFunction m = m.size)
    (messages : List Message) : Appends c (c.pushAll messages) := by
  induction messages generalizing c with
  | nil => exact h.appends_self
  | cons message messages ih =>
    unfold Channel.pushAll
    split
    · exact h.appends_self
    · have hpush := h.push (hsize message)
      exact hpush.trans (ih hpush.sound hsize)

/-- A data channel pushes at most the message that comes in, and only one of the user. -/
theorem available_incoming (channel : DataChannel) (message : Message) :
    available (channel.incoming message).effects = [] ∨
      available (channel.incoming message).effects = [message] ∧
        (message.type = .string ∨ message.type = .binary) := by
  by_cases hclosed : channel.mIsClosed = true
  · rw [DataChannel.incoming, if_pos hclosed]
    exact .inl rfl
  have hopen : channel.mIsClosed = false := Bool.eq_false_of_not_eq_true hclosed
  by_cases hreset : message.type = .reset
  · rw [DataChannel.incoming_reset channel hreset, DataChannel.close, if_neg hclosed]
    cases channel.mSctpTransport <;> cases channel.mStream <;> exact .inl rfl
  rcases Callbacks.incoming_effects channel message hopen hreset with
    ⟨-, -, heq⟩ | ⟨htype, heq⟩ | ⟨ack, channel', -, -, -, -, heq⟩ | ⟨-, hnone⟩
  · rw [heq]
    exact .inl rfl
  · rw [heq]
    exact .inr ⟨rfl, htype⟩
  · rw [heq]
    cases channel.mIsOpen <;> exact .inl rfl
  · rw [hnone]
    exact .inl rfl

theorem messageSizeFunc_of_user (htype : message.type = .string ∨ message.type = .binary) :
    messageSizeFunc message = message.size := by
  unfold messageSizeFunc
  rcases htype with htype | htype <;> rw [htype]

/-- A message of the user that there is room for. -/
theorem Sound.of_push (h : Sound c) (hsize : c.object.amountFunction message = message.size)
    (hpush : c.push message = some c') : Appends c c' := by
  obtain ⟨-, heq⟩ := Option.ite_none_right_eq_some.1 hpush
  obtain rfl := Option.some.inj heq
  exact h.push hsize

/-- Whatever comes in, `incoming` puts messages behind those that are there. -/
theorem Sound.incoming (h : Sound c) {message : Option Message}
    {chain : List Message → Option (List Message)} (hin : c.incoming message chain = some c') :
    Appends c c' := by
  obtain ⟨object, queue⟩ := c
  cases message with
  | none =>
    -- without a message nothing is pushed
    have hself : some ⟨object, queue⟩ = some c' := by
      cases object <;> exact hin
    obtain rfl := Option.some.inj hself
    exact h.appends_self
  | some message =>
    cases object with
    | dataChannel channel =>
      -- the state of the data channel changes before a message is pushed
      have hchannel : Appends ⟨.dataChannel channel, queue⟩
          ⟨.dataChannel (channel.incoming message).channel, queue⟩ :=
        ⟨⟨h.running, h.mAmountFunction, h.mAmount, h.sizes⟩, [], (List.append_nil _).symm⟩
      have hpushes : (available (channel.incoming message).effects).foldlM Channel.push
          ⟨.dataChannel (channel.incoming message).channel, queue⟩ = some c' := hin
      rcases available_incoming channel message with hnone | ⟨hone, htype⟩
      · rw [hnone] at hpushes
        obtain rfl := Option.some.inj hpushes
        exact hchannel
      · rw [hone, List.foldlM_cons, Option.bind_eq_bind, Option.bind_eq_some_iff] at hpushes
        obtain ⟨c'', hpush, hrest⟩ := hpushes
        obtain rfl := Option.some.inj hrest
        exact hchannel.trans
          (hchannel.sound.of_push (messageSizeFunc_of_user htype) hpush)
    | track direction =>
      simp only [Channel.incoming] at hin
      split at hin
      · obtain rfl := Option.some.inj hin
        exact h.appends_self
      · split at hin
        · obtain rfl := Option.some.inj hin
          exact h.appends_self
        · next messages hchain =>
          obtain rfl := Option.some.inj hin
          exact h.pushAll (fun _ => rfl) messages
    | webSocket =>
      simp only [Channel.incoming] at hin
      split at hin
      · next htype => exact h.of_push (messageSizeFunc_of_user htype) hin
      · obtain rfl := Option.some.inj hin
        exact h.appends_self

/-! ## Runs -/

/-- A call on a channel. -/
inductive Call where
  | incoming (message : Option Message) (chain : List Message → Option (List Message))
  | peek
  | receive
  | availableAmount

def Call.isPeek : Call → Bool
  | .incoming _ _ => false
  | .peek => true
  | .receive => false
  | .availableAmount => false

/-- What the calls other than `peek` return. -/
inductive Result where
  | received (message : Option MessageVariant)
  | amount (amount : UInt64)
  deriving DecidableEq, Repr

/-- A channel with its history. -/
structure World where
  channel : Channel
  /-- The messages that came into the queue and were not received, as they were then. -/
  pending : List Message := []
  /-- The calls made. -/
  calls : List Call := []
  /-- The results of the calls other than `peek`. -/
  results : List Result := []

namespace World

variable {w w' : World} {call : Call}

def start (object : Object) : World := { channel := Channel.make object }

/-- Execute a call; `none` where `incoming` would wait for room in the queue. -/
def exec (w : World) : Call → Option World
  | .incoming message chain =>
    (w.channel.incoming message chain).map fun channel =>
      { w with
        channel
        pending := w.pending ++
          channel.mRecvQueue.mQueue.drop w.channel.mRecvQueue.mQueue.length }
  | .peek => some { w with channel := w.channel.peek.2 }
  | .receive =>
    some { w with
      channel := w.channel.receive.2
      pending := w.pending.tail
      results := w.results ++ [.received w.channel.receive.1] }
  | .availableAmount =>
    some { w with results := w.results ++ [.amount w.channel.availableAmount] }

/-- Execute a call, and note it. -/
def step (w : World) (call : Call) : Option World :=
  (w.exec call).map fun w' => { w' with calls := w.calls ++ [call] }

/-- The results of `calls` are those without the calls of `peek`, the message at the head is peeked
and received in full, and the amount is the size of what is to be received. -/
structure Harmless (object : Object) (calls : List Call) (w : World) : Prop where
  results : ∃ u, Transition.run step (start object) (calls.filter (!·.isPeek)) = some u ∧
    u.results = w.results
  peek : w.channel.peek.1 = w.pending.head?.map toVariant
  receive : w.channel.receive.1 = w.pending.head?.map toVariant
  availableAmount : w.channel.availableAmount = total Message.size w.pending

/-- `peek` finds no payload that it moves out of its message. -/
def MayPeek (w : World) : Call → Prop
  | .peek => ∀ message ∈ w.channel.mRecvQueue.mQueue.head?, w.channel.object.Copies message
  | _ => True

instance (w : World) : DecidablePred w.MayPeek
  | .incoming _ _ => isTrue trivial
  | .peek => inferInstanceAs
    (Decidable (∀ message ∈ w.channel.mRecvQueue.mQueue.head?, w.channel.object.Copies message))
  | .receive => isTrue trivial
  | .availableAmount => isTrue trivial

/-- The channel is as it would be without the calls of `peek`. -/
structure Inv (object : Object) (w : World) : Prop where
  sound : Sound w.channel
  pending : w.channel.mRecvQueue.mQueue = w.pending
  unpeeked : ∃ u, Transition.run step (start object) (w.calls.filter (!·.isPeek)) = some u ∧
    u.channel = w.channel ∧ u.pending = w.pending ∧ u.results = w.results

/-- What is peeked and received is the message at the head. -/
theorem channel_peek (w : World) :
    w.channel.peek.1 = w.channel.mRecvQueue.mQueue.head?.map toVariant := by
  unfold Channel.peek Queue.peek
  cases w.channel.mRecvQueue.mQueue with
  | nil => rfl
  | cons message rest => rfl

theorem channel_receive (w : World) :
    w.channel.receive.1 = w.channel.mRecvQueue.mQueue.head?.map toVariant := by
  unfold Channel.receive Queue.pop
  cases w.channel.mRecvQueue.mQueue with
  | nil => rfl
  | cons message rest => rfl

namespace Inv

variable {object : Object}

theorem start (object : Object) : Inv object (start object) where
  sound := Sound.make object
  pending := rfl
  unpeeked := ⟨_, rfl, rfl, rfl, rfl⟩

theorem harmless (h : Inv object w) : Harmless object w.calls w where
  results := by
    obtain ⟨u, hrun, -, -, hresults⟩ := h.unpeeked
    exact ⟨u, hrun, hresults⟩
  peek := by rw [channel_peek, h.pending]
  receive := by rw [channel_receive, h.pending]
  availableAmount := by
    show w.channel.mRecvQueue.mAmount = _
    rw [h.sound.mAmount, h.pending]

/-- `peek` leaves the channel as it is, and is left out of the calls. -/
theorem peek (h : Inv object w) (hok : w.MayPeek .peek) :
    Inv object { w with channel := w.channel.peek.2, calls := w.calls ++ [.peek] } := by
  have hchannel : w.channel.peek.2 = w.channel := by
    unfold Channel.peek Queue.peek
    cases hqueue : w.channel.mRecvQueue.mQueue with
    | nil => rfl
    | cons message rest =>
      have hcopies := hok message (by rw [hqueue]; rfl)
      dsimp only [List.head?_cons]
      rw [peeked_of_copies hcopies, List.tail_cons, ← hqueue]
  have hfilter : (w.calls ++ [Call.peek]).filter (!·.isPeek) = w.calls.filter (!·.isPeek) := by
    rw [List.filter_append, List.filter_singleton]
    exact List.append_nil _
  rw [hchannel]
  refine ⟨h.sound, h.pending, ?_⟩
  dsimp only
  rw [hfilter]
  exact h.unpeeked

/-- Another call does the same to the channel without the calls of `peek`. -/
theorem other (h : Inv object w) (hother : call.isPeek = false) (hexec : w.exec call = some w')
    (hsound : Sound w'.channel) (hpending : w'.channel.mRecvQueue.mQueue = w'.pending) :
    Inv object { w' with calls := w.calls ++ [call] } := by
  refine ⟨hsound, hpending, ?_⟩
  obtain ⟨u, hrun, hchannel, hpend, hresults⟩ := h.unpeeked
  -- the call finds the same channel there
  obtain ⟨u', hexec', hsame⟩ : ∃ u', u.exec call = some u' ∧ u'.channel = w'.channel ∧
      u'.pending = w'.pending ∧ u'.results = w'.results := by
    cases call with
    | peek => cases hother
    | incoming message chain =>
      obtain ⟨channel, hin, rfl⟩ := Option.map_eq_some_iff.1 hexec
      refine ⟨_, Option.map_eq_some_iff.2 ⟨channel, by rw [hchannel]; exact hin, rfl⟩, rfl, ?_,
        hresults⟩
      show u.pending ++ _ = w.pending ++ _
      rw [hpend, hchannel]
    | receive =>
      obtain rfl := Option.some.inj hexec
      refine ⟨_, rfl, ?_, ?_, ?_⟩
      · show u.channel.receive.2 = w.channel.receive.2
        rw [hchannel]
      · show u.pending.tail = w.pending.tail
        rw [hpend]
      · show u.results ++ _ = w.results ++ _
        rw [hresults, hchannel]
    | availableAmount =>
      obtain rfl := Option.some.inj hexec
      refine ⟨_, rfl, hchannel, hpend, ?_⟩
      show u.results ++ _ = w.results ++ _
      rw [hresults, hchannel]
  have hfilter : (w.calls ++ [call]).filter (!·.isPeek) =
      w.calls.filter (!·.isPeek) ++ [call] := by
    rw [List.filter_append, List.filter_singleton, hother]
    rfl
  refine ⟨{ u' with calls := u.calls ++ [call] }, ?_, hsame⟩
  dsimp only
  rw [hfilter, Transition.run_append]
  refine ⟨u, hrun, Transition.run_cons.2 ⟨_, ?_, rfl⟩⟩
  rw [step, hexec']
  rfl

/-- Every call that meets the condition preserves the invariant. -/
theorem step (h : Inv object w) (hok : w.MayPeek call) (hstep : w.step call = some w') :
    Inv object w' := by
  obtain ⟨w'', hexec, rfl⟩ := Option.map_eq_some_iff.1 hstep
  cases call with
  | peek =>
    obtain rfl := Option.some.inj hexec
    exact h.peek hok
  -- the queue grows at its end
  | incoming message chain =>
    obtain ⟨channel, hin, heq⟩ := Option.map_eq_some_iff.1 hexec
    have happends := h.sound.incoming hin
    obtain ⟨pushed, hpushed⟩ := happends.messages
    refine h.other rfl hexec ?_ ?_
    · rw [← heq]
      exact happends.sound
    · rw [← heq]
      show channel.mRecvQueue.mQueue = w.pending ++ _
      rw [hpushed, List.drop_left, h.pending]
  | receive =>
    refine h.other rfl hexec ?_ ?_
    · obtain rfl := Option.some.inj hexec
      exact h.sound.receive
    · obtain rfl := Option.some.inj hexec
      show w.channel.mRecvQueue.pop.2.mQueue = w.pending.tail
      rw [Queue.mQueue_pop, h.pending]
  | availableAmount =>
    refine h.other rfl hexec ?_ ?_
    · obtain rfl := Option.some.inj hexec
      exact h.sound
    · obtain rfl := Option.some.inj hexec
      exact h.pending

/-- A payload that `peek` moves out is not received any more. -/
theorem not_step {calls : List Call} (h : Inv object w) (hmiss : ¬w.MayPeek call)
    (hstep : w.step call = some w') : ¬Harmless object calls w' := by
  cases call with
  | incoming message chain => exact absurd trivial hmiss
  | receive => exact absurd trivial hmiss
  | availableAmount => exact absurd trivial hmiss
  | peek =>
    obtain rfl := Option.some.inj hstep
    intro hharmless
    refine hmiss fun message hhead => ?_
    obtain ⟨rest, hqueue⟩ := List.head?_eq_some_iff.1 hhead
    by_contra hmoves
    have hreceive := hharmless.receive
    rw [channel_receive] at hreceive
    simp only [Channel.peek, Queue.peek, hqueue, List.head?_cons, ← h.pending,
      Option.map_some, Option.some.injEq] at hreceive
    exact toVariant_peeked_ne hmoves hreceive

end Inv

/-- The calls that are noted are those of the run. -/
theorem calls_of_run {calls : List Call} (hrun : Transition.run step w calls = some w') :
    w'.calls = w.calls ++ calls := by
  induction calls generalizing w with
  | nil =>
    obtain rfl := Option.some.inj hrun
    exact (List.append_nil _).symm
  | cons call calls ih =>
    obtain ⟨u, hstep, hrest⟩ := Transition.run_cons.1 hrun
    obtain ⟨u', -, rfl⟩ := Option.map_eq_some_iff.1 hstep
    rw [ih hrest, List.append_assoc]
    rfl

/-- **Peeking is harmless.** Along a run the calls of `peek` change nothing exactly when none of
them finds a payload that it moves out of its message. -/
theorem harmless_iff_meets {object : Object} {calls : List Call} {w : World}
    (hrun : Transition.run step (start object) calls = some w) :
    (∀ fs, fs <+: calls → ∀ u, Transition.run step (start object) fs = some u →
        u.Harmless object fs) ↔
      Transition.Meets step MayPeek (start object) calls := by
  have hiff := Transition.forall_prefix_iff_meets_of_invariant
    (P := fun u => u.Harmless object u.calls) (fun _ h => h.harmless)
    (fun _ _ _ h hok hstep => h.step hok hstep) (fun _ _ _ h hmiss hstep => h.not_step hmiss hstep)
    (Inv.start object) hrun
  rw [← hiff]
  have hcalls : ∀ fs u, Transition.run step (start object) fs = some u → u.calls = fs :=
    fun fs u hu => calls_of_run hu
  constructor
  · intro h fs hfs u hu
    rw [hcalls fs u hu]
    exact h fs hfs u hu
  · intro h fs hfs u hu
    have hharmless := h fs hfs u hu
    rw [hcalls fs u hu] at hharmless
    exact hharmless

/-- A message for a track or a WebSocket. -/
def payload : Message := { data := [1, 2, 3], type := .binary }

/-- A track with a text and a control message, which may be peeked. -/
def textCalls : List Call :=
  [.incoming (some { data := [104, 105], type := .string }) some, .peek, .peek, .receive,
    .incoming (some { data := [0x80, 200], type := .control }) some, .availableAmount, .peek,
    .receive, .peek, .receive]

theorem harmless_textCalls :
    ∃ w, Transition.run step (start (.track .sendRecv)) textCalls = some w ∧
      w.Harmless (.track .sendRecv) textCalls ∧
      w.results = [.received (some (.string [104, 105])), .amount 2,
        .received (some (.binary [0x80, 200])), .received none] := by
  have hok : Transition.Meets step MayPeek (start (.track .sendRecv)) textCalls := by decide
  exact ⟨_, rfl, (harmless_iff_meets rfl).2 hok _ (List.prefix_refl _) _ rfl, rfl⟩

/-- A WebSocket gives the payload to `peek`, and an empty message to `receive`. -/
theorem not_harmless_payload :
    ¬∀ (object : Object) (calls : List Call) (w : World),
      Transition.run step (start object) calls = some w → w.Harmless object calls := by
  intro h
  have hreceive := (h .webSocket [.incoming (some payload) some, .peek] _ rfl).receive
  exact absurd hreceive (by decide)

end World

end Rtc.Channel
