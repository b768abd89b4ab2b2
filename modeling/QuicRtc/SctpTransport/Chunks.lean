import Mathlib.Data.List.Induction
import QuicRtc.Lib.Records
import QuicRtc.SctpTransport.Reassembly

/-!
# The records behind the chunks

The chunks returned by `usrsctp_recvv` carry two streams of records, data messages and
notifications. `RecvWorld.Follows` says what `doRecv` has made of the chunks so far: the calls for
the complete records of either stream and the pieces of the records in progress, those of a data
message cut to the maximum message size. It holds along every run, wherever the calls of `doRecv`
end.
-/

namespace Rtc.SctpTransport

variable {β : Type*}

/-- The chunk that an event brings. -/
def RecvEvent.chunk : RecvEvent β → Option (Chunk β)
  | .recvv (.chunk chunk) => some chunk
  | _ => none

/-- The chunks of a run that belong to data messages. -/
def dataChunks (events : List (RecvEvent β)) : List (Chunk β) :=
  (events.filterMap RecvEvent.chunk).filter fun chunk => !chunk.notification

/-- The chunks of a run that belong to notifications. -/
def notificationChunks (events : List (RecvEvent β)) : List (Chunk β) :=
  (events.filterMap RecvEvent.chunk).filter fun chunk => chunk.notification

/-- The bytes of a record. -/
def content (record : List (Chunk β)) : List β := record.flatMap Chunk.buffer

/-- The complete records of a stream of chunks. -/
def records (chunks : List (Chunk β)) : List (List (Chunk β)) := (Records.split Chunk.eor chunks).1

/-- The chunks of the record in progress. -/
def inProgress (chunks : List (Chunk β)) : List (Chunk β) := (Records.split Chunk.eor chunks).2

/-- A data record as `processData` is to get it, with the receive info of its last chunk. -/
def dataRecord (maxMessageSize : ℕ) (record : List (Chunk β)) : Option (Incoming β) :=
  (record.getLast?.bind Chunk.info).map fun info =>
    { data := (content record).take maxMessageSize
      sid := info.rcvSid
      ppid := PayloadId.ofNat info.rcvPpid }

/-- The call that passes a data record on. -/
def Incoming.call (e : Incoming β) : RecvCall β := .processData e.data e.sid e.ppid

/-- The calls of `processData`. -/
def dataCalls (calls : List (RecvCall β)) : List (RecvCall β) :=
  calls.filter fun
    | .processData _ _ _ => true
    | .processNotification _ => false

/-- The calls of `processNotification`. -/
def notificationCalls (calls : List (RecvCall β)) : List (RecvCall β) :=
  calls.filter fun
    | .processData _ _ _ => false
    | .processNotification _ => true

namespace RecvWorld

/-- What `doRecv` has made of the chunks so far. -/
structure Follows (maxMessageSize : ℕ) (data notifications : List (Chunk β)) (w : RecvWorld β) :
    Prop where
  mMaxMessageSize : w.receiver.mMaxMessageSize = maxMessageSize
  mPartialMessage :
    w.receiver.mPartialMessage = (content (inProgress data)).take maxMessageSize
  mPartialNotification : w.receiver.mPartialNotification = content (inProgress notifications)
  data :
    (dataCalls w.calls).map some =
      (records data).map fun record => (dataRecord maxMessageSize record).map Incoming.call
  notification :
    notificationCalls w.calls =
      (records notifications).map fun record => .processNotification (content record)

variable {n : ℕ} {data notifications : List (Chunk β)} {w w' : RecvWorld β}

theorem follows_start : (start n : RecvWorld β).Follows n [] [] :=
  ⟨rfl, List.take_nil.symm, rfl, rfl, rfl⟩

/-- A chunk of a notification. -/
theorem follows_onNotification (h : w.Follows n data notifications) (chunk : Chunk β) :
    (w.onNotification chunk).Follows n data (notifications ++ [chunk]) := by
  obtain ⟨hmax, hmessage, hnotification, hdata, hcalls⟩ := h
  unfold onNotification
  by_cases heor : chunk.eor = true
  · have hsplit := Records.split_concat_of_ends heor notifications
    refine ⟨?_, ?_, ?_, ?_, ?_⟩
    · simpa [heor] using hmax
    · simpa [heor] using hmessage
    · simp [heor, inProgress, hsplit, content]
    · simpa [heor, dataCalls] using hdata
    · simp only [heor, if_true, notificationCalls, List.filter_append] at hcalls ⊢
      simp [hcalls, records, hsplit, hnotification, content, inProgress]
  · have hsplit := Records.split_concat_of_not_ends (by simpa using heor) notifications
    refine ⟨?_, ?_, ?_, ?_, ?_⟩
    · simpa [heor] using hmax
    · simpa [heor] using hmessage
    · simp [heor, inProgress, hsplit, content, hnotification]
    · simpa [heor] using hdata
    · simpa [heor, records, hsplit] using hcalls

variable [Zero β]

/-- `processData` works on the buffers of the partial messages only. -/
theorem processData_frame (r : Receiver β) (data : List β) (sid : ℕ) (ppid : PayloadId) :
    (r.processData data sid ppid).1.mMaxMessageSize = r.mMaxMessageSize ∧
      (r.processData data sid ppid).1.mPartialMessage = r.mPartialMessage ∧
      (r.processData data sid ppid).1.mPartialNotification = r.mPartialNotification := by
  cases ppid with
  | string => by_cases h : r.mPartialStringData = [] <;> simp [Receiver.processData, h]
  | binary => by_cases h : r.mPartialBinaryData = [] <;> simp [Receiver.processData, h]
  | _ => exact ⟨rfl, rfl, rfl⟩

/-- What is inserted behind the message in progress, cut to the limit as `doRecv` does it. -/
theorem cut_append (xs ys : List β) :
    (if (xs.take n ++ ys).length > n then Receiver.resize (xs.take n ++ ys) n
      else xs.take n ++ ys) = (xs ++ ys).take n := by
  have htake : (xs.take n ++ ys).take n = (xs ++ ys).take n := by
    rw [List.take_append, List.take_take, Nat.min_self, List.take_append, List.length_take]
    congr 2
    omega
  split
  · next hlong => rw [Receiver.resize_of_le (by omega), htake]
  · next hshort =>
    rw [← htake]
    exact (List.take_of_length_le (by omega)).symm

/-- A chunk of a data message that has its receive info. -/
theorem follows_onData (h : w.Follows n data notifications) {chunk : Chunk β}
    (hinfo : chunk.info.isSome) :
    (w.onData chunk).Follows n (data ++ [chunk]) notifications := by
  obtain ⟨hmax, hmessage, hnotification, hdata, hcalls⟩ := h
  obtain ⟨info, hinfo⟩ := Option.isSome_iff_exists.1 hinfo
  subst hmax
  have hcut := cut_append (n := w.receiver.mMaxMessageSize) (content (inProgress data)) chunk.buffer
  unfold onData
  simp only [hmessage, hcut, hinfo]
  by_cases heor : chunk.eor = true
  · have hsplit := Records.split_concat_of_ends heor data
    have hcontent : content (inProgress data) ++ chunk.buffer =
        content (inProgress data ++ [chunk]) := by simp [content]
    rw [hcontent, if_pos heor]
    obtain ⟨hmax', hmessage', hnotification'⟩ := processData_frame
      { w.receiver with mPartialMessage := [] }
      ((content (inProgress data ++ [chunk])).take w.receiver.mMaxMessageSize) info.rcvSid
      (PayloadId.ofNat info.rcvPpid)
    refine ⟨hmax', ?_, hnotification'.trans hnotification, ?_, ?_⟩
    · simpa [inProgress, hsplit, content] using hmessage'
    · simp only [dataCalls, List.filter_append] at hdata ⊢
      simp [hdata, records, hsplit, dataRecord, hinfo, Incoming.call, inProgress]
    · simpa [notificationCalls] using hcalls
  · have hsplit := Records.split_concat_of_not_ends (by simpa using heor) data
    rw [if_neg heor]
    refine ⟨rfl, ?_, hnotification, ?_, hcalls⟩
    · simp [inProgress, hsplit, content]
    · simpa [records, hsplit] using hdata

/-- A step takes in the chunk that it brings. -/
theorem follows_step {e : RecvEvent β} (h : w.Follows n data notifications)
    (hinfo : ∀ chunk ∈ dataChunks [e], chunk.info.isSome) (hstep : w.step e = some w') :
    w'.Follows n (data ++ dataChunks [e]) (notifications ++ notificationChunks [e]) := by
  -- without a chunk only the control point changes
  have hpoint : ∀ point, e.chunk = none → ({ w with point } : RecvWorld β).Follows n
      (data ++ dataChunks [e]) (notifications ++ notificationChunks [e]) := by
    intro point hnone
    have hdata : dataChunks [e] = [] := by simp [dataChunks, hnone]
    have hnotification : notificationChunks [e] = [] := by simp [notificationChunks, hnone]
    rw [hdata, hnotification, List.append_nil, List.append_nil]
    exact ⟨h.mMaxMessageSize, h.mPartialMessage, h.mPartialNotification, h.data, h.notification⟩
  cases e with
  | doRecv =>
    simp only [step, Option.ite_none_right_eq_some, Option.some.injEq] at hstep
    obtain ⟨-, rfl⟩ := hstep
    exact hpoint .test rfl
  | state state =>
    simp only [step, Option.ite_none_right_eq_some] at hstep
    obtain ⟨-, hstep⟩ := hstep
    split at hstep <;> cases hstep
    · exact hpoint .idle rfl
    · exact hpoint .recvv rfl
  | recvv result =>
    simp only [step, Option.ite_none_right_eq_some, Option.some.injEq] at hstep
    obtain ⟨-, rfl⟩ := hstep
    cases result with
    | chunk chunk =>
      have hchunk : (RecvEvent.recvv (.chunk chunk)).chunk = some chunk := rfl
      cases hkind : chunk.notification with
      | true =>
        have hdata : dataChunks [RecvEvent.recvv (.chunk chunk)] = [] := by
          simp [dataChunks, hchunk, hkind]
        have hnotification : notificationChunks [RecvEvent.recvv (.chunk chunk)] = [chunk] := by
          simp [notificationChunks, hchunk, hkind]
        rw [hdata, hnotification, List.append_nil, onRecvv, if_pos hkind]
        exact follows_onNotification h chunk
      | false =>
        have hdata : dataChunks [RecvEvent.recvv (.chunk chunk)] = [chunk] := by
          simp [dataChunks, hchunk, hkind]
        have hnotification : notificationChunks [RecvEvent.recvv (.chunk chunk)] = [] := by
          simp [notificationChunks, hchunk, hkind]
        rw [hdata] at hinfo
        rw [hdata, hnotification, List.append_nil, onRecvv, if_neg (by simp [hkind])]
        exact follows_onData h (hinfo chunk (List.mem_singleton.2 rfl))
    | nothing => exact hpoint .idle rfl
    | wouldBlock => exact hpoint .idle rfl
    | failed errno => exact hpoint .idle rfl

/-- Along a run with receive info on its data chunks, `doRecv` follows the chunks. -/
theorem follows_run {events : List (RecvEvent β)} (hinfo : ∀ chunk ∈ dataChunks events,
    chunk.info.isSome) (hrun : Transition.run step (start n) events = some w) :
    w.Follows n (dataChunks events) (notificationChunks events) := by
  induction events using List.reverseRecOn generalizing w with
  | nil =>
    obtain rfl : start n = w := by simpa using hrun
    exact follows_start
  | append_singleton events e ih =>
    obtain ⟨u, hu, he⟩ := Transition.run_append.1 hrun
    have hstep : u.step e = some w := by simpa [Transition.run] using he
    have hdata : dataChunks (events ++ [e]) = dataChunks events ++ dataChunks [e] := by
      simp [dataChunks]
    have hnotification : notificationChunks (events ++ [e]) =
        notificationChunks events ++ notificationChunks [e] := by simp [notificationChunks]
    rw [hdata] at hinfo ⊢
    rw [hnotification]
    have hbefore := ih (fun chunk hchunk => hinfo chunk (List.mem_append_left _ hchunk)) hu
    exact follows_step hbefore
      (fun chunk hchunk => hinfo chunk (List.mem_append_right _ hchunk)) hstep

/-- Every complete data record is passed to `processData` once, in order, cut to the maximum message
size, and every complete notification is passed to `processNotification` once, in order and
whole. -/
theorem doRecv_reassembles {events : List (RecvEvent β)} (hinfo : ∀ chunk ∈ dataChunks events,
    chunk.info.isSome) (hrun : Transition.run step (start n) events = some w) :
    (dataCalls w.calls).map some =
        (records (dataChunks events)).map (fun record =>
          (dataRecord n record).map Incoming.call) ∧
      notificationCalls w.calls =
        (records (notificationChunks events)).map fun record =>
          .processNotification (content record) :=
  ⟨(follows_run hinfo hrun).data, (follows_run hinfo hrun).notification⟩

/-- A string in two chunks and two calls of `doRecv`, with a notification in between. -/
def twoCalls : List (RecvEvent UInt8) :=
  let info := some { rcvSid := 1, rcvPpid := 51 }
  [.doRecv, .state .connected,
    .recvv (.chunk { buffer := [72, 101], notification := false, eor := false, info }),
    .state .connected, .recvv (.chunk { buffer := [7], notification := true, eor := true }),
    .state .connected, .recvv .wouldBlock, .doRecv, .state .connected,
    .recvv (.chunk { buffer := [108, 108], notification := false, eor := true, info })]

theorem doRecv_reassembles_twoCalls :
    ∃ w, Transition.run step (start 3) twoCalls = some w ∧
      (dataCalls w.calls).map some = [some (.processData [72, 101, 108] 1 .string)] ∧
      notificationCalls w.calls = [.processNotification [7]] := by
  have hinfo : ∀ chunk ∈ dataChunks twoCalls, chunk.info.isSome := by decide
  exact ⟨_, rfl, doRecv_reassembles hinfo rfl⟩

/-! ## What is delivered -/

/-- The records passed to `processData`. -/
def incomings (calls : List (RecvCall β)) : List (Incoming β) :=
  calls.filterMap fun
    | .processData data sid ppid => some { data, sid, ppid }
    | .processNotification _ => none

/-- `processData` does not look at the records in progress. -/
theorem processData_inProgress (r : Receiver β) (message notification data : List β) (sid : ℕ)
    (ppid : PayloadId) :
    { r with
        mPartialMessage := message
        mPartialNotification := notification }.processData data sid ppid =
      ({ (r.processData data sid ppid).1 with
          mPartialMessage := message
          mPartialNotification := notification },
        (r.processData data sid ppid).2) := by
  cases ppid with
  | string => by_cases h : r.mPartialStringData = [] <;> simp [Receiver.processData, h]
  | binary => by_cases h : r.mPartialBinaryData = [] <;> simp [Receiver.processData, h]
  | _ => rfl

/-- The messages passed to `recv` are what `processData` makes of the records passed to it. -/
def Delivers (maxMessageSize : ℕ) (w : RecvWorld β) : Prop :=
  let outcome := (Receiver.fresh β maxMessageSize).processAll (incomings w.calls)
  w.received = outcome.2 ∧ ∃ message notification, w.receiver =
    { outcome.1 with mPartialMessage := message, mPartialNotification := notification }

theorem delivers_onNotification (h : w.Delivers n) (chunk : Chunk β) :
    (w.onNotification chunk).Delivers n := by
  obtain ⟨hreceived, message, notification, hreceiver⟩ := h
  unfold onNotification
  by_cases heor : chunk.eor = true
  · rw [if_pos heor]
    have hcalls : incomings (w.calls ++
        [.processNotification (w.receiver.mPartialNotification ++ chunk.buffer)]) =
        incomings w.calls := by simp [incomings]
    refine ⟨?_, message, [], ?_⟩
    · rw [hcalls]
      exact hreceived
    · rw [hcalls, hreceiver]
  · rw [if_neg heor]
    exact ⟨hreceived, message, w.receiver.mPartialNotification ++ chunk.buffer, by rw [hreceiver]⟩

theorem delivers_onData (h : w.Delivers n) (chunk : Chunk β) : (w.onData chunk).Delivers n := by
  obtain ⟨hreceived, message, notification, hreceiver⟩ := h
  unfold onData
  extract_lets inserted data current receiver
  by_cases heor : chunk.eor = true
  · rw [if_pos heor]
    cases hinfo : chunk.info with
    | none => exact ⟨hreceived, [], notification, by simp only [receiver, current, hreceiver]⟩
    | some info =>
      have hcalls : incomings (w.calls ++
          [.processData data info.rcvSid (PayloadId.ofNat info.rcvPpid)]) =
          incomings w.calls ++
            [{ data, sid := info.rcvSid, ppid := PayloadId.ofNat info.rcvPpid }] := by
        simp [incomings]
      have hframe := processData_inProgress
        ((Receiver.fresh β n).processAll (incomings w.calls)).1 [] notification data info.rcvSid
        (PayloadId.ofNat info.rcvPpid)
      have hold : receiver = { ((Receiver.fresh β n).processAll (incomings w.calls)).1 with
          mPartialMessage := [], mPartialNotification := notification } := by
        simp only [receiver, current, hreceiver]
      rw [← hold] at hframe
      refine ⟨?_, [], notification, ?_⟩
      · simp only [hcalls, Receiver.processAll_append, Receiver.processAll, hframe, hreceived]
        simp
      · simp only [hcalls, Receiver.processAll_append, Receiver.processAll, hframe]
  · rw [if_neg heor]
    exact ⟨hreceived, data, notification, by simp only [current, hreceiver]⟩

theorem delivers_step (w : RecvWorld β) (e : RecvEvent β) (w' : RecvWorld β) (h : w.Delivers n)
    (hstep : w.step e = some w') : w'.Delivers n := by
  cases e with
  | doRecv =>
    simp only [step, Option.ite_none_right_eq_some, Option.some.injEq] at hstep
    obtain ⟨-, rfl⟩ := hstep
    exact h
  | state state =>
    simp only [step, Option.ite_none_right_eq_some] at hstep
    obtain ⟨-, hstep⟩ := hstep
    split at hstep <;> cases hstep <;> exact h
  | recvv result =>
    simp only [step, Option.ite_none_right_eq_some, Option.some.injEq] at hstep
    obtain ⟨-, rfl⟩ := hstep
    cases result with
    | chunk chunk =>
      simp only [onRecvv]
      split
      · exact delivers_onNotification h chunk
      · exact delivers_onData h chunk
    | nothing => exact h
    | wouldBlock => exact h
    | failed errno => exact h

/-- In every run, what `doRecv` delivers is what `processAll` makes of the records that it passes
to `processData`. -/
theorem received_eq_processAll {events : List (RecvEvent β)}
    (hrun : Transition.run step (start n) events = some w) :
    w.received = ((Receiver.fresh β n).processAll (incomings w.calls)).2 := by
  have hstart : (start n : RecvWorld β).Delivers n := ⟨rfl, [], [], rfl⟩
  exact (Transition.run_invariant_all delivers_step hstart hrun).1

end RecvWorld

end Rtc.SctpTransport
