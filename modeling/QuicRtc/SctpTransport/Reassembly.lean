import Mathlib.Data.UInt
import Mathlib.Logic.Function.Basic
import QuicRtc.SctpTransport.Receiving

/-!
# Reassembly of partial messages

What `processData` makes of sequences of messages. As `resize` pads the buffer of a kind to the
maximum message size with the first partial message, everything behind that message is cut away: the
buffer is a function of the first piece that has arrived since the last final message of the kind
(`Receiver.Holds`), and so is what the next final message delivers (`Incoming.delivery`).
-/

namespace Rtc.SctpTransport

variable {β : Type*} [Zero β]

/-- The two kinds of user messages, each with a buffer of its own. -/
inductive DataKind where
  | string
  | binary
  deriving DecidableEq, Repr

/-- The message type of a kind. -/
def DataKind.type : DataKind → Message.Kind
  | .string => .string
  | .binary => .binary

/-- What a message does with the buffer of its kind. -/
inductive PayloadRole where
  | partialData (kind : DataKind)
  | finalData (kind : DataKind)
  | emptyData (kind : DataKind)
  | control
  | unknown
  deriving DecidableEq, Repr

/-- The identifier of a partial message. -/
def DataKind.partialId : DataKind → PayloadId
  | .string => .stringPartial
  | .binary => .binaryPartial

/-- The identifier of a final message. -/
def DataKind.finalId : DataKind → PayloadId
  | .string => .string
  | .binary => .binary

/-- The identifier of an empty variant. -/
def DataKind.emptyId : DataKind → PayloadId
  | .string => .stringEmpty
  | .binary => .binaryEmpty

/-- The role of each payload identifier. -/
def PayloadId.role : PayloadId → PayloadRole
  | .control => .control
  | .string => .finalData .string
  | .binaryPartial => .partialData .binary
  | .binary => .finalData .binary
  | .stringPartial => .partialData .string
  | .stringEmpty => .emptyData .string
  | .binaryEmpty => .emptyData .binary
  | .unknown _ => .unknown

@[simp]
theorem DataKind.role_partialId (kind : DataKind) : kind.partialId.role = .partialData kind := by
  cases kind <;> rfl

@[simp]
theorem DataKind.role_finalId (kind : DataKind) : kind.finalId.role = .finalData kind := by
  cases kind <;> rfl

@[simp]
theorem DataKind.role_emptyId (kind : DataKind) : kind.emptyId.role = .emptyData kind := by
  cases kind <;> rfl

namespace Receiver

/-- The buffer of a kind. -/
def partialData (r : Receiver β) : DataKind → List β
  | .string => r.mPartialStringData
  | .binary => r.mPartialBinaryData

@[simp]
theorem length_resize (data : List β) (size : ℕ) : (resize data size).length = size :=
  List.takeD_length size data 0

@[simp]
theorem resize_zero (data : List β) : resize data 0 = [] := rfl

/-- A resized buffer keeps its size when data is added and it is resized again. -/
@[simp]
theorem resize_resize_append (data added : List β) (size : ℕ) :
    resize (resize data size ++ added) size = resize data size :=
  List.takeD_left' (length_resize data size)

/-- Cutting pads nothing. -/
theorem resize_of_le {data : List β} {size : ℕ} (h : size ≤ data.length) :
    resize data size = data.take size :=
  List.takeD_eq_take 0 h

/-- A buffer that is too short is padded. -/
theorem resize_of_ge {data : List β} {size : ℕ} (h : data.length ≤ size) :
    resize data size = data ++ List.replicate (size - data.length) 0 := by
  induction data generalizing size with
  | nil => simp [resize]
  | cons b data ih =>
    obtain ⟨size, rfl⟩ : ∃ k, size = k + 1 := ⟨size - 1, by simp at h; omega⟩
    have hle : data.length ≤ size := by simpa using h
    have hrest : resize data size = data ++ List.replicate (size - data.length) 0 := ih hle
    simpa [resize] using hrest

end Receiver

/-! ## The unfinished messages -/

/-- The first piece of the unfinished message of each kind. -/
abbrev Unfinished (β : Type*) := DataKind → Option (Incoming β)

namespace Incoming

/-- The unfinished messages behind a message. -/
def advance (unfinished : Unfinished β) (e : Incoming β) : Unfinished β :=
  match e.ppid.role with
  | .partialData kind => Function.update unfinished kind (some ((unfinished kind).getD e))
  | .finalData kind => Function.update unfinished kind none
  | .emptyData kind => Function.update unfinished kind none
  | .control => unfinished
  | .unknown => unfinished

/-- The content of the buffer of a kind. -/
def buffer (maxMessageSize : ℕ) (unfinished : Unfinished β) (kind : DataKind) : List β :=
  (unfinished kind).elim [] fun first => Receiver.resize first.data maxMessageSize

/-- The data that a final message delivers. -/
def finalContent (maxMessageSize : ℕ) (unfinished : Unfinished β) (kind : DataKind)
    (data : List β) : List β :=
  if (buffer maxMessageSize unfinished kind).isEmpty then data
  else buffer maxMessageSize unfinished kind

/-- What a message delivers. -/
def delivery (maxMessageSize : ℕ) (unfinished : Unfinished β) (e : Incoming β) :
    Option (Received β) :=
  match e.ppid.role with
  | .partialData _ => none
  | .finalData kind =>
    some
      { data := finalContent maxMessageSize unfinished kind e.data
        type := kind.type
        stream := e.sid }
  | .emptyData kind =>
    some { data := buffer maxMessageSize unfinished kind, type := kind.type, stream := e.sid }
  | .control => some { data := e.data, type := .control, stream := e.sid }
  | .unknown => none

/-- What a sequence of messages delivers. -/
def deliveries (maxMessageSize : ℕ) (unfinished : Unfinished β) :
    List (Incoming β) → List (Received β)
  | [] => []
  | e :: es =>
    (e.delivery maxMessageSize unfinished).toList ++
      deliveries maxMessageSize (e.advance unfinished) es

end Incoming

namespace Receiver

/-- The buffers are those of the unfinished messages. -/
def Holds (r : Receiver β) (unfinished : Unfinished β) : Prop :=
  ∀ kind, r.partialData kind = Incoming.buffer r.mMaxMessageSize unfinished kind

/-- A receiver with empty buffers has no unfinished message. -/
theorem holds_none {r : Receiver β} (hs : r.mPartialStringData = [])
    (hb : r.mPartialBinaryData = []) : r.Holds fun _ => none := by
  intro kind
  cases kind with
  | string => exact hs
  | binary => exact hb

/-- The first piece fills the buffer, whatever comes behind it is cut away. -/
theorem buffer_advance_partialData (n : ℕ) (unfinished : Unfinished β) {e : Incoming β}
    {kind : DataKind} (h : e.ppid.role = .partialData kind) (k : DataKind) :
    Incoming.buffer n (e.advance unfinished) k =
      if k = kind then resize (Incoming.buffer n unfinished kind ++ e.data) n
      else Incoming.buffer n unfinished k := by
  unfold Incoming.buffer Incoming.advance
  rw [h]
  by_cases hk : k = kind
  · subst hk
    cases hfirst : unfinished k <;> simp [hfirst]
  · simp [hk]

/-- A message that ends the unfinished one clears the buffer. -/
theorem buffer_advance_ending (n : ℕ) (unfinished : Unfinished β) {e : Incoming β} {kind : DataKind}
    (h : e.ppid.role = .finalData kind ∨ e.ppid.role = .emptyData kind) (k : DataKind) :
    Incoming.buffer n (e.advance unfinished) k =
      if k = kind then [] else Incoming.buffer n unfinished k := by
  unfold Incoming.buffer Incoming.advance
  rcases h with h | h <;> rw [h] <;> by_cases hk : k = kind <;> simp [Function.update, hk]

/-- `processData` of a partial message. -/
theorem processData_partialData (r : Receiver β) (data : List β) (sid : ℕ) {ppid : PayloadId}
    {kind : DataKind} (h : ppid.role = .partialData kind) :
    (r.processData data sid ppid).2 = none ∧
      (∀ k, (r.processData data sid ppid).1.partialData k =
        if k = kind then resize (r.partialData kind ++ data) r.mMaxMessageSize
        else r.partialData k) ∧
      (r.processData data sid ppid).1.mMaxMessageSize = r.mMaxMessageSize ∧
      (r.processData data sid ppid).1.mBytesReceived = r.mBytesReceived := by
  cases ppid <;> cases h
  all_goals
    refine ⟨rfl, fun k => ?_, rfl, rfl⟩
    cases k <;> rfl

/-- The data of a final message, put behind what is in the buffer. -/
def finalData (r : Receiver β) (kind : DataKind) (data : List β) : List β :=
  if (r.partialData kind).isEmpty then data
  else resize (r.partialData kind ++ data) r.mMaxMessageSize

/-- `processData` of a final message. -/
theorem processData_finalData (r : Receiver β) (data : List β) (sid : ℕ) {ppid : PayloadId}
    {kind : DataKind} (h : ppid.role = .finalData kind) :
    (r.processData data sid ppid).2 =
        some { data := r.finalData kind data, type := kind.type, stream := sid } ∧
      (∀ k, (r.processData data sid ppid).1.partialData k =
        if k = kind then [] else r.partialData k) ∧
      (r.processData data sid ppid).1.mMaxMessageSize = r.mMaxMessageSize ∧
      (r.processData data sid ppid).1.mBytesReceived =
        r.mBytesReceived + (r.finalData kind data).length := by
  by_cases hempty : r.partialData kind = []
  · rw [show r.finalData kind data = data by simp [finalData, hempty]]
    cases ppid <;> cases h
    all_goals
      simp only [partialData] at hempty
      refine ⟨by simp [processData, hempty, DataKind.type], fun k => ?_, ?_, ?_⟩
      · cases k <;> simp [processData, partialData, hempty]
      · simp [processData, hempty]
      · simp [processData, hempty]
  · rw [show r.finalData kind data = resize (r.partialData kind ++ data) r.mMaxMessageSize by
      simp [finalData, hempty]]
    cases ppid <;> cases h
    all_goals
      simp only [partialData] at hempty
      refine ⟨by simp [processData, partialData, hempty, DataKind.type], fun k => ?_, ?_, ?_⟩
      · cases k <;> simp [processData, partialData, hempty]
      · simp [processData, hempty]
      · simp [processData, partialData, hempty]

/-- `processData` of an empty variant. -/
theorem processData_emptyData (r : Receiver β) (data : List β) (sid : ℕ) {ppid : PayloadId}
    {kind : DataKind} (h : ppid.role = .emptyData kind) :
    (r.processData data sid ppid).2 =
        some { data := r.partialData kind, type := kind.type, stream := sid } ∧
      (∀ k, (r.processData data sid ppid).1.partialData k =
        if k = kind then [] else r.partialData k) ∧
      (r.processData data sid ppid).1.mMaxMessageSize = r.mMaxMessageSize ∧
      (r.processData data sid ppid).1.mBytesReceived = r.mBytesReceived := by
  cases ppid <;> cases h
  all_goals
    refine ⟨rfl, fun k => ?_, rfl, rfl⟩
    cases k <;> rfl

/-- Behind a first piece the data of a final message is cut away. -/
theorem finalData_eq_finalContent {r : Receiver β} {unfinished : Unfinished β}
    (h : r.Holds unfinished) (kind : DataKind) (data : List β) :
    r.finalData kind data = Incoming.finalContent r.mMaxMessageSize unfinished kind data := by
  rw [finalData, Incoming.finalContent, h kind]
  cases hfirst : unfinished kind <;> simp [Incoming.buffer, hfirst]

/-- What the statistics count: the size of a final message, nothing for the empty variants. -/
def counted (maxMessageSize : ℕ) (unfinished : Unfinished β) (e : Incoming β) : ℕ :=
  match e.ppid.role with
  | .finalData kind => (Incoming.finalContent maxMessageSize unfinished kind e.data).length
  | _ => 0

/-- What `processData` does, in terms of the unfinished messages. -/
theorem processData_spec {r : Receiver β} {unfinished : Unfinished β} (h : r.Holds unfinished)
    (e : Incoming β) :
    (r.processData e.data e.sid e.ppid).2 = e.delivery r.mMaxMessageSize unfinished ∧
      (r.processData e.data e.sid e.ppid).1.Holds (e.advance unfinished) ∧
      (r.processData e.data e.sid e.ppid).1.mMaxMessageSize = r.mMaxMessageSize ∧
      (r.processData e.data e.sid e.ppid).1.mBytesReceived =
        r.mBytesReceived + counted r.mMaxMessageSize unfinished e := by
  cases hrole : e.ppid.role with
  -- a piece goes to the buffer of its kind
  | partialData kind =>
    obtain ⟨hmessage, hbuffers, hmax, hbytes⟩ := r.processData_partialData e.data e.sid hrole
    refine ⟨by simp [hmessage, Incoming.delivery, hrole], fun k => ?_, hmax, ?_⟩
    · rw [hbuffers, hmax, buffer_advance_partialData _ _ hrole, h, h]
    · simp [hbytes, counted, hrole]
  -- a message takes the buffer of its kind along, whatever its stream is
  | finalData kind =>
    obtain ⟨hmessage, hbuffers, hmax, hbytes⟩ := r.processData_finalData e.data e.sid hrole
    rw [finalData_eq_finalContent h] at hmessage hbytes
    refine ⟨by simp [hmessage, Incoming.delivery, hrole], fun k => ?_, hmax, ?_⟩
    · rw [hbuffers, hmax, buffer_advance_ending _ _ (Or.inl hrole), h]
    · simp [hbytes, counted, hrole]
  | emptyData kind =>
    obtain ⟨hmessage, hbuffers, hmax, hbytes⟩ := r.processData_emptyData e.data e.sid hrole
    refine ⟨by simp [hmessage, Incoming.delivery, hrole, h kind], fun k => ?_, hmax, ?_⟩
    · rw [hbuffers, hmax, buffer_advance_ending _ _ (Or.inr hrole), h]
    · simp [hbytes, counted, hrole]
  | control =>
    obtain ⟨data, sid, ppid⟩ := e
    cases ppid <;> cases hrole
    exact ⟨rfl, h, rfl, rfl⟩
  | unknown =>
    obtain ⟨data, sid, ppid⟩ := e
    cases ppid <;> cases hrole
    exact ⟨rfl, h, rfl, rfl⟩

/-- What `processAll` delivers is determined by the first pieces. -/
theorem processAll_received {r : Receiver β} {unfinished : Unfinished β} (h : r.Holds unfinished)
    (es : List (Incoming β)) :
    (r.processAll es).2 = Incoming.deliveries r.mMaxMessageSize unfinished es := by
  induction es generalizing r unfinished with
  | nil => rfl
  | cons e es ih =>
    obtain ⟨hmessage, hholds, hmax, -⟩ := processData_spec h e
    have hrest := ih hholds
    rw [hmax] at hrest
    simp only [processAll, Incoming.deliveries, hmessage, hrest]

/-- `processAll` of two sequences in turn. -/
theorem processAll_append (r : Receiver β) (es fs : List (Incoming β)) :
    r.processAll (es ++ fs) =
      (((r.processAll es).1.processAll fs).1,
        (r.processAll es).2 ++ ((r.processAll es).1.processAll fs).2) := by
  induction es generalizing r with
  | nil => rfl
  | cons e es ih => simp [processAll, ih]

end Receiver

/-! ## One fragmented message -/

/-- The message behind the partial ones: a final message, or the empty variant with its byte. -/
inductive Ending (β : Type*) where
  | final (data : List β)
  | empty (data : List β)
  deriving DecidableEq, Repr

/-- The part of the content that the last message brings. -/
def Ending.content : Ending β → List β
  | .final data => data
  | .empty _ => []

/-- The last message on the wire. -/
def Ending.incoming (kind : DataKind) (sid : ℕ) : Ending β → Incoming β
  | .final data => { data, sid, ppid := kind.finalId }
  | .empty data => { data, sid, ppid := kind.emptyId }

/-- A partial message. -/
def piece (kind : DataKind) (sid : ℕ) (data : List β) : Incoming β :=
  { data, sid, ppid := kind.partialId }

/-- A message sent as partial messages and a last one. -/
def fragmented (kind : DataKind) (sid : ℕ) (partials : List (List β)) (ending : Ending β) :
    List (Incoming β) :=
  partials.map (piece kind sid) ++ [ending.incoming kind sid]

namespace Receiver

/-- The fragmented message is delivered as the concatenation of its pieces, cut to the maximum
message size, is counted with its size, and leaves nothing behind. -/
def Reassembles (r : Receiver β) (kind : DataKind) (sid : ℕ) (partials : List (List β))
    (ending : Ending β) : Prop :=
  let content := (partials.flatten ++ ending.content).take r.mMaxMessageSize
  let outcome := r.processAll (fragmented kind sid partials ending)
  outcome.2 = [{ data := content, type := kind.type, stream := sid }] ∧
    outcome.1.mBytesReceived = r.mBytesReceived + content.length ∧
    outcome.1.mPartialStringData = [] ∧ outcome.1.mPartialBinaryData = []

/-- The first piece is all of the message that is kept, and it is padded with zeros: either there is
no partial message, or nothing is kept at all, or the message does not end with the empty variant,
reaches the limit, and has only zeros between its first piece and the limit. -/
def FirstPieceSuffices (maxMessageSize : ℕ) : List (List β) → Ending β → Prop
  | [], _ => True
  | _ :: _, .empty _ => maxMessageSize = 0
  | first :: rest, .final data =>
    maxMessageSize = 0 ∨
      maxMessageSize ≤ first.length + (rest.flatten ++ data).length ∧
        ∀ b ∈ (rest.flatten ++ data).take (maxMessageSize - first.length), b = 0

/-- What the partial messages leave behind. -/
theorem processAll_pieces {r : Receiver β} {unfinished : Unfinished β} (h : r.Holds unfinished)
    (kind : DataKind) (sid : ℕ) (partials : List (List β)) :
    (r.processAll (partials.map (piece kind sid))).2 = [] ∧
      (r.processAll (partials.map (piece kind sid))).1.Holds
        (Function.update unfinished kind
          ((unfinished kind).or (partials.head?.map (piece kind sid)))) ∧
      (r.processAll (partials.map (piece kind sid))).1.mMaxMessageSize = r.mMaxMessageSize ∧
      (r.processAll (partials.map (piece kind sid))).1.mBytesReceived = r.mBytesReceived := by
  induction partials generalizing r unfinished with
  | nil => simpa [processAll] using h
  | cons first rest ih =>
    have hrole : (piece kind sid first).ppid.role = .partialData kind := kind.role_partialId
    obtain ⟨hmessage, hholds, hmax, hbytes⟩ := processData_spec h (piece kind sid first)
    obtain ⟨hnone, hrest, hmax', hbytes'⟩ := ih hholds
    have hadvance : (piece kind sid first).advance unfinished =
        Function.update unfinished kind (some ((unfinished kind).getD (piece kind sid first))) := by
      simp [Incoming.advance, hrole]
    have hfirst : Function.update ((piece kind sid first).advance unfinished) kind
        (((piece kind sid first).advance unfinished kind).or (rest.head?.map (piece kind sid))) =
        Function.update unfinished kind ((unfinished kind).or (some (piece kind sid first))) := by
      rw [hadvance]
      cases unfinished kind <;> simp
    rw [hfirst] at hrest
    simp only [List.map_cons, processAll, hmessage, hnone]
    refine ⟨by simp [Incoming.delivery, hrole], hrest, hmax'.trans hmax, ?_⟩
    rw [hbytes', hbytes]
    simp [counted, hrole]

/-- The outcome of a fragmented message, in terms of its first piece. -/
theorem processAll_fragmented {r : Receiver β} (hs : r.mPartialStringData = [])
    (hb : r.mPartialBinaryData = []) (kind : DataKind) (sid : ℕ) (partials : List (List β))
    (ending : Ending β) :
    let unfinished : Unfinished β :=
      Function.update (fun _ => none) kind (partials.head?.map (piece kind sid))
    let e := ending.incoming kind sid
    (r.processAll (fragmented kind sid partials ending)).2 =
        (e.delivery r.mMaxMessageSize unfinished).toList ∧
      (r.processAll (fragmented kind sid partials ending)).1.mBytesReceived =
        r.mBytesReceived + counted r.mMaxMessageSize unfinished e ∧
      (r.processAll (fragmented kind sid partials ending)).1.mPartialStringData = [] ∧
      (r.processAll (fragmented kind sid partials ending)).1.mPartialBinaryData = [] := by
  intro unfinished e
  obtain ⟨hnone, hholds, hmax, hbytes⟩ :=
    processAll_pieces (holds_none hs hb) kind sid partials
  obtain ⟨hmessage, hafter, -, hbytes'⟩ := processData_spec hholds e
  -- the last message ends the only unfinished one
  have hadvance : e.advance unfinished = fun _ => none := by
    cases ending <;>
      simp [e, unfinished, Incoming.advance, Ending.incoming, Function.update_idem]
  rw [show Function.update (fun _ => none) kind
    ((none : Option (Incoming β)).or (partials.head?.map (piece kind sid))) = unfinished from rfl]
    at hmessage hafter hbytes'
  rw [hadvance] at hafter
  have hsplit : fragmented kind sid partials ending = partials.map (piece kind sid) ++ [e] := rfl
  rw [hsplit, processAll_append]
  simp only [processAll, hnone, hmessage, hbytes', hmax, hbytes]
  exact ⟨by simp, trivial, hafter .string, hafter .binary⟩

/-- With a first piece that has to be cut or padded to the limit, the concatenation cut to the limit
is the same exactly if the rest is long enough and only zeros of it are kept. -/
theorem take_append_eq_resize_iff {first rest : List β} {n : ℕ} (h : first.length ≤ n) :
    (first ++ rest).take n = resize first n ↔
      n ≤ first.length + rest.length ∧ ∀ b ∈ rest.take (n - first.length), b = 0 := by
  rw [resize_of_ge h, List.take_append, List.take_of_length_le h, List.append_cancel_left_eq,
    List.eq_replicate_iff]
  simp only [List.length_take]
  constructor
  · rintro ⟨hlength, hzero⟩
    exact ⟨by omega, hzero⟩
  · rintro ⟨hlength, hzero⟩
    exact ⟨by omega, hzero⟩

/-- A fragmented message whose pieces respect the limit is reassembled exactly if its first piece
is all of it that is kept. -/
theorem reassembles_iff {r : Receiver UInt8} (hs : r.mPartialStringData = [])
    (hb : r.mPartialBinaryData = []) (kind : DataKind) (sid : ℕ) (partials : List (List UInt8))
    (ending : Ending UInt8) (hpieces : ∀ p ∈ partials, p.length ≤ r.mMaxMessageSize)
    (hlast : ending.content.length ≤ r.mMaxMessageSize) :
    r.Reassembles kind sid partials ending ↔
      FirstPieceSuffices r.mMaxMessageSize partials ending := by
  obtain ⟨hmessage, hbytes, hstring, hbinary⟩ :=
    processAll_fragmented hs hb kind sid partials ending
  simp only [Reassembles, hmessage, hbytes, hstring, hbinary, and_true]
  cases partials with
  | nil =>
    cases ending with
    | final data =>
      have hcut : data.take r.mMaxMessageSize = data := List.take_of_length_le hlast
      simp [FirstPieceSuffices, Ending.incoming, Incoming.delivery, Incoming.finalContent,
        Incoming.buffer, Ending.content, counted, hcut]
    | empty data =>
      simp [FirstPieceSuffices, Ending.incoming, Incoming.delivery, Incoming.buffer,
        Ending.content, counted]
  | cons first rest =>
    have hfirst : first.length ≤ r.mMaxMessageSize := hpieces first (by simp)
    generalize r.mMaxMessageSize = n at *
    cases ending with
    | final data =>
      by_cases hn : n = 0
      · subst hn
        have hdata : data = [] := by simpa [Ending.content] using hlast
        simp [FirstPieceSuffices, Ending.incoming, Incoming.delivery, Incoming.finalContent,
          Incoming.buffer, Ending.content, counted, hdata]
      · have hne : resize first n ≠ [] := by
          rw [ne_eq, ← List.length_eq_zero_iff, length_resize]
          exact hn
        have hcut : (first ++ (rest.flatten ++ data)).take n = resize first n ↔ _ :=
          take_append_eq_resize_iff hfirst
        simp only [Ending.incoming, Incoming.delivery, DataKind.role_finalId, counted,
          Incoming.finalContent, Incoming.buffer, List.head?_cons, Option.map_some, piece,
          Function.update_self, Option.elim_some, List.isEmpty_iff, if_neg hne, Option.toList_some,
          List.flatten_cons, Ending.content, List.append_assoc, List.cons.injEq, and_true,
          Received.mk.injEq, FirstPieceSuffices, hn, false_or]
        rw [← hcut]
        constructor
        · rintro ⟨hcontent, -⟩
          exact hcontent.symm
        · intro hcontent
          exact ⟨hcontent.symm, by rw [hcontent]⟩
    | empty data =>
      simp only [Ending.incoming, Incoming.delivery, DataKind.role_emptyId, counted,
        Incoming.buffer, List.head?_cons, Option.map_some, piece, Function.update_self,
        Option.elim_some, Option.toList_some, Ending.content, List.append_nil, List.cons.injEq,
        and_true, Received.mk.injEq, FirstPieceSuffices]
      constructor
      · rintro ⟨hcontent, hbytes⟩
        -- the padded message is not counted
        have hlength : (resize first n).length = 0 := by rw [hcontent]; omega
        rwa [length_resize] at hlength
      · rintro rfl
        exact ⟨by simp, by simp⟩

/-- A first piece as long as the limit. -/
theorem reassembles_full_piece :
    ({ mMaxMessageSize := 2 } : Receiver UInt8).Reassembles .string 1 [[72, 101]] (.final [108]) :=
  (reassembles_iff rfl rfl .string 1 [[72, 101]] (.final [108]) (by decide) (by decide)).2
    (Or.inr ⟨by decide, by simp⟩)

/-- Two short pieces: the second one is lost and the message is padded to the limit. -/
theorem short_pieces_padded :
    (({ mMaxMessageSize := 6 } : Receiver UInt8).processAll
        (fragmented .string 1 [[72, 101]] (.final [108]))).2 =
        [{ data := [72, 101, 0, 0, 0, 0], type := .string, stream := 1 }] ∧
      ¬({ mMaxMessageSize := 6 } : Receiver UInt8).Reassembles .string 1 [[72, 101]]
        (.final [108]) := by
  have hreceived : (({ mMaxMessageSize := 6 } : Receiver UInt8).processAll
      (fragmented .string 1 [[72, 101]] (.final [108]))).2 =
      [{ data := [72, 101, 0, 0, 0, 0], type := .string, stream := 1 }] := by decide
  refine ⟨hreceived, fun h => ?_⟩
  have hcontent := hreceived.symm.trans h.1
  exact absurd hcontent (by decide)

end Receiver

end Rtc.SctpTransport
