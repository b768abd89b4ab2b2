import QuicRtc.SctpTransport.Reassembly

/-!
# Streams and partial messages

The buffers of partial messages belong to the transport, not to a stream. `Incoming.Separate` says
when a message finds the buffer of its kind in the hands of its own stream, and what is delivered is
then a matter of each stream alone:

* `Incoming.deliveries_origin`: every byte of a delivered message was received on its stream. The
  bytes are traced for this, each with the stream it was received on.
* `Incoming.deliveries_filter`: what is delivered on a stream is what the messages of that stream
  deliver by themselves.
-/

namespace Rtc.SctpTransport

variable {β γ : Type*}

namespace Incoming

/-! ## Messages that keep to their stream -/

/-- A message does not meet an unfinished message of another stream, and does not end one that has
been padded. A maximum message size of zero keeps the buffers empty. -/
def Separate (maxMessageSize : ℕ) (unfinished : Unfinished β) (e : Incoming β) : Prop :=
  match e.ppid.role with
  | .partialData kind =>
    ∀ first, unfinished kind = some first → maxMessageSize = 0 ∨ first.sid = e.sid
  | .finalData kind =>
    ∀ first, unfinished kind = some first →
      maxMessageSize = 0 ∨ first.sid = e.sid ∧ maxMessageSize ≤ first.data.length
  | .emptyData kind =>
    ∀ first, unfinished kind = some first →
      maxMessageSize = 0 ∨ first.sid = e.sid ∧ maxMessageSize ≤ first.data.length
  | .control => True
  | .unknown => True

/-- Every message of a sequence is separate where it comes. -/
def AllSeparate (maxMessageSize : ℕ) (unfinished : Unfinished β) : List (Incoming β) → Prop
  | [] => True
  | e :: es =>
    e.Separate maxMessageSize unfinished ∧ AllSeparate maxMessageSize (e.advance unfinished) es

/-! ## One stream by itself -/

section OneStream

variable {n s : ℕ} {u v : Unfinished β} {e : Incoming β}

/-- The unfinished messages of a stream are all that is left in `v`. -/
def Restricts (maxMessageSize stream : ℕ) (u v : Unfinished β) : Prop :=
  ∀ kind, maxMessageSize = 0 ∨ v kind = (u kind).filter fun first => first.sid = stream

/-- Both forget what is unfinished of a kind. -/
theorem restricts_update_both (h : Restricts n s u v) (kind : DataKind) :
    Restricts n s (Function.update u kind none) (Function.update v kind none) := by
  intro k
  by_cases hk : k = kind
  · exact Or.inr (by simp [hk])
  · simpa [hk] using h k

/-- What is unfinished of a kind on another stream can be replaced by anything of another stream. -/
theorem restricts_update_other (h : Restricts n s u v) {kind : DataKind}
    (hown : ∀ first, u kind = some first → first.sid ≠ s) {next : Option (Incoming β)}
    (hnext : ∀ first, next = some first → first.sid ≠ s) :
    Restricts n s (Function.update u kind next) v := by
  intro k
  by_cases hk : k = kind
  · subst hk
    refine (h k).imp_right fun hv => ?_
    have hleft : (u k).filter (fun first => first.sid = s) = none := by
      simpa [Option.filter_eq_none_iff] using hown
    have hright : next.filter (fun first => first.sid = s) = none := by
      simpa [Option.filter_eq_none_iff] using hnext
    rw [hv, hleft, Function.update_self, hright]
  · simpa [hk] using h k

/-- A separate message of the stream advances both alike. -/
theorem restricts_advance_own (h : Restricts n s u v) (hsid : e.sid = s) (hsep : e.Separate n u) :
    Restricts n s (e.advance u) (e.advance v) := by
  unfold Separate at hsep
  unfold advance
  cases hrole : e.ppid.role with
  | partialData kind =>
    rw [hrole] at hsep
    intro k
    by_cases hk : k = kind
    · subst hk
      rcases h k with hn | hv
      · exact Or.inl hn
      cases hu : u k with
      | none => exact Or.inr (by simp [hv, hu, hsid, Option.filter])
      | some first =>
        refine (hsep first hu).imp_right fun hfirst => ?_
        simp [hv, hu, hfirst.trans hsid, Option.filter]
    · simpa [hk] using h k
  | finalData kind => exact restricts_update_both h kind
  | emptyData kind => exact restricts_update_both h kind
  | control => exact h
  | unknown => exact h

/-- A separate message of another stream leaves the unfinished messages of the stream alone. -/
theorem restricts_advance_other (h : Restricts n s u v) (hsid : e.sid ≠ s)
    (hsep : e.Separate n u) : Restricts n s (e.advance u) v := by
  unfold Separate at hsep
  unfold advance
  by_cases hn : n = 0
  · exact fun k => Or.inl hn
  cases hrole : e.ppid.role with
  | partialData kind =>
    rw [hrole] at hsep
    -- the piece stands behind a piece of its own stream, which is not `s`
    have hother : ∀ first, u kind = some first → first.sid ≠ s := by
      intro first hu hs
      exact hsid (((hsep first hu).resolve_left hn).symm.trans hs)
    refine restricts_update_other h hother fun first hfirst => ?_
    cases hu : u kind with
    | none =>
      obtain rfl : e = first := by simpa [hu] using hfirst
      exact hsid
    | some p =>
      obtain rfl : p = first := by simpa [hu] using hfirst
      exact hother p hu
  | finalData kind =>
    rw [hrole] at hsep
    refine restricts_update_other h (fun first hu hs => ?_) (by simp)
    exact hsid (((hsep first hu).resolve_left hn).1.symm.trans hs)
  | emptyData kind =>
    rw [hrole] at hsep
    refine restricts_update_other h (fun first hu hs => ?_) (by simp)
    exact hsid (((hsep first hu).resolve_left hn).1.symm.trans hs)
  | control => exact h
  | unknown => exact h

variable [Zero β]

/-- A message finds the same buffer whether the other streams are there or not. -/
theorem buffer_of_restricts (h : Restricts n s u v) {kind : DataKind}
    (hown : ∀ first, u kind = some first → n = 0 ∨ first.sid = s) :
    buffer n v kind = buffer n u kind := by
  rcases h kind with rfl | hv
  · unfold buffer
    cases u kind <;> cases v kind <;> simp
  · cases hu : u kind with
    | none => simp [buffer, hv, hu]
    | some first =>
      rcases hown first hu with rfl | hsid
      · unfold buffer
        cases u kind <;> cases v kind <;> simp
      · simp [buffer, hv, hu, hsid, Option.filter]

/-- A separate message delivers the same whether the other streams are there or not. -/
theorem delivery_of_restricts (h : Restricts n s u v) (hsid : e.sid = s) (hsep : e.Separate n u) :
    e.delivery n v = e.delivery n u := by
  unfold Separate at hsep
  unfold delivery
  cases hrole : e.ppid.role with
  | partialData kind => rfl
  | finalData kind =>
    rw [hrole] at hsep
    have hbuffer := buffer_of_restricts h fun first hfirst =>
      (hsep first hfirst).imp_right fun hown => hown.1.trans hsid
    simp only [finalContent, hbuffer]
  | emptyData kind =>
    rw [hrole] at hsep
    have hbuffer := buffer_of_restricts h fun first hfirst =>
      (hsep first hfirst).imp_right fun hown => hown.1.trans hsid
    simp only [hbuffer]
  | control => rfl
  | unknown => rfl

/-- Everything a message delivers is delivered on its stream. -/
theorem delivery_stream {m : Received β} (h : e.delivery n u = some m) : m.stream = e.sid := by
  unfold delivery at h
  split at h <;> cases h <;> rfl

/-- What is delivered on a stream is what the messages of that stream deliver by themselves. -/
theorem deliveries_filter {es : List (Incoming β)} (hsep : AllSeparate n u es)
    (h : Restricts n s u v) :
    (deliveries n u es).filter (fun m => m.stream = s) =
      deliveries n v (es.filter fun e => e.sid = s) := by
  induction es generalizing u v with
  | nil => rfl
  | cons e es ih =>
    obtain ⟨he, hes⟩ := hsep
    by_cases hsid : e.sid = s
    · have hrest := ih hes (restricts_advance_own h hsid he)
      have hkept : (e.delivery n u).toList.filter (fun m => m.stream = s) =
          (e.delivery n u).toList := by
        rw [List.filter_eq_self]
        intro m hm
        simpa using (delivery_stream (Option.mem_toList.1 hm)).trans hsid
      simp [deliveries, hsid, hrest, hkept, delivery_of_restricts h hsid he]
    · have hrest := ih hes (restricts_advance_other h hsid he)
      have hdropped : (e.delivery n u).toList.filter (fun m => m.stream = s) = [] := by
        rw [List.filter_eq_nil_iff]
        intro m hm
        simpa using fun hs => hsid ((delivery_stream (Option.mem_toList.1 hm)).symm.trans hs)
      simp [deliveries, hsid, hrest, hdropped]

end OneStream

end Incoming

/-! ## Traced bytes -/

/-- A byte with the stream it was received on. A byte of padding comes from no stream. -/
structure Traced where
  value : UInt8
  origin : Option ℕ
  deriving DecidableEq, Repr

instance : Zero Traced := ⟨{ value := 0, origin := none }⟩

/-- A message with its bytes changed one by one. -/
def Incoming.map (f : β → γ) (e : Incoming β) : Incoming γ :=
  { data := e.data.map f, sid := e.sid, ppid := e.ppid }

/-- A delivered message with its bytes changed one by one. -/
def Received.map (f : β → γ) (m : Received β) : Received γ :=
  { data := m.data.map f, type := m.type, stream := m.stream }

/-- The message as it was received, with its bytes traced. -/
def Incoming.traced (e : Incoming UInt8) : Incoming Traced :=
  e.map fun value => { value, origin := some e.sid }

namespace Incoming

section Map

variable {f : β → γ} {n : ℕ} {u : Unfinished β}

/-- The unfinished messages with their bytes changed one by one. -/
def mapUnfinished (f : β → γ) (u : Unfinished β) : Unfinished γ :=
  fun kind => (u kind).map (Incoming.map f)

theorem advance_map (e : Incoming β) :
    (e.map f).advance (mapUnfinished f u) = mapUnfinished f (e.advance u) := by
  have hupdate : ∀ kind next, Function.update (mapUnfinished f u) kind (next.map (Incoming.map f)) =
      mapUnfinished f (Function.update u kind next) := by
    intro kind next
    funext k
    by_cases hk : k = kind
    · subst hk
      simp [mapUnfinished]
    · simp [mapUnfinished, hk]
  have hrole : (e.map f).ppid.role = e.ppid.role := rfl
  unfold advance
  rw [hrole]
  cases e.ppid.role with
  | partialData kind =>
    have hfirst : (mapUnfinished f u kind).getD (e.map f) = ((u kind).getD e).map f := by
      unfold mapUnfinished
      cases u kind <;> rfl
    simpa [hfirst] using hupdate kind (some ((u kind).getD e))
  | finalData kind => exact hupdate kind none
  | emptyData kind => exact hupdate kind none
  | control => rfl
  | unknown => rfl

theorem separate_map (e : Incoming β) :
    (e.map f).Separate n (mapUnfinished f u) ↔ e.Separate n u := by
  have hrole : (e.map f).ppid.role = e.ppid.role := rfl
  unfold Separate
  rw [hrole]
  cases e.ppid.role <;> simp [mapUnfinished, Incoming.map]

theorem allSeparate_map (es : List (Incoming β)) :
    AllSeparate n (mapUnfinished f u) (es.map (Incoming.map f)) ↔ AllSeparate n u es := by
  induction es generalizing u with
  | nil => rfl
  | cons e es ih => simp only [List.map_cons, AllSeparate, separate_map, advance_map, ih]

variable [Zero β] [Zero γ]

theorem resize_map (hzero : f 0 = 0) (data : List β) (size : ℕ) :
    Receiver.resize (data.map f) size = (Receiver.resize data size).map f := by
  induction size generalizing data with
  | zero => rfl
  | succ size ih =>
    cases data with
    | nil => simp [Receiver.resize, hzero]
    | cons b data => simpa [Receiver.resize] using ih data

theorem buffer_map (hzero : f 0 = 0) (kind : DataKind) :
    buffer n (mapUnfinished f u) kind = (buffer n u kind).map f := by
  unfold buffer mapUnfinished
  cases u kind with
  | none => rfl
  | some first => exact resize_map hzero first.data n

theorem delivery_map (hzero : f 0 = 0) (e : Incoming β) :
    (e.map f).delivery n (mapUnfinished f u) = (e.delivery n u).map (Received.map f) := by
  have hbuffer : ∀ kind, buffer n (mapUnfinished f u) kind = (buffer n u kind).map f :=
    fun kind => buffer_map hzero kind
  unfold delivery
  cases hrole : e.ppid.role with
  | partialData kind => simp [Incoming.map, hrole]
  | finalData kind =>
    by_cases hempty : buffer n u kind = [] <;>
      simp [Incoming.map, hrole, finalContent, hbuffer, Received.map, hempty]
  | emptyData kind => simp [Incoming.map, hrole, hbuffer, Received.map]
  | control => simp [Incoming.map, hrole, Received.map]
  | unknown => simp [Incoming.map, hrole]

theorem deliveries_map (hzero : f 0 = 0) (es : List (Incoming β)) :
    deliveries n (mapUnfinished f u) (es.map (Incoming.map f)) =
      (deliveries n u es).map (Received.map f) := by
  induction es generalizing u with
  | nil => rfl
  | cons e es ih =>
    simp only [List.map_cons, deliveries, delivery_map hzero, advance_map, ih, List.map_append]
    cases e.delivery n u <;> rfl

end Map

section Origin

variable {n : ℕ} {u : Unfinished Traced} {e : Incoming Traced}

/-- All bytes of a message were received on its stream. -/
def Genuine (e : Incoming Traced) : Prop := ∀ b ∈ e.data, b.origin = some e.sid

/-- All unfinished messages are genuine. -/
def AllGenuine (u : Unfinished Traced) : Prop := ∀ kind first, u kind = some first → first.Genuine

theorem genuine_traced (e : Incoming UInt8) : e.traced.Genuine := by
  simp [Genuine, traced, Incoming.map]

theorem allGenuine_advance (hu : AllGenuine u) (he : e.Genuine) : AllGenuine (e.advance u) := by
  have hupdate : ∀ kind next, (∀ first, next = some first → first.Genuine) →
      AllGenuine (Function.update u kind next) := by
    intro kind next hnext k first hfirst
    by_cases hk : k = kind
    · subst hk
      exact hnext first (by simpa using hfirst)
    · exact hu k first (by simpa [hk] using hfirst)
  unfold advance
  cases e.ppid.role with
  | partialData kind =>
    refine hupdate kind _ fun first hfirst => ?_
    cases hkind : u kind with
    | none =>
      obtain rfl : e = first := by simpa [hkind] using hfirst
      exact he
    | some p =>
      obtain rfl : p = first := by simpa [hkind] using hfirst
      exact hu kind p hkind
  | finalData kind => exact hupdate kind none (by simp)
  | emptyData kind => exact hupdate kind none (by simp)
  | control => exact hu
  | unknown => exact hu

/-- Without padding, the buffer of a stream has the bytes of that stream only. -/
theorem buffer_origin (hu : AllGenuine u) {kind : DataKind} {s : ℕ}
    (hown : ∀ first, u kind = some first →
      n = 0 ∨ first.sid = s ∧ n ≤ first.data.length) :
    ∀ b ∈ buffer n u kind, b.origin = some s := by
  intro b hb
  unfold buffer at hb
  cases hfirst : u kind with
  | none => simp [hfirst] at hb
  | some first =>
    rw [hfirst] at hb
    rcases hown first hfirst with rfl | ⟨hsid, hlength⟩
    · simp at hb
    · rw [Option.elim_some, Receiver.resize_of_le hlength] at hb
      exact (hu kind first hfirst b (List.mem_of_mem_take hb)).trans (by rw [hsid])

/-- A separate message delivers bytes of its stream. -/
theorem delivery_origin (hu : AllGenuine u) (he : e.Genuine) (hsep : e.Separate n u)
    {m : Received Traced} (h : e.delivery n u = some m) :
    ∀ b ∈ m.data, b.origin = some m.stream := by
  rw [delivery_stream h]
  unfold Separate at hsep
  unfold delivery at h
  cases hrole : e.ppid.role with
  | partialData kind => simp [hrole] at h
  | finalData kind =>
    rw [hrole] at h hsep
    obtain rfl := Option.some.inj h
    unfold finalContent
    split
    · exact he
    · exact buffer_origin hu hsep
  | emptyData kind =>
    rw [hrole] at h hsep
    obtain rfl := Option.some.inj h
    exact buffer_origin hu hsep
  | control =>
    rw [hrole] at h
    obtain rfl := Option.some.inj h
    exact he
  | unknown => simp [hrole] at h

/-- Every byte of a delivered message was received on the stream it is delivered on. -/
theorem deliveries_origin {es : List (Incoming Traced)} (hu : AllGenuine u)
    (hes : ∀ e ∈ es, e.Genuine) (hsep : AllSeparate n u es) :
    ∀ m ∈ deliveries n u es, ∀ b ∈ m.data, b.origin = some m.stream := by
  induction es generalizing u with
  | nil => simp [deliveries]
  | cons e es ih =>
    obtain ⟨he, hrest⟩ := List.forall_mem_cons.1 hes
    intro m hm
    rcases List.mem_append.1 hm with hm | hm
    · exact delivery_origin hu he hsep.1 (Option.mem_toList.1 hm)
    · exact ih (allGenuine_advance hu he) hrest hsep.2 m hm

end Origin

end Incoming

/-! ## Streams are isolated -/

/-- The messages delivered on a stream. -/
def Received.on (s : ℕ) (messages : List (Received β)) : List (Received β) :=
  messages.filter fun m => m.stream = s

/-- In runs whose messages are all separate, every byte delivered on a stream was received on it,
and what is delivered on a stream depends on the messages of that stream only. -/
theorem processAll_separate {n : ℕ} {es es' : List (Incoming UInt8)}
    (h : Incoming.AllSeparate n (fun _ => none) es)
    (h' : Incoming.AllSeparate n (fun _ => none) es') :
    (((Receiver.fresh Traced n).processAll (es.map Incoming.traced)).2.map
        (Received.map Traced.value) = ((Receiver.fresh UInt8 n).processAll es).2 ∧
      ∀ m ∈ ((Receiver.fresh Traced n).processAll (es.map Incoming.traced)).2,
        ∀ b ∈ m.data, b.origin = some m.stream) ∧
    ∀ s, (es.filter fun e => e.sid = s) = (es'.filter fun e => e.sid = s) →
      Received.on s ((Receiver.fresh UInt8 n).processAll es).2 =
        Received.on s ((Receiver.fresh UInt8 n).processAll es').2 := by
  have hfresh : ∀ {β : Type} [Zero β] (es : List (Incoming β)),
      ((Receiver.fresh β n).processAll es).2 = Incoming.deliveries n (fun _ => none) es :=
    fun es => Receiver.processAll_received (Receiver.holds_none rfl rfl) es
  have huntraced : (es.map Incoming.traced).map (Incoming.map Traced.value) = es := by
    simp [Incoming.traced, Incoming.map, Function.comp_def]
  have hvalue := Incoming.deliveries_map (n := n) (u := fun _ => none)
    (show Traced.value 0 = 0 from rfl) (es.map Incoming.traced)
  rw [huntraced] at hvalue
  have htraced : Incoming.AllSeparate n (fun _ => none) (es.map Incoming.traced) := by
    rw [← Incoming.allSeparate_map (f := Traced.value), huntraced]
    exact h
  -- the tracing is erased, then followed, then the other streams are left out
  refine ⟨⟨?_, ?_⟩, fun s hs => ?_⟩
  · rw [hfresh, hfresh]
    exact hvalue.symm
  · rw [hfresh]
    refine Incoming.deliveries_origin (by simp [Incoming.AllGenuine]) ?_ htraced
    simpa using fun e _ => Incoming.genuine_traced e
  · have hnone : Incoming.Restricts n s (fun _ => none)
        (fun _ => (none : Option (Incoming UInt8))) := fun kind => Or.inr rfl
    rw [hfresh, hfresh]
    exact (Incoming.deliveries_filter h hnone).trans
      ((congrArg _ hs).trans (Incoming.deliveries_filter h' hnone).symm)

/-- A fragmented string on stream 1, with and without a binary message of stream 2 in between. -/
theorem processAll_separate_interleaved :
    Received.on 1 ((Receiver.fresh UInt8 2).processAll
        [{ data := [72, 101], sid := 1, ppid := .stringPartial },
          { data := [66], sid := 2, ppid := .binary },
          { data := [108], sid := 1, ppid := .string }]).2 =
      Received.on 1 ((Receiver.fresh UInt8 2).processAll
        [{ data := [72, 101], sid := 1, ppid := .stringPartial },
          { data := [108], sid := 1, ppid := .string }]).2 :=
  (processAll_separate
    (by simp [Incoming.AllSeparate, Incoming.Separate, Incoming.advance, PayloadId.role])
    (by simp [Incoming.AllSeparate, Incoming.Separate, Incoming.advance, PayloadId.role])).2 1
      (by decide)

/-- A partial message on stream 1 takes the place of a string that comes on stream 2. -/
theorem partial_message_leaks :
    let final : Incoming UInt8 := { data := [66], sid := 2, ppid := .string }
    let es := [{ data := [65], sid := 1, ppid := .stringPartial }, final]
    (∃ m ∈ ((Receiver.fresh Traced 4).processAll (es.map Incoming.traced)).2,
        m.stream = 2 ∧ ∃ b ∈ m.data, b.origin = some 1) ∧
      (es.filter fun e => e.sid = 2) = ([final].filter fun e => e.sid = 2) ∧
      Received.on 2 ((Receiver.fresh UInt8 4).processAll es).2 =
        [{ data := [65, 0, 0, 0], type := .string, stream := 2 }] ∧
      Received.on 2 ((Receiver.fresh UInt8 4).processAll [final]).2 =
        [{ data := [66], type := .string, stream := 2 }] := by
  decide

end Rtc.SctpTransport
