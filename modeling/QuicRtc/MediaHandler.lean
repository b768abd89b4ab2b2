import Mathlib.Data.List.Perm.Subperm
import Mathlib.Data.List.Range
import QuicRtc.Lib.LinkedChain
import QuicRtc.Lib.Transition

/-!
# Chains of media handlers

A `MediaHandler` (`mediahandler.cpp`) points to the next one of its chain, and its functions on the
chain are recursive: `outgoingChain` goes from the first handler to the last, `incomingChain` back
from the last to the first, and `last`, `mediaChain` and the requests go along the chain as well.
Nothing keeps a handler from being put on a chain on which it is already, and then they do not
return.

* `Visits`: what the functions do on a chain of handlers.
* `returns_iff`: they return, and go through the chain, for every handler and at all times exactly
  if no call of `setNext` or `addToChain` closes a circle.
-/

namespace Rtc

/-- The virtual functions of a `MediaHandler`. The callback `send` is an effect of `m`, and `none`
is the default implementation of a request. -/
structure MediaHandler (m : Type → Type) (Description Message : Type) where
  media : Description → m Unit
  incoming : List Message → m (List Message)
  outgoing : List Message → m (List Message)
  requestKeyframe : Option (m Bool) := none
  requestBitrate : Option (ℕ → m Bool) := none

namespace MediaHandler

open LinkedChain

/-! ## The functions on the chain -/

/-- `MediaHandler::last`. The first argument bounds the depth of the recursion. -/
def last (mNext : ℕ → Option ℕ) : ℕ → ℕ → Option ℕ
  | 0, _ => none
  | depth + 1, handler =>
    match mNext handler with
    | some next => last mNext depth next
    | none => some handler

section Functions

variable {m : Type → Type} [Monad m] {Description Message : Type}
  (handlers : ℕ → MediaHandler m Description Message) (mNext : ℕ → Option ℕ)

/-- `MediaHandler::mediaChain`. -/
def mediaChain : ℕ → ℕ → Description → OptionT m Unit
  | 0, _, _ => failure
  | depth + 1, handler, desc => do
    OptionT.lift ((handlers handler).media desc)
    match mNext handler with
    | some next => mediaChain depth next desc
    | none => pure ()

/-- `MediaHandler::incomingChain`. -/
def incomingChain : ℕ → ℕ → List Message → OptionT m (List Message)
  | 0, _, _ => failure
  | depth + 1, handler, messages => do
    let messages ← match mNext handler with
      | some next => incomingChain depth next messages
      | none => pure messages
    OptionT.lift ((handlers handler).incoming messages)

/-- `MediaHandler::outgoingChain`. -/
def outgoingChain : ℕ → ℕ → List Message → OptionT m (List Message)
  | 0, _, _ => failure
  | depth + 1, handler, messages => do
    let messages ← OptionT.lift ((handlers handler).outgoing messages)
    match mNext handler with
    | some next => outgoingChain depth next messages
    | none => pure messages

/-- A request: `MediaHandler::requestKeyframe` or `MediaHandler::requestBitrate`, of which the
default implementation calls the next handler. -/
def request (overridden : MediaHandler m Description Message → Option (m Bool)) :
    ℕ → ℕ → OptionT m Bool
  | 0, _ => failure
  | depth + 1, handler =>
    match overridden (handlers handler) with
    | some answer => OptionT.lift answer
    | none =>
      match mNext handler with
      | some next => request overridden depth next
      | none => pure false

/-- `MediaHandler::requestKeyframe`. -/
def requestKeyframeChain (depth handler : ℕ) : OptionT m Bool :=
  request handlers mNext MediaHandler.requestKeyframe depth handler

/-- `MediaHandler::requestBitrate`. -/
def requestBitrateChain (depth handler bitrate : ℕ) : OptionT m Bool :=
  request handlers mNext (fun h => h.requestBitrate.map (· bitrate)) depth handler

end Functions

/-! ## What they do on a chain -/

/-- The functions go through these handlers, `incomingChain` from the last to the first, and a
request is answered by the first one that overrides it. -/
structure Visits (mNext : ℕ → Option ℕ) (depth handler : ℕ) (l : List ℕ) : Prop where
  last : last mNext depth handler = l.getLast?
  mediaChain : ∀ (m : Type → Type) [Monad m] [LawfulMonad m] (Description Message : Type)
    (handlers : ℕ → MediaHandler m Description Message) (desc : Description),
    mediaChain handlers mNext depth handler desc =
      OptionT.lift (l.forM fun h => (handlers h).media desc)
  incomingChain : ∀ (m : Type → Type) [Monad m] [LawfulMonad m] (Description Message : Type)
    (handlers : ℕ → MediaHandler m Description Message) (messages : List Message),
    incomingChain handlers mNext depth handler messages =
      OptionT.lift (l.reverse.foldlM (fun messages h => (handlers h).incoming messages) messages)
  outgoingChain : ∀ (m : Type → Type) [Monad m] [LawfulMonad m] (Description Message : Type)
    (handlers : ℕ → MediaHandler m Description Message) (messages : List Message),
    outgoingChain handlers mNext depth handler messages =
      OptionT.lift (l.foldlM (fun messages h => (handlers h).outgoing messages) messages)
  request : ∀ (m : Type → Type) [Monad m] [LawfulMonad m] (Description Message : Type)
    (handlers : ℕ → MediaHandler m Description Message)
    (overridden : MediaHandler m Description Message → Option (m Bool)),
    request handlers mNext overridden depth handler =
      OptionT.lift ((l.findSome? fun h => overridden (handlers h)).getD (pure false))

section Visits

variable {mNext : ℕ → Option ℕ} {handler depth : ℕ} {l : List ℕ}

/-- The recursion follows the chain, by induction on it. -/
theorem visits (h : Chain mNext handler l) (hdepth : l.length ≤ depth) :
    Visits mNext depth handler l := by
  induction h generalizing depth with
  | @last handler hnone =>
    obtain ⟨depth, rfl⟩ : ∃ k, depth = k + 1 := Nat.exists_eq_add_of_le' hdepth
    constructor
    · simp [MediaHandler.last, hnone]
    · intros
      simp [MediaHandler.mediaChain, hnone]
    · intros
      simp [MediaHandler.incomingChain, hnone]
    · intros
      simp [MediaHandler.outgoingChain, hnone]
    · intro m _ _ Description Message handlers overridden
      rw [MediaHandler.request]
      cases hover : overridden (handlers handler) <;> simp [hover, hnone]
  | @cons handler next rest hsome htail ih =>
    obtain ⟨depth, rfl⟩ : ∃ k, depth = k + 1 :=
      Nat.exists_eq_add_of_le' (Nat.le_of_add_left_le hdepth)
    have hrest := ih (Nat.le_of_succ_le_succ hdepth)
    constructor
    · obtain ⟨others, rfl⟩ := htail.exists_cons
      rw [MediaHandler.last, hsome, List.getLast?_cons_cons]
      exact hrest.last
    · intro m _ _ Description Message handlers desc
      rw [MediaHandler.mediaChain, hsome]
      simp [hrest.mediaChain]
    · intro m _ _ Description Message handlers messages
      rw [MediaHandler.incomingChain, hsome]
      simp [hrest.incomingChain]
    · intro m _ _ Description Message handlers messages
      rw [MediaHandler.outgoingChain, hsome]
      simp [hrest.outgoingChain]
    · intro m _ _ Description Message handlers overridden
      rw [MediaHandler.request]
      cases hover : overridden (handlers handler) <;> simp [hover, hsome, hrest.request]

/-- The last handler is found at the end of a chain. -/
theorem ends_of_last {x : ℕ} (h : last mNext depth handler = some x) : Ends mNext handler := by
  induction depth generalizing handler with
  | zero => cases h
  | succ depth ih =>
    rw [MediaHandler.last] at h
    split at h
    · next next hsome =>
      obtain ⟨l, hl⟩ := ih h
      exact ⟨_, .cons hsome hl⟩
    · next hnone => exact ⟨_, .last hnone⟩

end Visits

/-! ## Setting the pointers -/

/-- The handlers that were made, and their pointers. -/
structure Handlers where
  count : ℕ := 0
  mNext : ℕ → Option ℕ := fun _ => none

/-- What is done with them. -/
inductive Event where
  | make
  | setNext (handler : ℕ) (next : Option ℕ)
  | addToChain (handler : ℕ) (added : Option ℕ)
  deriving DecidableEq, Repr

/-- The handlers from one of them on. -/
def chainFrom (mNext : ℕ → Option ℕ) : ℕ → ℕ → List ℕ
  | 0, _ => []
  | depth + 1, handler =>
    handler ::
      match mNext handler with
      | some next => chainFrom mNext depth next
      | none => []

namespace Handlers

/-- `MediaHandler::setNext`. -/
def setNext (w : Handlers) (handler : ℕ) (next : Option ℕ) : Handlers :=
  { w with mNext := Function.update w.mNext handler next }

/-- `MediaHandler::addToChain`. -/
def addToChain (w : Handlers) (handler : ℕ) (added : Option ℕ) : Option Handlers :=
  (MediaHandler.last w.mNext w.count handler).map fun last => w.setNext last added

/-- One call, on handlers that were made. -/
def step (w : Handlers) : Event → Option Handlers
  | .make => some { w with count := w.count + 1 }
  | .setNext handler next =>
    if handler < w.count ∧ next.all (· < w.count) then some (w.setNext handler next) else none
  | .addToChain handler added =>
    if handler < w.count ∧ added.all (· < w.count) then w.addToChain handler added else none

/-- The functions return: they go through the chain of the handler, which comes first, and meet no
handler twice. A recursion that ends is at most as deep as there are handlers. -/
def Returns (w : Handlers) : Prop :=
  ∀ handler < w.count, ∃ l, l.head? = some handler ∧ l.Nodup ∧ Visits w.mNext w.count handler l

/-- The call closes no circle: the handler is not on the chain that is put behind it, or the two
chains do not have the same end. -/
def Open (w : Handlers) : Event → Prop
  | .make => True
  | .setNext handler next => ∀ h ∈ next, handler ∉ chainFrom w.mNext w.count h
  | .addToChain handler added =>
    ∀ h ∈ added, MediaHandler.last w.mNext w.count h ≠ MediaHandler.last w.mNext w.count handler

/-- The pointers lead from handlers to handlers, and every chain ends. -/
structure Inv (w : Handlers) : Prop where
  range : ∀ handler next, w.mNext handler = some next → next < w.count
  ends : ∀ handler, Ends w.mNext handler

end Handlers

theorem chainFrom_eq {mNext : ℕ → Option ℕ} {handler depth : ℕ} {l : List ℕ}
    (h : Chain mNext handler l) (hdepth : l.length ≤ depth) :
    chainFrom mNext depth handler = l := by
  induction h generalizing depth with
  | last hnone =>
    obtain ⟨depth, rfl⟩ : ∃ k, depth = k + 1 := Nat.exists_eq_add_of_le' hdepth
    rw [chainFrom, hnone]
  | cons hsome _ ih =>
    obtain ⟨depth, rfl⟩ : ∃ k, depth = k + 1 :=
      Nat.exists_eq_add_of_le' (Nat.le_of_add_left_le hdepth)
    rw [chainFrom, hsome]
    exact congrArg _ (ih (Nat.le_of_succ_le_succ hdepth))

namespace Handlers.Inv

variable {w w' : Handlers} {handler : ℕ} {l : List ℕ}

/-- The handlers of a chain were made. -/
theorem lt_count (h : w.Inv) (hl : Chain w.mNext handler l) (hhandler : handler < w.count) :
    ∀ x ∈ l, x < w.count := by
  induction hl with
  | last =>
    intro x hx
    rwa [List.mem_singleton.1 hx]
  | cons hsome _ ih =>
    exact List.forall_mem_cons.2 ⟨hhandler, ih (h.range _ _ hsome)⟩

/-- A chain has at most as many handlers as there are. -/
theorem length_le (h : w.Inv) (hl : Chain w.mNext handler l) (hhandler : handler < w.count) :
    l.length ≤ w.count := by
  have hsubset : l ⊆ List.range w.count := fun x hx =>
    List.mem_range.2 (h.lt_count hl hhandler x hx)
  have hle := (hl.nodup.subperm hsubset).length_le
  rwa [List.length_range] at hle

theorem visits (h : w.Inv) (hl : Chain w.mNext handler l) (hhandler : handler < w.count) :
    Visits w.mNext w.count handler l :=
  MediaHandler.visits hl (h.length_le hl hhandler)

/-- While all chains end, the functions return. -/
theorem returns (h : w.Inv) : w.Returns := by
  intro handler hhandler
  obtain ⟨l, hl⟩ := h.ends handler
  obtain ⟨rest, rfl⟩ := hl.exists_cons
  exact ⟨_, rfl, hl.nodup, h.visits hl hhandler⟩

/-- A pointer to a handler that was made. -/
theorem setNext (h : w.Inv) {x : ℕ} {target : Option ℕ} (htarget : target.all (· < w.count))
    (hfree : ∀ b ∈ target, ∀ m, Chain w.mNext b m → x ∉ m) : (w.setNext x target).Inv where
  range := by
    intro handler next hnext
    by_cases heq : handler = x
    · subst heq
      have htarget' : target = some next := by
        rw [← hnext]
        exact (Function.update_self handler target w.mNext).symm
      rw [htarget'] at htarget
      exact of_decide_eq_true htarget
    · have hold : w.mNext handler = some next := by
        rw [← hnext]
        exact (Function.update_of_ne heq target w.mNext).symm
      exact h.range handler next hold
  ends := (ends_update_iff h.ends).2 hfree

/-- A chain goes through the last handler of another one if it ends with it as well. -/
theorem mem_iff_last (h : w.Inv) {b x : ℕ} {m : List ℕ} (hhandler : handler < w.count)
    (hb : b < w.count) (hm : Chain w.mNext b m)
    (hx : MediaHandler.last w.mNext w.count handler = some x) :
    x ∈ m ↔ MediaHandler.last w.mNext w.count b = MediaHandler.last w.mNext w.count handler := by
  obtain ⟨l, hl⟩ := h.ends handler
  obtain ⟨y, hy, hnone⟩ := hl.getLast?
  have hxy := hx.symm.trans ((h.visits hl hhandler).last.trans hy)
  obtain rfl := Option.some.inj hxy
  rw [(h.visits hm hb).last, hx]
  constructor
  · intro hmem
    obtain ⟨front, rfl⟩ := hm.eq_append_of_none hmem hnone
    exact List.getLast?_concat
  · exact List.mem_of_getLast?

/-- A call that closes no circle keeps all chains finite. -/
theorem step (h : w.Inv) {e : Event} (hopen : w.Open e) (hstep : w.step e = some w') :
    w'.Inv := by
  cases e with
  | make =>
    obtain rfl := Option.some.inj hstep
    exact ⟨fun handler next hnext => Nat.lt_succ_of_lt (h.range handler next hnext), h.ends⟩
  | setNext x target =>
    rw [Handlers.step, Option.ite_none_right_eq_some, Option.some.injEq] at hstep
    obtain ⟨⟨-, htarget⟩, rfl⟩ := hstep
    refine h.setNext htarget fun b hb m hm hmem => ?_
    obtain rfl := Option.mem_def.1 hb
    refine hopen b rfl ?_
    rwa [chainFrom_eq hm (h.length_le hm (of_decide_eq_true htarget))]
  | addToChain handler target =>
    rw [Handlers.step, Option.ite_none_right_eq_some] at hstep
    obtain ⟨⟨hhandler, htarget⟩, hadded⟩ := hstep
    obtain ⟨x, hx, rfl⟩ := Option.map_eq_some_iff.1 hadded
    refine h.setNext htarget fun b hb m hm hmem => ?_
    obtain rfl := Option.mem_def.1 hb
    exact hopen b rfl ((h.mem_iff_last hhandler (of_decide_eq_true htarget) hm hx).1 hmem)

/-- A call that closes a circle leaves a handler from which the functions do not return. -/
theorem not_returns (h : w.Inv) {e : Event} (hclosed : ¬w.Open e) (hstep : w.step e = some w') :
    ¬w'.Returns := by
  -- the handler the pointer of which is set is on a circle
  obtain ⟨x, b, m, hm, hmem, hx, rfl⟩ : ∃ x b m, Chain w.mNext b m ∧ x ∈ m ∧ x < w.count ∧
      w' = w.setNext x (some b) := by
    cases e with
    | make => exact absurd trivial hclosed
    | setNext x target =>
      rw [Handlers.step, Option.ite_none_right_eq_some, Option.some.injEq] at hstep
      obtain ⟨⟨hx, htarget⟩, rfl⟩ := hstep
      rw [Handlers.Open] at hclosed
      push Not at hclosed
      obtain ⟨b, hb, hmem⟩ := hclosed
      obtain rfl := Option.mem_def.1 hb
      obtain ⟨m, hm⟩ := h.ends b
      rw [chainFrom_eq hm (h.length_le hm (of_decide_eq_true htarget))] at hmem
      exact ⟨x, b, m, hm, hmem, hx, rfl⟩
    | addToChain handler target =>
      rw [Handlers.step, Option.ite_none_right_eq_some] at hstep
      obtain ⟨⟨hhandler, htarget⟩, hadded⟩ := hstep
      obtain ⟨x, hlast, rfl⟩ := Option.map_eq_some_iff.1 hadded
      rw [Handlers.Open] at hclosed
      push Not at hclosed
      obtain ⟨b, hb, hsame⟩ := hclosed
      obtain rfl := Option.mem_def.1 hb
      have hb' := of_decide_eq_true htarget
      obtain ⟨m, hm⟩ := h.ends b
      have hmem := (h.mem_iff_last hhandler hb' hm hlast).2 hsame
      exact ⟨x, b, m, hm, hmem, h.lt_count hm hb' x hmem, rfl⟩
  intro hreturns
  obtain ⟨l, hhead, -, hvisits⟩ := hreturns x hx
  obtain ⟨rest, rfl⟩ : ∃ rest, l = x :: rest := List.head?_eq_some_iff.1 hhead
  obtain ⟨y, hy⟩ : ∃ y, (x :: rest).getLast? = some y :=
    ⟨_, List.getLast?_eq_some_getLast (List.cons_ne_nil x rest)⟩
  exact not_ends_update hm hmem (ends_of_last (hvisits.last.trans hy))

end Handlers.Inv

/-- **Chains of media handlers.** All along a run the functions return for every handler, going
through the handlers of its chain once each and in order, exactly if no call closes a circle. -/
theorem returns_iff {events : List Event} {w : Handlers}
    (hrun : Transition.run Handlers.step {} events = some w) :
    (∀ fs, fs <+: events → ∀ u, Transition.run Handlers.step {} fs = some u → u.Returns) ↔
      Transition.Meets Handlers.step Handlers.Open {} events := by
  have hstart : Handlers.Inv {} := by
    refine ⟨fun handler next hnext => ?_, fun handler => ⟨[handler], .last rfl⟩⟩
    cases hnext
  exact Transition.forall_prefix_iff_meets_of_invariant (fun _ h => h.returns)
    (fun _ _ _ h hopen hstep => h.step hopen hstep)
    (fun _ _ _ h hclosed hstep => h.not_returns hclosed hstep) hstart hrun

/-- Two chains of two handlers, one of which is put behind the other. -/
theorem returns_iff_four :
    let events : List Event :=
      [.make, .make, .make, .make, .addToChain 0 (some 1), .addToChain 2 (some 3),
        .addToChain 0 (some 2)]
    (∃ w, Transition.run Handlers.step {} events = some w ∧
      chainFrom w.mNext w.count 0 = [0, 1, 2, 3]) ∧
    ((∀ fs, fs <+: events → ∀ u, Transition.run Handlers.step {} fs = some u → u.Returns) ↔
      Transition.Meets Handlers.step Handlers.Open {} events) := by
  intro events
  obtain ⟨w, hrun, hchain⟩ : ∃ w, Transition.run Handlers.step {} events = some w ∧
      chainFrom w.mNext w.count 0 = [0, 1, 2, 3] := ⟨_, rfl, rfl⟩
  exact ⟨⟨w, hrun, hchain⟩, returns_iff hrun⟩

end MediaHandler

end Rtc
