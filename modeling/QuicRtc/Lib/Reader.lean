import Mathlib.Data.List.Basic

/-!
# Readers of a byte stream

A reader takes a value from the front of a stream and returns it with the rest of the stream, or
`none` when the stream ends too early. `Reader.Reads read bytes value` says that `bytes` is an
encoding of `value` for the reader: it reads `value` from any stream that starts with `bytes`, and
reads nothing from a stream that ends inside `bytes`.

* `Reads.bind`, `Reads.map`: encodings of consecutive fields are concatenated.
* `reads_take`: the reader of a fixed number of symbols.
* `upTo_eq_some_iff`, `upTo_eq_none_iff`: the reader of the symbols before a delimiter.
* `Stable.reads`: for a reader that more input does not change, it is enough to read the encoding
  alone.
* `getElem?_of_drop`, `drop_add_of_drop`: readers with an index into a buffer, which is where the
  stream starts.
-/

namespace Reader

variable {α β γ : Type*}

/-- `bytes` is read as `value`, whatever follows, and no strict prefix of it is read. -/
structure Reads (read : List β → Option (α × List β)) (bytes : List β) (value : α) : Prop where
  complete : ∀ rest, read (bytes ++ rest) = some (value, rest)
  incomplete : ∀ p, p <+: bytes → p ≠ bytes → read p = none

/-- The reader of the next `n` symbols. -/
def take (n : ℕ) (stream : List β) : Option (List β × List β) :=
  if stream.length < n then none else some (stream.take n, stream.drop n)

/-- Read a value with the first reader and go on with the reader it selects. -/
def bind (read : List β → Option (α × List β)) (next : α → List β → Option (γ × List β))
    (stream : List β) : Option (γ × List β) :=
  (read stream).bind fun (value, rest) => next value rest

/-- Apply a function to the value read. -/
def map (f : α → γ) (read : List β → Option (α × List β)) (stream : List β) :
    Option (γ × List β) :=
  (read stream).map fun (value, rest) => (f value, rest)

/-- The reader of the symbols before the first `delim`, which is consumed. -/
def upTo [DecidableEq β] (delim : β) : List β → Option (List β × List β)
  | [] => none
  | b :: stream =>
    if b = delim then some ([], stream)
    else (upTo delim stream).map fun (value, rest) => (b :: value, rest)

/-- A stream is split at its first delimiter. -/
theorem upTo_eq_some_iff [DecidableEq β] {delim : β} {stream value rest : List β} :
    upTo delim stream = some (value, rest) ↔
      delim ∉ value ∧ stream = value ++ delim :: rest := by
  induction stream generalizing value with
  | nil => simp [upTo]
  | cons b stream ih =>
    by_cases hb : b = delim
    · subst hb
      cases value with
      | nil => simp [upTo, eq_comm]
      | cons c value =>
        simp only [upTo, if_pos, List.cons_append, List.cons.injEq, List.mem_cons]
        constructor
        · intro h
          simp at h
        · rintro ⟨hmem, rfl, -⟩
          exact absurd (Or.inl rfl) hmem
    · cases value with
      | nil => simp [upTo, hb]
      | cons c value =>
        -- the first symbol is not the delimiter, so that it belongs to the value
        simp only [upTo, if_neg hb, Option.map_eq_some_iff, Prod.exists, Prod.mk.injEq,
          List.cons.injEq, List.cons_append, List.mem_cons, not_or]
        constructor
        · rintro ⟨v, r, hread, ⟨rfl, rfl⟩, rfl⟩
          obtain ⟨hmem, hsplit⟩ := ih.1 hread
          exact ⟨⟨fun h => hb h.symm, hmem⟩, rfl, hsplit⟩
        · rintro ⟨⟨-, hmem⟩, rfl, hsplit⟩
          exact ⟨value, rest, ih.2 ⟨hmem, hsplit⟩, ⟨rfl, rfl⟩, rfl⟩

/-- A stream without the delimiter is not read. -/
theorem upTo_eq_none_iff [DecidableEq β] {delim : β} {stream : List β} :
    upTo delim stream = none ↔ delim ∉ stream := by
  rw [Option.eq_none_iff_forall_ne_some]
  constructor
  · intro h hmem
    obtain ⟨value, rest, hsplit, hvalue⟩ := List.eq_append_cons_of_mem hmem
    exact h (value, rest) (upTo_eq_some_iff.2 ⟨hvalue, hsplit⟩)
  · rintro h ⟨value, rest⟩ hread
    obtain ⟨-, rfl⟩ := upTo_eq_some_iff.1 hread
    exact h (List.mem_append_right _ List.mem_cons_self)

/-- A stream that is long enough is split after `n` symbols. -/
theorem take_eq_some_iff {n : ℕ} {stream value rest : List β} :
    take n stream = some (value, rest) ↔ value.length = n ∧ stream = value ++ rest := by
  unfold take
  split
  · next hshort =>
    constructor
    · intro h
      cases h
    · rintro ⟨hlength, rfl⟩
      simp at hshort
      omega
  · next hlong =>
    simp only [Option.some.injEq, Prod.mk.injEq]
    constructor
    · rintro ⟨rfl, rfl⟩
      exact ⟨by simp; omega, (List.take_append_drop n stream).symm⟩
    · rintro ⟨rfl, rfl⟩
      simp

/-- The rest is what follows the symbols that were consumed, and these are `n` at least. -/
def Consumes (n : ℕ) (read : List β → Option (α × List β)) : Prop :=
  ∀ stream value rest, read stream = some (value, rest) →
    ∃ taken, n ≤ taken.length ∧ stream = taken ++ rest

namespace Consumes

variable {read : List β → Option (α × List β)} {n : ℕ}

theorem pure (value : α) : Consumes 0 (fun stream : List β => some (value, stream)) := by
  intro stream v rest hread
  obtain ⟨rfl, rfl⟩ := Prod.mk.inj (Option.some.inj hread)
  exact ⟨[], Nat.le_refl 0, rfl⟩

theorem take (n : ℕ) : Consumes n (take n : List β → Option (List β × List β)) := by
  intro stream value rest hread
  obtain ⟨hlength, rfl⟩ := take_eq_some_iff.1 hread
  exact ⟨value, Nat.le_of_eq hlength.symm, rfl⟩

theorem map (h : Consumes n read) (f : α → γ) : Consumes n (map f read) := by
  intro stream value rest hread
  obtain ⟨⟨v, r⟩, hv, heq⟩ := Option.map_eq_some_iff.1 hread
  obtain ⟨rfl, rfl⟩ := Prod.mk.inj heq
  exact h _ _ _ hv

theorem bind {next : α → List β → Option (γ × List β)} (h : Consumes n read)
    (hnext : ∀ value, Consumes 0 (next value)) : Consumes n (bind read next) := by
  intro stream value rest hread
  obtain ⟨⟨v, r⟩, hv, hr⟩ := Option.bind_eq_some_iff.1 hread
  obtain ⟨first, hfirst, rfl⟩ := h _ _ _ hv
  obtain ⟨second, -, rfl⟩ := hnext v _ _ _ hr
  exact ⟨first ++ second, by simp; omega, by simp⟩

theorem mono {m : ℕ} (h : Consumes n read) (hle : m ≤ n) : Consumes m read := by
  intro stream value rest hread
  obtain ⟨taken, hlength, rfl⟩ := h _ _ _ hread
  exact ⟨taken, by omega, rfl⟩

end Consumes

/-- The rest is what follows the symbols that were consumed, and these are `n` at most. -/
def Within (n : ℕ) (read : List β → Option (α × List β)) : Prop :=
  ∀ stream value rest, read stream = some (value, rest) →
    ∃ taken, taken.length ≤ n ∧ stream = taken ++ rest

namespace Within

variable {read : List β → Option (α × List β)} {n : ℕ}

theorem pure (value : α) : Within 0 (fun stream : List β => some (value, stream)) := by
  intro stream v rest hread
  obtain ⟨rfl, rfl⟩ := Prod.mk.inj (Option.some.inj hread)
  exact ⟨[], Nat.le_refl 0, rfl⟩

theorem take (n : ℕ) : Within n (take n : List β → Option (List β × List β)) := by
  intro stream value rest hread
  obtain ⟨hlength, rfl⟩ := take_eq_some_iff.1 hread
  exact ⟨value, Nat.le_of_eq hlength, rfl⟩

theorem map (h : Within n read) (f : α → γ) : Within n (map f read) := by
  intro stream value rest hread
  obtain ⟨⟨v, r⟩, hv, heq⟩ := Option.map_eq_some_iff.1 hread
  obtain ⟨rfl, rfl⟩ := Prod.mk.inj heq
  exact h _ _ _ hv

theorem bind {m : ℕ} {next : α → List β → Option (γ × List β)} (h : Within n read)
    (hnext : ∀ value, Within m (next value)) : Within (n + m) (bind read next) := by
  intro stream value rest hread
  obtain ⟨⟨v, r⟩, hv, hr⟩ := Option.bind_eq_some_iff.1 hread
  obtain ⟨first, hfirst, rfl⟩ := h _ _ _ hv
  obtain ⟨second, hsecond, rfl⟩ := hnext v _ _ _ hr
  exact ⟨first ++ second, by simp; omega, by simp⟩

theorem mono {m : ℕ} (h : Within n read) (hle : n ≤ m) : Within m read := by
  intro stream value rest hread
  obtain ⟨taken, hlength, rfl⟩ := h _ _ _ hread
  exact ⟨taken, by omega, rfl⟩

end Within

/-- More input changes nothing but the rest of the stream. -/
def Stable (read : List β → Option (α × List β)) : Prop :=
  ∀ stream value rest, read stream = some (value, rest) →
    ∀ more, read (stream ++ more) = some (value, rest ++ more)

namespace Stable

variable {read : List β → Option (α × List β)}

theorem map (h : Stable read) (f : α → γ) : Stable (map f read) := by
  intro stream value rest hread more
  obtain ⟨⟨v, r⟩, hv, heq⟩ := Option.map_eq_some_iff.1 hread
  obtain ⟨rfl, rfl⟩ := Prod.mk.inj heq
  simp [Reader.map, h _ _ _ hv more]

theorem pure (value : α) : Stable (fun stream : List β => some (value, stream)) := by
  intro stream v rest hread more
  obtain ⟨rfl, rfl⟩ := Prod.mk.inj (Option.some.inj hread)
  rfl

theorem take (n : ℕ) : Stable (take n : List β → Option (List β × List β)) := by
  intro stream value rest hread more
  obtain ⟨hlength, rfl⟩ := take_eq_some_iff.1 hread
  exact take_eq_some_iff.2 ⟨hlength, by simp⟩

theorem bind {next : α → List β → Option (γ × List β)} (h : Stable read)
    (hnext : ∀ value, Stable (next value)) : Stable (bind read next) := by
  intro stream value rest hread more
  obtain ⟨⟨v, r⟩, hv, hr⟩ := Option.bind_eq_some_iff.1 hread
  rw [Reader.bind, h _ _ _ hv more]
  exact hnext v _ _ _ hr more

theorem upTo [DecidableEq β] (delim : β) : Stable (upTo delim) := by
  intro stream value rest hread more
  obtain ⟨hmem, rfl⟩ := upTo_eq_some_iff.1 hread
  exact upTo_eq_some_iff.2 ⟨hmem, by simp⟩

/-- What a stable reader takes as a whole is an encoding of the value it reads. -/
theorem reads (h : Stable read) {bytes : List β} {value : α}
    (hread : read bytes = some (value, [])) : Reads read bytes value where
  complete := fun rest => h _ _ _ hread rest
  incomplete := by
    rintro p ⟨more, rfl⟩ hne
    by_contra hsome
    obtain ⟨⟨v, r⟩, hv⟩ := Option.ne_none_iff_exists'.1 hsome
    -- the rest of the whole would not be empty
    have hrest : r ++ more = [] := by
      have := (h _ _ _ hv more).symm.trans hread
      simp only [Option.some.injEq, Prod.mk.injEq] at this
      exact this.2
    exact hne (by simp [(List.append_eq_nil_iff.1 hrest).2])

end Stable

/-- A stream that starts a concatenation ends inside the first part or covers it. -/
theorem inside_or_covers {p first second : List β} (h : p <+: first ++ second) :
    (p <+: first ∧ p ≠ first) ∨ ∃ q, q <+: second ∧ p = first ++ q := by
  obtain ⟨rest, hrest⟩ := h
  -- one of the two lists is shorter
  rcases List.append_eq_append_iff.1 hrest with ⟨q, hfirst, -⟩ | ⟨q, hp, hsecond⟩
  · by_cases hq : q = []
    · exact Or.inr ⟨[], List.nil_prefix, by simp [hfirst, hq]⟩
    · exact Or.inl ⟨⟨q, hfirst.symm⟩, fun heq => hq (by simpa [heq] using hfirst)⟩
  · exact Or.inr ⟨q, ⟨rest, hsecond.symm⟩, hp⟩

/-- Exactly the lists of `n` symbols are read by `take n`. -/
theorem reads_take {n : ℕ} {bytes : List β} (h : bytes.length = n) :
    Reads (take n) bytes bytes where
  complete := by
    intro rest
    subst h
    simp [take]
  incomplete := by
    intro p hp hne
    have hlt : p.length < n := by
      rw [← h]
      exact Nat.lt_of_le_of_ne hp.length_le fun heq => hne (hp.eq_of_length heq)
    simp [take, hlt]

namespace Reads

variable {read : List β → Option (α × List β)} {bytes : List β} {value : α}

/-- The encoding of a value that takes no symbols. -/
theorem pure (value : α) : Reads (fun stream : List β => some (value, stream)) [] value where
  complete := fun _ => rfl
  incomplete := fun _ hp hne => absurd (List.prefix_nil.1 hp) hne

theorem map (h : Reads read bytes value) (f : α → γ) : Reads (map f read) bytes (f value) where
  complete := by
    intro rest
    simp [Reader.map, h.complete rest]
  incomplete := by
    intro p hp hne
    simp [Reader.map, h.incomplete p hp hne]

/-- Consecutive fields. -/
theorem bind {next : α → List β → Option (γ × List β)} {bytes' : List β} {value' : γ}
    (h : Reads read bytes value) (h' : Reads (next value) bytes' value') :
    Reads (bind read next) (bytes ++ bytes') value' where
  complete := by
    intro rest
    rw [Reader.bind, List.append_assoc, h.complete]
    exact h'.complete rest
  incomplete := by
    intro p hp hne
    -- the stream ends in the first field, or in the second one
    rcases inside_or_covers hp with ⟨hp, hne⟩ | ⟨q, hq, rfl⟩
    · rw [Reader.bind, h.incomplete p hp hne]
      rfl
    · have hq' : q ≠ bytes' := by
        rintro rfl
        exact hne rfl
      rw [Reader.bind, h.complete]
      exact h'.incomplete q hq hq'

end Reads

/-! ## Reading at an index -/

section Index

variable {bytes front rest : List β} {b : β} {i : ℕ}

/-- What is read at an index is the front of what is behind it. -/
theorem getElem?_of_drop (h : bytes.drop i = b :: rest) : bytes[i]? = some b := by
  rw [← List.head?_drop, h]
  rfl

theorem getElem?_of_drop_nil (h : bytes.drop i = []) : bytes[i]? = none :=
  List.getElem?_eq_none (List.drop_eq_nil_iff.1 h)

theorem lt_length_of_drop (h : bytes.drop i = b :: rest) : i < bytes.length :=
  (List.getElem?_eq_some_iff.1 (getElem?_of_drop h)).1

theorem drop_add_of_drop (h : bytes.drop i = front ++ rest) :
    bytes.drop (i + front.length) = rest := by
  rw [← List.drop_drop, h, List.drop_left]

theorem drop_succ_of_drop (h : bytes.drop i = b :: rest) : bytes.drop (i + 1) = rest := by
  rw [← List.singleton_append] at h
  exact drop_add_of_drop h

end Index

end Reader
