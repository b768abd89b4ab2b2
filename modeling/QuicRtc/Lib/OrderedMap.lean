import Mathlib.Data.List.Induction
import Mathlib.Order.Defs.LinearOrder
import Mathlib.Order.Lattice

/-!
# Maps in the order of their keys

An `OrderedMap` is the list of its entries, whose keys are strictly ascending.

* `emplace` inserts an entry at its place, unless there is one with this key.
* `modify` applies a function to the value of a key.
* `filter` keeps the entries with a property, and `erase` all but the one with a key.
* `mapValues` applies a function to all values, and `ofList` emplaces the entries of a list.
* `find?_ofList_of_forall_lt`, `find?_ofList_last`, `modify_ofList_last`: while a map is filled in
  the order of the keys, the next key is new, and the last entry is changed in place.
* `ofList_entries`: a map that is filled from the entries of a map is the same map.
-/

/-- A map with its entries in the order of their keys. -/
@[ext]
structure OrderedMap (κ β : Type*) [LT κ] where
  entries : List (κ × β)
  ascending : entries.Pairwise fun x y => x.1 < y.1

namespace OrderedMap

variable {κ β : Type*} [LinearOrder κ]

/-- The map without entries. -/
def empty : OrderedMap κ β := ⟨[], .nil⟩

/-- The value of a key. -/
def find? (m : OrderedMap κ β) (k : κ) : Option β :=
  (m.entries.find? fun entry => entry.1 = k).map Prod.snd

/-- Insert an entry before the first one with a larger key. -/
def insertEntry (k : κ) (v : β) : List (κ × β) → List (κ × β)
  | [] => [(k, v)]
  | entry :: entries =>
    if k < entry.1 then (k, v) :: entry :: entries
    else if k = entry.1 then entry :: entries
    else entry :: insertEntry k v entries

theorem mem_insertEntry {k : κ} {v : β} {entries : List (κ × β)} {entry : κ × β}
    (h : entry ∈ insertEntry k v entries) : entry = (k, v) ∨ entry ∈ entries := by
  induction entries with
  | nil => exact .inl (List.mem_singleton.1 h)
  | cons first entries ih =>
    rw [insertEntry] at h
    split_ifs at h
    · exact List.mem_cons.1 h
    · exact .inr h
    · rcases List.mem_cons.1 h with rfl | hrest
      · exact .inr List.mem_cons_self
      · exact (ih hrest).imp_right (List.mem_cons_of_mem _)

/-- The keys stay in order. -/
theorem pairwise_insertEntry (k : κ) (v : β) {entries : List (κ × β)}
    (h : entries.Pairwise fun x y => x.1 < y.1) :
    (insertEntry k v entries).Pairwise fun x y => x.1 < y.1 := by
  induction entries with
  | nil => exact List.pairwise_singleton _ _
  | cons first entries ih =>
    obtain ⟨hfirst, hrest⟩ := List.pairwise_cons.1 h
    rw [insertEntry]
    split_ifs with hlt heq
    · refine List.pairwise_cons.2 ⟨fun entry hentry => ?_, h⟩
      rcases List.mem_cons.1 hentry with rfl | hmem
      · exact hlt
      · exact lt_trans hlt (hfirst entry hmem)
    · exact h
    · refine List.pairwise_cons.2 ⟨fun entry hentry => ?_, ih hrest⟩
      rcases mem_insertEntry hentry with rfl | hmem
      · exact lt_of_le_of_ne (not_lt.1 hlt) (Ne.symm heq)
      · exact hfirst entry hmem

/-- Insert an entry, unless there is one with this key. -/
def emplace (m : OrderedMap κ β) (k : κ) (v : β) : OrderedMap κ β :=
  ⟨insertEntry k v m.entries, pairwise_insertEntry k v m.ascending⟩

/-- Apply a function to the value of a key. -/
def modify (m : OrderedMap κ β) (k : κ) (f : β → β) : OrderedMap κ β :=
  ⟨m.entries.map fun entry => (entry.1, if entry.1 = k then f entry.2 else entry.2),
    List.pairwise_map.2 m.ascending⟩

/-- Keep the entries with a property. -/
def filter (m : OrderedMap κ β) (p : κ × β → Bool) : OrderedMap κ β :=
  ⟨m.entries.filter p, m.ascending.filter p⟩

/-- Remove the entry with a key. -/
def erase (m : OrderedMap κ β) (k : κ) : OrderedMap κ β := m.filter fun entry => entry.1 ≠ k

/-- Apply a function to all values. -/
def mapValues {γ : Type*} (f : β → γ) (m : OrderedMap κ β) : OrderedMap κ γ :=
  ⟨m.entries.map fun entry => (entry.1, f entry.2), List.pairwise_map.2 m.ascending⟩

/-- Emplace the entries of a list in their order. -/
def ofList (entries : List (κ × β)) : OrderedMap κ β :=
  entries.foldl (fun m entry => m.emplace entry.1 entry.2) empty

variable {m : OrderedMap κ β} {k : κ} {v : β}

theorem mem_emplace {entry : κ × β} (h : entry ∈ (m.emplace k v).entries) :
    entry = (k, v) ∨ entry ∈ m.entries := mem_insertEntry h

/-- An entry with a larger key than all others is appended. -/
theorem entries_emplace_of_forall_lt (h : ∀ entry ∈ m.entries, entry.1 < k) :
    (m.emplace k v).entries = m.entries ++ [(k, v)] := by
  change insertEntry k v m.entries = m.entries ++ [(k, v)]
  generalize m.entries = entries at h
  induction entries with
  | nil => rfl
  | cons first entries ih =>
    obtain ⟨hfirst, hrest⟩ := List.forall_mem_cons.1 h
    rw [insertEntry, if_neg (lt_asymm hfirst), if_neg (ne_of_gt hfirst), ih hrest, List.cons_append]

theorem find?_eq_none_of_forall_lt (h : ∀ entry ∈ m.entries, entry.1 < k) : m.find? k = none := by
  rw [find?, Option.map_eq_none_iff, List.find?_eq_none]
  intro entry hentry
  simpa using ne_of_lt (h entry hentry)

/-- The last entry is found. -/
theorem find?_last {entries : List (κ × β)} (hm : m.entries = entries ++ [(k, v)])
    (h : ∀ entry ∈ entries, entry.1 < k) : m.find? k = some v := by
  have hnone : entries.find? (fun entry => decide (entry.1 = k)) = none := by
    rw [List.find?_eq_none]
    intro entry hentry
    simpa using ne_of_lt (h entry hentry)
  rw [find?, hm, List.find?_append, hnone]
  simp

/-- The last entry is changed in place. -/
theorem entries_modify_last {entries : List (κ × β)} (hm : m.entries = entries ++ [(k, v)])
    (h : ∀ entry ∈ entries, entry.1 < k) (f : β → β) :
    (m.modify k f).entries = entries ++ [(k, f v)] := by
  change m.entries.map _ = _
  have hsame : entries.map (fun entry => (entry.1, if entry.1 = k then f entry.2 else entry.2)) =
      entries := by
    refine (List.map_congr_left fun entry hentry => ?_).trans (List.map_id entries)
    rw [if_neg (ne_of_lt (h entry hentry))]
    rfl
  rw [hm, List.map_append, hsame]
  simp

theorem mem_modify {f : β → β} {entry : κ × β} (h : entry ∈ (m.modify k f).entries) :
    ∃ value, (entry.1, value) ∈ m.entries ∧
      (entry.2 = value ∨ entry.1 = k ∧ entry.2 = f value) := by
  obtain ⟨entry, hentry, rfl⟩ := List.mem_map.1 h
  refine ⟨entry.2, hentry, ?_⟩
  by_cases hk : entry.1 = k
  · exact .inr ⟨hk, if_pos hk⟩
  · exact .inl (if_neg hk)

/-- What is kept is kept in both steps. -/
theorem filter_filter (m : OrderedMap κ β) (p q : κ × β → Bool) :
    (m.filter p).filter q = m.filter fun entry => p entry && q entry :=
  OrderedMap.ext (List.filter_filter.trans (List.filter_congr fun _ _ => Bool.and_comm _ _))

/-! ## Filling a map in the order of the keys -/

variable {entries : List (κ × β)}

theorem ofList_append_singleton (entries : List (κ × β)) (k : κ) (v : β) :
    ofList (entries ++ [(k, v)]) = (ofList entries).emplace k v := by
  rw [ofList, List.foldl_append]
  rfl

theorem forall_lt_of_pairwise_append {rest : List (κ × β)}
    (h : (entries ++ (k, v) :: rest).Pairwise fun x y => x.1 < y.1) :
    ∀ entry ∈ entries, entry.1 < k :=
  fun entry hentry => (List.pairwise_append.1 h).2.2 entry hentry (k, v) List.mem_cons_self

theorem entries_ofList (h : entries.Pairwise fun x y => x.1 < y.1) :
    (ofList entries).entries = entries := by
  induction entries using List.reverseRecOn with
  | nil => rfl
  | append_singleton entries entry ih =>
    have hentries := ih (List.pairwise_append.1 h).1
    rw [ofList_append_singleton, entries_emplace_of_forall_lt, hentries]
    rw [hentries]
    exact forall_lt_of_pairwise_append h

/-- A map is filled from its entries. -/
theorem ofList_entries (m : OrderedMap κ β) : ofList m.entries = m :=
  OrderedMap.ext (entries_ofList m.ascending)

section

variable (h : (entries ++ [(k, v)]).Pairwise fun x y => x.1 < y.1)
include h

theorem find?_ofList_of_forall_lt : (ofList entries).find? k = none := by
  refine find?_eq_none_of_forall_lt ?_
  rw [entries_ofList (List.pairwise_append.1 h).1]
  exact forall_lt_of_pairwise_append h

theorem find?_ofList_last : (ofList (entries ++ [(k, v)])).find? k = some v :=
  find?_last (entries_ofList h) (forall_lt_of_pairwise_append h)

theorem modify_ofList_last (f : β → β) :
    (ofList (entries ++ [(k, v)])).modify k f = ofList (entries ++ [(k, f v)]) := by
  have hkeys : (entries ++ [(k, f v)]).Pairwise fun x y => x.1 < y.1 := by
    rw [List.pairwise_append] at h ⊢
    exact ⟨h.1, List.pairwise_singleton _ _, fun x hx y hy => by
      obtain rfl := List.mem_singleton.1 hy
      exact h.2.2 x hx (k, v) List.mem_cons_self⟩
  refine OrderedMap.ext ?_
  rw [entries_modify_last (entries_ofList h) (forall_lt_of_pairwise_append h), entries_ofList hkeys]

end

end OrderedMap
