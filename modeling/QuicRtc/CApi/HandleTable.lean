import Mathlib.Algebra.Group.Nat.Defs
import Mathlib.Data.Finset.Basic
import Mathlib.Data.List.Nodup
import QuicRtc.CApi.Defs

/-!
# The handle table stays consistent

`World` follows, beside the tables, which ids have been made, which of their objects have not been
deleted, and the configuration and the reporter of the latest set-up call for each track.

* `Correct`: what users rely on between two calls.
* `Registered`: what the map of configurations, or that of reporters, says about the tracks.
* `Inv`: the invariant of the runs whose calls all meet `Safe`.
* `correct_iff_meets`: the tables stay correct along exactly these runs.
-/

namespace Rtc

namespace CApi

variable {α γ ρ : Type}

/-- The tables and what has happened to them. -/
structure World (α γ ρ : Type) where
  tables : Tables α γ ρ := {}
  /-- The ids of all objects made so far, in order. -/
  issued : List ℤ := []
  /-- The ids of the objects that have not been deleted. -/
  live : Finset ℤ := ∅
  latestConfig : Table γ := Table.clear
  latestReporter : Table ρ := Table.clear

namespace World

variable (w : World α γ ρ)

/-- An object has been made. -/
def made (s' : Tables α γ ρ) (id : ℤ) : World α γ ρ :=
  { w with tables := s', issued := w.issued ++ [id], live := insert id w.live }

/-- The object of an id has been deleted. -/
def deleted (s' : Tables α γ ρ) (id : ℤ) : World α γ ρ :=
  { w with tables := s', live := w.live.erase id }

/-- Follow a call that has succeeded, with the tables after it and the value it returned. -/
def succeeded (s' : Tables α γ ρ) (value : ℤ) : Op α γ ρ → World α γ ρ
  | .setUserPointer _ _ => { w with tables := s' }
  | .createPeerConnection _ | .createDataChannel _ _ | .addTrack _ _ | .createWebSocket _
  | .createWebSocketServer _ | .onDataChannel _ _ | .onTrack _ _ | .onClient _ _ =>
    w.made s' value
  | .deletePeerConnection id | .deleteDataChannel id | .deleteTrack id | .deleteWebSocket id
  | .deleteWebSocketServer id | .delete id => w.deleted s' id
  | .setPacketizer _ tr (.ok config) =>
    { w with tables := s', latestConfig := w.latestConfig.assign tr config }
  | .setPacketizer _ _ (.error _) => { w with tables := s' }
  | .chainRtcpSrReporter tr reporter =>
    { w with tables := s', latestReporter := w.latestReporter.assign tr reporter }
  | .cleanup => { w with tables := s', live := ∅ }

/-- One call. A call that throws has not changed the tables. -/
def after (op : Op α γ ρ) : World α γ ρ :=
  match op.execute w.tables with
  | .ok (s', value) => w.succeeded s' value op
  | .error _ => w

/-- One step. -/
def step (op : Op α γ ρ) : Option (World α γ ρ) := some (w.after op)

/-- Ids are never reused, a live id belongs to exactly one object map and no other id to any, the
user pointers are those of the live ids, and the registered configuration and reporter of a track
are those of the latest calls. -/
structure Correct : Prop where
  nodup : w.issued.Nodup
  one_map : ∀ id ∈ w.live, ∃! kind, (w.tables.objects kind id).isSome = true
  no_map : ∀ id ∉ w.live, ∀ kind, w.tables.objects kind id = none
  pointer : ∀ id, (w.tables.userPointerMap id).isSome = true ↔ id ∈ w.live
  config : ∀ tr, (w.tables.trackMap tr).isSome = true →
    w.tables.rtpConfigMap tr = w.latestConfig tr
  reporter : ∀ tr, (w.tables.trackMap tr).isSome = true →
    w.tables.rtcpSrReporterMap tr = w.latestReporter tr

end World

/-- The packetizers whose set-up call registers the configuration. -/
def Packetizer.registers : Packetizer → Bool
  | .h264 | .opus => true
  | .h265 | .av1 | .aac => false

namespace World

variable (w : World α γ ρ)

/-- The calls that keep the tables correct: user pointers are set on live ids, a packetizer
registers its configuration and finds none registered, a reporter finds none registered, and fewer
than `2 ^ 32` objects have been made before another. -/
def Safe : Op α γ ρ → Prop
  | .setUserPointer id _ => id ∈ w.live
  | .setPacketizer packetizer tr (.ok config) => (w.tables.trackMap tr).isSome = true →
    w.tables.rtpConfigMap tr = some config ∨
      w.tables.rtpConfigMap tr = none ∧ packetizer.registers = true
  | .chainRtcpSrReporter tr reporter =>
    (w.tables.trackMap tr).isSome = true → (w.tables.rtpConfigMap tr).isSome = true →
    w.tables.rtcpSrReporterMap tr = some reporter ∨ w.tables.rtcpSrReporterMap tr = none
  | .createPeerConnection (.ok _) | .createWebSocket (.ok _) | .createWebSocketServer (.ok _)
  | .onDataChannel _ _ | .onTrack _ _ | .onClient _ _ => w.issued.length < 2 ^ 32
  | .createDataChannel pc (.ok _) | .addTrack pc (.ok _) =>
    (w.tables.peerConnectionMap pc).isSome = true → w.issued.length < 2 ^ 32
  | _ => True

end World

/-! ## Ids -/

/-- A zero `int` incremented `i` times. -/
def intOf (i : ℕ) : ℤ := Int.bmod i 4294967296

/-- The id of the object made after `i` others. -/
def handle (i : ℕ) : ℤ := intOf (i + 1)

theorem bmod_eq (x : ℤ) :
    Int.bmod x 4294967296 =
      if x % 4294967296 < 2147483648 then x % 4294967296 else x % 4294967296 - 4294967296 := by
  rw [Int.bmod_def]
  simp

theorem intOf_eq (i : ℕ) :
    intOf i =
      if (i : ℤ) % 4294967296 < 2147483648 then (i : ℤ) % 4294967296
      else (i : ℤ) % 4294967296 - 4294967296 :=
  bmod_eq i

theorem intOf_zero : intOf 0 = 0 := by
  rw [intOf_eq]
  omega

/-- The counter runs through the handles. -/
theorem Tables.nextId_eq {s : Tables α γ ρ} {n : ℕ} (h : s.lastId = intOf n) :
    s.nextId = handle n := by
  rw [Tables.nextId, handle, h, intOf_eq, intOf_eq]
  omega

/-- The first `2 ^ 32` handles are different. -/
theorem handle_injOn {i j : ℕ} (hi : i < 2 ^ 32) (hj : j < 2 ^ 32)
    (h : handle i = handle j) : i = j := by
  rw [handle, handle, intOf_eq, intOf_eq] at h
  omega

/-- After `2 ^ 32` handles the first one comes again. -/
theorem handle_wrap : handle (2 ^ 32) = handle 0 := by decide

/-- The handles made so far are different while there are at most `2 ^ 32` of them. -/
theorem nodup_handles {n : ℕ} (hn : n ≤ 2 ^ 32) : ((List.range n).map handle).Nodup := by
  refine List.Nodup.map_on (fun i hi j hj h => ?_) List.nodup_range
  rw [List.mem_range] at hi hj
  exact handle_injOn (by omega) (by omega) h

/-- A handle that has not been made yet is none of those made. -/
theorem handle_notMem {n : ℕ} (hn : n < 2 ^ 32) : handle n ∉ (List.range n).map handle := by
  rw [List.mem_map]
  rintro ⟨i, hi, h⟩
  rw [List.mem_range] at hi
  exact absurd (handle_injOn (by omega) hn h) (by omega)

/-! ## The tables of the tracks -/

/-- A map of the tracks holds what the latest calls gave for each track, and nothing else. -/
structure Registered {β : Type} (isTrack : ℤ → Prop) (issued : List ℤ) (map latest : Table β) :
    Prop where
  latest_eq : ∀ tr, isTrack tr → map tr = latest tr
  no_track : ∀ tr, ¬isTrack tr → map tr = none
  no_id : ∀ tr ∉ issued, latest tr = none

namespace Registered

variable {β : Type} {isTrack isTrack' : ℤ → Prop} {issued : List ℤ} {map latest : Table β}

/-- A new id, for a track or for another object. -/
theorem made (h : Registered isTrack issued map latest) {id : ℤ} (hnew : id ∉ issued)
    (hid : ¬isTrack id) (hother : ∀ tr, tr ≠ id → (isTrack' tr ↔ isTrack tr)) :
    Registered isTrack' (issued ++ [id]) map latest where
  latest_eq tr htr := by
    by_cases heq : tr = id
    · subst heq
      rw [h.no_track tr hid, h.no_id tr hnew]
    · exact h.latest_eq tr ((hother tr heq).1 htr)
  no_track tr htr := by
    by_cases heq : tr = id
    · exact heq ▸ h.no_track id hid
    · exact h.no_track tr fun hold => htr ((hother tr heq).2 hold)
  no_id tr htr := h.no_id tr fun hmem => htr (List.mem_append_left _ hmem)

/-- The same ids are tracks. -/
theorem congr (h : Registered isTrack issued map latest) (hiff : ∀ tr, isTrack' tr ↔ isTrack tr) :
    Registered isTrack' issued map latest where
  latest_eq tr htr := h.latest_eq tr ((hiff tr).1 htr)
  no_track tr htr := h.no_track tr fun hold => htr ((hiff tr).2 hold)
  no_id := h.no_id

/-- A track goes, with its entry. -/
theorem erase (h : Registered isTrack issued map latest) {tr : ℤ}
    (hiff : ∀ tr', isTrack' tr' ↔ tr' ≠ tr ∧ isTrack tr') :
    Registered isTrack' issued (map.erase tr) latest where
  latest_eq tr' htr' := by
    obtain ⟨hne, htrack⟩ := (hiff tr').1 htr'
    rw [Table.erase, Function.update_of_ne hne]
    exact h.latest_eq tr' htrack
  no_track tr' htr' := by
    by_cases heq : tr' = tr
    · rw [Table.erase, heq, Function.update_self]
    · rw [Table.erase, Function.update_of_ne heq]
      exact h.no_track tr' fun htrack => htr' ((hiff tr').2 ⟨heq, htrack⟩)
  no_id := h.no_id

/-- A call for a track, whose map then holds the new value. -/
theorem assign (h : Registered isTrack issued map latest) {map' : Table β} {tr : ℤ} {value : β}
    (htrack : isTrack tr) (hid : tr ∈ issued) (hnew : map' tr = some value)
    (hother : ∀ tr', tr' ≠ tr → map' tr' = map tr') :
    Registered isTrack issued map' (latest.assign tr value) where
  latest_eq tr' htr' := by
    by_cases heq : tr' = tr
    · rw [heq, hnew, Table.assign, Function.update_self]
    · rw [hother tr' heq, h.latest_eq tr' htr', Table.assign, Function.update_of_ne heq]
  no_track tr' htr' := by
    have hne : tr' ≠ tr := fun heq => htr' (heq ▸ htrack)
    rw [hother tr' hne]
    exact h.no_track tr' htr'
  no_id tr' htr' := by
    have hne : tr' ≠ tr := fun heq => htr' (heq ▸ hid)
    rw [Table.assign, Function.update_of_ne hne]
    exact h.no_id tr' htr'

end Registered

namespace Table

variable {β : Type} (t : Table β)

/-- `emplace` registers a value where there is none, and where it is there already. -/
theorem emplace_self {id : ℤ} {value : β} (h : t id = some value ∨ t id = none) :
    t.emplace id value id = some value := by
  rcases h with h | h <;> simp [emplace, h]

theorem emplace_of_ne {id id' : ℤ} (value : β) (h : id' ≠ id) : t.emplace id value id' = t id' := by
  unfold emplace
  split
  · rfl
  · exact Function.update_of_ne h _ _

/-- `emplace` keeps what is there. -/
theorem emplace_of_isSome {id : ℤ} (value : β) (h : (t id).isSome = true) :
    t.emplace id value = t := if_pos h

@[simp]
theorem isSome_emplace {id id' : ℤ} {value : β} :
    (t.emplace id value id').isSome = true ↔ id' = id ∨ (t id').isSome = true := by
  unfold emplace
  split
  case isTrue h => exact ⟨.inr, fun hid => hid.elim (· ▸ h) (·)⟩
  case isFalse => by_cases heq : id' = id <;> simp [heq]

@[simp]
theorem isSome_assign {id id' : ℤ} {value : β} :
    (t.assign id value id').isSome = true ↔ id' = id ∨ (t id').isSome = true := by
  by_cases heq : id' = id <;> simp [assign, heq]

@[simp]
theorem isSome_erase {id id' : ℤ} :
    (t.erase id id').isSome = true ↔ id' ≠ id ∧ (t id').isSome = true := by
  by_cases heq : id' = id <;> simp [erase, heq]

end Table

/-! ## What the operations do to the object maps -/

namespace Tables

variable (s : Tables α γ ρ)

/-- The id is in the map of these objects. -/
def Has (kind : ObjectKind) (id : ℤ) : Prop := (s.objects kind id).isSome = true

theorem has_emplaceObject {kind kind' : ObjectKind} {id : ℤ} {object : α} :
    (s.emplaceObject kind object).1.Has kind' id ↔
      kind' = kind ∧ id = s.nextId ∨ s.Has kind' id := by
  by_cases heq : kind' = kind <;> simp [Has, emplaceObject, heq]

theorem has_dropObject {kind kind' : ObjectKind} {id id' : ℤ} :
    (s.dropObject kind id).Has kind' id' ↔ ¬(kind' = kind ∧ id' = id) ∧ s.Has kind' id' := by
  by_cases heq : kind' = kind <;> simp [Has, dropObject, heq]

variable {s}

/-! ## What a successful call has done -/

theorem create_ok {kind : ObjectKind} {made : Except Exception α} {s' : Tables α γ ρ} {id : ℤ}
    (h : s.create kind made = .ok (s', id)) :
    ∃ object, made = .ok object ∧ s.emplaceObject kind object = (s', id) := by
  cases made with
  | error => cases h
  | ok object => exact ⟨object, rfl, Except.ok.inj h⟩

theorem getTrack_ok {tr : ℤ} (h : (s.trackMap tr).isSome = true) :
    ∃ track, s.getTrack tr = .ok track := by
  obtain ⟨track, htrack⟩ := Option.isSome_iff_exists.1 h
  rw [trackMap] at htrack
  exact ⟨track, by rw [getTrack, getObject, htrack]⟩

theorem getObject_ok {kind : ObjectKind} {what : String} {id : ℤ} {object : α}
    (h : s.getObject kind what id = .ok object) : s.Has kind id := by
  unfold getObject at h
  split at h
  case h_1 hget => simp [Has, hget]
  case h_2 => cases h

theorem getRtpConfig_ok {id : ℤ} {config : γ} (h : s.getRtpConfig id = .ok config) :
    (s.rtpConfigMap id).isSome = true := by
  unfold getRtpConfig at h
  split at h
  case h_1 hget => simp [hget]
  case h_2 => cases h

theorem getRtpConfig_of_isSome {id : ℤ} (h : (s.rtpConfigMap id).isSome = true) :
    ∃ config, s.getRtpConfig id = .ok config := by
  obtain ⟨config, hconfig⟩ := Option.isSome_iff_exists.1 h
  exact ⟨config, by rw [getRtpConfig, hconfig]⟩

theorem createFrom_ok {kind : ObjectKind} {pc : ℤ} {made : Except Exception α}
    {s' : Tables α γ ρ} {id : ℤ} (h : s.createFrom kind pc made = .ok (s', id)) :
    ∃ object, made = .ok object ∧ s.Has .peerConnection pc ∧
      id = (s.emplaceObject kind object).2 ∧
      s' = (s.emplaceObject kind object).1.inheritUserPointer pc id := by
  unfold createFrom at h
  cases hpc : s.getPeerConnection pc with
  | error => simp [hpc, bind, Except.bind] at h
  | ok =>
    cases made with
    | error => simp [hpc, bind, Except.bind] at h
    | ok object =>
      rw [hpc] at h
      have heq := Except.ok.inj h
      obtain ⟨rfl, rfl⟩ := Prod.mk.inj heq
      exact ⟨object, rfl, getObject_ok hpc, rfl, rfl⟩

/-- An object has been taken out of its map, and a track out of the maps of the tracks. -/
inductive Dropped (s : Tables α γ ρ) (id : ℤ) : Tables α γ ρ → Prop where
  | object {kind : ObjectKind} (hkind : kind ≠ .track) (hid : s.Has kind id) :
    Dropped s id (s.dropObject kind id)
  | track (hid : s.Has .track id) : Dropped s id (s.dropTrack id)

theorem eraseObject_ok {kind : ObjectKind} {what : String} {id : ℤ} {s' : Tables α γ ρ}
    (hkind : kind ≠ .track) (h : s.eraseObject kind what id = .ok s') : s.Dropped id s' := by
  unfold eraseObject at h
  split at h
  case isTrue hid =>
    obtain rfl := Except.ok.inj h
    exact .object hkind hid
  case isFalse => cases h

theorem eraseTrack_ok {tr : ℤ} {s' : Tables α γ ρ} (h : s.eraseTrack tr = .ok s') :
    s.Dropped tr s' := by
  unfold eraseTrack at h
  split at h
  case isTrue hid =>
    obtain rfl := Except.ok.inj h
    exact .track hid
  case isFalse => cases h

theorem eraseChannel_ok {id : ℤ} {s' : Tables α γ ρ} (h : s.eraseChannel id = .ok s') :
    s.Dropped id s' := by
  unfold eraseChannel at h
  split at h
  case isTrue hid =>
    obtain rfl := Except.ok.inj h
    exact .object (by decide) hid
  split at h
  case isTrue hid =>
    obtain rfl := Except.ok.inj h
    exact .track hid
  split at h
  case isTrue hid =>
    obtain rfl := Except.ok.inj h
    exact .object (by decide) hid
  case isFalse => cases h

/-- A delete call has succeeded because its erasure has. -/
theorem delete_ok {got : Except Exception α} {erased : Except Exception (Tables α γ ρ)}
    {s' : Tables α γ ρ} {value : ℤ}
    (h : (do let _ ← got; return (← erased, success)) = .ok (s', value)) : erased = .ok s' := by
  cases got with
  | error => cases h
  | ok =>
    cases erased with
    | error => cases h
    | ok s'' =>
      obtain ⟨rfl, -⟩ := Prod.mk.inj (Except.ok.inj h)
      rfl

end Tables

/-- What a packetizer set-up call does, for all packetizers. -/
theorem Packetizer.call_eq (s : Tables α γ ρ) (packetizer : Packetizer) (tr : ℤ)
    (config : Except Exception γ) :
    packetizer.call s tr config = do
      let _ ← s.getTrack tr
      let rtpConfig ← config
      return (if packetizer.registers then s.emplaceRtpConfig rtpConfig tr else s, success) := by
  cases packetizer <;> rfl

namespace World

variable {w : World α γ ρ}

/-! ## The invariant -/

/-- The invariant of the runs whose calls are all safe. -/
structure Inv (w : World α γ ρ) : Prop where
  issued_eq : w.issued = (List.range w.issued.length).map handle
  lastId_eq : w.tables.lastId = intOf w.issued.length
  few : w.issued.length ≤ 2 ^ 32
  live_issued : ∀ id ∈ w.live, id ∈ w.issued
  live_iff : ∀ id, id ∈ w.live ↔ ∃ kind, w.tables.Has kind id
  unique : ∀ id kind kind', w.tables.Has kind id → w.tables.Has kind' id → kind = kind'
  pointer : ∀ id, (w.tables.userPointerMap id).isSome = true ↔ id ∈ w.live
  config : Registered (w.tables.Has .track) w.issued w.tables.rtpConfigMap w.latestConfig
  reporter :
    Registered (w.tables.Has .track) w.issued w.tables.rtcpSrReporterMap w.latestReporter

/-- The invariant holds when the library is loaded. -/
theorem inv_init : ({} : World α γ ρ).Inv where
  issued_eq := rfl
  lastId_eq := intOf_zero.symm
  few := Nat.zero_le _
  live_issued := by simp
  live_iff id := by simp [Tables.Has, Table.clear]
  unique id kind kind' h := by simp [Tables.Has, Table.clear] at h
  pointer id := by simp [Table.clear]
  config := ⟨fun _ _ => rfl, fun _ _ => rfl, fun _ _ => rfl⟩
  reporter := ⟨fun _ _ => rfl, fun _ _ => rfl, fun _ _ => rfl⟩

namespace Inv

/-- The invariant is at least what users rely on. -/
theorem correct (h : w.Inv) : w.Correct where
  nodup := by
    rw [h.issued_eq]
    exact nodup_handles h.few
  one_map id hid := by
    obtain ⟨kind, hkind⟩ := (h.live_iff id).1 hid
    exact ⟨kind, hkind, fun kind' hkind' => h.unique id kind' kind hkind' hkind⟩
  no_map id hid kind := by
    have hnot : ¬w.tables.Has kind id := fun hkind => hid ((h.live_iff id).2 ⟨kind, hkind⟩)
    exact Option.not_isSome_iff_eq_none.1 hnot
  pointer := h.pointer
  config := h.config.latest_eq
  reporter := h.reporter.latest_eq

/-- A track is a live id. -/
theorem issued_of_has (h : w.Inv) {kind : ObjectKind} {id : ℤ} (hid : w.tables.Has kind id) :
    id ∈ w.issued :=
  h.live_issued id ((h.live_iff id).2 ⟨kind, hid⟩)

/-- The next id is a new handle. -/
theorem nextId_eq (h : w.Inv) : w.tables.nextId = handle w.issued.length :=
  Tables.nextId_eq h.lastId_eq

theorem nextId_notMem (h : w.Inv) (hfew : w.issued.length < 2 ^ 32) :
    w.tables.nextId ∉ w.issued := by
  rw [h.nextId_eq, h.issued_eq, List.length_map, List.length_range]
  exact handle_notMem hfew

/-! ## What one operation keeps -/

/-- An object is made under the next id. -/
theorem emplaceObject (h : w.Inv) (hfew : w.issued.length < 2 ^ 32) (kind : ObjectKind)
    (object : α) :
    (w.made (w.tables.emplaceObject kind object).1 (w.tables.emplaceObject kind object).2).Inv := by
  have hnew : w.tables.nextId ∉ w.issued := h.nextId_notMem hfew
  have hfresh : ∀ kind', ¬w.tables.Has kind' w.tables.nextId :=
    fun kind' hid => hnew (h.issued_of_has hid)
  have htracks : ∀ tr, tr ≠ w.tables.nextId →
      ((w.tables.emplaceObject kind object).1.Has .track tr ↔ w.tables.Has .track tr) := by
    intro tr hne
    simp [Tables.has_emplaceObject, hne]
  constructor
  case issued_eq =>
    rw [made, List.length_append, List.length_singleton, List.range_succ, List.map_append,
      ← h.issued_eq]
    exact congrArg (w.issued ++ [·]) h.nextId_eq
  case lastId_eq =>
    rw [made, List.length_append, List.length_singleton]
    exact h.nextId_eq
  case few =>
    rw [made, List.length_append, List.length_singleton]
    exact hfew
  case live_issued =>
    intro id hid
    rcases Finset.mem_insert.1 hid with rfl | hlive
    · exact List.mem_append_right _ (List.mem_singleton_self _)
    · exact List.mem_append_left _ (h.live_issued id hlive)
  case live_iff =>
    intro id
    simp only [made, Finset.mem_insert, Tables.has_emplaceObject, h.live_iff id]
    constructor
    · rintro (hid | ⟨kind', hid⟩)
      · exact ⟨kind, .inl ⟨rfl, hid⟩⟩
      · exact ⟨kind', .inr hid⟩
    · rintro ⟨kind', ⟨-, hid⟩ | hid⟩
      · exact .inl hid
      · exact .inr ⟨kind', hid⟩
  case unique =>
    -- the new object and an older one do not have the same id
    intro id kind₁ kind₂ h₁ h₂
    rcases w.tables.has_emplaceObject.1 h₁ with ⟨hkind₁, hid⟩ | hold₁
    · rcases w.tables.has_emplaceObject.1 h₂ with ⟨hkind₂, -⟩ | hold₂
      · rw [hkind₁, hkind₂]
      · exact absurd (hid ▸ hold₂) (hfresh kind₂)
    · rcases w.tables.has_emplaceObject.1 h₂ with ⟨-, hid⟩ | hold₂
      · exact absurd (hid ▸ hold₁) (hfresh kind₁)
      · exact h.unique id kind₁ kind₂ hold₁ hold₂
  case pointer =>
    intro id
    simp only [made, Tables.emplaceObject, Table.isSome_emplace, Finset.mem_insert, h.pointer id]
  case config => exact h.config.made hnew (hfresh .track) htracks
  case reporter => exact h.reporter.made hnew (hfresh .track) htracks

/-- A user pointer is set on a live id. -/
theorem setUserPointer (h : w.Inv) {id : ℤ} (hid : id ∈ w.live) (ptr : ℕ) :
    { w with tables := w.tables.setUserPointer id ptr }.Inv :=
  { h with
    pointer := by
      intro id'
      simp only [Tables.setUserPointer, Table.isSome_assign, h.pointer id']
      exact ⟨fun hor => hor.elim (· ▸ hid) (·), .inr⟩ }

/-- A live id gets the user pointer of another. -/
theorem inheritUserPointer (h : w.Inv) {parent id : ℤ}
    (hid : (w.tables.userPointerMap parent).isSome = true → id ∈ w.live) :
    { w with tables := w.tables.inheritUserPointer parent id }.Inv := by
  cases hget : w.tables.getUserPointer parent with
  | none => simpa [Tables.inheritUserPointer, hget] using h
  | some ptr =>
    have hlive : id ∈ w.live := hid (by rw [← Tables.getUserPointer, hget]; rfl)
    simpa [Tables.inheritUserPointer, hget] using h.setUserPointer hlive ptr

/-- The ids and the object maps after an object has been taken out of its map. -/
theorem ids_dropObject (h : w.Inv) {kind : ObjectKind} {id : ℤ} (hid : w.tables.Has kind id) :
    (∀ id', id' ∈ w.live.erase id ↔ ∃ kind', (w.tables.dropObject kind id).Has kind' id') ∧
      (∀ id' kind₁ kind₂, (w.tables.dropObject kind id).Has kind₁ id' →
        (w.tables.dropObject kind id).Has kind₂ id' → kind₁ = kind₂) ∧
      ∀ id', ((w.tables.dropObject kind id).userPointerMap id').isSome = true ↔
        id' ∈ w.live.erase id := by
  refine ⟨fun id' => ?_, fun id' kind₁ kind₂ h₁ h₂ => ?_, fun id' => ?_⟩
  · rw [Finset.mem_erase, h.live_iff id']
    constructor
    · rintro ⟨hne, kind', hid'⟩
      exact ⟨kind', w.tables.has_dropObject.2 ⟨fun heq => hne heq.2, hid'⟩⟩
    · rintro ⟨kind', hid'⟩
      obtain ⟨hnot, hold⟩ := w.tables.has_dropObject.1 hid'
      -- the object that goes is the only one of its id
      refine ⟨fun heq => hnot ⟨?_, heq⟩, kind', hold⟩
      exact h.unique id' kind' kind hold (heq ▸ hid)
  · exact h.unique id' kind₁ kind₂ (w.tables.has_dropObject.1 h₁).2 (w.tables.has_dropObject.1 h₂).2
  · simp only [Tables.dropObject, Table.isSome_erase, Finset.mem_erase, h.pointer id']

/-- An object is deleted. -/
theorem dropped (h : w.Inv) {id : ℤ} {s' : Tables α γ ρ} (hdrop : w.tables.Dropped id s') :
    (w.deleted s' id).Inv := by
  have hlive : ∀ id' ∈ w.live.erase id, id' ∈ w.issued :=
    fun id' hid' => h.live_issued id' (Finset.mem_of_mem_erase hid')
  cases hdrop with
  | @object kind hkind hid =>
    obtain ⟨hlive_iff, hunique, hpointer⟩ := h.ids_dropObject hid
    have htracks : ∀ tr, (w.tables.dropObject kind id).Has .track tr ↔ w.tables.Has .track tr := by
      intro tr
      simp [Tables.has_dropObject, hkind.symm]
    exact ⟨h.issued_eq, h.lastId_eq, h.few, hlive, hlive_iff, hunique, hpointer,
      h.config.congr htracks, h.reporter.congr htracks⟩
  | track hid =>
    obtain ⟨hlive_iff, hunique, hpointer⟩ := h.ids_dropObject hid
    have htracks : ∀ tr, (w.tables.dropObject .track id).Has .track tr ↔
        tr ≠ id ∧ w.tables.Has .track tr := by
      intro tr
      simp [Tables.has_dropObject]
    exact ⟨h.issued_eq, h.lastId_eq, h.few, hlive, hlive_iff, hunique, hpointer,
      h.config.erase htracks, h.reporter.erase htracks⟩

/-- Everything is erased. -/
theorem eraseAll (h : w.Inv) : { w with tables := w.tables.eraseAll, live := ∅ }.Inv where
  issued_eq := h.issued_eq
  lastId_eq := h.lastId_eq
  few := h.few
  live_issued id hid := absurd hid (Finset.notMem_empty id)
  live_iff id := by simp [Tables.Has, Tables.eraseAll, Table.clear]
  unique id kind kind' hid := by simp [Tables.Has, Tables.eraseAll, Table.clear] at hid
  pointer id := by simp [Tables.eraseAll, Table.clear]
  config :=
    ⟨fun tr htr => by simp [Tables.Has, Tables.eraseAll, Table.clear] at htr, fun _ _ => rfl,
      h.config.no_id⟩
  reporter :=
    ⟨fun tr htr => by simp [Tables.Has, Tables.eraseAll, Table.clear] at htr, fun _ _ => rfl,
      h.reporter.no_id⟩

/-- A packetizer registers its configuration for a track that has none, or has this one. -/
theorem emplaceRtpConfig (h : w.Inv) {tr : ℤ} (htrack : w.tables.Has .track tr) {config : γ}
    (hmap : w.tables.rtpConfigMap tr = some config ∨ w.tables.rtpConfigMap tr = none) :
    { w with
      tables := w.tables.emplaceRtpConfig config tr
      latestConfig := w.latestConfig.assign tr config }.Inv :=
  { h with
    config := h.config.assign htrack (h.issued_of_has htrack) (Table.emplace_self _ hmap)
      fun _ hne => Table.emplace_of_ne _ _ hne }

/-- A packetizer registers nothing where its configuration is registered. -/
theorem latestConfig_assign (h : w.Inv) {tr : ℤ} (htrack : w.tables.Has .track tr) {config : γ}
    (hmap : w.tables.rtpConfigMap tr = some config) :
    { w with latestConfig := w.latestConfig.assign tr config }.Inv :=
  { h with config := h.config.assign htrack (h.issued_of_has htrack) hmap fun _ _ => rfl }

/-- A reporter is registered for a track that has none, or has this one. -/
theorem emplaceRtcpSrReporter (h : w.Inv) {tr : ℤ} (htrack : w.tables.Has .track tr)
    {reporter : ρ}
    (hmap : w.tables.rtcpSrReporterMap tr = some reporter ∨
      w.tables.rtcpSrReporterMap tr = none) :
    { w with
      tables := w.tables.emplaceRtcpSrReporter reporter tr
      latestReporter := w.latestReporter.assign tr reporter }.Inv :=
  { h with
    reporter := h.reporter.assign htrack (h.issued_of_has htrack) (Table.emplace_self _ hmap)
      fun _ hne => Table.emplace_of_ne _ _ hne }

end Inv

/-! ## Runs -/

theorem after_ok {op : Op α γ ρ} {s' : Tables α γ ρ} {value : ℤ}
    (h : op.execute w.tables = .ok (s', value)) : w.after op = w.succeeded s' value op := by
  rw [after, h]

theorem after_error {op : Op α γ ρ} {e : Exception} (h : op.execute w.tables = .error e) :
    w.after op = w := by
  rw [after, h]

/-- Every call is a step. -/
theorem run_total (w : World α γ ρ) (ops : List (Op α γ ρ)) :
    ∃ t, Transition.run step w ops = some t := by
  induction ops generalizing w with
  | nil => exact ⟨w, rfl⟩
  | cons op ops ih => exact ih (w.after op)

namespace Inv

/-- A call that makes an object of its own. -/
theorem create (h : w.Inv) {kind : ObjectKind} {made : Except Exception α} {s' : Tables α γ ρ}
    {id : ℤ} (hfew : ∀ object, made = .ok object → w.issued.length < 2 ^ 32)
    (hcall : w.tables.create kind made = .ok (s', id)) : (w.made s' id).Inv := by
  obtain ⟨object, hmade, heq⟩ := Tables.create_ok hcall
  have hinv := h.emplaceObject (hfew object hmade) kind object
  rwa [heq] at hinv

/-- An object is made and gets the user pointer of another one. -/
theorem emplace_inherit (h : w.Inv) (hfew : w.issued.length < 2 ^ 32) (kind : ObjectKind)
    (object : α) (parent : ℤ) :
    (w.made ((w.tables.emplaceObject kind object).1.inheritUserPointer parent
      (w.tables.emplaceObject kind object).2) (w.tables.emplaceObject kind object).2).Inv :=
  (h.emplaceObject hfew kind object).inheritUserPointer fun _ => Finset.mem_insert_self _ _

/-- A call that makes an object from a peer connection. -/
theorem createFrom (h : w.Inv) {kind : ObjectKind} {pc : ℤ} {made : Except Exception α}
    {s' : Tables α γ ρ} {id : ℤ}
    (hfew : ∀ object, made = .ok object → (w.tables.peerConnectionMap pc).isSome = true →
      w.issued.length < 2 ^ 32)
    (hcall : w.tables.createFrom kind pc made = .ok (s', id)) : (w.made s' id).Inv := by
  obtain ⟨object, hmade, hpc, rfl, rfl⟩ := Tables.createFrom_ok hcall
  exact h.emplace_inherit (hfew object hmade hpc) kind object pc

/-- A packetizer set-up call. -/
theorem setPacketizer (h : w.Inv) {packetizer : Packetizer} {tr : ℤ}
    {config : Except Exception γ} {s' : Tables α γ ρ} {value : ℤ}
    (hsafe : w.Safe (.setPacketizer packetizer tr config))
    (hcall : packetizer.call w.tables tr config = .ok (s', value)) :
    (w.succeeded s' value (.setPacketizer packetizer tr config)).Inv := by
  rw [Packetizer.call_eq] at hcall
  cases htr : w.tables.getTrack tr with
  | error => simp [htr, bind, Except.bind] at hcall
  | ok track =>
    have htrack : w.tables.Has .track tr := Tables.getObject_ok htr
    cases config with
    | error => simp [htr, bind, Except.bind] at hcall
    | ok config =>
      rw [htr] at hcall
      obtain ⟨rfl, -⟩ := Prod.mk.inj (Except.ok.inj hcall)
      rcases hsafe htrack with hsame | ⟨hnone, hreg⟩
      · cases hreg : packetizer.registers with
        | false => simpa [succeeded, hreg] using h.latestConfig_assign htrack hsame
        | true => simpa [succeeded, hreg] using h.emplaceRtpConfig htrack (.inl hsame)
      · simpa [succeeded, hreg] using h.emplaceRtpConfig htrack (.inr hnone)

/-- A reporter set-up call. -/
theorem chainRtcpSrReporter (h : w.Inv) {tr : ℤ} {reporter : ρ} {s' : Tables α γ ρ} {value : ℤ}
    (hsafe : w.Safe (.chainRtcpSrReporter tr reporter))
    (hcall : w.tables.rtcChainRtcpSrReporter tr reporter = .ok (s', value)) :
    (w.succeeded s' value (.chainRtcpSrReporter tr reporter)).Inv := by
  unfold Tables.rtcChainRtcpSrReporter at hcall
  cases htr : w.tables.getTrack tr with
  | error => simp [htr, bind, Except.bind] at hcall
  | ok track =>
    have htrack : w.tables.Has .track tr := Tables.getObject_ok htr
    cases hconfig : w.tables.getRtpConfig tr with
    | error => simp [htr, hconfig, bind, Except.bind] at hcall
    | ok config =>
      rw [htr, hconfig] at hcall
      obtain ⟨rfl, -⟩ := Prod.mk.inj (Except.ok.inj hcall)
      exact h.emplaceRtcpSrReporter htrack (hsafe htrack (Tables.getRtpConfig_ok hconfig))

/-- Safe calls keep the invariant. -/
theorem after (h : w.Inv) {op : Op α γ ρ} (hsafe : w.Safe op) : (w.after op).Inv := by
  cases hcall : op.execute w.tables with
  | error e => rwa [after_error hcall]
  | ok result =>
    obtain ⟨s', value⟩ := result
    rw [after_ok hcall]
    cases op with
    | setUserPointer id ptr =>
      obtain ⟨rfl, -⟩ := Prod.mk.inj (Except.ok.inj hcall)
      exact h.setUserPointer hsafe ptr
    | createPeerConnection made => exact h.create (fun _ hmade => by subst hmade; exact hsafe) hcall
    | createWebSocket made => exact h.create (fun _ hmade => by subst hmade; exact hsafe) hcall
    | createWebSocketServer made =>
      exact h.create (fun _ hmade => by subst hmade; exact hsafe) hcall
    | createDataChannel pc made =>
      exact h.createFrom (fun _ hmade hpc => by subst hmade; exact hsafe hpc) hcall
    | addTrack pc made =>
      exact h.createFrom (fun _ hmade hpc => by subst hmade; exact hsafe hpc) hcall
    | onDataChannel pc dataChannel =>
      obtain ⟨rfl, rfl⟩ := Prod.mk.inj (Except.ok.inj hcall)
      exact h.emplace_inherit hsafe .dataChannel dataChannel pc
    | onTrack pc track =>
      obtain ⟨rfl, rfl⟩ := Prod.mk.inj (Except.ok.inj hcall)
      exact h.emplace_inherit hsafe .track track pc
    | onClient wsserver webSocket =>
      obtain ⟨rfl, rfl⟩ := Prod.mk.inj (Except.ok.inj hcall)
      have hmade := h.emplaceObject hsafe .webSocket webSocket
      -- the pointer goes to the server, whose entry says that it is live
      exact hmade.inheritUserPointer fun hpointer => (hmade.pointer wsserver).1 hpointer
    | deletePeerConnection pc =>
      exact h.dropped (Tables.eraseObject_ok (by decide) (Tables.delete_ok hcall))
    | deleteDataChannel dc =>
      exact h.dropped (Tables.eraseObject_ok (by decide) (Tables.delete_ok hcall))
    | deleteTrack tr => exact h.dropped (Tables.eraseTrack_ok (Tables.delete_ok hcall))
    | deleteWebSocket ws =>
      exact h.dropped (Tables.eraseObject_ok (by decide) (Tables.delete_ok hcall))
    | deleteWebSocketServer wsserver =>
      exact h.dropped (Tables.eraseObject_ok (by decide) (Tables.delete_ok hcall))
    | delete id => exact h.dropped (Tables.eraseChannel_ok (Tables.delete_ok hcall))
    | setPacketizer packetizer tr config => exact h.setPacketizer hsafe hcall
    | chainRtcpSrReporter tr reporter => exact h.chainRtcpSrReporter hsafe hcall
    | cleanup =>
      obtain ⟨rfl, -⟩ := Prod.mk.inj (Except.ok.inj hcall)
      exact h.eraseAll

/-- After `2 ^ 32` objects the next one gets an id that has been made before. -/
theorem not_nodup (h : w.Inv) (hmany : ¬w.issued.length < 2 ^ 32) :
    ¬(w.issued ++ [w.tables.nextId]).Nodup := by
  have hlen : w.issued.length = 2 ^ 32 := le_antisymm h.few (not_lt.1 hmany)
  have hmem : w.tables.nextId ∈ w.issued := by
    rw [h.nextId_eq, hlen, handle_wrap, h.issued_eq]
    exact List.mem_map_of_mem (List.mem_range.2 (by omega))
  intro hnodup
  exact (List.nodup_append.1 hnodup).2.2 _ hmem _ (List.mem_singleton_self _) rfl

/-- An object too many is made. -/
theorem not_correct_made (h : w.Inv) (hmany : ¬w.issued.length < 2 ^ 32) (s' : Tables α γ ρ) :
    ¬(w.made s' w.tables.nextId).Correct := fun hcorrect => h.not_nodup hmany hcorrect.nodup

/-- A call that makes an object too many from a peer connection. -/
theorem not_correct_createFrom (h : w.Inv) {op : Op α γ ρ} {kind : ObjectKind} {pc : ℤ} {object : α}
    (hpc : (w.tables.peerConnectionMap pc).isSome = true) (hmany : ¬w.issued.length < 2 ^ 32)
    (hexec : op.execute w.tables = w.tables.createFrom kind pc (.ok object))
    (hmade : ∀ s' id, w.succeeded s' id op = w.made s' id) : ¬(w.after op).Correct := by
  have hcall : w.tables.createFrom kind pc (.ok object) =
      .ok ((w.tables.emplaceObject kind object).1.inheritUserPointer pc w.tables.nextId,
        w.tables.nextId) := by
    obtain ⟨parent, hparent⟩ := Option.isSome_iff_exists.1 hpc
    have hget : w.tables.getPeerConnection pc = .ok parent := by
      rw [Tables.peerConnectionMap] at hparent
      rw [Tables.getPeerConnection, Tables.getObject, hparent]
    rw [Tables.createFrom, hget]
    rfl
  rw [after_ok (hexec.trans hcall), hmade]
  exact h.not_correct_made hmany _

/-- A packetizer set-up call whose configuration is not the registered one afterwards. -/
theorem not_correct_setPacketizer {packetizer : Packetizer} {tr : ℤ} {config : γ}
    (htrack : (w.tables.trackMap tr).isSome = true)
    (hmap : ¬(w.tables.rtpConfigMap tr = some config ∨
      w.tables.rtpConfigMap tr = none ∧ packetizer.registers = true)) :
    ¬(w.after (.setPacketizer packetizer tr (.ok config))).Correct := by
  obtain ⟨hdiffer, hnone⟩ := not_or.1 hmap
  obtain ⟨track, hget⟩ := Tables.getTrack_ok htrack
  have hcall : (Op.setPacketizer packetizer tr (.ok config) : Op α γ ρ).execute w.tables =
      .ok (if packetizer.registers then w.tables.emplaceRtpConfig config tr else w.tables,
        success) := by
    rw [Op.execute, Packetizer.call_eq, hget]
    rfl
  rw [after_ok hcall]
  intro hcorrect
  have hlatest : w.latestConfig.assign tr config tr = some config := Function.update_self ..
  cases hreg : packetizer.registers with
  | false =>
    rw [hreg] at hcorrect
    exact hdiffer ((hcorrect.config tr htrack).trans hlatest)
  | true =>
    have hsome : (w.tables.rtpConfigMap tr).isSome = true :=
      Option.isSome_iff_ne_none.2 fun hmap => hnone ⟨hmap, hreg⟩
    rw [hreg] at hcorrect
    -- `emplace` keeps the old configuration
    have hkept : w.tables.rtpConfigMap.emplace tr config = w.tables.rtpConfigMap :=
      Table.emplace_of_isSome _ _ hsome
    exact hdiffer ((congrFun hkept tr).symm.trans ((hcorrect.config tr htrack).trans hlatest))

/-- A reporter set-up call that finds another reporter registered. -/
theorem not_correct_chainRtcpSrReporter {tr : ℤ} {reporter : ρ}
    (htrack : (w.tables.trackMap tr).isSome = true)
    (hconfig : (w.tables.rtpConfigMap tr).isSome = true)
    (hmap : ¬(w.tables.rtcpSrReporterMap tr = some reporter ∨
      w.tables.rtcpSrReporterMap tr = none)) :
    ¬(w.after (.chainRtcpSrReporter tr reporter)).Correct := by
  obtain ⟨hdiffer, hnone⟩ := not_or.1 hmap
  obtain ⟨track, hget⟩ := Tables.getTrack_ok htrack
  obtain ⟨config, hgetConfig⟩ := Tables.getRtpConfig_of_isSome hconfig
  have hcall : (Op.chainRtcpSrReporter tr reporter : Op α γ ρ).execute w.tables =
      .ok (w.tables.emplaceRtcpSrReporter reporter tr, success) := by
    rw [Op.execute, Tables.rtcChainRtcpSrReporter, hget, hgetConfig]
    rfl
  rw [after_ok hcall]
  intro hcorrect
  have hlatest : w.latestReporter.assign tr reporter tr = some reporter := Function.update_self ..
  have hkept : w.tables.rtcpSrReporterMap.emplace tr reporter = w.tables.rtcpSrReporterMap :=
    Table.emplace_of_isSome _ _ (Option.isSome_iff_ne_none.2 hnone)
  exact hdiffer ((congrFun hkept tr).symm.trans ((hcorrect.reporter tr htrack).trans hlatest))

/-- Unsafe calls break what users rely on. -/
theorem not_correct_after (h : w.Inv) {op : Op α γ ρ} (hmiss : ¬w.Safe op) :
    ¬(w.after op).Correct := by
  -- a failed constructor is always safe; otherwise the missing handle or the taken entry is what
  -- users see
  cases op with
  | setUserPointer id ptr =>
    intro hcorrect
    refine hmiss ((hcorrect.pointer id).1 ?_)
    exact (Table.isSome_assign _).2 (.inl rfl)
  | createPeerConnection made =>
    cases made with
    | error => exact absurd trivial hmiss
    | ok object => exact h.not_correct_made hmiss _
  | createWebSocket made =>
    cases made with
    | error => exact absurd trivial hmiss
    | ok object => exact h.not_correct_made hmiss _
  | createWebSocketServer made =>
    cases made with
    | error => exact absurd trivial hmiss
    | ok object => exact h.not_correct_made hmiss _
  | createDataChannel pc made =>
    cases made with
    | error => exact absurd trivial hmiss
    | ok object =>
      obtain ⟨hpc, hmany⟩ := Classical.not_imp.1 hmiss
      exact h.not_correct_createFrom hpc hmany rfl fun _ _ => rfl
  | addTrack pc made =>
    cases made with
    | error => exact absurd trivial hmiss
    | ok object =>
      obtain ⟨hpc, hmany⟩ := Classical.not_imp.1 hmiss
      exact h.not_correct_createFrom hpc hmany rfl fun _ _ => rfl
  | onDataChannel pc dataChannel => exact h.not_correct_made hmiss _
  | onTrack pc track => exact h.not_correct_made hmiss _
  | onClient wsserver webSocket => exact h.not_correct_made hmiss _
  | setPacketizer packetizer tr config =>
    cases config with
    | error => exact absurd trivial hmiss
    | ok config =>
      obtain ⟨htrack, hmap⟩ := Classical.not_imp.1 hmiss
      exact not_correct_setPacketizer htrack hmap
  | chainRtcpSrReporter tr reporter =>
    obtain ⟨htrack, hrest⟩ := Classical.not_imp.1 hmiss
    obtain ⟨hconfig, hmap⟩ := Classical.not_imp.1 hrest
    exact not_correct_chainRtcpSrReporter htrack hconfig hmap
  | deletePeerConnection | deleteDataChannel | deleteTrack | deleteWebSocket
  | deleteWebSocketServer | delete | cleanup => exact absurd trivial hmiss

end Inv

/-- In every run the tables stay correct exactly when all its calls are safe. -/
theorem correct_iff_meets (ops : List (Op α γ ρ)) :
    (∀ before, before <+: ops → ∀ u, Transition.run step {} before = some u → u.Correct) ↔
      Transition.Meets step Safe ({} : World α γ ρ) ops := by
  obtain ⟨t, hrun⟩ := run_total ({} : World α γ ρ) ops
  refine Transition.forall_prefix_iff_meets_of_invariant (fun _ h => Inv.correct h) ?_ ?_ inv_init
    hrun
  · intro w op w' h hsafe hstep
    obtain rfl := Option.some.inj hstep
    exact h.after hsafe
  · intro w op w' h hmiss hstep
    obtain rfl := Option.some.inj hstep
    exact h.not_correct_after hmiss

/-- A second packetizer of a track leaves the first configuration registered, and a user pointer can
be set on an id that no object has. -/
theorem run_not_correct :
    (∃ w : World ℕ ℕ ℕ, Transition.run step {}
      [.createPeerConnection (.ok 0), .addTrack 1 (.ok 1), .setPacketizer .h264 2 (.ok 10),
        .setPacketizer .h264 2 (.ok 11)] = some w ∧
      w.tables.rtpConfigMap 2 = some 10 ∧ w.latestConfig 2 = some 11 ∧ ¬w.Correct) ∧
    ∃ w : World ℕ ℕ ℕ, Transition.run step {} [.setUserPointer 7 1] = some w ∧ w.live = ∅ ∧
      w.tables.userPointerMap 7 = some 1 ∧ ¬w.Correct := by
  refine ⟨⟨_, rfl, rfl, rfl, fun h => ?_⟩, ⟨_, rfl, rfl, rfl, fun h => ?_⟩⟩
  · exact absurd (h.config 2 rfl) (by decide)
  · exact absurd ((h.pointer 7).1 rfl) (Finset.notMem_empty 7)

end World

end CApi

end Rtc
