import Mathlib.Data.List.Perm.Basic
import Mathlib.Logic.Function.Basic
import QuicRtc.Rtcp.Nack

/-!
# Building a generic NACK

`RtcpNack::addMissingPacket` packs the numbers of missing packets into fields, each with a first
number and a mask for the sixteen numbers behind it. A number that the mask of the last field does
not reach, because it is smaller or because it wraps, starts a field.

`Packed` is the invariant of the fields under calls with distinct numbers: their sequence numbers
are those that were added. The main result is `addMissingPackets_perm`.
-/

namespace Rtc

namespace RtcpNack

/-- The fields of a packet, and the arguments `fciCount` and `fciPID` that the caller passes from
one call to the next. `parts` is the memory behind the header; the room is up to the caller. -/
structure Fci where
  parts : ℕ → RtcpNackPart
  fciCount : ℕ
  fciPID : UInt16

/-- `RtcpNack::addMissingPacket`. `none` is a shift by a negative number, which is not defined. -/
def addMissingPacket (s : Fci) (missingPacket : UInt16) : Option (Bool × Fci) :=
  -- the sum is an `int` and does not wrap
  if s.fciCount = 0 ∨ missingPacket < s.fciPID ∨ s.fciPID.toNat + 16 < missingPacket.toNat then
    some (true,
      { parts := Function.update s.parts s.fciCount ⟨missingPacket, 0⟩
        fciCount := s.fciCount + 1
        fciPID := missingPacket })
  else if missingPacket.toNat < 1 + s.fciPID.toNat then none
  else
    let last := s.parts (s.fciCount - 1)
    let newBit := UInt16.ofNat (1 <<< (missingPacket.toNat - (1 + s.fciPID.toNat)))
    some (false,
      { s with
        parts :=
          Function.update s.parts (s.fciCount - 1) { last with blp := last.blp ||| newBit } })

/-- The calls for a list of missing packets: what they return. -/
def addMissingPackets (s : Fci) : List UInt16 → Option (List Bool × Fci)
  | [] => some ([], s)
  | missingPacket :: rest => do
    let (grown, next) ← addMissingPacket s missingPacket
    let (others, final) ← addMissingPackets next rest
    return (grown :: others, final)

namespace Fci

/-- The fields that are in use. -/
def fields (s : Fci) : List RtcpNackPart := (List.range s.fciCount).map s.parts

/-- The sequence numbers of all fields. -/
def sequenceNumbers (s : Fci) : List UInt16 := s.fields.flatMap RtcpNackPart.getSequenceNumbers

/-- The fields stand for the packets that were added, and the last one is the active one. -/
structure Packed (added : List UInt16) (s : Fci) : Prop where
  perm : s.sequenceNumbers.Perm added
  pid : ∀ n, s.fciCount = n + 1 → s.fciPID = (s.parts n).pid

end Fci

/-! ## One field more -/

section Step

variable {added : List UInt16} {s : Fci} {missingPacket : UInt16}

/-- A field behind the others. -/
theorem fields_append (s : Fci) (part : RtcpNackPart) (pid : UInt16) :
    Fci.fields ⟨Function.update s.parts s.fciCount part, s.fciCount + 1, pid⟩ =
      s.fields ++ [part] := by
  have hothers : (List.range s.fciCount).map (Function.update s.parts s.fciCount part) =
      s.fields := by
    refine List.map_congr_left fun i hi => ?_
    exact Function.update_of_ne (List.mem_range.1 hi).ne _ _
  show (List.range (s.fciCount + 1)).map (Function.update s.parts s.fciCount part) = _
  rw [List.range_succ, List.map_append, List.map_singleton, Function.update_self, hothers]

/-- The last field in use is replaced. -/
theorem fields_replace {n : ℕ} (hcount : s.fciCount = n + 1) (part : RtcpNackPart) :
    Fci.fields { s with parts := Function.update s.parts n part } =
        Fci.fields ⟨s.parts, n, s.fciPID⟩ ++ [part] ∧
      s.fields = Fci.fields ⟨s.parts, n, s.fciPID⟩ ++ [s.parts n] := by
  constructor
  · have happend := fields_append ⟨s.parts, n, s.fciPID⟩ part s.fciPID
    rw [← happend, ← hcount]
  · rw [Fci.fields, hcount, List.range_succ, List.map_append, List.map_singleton]
    rfl

/-- A field without a mask stands for its first number. -/
theorem getSequenceNumbers_single (pid : UInt16) :
    RtcpNackPart.getSequenceNumbers ⟨pid, 0⟩ = [pid] := by
  rw [RtcpNackPart.getSequenceNumbers, RtcpNackPart.sequenceNumbersLoop, dif_pos rfl]

/-- One element more is found. -/
theorem filter_or_perm {l : List ℕ} {p : ℕ → Bool} {k : ℕ} (hl : l.Nodup) (hk : k ∈ l)
    (hp : p k = false) : (l.filter fun j => p j || j == k).Perm (k :: l.filter p) := by
  have hnotMem : k ∉ l.filter p := by
    intro hmem
    rw [List.mem_filter, hp] at hmem
    exact Bool.false_ne_true hmem.2
  refine (List.perm_ext_iff_of_nodup (hl.filter _) (List.nodup_cons.2 ⟨hnotMem, hl.filter _⟩)).2
    fun j => ?_
  simp only [List.mem_filter, List.mem_cons, Bool.or_eq_true, beq_iff_eq]
  constructor
  · rintro ⟨hj, hpj | rfl⟩
    · exact Or.inr ⟨hj, hpj⟩
    · exact Or.inl rfl
  · rintro (rfl | ⟨hj, hpj⟩)
    · exact ⟨hk, Or.inr rfl⟩
    · exact ⟨hj, Or.inl hpj⟩

/-- The bits of a mask once another one is set. -/
theorem testBit_newBit {k : ℕ} (hk : k < 16) (blp : UInt16) (j : ℕ) :
    (blp ||| UInt16.ofNat (1 <<< k)).toNat.testBit j = (blp.toNat.testBit j || j == k) := by
  have hbit : (UInt16.ofNat (1 <<< k)).toNat = 2 ^ k := by
    rw [UInt16.toNat_ofNat', Nat.one_shiftLeft]
    exact Nat.mod_eq_of_lt (Nat.pow_lt_pow_right (by decide) hk)
  rw [UInt16.toNat_or, Nat.testBit_or, hbit, Nat.testBit_two_pow]
  congr 1
  rw [Bool.eq_iff_iff, decide_eq_true_iff, beq_iff_eq]
  exact eq_comm

/-- A bit that was not set stands for one number more. -/
theorem getSequenceNumbers_newBit (part : RtcpNackPart) {k : ℕ} (hk : k < 16)
    (hnew : part.pid + 1 + UInt16.ofNat k ∉ part.getSequenceNumbers) :
    (RtcpNackPart.getSequenceNumbers
        { part with blp := part.blp ||| UInt16.ofNat (1 <<< k) }).Perm
      ((part.pid + 1 + UInt16.ofNat k) :: part.getSequenceNumbers) := by
  rw [RtcpNackPart.getSequenceNumbers_eq] at hnew
  rw [RtcpNackPart.getSequenceNumbers_eq, RtcpNackPart.getSequenceNumbers_eq]
  have hclear : part.blp.toNat.testBit k = false := by
    rw [← Bool.not_eq_true]
    intro hset
    apply hnew
    refine List.mem_cons_of_mem _ (List.mem_map.2 ⟨k, ?_, rfl⟩)
    exact List.mem_filter.2 ⟨List.mem_range.2 hk, hset⟩
  have hbits : (List.range 16).filter
      (fun j => (part.blp ||| UInt16.ofNat (1 <<< k)).toNat.testBit j) =
        (List.range 16).filter fun j => part.blp.toNat.testBit j || j == k :=
    List.filter_congr fun j _ => testBit_newBit hk part.blp j
  have hperm := filter_or_perm List.nodup_range (List.mem_range.2 hk) hclear
  show (part.pid :: _).Perm (_ :: part.pid :: _)
  rw [hbits]
  exact ((hperm.map _).cons part.pid).trans (List.Perm.swap _ _ _)

/-- One call. A number that is new starts a field or goes into the last one. -/
theorem Fci.Packed.addMissingPacket (h : s.Packed added) (hnew : missingPacket ∉ added) :
    ∃ grown next, RtcpNack.addMissingPacket s missingPacket = some (grown, next) ∧
      next.Packed (added ++ [missingPacket]) ∧
      next.fciCount = s.fciCount + (if grown then 1 else 0) := by
  rw [RtcpNack.addMissingPacket]
  split
  · refine ⟨true, _, rfl, ⟨?_, ?_⟩, rfl⟩
    · rw [Fci.sequenceNumbers, fields_append, List.flatMap_append, List.flatMap_singleton,
        getSequenceNumbers_single]
      exact h.perm.append_right _
    · intro n hn
      obtain rfl := Nat.succ.inj hn
      show missingPacket = (Function.update s.parts s.fciCount _ s.fciCount).pid
      rw [Function.update_self]
  · next hreached =>
    push Not at hreached
    obtain ⟨hcount, hge, hle⟩ := hreached
    obtain ⟨n, hn⟩ := Nat.exists_eq_add_one_of_ne_zero hcount
    have hpid := h.pid n hn
    obtain ⟨-, hfields⟩ := fields_replace hn (s.parts n)
    -- the first number of the last field has been added, so that the present one is larger
    have hnumbers : ∀ m ∈ (s.parts n).getSequenceNumbers, m ∈ added := by
      intro m hm
      apply h.perm.subset
      rw [Fci.sequenceNumbers, hfields, List.flatMap_append, List.flatMap_singleton]
      exact List.mem_append_right _ hm
    have hne : missingPacket ≠ s.fciPID := by
      rintro rfl
      apply hnew
      apply hnumbers
      rw [hpid]
      exact List.mem_cons_self
    have hlt : s.fciPID.toNat < missingPacket.toNat :=
      lt_of_le_of_ne (not_lt.1 hge) fun heq => hne (UInt16.toNat_inj.1 heq.symm)
    obtain ⟨k, hk⟩ := Nat.exists_eq_add_of_lt hlt
    have hk16 : k < 16 := by omega
    have hnumber : missingPacket = (s.parts n).pid + 1 + UInt16.ofNat k := by
      have hbound := missingPacket.toNat_lt
      rw [← UInt16.toNat_inj, UInt16.toNat_add, UInt16.toNat_add, UInt16.toNat_one,
        UInt16.toNat_ofNat', ← hpid]
      omega
    have hshift : missingPacket.toNat - (1 + s.fciPID.toNat) = k := by omega
    have hlast : s.fciCount - 1 = n := by omega
    rw [if_neg (by omega), hshift, hlast]
    obtain ⟨hreplaced, -⟩ := fields_replace hn
      { s.parts n with blp := (s.parts n).blp ||| UInt16.ofNat (1 <<< k) }
    refine ⟨false, _, rfl, ⟨?_, ?_⟩, rfl⟩
    · have hbit := getSequenceNumbers_newBit (s.parts n) hk16
        fun hmem => hnew (hnumber ▸ hnumbers _ hmem)
      rw [← hnumber] at hbit
      have hold := h.perm
      rw [Fci.sequenceNumbers, hfields, List.flatMap_append, List.flatMap_singleton] at hold
      rw [Fci.sequenceNumbers, hreplaced, List.flatMap_append, List.flatMap_singleton]
      refine ((hbit.append_left _).trans List.perm_middle).trans ?_
      exact (hold.cons missingPacket).trans (List.perm_append_singleton _ _).symm
    · intro m hm
      obtain rfl : n = m := Nat.succ.inj (hn.symm.trans hm)
      show s.fciPID = (Function.update s.parts n _ n).pid
      rw [Function.update_self]
      exact hpid

end Step

/-! ## All calls -/

/-- The calls for numbers that are new, by induction on them. -/
theorem Fci.Packed.addMissingPackets {added missing : List UInt16} {s : Fci}
    (h : s.Packed added) (hnodup : (added ++ missing).Nodup) :
    ∃ grown final, RtcpNack.addMissingPackets s missing = some (grown, final) ∧
      final.Packed (added ++ missing) ∧ final.fciCount = s.fciCount + grown.count true := by
  induction missing generalizing added s with
  | nil => exact ⟨[], s, rfl, by rwa [List.append_nil], rfl⟩
  | cons missingPacket missing ih =>
    have hnew : missingPacket ∉ added := by
      intro hmem
      exact List.disjoint_of_nodup_append hnodup hmem List.mem_cons_self
    obtain ⟨grown, next, hcall, hnext, hcount⟩ := h.addMissingPacket hnew
    rw [List.append_cons] at hnodup ⊢
    obtain ⟨others, final, hcalls, hfinal, hothers⟩ := ih hnext hnodup
    refine ⟨grown :: others, final, ?_, hfinal, ?_⟩
    · rw [RtcpNack.addMissingPackets, hcall]
      simp only [Option.bind_eq_bind, Option.bind_some, hcalls]
      rfl
    · rw [hothers, hcount, List.count_cons]
      cases grown with
      | false => rfl
      | true =>
        show s.fciCount + 1 + _ = s.fciCount + (_ + 1)
        omega

/-- **Building a generic NACK.** The fields for distinct numbers, in whatever order they are added,
stand for these numbers and no others, each field for its first number first, and the calls that
return true are as many as the fields. -/
theorem addMissingPackets_perm (parts : ℕ → RtcpNackPart) (fciPID : UInt16)
    {missing : List UInt16} (hnodup : missing.Nodup) :
    ∃ grown final, addMissingPackets ⟨parts, 0, fciPID⟩ missing = some (grown, final) ∧
      final.sequenceNumbers.Perm missing ∧
      (∀ part ∈ final.fields, part.getSequenceNumbers.head? = some part.pid) ∧
      grown.count true = final.fciCount := by
  have hempty : Fci.Packed [] ⟨parts, 0, fciPID⟩ := ⟨.refl _, fun n hn => absurd hn (by simp)⟩
  have hnodup' : ([] ++ missing).Nodup := hnodup
  obtain ⟨grown, final, hcalls, hpacked, hcount⟩ := hempty.addMissingPackets hnodup'
  refine ⟨grown, final, hcalls, hpacked.perm, fun part _ => rfl, ?_⟩
  rw [hcount]
  exact (Nat.zero_add _).symm

/-- Numbers around the end of the range, not in order. -/
theorem addMissingPackets_perm_wraps :
    ∃ grown final, addMissingPackets ⟨fun _ => ⟨0, 0⟩, 0, 0⟩ [65534, 0, 65535, 9] =
        some (grown, final) ∧
      final.sequenceNumbers.Perm [65534, 0, 65535, 9] ∧
      (∀ part ∈ final.fields, part.getSequenceNumbers.head? = some part.pid) ∧
      grown.count true = final.fciCount :=
  addMissingPackets_perm (fun _ => ⟨0, 0⟩) 0 (by decide)

end RtcpNack

end Rtc
