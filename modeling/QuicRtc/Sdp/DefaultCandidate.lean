import QuicRtc.Lib.FirstMax
import QuicRtc.Sdp.Description

/-!
# The default candidate

`Description::defaultCandidate` looks for the first host candidate with the highest priority, and
favors IPv4. A host candidate that is not resolved has a family of its own, which the comparison
leaves out: no other candidate replaces it when it comes first, and it replaces none later.

* `foldl_selectHost_of_resolved`: behind a resolved host, the preferred candidate is selected.
* `foldl_selectHost_of_unresolved`: behind an unresolved host, none of the resolved ones is.
* `selectsPreferred_iff`: the candidates for which the preferred one is selected in every order.
-/

namespace Rtc

namespace Sdp

open FirstMax (Reordered)

/-- `priority`. -/
def Candidate.priority (c : Candidate) : ℕ := c.mPriority.toNat

theorem Candidate.isResolved_iff_family {c : Candidate} :
    c.isResolved = true ↔ c.family ≠ none := by
  rw [isResolved, family, ne_eq, Option.map_eq_none_iff, Option.isSome_iff_ne_none]

namespace Description

/-- The host candidates of a family. -/
def hosts (family : Candidate.Family) (cs : List Candidate) : List Candidate :=
  cs.filter fun c => c.isHost && c.family = some family

/-- Of the resolved IPv4 hosts, or else of the resolved IPv6 hosts, the first with the highest
priority. -/
def preferred (cs : List Candidate) : Option Candidate :=
  ((hosts .ipv4 cs).argmax Candidate.priority).or ((hosts .ipv6 cs).argmax Candidate.priority)

/-- Whatever the order of the candidates with distinct priorities, the default candidate is the
preferred one if there is one, and the sections are printed with the same address and port. -/
def SelectsPreferred (d : Description) : Prop :=
  ∀ cs, Reordered Candidate.priority d.mCandidates cs →
    (∀ c, preferred cs = some c →
      ({ d with mCandidates := cs } : Description).defaultCandidate = some c) ∧
    ({ d with mCandidates := cs } : Description).addrPort = d.addrPort

/-- No host is resolved, or the first host of every priority is. -/
def ResolvedFirst (cs : List Candidate) : Prop :=
  (∀ c ∈ cs, c.isHost = true → c.isResolved = false) ∨
    ∀ priority, ∀ c ∈ ((cs.filter Candidate.isHost).filter (·.priority = priority)).head?,
      c.isResolved = true

/-! ## The selection, host by host -/

/-- One host more. -/
def selectHost (result : Option Candidate) (c : Candidate) : Option Candidate :=
  match result with
  | none => some c
  | some best =>
    if (best.family = some .ipv6 ∧ c.family = some .ipv4) ∨
        (best.family = c.family ∧ best.mPriority < c.mPriority) then some c
    else some best

theorem defaultCandidate_eq_foldl (d : Description) :
    d.defaultCandidate = (d.mCandidates.filter Candidate.isHost).foldl selectHost none := by
  rw [defaultCandidate, List.foldl_filter]
  rfl

section Step

variable {best c : Candidate}

/-- Of one family, the higher priority is kept. -/
theorem selectHost_of_eq (h : best.family = c.family) :
    selectHost (some best) c = if best.priority < c.priority then some c else some best := by
  have hnot : ¬(c.family = some .ipv6 ∧ c.family = some .ipv4) := by
    rintro ⟨hbest, hc⟩
    rw [hc] at hbest
    cases hbest
  refine if_congr ?_ rfl rfl
  simp only [h, hnot, true_and, false_or, UInt32.lt_iff_toNat_lt, Candidate.priority]

theorem selectHost_ipv4 (hbest : best.family = some .ipv6) (hc : c.family = some .ipv4) :
    selectHost (some best) c = some c := if_pos (Or.inl ⟨hbest, hc⟩)

/-- Only IPv4 replaces another family, and only IPv6 is replaced. -/
theorem selectHost_of_ne (hne : best.family ≠ c.family)
    (hnot : best.family ≠ some .ipv6 ∨ c.family ≠ some .ipv4) :
    selectHost (some best) c = some best := by
  refine if_neg ?_
  rintro (⟨hbest, hc⟩ | ⟨heq, -⟩)
  · exact hnot.elim (absurd hbest) (absurd hc)
  · exact hne heq

end Step

variable {cs : List Candidate} {c : Candidate} {family : Candidate.Family}

theorem hosts_filter_isHost (family : Candidate.Family) (cs : List Candidate) :
    hosts family (cs.filter Candidate.isHost) = hosts family cs := by
  rw [hosts, hosts, List.filter_filter]
  refine List.filter_congr fun c _ => ?_
  cases c.isHost <;> simp

theorem preferred_filter_isHost (cs : List Candidate) :
    preferred (cs.filter Candidate.isHost) = preferred cs := by
  simp only [preferred, hosts_filter_isHost]

theorem hosts_concat_of_eq (hhost : c.isHost = true) (hc : c.family = some family) :
    hosts family (cs ++ [c]) = hosts family cs ++ [c] := by
  rw [hosts, List.filter_append, List.filter_singleton, hhost, hc]
  simp [hosts]

theorem hosts_concat_of_ne (hc : c.family ≠ some family) :
    hosts family (cs ++ [c]) = hosts family cs := by
  rw [hosts, List.filter_append, List.filter_singleton]
  simp [hosts, hc]

theorem mem_of_argmax (h : (hosts family cs).argmax Candidate.priority = some c) :
    c ∈ cs ∧ c.isHost = true ∧ c.family = some family := by
  obtain ⟨hmem, hhost⟩ := List.mem_filter.1 (List.argmax_mem h)
  simp only [Bool.and_eq_true, decide_eq_true_eq] at hhost
  exact ⟨hmem, hhost⟩

/-- The preferred candidate is a resolved host. -/
theorem mem_of_preferred (h : preferred cs = some c) :
    c ∈ cs ∧ c.isHost = true ∧ c.family ≠ none := by
  rw [preferred, Option.or_eq_some_iff] at h
  obtain ⟨family, hbest⟩ :
      ∃ family, (hosts family cs).argmax Candidate.priority = some c := by
    rcases h with h | ⟨-, h⟩
    · exact ⟨_, h⟩
    · exact ⟨_, h⟩
  obtain ⟨hmem, hhost, hfamily⟩ := mem_of_argmax hbest
  refine ⟨hmem, hhost, ?_⟩
  rw [hfamily]
  exact Option.some_ne_none _

/-- There is a preferred candidate where a host is resolved. -/
theorem preferred_ne_none (hmem : c ∈ cs) (hhost : c.isHost = true) (hc : c.family ≠ none) :
    preferred cs ≠ none := by
  intro h
  rw [preferred, Option.or_eq_none_iff, List.argmax_eq_none, List.argmax_eq_none] at h
  have hnot : ∀ family, c.family = some family → hosts family cs ≠ [] := by
    intro family hfamily
    refine List.ne_nil_of_mem (a := c) (List.mem_filter.2 ⟨hmem, ?_⟩)
    simp [hhost, hfamily]
  cases hfamily : c.family with
  | none => exact hc hfamily
  | some family =>
    cases family with
    | ipv4 => exact hnot _ hfamily h.1
    | ipv6 => exact hnot _ hfamily h.2

/-- Within a family, a host is compared with the one that is selected before it. -/
theorem argmax_hosts_concat (hhost : c.isHost = true) (hc : c.family = some family) :
    (hosts family (cs ++ [c])).argmax Candidate.priority =
      selectHost ((hosts family cs).argmax Candidate.priority) c := by
  rw [hosts_concat_of_eq hhost hc, List.argmax_concat]
  cases hbest : (hosts family cs).argmax Candidate.priority with
  | none => rfl
  | some best =>
    have hsame : best.family = c.family := (mem_of_argmax hbest).2.2.trans hc.symm
    exact (selectHost_of_eq hsame).symm

/-- A resolved host is compared with the preferred candidate before it. -/
theorem preferred_concat (hhost : c.isHost = true) (hc : c.family ≠ none) :
    preferred (cs ++ [c]) = selectHost (preferred cs) c := by
  cases hfamily : c.family with
  | none => exact absurd hfamily hc
  | some family =>
    cases family with
    | ipv4 =>
      have hne : c.family ≠ some .ipv6 := by
        rw [hfamily]
        decide
      rw [preferred, preferred, argmax_hosts_concat hhost hfamily, hosts_concat_of_ne hne]
      cases hbest : (hosts .ipv4 cs).argmax Candidate.priority with
      | none =>
        -- the first IPv4 host replaces the IPv6 hosts before it
        cases hbest6 : (hosts .ipv6 cs).argmax Candidate.priority with
        | none => rfl
        | some best => exact (selectHost_ipv4 (mem_of_argmax hbest6).2.2 hfamily).symm
      | some best =>
        have hsame : best.family = c.family := (mem_of_argmax hbest).2.2.trans hfamily.symm
        rw [Option.some_or, selectHost_of_eq hsame]
        split_ifs <;> rfl
    | ipv6 =>
      have hne : c.family ≠ some .ipv4 := by
        rw [hfamily]
        decide
      rw [preferred, preferred, argmax_hosts_concat hhost hfamily, hosts_concat_of_ne hne]
      cases hbest : (hosts .ipv4 cs).argmax Candidate.priority with
      | none => rw [Option.none_or, Option.none_or]
      | some best =>
        -- an IPv4 host before it stays
        have hfamilies : best.family ≠ c.family := by
          rw [(mem_of_argmax hbest).2.2, hfamily]
          decide
        rw [Option.some_or, Option.some_or, selectHost_of_ne hfamilies (Or.inr hne)]

/-- Behind a resolved host, the preferred candidate is selected. -/
theorem foldl_selectHost_of_resolved {hs : List Candidate} (hhosts : ∀ c ∈ hs, c.isHost = true)
    (hfirst : ∀ c ∈ hs.head?, c.family ≠ none) : hs.foldl selectHost none = preferred hs := by
  induction hs using List.reverseRecOn with
  | nil => rfl
  | append_singleton hs c ih =>
    have hhost : c.isHost = true := hhosts c (by simp)
    have hbefore : hs.foldl selectHost none = preferred hs :=
      ih (fun b hb => hhosts b (by simp [hb])) fun b hb => hfirst b (by
        rw [List.head?_append, Option.mem_def.1 hb]
        rfl)
    rw [List.foldl_append, List.foldl_cons, List.foldl_nil, hbefore]
    by_cases hc : c.family = none
    · -- the list does not start with this one, and what is selected before it is resolved
      obtain ⟨first, rest, rfl⟩ : ∃ first rest, hs = first :: rest := by
        refine List.exists_cons_of_ne_nil ?_
        rintro rfl
        exact hfirst c rfl hc
      have hne : preferred (first :: rest) ≠ none :=
        preferred_ne_none List.mem_cons_self (hhosts first (by simp)) (hfirst first rfl)
      obtain ⟨best, hbest⟩ := Option.ne_none_iff_exists'.1 hne
      have hsame : ∀ family, hosts family (first :: rest ++ [c]) = hosts family (first :: rest) :=
        fun family => hosts_concat_of_ne (by rw [hc]; exact (Option.some_ne_none _).symm)
      have hkept : preferred (first :: rest ++ [c]) = preferred (first :: rest) := by
        simp only [preferred, hsame]
      rw [hkept, hbest]
      refine selectHost_of_ne ?_ (Or.inr ?_)
      · rw [hc]
        exact (mem_of_preferred hbest).2.2
      · rw [hc]
        exact (Option.some_ne_none _).symm
    · exact (preferred_concat hhost hc).symm

/-- An unresolved host that comes first is replaced by unresolved hosts only. -/
theorem foldl_selectHost_of_unresolved {c : Candidate} (hc : c.family = none)
    (cs : List Candidate) :
    ∃ best, (c :: cs).foldl selectHost none = some best ∧ best.family = none := by
  rw [List.foldl_cons]
  refine List.foldlRecOn cs selectHost
    (motive := fun result => ∃ best, result = some best ∧ best.family = none) ⟨c, rfl, hc⟩ ?_
  rintro _ ⟨best, rfl, hbest⟩ c _
  by_cases heq : best.family = c.family
  · rw [selectHost_of_eq heq]
    split_ifs
    · exact ⟨c, rfl, heq.symm.trans hbest⟩
    · exact ⟨best, rfl, hbest⟩
  · refine ⟨best, selectHost_of_ne heq (Or.inl ?_), hbest⟩
    rw [hbest]
    exact Option.some_ne_none _ ∘ Eq.symm

/-! ## The selection in every order -/

variable {d : Description}

/-- The preferred candidate does not depend on the order of candidates with distinct priorities. -/
theorem preferred_reordered {cs' : List Candidate} (h : Reordered Candidate.priority cs cs') :
    preferred cs' = preferred cs := by
  rw [preferred, preferred, hosts, hosts, (h.filter _).argmax_eq, (h.filter _).argmax_eq]
  rfl

/-- Behind a resolved host, the preferred candidate is the default one. -/
theorem defaultCandidate_of_resolved
    (h : ∀ c ∈ (d.mCandidates.filter Candidate.isHost).head?, c.isResolved = true) :
    d.defaultCandidate = preferred d.mCandidates := by
  rw [defaultCandidate_eq_foldl, ← preferred_filter_isHost]
  exact foldl_selectHost_of_resolved (fun c hc => (List.mem_filter.1 hc).2)
    fun c hc => Candidate.isResolved_iff_family.1 (h c hc)

/-- Behind an unresolved host, the default candidate is not the preferred one. -/
theorem defaultCandidate_of_unresolved
    (h : (d.mCandidates.filter Candidate.isHost).head? = some c) (hc : c.isResolved = false) :
    ∃ best, d.defaultCandidate = some best ∧ best.family = none := by
  obtain ⟨rest, hrest⟩ := List.head?_eq_some_iff.1 h
  have hfamily : c.family = none := by
    by_contra hne
    rw [Candidate.isResolved_iff_family.2 hne] at hc
    cases hc
  rw [defaultCandidate_eq_foldl, hrest]
  exact foldl_selectHost_of_unresolved hfamily rest

/-- Behind an unresolved host, or without a host, no address is printed. -/
theorem addrPort_of_unresolved
    (h : ∀ c ∈ (d.mCandidates.filter Candidate.isHost).head?, c.isResolved = false) :
    d.addrPort = (bytes "IP4 0.0.0.0", 9) := by
  have hnone : d.defaultCandidate.bind Candidate.resolution = none := by
    cases hfirst : (d.mCandidates.filter Candidate.isHost).head? with
    | none =>
      rw [defaultCandidate_eq_foldl, List.head?_eq_none_iff.1 hfirst]
      rfl
    | some c =>
      obtain ⟨best, hbest, hfamily⟩ := defaultCandidate_of_unresolved hfirst (h c hfirst)
      rw [hbest]
      exact Option.map_eq_none_iff.1 hfamily
  rw [addrPort, hnone]

/-- Where no host is resolved, there is nothing to prefer in any order. -/
theorem selectsPreferred_of_unresolved
    (h : ∀ c ∈ d.mCandidates, c.isHost = true → c.isResolved = false) : d.SelectsPreferred := by
  intro cs hcs
  have hhosts : ∀ c ∈ cs, c.isHost = true → c.isResolved = false :=
    fun c hc => h c (hcs.perm.mem_iff.2 hc)
  refine ⟨fun c hc => ?_, ?_⟩
  · obtain ⟨hmem, hhost, hfamily⟩ := mem_of_preferred hc
    have hresolved := Candidate.isResolved_iff_family.2 hfamily
    rw [hhosts c hmem hhost] at hresolved
    cases hresolved
  · have hfirst : ∀ l : List Candidate, (∀ c ∈ l, c.isHost = true → c.isResolved = false) →
        ∀ c ∈ (l.filter Candidate.isHost).head?, c.isResolved = false := by
      intro l hl c hc
      obtain ⟨hmem, hhost⟩ := List.mem_filter.1 (List.mem_of_head? hc)
      exact hl c hmem hhost
    rw [addrPort_of_unresolved (hfirst d.mCandidates h), addrPort_of_unresolved (hfirst cs hhosts)]

/-- Where the first host of every priority is resolved, every order starts with a resolved host. -/
theorem selectsPreferred_of_resolved
    (h : ∀ priority,
      ∀ c ∈ ((d.mCandidates.filter Candidate.isHost).filter (·.priority = priority)).head?,
        c.isResolved = true) : d.SelectsPreferred := by
  have hdefault : ∀ cs, Reordered Candidate.priority d.mCandidates cs →
      ({ d with mCandidates := cs } : Description).defaultCandidate = preferred cs :=
    fun cs hcs => defaultCandidate_of_resolved fun c hc =>
      h c.priority c ((hcs.filter Candidate.isHost).head?_filter hc)
  intro cs hcs
  have hsame : ({ d with mCandidates := cs } : Description).defaultCandidate =
      d.defaultCandidate := by
    rw [hdefault cs hcs, preferred_reordered hcs]
    exact (hdefault d.mCandidates (Reordered.refl _ _)).symm
  refine ⟨fun c hc => (hdefault cs hcs).trans hc, ?_⟩
  rw [addrPort, addrPort, hsame]

/-- The preferred candidate is selected in every order where no host is resolved, or where the
first host of every priority is, and nowhere else. -/
theorem selectsPreferred_iff (d : Description) :
    d.SelectsPreferred ↔ ResolvedFirst d.mCandidates := by
  constructor
  · intro hselects
    by_contra hmixed
    simp only [ResolvedFirst, not_or, not_forall] at hmixed
    obtain ⟨⟨resolved, hmem, hhost, hresolved⟩, priority, first, hfirst, hunresolved⟩ := hmixed
    -- the hosts with the priority of the unresolved one move to the front
    have hfront := Reordered.front Candidate.priority d.mCandidates priority
    have hhead : ((d.mCandidates.filter (·.priority = priority) ++
        d.mCandidates.filter (·.priority ≠ priority)).filter Candidate.isHost).head? =
        some first := by
      rw [List.filter_append, List.filter_comm, List.head?_append, Option.mem_def.1 hfirst]
      rfl
    obtain ⟨best, hbest, hnone⟩ := defaultCandidate_of_unresolved
      (d := { d with mCandidates := _ }) hhead (Bool.eq_false_of_not_eq_true hunresolved)
    have hne : preferred d.mCandidates ≠ none :=
      preferred_ne_none hmem hhost
        (Candidate.isResolved_iff_family.1 (Bool.eq_true_of_not_eq_false hresolved))
    obtain ⟨c, hc⟩ := Option.ne_none_iff_exists'.1 hne
    have hselected := (hselects _ hfront).1 c ((preferred_reordered hfront).trans hc)
    rw [hbest] at hselected
    obtain rfl := Option.some.inj hselected
    exact (mem_of_preferred hc).2.2 hnone
  · rintro (hunresolved | hresolved)
    · exact selectsPreferred_of_unresolved hunresolved
    · exact selectsPreferred_of_resolved hresolved

/-- A host whose name is not looked up yet. -/
def namedHost : Candidate :=
  { mFoundation := bytes "1", mComponent := 1, mPriority := 1, mTypeString := bytes "host"
    mTransportString := bytes "UDP", mNode := bytes "host.local", mService := bytes "5000" }

/-- A host with an address and a higher priority. -/
def numericHost : Candidate :=
  { mFoundation := bytes "2", mComponent := 1, mPriority := 2, mTypeString := bytes "host"
    mTransportString := bytes "UDP", mNode := bytes "192.168.1.1", mService := bytes "5000"
    resolution := some { mFamily := .ipv4, mAddress := bytes "192.168.1.1", mPort := 5000 } }

/-- Behind the first host, the second one is not selected, and the order decides what is printed. -/
theorem not_selectsPreferred_namedHost :
    ¬({ mRole := .actPass, mCandidates := [namedHost, numericHost] } :
      Description).SelectsPreferred ∧
    ({ mRole := .actPass, mCandidates := [namedHost, numericHost] } : Description).addrPort =
      (bytes "IP4 0.0.0.0", 9) ∧
    ({ mRole := .actPass, mCandidates := [numericHost, namedHost] } : Description).addrPort =
      (bytes "IP4 192.168.1.1", 5000) := by
  refine ⟨fun h => ?_, rfl, rfl⟩
  have hpreferred : preferred [namedHost, numericHost] = some numericHost := rfl
  have hdefault : ({ mRole := .actPass, mCandidates := [namedHost, numericHost] } :
      Description).defaultCandidate = some namedHost := rfl
  have hselected := (h _ (Reordered.refl _ _)).1 _ hpreferred
  rw [hdefault] at hselected
  exact absurd (congrArg Candidate.mPriority (Option.some.inj hselected)) (by decide)

end Description

end Sdp

end Rtc
