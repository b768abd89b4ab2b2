import QuicRtc.Lib.Transition
import QuicRtc.Sdp.MediaCalls

/-!
# The SSRCs of a media section

`addSSRC`, `removeSSRC`, `replaceSSRC` and `clearSSRCs` keep the SSRCs in three places: the list
`mSsrcs`, the attributes `ssrc:`, and the names `mCNameMap`. `Ledger` is a section with what it was
told: the name of the latest `addSSRC` of each SSRC, and what was removed from which section.

* `Numbered.addSSRC`, `Numbered.removeSSRC`, `numbered_clearSSRCs`: the attributes and the list stay
  in step, unless an SSRC is removed whose number is a prefix of another one.
* `kept_iff_meets`: all three places agree along a run, and what is removed takes nothing of another
  SSRC with it, if no such SSRC is removed, none whose name is stored is removed for good, and none
  is added under another name than the one that is stored, and only then.
-/

namespace Rtc

namespace Sdp

open WsHandshake (isDigit)
open LocalDescription (Direction)

/-- In front of something else than a digit, a prefix of digits ends with the digits. -/
theorem prefix_of_prefix_append {p s rest : Text} (hp : ∀ c ∈ p, isDigit c = true)
    (hrest : NoDigit rest) (h : p <+: s ++ rest) : p <+: s := by
  rcases List.prefix_or_prefix_of_prefix h (List.prefix_append s rest) with hprefix | ⟨t, rfl⟩
  · exact hprefix
  · have ht : t <+: rest := (List.prefix_append_right_inj s).1 h
    cases t with
    | nil => exact ⟨[], by simp⟩
    | cons c t =>
      obtain ⟨u, rfl⟩ := ht
      have hc := hp c (List.mem_append_right _ List.mem_cons_self)
      rw [hrest c rfl] at hc
      cases hc

namespace Media

/-! ## The SSRC of an attribute -/

/-- The SSRC of an attribute `ssrc:`. -/
def ssrcOf (attr : Text) : Option UInt32 :=
  if matchPrefix attr (bytes "ssrc:") then (toUnsigned (attr.drop 5)).toOption.map UInt32.ofNat
  else none

/-- The number of an SSRC is the beginning of the number of another one. -/
def IsDecimalPrefix (ssrc other : UInt32) : Prop :=
  toString ssrc.toNat <+: toString other.toNat

instance (ssrc other : UInt32) : Decidable (IsDecimalPrefix ssrc other) :=
  inferInstanceAs (Decidable (_ <+: _))

section Attribute

variable {ssrc other : UInt32} {rest attr : Text}

theorem isDigit_ssrc (ssrc : UInt32) : ∀ c ∈ toString ssrc.toNat, isDigit c = true := by
  have hnat : toString ssrc.toNat = WsHandshake.toString ssrc.toNat := if_neg (by omega)
  rw [hnat]
  exact isDigit_toString _

theorem ssrcOf_prefix (ssrc : UInt32) (hrest : NoDigit rest) :
    ssrcOf (ssrcPrefix ssrc ++ rest) = some ssrc := by
  have hmatch : matchPrefix (ssrcPrefix ssrc ++ rest) (bytes "ssrc:") = true := rfl
  have hdrop : (ssrcPrefix ssrc ++ rest).drop 5 = toString ssrc.toNat ++ rest := rfl
  have hnumber := toUnsigned_toString (lt_trans ssrc.toNat_lt (by decide)) hrest
  rw [ssrcOf, if_pos hmatch, hdrop, hnumber]
  exact congrArg some UInt32.ofNat_toNat

theorem matchPrefix_ssrcPrefix (hrest : NoDigit rest) :
    matchPrefix (ssrcPrefix other ++ rest) (ssrcPrefix ssrc) = true ↔
      IsDecimalPrefix ssrc other := by
  rw [matchPrefix, List.isPrefixOf_iff_prefix, ssrcPrefix, ssrcPrefix, List.append_assoc,
    List.prefix_append_right_inj]
  refine ⟨prefix_of_prefix_append (isDigit_ssrc ssrc) hrest, fun h => ?_⟩
  exact h.trans (List.prefix_append _ _)

theorem matchPrefix_of_ssrcOf (h : ssrcOf attr = some ssrc) :
    matchPrefix attr (bytes "ssrc:") = true := by
  by_contra hnot
  rw [ssrcOf, if_neg hnot] at h
  cases h

/-- The attribute begins with the number of the SSRC. -/
def IsNumber (ssrc : UInt32) (attr : Text) : Prop :=
  ∃ rest, attr = ssrcPrefix ssrc ++ rest ∧ NoDigit rest

theorem IsNumber.ssrcOf (h : IsNumber ssrc attr) : ssrcOf attr = some ssrc := by
  obtain ⟨rest, rfl, hrest⟩ := h
  exact ssrcOf_prefix ssrc hrest

/-- What `addSSRC` adds are attributes of the SSRC, one at least, and one of no SSRC. -/
theorem ssrcAttributes_cases (ssrc : UInt32) (name msid trackId : Option Text) :
    (∃ attr ∈ ssrcAttributes ssrc name msid trackId, IsNumber ssrc attr) ∧
      ∀ attr ∈ ssrcAttributes ssrc name msid trackId,
        IsNumber ssrc attr ∨ matchPrefix attr (bytes "ssrc:") = false := by
  have hfirst : ∃ attr attributes, ssrcAttributes ssrc name msid trackId = attr :: attributes ∧
      IsNumber ssrc attr := by
    cases name with
    | some name => exact ⟨_, _, rfl, bytes " cname:" ++ name, rfl, noDigit_space _⟩
    | none => exact ⟨_, _, rfl, [], (List.append_nil _).symm, noDigit_nil⟩
  obtain ⟨attr, attributes, heq, hattr⟩ := hfirst
  refine ⟨⟨attr, heq ▸ List.mem_cons_self, hattr⟩, ?_⟩
  rw [heq]
  refine List.forall_mem_cons.2 ⟨.inl hattr, ?_⟩
  obtain ⟨-, rfl⟩ := List.cons.inj heq
  cases msid with
  | none => exact fun _ hmem => (List.not_mem_nil hmem).elim
  | some msid =>
    rw [List.forall_mem_cons, List.forall_mem_singleton]
    exact ⟨.inl ⟨_, rfl, noDigit_space _⟩, .inr rfl⟩

end Attribute

/-! ## The list and the attributes -/

variable {m : Media}

/-- The attributes of an SSRC. -/
def attributesOf (m : Media) (ssrc : UInt32) : List Text :=
  m.mAttributes.filter fun attr => ssrcOf attr = some ssrc

/-- The SSRCs in the list are those of the attributes. -/
def SameNumbers (m : Media) : Prop :=
  ∀ ssrc, ssrc ∈ m.mSsrcs ↔ ∃ attr ∈ m.mAttributes, ssrcOf attr = some ssrc

/-- The same, and the attributes begin with the numbers. -/
structure Numbered (m : Media) : Prop where
  same : m.SameNumbers
  isNumber : ∀ attr ∈ m.mAttributes, matchPrefix attr (bytes "ssrc:") = true →
    ∃ ssrc, IsNumber ssrc attr

/-- The SSRC is not the beginning of another one. -/
def Alone (m : Media) (ssrc : UInt32) : Prop :=
  ∀ other ∈ m.mSsrcs, IsDecimalPrefix ssrc other → other = ssrc

-- only the SSRCs of the section are tried, not all there are
instance (m : Media) (ssrc : UInt32) : Decidable (m.Alone ssrc) :=
  List.decidableBAll (fun other => IsDecimalPrefix ssrc other → other = ssrc) m.mSsrcs

/-- What is removed with an SSRC is its own. -/
structure RemovesOnly (m : Media) (ssrc : UInt32) : Prop where
  attributes : ∀ other, other ≠ ssrc → (m.removeSSRC ssrc).attributesOf other = m.attributesOf other
  entry : ∀ other, other ≠ ssrc → (m.removeSSRC ssrc).mSsrcs.count other = m.mSsrcs.count other
  cname : ∀ other, other ≠ ssrc →
    (m.removeSSRC ssrc).getCNameForSsrc other = m.getCNameForSsrc other

namespace Numbered

variable {ssrc : UInt32}

theorem isNumber_of_ssrcOf (h : m.Numbered) {attr : Text} (hattr : attr ∈ m.mAttributes)
    (hssrc : ssrcOf attr = some ssrc) : IsNumber ssrc attr := by
  obtain ⟨other, hother⟩ := h.isNumber attr hattr (matchPrefix_of_ssrcOf hssrc)
  rw [hother.ssrcOf] at hssrc
  exact Option.some.inj hssrc ▸ hother

/-- The prefix of an SSRC is found in its own attributes and in those of larger numbers. -/
theorem matchPrefix_iff (h : m.Numbered) {attr : Text} {other : UInt32}
    (hattr : attr ∈ m.mAttributes) (hother : ssrcOf attr = some other) :
    matchPrefix attr (ssrcPrefix ssrc) = true ↔ IsDecimalPrefix ssrc other := by
  obtain ⟨rest, rfl, hrest⟩ := h.isNumber_of_ssrcOf hattr hother
  exact matchPrefix_ssrcPrefix hrest

/-- An SSRC that stands alone loses its own attributes. -/
theorem matchPrefix_iff_of_alone (h : m.Numbered) (halone : m.Alone ssrc) {attr : Text}
    {other : UInt32} (hattr : attr ∈ m.mAttributes) (hother : ssrcOf attr = some other) :
    matchPrefix attr (ssrcPrefix ssrc) = true ↔ other = ssrc := by
  rw [h.matchPrefix_iff hattr hother]
  constructor
  · exact halone other ((h.same other).2 ⟨attr, hattr, hother⟩)
  · rintro rfl
    exact List.prefix_rfl

/-- An SSRC that is not alone takes attributes of another one with it. -/
theorem not_removesOnly (h : m.Numbered) (halone : ¬m.Alone ssrc) : ¬m.RemovesOnly ssrc := by
  intro honly
  obtain ⟨other, hmem, hprefix, hne⟩ :
      ∃ other ∈ m.mSsrcs, IsDecimalPrefix ssrc other ∧ other ≠ ssrc := by
    simpa [Alone] using halone
  obtain ⟨attr, hattr, hother⟩ := (h.same other).1 hmem
  -- the attribute was there, and it is not there any more
  have hbefore : attr ∈ m.attributesOf other := List.mem_filter.2 ⟨hattr, decide_eq_true hother⟩
  rw [← honly.attributes other hne] at hbefore
  have hkept := (List.mem_filter.1 (List.mem_filter.1 hbefore).1).2
  rw [(h.matchPrefix_iff hattr hother).2 hprefix] at hkept
  cases hkept

theorem removesOnly (h : m.Numbered) (halone : m.Alone ssrc) : m.RemovesOnly ssrc where
  attributes other hne := by
    rw [attributesOf, attributesOf, removeSSRC, List.filter_filter]
    refine List.filter_congr fun attr hattr => ?_
    rw [Bool.eq_iff_iff, Bool.and_eq_true, decide_eq_true_iff, decide_eq_true_iff]
    refine ⟨And.left, fun hother => ⟨hother, fun hmatch => ?_⟩⟩
    exact hne ((h.matchPrefix_iff_of_alone halone hattr hother).1 hmatch)
  entry other hne := List.count_filter (decide_eq_true hne)
  cname _ _ := rfl

theorem removeSSRC (h : m.Numbered) (halone : m.Alone ssrc) : (m.removeSSRC ssrc).Numbered where
  same other := by
    rw [Media.removeSSRC, List.mem_filter, decide_eq_true_iff, h.same other]
    constructor
    · rintro ⟨⟨attr, hattr, hother⟩, hne⟩
      refine ⟨attr, List.mem_filter.2 ⟨hattr, decide_eq_true fun hmatch => ?_⟩, hother⟩
      exact hne ((h.matchPrefix_iff_of_alone halone hattr hother).1 hmatch)
    · rintro ⟨attr, hattr, hother⟩
      obtain ⟨hattr, hkept⟩ := List.mem_filter.1 hattr
      refine ⟨⟨attr, hattr, hother⟩, fun heq => of_decide_eq_true hkept ?_⟩
      exact (h.matchPrefix_iff_of_alone halone hattr hother).2 heq
  isNumber attr hattr := h.isNumber attr (List.mem_filter.1 hattr).1

theorem addSSRC (h : m.Numbered) (ssrc : UInt32) (name msid trackId : Option Text) :
    (m.addSSRC ssrc name msid trackId).Numbered := by
  obtain ⟨⟨first, hfirst, hnumber⟩, hall⟩ := ssrcAttributes_cases ssrc name msid trackId
  refine ⟨fun other => ?_, List.forall_mem_append.2 ⟨h.isNumber, fun attr hattr hmatch => ?_⟩⟩
  · rw [Media.addSSRC, List.mem_append, List.mem_singleton, h.same other]
    constructor
    · rintro (⟨attr, hattr, hother⟩ | rfl)
      · exact ⟨attr, List.mem_append_left _ hattr, hother⟩
      · exact ⟨first, List.mem_append_right _ hfirst, hnumber.ssrcOf⟩
    · rintro ⟨attr, hattr, hother⟩
      rcases List.mem_append.1 hattr with hold | hnew
      · exact .inl ⟨attr, hold, hother⟩
      · rcases hall attr hnew with hssrc | hnone
        · rw [hssrc.ssrcOf] at hother
          exact .inr (Option.some.inj hother).symm
        · rw [matchPrefix_of_ssrcOf hother] at hnone
          cases hnone
  · rcases hall attr hattr with hssrc | hnone
    · exact ⟨ssrc, hssrc⟩
    · rw [hmatch] at hnone
      cases hnone

end Numbered

/-- There are no SSRCs. -/
structure NoSsrcs (m : Media) : Prop where
  mSsrcs : m.mSsrcs = []
  mCNameMap : m.mCNameMap = []
  attributes : ∀ attr ∈ m.mAttributes, matchPrefix attr (bytes "ssrc:") = false

theorem NoSsrcs.numbered (h : m.NoSsrcs) : m.Numbered where
  same ssrc := by
    rw [h.mSsrcs]
    refine ⟨fun hmem => (List.not_mem_nil hmem).elim, ?_⟩
    rintro ⟨attr, hattr, hssrc⟩
    have hnone := h.attributes attr hattr
    rw [matchPrefix_of_ssrcOf hssrc] at hnone
    cases hnone
  isNumber attr hattr hmatch := by
    rw [h.attributes attr hattr] at hmatch
    cases hmatch

theorem noSsrcs_clearSSRCs (m : Media) : m.clearSSRCs.NoSsrcs where
  mSsrcs := rfl
  mCNameMap := rfl
  attributes attr hattr := by simpa using (List.mem_filter.1 hattr).2

/-! ## The names -/

theorem getCNameForSsrc_removeSSRC (m : Media) (ssrc : UInt32) :
    (m.removeSSRC ssrc).getCNameForSsrc = m.getCNameForSsrc := rfl

/-- A name that is stored stays. -/
theorem getCNameForSsrc_addSSRC (m : Media) (ssrc : UInt32) (name msid trackId : Option Text)
    (other : UInt32) :
    (m.addSSRC ssrc name msid trackId).getCNameForSsrc other =
      if other = ssrc then (m.getCNameForSsrc ssrc).or name else m.getCNameForSsrc other := by
  change ((emplaceCName m.mCNameMap ssrc name).find? _).map Prod.snd = _
  cases name with
  | none =>
    rw [Option.or_none]
    split_ifs with heq
    · rw [heq]
      rfl
    · rfl
  -- `emplace` keeps the name that is there
  | some name =>
    rw [emplaceCName]
    by_cases hany : (m.mCNameMap.any fun entry => entry.1 = ssrc) = true
    · have hsome : (m.getCNameForSsrc ssrc).isSome := by
        rw [getCNameForSsrc, Option.isSome_map, List.find?_isSome]
        exact List.any_eq_true.1 hany
      rw [if_pos hany]
      split_ifs with heq
      · rw [Option.or_of_isSome hsome, heq]
        rfl
      · rfl
    · have hnone : m.mCNameMap.find? (fun entry => entry.1 = ssrc) = none := by
        rw [List.find?_eq_none]
        exact fun entry hentry heq => hany (List.any_eq_true.2 ⟨entry, hentry, heq⟩)
      rw [if_neg hany, List.find?_append, Option.map_or]
      split_ifs with heq
      · rw [heq, getCNameForSsrc, hnone]
        simp
      · rw [getCNameForSsrc]
        simp [Ne.symm heq]

end Media

/-! ## Runs -/

/-- A section and what it was told: the name of the latest `addSSRC` of each SSRC, and the SSRCs
that were removed, each with the section before. -/
structure Ledger where
  media : Media
  latest : UInt32 → Option (Option Text) := fun _ => none
  removals : List (Media × UInt32) := []

/-- The calls. -/
inductive SsrcCall where
  | add (ssrc : UInt32) (name msid trackId : Option Text)
  | remove (ssrc : UInt32)
  | replace (old ssrc : UInt32) (name msid trackId : Option Text)
  | clear

namespace Ledger

variable {l l' : Ledger}

/-- What a call does. -/
def step (l : Ledger) : SsrcCall → Option Ledger
  | .add ssrc name msid trackId =>
    some
      { l with
        media := l.media.addSSRC ssrc name msid trackId
        latest := Function.update l.latest ssrc (some name) }
  | .remove ssrc =>
    some { l with media := l.media.removeSSRC ssrc, removals := (l.media, ssrc) :: l.removals }
  | .replace old ssrc name msid trackId =>
    some
      { media := l.media.replaceSSRC old ssrc name msid trackId
        latest := Function.update l.latest ssrc (some name)
        removals := (l.media, old) :: l.removals }
  | .clear => some { l with media := l.media.clearSSRCs }

/-- The three places agree, and nothing was removed with another SSRC. -/
structure Kept (l : Ledger) : Prop where
  same : l.media.SameNumbers
  names : ∀ ssrc name, l.media.getCNameForSsrc ssrc = some name →
    ssrc ∈ l.media.mSsrcs ∧ l.latest ssrc = some (some name)
  removals : ∀ removal ∈ l.removals, removal.1.RemovesOnly removal.2

/-- The SSRC is added under the name that is stored, if there is one. -/
def SameName (m : Media) (ssrc : UInt32) (name : Option Text) : Prop :=
  ∀ stored ∈ m.getCNameForSsrc ssrc, name = some stored

instance (m : Media) (ssrc : UInt32) (name : Option Text) : Decidable (SameName m ssrc name) :=
  inferInstanceAs (Decidable (∀ stored ∈ m.getCNameForSsrc ssrc, _))

/-- The condition of a call. -/
def MayCall (l : Ledger) : SsrcCall → Prop
  | .add ssrc name _ _ => SameName l.media ssrc name
  | .remove ssrc => l.media.Alone ssrc ∧ l.media.getCNameForSsrc ssrc = none
  | .replace old ssrc name _ _ =>
    l.media.Alone old ∧ (old = ssrc ∨ l.media.getCNameForSsrc old = none) ∧
      SameName l.media ssrc name
  | .clear => True

instance (l : Ledger) (c : SsrcCall) : Decidable (l.MayCall c) := by
  cases c <;> unfold MayCall <;> infer_instance

/-- What a run keeps: the attributes begin with the numbers, too. -/
structure Inv (l : Ledger) : Prop extends Kept l where
  isNumber : ∀ attr ∈ l.media.mAttributes, matchPrefix attr (bytes "ssrc:") = true →
    ∃ ssrc, Media.IsNumber ssrc attr

theorem Inv.numbered (h : Inv l) : l.media.Numbered := ⟨h.same, h.isNumber⟩

theorem inv_of_numbered (hnumbered : l.media.Numbered)
    (hnames : ∀ ssrc name, l.media.getCNameForSsrc ssrc = some name →
      ssrc ∈ l.media.mSsrcs ∧ l.latest ssrc = some (some name))
    (hremovals : ∀ removal ∈ l.removals, removal.1.RemovesOnly removal.2) : Inv l :=
  ⟨⟨hnumbered.same, hnames, hremovals⟩, hnumbered.isNumber⟩

theorem inv_of_noSsrcs {m : Media} (h : m.NoSsrcs) : Inv { media := m } := by
  refine inv_of_numbered h.numbered (fun ssrc name hname => ?_)
    fun _ hmem => (List.not_mem_nil hmem).elim
  rw [Media.getCNameForSsrc, h.mCNameMap] at hname
  cases hname

/-- The names behind `addSSRC`, where the section has lost an SSRC or not. -/
theorem names_addSSRC {m : Media} {latest : UInt32 → Option (Option Text)} {ssrc : UInt32}
    {name : Option Text} (msid trackId : Option Text) (hsame : SameName m ssrc name)
    (hnames : ∀ other stored, other ≠ ssrc → m.getCNameForSsrc other = some stored →
      other ∈ m.mSsrcs ∧ latest other = some (some stored)) :
    ∀ other stored,
      (m.addSSRC ssrc name msid trackId).getCNameForSsrc other = some stored →
      other ∈ (m.addSSRC ssrc name msid trackId).mSsrcs ∧
        Function.update latest ssrc (some name) other = some (some stored) := by
  intro other stored hstored
  rw [Media.getCNameForSsrc_addSSRC] at hstored
  by_cases heq : other = ssrc
  · subst heq
    refine ⟨List.mem_append_right _ List.mem_cons_self, ?_⟩
    rw [if_pos rfl] at hstored
    rw [Function.update_self]
    -- the name was stored before, or it is stored now
    rcases Option.or_eq_some_iff.1 hstored with hold | ⟨-, hnew⟩
    · rw [hsame stored hold]
    · rw [hnew]
  · rw [if_neg heq] at hstored
    obtain ⟨hmem, hlatest⟩ := hnames other stored heq hstored
    rw [Function.update_of_ne heq]
    exact ⟨List.mem_append_left _ hmem, hlatest⟩

/-- A call that meets the condition keeps the invariant. -/
theorem Inv.step {c : SsrcCall} (h : Inv l) (hok : l.MayCall c) (hstep : l.step c = some l') :
    Inv l' := by
  cases c with
  | add ssrc name msid trackId =>
    obtain rfl := Option.some.inj hstep
    exact inv_of_numbered (h.numbered.addSSRC ssrc name msid trackId)
      (names_addSSRC msid trackId hok fun other stored _ => h.names other stored) h.removals
  -- nobody else has a name or a line that the removal takes along
  | remove ssrc =>
    obtain rfl := Option.some.inj hstep
    obtain ⟨halone, hnone⟩ := hok
    refine inv_of_numbered (h.numbered.removeSSRC halone) (fun other stored hstored => ?_)
      (List.forall_mem_cons.2 ⟨h.numbered.removesOnly halone, h.removals⟩)
    obtain ⟨hmem, hlatest⟩ := h.names other stored hstored
    refine ⟨List.mem_filter.2 ⟨hmem, decide_eq_true ?_⟩, hlatest⟩
    rintro rfl
    rw [Media.getCNameForSsrc_removeSSRC, hnone] at hstored
    cases hstored
  -- the removal and the addition, one after the other
  | replace old ssrc name msid trackId =>
    obtain rfl := Option.some.inj hstep
    obtain ⟨halone, hold, hsame⟩ := hok
    refine inv_of_numbered ((h.numbered.removeSSRC halone).addSSRC ssrc name msid trackId)
      (names_addSSRC msid trackId hsame fun other stored hne hstored => ?_)
      (List.forall_mem_cons.2 ⟨h.numbered.removesOnly halone, h.removals⟩)
    obtain ⟨hmem, hlatest⟩ := h.names other stored hstored
    refine ⟨List.mem_filter.2 ⟨hmem, decide_eq_true ?_⟩, hlatest⟩
    rintro rfl
    rcases hold with heq | hnone
    · exact hne heq
    · rw [Media.getCNameForSsrc_removeSSRC, hnone] at hstored
      cases hstored
  | clear =>
    obtain rfl := Option.some.inj hstep
    have hnone := l.media.noSsrcs_clearSSRCs
    refine inv_of_numbered hnone.numbered (fun ssrc name hname => ?_) h.removals
    rw [Media.getCNameForSsrc, hnone.mCNameMap] at hname
    cases hname

/-- An SSRC that is added again keeps the name that is stored. -/
theorem not_kept_addSSRC {m : Media} {ssrc : UInt32} {name msid trackId : Option Text}
    (hsame : ¬SameName m ssrc name) (hmedia : l.media = m.addSSRC ssrc name msid trackId)
    (hlatest : l.latest ssrc = some name) : ¬l.Kept := by
  intro hkept
  obtain ⟨stored, hstored, hne⟩ : ∃ stored, m.getCNameForSsrc ssrc = some stored ∧
      ¬name = some stored := by
    simpa [SameName] using hsame
  have hname : l.media.getCNameForSsrc ssrc = some stored := by
    rw [hmedia, Media.getCNameForSsrc_addSSRC, if_pos rfl, hstored, Option.some_or]
  have hthat := (hkept.names ssrc stored hname).2
  rw [hlatest] at hthat
  exact hne (Option.some.inj hthat)

/-- A call that misses the condition breaks what is kept. -/
theorem Inv.not_step {c : SsrcCall} (h : Inv l) (hmiss : ¬l.MayCall c)
    (hstep : l.step c = some l') : ¬l'.Kept := by
  cases c with
  | add ssrc name msid trackId =>
    obtain rfl := Option.some.inj hstep
    exact not_kept_addSSRC hmiss rfl (Function.update_self ..)
  | remove ssrc =>
    obtain rfl := Option.some.inj hstep
    intro hkept
    refine hmiss ⟨?_, ?_⟩
    · by_contra halone
      exact h.numbered.not_removesOnly halone (hkept.removals _ List.mem_cons_self)
    · -- the name is left without the SSRC
      by_contra hname
      obtain ⟨stored, hstored⟩ := Option.ne_none_iff_exists'.1 hname
      have hmem := (hkept.names ssrc stored hstored).1
      exact of_decide_eq_true (List.mem_filter.1 hmem).2 rfl
  | replace old ssrc name msid trackId =>
    obtain rfl := Option.some.inj hstep
    intro hkept
    refine hmiss ⟨?_, ?_, ?_⟩
    · by_contra halone
      exact h.numbered.not_removesOnly halone (hkept.removals _ List.mem_cons_self)
    · by_contra hname
      obtain ⟨hne, hname⟩ := not_or.1 hname
      obtain ⟨stored, hstored⟩ := Option.ne_none_iff_exists'.1 hname
      have hleft : (l.media.replaceSSRC old ssrc name msid trackId).getCNameForSsrc old =
          some stored := by
        rw [Media.replaceSSRC, Media.getCNameForSsrc_addSSRC, if_neg hne]
        exact hstored
      rcases List.mem_append.1 (hkept.names old stored hleft).1 with hmem | hmem
      · exact of_decide_eq_true (List.mem_filter.1 hmem).2 rfl
      · exact hne (List.mem_singleton.1 hmem)
    · by_contra hsame
      exact @not_kept_addSSRC _ (l.media.removeSSRC old) ssrc name msid trackId hsame rfl
        (Function.update_self ..) hkept
  | clear => exact absurd trivial hmiss

/-- **SSRC bookkeeping.** Along a run the three places agree, and what is removed takes nothing with
it, exactly when all calls meet the condition. -/
theorem kept_iff_meets {m : Media} (hm : m.NoSsrcs) {calls : List SsrcCall}
    (hrun : Transition.run step { media := m } calls = some l) :
    (∀ before, before <+: calls → ∀ u, Transition.run step { media := m } before = some u →
      u.Kept) ↔ Transition.Meets step MayCall { media := m } calls :=
  Transition.forall_prefix_iff_meets_of_invariant (fun _ h => h.toKept)
    (fun _ _ _ h hok hstep => h.step hok hstep) (fun _ _ _ h hmiss hstep => h.not_step hmiss hstep)
    (inv_of_noSsrcs hm) hrun

/-- A section without SSRCs. -/
def emptyMedia : Media where
  mType := bytes "video"
  mProtocol := bytes "UDP/TLS/RTP/SAVPF"
  mDescription := []
  mMid := bytes "video"
  mDirection := .sendOnly
  mIsRemoved := false

theorem noSsrcs_emptyMedia : emptyMedia.NoSsrcs := ⟨rfl, rfl, by simp [emptyMedia]⟩

/-- Calls that meet the condition. -/
def plainCalls : List SsrcCall :=
  [.add 12 none none none, .add 3 (some (bytes "x")) (some (bytes "y")) none,
    .replace 12 1 none none none, .remove 1, .add 3 (some (bytes "x")) none none, .clear]

theorem kept_plainCalls :
    ∃ l, Transition.run step { media := emptyMedia } plainCalls = some l ∧
      ∀ before, before <+: plainCalls → ∀ u,
        Transition.run step { media := emptyMedia } before = some u → u.Kept := by
  have hok : Transition.Meets step MayCall { media := emptyMedia } plainCalls := by decide +kernel
  exact ⟨_, rfl, (kept_iff_meets noSsrcs_emptyMedia rfl).2 hok⟩

/-- A number that is the beginning of another one takes the other one's attribute with it, and a
name stays without its SSRC. -/
theorem not_kept_removeSSRC :
    (¬∀ (m : Media) (calls : List SsrcCall) (l : Ledger), m.NoSsrcs →
      Transition.run step { media := m } calls = some l → l.Kept) ∧
      (∃ l, Transition.run step { media := emptyMedia }
        [.add 1 none none none, .add 12 none none none, .remove 1] = some l ∧
        l.media.mSsrcs = [12] ∧ l.media.mAttributes = []) ∧
      ∃ l, Transition.run step { media := emptyMedia }
        [.add 1 (some (bytes "x")) none none, .remove 1] = some l ∧
        l.media.mSsrcs = [] ∧ l.media.getCNameForSsrc 1 = some (bytes "x") := by
  refine ⟨fun h => ?_, ⟨_, rfl, by decide +kernel, by decide +kernel⟩, _, rfl, by decide +kernel,
    by decide +kernel⟩
  have hkept := h emptyMedia [.add 1 (some (bytes "x")) none none, .remove 1] _
    noSsrcs_emptyMedia rfl
  have hmem := (hkept.names 1 (bytes "x") (by decide +kernel)).1
  exact absurd hmem (by decide +kernel)

end Ledger

end Sdp

end Rtc
