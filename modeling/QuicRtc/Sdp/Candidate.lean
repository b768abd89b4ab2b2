import QuicRtc.Sdp.Text

/-!
# Candidates

`Candidate` of `candidate.cpp`. The type and the transport are texts; what `resolve` finds is kept
as a whole. The mid of a candidate is not part of its line and is left out.

* `wellFormed_ofText`: what the parser accepts is made of words and a trimmed tail.
* `ofText_candidate`: parsing the text of an unresolved candidate gives the candidate back.
* `parse_candidate_of_parse`: parsing the text of what was parsed changes neither the fields, the
  types nor the text.
-/

namespace Rtc

namespace Sdp

open Http (space lf)
open WsHandshake (isSpace)

/-- `Candidate::Family` of a resolved candidate. -/
inductive Candidate.Family where
  | ipv4
  | ipv6
  deriving DecidableEq, Repr

/-- What `resolve` sets. -/
structure Candidate.Resolution where
  mFamily : Candidate.Family
  mAddress : Text
  mPort : UInt16
  deriving DecidableEq, Repr

/-- `Candidate`. -/
structure Candidate where
  mFoundation : Text := bytes "none"
  mComponent : UInt32 := 0
  mPriority : UInt32 := 0
  mTypeString : Text := bytes "unknown"
  mTransportString : Text := bytes "unknown"
  mNode : Text := bytes "0.0.0.0"
  mService : Text := bytes "9"
  mTail : Text := []
  resolution : Option Candidate.Resolution := none
  deriving DecidableEq, Repr

/-- `Candidate::Type`. -/
inductive CandidateType where
  | unknown
  | host
  | serverReflexive
  | peerReflexive
  | relayed
  deriving DecidableEq, Repr

/-- `Candidate::TransportType`. -/
inductive TransportType where
  | unknown
  | udp
  | tcpActive
  | tcpPassive
  | tcpSo
  | tcpUnknown
  deriving DecidableEq, Repr

namespace Candidate

/-- `isResolved`. -/
def isResolved (c : Candidate) : Bool := c.resolution.isSome

/-- `family`, nothing for `Family::Unresolved`. -/
def family (c : Candidate) : Option Family := c.resolution.map Resolution.mFamily

/-- `type` is `Type::Host`. -/
def isHost (c : Candidate) : Bool := c.mTypeString = bytes "host"

/-- `TypeMap`. -/
def typeMap : List (Text × CandidateType) :=
  [(bytes "host", .host), (bytes "srflx", .serverReflexive), (bytes "prflx", .peerReflexive),
    (bytes "relay", .relayed)]

/-- `TcpTypeMap`. -/
def tcpTypeMap : List (Text × TransportType) :=
  [(bytes "active", .tcpActive), (bytes "passive", .tcpPassive), (bytes "so", .tcpSo)]

/-- `type`, which is set together with the type string. -/
def type (c : Candidate) : CandidateType := (typeMap.lookup c.mTypeString).getD .unknown

/-- The TCP type, behind the word `tcptype` in the tail. -/
def tcpType (mTail : Text) : Option TransportType := do
  let (key, tail) ← word mTail
  let (value, _) ← word tail
  if key = bytes "tcptype" then tcpTypeMap.lookup value else none

/-- `transportType`, which is set together with the transport and the tail. -/
def transportType (c : Candidate) : TransportType :=
  if c.mTransportString = bytes "UDP" ∨ c.mTransportString = bytes "udp" then .udp
  else if c.mTransportString = bytes "TCP" ∨ c.mTransportString = bytes "tcp" then
    (tcpType c.mTail).getD .tcpUnknown
  else .unknown

/-- `operator==`. -/
def same (c other : Candidate) : Bool :=
  c.mFoundation = other.mFoundation ∧ c.mService = other.mService ∧ c.mNode = other.mNode

/-- The node and the service that are printed. -/
def address (c : Candidate) : Text :=
  match c.resolution with
  | some resolution => resolution.mAddress ++ space :: toString resolution.mPort.toNat
  | none => c.mNode ++ space :: c.mService

/-- The tail, behind a space, if there is one. -/
def tailText (c : Candidate) : Text := if c.mTail = [] then [] else space :: c.mTail

/-- `candidate`, without its prefix. -/
def fields (c : Candidate) : Text :=
  c.mFoundation ++ space :: (toString c.mComponent.toNat ++ space :: (c.mTransportString ++
    space :: (toString c.mPriority.toNat ++ space :: (c.address ++ space :: (bytes "typ" ++
      space :: (c.mTypeString ++ c.tailText))))))

/-- `candidate`. -/
def candidate (c : Candidate) : Text := bytes "candidate:" ++ c.fields

/-- `operator string`. -/
def line (c : Candidate) : Text := bytes "a=" ++ c.candidate

/-- The rest of the line behind the fields, trimmed. -/
def readTail (stream : Text) : Text := trimEnd (trimBegin (before lf stream))

/-- The fields of a candidate, or nothing. -/
def readFields (stream : Text) : Option Candidate := do
  let (mFoundation, stream) ← word stream
  let (component, stream) ← readUnsigned (2 ^ 32) stream
  let (mTransportString, stream) ← word stream
  let (priority, stream) ← readUnsigned (2 ^ 32) stream
  let (mNode, stream) ← word stream
  let (mService, stream) ← word stream
  let (typ, stream) ← word stream
  let (mTypeString, stream) ← word stream
  if typ = bytes "typ" then
    some
      { mFoundation, mComponent := .ofNat component, mTransportString
        mPriority := .ofNat priority, mNode, mService, mTypeString, mTail := readTail stream }
  else none

/-- Erase a prefix. -/
def erasePrefix (str pre : Text) : Text := if matchPrefix str pre then str.drop pre.length else str

/-- `parse`. -/
def parse (candidate : Text) : Except Exception Candidate :=
  match readFields (erasePrefix (erasePrefix candidate (bytes "a=")) (bytes "candidate:")) with
  | some c => .ok c
  | none => .error (.invalidArgument "Invalid candidate format")

/-- The constructor. -/
def ofText (candidate : Text) : Except Exception Candidate :=
  if candidate = [] then .ok {} else parse candidate

/-- The fields are words, the tail is trimmed, and the candidate is not resolved. -/
structure WellFormed (c : Candidate) : Prop where
  foundation : IsWord c.mFoundation
  transport : IsWord c.mTransportString
  node : IsWord c.mNode
  service : IsWord c.mService
  type : IsWord c.mTypeString
  tail : c.mTail ≠ [] → IsLine c.mTail
  tail_head : ∀ b ∈ c.mTail.head?, isSpace b = false
  unresolved : c.resolution = none

/-- The fields of two candidates are the same. -/
structure SameFields (c other : Candidate) : Prop where
  foundation : c.mFoundation = other.mFoundation
  component : c.mComponent = other.mComponent
  transport : c.mTransportString = other.mTransportString
  priority : c.mPriority = other.mPriority
  node : c.mNode = other.mNode
  service : c.mService = other.mService
  type : c.mTypeString = other.mTypeString
  tail : c.mTail = other.mTail

/-! ## What is parsed is well formed -/

theorem readTail_isLine (stream : Text) :
    (readTail stream ≠ [] → IsLine (readTail stream)) ∧
      ∀ b ∈ (readTail stream).head?, isSpace b = false := by
  have hpre : readTail stream <+: trimBegin (before lf stream) := List.rdropWhile_prefix _ _
  refine ⟨fun hne => ⟨hne, fun hmem => ?_, fun b hb => ?_⟩, fun b hb => ?_⟩
  · exact notMem_before lf stream ((List.dropWhile_sublist _).subset (hpre.subset hmem))
  · rw [List.getLast?_eq_getLast_of_ne_nil hne] at hb
    obtain rfl := Option.some.inj hb
    exact Bool.eq_false_of_not_eq_true (List.rdropWhile_last_not _ _ hne)
  · have hhead : b ∈ (trimBegin (before lf stream)).head? := by
      obtain ⟨rest, hrest⟩ := hpre
      rw [← hrest]
      exact List.mem_head?_append_of_mem_head? hb
    have hnot := List.head?_dropWhile_not isSpace (before lf stream)
    rw [← trimBegin, Option.mem_def.1 hhead] at hnot
    exact hnot

theorem wellFormed_readFields {stream : Text} {c : Candidate} (h : readFields stream = some c) :
    c.WellFormed := by
  simp only [readFields, Option.bind_eq_bind, Option.bind_eq_some_iff, Prod.exists] at h
  obtain ⟨_, _, hfoundation, _, _, -, _, _, htransport, _, _, -, _, _, hnode, _, _, hservice, _, _,
    -, _, rest, htype, h⟩ := h
  split_ifs at h
  obtain rfl := Option.some.inj h
  obtain ⟨htail, hhead⟩ := readTail_isLine rest
  exact ⟨isWord_of_word hfoundation, isWord_of_word htransport, isWord_of_word hnode,
    isWord_of_word hservice, isWord_of_word htype, htail, hhead, rfl⟩

theorem wellFormed_default : WellFormed {} where
  foundation := ⟨by decide, forall_mem_of_all (by decide)⟩
  transport := ⟨by decide, forall_mem_of_all (by decide)⟩
  node := ⟨by decide, forall_mem_of_all (by decide)⟩
  service := ⟨by decide, forall_mem_of_all (by decide)⟩
  type := ⟨by decide, forall_mem_of_all (by decide)⟩
  tail hne := absurd rfl hne
  tail_head b hb := by cases hb
  unresolved := rfl

theorem wellFormed_parse {candidate : Text} {c : Candidate} (h : parse candidate = .ok c) :
    c.WellFormed := by
  rw [parse] at h
  split at h
  case h_1 c' hread =>
    obtain rfl := Except.ok.inj h
    exact wellFormed_readFields hread
  case h_2 => cases h

/-- What the constructor accepts is well formed. -/
theorem wellFormed_ofText {candidate : Text} {c : Candidate} (h : ofText candidate = .ok c) :
    c.WellFormed := by
  rw [ofText] at h
  split_ifs at h
  · obtain rfl := Except.ok.inj h
    exact wellFormed_default
  · exact wellFormed_parse h

/-! ## What is printed is parsed -/

variable {c : Candidate}

/-- The tail is what is left behind the type. -/
theorem readTail_tailText (h : c.WellFormed) : readTail c.tailText = c.mTail := by
  by_cases hnil : c.mTail = []
  · rw [tailText, if_pos hnil, hnil]
    rfl
  · have hlf : lf ∉ space :: c.mTail := by
      rw [List.mem_cons, not_or]
      exact ⟨by decide, (h.tail hnil).lf_notMem⟩
    have hbegin : trimBegin (space :: c.mTail) = c.mTail := by
      obtain ⟨b, tail, htail⟩ := List.exists_cons_of_ne_nil hnil
      have hb : isSpace b = false := h.tail_head b (by rw [htail]; rfl)
      have hspace : isSpace space = true := by decide
      rw [htail, trimBegin, List.dropWhile_cons, if_pos hspace, List.dropWhile_cons,
        if_neg (by simp [hb])]
    rw [tailText, if_neg hnil, readTail, before_of_notMem hlf, hbegin,
      trimEnd_of_isLine (h.tail hnil)]

theorem atSpace_tailText (c : Candidate) : AtSpace c.tailText := by
  rw [tailText]
  split_ifs
  · exact atSpace_nil
  · exact atSpace_space _

theorem isWord_typ : IsWord (bytes "typ") := ⟨by decide, forall_mem_of_all (by decide)⟩

/-- The fields are read in their order. -/
theorem readFields_fields (h : c.WellFormed) : readFields c.fields = some c := by
  have hcomponent : c.mComponent.toNat < 2 ^ 32 := c.mComponent.toNat_lt
  have hpriority : c.mPriority.toNat < 2 ^ 32 := c.mPriority.toNat_lt
  have haddress : c.address = c.mNode ++ space :: c.mService := by
    rw [address, h.unresolved]
  simp only [fields, haddress, readFields, Option.bind_eq_bind, Option.bind_some,
    List.append_assoc, List.cons_append, word_append h.foundation (atSpace_space _),
    readUnsigned_space, readUnsigned_toString hcomponent (noDigit_space _),
    word_space_append h.transport (atSpace_space _),
    readUnsigned_toString hpriority (noDigit_space _),
    word_space_append h.node (atSpace_space _), word_space_append h.service (atSpace_space _),
    word_space_append isWord_typ (atSpace_space _),
    word_space_append h.type (atSpace_tailText c), readTail_tailText h, if_true,
    UInt32.ofNat_toNat, Option.some.injEq]
  exact congrArg (fun resolution => { c with resolution }) h.unresolved.symm

/-- Only the prefix that is printed is erased, whatever the foundation starts with. -/
theorem parse_candidate (h : c.WellFormed) : parse c.candidate = .ok c := by
  have hfirst : erasePrefix c.candidate (bytes "a=") = c.candidate := rfl
  have hsecond : erasePrefix c.candidate (bytes "candidate:") = c.fields := rfl
  rw [parse, hfirst, hsecond, readFields_fields h]

/-- Parsing the text of an unresolved candidate gives the candidate back. -/
theorem ofText_candidate (h : c.WellFormed) : ofText c.candidate = .ok c := by
  have hne : c.candidate ≠ [] := List.append_ne_nil_of_left_ne_nil (by decide) _
  rw [ofText, if_neg hne, parse_candidate h]

/-- Parsing the text of what was parsed gives a candidate with the same fields, the same types and
the same text. -/
theorem parse_candidate_of_parse {text : Text} {c : Candidate} (h : parse text = .ok c) :
    c.isResolved = false ∧ ∃ c', parse c.candidate = .ok c' ∧ SameFields c' c ∧
      c'.type = c.type ∧ c'.transportType = c.transportType ∧ c'.candidate = c.candidate := by
  -- the text is made of words and a trimmed tail, which are read as they were printed
  have hwell : c.WellFormed := wellFormed_parse h
  have hunresolved : c.isResolved = false := by
    rw [isResolved, hwell.unresolved]
    rfl
  refine ⟨hunresolved, c, parse_candidate hwell, ?_, rfl, rfl, rfl⟩
  constructor <;> rfl

/-- A line with other white space, an explicit sign and a TCP type. -/
theorem parse_candidate_of_parse_tcp :
    ∃ c, parse (bytes "a=candidate:1  1\tTCP +2122317823 192.168.1.1 9 typ host  tcptype so ") =
        .ok c ∧ c.transportType = .tcpSo ∧ c.isResolved = false ∧
      ∃ c', parse c.candidate = .ok c' ∧ SameFields c' c ∧
        c'.type = c.type ∧ c'.transportType = c.transportType ∧ c'.candidate = c.candidate := by
  have hparse : parse
      (bytes "a=candidate:1  1\tTCP +2122317823 192.168.1.1 9 typ host  tcptype so ") =
      .ok { mFoundation := bytes "1", mComponent := 1, mTransportString := bytes "TCP"
            mPriority := 2122317823, mNode := bytes "192.168.1.1", mService := bytes "9"
            mTypeString := bytes "host", mTail := bytes "tcptype so" } := rfl
  exact ⟨_, hparse, rfl, parse_candidate_of_parse hparse⟩

/-- The line of a candidate is not trimmed. -/
theorem isLine_line (h : c.WellFormed) : IsLine c.line := by
  have hend : IsLine (c.mTypeString ++ c.tailText) := by
    by_cases hnil : c.mTail = []
    · rw [tailText, if_pos hnil, List.append_nil]
      exact h.type.isLine
    · rw [tailText, if_neg hnil]
      exact (h.tail hnil).append_cons h.type.lf_notMem (by decide)
  have haddress : lf ∉ c.address := by
    rw [address, h.unresolved]
    simpa using ⟨h.node.lf_notMem, by decide, h.service.lf_notMem⟩
  have hfields : IsLine c.fields := by
    refine IsLine.append_cons h.foundation.lf_notMem (by decide) ?_
    refine IsLine.append_cons (isWord_toString _).lf_notMem (by decide) ?_
    refine IsLine.append_cons h.transport.lf_notMem (by decide) ?_
    refine IsLine.append_cons (isWord_toString _).lf_notMem (by decide) ?_
    refine IsLine.append_cons haddress (by decide) ?_
    exact hend.append_cons isWord_typ.lf_notMem (by decide)
  exact (hfields.append (by decide)).append (by decide)

end Candidate

end Sdp

end Rtc
