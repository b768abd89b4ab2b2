import Mathlib.Data.Nat.Notation

/-!
# Descriptions

The part of `rtc/description.hpp` that negotiation reads: the type of a session description, its
DTLS role, whether it has ICE credentials and a fingerprint, and its media lines.

A media line is an application line or an audio or video line; of the latter only what
`validateRemoteDescription` looks at is kept.
-/

namespace Rtc

/-- `Description::Type`. -/
inductive Description.Kind where
  | unspec
  | offer
  | answer
  | pranswer
  | rollback
  deriving DecidableEq, Repr

/-- `Description::typeToString`. -/
def Description.Kind.typeToString : Description.Kind → String
  | .unspec => "unspec"
  | .offer => "offer"
  | .answer => "answer"
  | .pranswer => "pranswer"
  | .rollback => "rollback"

/-- `Description::Role`, the setup attribute. -/
inductive Description.Role where
  | actPass
  | passive
  | active
  deriving DecidableEq, Repr

/-- A media line. -/
inductive Description.Entry where
  | application (removed : Bool)
  | media (removed inactive : Bool)
  deriving DecidableEq, Repr

/-- A session description. -/
structure Description where
  type : Description.Kind
  role : Description.Role
  iceUfrag : Bool := true
  icePwd : Bool := true
  fingerprint : Bool := true
  media : List Description.Entry := []
  deriving DecidableEq, Repr

namespace Description

/-- `hintType`. -/
def hintType (d : Description) (type : Kind) : Description :=
  if d.type = .unspec then { d with type } else d

/-- `hasApplication`. -/
def hasApplication (d : Description) : Bool := d.media.contains (.application false)

/-- Whether there is an `application`, also a removed one. -/
def application (d : Description) : Bool :=
  d.media.any fun
    | .application _ => true
    | .media _ _ => false

/-- Whether `validateRemoteDescription` counts a media line as active. -/
def Entry.isActive : Entry → Bool
  | .application removed => !removed
  | .media removed inactive => !removed || !inactive

end Description

end Rtc
