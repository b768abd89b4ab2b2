import Mathlib.Data.Nat.Notation

/-!
# Transports

The state of a `Transport` (`impl/transport.hpp`), which the transports of all layers share.
-/

namespace Rtc

/-- `Transport::State`. -/
inductive Transport.State where
  | disconnected
  | connecting
  | connected
  | completed
  | failed
  deriving DecidableEq, Repr

end Rtc
