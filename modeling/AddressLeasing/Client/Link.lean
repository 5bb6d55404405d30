import AddressLeasing.Error
import AddressLeasing.Net.Endpoint
/-!
# Datagram links

The client talks to servers over a link that may lose, repeat, reorder or corrupt datagrams.
A link is a state with two operations: sending a datagram to an endpoint, which may fail, and
waiting for the next datagram until a reply deadline, which ends with a datagram, with the
deadline passing, or with a failure.

A link also counts the datagrams it still holds for the client. Every delivered datagram
lowers that count, so a wait that discards what it receives still ends: a link holds finitely
many datagrams at a time.
-/

set_option autoImplicit false

namespace AddressLeasing

/-- How one wait for a datagram ends. -/
inductive Reception where
  /-- A datagram arrived from `source`. -/
  | datagram (bytes : List UInt8) (source : Endpoint)
  /-- The reply deadline passed first. -/
  | deadline
  /-- The link failed while waiting. -/
  | failure (e : Error)

/-- A datagram link with state `σ`. -/
structure Link (σ : Type) where
  /-- Sends `bytes` to an endpoint. -/
  send : List UInt8 → Endpoint → σ → Except Error Unit × σ
  /-- Waits for the next datagram until the current deadline. -/
  receive : σ → Reception × σ
  /-- How many datagrams the link still holds for the client. -/
  pending : σ → Nat
  /-- Each delivered datagram is one fewer held. -/
  pending_receive : ∀ s bytes source, (receive s).1 = .datagram bytes source →
    pending (receive s).2 < pending s

end AddressLeasing
