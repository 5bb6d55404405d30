import AddressLeasing.Server.Basic
/-!
# Running the server

The accept loop takes the datagrams queued at the server's socket one at a time, in virtual
time that starts at zero. A datagram that cannot be received or handled is passed over, unless
the error is one the program stops on (`Error.stops`): then the loop ends there. The others may
change the pool and send a reply. Handling takes no time except an offer wait.
The loop never ends by itself: once the queue is empty it waits for the end of the run. A
wait that would end after the run stops it there, with the datagram unanswered and the rest
of the queue untouched.

The expiry sweeper frees, every sweep interval, the leases that have run out by the wall
clock; as long as the clock stands still, every sweep after the first changes nothing.
-/

set_option autoImplicit false

namespace AddressLeasing

/-- What the server's socket delivers. -/
inductive Inbound where
  | datagram (bytes : List UInt8) (source : Endpoint)
  /-- A receive that fails; the loop reports it and goes on. -/
  | failure
  deriving DecidableEq, Inhabited

namespace Server

/-- Runs the accept loop for `runMs` milliseconds over `queue`, at wall-clock time `now`:
the server afterwards and the datagrams it sent, in order. `clock` is the virtual time
already spent. -/
def operateFrom (now : Int) (runMs : Nat) (s : Server) (clock : Nat) :
    List Inbound → Server × List Outbound
  | [] => (s, [])
  | .failure :: rest => operateFrom now runMs s clock rest
  | .datagram bytes source :: rest =>
    match s.handleDatagram now bytes source with
    | .error e => if e.stops then (s, []) else operateFrom now runMs s clock rest
    | .ok (h, out) =>
      match h.waited with
      | none => (s, [])
      | some w =>
        if runMs < clock + w then (s, [])
        else
          let (s', sent) := operateFrom now runMs { s with pool := h.pool } (clock + w) rest
          (s', out.toList ++ sent)

/-- Runs the accept loop for `runMs` milliseconds over `queue`. -/
def operate (s : Server) (now : Int) (runMs : Nat) (queue : List Inbound) :
    Server × List Outbound :=
  operateFrom now runMs s 0 queue

/-- Runs the sweeper for `runMs` milliseconds with the wall clock at `now`: a sweep at once
and one every sweep interval after. -/
def sweepFor (s : Server) (now : Int) (runMs : Nat) : Server :=
  let sweeps := runMs / max 1 s.config.sweepInterval + 1
  (List.range sweeps).foldl (fun s _ => { s with pool := (s.pool.sweepExpired now).1 }) s

end Server

end AddressLeasing
