import Mathlib.Data.Nat.Notation

/-!
# TCP connections

What the endpoints see of a connection: it comes up, at some time stops being connected, and its
close is reported later.  This end begins to close it, or the peer or the network does; frames may
still arrive until the close is reported.
-/

namespace MiniRpc

/-- The identity of a `TcpConnection`. -/
abbrev ConnId := ℕ

inductive ConnectionState
  /-- Not accepted yet. -/
  | kNew
  | kUp
  /-- Its close has been reported. -/
  | kDown
  deriving DecidableEq, Repr

structure Connection where
  state : ConnectionState
  /-- What `connected()` returns. -/
  connected : Bool
  /-- Whether it has begun to close. -/
  closing : Bool
  deriving DecidableEq, Repr

namespace Connection

/-- A connection that has not been accepted. -/
def new : Connection := ⟨.kNew, false, false⟩

/-- The connection is accepted. -/
def up (c : Connection) : Connection := { c with state := .kUp, connected := true }

/-- A connection whose close has been reported. -/
def down : Connection := ⟨.kDown, false, true⟩

/-- The connection begins to close; it may still be connected. -/
def close (c : Connection) : Connection := { c with closing := true }

/-- The connection is not connected any more. -/
def lose (c : Connection) : Connection := { c with connected := false, closing := true }

end Connection

end MiniRpc
