import MiniRpc.RpcServer.Equiv.Decompose

/-!
# The server keeps to its message size

`sendFramedData` is the only operation that sends.  A result that is too large is replaced by an
error, and where the error is too large as well the connection is closed.
-/

namespace MiniRpc.RpcServer

variable {cfg : Config} {proper network : Prop}

/-- The message an event hands to `codec.send`. -/
def Event.output? : Event → Option Bytes
  | .responded _ _ _ output => some output
  | _ => none

/-- What was sent did fit. -/
structure Limits (maxMessageSize : ℕ) (trace : List Event) (outbox : Channel ConnId Bytes) :
    Prop where
  sent : ∀ e ∈ trace, ∀ frame ∈ e.output?, frame.length ≤ maxMessageSize
  outbox : ∀ item ∈ outbox, item.2.length ≤ maxMessageSize

variable {maxMessageSize : ℕ} {trace : List Event} {outbox : Channel ConnId Bytes}

/-- An event that sends nothing. -/
theorem Limits.emit (h : Limits maxMessageSize trace outbox) {e : Event} (he : e.output? = none) :
    Limits maxMessageSize (e :: trace) outbox where
  sent e' he' frame hframe := by
    rcases List.mem_cons.mp he' with rfl | hold
    · cases he.symm.trans hframe
    · exact h.sent e' hold frame hframe
  outbox := h.outbox

/-- A message that fits is sent. -/
theorem Limits.send (h : Limits maxMessageSize trace outbox) (conn : ConnId) {frame : Bytes}
    {e : Event} (he : e.output? = some frame) (hlen : frame.length ≤ maxMessageSize) :
    Limits maxMessageSize (e :: trace) (outbox ++ [(conn, frame)]) where
  sent e' he' frame' hframe := by
    rcases List.mem_cons.mp he' with rfl | hold
    · cases he.symm.trans hframe
      exact hlen
    · exact h.sent e' hold frame' hframe
  outbox item hitem := by
    rcases List.mem_append.mp hitem with hold | hnew
    · exact h.outbox item hold
    · obtain rfl := List.mem_singleton.mp hnew
      exact hlen

theorem Limits.step {x y : State × Phase}
    (h : Limits cfg.effectiveMaxMessageSize x.1.trace x.1.outbox)
    (ht : Transition cfg proper network x y) :
    Limits cfg.effectiveMaxMessageSize y.1.trace y.1.outbox := by
  cases ht with
  | respond _ _ hlen => exact h.send _ rfl hlen
  | receive | refuseLimit | cancel | cancelNone | startHandler | refuseReplied | workerTake
  | handlerThrows | userReply | down | stopCompleted | close | forceClose => exact h.emit rfl
  | invokeSync | refuse | refuseDuplicate => exact (h.emit rfl).emit rfl
  | transmit conn =>
    exact ⟨h.sent, fun item hitem => h.outbox item (Channel.mem_of_mem_dropFirst hitem)⟩
  | _ => exact h

theorem limits_of_reachable {s : State} (h : (machine cfg).Reachable s) :
    Limits cfg.effectiveMaxMessageSize s.trace s.outbox :=
  invariant (P := fun x => Limits cfg.effectiveMaxMessageSize x.1.trace x.1.outbox)
    ⟨fun _ hmem => (by cases hmem), fun _ hmem => (by cases hmem)⟩ (fun _ _ hP ht => hP.step ht) h

end MiniRpc.RpcServer
