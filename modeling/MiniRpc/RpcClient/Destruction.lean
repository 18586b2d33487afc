import MiniRpc.RpcClient.Step

/-!
# The destructor of the client

The client is destroyed by code of the loop thread, when none of its operations is in progress.  The
loop lives on, and with it what other threads have queued there or are about to queue in a call
that has drawn its id.  Whatever the loop runs of the client from then on uses a destroyed object:
`uses` records it.

The timer of the periodic sweep is kept apart from the one-shot timers of the loop: `sweeping` tells
whether it is live.
-/

namespace MiniRpc.RpcClient

def clearPendingRequests (s : State) (order : List UInt64) : State :=
  -- `temp.swap(pendingRequests_)`
  let temp := entries order s.pendingRequests_
  let s := { s with pendingRequests_ := ∅ }
  temp.foldl (fun s item => s.cancelTimer item.2.timerId) s

/-- The destructor, but for the timer of the sweep. -/
def destroy (s : State) (order : List UInt64) : State :=
  clearIgnoredResponseRequests (clearPendingRequests s order)

namespace Destruction

/-- What the loop runs of a client. -/
inductive Use
  | timer (task : TimerTask)
  | task (task : LoopTask)
  | sweep
  deriving DecidableEq, Repr

structure State where
  client : RpcClient.State
  /-- The timer of the sweep is live. -/
  sweeping : Bool
  destroyed : Bool
  /-- The pending requests that the destructor dropped. -/
  dropped : List UInt64
  /-- How many tasks were queued, or about to be queued, when the client was destroyed. -/
  left : ℕ
  /-- What the loop ran of the destroyed client, the latest first. -/
  uses : List Use

def State.init : State := ⟨.init, true, false, [], 0, []⟩

inductive Action
  | act (a : RpcClient.Action)
  /-- The client is destroyed; `order` is that of the iteration over the pending requests. -/
  | destroy (order : List UInt64)
  deriving DecidableEq, Repr

/-- What goes on after the client was destroyed: time passes, threads that were in `call` queue
their tasks, and the loop runs its tasks and timers. -/
def stepDestroyed (s : State) : RpcClient.Action → Option State
  | .tick d => (stepOutside s.client (.tick d)).map fun client => { s with client := client }
  | .queueCall k => (stepOutside s.client (.queueCall k)).map fun client =>
      { s with client := client }
  | .leaveUser =>
    match s.client.stack with
    | .userCode :: rest => some { s with client := { s.client with stack := rest } }
    | _ => none
  | .runTask =>
    match s.client.stack, s.client.loop_.tasks with
    | [], task :: tasks => some { s with
        client := { s.client with loop_ := s.client.loop_.setTasks tasks }
        uses := .task task :: s.uses }
    | _, _ => none
  | .fireTimer t =>
    match s.client.stack, s.client.loop_.fire t with
    | [], some (task, loop) => some { s with
        client := { s.client with loop_ := loop }
        uses := .timer task :: s.uses }
    | _, _ => none
  | .sweep =>
    if s.client.stack = [] ∧ s.sweeping = true then some { s with uses := .sweep :: s.uses }
    else none
  | _ => none

def step (cfg : Config) (s : State) : Action → Option State
  | .act a =>
    if s.destroyed then stepDestroyed s a
    else (RpcClient.step cfg s.client a).map fun client => { s with client := client }
  | .destroy order =>
    if s.destroyed = false ∧ s.client.stack = [.userCode] ∧
        IterationOrder order s.client.pendingRequests_ then some { s with
      client := RpcClient.destroy s.client order
      sweeping := false
      destroyed := true
      dropped := order
      left := s.client.calling.length + s.client.loop_.tasks.length }
    else none

/-- A client that may be destroyed. -/
def machine (cfg : Config) : Machine State Action := ⟨.init, step cfg⟩

end Destruction

end MiniRpc.RpcClient
