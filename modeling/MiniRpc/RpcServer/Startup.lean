import MiniRpc.RpcServer.Step
import MiniRpc.TaskThreadPool.Startup

/-!
# A server whose worker pool could not be started

`start` starts the worker pool before it sets the status.  When the pool cannot create its threads
the exception passes through `start`: the server counts as not started and may be started again, but
its pool has stopped for good.  `machine cfg` is the server from there on.
-/

namespace MiniRpc.RpcServer.Startup

/-- `start` when the pool throws; nobody else has access to the pool yet, so its `catch` block runs
to the end before anything else happens (`TaskThreadPool.Startup.pool_of_threw`). -/
def startThrows (s : State) : State :=
  if s.status_ ≠ .kNotStarted then s
  else { s with taskPool_ := s.taskPool_.map TaskThreadPool.afterThrow }

/-- A new server after a call of `start` that has thrown. -/
def machine (cfg : Config) : Machine State Action := ⟨startThrows (.init cfg), step cfg⟩

end MiniRpc.RpcServer.Startup
