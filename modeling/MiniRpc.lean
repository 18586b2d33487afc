import MiniRpc.Channel.Basic
import MiniRpc.Machine.Basic
import MiniRpc.Finmap.Basic
import MiniRpc.TokenMap.Basic
import MiniRpc.EventLoop.Basic
import MiniRpc.Bytes.Endian
import MiniRpc.Bytes.Cursor
import MiniRpc.Bytes.Bounds
import MiniRpc.Bytes.Delimited
import MiniRpc.RpcMessage.Basic
import MiniRpc.RpcMessage.Equiv.RoundTrip
import MiniRpc.RpcMessage.Equiv.Exact
import MiniRpc.RpcMessage.Equiv.Atomic
import MiniRpc.RpcMessage.Equiv.Bounds
import MiniRpc.TcpConnection.Basic
import MiniRpc.RpcClient.Basic
import MiniRpc.RpcClient.Operations
import MiniRpc.RpcClient.Step
import MiniRpc.RpcClient.Equiv.Transition
import MiniRpc.RpcClient.Equiv.Loops
import MiniRpc.RpcClient.Equiv.Decompose
import MiniRpc.RpcClient.Equiv.Taken
import MiniRpc.RpcClient.Equiv.Ledger
import MiniRpc.RpcClient.Equiv.Phase
import MiniRpc.RpcClient.Equiv.Budget
import MiniRpc.RpcClient.Equiv.Timers
import MiniRpc.RpcClient.Equiv.Sent
import MiniRpc.RpcClient.Equiv.Traffic
import MiniRpc.RpcClient.Equiv.Ignored
import MiniRpc.RpcClient.Equiv.Frames
import MiniRpc.RpcClient.Equiv.WellFormed
import MiniRpc.RpcClient.Equiv.Outstanding
import MiniRpc.RpcClient.Equiv.Completions
import MiniRpc.RpcClient.Equiv.Capacity
import MiniRpc.RpcClient.Equiv.Attempts
import MiniRpc.RpcClient.Equiv.Clock
import MiniRpc.RpcClient.Equiv.Lifetime
import MiniRpc.RpcClient.Destruction
import MiniRpc.RpcClient.Equiv.Destruction
import MiniRpc.TaskThreadPool.Basic
import MiniRpc.TaskThreadPool.Step
import MiniRpc.TaskThreadPool.Equiv.Sound
import MiniRpc.TaskThreadPool.Equiv.Drain
import MiniRpc.TaskThreadPool.Threads
import MiniRpc.TaskThreadPool.Equiv.Stop
import MiniRpc.TaskThreadPool.Condition
import MiniRpc.TaskThreadPool.Equiv.Wakeup
import MiniRpc.TaskThreadPool.Equiv.Termination
import MiniRpc.TaskThreadPool.Startup
import MiniRpc.TaskThreadPool.Equiv.Startup
import MiniRpc.RpcServer.CancellationRegistry
import MiniRpc.RpcServer.Equiv.Registry
import MiniRpc.RpcServer.Basic
import MiniRpc.RpcServer.Operations
import MiniRpc.RpcServer.Step
import MiniRpc.RpcServer.Equiv.Transition
import MiniRpc.RpcServer.Equiv.Decompose
import MiniRpc.RpcServer.Equiv.Accounts
import MiniRpc.RpcServer.Equiv.Once
import MiniRpc.RpcServer.Equiv.Invocations
import MiniRpc.RpcServer.Equiv.Served
import MiniRpc.RpcServer.Equiv.Executed
import MiniRpc.RpcServer.Equiv.Replies
import MiniRpc.System.Basic
import MiniRpc.System.Equiv.Limits
import MiniRpc.RpcClient.Equiv.Queue
import MiniRpc.RpcClient.Equiv.Cancel
import MiniRpc.RpcClient.Equiv.Work
import MiniRpc.Machine.History
import MiniRpc.Machine.Progress
import MiniRpc.Machine.Refinement
import MiniRpc.RpcServer.Equiv.Control
import MiniRpc.RpcServer.Equiv.Shutdown
import MiniRpc.RpcServer.Equiv.Results
import MiniRpc.RpcServer.Equiv.Session
import MiniRpc.RpcServer.Equiv.Confined
import MiniRpc.RpcServer.Equiv.View
import MiniRpc.RpcServer.Equiv.Projection
import MiniRpc.RpcServer.Equiv.Isolation
import MiniRpc.RpcServer.Equiv.Traffic
import MiniRpc.RpcServer.Equiv.Answers
import MiniRpc.RpcServer.Equiv.Revoked
import MiniRpc.RpcServer.Equiv.Closes
import MiniRpc.RpcServer.Equiv.Slots
import MiniRpc.RpcServer.Equiv.Work
import MiniRpc.RpcServer.Equiv.Completion
import MiniRpc.RpcServer.Startup
import MiniRpc.RpcServer.Equiv.Startup
import MiniRpc.RpcServer.Equiv.Dispatch
import MiniRpc.RpcServer.Registrations
import MiniRpc.RpcServer.Equiv.Registrations
import MiniRpc.System.Equiv.Flow
import MiniRpc.System.Equiv.Conservation
import MiniRpc.System.Equiv.EndToEnd
import MiniRpc.System.Equiv.Executions
import MiniRpc.System.Equiv.Cancellations
import MiniRpc.System.Equiv.Compatibility
import MiniRpc.System.Equiv.Progress
import MiniRpc.System.Equiv.Quiescence
import MiniRpc.Calculator.Basic
import MiniRpc.Calculator.Equiv.Add
import MiniRpc.Calculator.Equiv.Answered
