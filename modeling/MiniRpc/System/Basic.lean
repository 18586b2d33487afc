import MiniRpc.RpcClient.Step
import MiniRpc.RpcServer.Step

/-!
# A client and a server

One client and one server over the connections of the client.  The frames in flight are those that
one end has handed to its codec and the network has not taken yet; on each connection they arrive in
the order in which they were sent, as long as the other end still takes frames from the connection.
They may be lost once one end has begun to close the connection.

The server may have other connections; nothing arrives on them.
-/

namespace MiniRpc.System

structure State where
  client : RpcClient.State
  server : RpcServer.State

namespace State

def init (serverConfig : RpcServer.Config) : State := ⟨.init, .init serverConfig⟩

/-- Neither end has begun to close the connection. -/
def Open (s : State) (c : ConnId) : Prop :=
  s.client.tcpClient_.Open c ∧ (s.server.connections c).closing = false

instance (s : State) (c : ConnId) : Decidable (s.Open c) := inferInstanceAs (Decidable (_ ∧ _))

end State

inductive Action
  /-- A step of the client. -/
  | client (action : RpcClient.Action)
  /-- A step of the server. -/
  | server (action : RpcServer.Action)
  /-- The oldest frame for the server arrives; `outcome` is what a synchronous handler returns. -/
  | toServer (conn : ConnId) (outcome : Option RpcServer.RpcResult)
  /-- The oldest frame for the client arrives. -/
  | toClient (conn : ConnId)
  /-- The oldest frame for the server is lost. -/
  | loseToServer (conn : ConnId)
  /-- The oldest frame for the client is lost. -/
  | loseToClient (conn : ConnId)
  deriving DecidableEq, Repr

variable (clientConfig : RpcClient.Config) (serverConfig : RpcServer.Config)

def step (s : State) : Action → Option State
  | .client action =>
    if action.isNetwork then none
    else (RpcClient.step clientConfig s.client action).map fun client => { s with client := client }
  | .server action =>
    if action.isNetwork then none
    else (RpcServer.step serverConfig s.server action).map fun server => { s with server := server }
  | .toServer conn outcome => do
    let frame ← s.client.outbox.first conn
    let client ← RpcClient.step clientConfig s.client (.transmit conn)
    let server ← RpcServer.step serverConfig s.server (.deliver conn frame outcome)
    return ⟨client, server⟩
  | .toClient conn =>
    if s.client.tcpClient_.current = some conn then do
      let frame ← s.server.outbox.first conn
      let server ← RpcServer.step serverConfig s.server (.transmit conn)
      let client ← RpcClient.step clientConfig s.client (.deliver frame)
      return ⟨client, server⟩
    else none
  | .loseToServer conn =>
    if s.Open conn then none
    else (RpcClient.step clientConfig s.client (.transmit conn)).map fun client =>
      { s with client := client }
  | .loseToClient conn =>
    if s.Open conn then none
    else (RpcServer.step serverConfig s.server (.transmit conn)).map fun server =>
      { s with server := server }

/-- The client and the server as one machine. -/
def machine : Machine State Action := ⟨.init serverConfig, step clientConfig serverConfig⟩

end MiniRpc.System
