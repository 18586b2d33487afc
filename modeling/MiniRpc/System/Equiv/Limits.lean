import MiniRpc.RpcClient.Equiv.Limits
import MiniRpc.RpcServer.Equiv.Limits

/-!
# No endpoint sends a message above its limit

The two endpoints check the size in different places: the client when a call is accepted, the server
when a result is sent.
-/

namespace MiniRpc

/-- **Every message handed to the codec is within the limit of its endpoint**, in every run of a
client and in every run of a server. -/
theorem sent_within_limit {clientConfig : RpcClient.Config} {serverConfig : RpcServer.Config}
    {client : RpcClient.State} {server : RpcServer.State}
    (hclient : (RpcClient.machine clientConfig).Reachable client)
    (hserver : (RpcServer.machine serverConfig).Reachable server) :
    ((∀ e ∈ client.trace, ∀ frame ∈ e.output?,
        frame.length ≤ clientConfig.effectiveMaxMessageSize) ∧
      ∀ item ∈ client.outbox, item.2.length ≤ clientConfig.effectiveMaxMessageSize) ∧
    ((∀ e ∈ server.trace, ∀ frame ∈ e.output?,
        frame.length ≤ serverConfig.effectiveMaxMessageSize) ∧
      ∀ item ∈ server.outbox, item.2.length ≤ serverConfig.effectiveMaxMessageSize) := by
  have hc := RpcClient.limits_of_reachable hclient
  have hs := RpcServer.limits_of_reachable hserver
  exact ⟨⟨hc.sent, hc.outbox⟩, hs.sent, hs.outbox⟩

/-! ### A run -/

/-- A client that sends at most 30 bytes. -/
def smallClient : RpcClient.Config :=
  { RpcClient.Config.default with
    maxMessageSize_ := some 30
    maxMessageSize_bounds := by simp [kMaxMessageSize] }

/-- A server that sends at most 45 bytes. -/
def smallServer : RpcServer.Config :=
  { RpcServer.Config.ofHandlers ∅ ∅ with
    maxMessageSize_ := some 45
    maxMessageSize_bounds := by simp [kMaxMessageSize] }

/-- A call whose request is resent on a second connection and then cancelled. -/
def resending : List RpcClient.Action := [.connectionUp, .leaveUser, .resume [], .resume [],
  .enterUser, .call ⟨text "s", text "m", text "p", ⟨0⟩, 0, true, 0, none⟩, .leaveUser,
  .connectionDown [1], .resume [], .resume [], .leaveUser, .connectionUp, .leaveUser,
  .resume [1], .resume [], .resume [], .enterUser, .cancel 1]

/-- A request for an unknown method, whose answer does not fit. -/
def refusing : List RpcServer.Action := [.start, .connectionUp 0,
  .deliver 0 (RpcRequest.mk 1 (text "s") (text "m") (text "p")).fields.flatten none]

theorem sent_within_limit_small :
    (((RpcClient.machine smallClient).after resending).outbox.map fun item => item.2.length) =
        [26, 26, 11] ∧
      (((RpcServer.machine smallServer).after refusing).outbox.map fun item => item.2.length) =
        [43] ∧
      (∀ item ∈ ((RpcClient.machine smallClient).after resending).outbox, item.2.length ≤ 30) ∧
      ∀ item ∈ ((RpcServer.machine smallServer).after refusing).outbox, item.2.length ≤ 45 :=
  have h := sent_within_limit
    (Machine.reachable_after (M := RpcClient.machine smallClient) resending)
    (Machine.reachable_after (M := RpcServer.machine smallServer) refusing)
  ⟨by decide +kernel, by decide +kernel, h.1.2, h.2.2⟩

end MiniRpc
