import MiniRpc.RpcClient.Equiv.Attempts
import MiniRpc.RpcServer.Equiv.Executed
import MiniRpc.System.Equiv.EndToEnd

/-!
# How often a call is executed

A call is executed as often as it was sent at most, since each `Request` frame that arrives was sent
on its connection (`arrivals_le_attempts`) and invokes one handler at most: once on a connection,
once in all if it is not to be resent, and never if the client rejected it
(`executionsBounded_of_reachable`).
-/

namespace MiniRpc.System

open RpcClient (callRequest attempts)

variable {clientConfig : RpcClient.Config} {serverConfig : RpcServer.Config} {s : State}
  {id : UInt64} {a : RpcClient.CallArgs}

/-- The number of invocations of handlers for the `Request` frames with an id. -/
def executions (s : State) (id : UInt64) : ℕ :=
  RpcServer.invoked (fun _ _ request => request.requestId_ = id) s.server.trace

/-- The connection on which an event brings a `Request` frame with the id. -/
def arrival? (id : UInt64) : RpcServer.Event → Option ConnId
  | .requestReceived _ conn request => if request.requestId_ = id then some conn else none
  | _ => none

/-- The connections on which `Request` frames with the id arrived, the latest first. -/
def arrivals (s : State) (id : UInt64) : List ConnId := s.server.trace.filterMap (arrival? id)

theorem length_arrivals (s : State) (id : UInt64) : (arrivals s id).length =
    RpcServer.received (fun _ _ request => request.requestId_ = id) s.server.trace := by
  unfold arrivals RpcServer.received
  rw [List.length_filterMap_eq_countP]
  apply List.countP_congr
  intro e _
  cases e with
  | requestReceived frame conn request =>
    by_cases hid : request.requestId_ = id <;> simp [arrival?, hid]
  | _ => simp [arrival?]

theorem count_arrivals (s : State) (id : UInt64) (conn : ConnId) :
    (arrivals s id).count conn = RpcServer.requests s.server.trace conn id := by
  unfold arrivals RpcServer.requests RpcServer.received
  rw [List.count, List.countP_filterMap]
  apply List.countP_congr
  intro e _
  cases e with
  | requestReceived frame c request =>
    by_cases hid : request.requestId_ = id <;> simp [arrival?, hid]
  | _ => simp [arrival?]

/-- What arrived was sent on its connection. -/
theorem Flow.arrivals_subperm (h : Flow s) (id : UInt64) :
    (arrivals s id).Subperm (attempts s.client.trace id) := by
  rw [List.subperm_ext_iff]
  intro conn _
  rw [count_arrivals, RpcClient.count_attempts]
  exact (Nat.le_add_right _ _).trans (h.requests_le conn id)

/-- A call is executed no more often than it was sent. -/
theorem executions_le_attempts (h : (machine clientConfig serverConfig).Reachable s)
    (id : UInt64) : executions s id ≤ (attempts s.client.trace id).length := by
  obtain ⟨-, hserver⟩ := ends_of_reachable h
  calc executions s id
    _ ≤ (arrivals s id).length := by
      rw [length_arrivals]
      exact RpcServer.invoked_le_received _ hserver
    _ ≤ (attempts s.client.trace id).length :=
      ((flow_of_reachable h).arrivals_subperm id).length_le

/-- What the server executes for the client.

Every invocation is for a call of the client, with the arguments of the call and the handler that is
registered for its method (`carries`).  A call is executed once on a connection (`perConnection`),
as often as its resends allow (`bounded`), once if it is not to be resent (`atMostOnce`), and never
if its callback reports that it was rejected (`rejected`); it was executed if its callback reports a
success (`succeeded`). -/
structure ExecutionsBounded (clientConfig : RpcClient.Config) (serverConfig : RpcServer.Config)
    (s : State) : Prop where
  carries : ∀ frame conn request handler,
    .invoked frame conn request handler ∈ s.server.trace →
      ∃ a, (request.requestId_, a) ∈ s.client.calls ∧
        request = callRequest request.requestId_ a ∧
        serverConfig.Registered a.service a.method handler
  perConnection : ∀ conn id,
    RpcServer.invoked (RpcServer.isRequest conn id) s.server.trace ≤ 1
  bounded : ∀ id a, (id, a) ∈ s.client.calls →
    executions s id ≤ 1 + (clientConfig.resendLimit a).toNat
  atMostOnce : ∀ id a, (id, a) ∈ s.client.calls →
    a.allowReconnect = false ∨ clientConfig.resendLimit a = 0 → executions s id ≤ 1
  rejected : ∀ c ∈ s.client.takenCallbacks, c.cause = .rejected → executions s c.requestId = 0
  succeeded : ∀ c ∈ s.client.takenCallbacks, c.response.responseResult_ = kSuccess →
    0 < executions s c.requestId

/-- The accepted call with an id is the call with the id. -/
theorem attempts_bound (h : (machine clientConfig serverConfig).Reachable s)
    (hcalls : s.client.nextRequestId_ ≤ 2 ^ 64) (hcall : (id, a) ∈ s.client.calls) {n : ℕ}
    (hn : RpcClient.acceptedCall s.client.trace id = some a →
      (attempts s.client.trace id).length ≤ n) :
    executions s id ≤ n := by
  obtain ⟨hclient, -⟩ := ends_of_reachable h
  have hle := executions_le_attempts h id
  have hattempts := RpcClient.attempts_of_reachable hclient hcalls
  cases ha : RpcClient.acceptedCall s.client.trace id with
  | none =>
    rw [hattempts.counted.unaccepted id ha] at hle
    exact hle.trans (Nat.zero_le n)
  | some b =>
    have hb := RpcClient.accepted_mem_calls hclient ha
    obtain rfl := (RpcClient.callsUnique_of_reachable hclient hcalls).eq_of_mem hb hcall
    exact hle.trans (hn ha)

/-- **A call is executed as often as its resends allow**, whatever the order of the calls, the
cancels, the timeouts, the lost connections, the frames on their way, the steps of the workers and
the replies. -/
theorem executionsBounded_of_reachable (h : (machine clientConfig serverConfig).Reachable s)
    (hcalls : s.client.nextRequestId_ ≤ 2 ^ 64) :
    ExecutionsBounded clientConfig serverConfig s := by
  obtain ⟨hclient, hserver⟩ := ends_of_reachable h
  have hflow := flow_of_reachable h
  have hexecuted := RpcServer.executed_of_reachable hserver
  have hattempts := RpcClient.attempts_of_reachable hclient hcalls
  constructor
  case carries =>
    intro frame conn request handler hmem
    obtain ⟨a, hcall, hrequest⟩ :=
      hflow.calls _ _ _ (hexecuted.received frame conn request handler hmem)
    have hregistered := hexecuted.registered frame conn request handler hmem
    rw [hrequest] at hregistered
    exact ⟨a, hcall, hrequest, hregistered⟩
  case perConnection =>
    intro conn id
    have hinvoked := RpcServer.invoked_le_received (RpcServer.isRequest conn id) hserver
    have hreceived := hflow.requests_le conn id
    have honce := hattempts.connections.sent.once conn id
    exact hinvoked.trans ((Nat.le_add_right _ _).trans (hreceived.trans honce))
  case bounded =>
    intro id a hcall
    exact attempts_bound h hcalls hcall hattempts.length_le
  case atMostOnce =>
    intro id a hcall hnone
    exact attempts_bound h hcalls hcall fun ha => (hattempts.length_eq_one ha hnone).le
  case rejected =>
    intro c hc hcause
    have hle := executions_le_attempts h c.requestId
    rw [hattempts.rejected c hc hcause] at hle
    exact Nat.le_zero.mp hle
  case succeeded =>
    intro c hc hsuccess
    obtain ⟨conn, hreceived⟩ := RpcClient.successesReceived_of_reachable hclient c hc hsuccess
    obtain ⟨b, frame, handler, result, hserved⟩ :=
      servedCall_of_received h hcalls hreceived hsuccess
    obtain ⟨hid, -⟩ := (RpcClient.provenance_of_reachable hclient).taken c hc
    rw [hid] at hserved
    exact List.countP_pos_iff.mpr ⟨_, hserved.served.invoked, decide_eq_true rfl⟩

/-! ### A run -/

/-- A call that may be resent once. -/
def resentCall : RpcClient.CallArgs := { asyncCall with allowReconnect := true }

/-- The call is executed, its connection is lost before the reply, and it is resent and executed
again. -/
def executedTwice : List Action := [.server .start, .client .connectionUp,
  .server (.connectionUp 0), .client .leaveUser, .client (.resume []), .client (.resume []),
  .client .enterUser, .client (.call resentCall), .client .leaveUser, .toServer 0 none,
  .server (.submit 0), .server (.handlerReturns 0), .client (.connectionDown [1]),
  .client (.resume []), .client (.resume []), .client .leaveUser, .client .connectionUp,
  .server (.connectionUp 1), .client .leaveUser, .client (.resume [1]), .client (.resume []),
  .client (.resume []), .toServer 1 none, .server (.submit 0)]

theorem executionsBounded_executedTwice :
    let s := (machine .default RpcServer.asyncServer).after executedTwice
    executions s 1 = 2 ∧ (RpcClient.Config.default.resendLimit resentCall).toNat = 1 ∧
      ExecutionsBounded .default RpcServer.asyncServer s :=
  ⟨by decide +kernel, rfl, executionsBounded_of_reachable (Machine.reachable_after _)
    (by decide +kernel)⟩

end MiniRpc.System
