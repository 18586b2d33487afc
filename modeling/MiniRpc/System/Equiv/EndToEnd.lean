import MiniRpc.RpcServer.Equiv.View
import MiniRpc.System.Equiv.Conservation

/-!
# A success is the result of the call's own request

A callback that gets a success belongs to a call that the server has served: the response answers
the one `Request` frame with the id of the call on its connection, that frame carries the call, and
the result of its handler is the success (`ServedCall`).
-/

namespace MiniRpc.System

open RpcClient (callRequest)

variable {clientConfig : RpcClient.Config} {serverConfig : RpcServer.Config} {s : State}

/-- A call was served on a connection: the handler that is registered for its method was invoked for
a `Request` frame that carries the call, with a success as its only result, and the response answers
this frame, the only one with its id on the connection. -/
structure ServedCall (cfg : RpcServer.Config) (s : State) (id : UInt64) (a : RpcClient.CallArgs)
    (conn : ConnId) (response : RpcResponse) (frame : FrameId)
    (handler : RpcServer.Handler) (result : RpcServer.RpcResult) : Prop where
  call : (id, a) ∈ s.client.calls
  unique : ∀ b, (id, b) ∈ s.client.calls → b = a
  served : RpcServer.ServedBy cfg s.server.trace conn response.payload_ frame (callRequest id a)
    handler result
  result : ∀ o, .finished frame o ∈ s.server.trace → o = some result
  answered : ∃ origin output, .responded conn id origin output ∈ s.server.trace ∧
    origin.frame = frame ∧ RpcMessage.ofFrame? output = some (.response response)
  only : ∀ n q, .requestReceived n conn q ∈ s.server.trace → q.requestId_ = id → n = frame

/-- At most one `Request` frame with an id arrives on a connection. -/
theorem frame_unique (h : (machine clientConfig serverConfig).Reachable s)
    (hcalls : s.client.nextRequestId_ ≤ 2 ^ 64) {conn : ConnId} {n n' : FrameId}
    {q q' : RpcRequest} (hmem : .requestReceived n conn q ∈ s.server.trace)
    (hmem' : .requestReceived n' conn q' ∈ s.server.trace)
    (hid : q.requestId_ = q'.requestId_) : n = n' := by
  obtain ⟨hclient, -⟩ := ends_of_reachable h
  have honce := (RpcClient.connections_of_reachable hclient hcalls).sent.once conn q'.requestId_
  have hle := (flow_of_reachable h).requests_le conn q'.requestId_
  have hone : RpcServer.requests s.server.trace conn q'.requestId_ ≤ 1 := by omega
  have heq := RpcServer.eq_of_countP_le_one hone hmem hmem' (decide_eq_true ⟨rfl, hid⟩)
    (decide_eq_true ⟨rfl, rfl⟩)
  exact (RpcServer.Event.requestReceived.inj heq).1

/-- A response that was received answers a call that was served, if it is a success. -/
theorem servedCall_of_received (h : (machine clientConfig serverConfig).Reachable s)
    (hcalls : s.client.nextRequestId_ ≤ 2 ^ 64) {conn : ConnId} {response : RpcResponse}
    (hreceived : .received conn response ∈ s.client.trace)
    (hsuccess : response.responseResult_ = kSuccess) :
    ∃ a frame handler result,
      ServedCall serverConfig s response.requestId_ a conn response frame handler result := by
  obtain ⟨hclient, hserver⟩ := ends_of_reachable h
  have hflow := flow_of_reachable h
  have hlaws := RpcServer.laws_of_reachable hserver
  have hunique := RpcClient.callsUnique_of_reachable hclient hcalls
  -- The response is on record at the server, and it is a success of a request with its id.
  obtain ⟨id, origin, output, hresponded, hframe⟩ := hflow.answers conn response hreceived
  obtain ⟨response', hvalid, rfl, rfl, hserved⟩ := hlaws.served.responded _ _ _ _ hresponded
  rw [RpcMessage.ofFrame?_response hvalid] at hframe
  obtain rfl := RpcMessage.response.inj (Option.some.inj hframe)
  obtain ⟨frame, request, handler, result, hid, hserved⟩ := hserved hsuccess
  -- The request is that of a call.
  obtain ⟨a, hcall, hrequest⟩ := hflow.calls _ _ _ hserved.received
  rw [hid] at hcall hrequest
  subst hrequest
  have honly : ∀ n q, .requestReceived n conn q ∈ s.server.trace →
      q.requestId_ = response'.requestId_ → n = frame := fun n q hmem hq =>
    frame_unique h hcalls hmem hserved.received (hq.trans hid.symm)
  refine ⟨a, frame, handler, result, hcall, fun b hb => hunique.eq_of_mem hb hcall, hserved,
    fun o ho => hlaws.results.once _ _ _ ho hserved.finished,
    ⟨origin, _, hresponded, ?_, RpcMessage.ofFrame?_response hvalid⟩, honly⟩
  obtain ⟨q, hmem, hq⟩ := (RpcServer.outgoing_of_reachable hserver).responded _ _ _ _ hresponded
  exact honly _ _ hmem hq

/-- **No cross-talk.** A callback that is invoked with a success belongs to a call that was served,
whatever the calls, cancels, timeouts, lost connections and resends, the order of the replies and
the limits of the server. -/
theorem servedCall_of_reachable (h : (machine clientConfig serverConfig).Reachable s)
    (hcalls : s.client.nextRequestId_ ≤ 2 ^ 64) {c : RpcClient.Completion}
    (hinvoked : .invoked c ∈ s.client.trace) (hsuccess : c.response.responseResult_ = kSuccess) :
    ∃ a conn frame handler result, c.callback = a.cb ∧
      ServedCall serverConfig s c.requestId a conn c.response frame handler result := by
  obtain ⟨hclient, -⟩ := ends_of_reachable h
  have htaken : c ∈ s.client.takenCallbacks :=
    List.mem_append_right _ (List.mem_filterMap.mpr ⟨_, hinvoked, rfl⟩)
  obtain ⟨conn, hreceived⟩ := RpcClient.successesReceived_of_reachable hclient c htaken hsuccess
  obtain ⟨a, frame, handler, result, hserved⟩ :=
    servedCall_of_received h hcalls hreceived hsuccess
  obtain ⟨hid, b, hb, hcallback⟩ := (RpcClient.provenance_of_reachable hclient).taken c htaken
  rw [hid] at hserved
  exact ⟨a, conn, frame, handler, result, hserved.unique b hb ▸ hcallback, hserved⟩

/-! ### A run -/

/-- The response to the first call arrives and its callback is invoked. -/
def finishing : List Action := [.client .leaveUser, .toClient 0, .client (.resume [])]

/-- What the callback gets. -/
def finished : RpcClient.Completion :=
  ⟨1, ⟨7⟩, RpcServer.resultResponse 1 (RpcServer.succeed (text "a")), .response, 0⟩

theorem servedCall_finishing :
    let s := (machine .default RpcServer.asyncServer).after (serving ++ finishing)
    .invoked finished ∈ s.client.trace ∧ ∃ a conn frame handler result, finished.callback = a.cb ∧
      ServedCall RpcServer.asyncServer s finished.requestId a conn finished.response frame handler
        result :=
  have hinvoked : .invoked finished ∈
      ((machine .default RpcServer.asyncServer).after (serving ++ finishing)).client.trace := by
    decide +kernel
  ⟨hinvoked, servedCall_of_reachable (Machine.reachable_after _) (by decide +kernel) hinvoked rfl⟩

end MiniRpc.System
