import MiniRpc.RpcClient.Equiv.Outstanding
import MiniRpc.RpcServer.Equiv.Closes
import MiniRpc.System.Equiv.Cancellations
import MiniRpc.System.Equiv.Limits

/-!
# The two ends understand each other

A client sends requests under fresh ids and cancels only, all within its limit, so a server whose
limit is no smaller never closes a connection by force (`uncut_of_reachable`).

In the other direction every frame in flight on a connection that the client has not begun to close
is a valid response to a request that the client has sent there.  The client takes it or ignores it,
except where the call was given up and its id forgotten a minute later (`understood_of_reachable`).
-/

namespace MiniRpc.System

open RpcClient (requestsSent responsesReceived unanswered)
open RpcServer (Offends OffendsOn forcedCloses Requested)

variable {clientConfig : RpcClient.Config} {serverConfig : RpcServer.Config} {s s' : State}
  {c : ConnId} {frame : Bytes}

/-! ### To the server -/

/-- A request that was received on a connection is counted there. -/
theorem requests_pos {trace : List RpcServer.Event} {i : UInt64} {n : FrameId}
    (h : Requested trace c i n) : 0 < RpcServer.requests trace c i := by
  obtain ⟨q, hmem, hid⟩ := h
  exact List.countP_pos_iff.mpr ⟨_, hmem, decide_eq_true ⟨rfl, hid⟩⟩

/-- What is in flight to the server does not offend there: it is a cancel, or a request under an id
that the server has not seen on the connection. -/
theorem not_offends_of_mem (h : (machine clientConfig serverConfig).Reachable s)
    (hcalls : s.client.nextRequestId_ ≤ 2 ^ 64)
    (hmax : clientConfig.effectiveMaxMessageSize ≤ serverConfig.effectiveMaxMessageSize)
    (hmem : (c, frame) ∈ s.client.outbox) : ¬ Offends serverConfig s.server c frame := by
  obtain ⟨hclient, hserver⟩ := ends_of_reachable h
  have hlen : frame.length ≤ serverConfig.effectiveMaxMessageSize :=
    ((RpcClient.limits_of_reachable hclient).outbox _ hmem).trans hmax
  unfold Offends
  rcases (RpcClient.outgoing_of_reachable hclient).outbox c frame hmem with
    ⟨id, a, -, henc, rfl⟩ | ⟨id, rfl⟩
  · rw [RpcServer.incoming_request henc hlen]
    rintro ⟨-, -, hactive⟩
    obtain ⟨t, hfound⟩ := Option.isSome_iff_exists.mp hactive
    -- the request that is active was received, and this one is another frame under the same id
    have hreceived := requests_pos ((RpcServer.revoked_of_reachable hserver).entry c _ t hfound)
    have hflight : 0 < s.client.outbox.count c (carriesRequest id) :=
      Channel.count_pos_of_mem hmem (by rw [carriesRequest_request henc]; exact decide_eq_true rfl)
    have honce := (RpcClient.connections_of_reachable hclient hcalls).sent.once c id
    have hle := (flow_of_reachable h).requests_le c id
    change 0 < RpcServer.requests s.server.trace c id at hreceived
    omega
  · rw [RpcClient.cancelFrame, RpcServer.incoming_cancel _ hlen]
    exact not_false

/-- The server closes no connection by force. -/
def Uncut (s : State) : Prop := ∀ c, .forceClosed c ∉ s.server.trace

theorem forcedCloses_eq_zero {trace : List RpcServer.Event} :
    forcedCloses trace c = 0 ↔ .forceClosed c ∉ trace := by
  unfold forcedCloses
  rw [List.countP_eq_zero]
  simp only [decide_eq_true_eq]
  exact ⟨fun h hmem => h _ hmem rfl, fun h e he heq => h (heq ▸ he)⟩

/-- **A client never makes its server hang up**, whatever is called, cancelled, lost and resent, if
the limit of the server is no smaller than that of the client and has room for an error. -/
theorem uncut_of_reachable (h : (machine clientConfig serverConfig).Reachable s)
    (hcalls : s.client.nextRequestId_ ≤ 2 ^ 64)
    (hmax : clientConfig.effectiveMaxMessageSize ≤ serverConfig.effectiveMaxMessageSize)
    (hroom : RpcServer.tooLargeLen ≤ serverConfig.effectiveMaxMessageSize) : Uncut s := by
  refine h.invariant (P := fun s => s.client.nextRequestId_ ≤ 2 ^ 64 → Uncut s)
    (fun _ _ hmem => by cases hmem) ?_ hcalls
  intro s a s' hs hold hstep hbound c
  have hmoves := moves_of_step hstep
  have hcalls := (next_le_of_moves hmoves).trans hbound
  have hserver := (ends_of_reachable hs).2
  have hclosed := forcedCloses_eq_zero.mpr (hold hcalls c)
  rw [← forcedCloses_eq_zero, ← hclosed]
  cases hmoves with
  | client | toClient | loseToServer | loseToClient => rfl
  | server haction hserverStep =>
    refine (RpcServer.closesJustly_of_step hroom hserver hserverStep c).spared ?_
    rintro ⟨msg, outcome, rfl, -⟩
    cases haction
  | toServer hfirst hserverStep =>
    refine (RpcServer.closesJustly_of_step hroom hserver hserverStep c).spared ?_
    rintro ⟨msg, outcome, heq, hoffends⟩
    obtain ⟨rfl, rfl, -⟩ := RpcServer.Action.deliver.inj heq
    exact not_offends_of_mem hs hcalls hmax (Channel.mem_of_first hfirst) hoffends

/-! ### To the client -/

/-- The client knows what a frame is. -/
structure Understood (clientConfig : RpcClient.Config) (s : State) (c : ConnId) (frame : Bytes) :
    Prop where
  /-- The frame is a valid response that the client takes or ignores, or the response to a call
  that it gave up and has forgotten. -/
  expected :
    RpcClient.IsAnswer clientConfig s.client frame ∨ RpcClient.IsLate clientConfig s.client frame ∨
      ∃ response, RpcClient.Carries clientConfig frame response ∧
        RpcClient.Forgotten s.client response.requestId_
  /-- Only the response to a forgotten call can make the client close the connection. -/
  harmless :
    (∀ response, RpcClient.Carries clientConfig frame response →
      ¬ RpcClient.Forgotten s.client response.requestId_) →
    (RpcClient.onRpcMessage clientConfig s.client c frame).tcpClient_ = s.client.tcpClient_

theorem Understood.of_expected (h : RpcClient.IsAnswer clientConfig s.client frame ∨
      RpcClient.IsLate clientConfig s.client frame ∨
      ∃ response, RpcClient.Carries clientConfig frame response ∧
        RpcClient.Forgotten s.client response.requestId_) : Understood clientConfig s c frame where
  expected := h
  harmless hnot := by
    refine RpcClient.tcpClient_onRpcMessage (fun hforeign => ?_) c
    obtain ⟨hanswer, hlate⟩ := RpcClient.foreign_iff.mp hforeign
    rcases h with h | h | ⟨response, hcarries, hforgotten⟩
    · exact hanswer h
    · exact hlate h
    · exact hnot response hcarries hforgotten

/-- A response in flight to the client was not received before, and its request was sent. -/
theorem unanswered_of_mem (h : (machine clientConfig serverConfig).Reachable s)
    (hcalls : s.client.nextRequestId_ ≤ 2 ^ 64) {response : RpcResponse} (hvalid : response.Valid)
    (hmem : (c, response.fields.flatten) ∈ s.server.outbox) :
    unanswered s.client.trace c response.requestId_ = true := by
  obtain ⟨hclient, hserver⟩ := ends_of_reachable h
  have hflow := flow_of_reachable h
  have hflight : 0 < s.server.outbox.count c (carriesResponse response.requestId_) :=
    Channel.count_pos_of_mem hmem
      (by rw [carriesResponse_response hvalid]; exact decide_eq_true rfl)
  have hresponses := hflow.responses_le c response.requestId_
  have hanswered := (RpcServer.atMostOnce_of_reachable hserver).responses c response.requestId_
  have hrequests := hflow.requests_le c response.requestId_
  have honce := (RpcClient.connections_of_reachable hclient hcalls).sent.once c response.requestId_
  apply RpcClient.unanswered_of_sent
  · omega
  · omega

/-- **Every frame in flight to a client is understood** on a connection that the client has not
begun to close, if the limit of the client is no smaller than that of the server. -/
theorem understood_of_reachable (h : (machine clientConfig serverConfig).Reachable s)
    (hcalls : s.client.nextRequestId_ ≤ 2 ^ 64)
    (hmax : serverConfig.effectiveMaxMessageSize ≤ clientConfig.effectiveMaxMessageSize)
    (hcurrent : s.client.tcpClient_.current = some c)
    (hclosing : s.client.tcpClient_.closing = false) (hmem : (c, frame) ∈ s.server.outbox) :
    Understood clientConfig s c frame := by
  obtain ⟨hclient, hserver⟩ := ends_of_reachable h
  obtain ⟨id, origin, hresponded⟩ := (RpcServer.outgoing_of_reachable hserver).outbox c frame hmem
  obtain ⟨response, hvalid, -, rfl, -⟩ :=
    (RpcServer.laws_of_reachable hserver).served.responded c id origin frame hresponded
  have hcarries : RpcClient.Carries clientConfig response.fields.flatten response :=
    ⟨((RpcServer.limits_of_reachable hserver).outbox _ hmem).trans hmax,
      RpcMessage.encode_response.mpr ⟨hvalid, rfl⟩⟩
  have hunanswered := unanswered_of_mem h hcalls hvalid hmem
  rcases RpcClient.expects_of_unanswered hclient hcalls hcurrent hclosing hunanswered with
    hpending | ⟨hnot, hignored⟩ | hforgotten
  · exact .of_expected (.inl ⟨response, hcarries, hpending⟩)
  · exact .of_expected (.inr (.inl ⟨response, hcarries, hnot, hignored⟩))
  · exact .of_expected (.inr (.inr ⟨response, hcarries, hforgotten⟩))

/-! ### A run -/

/-- The first call is cancelled while its response is in flight. -/
def cancelingAnswered : List Action := serving ++ [.client (.cancel 1)]

/-- The response to the first call. -/
def answeredFrame : Bytes :=
  (RpcServer.resultResponse 1 (RpcServer.succeed (text "a"))).fields.flatten

theorem uncut_cancelingAnswered :
    let s := (machine .default RpcServer.asyncServer).after cancelingAnswered
    s.server.nextFrame = 2 ∧ Uncut s :=
  have hreachable : (machine .default RpcServer.asyncServer).Reachable
      ((machine .default RpcServer.asyncServer).after cancelingAnswered) :=
    Machine.reachable_after _
  ⟨by decide +kernel,
    uncut_of_reachable hreachable (by decide +kernel) (by decide) (by decide)⟩

theorem understood_cancelingAnswered :
    let s := (machine .default RpcServer.asyncServer).after cancelingAnswered
    (1 : UInt64) ∉ s.client.pendingRequests_ ∧ Understood .default s 0 answeredFrame :=
  have hreachable : (machine .default RpcServer.asyncServer).Reachable
      ((machine .default RpcServer.asyncServer).after cancelingAnswered) :=
    Machine.reachable_after _
  have hflight : (0, answeredFrame) ∈ ((machine .default RpcServer.asyncServer).after
      cancelingAnswered).server.outbox := by decide +kernel
  ⟨by decide +kernel, understood_of_reachable hreachable (by decide +kernel) (by decide)
    (by decide +kernel) (by decide +kernel) hflight⟩

end MiniRpc.System
