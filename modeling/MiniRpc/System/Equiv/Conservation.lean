import MiniRpc.System.Equiv.Flow

/-!
# No pending request is lost or duplicated

On a connection that neither end has begun to close, a request that waits for its response is in one
place: its frame is in flight to the server, or it is in the registry of the server, or its response
is in flight to the client.

The client sends a request once on a connection (`RpcClient.Sent`), the server accounts for every
request it receives (`RpcServer.Accounts`), and on an open connection nothing is lost on the way
(`Flow`).
-/

namespace MiniRpc.System

open RpcClient (callRequest requestsSent requestsSent_of_traffic requestsSent_pos_of_unanswered)

variable {clientConfig : RpcClient.Config} {serverConfig : RpcServer.Config} {s : State}
  {c : ConnId} {r : UInt64} {p : RpcClient.PendingRequest}

/-- The number of `Request` frames of a request in flight to the server. -/
def requestsInFlight (s : State) (c : ConnId) (r : UInt64) : ℕ :=
  s.client.outbox.count c (carriesRequest r)

/-- The number of `Response` frames of a request in flight to the client. -/
def responsesInFlight (s : State) (c : ConnId) (r : UInt64) : ℕ :=
  s.server.outbox.count c (carriesResponse r)

/-- The number of entries of a request in the registry of the server. -/
def registered (s : State) (c : ConnId) (r : UInt64) : ℕ :=
  RpcServer.active s.server.cancellationRegistry_ c r

/-- What was sent on a connection that is open was sent on the connection that is up. -/
theorem current_of_sent (hfresh : RpcClient.Fresh s.client) (hopen : s.client.tcpClient_.Open c)
    (hsent : 0 < requestsSent s.client.trace c r) :
    s.client.tcpClient_.current = some c ∧ s.client.tcpClient_.closing = false := by
  refine hopen.resolve_left fun hle => ?_
  rw [requestsSent_of_traffic (hfresh.traffic c hle)] at hsent
  exact absurd hsent (lt_irrefl 0)

/-- A request that waits for its response is in one place. -/
theorem places_eq_one (h : (machine clientConfig serverConfig).Reachable s)
    (hcalls : s.client.nextRequestId_ ≤ 2 ^ 64) (hopen : s.Open c)
    (hp : s.client.pendingRequests_.lookup r = some p)
    (hsent : 0 < requestsSent s.client.trace c r) :
    requestsInFlight s c r + registered s c r + responsesInFlight s c r = 1 := by
  obtain ⟨hclient, hserver⟩ := ends_of_reachable h
  have hconns := RpcClient.connections_of_reachable hclient hcalls
  have hflow := flow_of_reachable h
  obtain ⟨hcurrent, hclosing⟩ := current_of_sent hconns.fresh hopen.1 hsent
  -- The callback was not taken, so no cancel was sent and no response received.
  have htaken := hconns.ledger.taken_of_mem (Finmap.mem_of_lookup_eq_some hp)
  have hcancels : RpcClient.cancelsSent s.client.trace c r = 0 :=
    Nat.eq_zero_of_not_pos fun hpos => (hconns.sent.cancels c r hpos).ne' htaken
  have hreceived := hconns.sent.received c r hcurrent hclosing htaken
  have honce := hconns.sent.once c r
  -- The accounts of the two ends.
  have hrequests := hflow.requests c r hopen
  have hfound := hflow.cancels c r
  have hresponses := hflow.responses c r hopen
  have haccounts := (RpcServer.books_of_reachable hserver).accounts
  have hle := haccounts.le c r
  have hge := haccounts.eq c r hopen.2
  simp only [RpcServer.account, RpcServer.Phase.serving] at hle hge
  unfold requestsInFlight registered responsesInFlight
  omega

/-- Every request that waits for its response and was sent on the connection is in flight to the
server, or in the registry, or answered with the response in flight, and in one of these places
only; with nothing in flight and nothing in the registry, no request waits for its response. -/
structure Conserved (s : State) (c : ConnId) : Prop where
  place : ∀ r p, s.client.pendingRequests_.lookup r = some p → p.phase = .kWaitingResponse →
    0 < requestsSent s.client.trace c r →
    (requestsInFlight s c r = 1 ∧ registered s c r = 0 ∧ responsesInFlight s c r = 0) ∨
    (requestsInFlight s c r = 0 ∧ registered s c r = 1 ∧ responsesInFlight s c r = 0) ∨
    (requestsInFlight s c r = 0 ∧ registered s c r = 0 ∧ responsesInFlight s c r = 1)
  quiescent : s.client.tcpClient_.current = some c →
    (∀ frame, (c, frame) ∉ s.client.outbox) → (∀ frame, (c, frame) ∉ s.server.outbox) →
    (∀ r, s.server.cancellationRegistry_.find? c r = none) →
    ∀ r p, s.client.pendingRequests_.lookup r = some p → p.phase ≠ .kWaitingResponse

/-- **No pending request is lost or duplicated** while neither end has begun to close the
connection. -/
theorem conserved_of_reachable (h : (machine clientConfig serverConfig).Reachable s)
    (hcalls : s.client.nextRequestId_ ≤ 2 ^ 64) (hopen : s.Open c) : Conserved s c where
  place r p hp _ hsent := by
    have hone := places_eq_one h hcalls hopen hp hsent
    omega
  quiescent hcurrent hrequests hresponses hregistry r p hp hphase := by
    obtain ⟨hclient, -⟩ := ends_of_reachable h
    have hsent := (RpcClient.connections_of_reachable hclient hcalls).sent
    have hone := places_eq_one h hcalls hopen hp
      (requestsSent_pos_of_unanswered (hsent.response c r p hp hphase hcurrent))
    have hnone : requestsInFlight s c r = 0 := Channel.count_eq_zero hrequests _
    have hnone' : responsesInFlight s c r = 0 := Channel.count_eq_zero hresponses _
    have hnone'' : registered s c r = 0 := RpcServer.active_of_none (hregistry r)
    omega

/-! ### A run -/

/-- The arguments of a call of the method of `asyncServer`. -/
def asyncCall : RpcClient.CallArgs := ⟨text "s", text "m", text "p", ⟨7⟩, 0, true, 0, none⟩

/-- What the handler of the first of these calls is invoked with. -/
def asyncCallInvocation : RpcServer.Invocation := ⟨0, 0, callRequest 1 asyncCall, ⟨1⟩⟩

/-- Of three calls, the first is answered, the second is served and the third is on its way. -/
def serving : List Action := [.server .start, .client .connectionUp, .server (.connectionUp 0),
  .client .leaveUser, .client (.resume []), .client (.resume []), .client .enterUser,
  .client (.call asyncCall), .client (.call asyncCall), .client (.call asyncCall), .toServer 0 none,
  .server (.submit 0), .server (.handlerReturns 0),
  .server (.reply asyncCallInvocation (RpcServer.succeed (text "a"))), .server (.queueReply 0),
  .server (.runTask 0), .toServer 0 none]

theorem conserved_serving :
    let s := (machine .default RpcServer.asyncServer).after serving
    responsesInFlight s 0 1 = 1 ∧ registered s 0 2 = 1 ∧ requestsInFlight s 0 3 = 1 ∧
      Conserved s 0 :=
  ⟨by decide +kernel, by decide +kernel, by decide +kernel,
    conserved_of_reachable (Machine.reachable_after _) (by decide +kernel) (by decide +kernel)⟩

end MiniRpc.System
