import MiniRpc.RpcClient.Equiv.Attempts
import MiniRpc.RpcServer.Equiv.Revoked
import MiniRpc.System.Equiv.EndToEnd

/-!
# What a client's cancels do to its server

A client does not use an id twice on a connection, so no reply finds the token of another request
(`proper_of_reachable`): the server answers no cancelled request, and every request with its own
result (`answersItsOwn_of_reachable`).

The tokens that the handlers see cancelled are those of calls that the client has given up, or of
connections that were closed (`cancellationsMeant_of_reachable`).
-/

namespace MiniRpc.System

open RpcClient (callRequest)
open RpcServer (Requested)

variable {clientConfig : RpcClient.Config} {serverConfig : RpcServer.Config} {s s' : State}
  {c : ConnId} {i : UInt64}

/-! ### Ids are not used twice -/

theorem requested_unique (h : (machine clientConfig serverConfig).Reachable s)
    (hcalls : s.client.nextRequestId_ ≤ 2 ^ 64) (c : ConnId) (i : UInt64) (n n' : FrameId)
    (hn : Requested s.server.trace c i n) (hn' : Requested s.server.trace c i n') : n = n' := by
  obtain ⟨q, hmem, hid⟩ := hn
  obtain ⟨q', hmem', hid'⟩ := hn'
  exact frame_unique h hcalls hmem hmem' (hid.trans hid'.symm)

theorem next_le_of_moves (h : Moves clientConfig serverConfig s s') :
    s.client.nextRequestId_ ≤ s'.client.nextRequestId_ := by
  have hclient : ∀ {a : RpcClient.Action} {client : RpcClient.State},
      RpcClient.step clientConfig s.client a = some client →
      s.client.nextRequestId_ ≤ client.nextRequestId_ := by
    intro a client hs
    have hsteps : RpcClient.Steps clientConfig False True s.client client :=
      RpcClient.steps_step False.elim (fun _ => trivial) hs
    exact Machine.preserved_of_chain
      (P := fun t : RpcClient.State => s.client.nextRequestId_ ≤ t.nextRequestId_)
      (fun _ _ hle ht => hle.trans ht.next_le) hsteps le_rfl
  cases h with
  | client _ hs => exact hclient hs
  | toClient _ _ hs => exact hclient hs
  | server | toServer | loseToServer | loseToClient => exact le_rfl

/-- With a client at the other end, every step of the server is proper. -/
theorem proper_of_reachable (h : (machine clientConfig serverConfig).Reachable s)
    (hcalls : s.client.nextRequestId_ ≤ 2 ^ 64) :
    (RpcServer.machine serverConfig).ReachableBy RpcServer.Proper s.server := by
  refine h.invariant (P := fun s => s.client.nextRequestId_ ≤ 2 ^ 64 →
    (RpcServer.machine serverConfig).ReachableBy RpcServer.Proper s.server)
    (fun _ => .init) ?_ hcalls
  intro s a s' hs hold hstep hbound
  have hmoves := moves_of_step hstep
  have hcalls := (next_le_of_moves hmoves).trans hbound
  have hproper := RpcServer.proper_of_unique (ends_of_reachable hs).2 (requested_unique hs hcalls)
  cases hmoves with
  | client | loseToServer => exact hold hcalls
  | @server action _ _ h => exact (hold hcalls).step (hproper action) h
  | @toServer conn frame outcome _ _ h =>
    exact (hold hcalls).step (hproper (.deliver conn frame outcome)) h
  | @toClient conn | @loseToClient conn =>
    exact (hold hcalls).step (hproper (.transmit conn)) rfl

/-- **A cancelled call is not answered, and every response is the result of its own request**: a
server whose peer is a client does not mix up the replies, whatever their order. -/
theorem answersItsOwn_of_reachable (h : (machine clientConfig serverConfig).Reachable s)
    (hcalls : s.client.nextRequestId_ ≤ 2 ^ 64) :
    RpcServer.AnswersItsOwn serverConfig s.server.trace :=
  (RpcServer.answered_of_proper (proper_of_reachable h hcalls)).answers

/-! ### Tokens -/

/-- The frame that the server received carries the call. -/
structure Carries (s : State) (n : FrameId) (c : ConnId) (i : UInt64) (a : RpcClient.CallArgs) :
    Prop where
  call : (i, a) ∈ s.client.calls
  received : .requestReceived n c (callRequest i a) ∈ s.server.trace

/-- The call was cancelled or timed out at the client. -/
def GivenUp (s : State) (i : UInt64) : Prop :=
  ∃ d ∈ s.client.takenCallbacks, d.requestId = i ∧ d.GivenUp

theorem Flow.carries (h : Flow s) {n : FrameId} (hn : Requested s.server.trace c i n) :
    ∃ a, Carries s n c i a := by
  obtain ⟨q, hmem, hid⟩ := hn
  obtain ⟨a, hcall, hq⟩ := h.calls n c q hmem
  rw [hid] at hcall hq
  exact ⟨a, hcall, hq ▸ hmem⟩

/-- Why the server cancels tokens: a `Cancel` frame that finds one was sent because the client gave
up the very call for which the token was made (`found`), a token is cancelled for that reason or
because its connection was closed (`canceled`), and none is while its call waits on a connection
that is open (`spared`). -/
structure CancellationsMeant (s : State) : Prop where
  found : ∀ c i n, .cancelReceived c i (some n) ∈ s.server.trace →
    (∃ a, Carries s n c i a) ∧ GivenUp s i
  canceled : ∀ n ∈ s.server.cancellationRegistry_.canceled_,
    ∃ c i a, Carries s n c i a ∧ (GivenUp s i ∨ .closed c ∈ s.server.trace)
  spared : ∀ n c i a, Carries s n c i a → s.Open c → i ∈ s.client.pendingRequests_ →
    n ∉ s.server.cancellationRegistry_.canceled_

/-- A `Cancel` frame that found a token was sent for a call that was given up. -/
theorem givenUp_of_cancelReceived (h : (machine clientConfig serverConfig).Reachable s)
    {n : TokenId} (hmem : .cancelReceived c i (some n) ∈ s.server.trace) : GivenUp s i := by
  obtain ⟨hclient, -⟩ := ends_of_reachable h
  have hcancels := (flow_of_reachable h).cancels c i
  have hpos : 0 < RpcServer.cancels s.server.trace c i :=
    List.countP_pos_iff.mpr ⟨_, hmem, decide_eq_true ⟨rfl, rfl⟩⟩
  exact RpcClient.cancelsMeant_of_reachable hclient c i (by omega)

/-- **Cancellations are meant**, whatever the order of the calls, the cancels, the timeouts, the
lost connections, the resends and the replies. -/
theorem cancellationsMeant_of_reachable (h : (machine clientConfig serverConfig).Reachable s)
    (hcalls : s.client.nextRequestId_ ≤ 2 ^ 64) : CancellationsMeant s := by
  obtain ⟨hclient, hserver⟩ := ends_of_reachable h
  have hflow := flow_of_reachable h
  have hrevoked := RpcServer.revoked_of_reachable hserver
  have hcanceled : ∀ n ∈ s.server.cancellationRegistry_.canceled_,
      ∃ c i a, Carries s n c i a ∧ (GivenUp s i ∨ .closed c ∈ s.server.trace) := by
    intro n hn
    obtain ⟨c, i, hrequested, hby⟩ := hrevoked.canceled n hn
    obtain ⟨a, hcarries⟩ := hflow.carries hrequested
    exact ⟨c, i, a, hcarries, hby.imp_left (givenUp_of_cancelReceived h)⟩
  constructor
  case found =>
    intro c i n hmem
    exact ⟨hflow.carries (hrevoked.found c i n hmem), givenUp_of_cancelReceived h hmem⟩
  case canceled => exact hcanceled
  case spared =>
    intro n c i a hcarries hopen hpending hn
    obtain ⟨c', i', a', hcarries', hreason⟩ := hcanceled n hn
    -- It is the same frame, so it carries the same call on the same connection.
    have honce := (RpcServer.numbered_of_reachable hserver).once n
    have heq := RpcServer.eq_of_countP_le_one honce hcarries.received hcarries'.received
      (decide_eq_true rfl) (decide_eq_true rfl)
    obtain ⟨-, rfl, hrequest⟩ := RpcServer.Event.requestReceived.inj heq
    obtain rfl : i = i' := congrArg RpcRequest.requestId_ hrequest
    rcases hreason with ⟨d, hd, hid, -⟩ | hclosed
    · have htaken := (RpcClient.ledger_of_reachable hclient hcalls).taken_of_mem hpending
      exact absurd htaken (hid ▸ RpcClient.State.taken_pos hd).ne'
    · have hdown := (RpcServer.closed_of_reachable hserver).down c hclosed
      have hclosing := hopen.2
      rw [hdown] at hclosing
      cases hclosing

/-! ### A run -/

/-- The second call is cancelled while its handler holds the reply object, and the reply comes after
that; the third call is being served. -/
def cancelingServed : List Action := serving ++ [.client (.cancel 2), .server (.submit 0),
  .server (.handlerReturns 0), .toServer 0 none, .server (.submit 0), .server (.handlerReturns 0),
  .toServer 0 none,
  .server (.reply ⟨1, 0, callRequest 2 asyncCall, ⟨1⟩⟩ (RpcServer.succeed (text "a"))),
  .server (.queueReply 0), .server (.runTask 0)]

theorem cancellationsMeant_cancelingServed :
    let s := (machine .default RpcServer.asyncServer).after cancelingServed
    .cancelReceived 0 2 (some 1) ∈ s.server.trace ∧ s.Open 0 ∧
      (3 : UInt64) ∈ s.client.pendingRequests_ ∧ CancellationsMeant s :=
  ⟨by decide +kernel, by decide +kernel, by decide +kernel,
    cancellationsMeant_of_reachable (Machine.reachable_after _) (by decide +kernel)⟩

theorem answersItsOwn_cancelingServed :
    let s := (machine .default RpcServer.asyncServer).after cancelingServed
    .finished 1 (some (RpcServer.succeed (text "a"))) ∈ s.server.trace ∧
      RpcServer.AnswersItsOwn RpcServer.asyncServer s.server.trace :=
  ⟨by decide +kernel,
    answersItsOwn_of_reachable (Machine.reachable_after _) (by decide +kernel)⟩

end MiniRpc.System
