import MiniRpc.RpcClient.Equiv.Outstanding
import MiniRpc.RpcClient.Equiv.Timers
import MiniRpc.RpcServer.Equiv.Slots
import MiniRpc.System.Equiv.EndToEnd
import MiniRpc.System.Equiv.Progress

/-!
# A system at rest has answered its calls

When a client and a server can take no step by themselves, every call was answered once or waits for
something outside (`WaitsFor`): for a reconnect, with its timer running, for a connection that is
closing, for the server to accept the connection, or for the user's handler, which was invoked for
this call and has not called its reply object yet.

The last case is where the two ends meet: with nothing in flight, the request has an entry in the
registry (`places_eq_one`), the entry belongs to an invocation that can still be answered (`Slots`),
and a server at rest has passed on every reply that was made (`Finished`).
-/

namespace MiniRpc.System

open RpcClient (callRequest)

variable {clientConfig : RpcClient.Config} {serverConfig : RpcServer.Config} {s s' : State}
  {c : ConnId} {id : UInt64} {p : RpcClient.PendingRequest}

/-- How often the callback of a call was invoked. -/
def invocations (s : State) (id : UInt64) : ℕ :=
  (s.client.trace.filterMap RpcClient.Event.invocation?).countP fun d => d.requestId == id

/-- The handler of a call was invoked for it and has not called its reply object. -/
structure AwaitsReply (s : State) (c : ConnId) (id : UInt64) (inv : RpcServer.Invocation) :
    Prop where
  conn : inv.conn = c
  request : ∃ a, (id, a) ∈ s.client.calls ∧ inv.request = callRequest id a
  invoked : inv.Invoked s.server.trace
  held : inv ∈ s.server.replies
  uncalled : inv.frame ∉ s.server.repliedFlags
  only : ∀ inv' ∈ s.server.replies, inv'.conn = c → inv'.request.requestId_ = id → inv' = inv

/-- What a pending request waits for in a system at rest. -/
inductive WaitsFor (s : State) (id : UInt64) (p : RpcClient.PendingRequest) : Prop
  /-- A reconnect, or the end of the wait for it. -/
  | reconnect {t : TimerId} {deadline : ℕ} (hphase : p.phase = .kWaitingReconnect)
      (htimer : s.client.loop_.timers.lookup t = some ⟨deadline, .onReconnectTimeout id⟩)
  /-- The close of a connection that one end has begun to close. -/
  | close {c : ConnId} (hphase : p.phase = .kWaitingResponse)
      (hcurrent : s.client.tcpClient_.current = some c) (hclosing : ¬ s.Open c)
  /-- The server, which has not accepted the connection. -/
  | accept {c : ConnId} (hphase : p.phase = .kWaitingResponse)
      (hcurrent : s.client.tcpClient_.current = some c)
      (hnew : (s.server.connections c).state = .kNew)
  /-- The handler. -/
  | reply {c : ConnId} {inv : RpcServer.Invocation} (hphase : p.phase = .kWaitingResponse)
      (hcurrent : s.client.tcpClient_.current = some c) (hawaits : AwaitsReply s c id inv)

/-- What has been done when neither end can go on and no frame can arrive. -/
structure Settled (s : State) : Prop where
  /-- No operation of the client is in progress, and none is queued. -/
  client : s.client.stack = [] ∧ s.client.loop_.tasks = [] ∧ s.client.calling = []
  server : RpcServer.Finished s.server
  /-- Every call was answered once, or is pending and was not answered. -/
  calls : ∀ id a, (id, a) ∈ s.client.calls →
    (id ∉ s.client.pendingRequests_ ∧ invocations s id = 1) ∨
    (id ∈ s.client.pendingRequests_ ∧ invocations s id = 0)
  waits : ∀ id p, s.client.pendingRequests_.lookup id = some p → WaitsFor s id p
  /-- On an open connection, when every handler has replied, every call was answered once. -/
  answered : ∀ c, s.client.tcpClient_.current = some c → s.Open c →
    (s.server.connections c).state = .kUp →
    (∀ inv ∈ s.server.replies, inv.conn = c → inv.frame ∈ s.server.repliedFlags) →
    ∀ id a, (id, a) ∈ s.client.calls → invocations s id = 1

section Rest

variable (h : (machine clientConfig serverConfig).Reachable s)
  (hrest : (machine clientConfig serverConfig).Rest internal s)
  (hcalls : s.client.nextRequestId_ ≤ 2 ^ 64)

include h hrest hcalls

/-- A call that is not pending was answered. -/
theorem Rest.calls {a : RpcClient.CallArgs} (hcall : (id, a) ∈ s.client.calls) :
    (id ∉ s.client.pendingRequests_ ∧ invocations s id = 1) ∨
      (id ∈ s.client.pendingRequests_ ∧ invocations s id = 0) := by
  obtain ⟨hclient, -⟩ := ends_of_reachable h
  have hrestClient := Rest.client hrest
  have hledger := RpcClient.ledger_of_reachable hclient hcalls
  have hunique := RpcClient.callsUnique_of_reachable hclient hcalls
  have hprov := RpcClient.provenance_of_reachable hclient
  -- nothing is on its way to the loop, and no operation holds a callback
  have hcalling : (id, a) ∉ s.client.calling := by
    rw [RpcClient.Rest.calling_eq hrestClient]
    exact List.not_mem_nil
  have hqueued : s.client.queuedCalls id = 0 := by
    unfold RpcClient.State.queuedCalls
    rw [RpcClient.Rest.tasks_eq hrestClient]
    rfl
  have htaken : s.client.taken id = invocations s id := by
    unfold RpcClient.State.taken RpcClient.State.takenCallbacks RpcClient.State.held
    rw [RpcClient.Rest.stack_eq hrestClient]
    rfl
  rcases hledger.situation hunique hprov hcall hcalling with
    ⟨hqueue, -, -⟩ | ⟨-, hmem, hzero⟩ | ⟨-, hnot, hone⟩
  · omega
  · exact .inr ⟨hmem, htaken ▸ hzero⟩
  · exact .inl ⟨hnot, htaken ▸ hone⟩

/-- On an open connection that the server has accepted, a request that waits for its response has an
entry in the registry. -/
theorem Rest.entry (hopen : s.Open c) (hcurrent : s.client.tcpClient_.current = some c)
    (hup : (s.server.connections c).state = .kUp)
    (hp : s.client.pendingRequests_.lookup id = some p) (hphase : p.phase = .kWaitingResponse) :
    ∃ t, s.server.cancellationRegistry_.find? c id = some t := by
  obtain ⟨hclient, -⟩ := ends_of_reachable h
  have hsent := (RpcClient.connections_of_reachable hclient hcalls).sent
  have hone := places_eq_one h hcalls hopen hp
    (RpcClient.requestsSent_pos_of_unanswered (hsent.response c id p hp hphase hcurrent))
  have hrequests : requestsInFlight s c id = 0 :=
    Channel.count_eq_zero (Rest.toServer hrest hup) _
  have hresponses : responsesInFlight s c id = 0 :=
    Channel.count_eq_zero (Rest.toClient hrest hcurrent) _
  cases hfind : s.server.cancellationRegistry_.find? c id with
  | some t => exact ⟨t, rfl⟩
  | none =>
    have hnone : registered s c id = 0 := RpcServer.active_of_none hfind
    omega

/-- The entry belongs to an invocation whose reply object the user holds. -/
theorem Rest.awaitsReply {t : TokenId}
    (hfind : s.server.cancellationRegistry_.find? c id = some t) :
    ∃ inv, AwaitsReply s c id inv := by
  obtain ⟨-, hserver⟩ := ends_of_reachable h
  have hlaws := RpcServer.laws_of_reachable hserver
  have hrunning := RpcServer.Rest.running_eq (Rest.server hrest)
  have hfinished := RpcServer.Rest.finished (Rest.server hrest) hserver
  obtain ⟨inv, -, hconn, hid, hinv⟩ := (RpcServer.slots_of_reachable hserver).held c id t hfind
  -- no thread works on the invocation, so the user holds its reply object
  have hheld : inv ∈ s.server.replies ∧ inv.frame ∉ s.server.repliedFlags := by
    rcases hinv with (⟨u, hmem⟩ | hmem) | hheld | ⟨r, u, hmem⟩ | ⟨r, l, hmem⟩
    · rw [hrunning] at hmem
      cases hmem
    · rw [hfinished.queue] at hmem
      cases hmem
    · exact hheld
    · rw [hrunning] at hmem
      cases hmem
    · rw [hfinished.tasks] at hmem
      cases hmem
  have hknown : ∀ inv' ∈ s.server.replies, inv'.Known serverConfig s.server.trace ∧
      inv'.Invoked s.server.trace := fun inv' hmem => hlaws.served.started inv' (.inr hmem)
  obtain ⟨hself, hinvoked⟩ := hknown inv hheld.1
  obtain ⟨a, hcall, hrequest⟩ := (flow_of_reachable h).calls _ _ _ hself.received
  rw [hid] at hcall hrequest
  refine ⟨inv, hconn, ⟨a, hcall, hrequest⟩, hinvoked, hheld.1, hheld.2,
    fun inv' hmem hconn' hid' => ?_⟩
  -- one frame with the id was received on the connection
  obtain ⟨hother, -⟩ := hknown inv' hmem
  have hother' := hother.received
  have hself' := hself.received
  rw [hconn'] at hother'
  rw [hconn] at hself'
  have hframe := frame_unique h hcalls hother' hself' (hid'.trans hid.symm)
  exact hlaws.eq_of_frame hother hself hframe

/-- A request that waits for its response on an open connection waits for its handler. -/
theorem Rest.awaits (hopen : s.Open c) (hcurrent : s.client.tcpClient_.current = some c)
    (hup : (s.server.connections c).state = .kUp)
    (hp : s.client.pendingRequests_.lookup id = some p) (hphase : p.phase = .kWaitingResponse) :
    ∃ inv, AwaitsReply s c id inv := by
  obtain ⟨t, hfind⟩ := Rest.entry h hrest hcalls hopen hcurrent hup hp hphase
  exact Rest.awaitsReply h hrest hcalls hfind

theorem Rest.waitsFor (hp : s.client.pendingRequests_.lookup id = some p) :
    WaitsFor s id p := by
  obtain ⟨hclient, hserver⟩ := ends_of_reachable h
  cases hphase : p.phase with
  | kWaitingReconnect =>
    have htimers := RpcClient.timers_of_reachable hclient hcalls
    obtain ⟨t, deadline, -, htimer⟩ := (htimers.entries id p hp).reconnect hphase
    exact .reconnect hphase htimer
  | kWaitingResponse =>
    -- the client has a connection
    have hphases := RpcClient.phases_of_reachable hclient
    have hstatus := (hphases.entries id p hp).response hphase
    obtain ⟨c, hconn⟩ := Option.ne_none_iff_exists'.mp (hphases.status.mp hstatus)
    have hcurrent : s.client.tcpClient_.current = some c := hphases.conn.symm.trans hconn
    by_cases hopen : s.Open c
    · cases hstate : (s.server.connections c).state with
      | kNew => exact .accept hphase hcurrent hstate
      | kUp =>
        obtain ⟨inv, hawaits⟩ := Rest.awaits h hrest hcalls hopen hcurrent hstate hp hphase
        exact .reply hphase hcurrent hawaits
      | kDown =>
        have hclosing := RpcServer.closing_of_down hserver hstate
        rw [hopen.2] at hclosing
        cases hclosing
    · exact .close hphase hcurrent hopen

/-- No request is left on an open connection once every handler has replied. -/
theorem Rest.notMem_pending (hopen : s.Open c) (hcurrent : s.client.tcpClient_.current = some c)
    (hup : (s.server.connections c).state = .kUp)
    (hreplied : ∀ inv ∈ s.server.replies, inv.conn = c → inv.frame ∈ s.server.repliedFlags) :
    id ∉ s.client.pendingRequests_ := by
  intro hmem
  obtain ⟨p, hp⟩ := Finmap.mem_iff.mp hmem
  obtain ⟨hclient, -⟩ := ends_of_reachable h
  have hclosing : s.client.tcpClient_.closing = false := by
    have hlt := (RpcClient.fresh_of_reachable hclient).current_lt c hcurrent
    rcases hopen.1 with hle | ⟨-, hclosing⟩
    · exact absurd hlt (Nat.not_lt.mpr hle)
    · exact hclosing
  obtain ⟨hconnected, hstatus⟩ :=
    (RpcClient.expecting_of_reachable hclient hcalls).attached c hcurrent hclosing
  cases hphase : p.phase with
  | kWaitingReconnect =>
    -- a connected client that is between events has resent it
    have hentry := (RpcClient.phases_of_reachable hclient).entries id p hp
    have hcovered := hentry.covered hphase hstatus c hconnected
    rw [RpcClient.State.connectionEvents, RpcClient.Rest.stack_eq (Rest.client hrest)] at hcovered
    rcases hcovered with hmem | ⟨waiting, hmem, -⟩
    · cases hmem
    · cases hmem
  | kWaitingResponse =>
    obtain ⟨inv, hawaits⟩ := Rest.awaits h hrest hcalls hopen hcurrent hup hp hphase
    exact hawaits.uncalled (hreplied inv hawaits.held hawaits.conn)

theorem Rest.settled : Settled s := by
  have hrestClient := Rest.client hrest
  obtain ⟨-, hserver⟩ := ends_of_reachable h
  refine ⟨⟨RpcClient.Rest.stack_eq hrestClient, RpcClient.Rest.tasks_eq hrestClient,
      RpcClient.Rest.calling_eq hrestClient⟩,
    RpcServer.Rest.finished (Rest.server hrest) hserver, fun id a => Rest.calls h hrest hcalls,
    fun id p => Rest.waitsFor h hrest hcalls, ?_⟩
  intro c hcurrent hopen hup hreplied id a hcall
  have hnot : id ∉ s.client.pendingRequests_ :=
    Rest.notMem_pending h hrest hcalls hopen hcurrent hup hreplied
  rcases Rest.calls h hrest hcalls hcall with ⟨-, hone⟩ | ⟨hmem, -⟩
  · exact hone
  · exact absurd hmem hnot

end Rest

/-! ### The law -/

/-- The system comes to rest when it is left alone, and then its calls are answered. -/
structure CallsSettled (clientConfig : RpcClient.Config) (serverConfig : RpcServer.Config)
    (s : State) : Prop where
  /-- Left alone, the system takes no more steps than its rank, whatever their order. -/
  bounded : ∀ as s', (machine clientConfig serverConfig).Run s as s' →
    (∀ a ∈ as, internal a = true) → as.length ≤ rank s
  /-- It can come to rest by itself. -/
  rests : ∃ as s', (∀ a ∈ as, internal a = true) ∧
    (machine clientConfig serverConfig).Run s as s' ∧
    (machine clientConfig serverConfig).Rest internal s'
  /-- Once it does, after any run, every call was answered or waits for something outside. -/
  settles : ∀ as s', (machine clientConfig serverConfig).Run s as s' →
    (machine clientConfig serverConfig).Rest internal s' →
    s'.client.nextRequestId_ ≤ 2 ^ 64 → Settled s'

/-- **A client and a server come to rest with every call answered**, other than those that wait for
a handler's reply or for a connection. -/
theorem callsSettled_of_reachable (h : (machine clientConfig serverConfig).Reachable s) :
    CallsSettled clientConfig serverConfig s where
  bounded _ _ hrun has := by
    have hle := (descends clientConfig serverConfig).length_le trivial hrun has
    omega
  rests := (descends clientConfig serverConfig).exists_rest trivial
  settles _ _ hrun hrest hcalls := Rest.settled (hrun.reachable h) hrest hcalls

/-! ### A run -/

/-- What is left to do after `serving`: the first call is answered, and the handlers of the other
two are invoked. -/
def settling : List Action := [.client .leaveUser, .toClient 0, .client (.resume []),
  .client .leaveUser, .client (.resume []), .server (.submit 0), .server (.handlerReturns 0),
  .toServer 0 none, .server (.submit 0), .server (.handlerReturns 0)]

theorem callsSettled_serving :
    let M := machine .default RpcServer.asyncServer
    rank (M.after serving) = 80 ∧ CallsSettled .default RpcServer.asyncServer (M.after serving) ∧
      rank (M.after (serving ++ settling)) = 0 ∧ Settled (M.after (serving ++ settling)) ∧
      invocations (M.after (serving ++ settling)) 1 = 1 ∧
      2 ∈ (M.after (serving ++ settling)).client.pendingRequests_ :=
  have hsettled := callsSettled_of_reachable
    (Machine.reachable_after (M := machine .default RpcServer.asyncServer) serving)
  have hzero : rank ((machine .default RpcServer.asyncServer).after (serving ++ settling)) = 0 := by
    decide +kernel
  ⟨by decide +kernel, hsettled, hzero,
    hsettled.settles settling _ (Machine.run_afterBy (by decide +kernel))
      ((descends _ _).rest_of_eq_zero trivial hzero) (by decide +kernel),
    by decide +kernel, by decide +kernel⟩

end MiniRpc.System
