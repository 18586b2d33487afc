import MiniRpc.RpcClient.Equiv.Traffic
import MiniRpc.RpcServer.Equiv.Traffic
import MiniRpc.System.Basic

/-!
# What flows between the two ends

`Flow`: what one end has sent on an open connection is in flight or has arrived at the other end,
and nothing arrives that was not sent.  A `Request` frame that the server receives carries a call of
the client, and a response that the client receives is on record at the server.
-/

namespace MiniRpc.System

open RpcClient (requestsSent cancelsSent responsesReceived callRequest)

variable {clientConfig : RpcClient.Config} {serverConfig : RpcServer.Config} {s s' : State}

/-! ### Steps -/

/-- What a step of the system is to its two ends. -/
inductive Moves (clientConfig : RpcClient.Config) (serverConfig : RpcServer.Config) (s : State) :
    State → Prop
  | client {action : RpcClient.Action} {client : RpcClient.State}
      (haction : action.isNetwork = false)
      (h : RpcClient.step clientConfig s.client action = some client) :
      Moves clientConfig serverConfig s { s with client := client }
  | server {action : RpcServer.Action} {server : RpcServer.State}
      (haction : action.isNetwork = false)
      (h : RpcServer.step serverConfig s.server action = some server) :
      Moves clientConfig serverConfig s { s with server := server }
  | toServer {conn : ConnId} {frame : Bytes} {outcome : Option RpcServer.RpcResult}
      {server : RpcServer.State} (hfirst : s.client.outbox.first conn = some frame)
      (h : RpcServer.step serverConfig s.server (.deliver conn frame outcome) = some server) :
      Moves clientConfig serverConfig s
        ⟨{ s.client with outbox := s.client.outbox.dropFirst conn }, server⟩
  | toClient {conn : ConnId} {frame : Bytes} {client : RpcClient.State}
      (hcurrent : s.client.tcpClient_.current = some conn)
      (hfirst : s.server.outbox.first conn = some frame)
      (h : RpcClient.step clientConfig s.client (.deliver frame) = some client) :
      Moves clientConfig serverConfig s
        ⟨client, { s.server with outbox := s.server.outbox.dropFirst conn }⟩
  | loseToServer {conn : ConnId} (hopen : ¬ s.Open conn) :
      Moves clientConfig serverConfig s
        { s with client := { s.client with outbox := s.client.outbox.dropFirst conn } }
  | loseToClient {conn : ConnId} (hopen : ¬ s.Open conn) :
      Moves clientConfig serverConfig s
        { s with server := { s.server with outbox := s.server.outbox.dropFirst conn } }

theorem moves_of_step {a : Action} (h : step clientConfig serverConfig s a = some s') :
    Moves clientConfig serverConfig s s' := by
  cases a with
  | client action =>
    simp only [step] at h
    split_ifs at h with haction
    obtain ⟨client, hclient, rfl⟩ := Option.map_eq_some_iff.mp h
    exact .client (Bool.eq_false_of_not_eq_true haction) hclient
  | server action =>
    simp only [step] at h
    split_ifs at h with haction
    obtain ⟨server, hserver, rfl⟩ := Option.map_eq_some_iff.mp h
    exact .server (Bool.eq_false_of_not_eq_true haction) hserver
  | toServer conn outcome =>
    obtain ⟨frame, hfirst, h⟩ := Option.bind_eq_some_iff.mp h
    obtain ⟨client, hclient, h⟩ := Option.bind_eq_some_iff.mp h
    obtain ⟨server, hserver, h⟩ := Option.bind_eq_some_iff.mp h
    obtain rfl := Option.some.inj hclient
    obtain rfl := Option.some.inj h
    exact .toServer hfirst hserver
  | toClient conn =>
    simp only [step] at h
    split_ifs at h with hcurrent
    obtain ⟨frame, hfirst, h⟩ := Option.bind_eq_some_iff.mp h
    obtain ⟨server, hserver, h⟩ := Option.bind_eq_some_iff.mp h
    obtain ⟨client, hclient, h⟩ := Option.bind_eq_some_iff.mp h
    obtain rfl := Option.some.inj hserver
    obtain rfl := Option.some.inj h
    exact .toClient hcurrent hfirst hclient
  | loseToServer conn =>
    simp only [step] at h
    split_ifs at h with hopen
    obtain rfl := Option.some.inj h
    exact .loseToServer hopen
  | loseToClient conn =>
    simp only [step] at h
    split_ifs at h with hopen
    obtain rfl := Option.some.inj h
    exact .loseToClient hopen

/-- The two ends run as machines of their own. -/
theorem reachable_of_moves (hclient : (RpcClient.machine clientConfig).Reachable s.client)
    (hserver : (RpcServer.machine serverConfig).Reachable s.server)
    (hmoves : Moves clientConfig serverConfig s s') :
    (RpcClient.machine clientConfig).Reachable s'.client ∧
      (RpcServer.machine serverConfig).Reachable s'.server := by
  cases hmoves with
  | client _ h => exact ⟨hclient.step h, hserver⟩
  | server _ h => exact ⟨hclient, hserver.step h⟩
  | @toServer conn frame outcome _ _ h =>
    exact ⟨hclient.step (a := .transmit conn) rfl,
      hserver.step (a := .deliver conn frame outcome) h⟩
  | @toClient conn frame _ _ _ h =>
    exact ⟨hclient.step (a := .deliver frame) h, hserver.step (a := .transmit conn) rfl⟩
  | @loseToServer conn => exact ⟨hclient.step (a := .transmit conn) rfl, hserver⟩
  | @loseToClient conn => exact ⟨hclient, hserver.step (a := .transmit conn) rfl⟩

theorem ends_of_reachable (h : (machine clientConfig serverConfig).Reachable s) :
    (RpcClient.machine clientConfig).Reachable s.client ∧
      (RpcServer.machine serverConfig).Reachable s.server := by
  refine h.invariant (P := fun s => (RpcClient.machine clientConfig).Reachable s.client ∧
    (RpcServer.machine serverConfig).Reachable s.server) ⟨.init, .init⟩ ?_
  intro s a s' _ hends hs
  exact reachable_of_moves hends.1 hends.2 (moves_of_step hs)

/-! ### Flow -/

/-- What was sent, what is in flight and what arrived. -/
structure Flow (s : State) : Prop where
  requests_le : ∀ c i, RpcServer.requests s.server.trace c i +
    s.client.outbox.count c (carriesRequest i) ≤ requestsSent s.client.trace c i
  requests : ∀ c i, s.Open c → requestsSent s.client.trace c i =
    RpcServer.requests s.server.trace c i + s.client.outbox.count c (carriesRequest i)
  cancels : ∀ c i, RpcServer.cancels s.server.trace c i +
    s.client.outbox.count c (carriesCancel i) ≤ cancelsSent s.client.trace c i
  responses_le : ∀ c i, responsesReceived s.client.trace c i +
    s.server.outbox.count c (carriesResponse i) ≤ RpcServer.responses s.server.trace c i
  responses : ∀ c i, s.Open c → RpcServer.responses s.server.trace c i =
    responsesReceived s.client.trace c i + s.server.outbox.count c (carriesResponse i)
  calls : ∀ n c q, .requestReceived n c q ∈ s.server.trace →
    ∃ a, (q.requestId_, a) ∈ s.client.calls ∧ q = callRequest q.requestId_ a
  answers : ∀ c response, .received c response ∈ s.client.trace →
    ∃ id origin output, .responded c id origin output ∈ s.server.trace ∧
      RpcMessage.ofFrame? output = some (.response response)

theorem flow_init : Flow (.init serverConfig) where
  requests_le _ _ := le_rfl
  requests _ _ _ := rfl
  cancels _ _ := le_rfl
  responses_le _ _ := le_rfl
  responses _ _ _ := rfl
  calls _ _ _ h := by cases h
  answers _ _ h := by cases h

theorem Flow.client (h : Flow s) {client : RpcClient.State}
    (hquiet : RpcClient.Quiet s.client client) : Flow { s with client := client } where
  requests_le c i := by
    have hle := h.requests_le c i
    have hbalance := hquiet.requests c i
    dsimp only
    omega
  requests c i hopen := by
    have heq := h.requests c i ⟨hquiet.open_of c hopen.1, hopen.2⟩
    have hbalance := hquiet.requests c i
    dsimp only
    omega
  cancels c i := by
    have hle := h.cancels c i
    have hbalance := hquiet.cancels c i
    dsimp only
    omega
  responses_le c i := by
    dsimp only
    rw [hquiet.responses]
    exact h.responses_le c i
  responses c i hopen := by
    dsimp only
    rw [hquiet.responses]
    exact h.responses c i ⟨hquiet.open_of c hopen.1, hopen.2⟩
  calls n c q hmem := by
    obtain ⟨a, hcall, hq⟩ := h.calls n c q hmem
    exact ⟨a, hquiet.calls hcall, hq⟩
  answers c response hmem := h.answers c response (hquiet.received c response hmem)

theorem Flow.server (h : Flow s) {server : RpcServer.State}
    (htrace : s.server.trace ⊆ server.trace) (hquiet : RpcServer.Quiet s.server server) :
    Flow { s with server := server } where
  requests_le c i := by
    dsimp only
    rw [hquiet.requests]
    exact h.requests_le c i
  requests c i hopen := by
    dsimp only
    rw [hquiet.requests]
    exact h.requests c i ⟨hopen.1, hquiet.open_of c hopen.2⟩
  cancels c i := by
    dsimp only
    rw [hquiet.cancels]
    exact h.cancels c i
  responses_le c i := by
    have hle := h.responses_le c i
    have hbalance := hquiet.responses c i
    dsimp only
    omega
  responses c i hopen := by
    have heq := h.responses c i ⟨hopen.1, hquiet.open_of c hopen.2⟩
    have hbalance := hquiet.responses c i
    dsimp only
    omega
  calls n c q hmem := h.calls n c q (hquiet.received hmem)
  answers c response hmem := by
    obtain ⟨id, origin, output, hresponded, hframe⟩ := h.answers c response hmem
    exact ⟨id, origin, output, htrace hresponded, hframe⟩

/-- The frame that arrives at the server is the oldest one of its connection. -/
theorem Flow.toServer (h : Flow s) (houtgoing : RpcClient.Outgoing s.client) {conn : ConnId}
    {frame : Bytes} {server : RpcServer.State}
    (hfirst : s.client.outbox.first conn = some frame) (htrace : s.server.trace ⊆ server.trace)
    (hdelivery : RpcServer.Delivery s.server server conn frame) :
    Flow ⟨{ s.client with outbox := s.client.outbox.dropFirst conn }, server⟩ where
  requests_le c i := by
    have hle := h.requests_le c i
    have harrives := hdelivery.requests_le c i
    rw [Channel.count_dropFirst hfirst] at hle
    dsimp only
    omega
  requests c i hopen := by
    have heq := h.requests c i ⟨hopen.1, hdelivery.open_of c hopen.2⟩
    have harrives := hdelivery.requests c i hopen.2
    rw [Channel.count_dropFirst hfirst] at heq
    dsimp only
    omega
  cancels c i := by
    have hle := h.cancels c i
    have harrives := hdelivery.cancels c i
    rw [Channel.count_dropFirst hfirst] at hle
    dsimp only
    omega
  responses_le c i := by
    have hle := h.responses_le c i
    have hbalance := hdelivery.responses c i
    dsimp only
    omega
  responses c i hopen := by
    have heq := h.responses c i ⟨hopen.1, hdelivery.open_of c hopen.2⟩
    have hbalance := hdelivery.responses c i
    dsimp only
    omega
  calls n c q hmem := by
    rcases hdelivery.received n c q hmem with hold | ⟨-, hframe⟩
    · exact h.calls n c q hold
    · rcases houtgoing.outbox conn frame (Channel.mem_of_first hfirst) with
        ⟨id, a, hcall, henc, rfl⟩ | ⟨id, rfl⟩
      · rw [RpcMessage.ofFrame?_request henc] at hframe
        obtain rfl := RpcMessage.request.inj (Option.some.inj hframe)
        exact ⟨a, hcall, rfl⟩
      · cases (RpcMessage.ofFrame?_cancel _).symm.trans hframe
  answers c response hmem := by
    obtain ⟨id, origin, output, hresponded, hframe⟩ := h.answers c response hmem
    exact ⟨id, origin, output, htrace hresponded, hframe⟩

/-- The frame that arrives at the client is the oldest one of its connection. -/
theorem Flow.toClient (h : Flow s) (houtgoing : RpcServer.Outgoing s.server .idle) {conn : ConnId}
    {frame : Bytes} {client : RpcClient.State}
    (hfirst : s.server.outbox.first conn = some frame)
    (hdelivery : RpcClient.Delivery s.client client conn frame) :
    Flow ⟨client, { s.server with outbox := s.server.outbox.dropFirst conn }⟩ where
  requests_le c i := by
    dsimp only
    rw [hdelivery.requests, hdelivery.outbox]
    exact h.requests_le c i
  requests c i hopen := by
    dsimp only
    rw [hdelivery.requests, hdelivery.outbox]
    exact h.requests c i ⟨hdelivery.open_of c hopen.1, hopen.2⟩
  cancels c i := by
    dsimp only
    rw [hdelivery.cancels, hdelivery.outbox]
    exact h.cancels c i
  responses_le c i := by
    have hle := h.responses_le c i
    have harrives := hdelivery.responses_le c i
    rw [Channel.count_dropFirst hfirst] at hle
    dsimp only
    omega
  responses c i hopen := by
    have heq := h.responses c i ⟨hdelivery.open_of c hopen.1, hopen.2⟩
    have harrives := hdelivery.responses c i hopen.1
    rw [Channel.count_dropFirst hfirst] at heq
    dsimp only
    omega
  calls n c q hmem := by
    obtain ⟨a, hcall, hq⟩ := h.calls n c q hmem
    exact ⟨a, hdelivery.calls ▸ hcall, hq⟩
  answers c response hmem := by
    rcases hdelivery.received c response hmem with hold | ⟨rfl, hframe⟩
    · exact h.answers c response hold
    · obtain ⟨id, origin, hresponded⟩ := houtgoing.outbox c frame (Channel.mem_of_first hfirst)
      exact ⟨id, origin, frame, hresponded, hframe⟩

/-- A frame for the server is lost on a connection that is not open. -/
theorem Flow.loseToServer (h : Flow s) {conn : ConnId} (hopen : ¬ s.Open conn) :
    Flow { s with client := { s.client with outbox := s.client.outbox.dropFirst conn } } where
  requests_le c i :=
    (Nat.add_le_add_left (Channel.count_dropFirst_le _ _ _ _) _).trans (h.requests_le c i)
  requests c i hc := by
    have hne : conn ≠ c := fun heq => hopen (heq ▸ hc)
    dsimp only
    rw [Channel.count_dropFirst_of_ne _ hne]
    exact h.requests c i hc
  cancels c i :=
    (Nat.add_le_add_left (Channel.count_dropFirst_le _ _ _ _) _).trans (h.cancels c i)
  responses_le := h.responses_le
  responses := h.responses
  calls := h.calls
  answers := h.answers

/-- A frame for the client is lost on a connection that is not open. -/
theorem Flow.loseToClient (h : Flow s) {conn : ConnId} (hopen : ¬ s.Open conn) :
    Flow { s with server := { s.server with outbox := s.server.outbox.dropFirst conn } } where
  requests_le := h.requests_le
  requests := h.requests
  cancels := h.cancels
  responses_le c i :=
    (Nat.add_le_add_left (Channel.count_dropFirst_le _ _ _ _) _).trans (h.responses_le c i)
  responses c i hc := by
    have hne : conn ≠ c := fun heq => hopen (heq ▸ hc)
    dsimp only
    rw [Channel.count_dropFirst_of_ne _ hne]
    exact h.responses c i hc
  calls := h.calls
  answers := h.answers

theorem Flow.step (h : Flow s) (hclient : (RpcClient.machine clientConfig).Reachable s.client)
    (hserver : (RpcServer.machine serverConfig).Reachable s.server)
    (hmoves : Moves clientConfig serverConfig s s') : Flow s' := by
  cases hmoves with
  | client haction hs => exact h.client (RpcClient.quiet_of_step haction hs)
  | server haction hs =>
    exact h.server (RpcServer.trace_subset_of_step hs) (RpcServer.quiet_of_step haction hs)
  | toServer hfirst hs =>
    exact h.toServer (RpcClient.outgoing_of_reachable hclient) hfirst
      (RpcServer.trace_subset_of_step hs) (RpcServer.delivery_of_step hs)
  | toClient hcurrent hfirst hs =>
    exact h.toClient (RpcServer.outgoing_of_reachable hserver) hfirst
      (RpcClient.delivery_of_step (RpcClient.fresh_of_reachable hclient) hcurrent hs)
  | loseToServer hopen => exact h.loseToServer hopen
  | loseToClient hopen => exact h.loseToClient hopen

theorem flow_of_reachable (h : (machine clientConfig serverConfig).Reachable s) : Flow s := by
  refine h.invariant (P := Flow) flow_init ?_
  intro s a s' hs hflow hstep
  obtain ⟨hclient, hserver⟩ := ends_of_reachable hs
  exact hflow.step hclient hserver (moves_of_step hstep)

end MiniRpc.System
