import MiniRpc.RpcClient.Equiv.Work
import MiniRpc.RpcServer.Equiv.Completion
import MiniRpc.System.Equiv.Flow

/-!
# A client and a server that are left alone

The internal actions of the system are those of its two ends and the arrival of the frames in
flight.  Each of them lowers `rank`, which counts what the two ends have to do and prices a frame by
what its arrival can start: a response completes one call of the client, a request becomes one
operation of the server and one response (`rank_lt_of_step`).

A system that can take no internal step has nothing to do at either end, and no frame is in flight
to an end that still takes frames from the connection (`Rest.toServer`, `Rest.toClient`).
-/

namespace MiniRpc.System

variable {clientConfig : RpcClient.Config} {serverConfig : RpcServer.Config} {s s' : State}
  {a : Action} {c : ConnId}

/-- The actions that nobody outside has to do anything for: user code returns, and frames arrive. -/
def internal : Action → Bool
  | .client action => RpcClient.internal action
  | .server action => RpcServer.internal action
  | .toServer _ _ | .toClient _ => true
  | .loseToServer _ | .loseToClient _ => false

/-- What is left to do. -/
def rank (s : State) : ℕ :=
  s.client.rank 40 + (5 * s.server.work.rank + 4 * s.server.outbox.length)

/-! ### The rank -/

/-- What the server does by itself lowers its part of the rank. -/
theorem rank_lt_of_server {action : RpcServer.Action} {server : RpcServer.State}
    (ha : RpcServer.internal action = true)
    (h : RpcServer.step serverConfig s.server action = some server) :
    rank { s with server := server } < rank s := by
  have hwork := (RpcServer.ranks serverConfig).lowers _ _ _ trivial ha h
  have hsent := (RpcServer.sendsOne_of_step h (RpcServer.isNetwork_of_internal ha)).length_le
  unfold rank
  dsimp only at hwork ⊢
  omega

/-- The price of a frame for the server pays for what the server does with it. -/
theorem rank_lt_of_toServer {conn : ConnId} {frame : Bytes}
    {outcome : Option RpcServer.RpcResult} {server : RpcServer.State}
    (hfirst : s.client.outbox.first conn = some frame)
    (h : RpcServer.step serverConfig s.server (.deliver conn frame outcome) = some server) :
    rank ⟨{ s.client with outbox := s.client.outbox.dropFirst conn }, server⟩ < rank s := by
  have hclient := RpcClient.rank_dropFirst (w := 40) hfirst
  have hwork := (RpcServer.ranks serverConfig).raises _ (.deliver conn frame outcome) _ trivial
    rfl h
  have hsent : server.outbox.length ≤ s.server.outbox.length + 1 := by
    cases RpcServer.stepped_of_step h with
    | deliver => exact (RpcServer.sendsOne_onRpcMessage _ _ _ _).length_le
  simp only [RpcServer.Work.cost] at hwork
  unfold rank
  dsimp only
  omega

/-- The price of a frame for the client pays for the callback that it may complete. -/
theorem rank_lt_of_toClient {conn : ConnId} {frame : Bytes} {client : RpcClient.State}
    (hfirst : s.server.outbox.first conn = some frame)
    (h : RpcClient.step clientConfig s.client (.deliver frame) = some client) :
    rank ⟨client, { s.server with outbox := s.server.outbox.dropFirst conn }⟩ < rank s := by
  have hclient := RpcClient.rank_deliver_le (w := 40) h
  have hlen := (Channel.perm_of_first hfirst).length_eq
  rw [List.length_cons] at hlen
  have hwork : RpcServer.State.work { s.server with
    outbox := s.server.outbox.dropFirst conn } = s.server.work := rfl
  unfold rank
  dsimp only
  rw [hwork]
  omega

/-- **Each internal step lowers the rank.** -/
theorem rank_lt_of_step (ha : internal a = true)
    (h : step clientConfig serverConfig s a = some s') : rank s' < rank s := by
  cases a with
  | client action =>
    simp only [step] at h
    split_ifs at h with hnetwork
    obtain ⟨client, hclient, rfl⟩ := Option.map_eq_some_iff.mp h
    exact Nat.add_lt_add_right (RpcClient.rank_lt_of_internal ha hclient) _
  | server action =>
    simp only [step] at h
    split_ifs at h with hnetwork
    obtain ⟨server, hserver, rfl⟩ := Option.map_eq_some_iff.mp h
    exact rank_lt_of_server ha hserver
  | toServer conn outcome =>
    obtain ⟨frame, hfirst, h⟩ := Option.bind_eq_some_iff.mp h
    obtain ⟨client, hclient, h⟩ := Option.bind_eq_some_iff.mp h
    obtain ⟨server, hserver, h⟩ := Option.bind_eq_some_iff.mp h
    obtain rfl := Option.some.inj hclient
    obtain rfl := Option.some.inj h
    exact rank_lt_of_toServer hfirst hserver
  | toClient conn =>
    simp only [step] at h
    split_ifs at h with hcurrent
    obtain ⟨frame, hfirst, h⟩ := Option.bind_eq_some_iff.mp h
    obtain ⟨server, hserver, h⟩ := Option.bind_eq_some_iff.mp h
    obtain ⟨client, hclient, h⟩ := Option.bind_eq_some_iff.mp h
    obtain rfl := Option.some.inj hserver
    obtain rfl := Option.some.inj h
    exact rank_lt_of_toClient hfirst hclient
  | loseToServer | loseToClient => cases ha

theorem descends (clientConfig : RpcClient.Config) (serverConfig : RpcServer.Config) :
    Machine.Descends (machine clientConfig serverConfig) (fun _ => True) internal rank where
  kept _ _ _ _ _ := trivial
  lowers _ _ _ _ ha hs := rank_lt_of_step ha hs

/-! ### At rest -/

section Rest

variable (hrest : (machine clientConfig serverConfig).Rest internal s)

include hrest

theorem Rest.client : (RpcClient.machine clientConfig).Rest RpcClient.internal s.client := by
  intro action ha
  have hnone : step clientConfig serverConfig s (.client action) = none := hrest (.client action) ha
  simp only [step, RpcClient.isNetwork_of_internal ha, Bool.false_eq_true, if_false,
    Option.map_eq_none_iff] at hnone
  exact hnone

theorem Rest.server : (RpcServer.machine serverConfig).Rest RpcServer.internal s.server := by
  intro action ha
  have hnone : step clientConfig serverConfig s (.server action) = none := hrest (.server action) ha
  simp only [step, RpcServer.isNetwork_of_internal ha, Bool.false_eq_true, if_false,
    Option.map_eq_none_iff] at hnone
  exact hnone

theorem Rest.absurd_step (ha : internal a = true)
    (h : step clientConfig serverConfig s a = some s') : False := by
  have hnone : step clientConfig serverConfig s a = none := hrest a ha
  cases hnone.symm.trans h

/-- A server that takes frames from a connection has taken those that were sent. -/
theorem Rest.toServer (hup : (s.server.connections c).state = .kUp) (frame : Bytes) :
    (c, frame) ∉ s.client.outbox := by
  intro hmem
  obtain ⟨first, hfirst⟩ := Channel.exists_first hmem
  have hidle : s.server.busy (.loop (serverConfig.loopOf c)) = false := by
    rw [RpcServer.State.busy, RpcServer.Rest.running_eq (Rest.server hrest), List.any_nil]
  have hserver : RpcServer.step serverConfig s.server (.deliver c first none) =
      some (RpcServer.onRpcMessage serverConfig s.server c first none) := if_pos ⟨hup, hidle⟩
  have hstep : step clientConfig serverConfig s (.toServer c none) =
      some ⟨{ s.client with outbox := s.client.outbox.dropFirst c },
        RpcServer.onRpcMessage serverConfig s.server c first none⟩ := by
    refine Option.bind_eq_some_iff.mpr ⟨first, hfirst, ?_⟩
    refine Option.bind_eq_some_iff.mpr ⟨_, rfl, ?_⟩
    exact Option.bind_eq_some_iff.mpr ⟨_, hserver, rfl⟩
  exact Rest.absurd_step hrest rfl hstep

/-- A client that is not in the middle of an operation has taken what was sent to it. -/
theorem Rest.toClient (hcurrent : s.client.tcpClient_.current = some c) (frame : Bytes) :
    (c, frame) ∉ s.server.outbox := by
  intro hmem
  obtain ⟨first, hfirst⟩ := Channel.exists_first hmem
  have hstack := RpcClient.Rest.stack_eq (Rest.client hrest)
  have hclient : RpcClient.step clientConfig s.client (.deliver first) =
      some (RpcClient.onRpcMessage clientConfig s.client c first) := by
    rw [RpcClient.step_idle (.inr ⟨first, rfl⟩) hstack]
    unfold RpcClient.stepIdle
    dsimp only
    rw [hcurrent]
  have hstep : step clientConfig serverConfig s (.toClient c) =
      some ⟨RpcClient.onRpcMessage clientConfig s.client c first,
        { s.server with outbox := s.server.outbox.dropFirst c }⟩ := by
    refine (if_pos hcurrent).trans (Option.bind_eq_some_iff.mpr ⟨first, hfirst, ?_⟩)
    refine Option.bind_eq_some_iff.mpr ⟨_, rfl, ?_⟩
    exact Option.bind_eq_some_iff.mpr ⟨_, hclient, rfl⟩
  exact Rest.absurd_step hrest rfl hstep

end Rest

end MiniRpc.System
