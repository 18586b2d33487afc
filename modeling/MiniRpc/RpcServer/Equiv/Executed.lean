import MiniRpc.RpcServer.Equiv.Once
import MiniRpc.RpcServer.Equiv.Served

/-!
# What the server executes

A handler is invoked only for a `Request` frame that was received, it is the one that is registered
for the method (`Executed`), and it is invoked no more often than such frames were received
(`invoked_le_received`).
-/

namespace MiniRpc.RpcServer

variable {cfg : Config} {proper network : Prop} {s s' : State} {phase phase' : Phase}
  {frame : FrameId} {conn : ConnId} {request : RpcRequest} {handler : Handler}

/-- An invocation on record is for a frame on record, with the handler of its method. -/
structure Executed (cfg : Config) (trace : List Event) : Prop where
  received : ∀ frame conn request handler, .invoked frame conn request handler ∈ trace →
    .requestReceived frame conn request ∈ trace
  registered : ∀ frame conn request handler, .invoked frame conn request handler ∈ trace →
    cfg.Registered request.service_ request.method_ handler

/-- What is invoked in a transition was to be invoked. -/
theorem Transition.invoked (ht : Transition cfg proper network (s, phase) (s', phase'))
    (hserved : Served cfg s phase) (hmem : .invoked frame conn request handler ∈ s'.trace) :
    .invoked frame conn request handler ∈ s.trace ∨
      .requestReceived frame conn request ∈ s.trace ∧
        cfg.Registered request.service_ request.method_ handler := by
  have hcons : ∀ {e : Event} {trace : List Event}, e ≠ .invoked frame conn request handler →
      .invoked frame conn request handler ∈ e :: trace →
      .invoked frame conn request handler ∈ trace :=
    fun he hmem => (List.mem_cons.mp hmem).resolve_left (Ne.symm he)
  have hnew : ∀ {inv : Invocation}, s.Waiting inv → .invoked frame conn request handler ∈
      .invoked inv.frame inv.conn inv.request (.async inv.handler) :: s.trace →
      .invoked frame conn request handler ∈ s.trace ∨ .requestReceived frame conn request ∈
        s.trace ∧ cfg.Registered request.service_ request.method_ handler := by
    intro inv hwaiting hmem
    rcases List.mem_cons.mp hmem with heq | hold
    · obtain ⟨rfl, rfl, rfl, rfl⟩ := Event.invoked.inj heq
      have hknown := hserved.waiting inv hwaiting
      exact .inr ⟨hknown.received, hknown.registered⟩
    · exact .inl hold
  cases ht with
  | invokeSync outcome hhandler =>
    rcases List.mem_cons.mp hmem with heq | hmem
    · cases heq
    · rcases List.mem_cons.mp hmem with heq | hold
      · obtain ⟨rfl, rfl, rfl, rfl⟩ := Event.invoked.inj heq
        exact .inr ⟨hserved.received _ _ _ rfl, hhandler⟩
      · exact .inl hold
  | @startHandler _ inv t _ _ hrunning =>
    exact hnew (.inl ⟨t, hrunning.mem_iff.mpr List.mem_cons_self⟩) hmem
  | @workerTake _ inv w pool hpool => exact hnew (.inr (hpool ▸ List.mem_cons_self)) hmem
  | refuse | refuseDuplicate =>
    exact .inl (hcons (by simp) (hcons (by simp) hmem))
  | receive | refuseLimit | respond | close | cancel | cancelNone | refuseReplied | handlerThrows
  | userReply | forceClose | down | stopCompleted =>
    exact .inl (hcons (by simp) hmem)
  | _ => exact .inl hmem

theorem Executed.step (h : Executed cfg s.trace) (hserved : Served cfg s phase)
    (ht : Transition cfg proper network (s, phase) (s', phase')) : Executed cfg s'.trace where
  received frame conn request handler hmem := by
    rcases ht.invoked hserved hmem with hold | ⟨hreceived, -⟩
    · exact ht.trace_subset (h.received _ _ _ _ hold)
    · exact ht.trace_subset hreceived
  registered frame conn request handler hmem := by
    rcases ht.invoked hserved hmem with hold | ⟨-, hregistered⟩
    · exact h.registered _ _ _ _ hold
    · exact hregistered

theorem executed_of_reachable (h : (machine cfg).Reachable s) : Executed cfg s.trace :=
  (invariant (P := fun x => Served cfg x.1 x.2 ∧ Executed cfg x.1.trace)
    ⟨served_init, fun _ _ _ _ hmem => (by cases hmem), fun _ _ _ _ hmem => (by cases hmem)⟩
    (fun _ _ hP ht => ⟨hP.1.step ht, hP.2.step hP.1 ht⟩) h).2

/-- Handlers are invoked no more often than frames were received, whatever the frames have in
common. -/
theorem invoked_le_received (P : FrameProperty) (h : (machine cfg).Reachable s) :
    invoked P s.trace ≤ received P s.trace := by
  have hplaced := placed_of_reachable P h
  unfold Placed place at hplaced
  omega

end MiniRpc.RpcServer
