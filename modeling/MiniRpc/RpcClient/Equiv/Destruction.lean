import MiniRpc.RpcClient.Destruction
import MiniRpc.RpcClient.Equiv.Timers

/-!
# What is left of a client that was destroyed

Every live timer is the timer of a pending request, so the destructor cancels them all
(`lookup_destroy`).  From then on the loop can only run the tasks that other threads have queued, or
were about to queue, when the client was destroyed; and each call that was ever made is accounted
for: its callback was taken, or it was dropped with the pending requests, or it is one of these
tasks (`Gone`).
-/

namespace MiniRpc.RpcClient

variable {cfg : Config}

/-! ### The destructor -/

/-- A timer that is left was live, and is not the timer of an entry. -/
theorem lookup_of_foldl_cancelIfSet (items : List (UInt64 × PendingRequest))
    (loop : EventLoop TimerTask LoopTask) {t : TimerId} {timer : Timer TimerTask}
    (h : (items.foldl (fun loop item => loop.cancelIfSet item.2.timerId) loop).timers.lookup t =
      some timer) :
    loop.timers.lookup t = some timer ∧ ∀ item ∈ items, item.2.timerId ≠ some t := by
  induction items generalizing loop with
  | nil => exact ⟨h, fun item hitem => by cases hitem⟩
  | cons item items ih =>
    obtain ⟨hlive, hrest⟩ := ih _ h
    obtain ⟨hne, hlive⟩ := loop.lookup_of_cancelIfSet hlive
    refine ⟨hlive, fun other hother => ?_⟩
    rcases List.mem_cons.mp hother with rfl | hother
    · exact hne
    · exact hrest other hother

theorem tasks_foldl_cancelIfSet (items : List (UInt64 × PendingRequest))
    (loop : EventLoop TimerTask LoopTask) :
    (items.foldl (fun loop item => loop.cancelIfSet item.2.timerId) loop).tasks = loop.tasks := by
  induction items generalizing loop with
  | nil => rfl
  | cons item items ih => rw [List.foldl_cons, ih, EventLoop.tasks_cancelIfSet]

theorem destroy_eq (s : State) (order : List UInt64) : destroy s order = { s with
    pendingRequests_ := ∅
    ignoredResponseRequests_ := ∅
    loop_ := (entries order s.pendingRequests_).foldl
      (fun loop item => loop.cancelIfSet item.2.timerId) s.loop_ } := by
  simp only [destroy, clearPendingRequests, clearIgnoredResponseRequests, foldl_cancelTimer]

/-- No timer survives the destructor. -/
theorem lookup_destroy {s : State} {order : List UInt64} (h : Timers s)
    (horder : IterationOrder order s.pendingRequests_) (t : TimerId) :
    (destroy s order).loop_.timers.lookup t = none := by
  rw [destroy_eq]
  refine Option.eq_none_iff_forall_ne_some.mpr fun timer ht => ?_
  obtain ⟨hlive, hcancelled⟩ := lookup_of_foldl_cancelIfSet _ _ ht
  obtain ⟨p, hp, hpt⟩ := h.live t timer hlive
  have hmem := horder.mem_iff.mpr (Finmap.mem_of_lookup_eq_some hp)
  exact hcancelled (timer.task.requestId, p) (mem_entries.mpr ⟨hmem, hp⟩) hpt

/-- An id is in exactly one place if it was drawn, and in none otherwise. -/
theorem Ledger.copies_eq {s : State} (h : Ledger s) (id : UInt64) :
    s.copies id = if s.Drawn id then 1 else 0 := by
  have hle := h.le_one id
  have hdrawn := h.drawn id
  split_ifs with hid
  · have hpos := hdrawn.mpr hid
    omega
  · have hzero : ¬ 0 < s.copies id := fun hpos => hid (hdrawn.mp hpos)
    omega

namespace Destruction

variable {s s' : State} {id : UInt64}

/-! ### Where an id can be -/

/-- The loop ran the call with this id. -/
def Use.isCall (id : UInt64) : Use → Bool
  | .task t => t.isCall id
  | _ => false

/-- How many places the id of a call is in, once the pending requests have been dropped. -/
def places (s : State) (id : UInt64) : ℕ :=
  s.client.calling.countP (fun call => call.1 == id) + s.client.queuedCalls id +
    s.client.taken id + s.dropped.count id + s.uses.countP (Use.isCall id)

/-- A client that was destroyed. -/
structure Gone (s : State) : Prop where
  timers : ∀ t, s.client.loop_.timers.lookup t = none
  sweeping : s.sweeping = false
  /-- The loop has run no timer of it. -/
  uses : ∀ u ∈ s.uses, ∃ task, u = .task task
  left : s.uses.length + s.client.loop_.tasks.length + s.client.calling.length = s.left
  places : ∀ id, places s id = if s.client.Drawn id then 1 else 0

/-- The destructor drops the pending requests and leaves the other places as they are. -/
theorem gone_of_destroy {client : RpcClient.State} {order : List UInt64} (hledger : Ledger client)
    (htimers : Timers client) (horder : IterationOrder order client.pendingRequests_) :
    Gone ⟨RpcClient.destroy client order, false, true, order,
      client.calling.length + client.loop_.tasks.length, []⟩ where
  timers := lookup_destroy htimers horder
  sweeping := rfl
  uses u hu := by cases hu
  left := by
    rw [destroy_eq]
    show 0 + List.length (EventLoop.tasks (List.foldl _ _ _)) + client.calling.length =
      client.calling.length + client.loop_.tasks.length
    rw [tasks_foldl_cancelIfSet]
    omega
  places id := by
    have hcopies := hledger.copies_eq id
    have hcount : order.count id = if id ∈ client.pendingRequests_ then 1 else 0 := by
      rw [horder.1.count]
      simp only [horder.mem_iff]
    have htasks : (RpcClient.destroy client order).queuedCalls id = client.queuedCalls id := by
      rw [destroy_eq]
      show (EventLoop.tasks (List.foldl _ _ _)).countP _ = _
      rw [tasks_foldl_cancelIfSet]
      rfl
    have htaken : (RpcClient.destroy client order).taken id = client.taken id := by
      rw [destroy_eq]
      rfl
    have hcalling : (RpcClient.destroy client order).calling = client.calling := by
      rw [destroy_eq]
    have hdrawn : (RpcClient.destroy client order).Drawn id ↔ client.Drawn id := by
      rw [destroy_eq]
      rfl
    simp only [State.copies] at hcopies
    simp only [Destruction.places, htasks, htaken, hcalling, hcount, hdrawn, List.countP_nil]
    omega

/-! ### What goes on -/

/-- What goes on after the client was destroyed. -/
inductive Later (s : State) : RpcClient.Action → State → Prop
  | tick {d : ℕ} : Later s (.tick d) { s with
      client := { s.client with loop_ := s.client.loop_.tick d } }
  | queueCall {k : ℕ} {requestId : UInt64} {a : CallArgs}
      (hk : s.client.calling[k]? = some (requestId, a)) : Later s (.queueCall k) { s with
        client := { s.client with
          calling := s.client.calling.eraseIdx k
          loop_ := s.client.loop_.queueInLoop (.callInLoop requestId a) } }
  | leaveUser {rest : List Frame} (hstack : s.client.stack = .userCode :: rest) :
      Later s .leaveUser { s with client := { s.client with stack := rest } }
  | runTask {task : LoopTask} {tasks : List LoopTask}
      (htasks : s.client.loop_.tasks = task :: tasks) : Later s .runTask { s with
        client := { s.client with loop_ := s.client.loop_.setTasks tasks }
        uses := .task task :: s.uses }
  | fireTimer {t : TimerId} {task : TimerTask} {loop : EventLoop TimerTask LoopTask}
      (hfire : s.client.loop_.fire t = some (task, loop)) : Later s (.fireTimer t) { s with
        client := { s.client with loop_ := loop }
        uses := .timer task :: s.uses }
  | sweep (hsweeping : s.sweeping = true) : Later s .sweep { s with uses := .sweep :: s.uses }

theorem later_of_stepDestroyed {a : RpcClient.Action} (h : stepDestroyed s a = some s') :
    Later s a s' := by
  cases a with
  | tick d =>
    obtain rfl := Option.some.inj h
    exact .tick
  | queueCall k =>
    obtain ⟨client, hstep, rfl⟩ := Option.map_eq_some_iff.mp h
    have hstepped : Stepped .default s.client (.queueCall k) client := stepped_of_stepOutside hstep
    cases hstepped with
    | queueCall hk => exact .queueCall hk
  | leaveUser =>
    simp only [stepDestroyed] at h
    split at h
    · rename_i hstack
      obtain rfl := Option.some.inj h
      exact .leaveUser hstack
    · cases h
  | runTask =>
    simp only [stepDestroyed] at h
    split at h
    · rename_i htasks
      obtain rfl := Option.some.inj h
      exact .runTask htasks
    · cases h
  | fireTimer t =>
    simp only [stepDestroyed] at h
    split at h
    · rename_i hfire
      obtain rfl := Option.some.inj h
      exact .fireTimer hfire
    · cases h
  | sweep =>
    obtain ⟨hcond, heq⟩ := Option.ite_none_right_eq_some.mp h
    obtain rfl := Option.some.inj heq
    exact .sweep hcond.2
  | _ => cases h

/-- What goes on draws no id, and the client stays destroyed. -/
theorem Later.frame {a : RpcClient.Action} (h : Later s a s') :
    s'.client.nextRequestId_ = s.client.nextRequestId_ ∧ s'.destroyed = s.destroyed := by
  cases h <;> exact ⟨rfl, rfl⟩

/-- A call moves from its thread to the queue. -/
theorem Gone.queueCall {k : ℕ} {requestId : UInt64} {a : CallArgs} (h : Gone s)
    (hk : s.client.calling[k]? = some (requestId, a)) : Gone { s with
      client := { s.client with
        calling := s.client.calling.eraseIdx k
        loop_ := s.client.loop_.queueInLoop (.callInLoop requestId a) } } := by
  obtain ⟨hlt, hget⟩ := List.getElem?_eq_some_iff.mp hk
  refine ⟨h.timers, h.sweeping, h.uses, ?_, fun id => ?_⟩
  · have hleft := h.left
    show s.uses.length + (s.client.loop_.tasks ++ [_]).length +
      (s.client.calling.eraseIdx k).length = s.left
    rw [List.length_append, List.length_singleton, List.length_eraseIdx_of_lt hlt]
    omega
  · have hperm := (List.getElem_cons_eraseIdx_perm hlt).countP_eq fun call => call.1 == id
    rw [hget, List.countP_cons] at hperm
    dsimp only at hperm
    have htasks : (s.client.loop_.tasks ++ [LoopTask.callInLoop requestId a]).countP
        (LoopTask.isCall id) =
          s.client.queuedCalls id + if (requestId == id) = true then 1 else 0 :=
      isCall_append _ _ _
    have hplaces := h.places id
    simp only [Destruction.places] at hplaces
    show (s.client.calling.eraseIdx k).countP _ +
      (s.client.loop_.tasks ++ [LoopTask.callInLoop requestId a]).countP _ +
      s.client.taken id + s.dropped.count id + s.uses.countP _ = _
    rw [htasks]
    refine Eq.trans ?_ hplaces
    omega

/-- A task moves from the queue to what the loop ran. -/
theorem Gone.runTask {task : LoopTask} {tasks : List LoopTask} (h : Gone s)
    (htasks : s.client.loop_.tasks = task :: tasks) : Gone { s with
      client := { s.client with loop_ := s.client.loop_.setTasks tasks }
      uses := .task task :: s.uses } := by
  refine ⟨h.timers, h.sweeping, fun u hu => ?_, ?_, fun id => ?_⟩
  · rcases List.mem_cons.mp hu with rfl | hu
    · exact ⟨task, rfl⟩
    · exact h.uses u hu
  · have hleft := h.left
    rw [htasks, List.length_cons] at hleft
    show (Use.task task :: s.uses).length + tasks.length + s.client.calling.length = s.left
    rw [List.length_cons]
    omega
  · have hplaces := h.places id
    simp only [Destruction.places, RpcClient.State.queuedCalls, htasks, List.countP_cons]
      at hplaces
    have huses : (Use.task task :: s.uses).countP (Use.isCall id) =
        s.uses.countP (Use.isCall id) + if LoopTask.isCall id task = true then 1 else 0 :=
      List.countP_cons
    show s.client.calling.countP _ + tasks.countP _ + s.client.taken id + s.dropped.count id +
      (Use.task task :: s.uses).countP _ = _
    rw [huses]
    refine Eq.trans ?_ hplaces
    omega

/-- User code that returns holds no callback. -/
theorem Gone.leaveUser {rest : List Frame} (h : Gone s)
    (hstack : s.client.stack = .userCode :: rest) :
    Gone { s with client := { s.client with stack := rest } } := by
  have hperm := perm_of_pop hstack fun _ hf => by cases hf
  refine ⟨h.timers, h.sweeping, h.uses, h.left, fun id => ?_⟩
  have htaken : ({ s.client with stack := rest } : RpcClient.State).taken id =
      s.client.taken id := hperm.countP_eq _
  refine Eq.trans ?_ (h.places id)
  simp only [Destruction.places, htaken]
  rfl

theorem Gone.step {a : RpcClient.Action} (h : Gone s) (hs : Later s a s') : Gone s' := by
  cases hs with
  | tick => exact ⟨h.timers, h.sweeping, h.uses, h.left, h.places⟩
  | queueCall hk => exact h.queueCall hk
  | leaveUser hstack => exact h.leaveUser hstack
  | runTask htasks => exact h.runTask htasks
  | @fireTimer t task loop hfire =>
    -- there is no timer to fire
    obtain ⟨deadline, hlive, -⟩ := EventLoop.fire_eq_some hfire
    cases (h.timers t).symm.trans hlive
  | sweep hsweeping => cases h.sweeping.symm.trans hsweeping

/-! ### Before and after -/

/-- The client is the one of `RpcClient.machine` until it is destroyed. -/
inductive Phase (cfg : Config) (s : State) : Prop
  | alive (hdestroyed : s.destroyed = false) (huses : s.uses = [])
      (h : (RpcClient.machine cfg).Reachable s.client)
  | destroyed (hdestroyed : s.destroyed = true)
      (h : s.client.nextRequestId_ ≤ 2 ^ 64 → Gone s)

theorem Phase.step {a : Action} (h : Phase cfg s) (hs : step cfg s a = some s') :
    Phase cfg s' := by
  cases a with
  | act a =>
    cases h with
    | alive hdestroyed huses h =>
      simp only [Destruction.step, hdestroyed, Bool.false_eq_true, if_false] at hs
      obtain ⟨client, hstep, rfl⟩ := Option.map_eq_some_iff.mp hs
      exact .alive rfl huses (h.step hstep)
    | destroyed hdestroyed h =>
      simp only [Destruction.step, hdestroyed, if_true] at hs
      have hlater := later_of_stepDestroyed hs
      obtain ⟨hnext, hstays⟩ := hlater.frame
      exact .destroyed (hstays.trans hdestroyed) fun hcalls => (h (hnext ▸ hcalls)).step hlater
  | destroy order =>
    obtain ⟨⟨hdestroyed, -, horder⟩, heq⟩ := Option.ite_none_right_eq_some.mp hs
    obtain rfl := Option.some.inj heq
    cases h with
    | alive _ huses h =>
      refine .destroyed rfl fun hcalls => ?_
      have hbound : s.client.nextRequestId_ ≤ 2 ^ 64 := by
        rw [show (RpcClient.destroy s.client order).nextRequestId_ = _ by rw [destroy_eq]]
          at hcalls
        exact hcalls
      have hgone := gone_of_destroy (ledger_of_reachable h hbound) (timers_of_reachable h hbound)
        horder
      rw [huses]
      exact hgone
    | destroyed hgone => cases hdestroyed.symm.trans hgone

theorem phase_of_reachable (h : (machine cfg).Reachable s) : Phase cfg s :=
  h.invariant (.alive rfl rfl .init) fun _ _ _ _ hold hs => hold.step hs

/-! ### The law -/

/-- What is left of a client that was destroyed. -/
structure Released (s : State) : Prop where
  /-- No timer of the client is live. -/
  timers : (∀ t, s.client.loop_.timers.lookup t = none) ∧ s.sweeping = false
  /-- The loop runs only tasks of the client, those that were left when it was destroyed. -/
  uses : (∀ u ∈ s.uses, ∃ task, u = .task task) ∧
    s.uses.length + s.client.loop_.tasks.length + s.client.calling.length = s.left
  /-- With no task left, nothing of the client is run. -/
  unused : s.left = 0 → s.uses = []
  /-- A call is dropped, or its callback was taken, or it is one of these tasks. -/
  calls : ∀ id, s.client.Drawn id → places s id = 1
  /-- The callback of a request that was dropped is never invoked. -/
  dropped : ∀ id ∈ s.dropped, s.client.Drawn id ∧ s.client.taken id = 0

theorem Gone.released (h : Gone s) : Released s := by
  refine ⟨⟨h.timers, h.sweeping⟩, ⟨h.uses, h.left⟩, fun hnone => ?_, fun id hid => ?_,
    fun id hid => ?_⟩
  · have hleft := h.left
    exact List.eq_nil_of_length_eq_zero (by omega)
  · rw [h.places id, if_pos hid]
  · have hcount := List.count_pos_iff.mpr hid
    have hplaces := h.places id
    simp only [Destruction.places] at hplaces
    split_ifs at hplaces with hdrawn
    · exact ⟨hdrawn, by omega⟩
    · omega

end Destruction

end MiniRpc.RpcClient
