import MiniRpc.RpcServer.Equiv.Decompose
import MiniRpc.RpcServer.Equiv.Session

/-!
# A server without a worker pool

Its handlers are called on the loops, and a loop has at most one operation in progress
(`Confined`).  The limits of the registry stay as they were set.
-/

namespace MiniRpc.RpcServer

variable {cfg : Config} {s s' : State}

/-- The limits are those that were set, there is no worker pool, and each loop has at most one
operation in progress. -/
structure Confined (cfg : Config) (s : State) : Prop where
  global : s.cancellationRegistry_.maxActiveRequests_ = cfg.maxActiveRequests_
  perConnection : s.cancellationRegistry_.maxActiveRequestsPerConnection_ =
    cfg.maxActiveRequestsPerConnection_
  pool : s.taskPool_ = none
  single : ∀ l, s.running.countP (fun r => decide (r.1 = .loop l)) ≤ 1
  loops : ∀ t inv, (t, .submit inv) ∈ s.running → t = .loop (cfg.loopOf inv.conn)

theorem confined_init (hworkers : cfg.workers = none) : Confined cfg (.init cfg) where
  global := rfl
  perConnection := rfl
  pool := by rw [State.init, hworkers, Option.map_none]
  single _ := Nat.zero_le 1
  loops _ _ h := by cases h

/-! ### What does not matter -/

theorem Confined.of_frame (h : Confined cfg s)
    (hregistry : s'.cancellationRegistry_ = s.cancellationRegistry_)
    (hpool : s'.taskPool_ = s.taskPool_) (hrunning : s'.running = s.running) :
    Confined cfg s' where
  global := hregistry ▸ h.global
  perConnection := hregistry ▸ h.perConnection
  pool := hpool ▸ h.pool
  single := hrunning ▸ h.single
  loops := hrunning ▸ h.loops

theorem Confined.of_limits (h : Confined cfg s)
    (hlimits : s'.cancellationRegistry_.maxActiveRequests_ =
        s.cancellationRegistry_.maxActiveRequests_ ∧
      s'.cancellationRegistry_.maxActiveRequestsPerConnection_ =
        s.cancellationRegistry_.maxActiveRequestsPerConnection_)
    (hpool : s'.taskPool_ = s.taskPool_) (hrunning : s'.running = s.running) :
    Confined cfg s' where
  global := hlimits.1.trans h.global
  perConnection := hlimits.2.trans h.perConnection
  pool := hpool ▸ h.pool
  single := hrunning ▸ h.single
  loops := hrunning ▸ h.loops

/-- An operation that is no submission takes the place of another on its thread. -/
theorem Confined.set (h : Confined cfg s) {k : ℕ} {t : Thread} {activity activity' : Activity}
    (hk : s.running[k]? = some (t, activity)) (hactivity : ∀ inv, activity' ≠ .submit inv)
    (hregistry : s'.cancellationRegistry_ = s.cancellationRegistry_)
    (hpool : s'.taskPool_ = s.taskPool_) (hrunning : s'.running = s.running.set k (t, activity')) :
    Confined cfg s' where
  global := hregistry ▸ h.global
  perConnection := hregistry ▸ h.perConnection
  pool := hpool ▸ h.pool
  single l := by
    rw [hrunning, (perm_of_set hk (t, activity')).countP_eq]
    exact ((perm_of_getElem? hk).countP_eq _).symm.trans_le (h.single l)
  loops u inv hmem := by
    rw [hrunning] at hmem
    rcases List.mem_or_eq_of_mem_set hmem with hmem | heq
    · exact h.loops u inv hmem
    · exact absurd (Prod.mk.inj heq).2.symm (hactivity inv)

/-- An operation comes to its end. -/
theorem Confined.release (h : Confined cfg s) (k : ℕ) (t : Thread) :
    Confined cfg (s.release k t) := by
  have hrest : Confined cfg { s with running := s.running.eraseIdx k } :=
    ⟨h.global, h.perConnection, h.pool,
      fun l => (List.eraseIdx_sublist s.running k).countP_le.trans (h.single l),
      fun u inv hmem => h.loops u inv (List.mem_of_mem_eraseIdx hmem)⟩
  cases t with
  | worker w =>
    refine { hrest with pool := ?_ }
    show s.taskPool_.map _ = none
    rw [h.pool, Option.map_none]
  | loop | user => exact hrest

/-! ### The operations -/

theorem frame_sendFramedData (s : State) (conn : ConnId) (requestId : UInt64) (origin : Origin)
    (r : RpcResult) (maxMessageSize : ℕ) :
    (sendFramedData s conn requestId origin r maxMessageSize).cancellationRegistry_ =
        s.cancellationRegistry_ ∧
      (sendFramedData s conn requestId origin r maxMessageSize).taskPool_ = s.taskPool_ ∧
      (sendFramedData s conn requestId origin r maxMessageSize).running = s.running := by
  rw [sendFramedData_eq_answer]
  split
  · exact ⟨rfl, rfl, rfl⟩
  · split
    · exact ⟨rfl, rfl, rfl⟩
    · exact ⟨rfl, rfl, rfl⟩

theorem Confined.sendFramedData (h : Confined cfg s) (conn : ConnId) (requestId : UInt64)
    (origin : Origin) (r : RpcResult) (maxMessageSize : ℕ) :
    Confined cfg (sendFramedData s conn requestId origin r maxMessageSize) := by
  obtain ⟨hregistry, hpool, hrunning⟩ :=
    frame_sendFramedData s conn requestId origin r maxMessageSize
  exact h.of_frame hregistry hpool hrunning

theorem Confined.invokeSyncHandler (h : Confined cfg s) (frame : FrameId) (conn : ConnId)
    (request : RpcRequest) (outcome : Option RpcResult) :
    Confined cfg (invokeSyncHandler cfg s frame conn request outcome) := by
  unfold RpcServer.invokeSyncHandler
  split
  · exact h
  · rename_i handler hhandler
    have hfinished : Confined cfg
        ((s.emit (.invoked frame conn request (.sync handler))).emit (.finished frame outcome)) :=
      h.of_frame rfl rfl rfl
    dsimp only
    split
    · exact hfinished.sendFramedData _ _ _ _ _
    · split
      · exact hfinished.sendFramedData _ _ _ _ _
      · exact hfinished.sendFramedData _ _ _ _ _

/-- A thread that is not busy has no operation in progress. -/
theorem countP_of_not_busy {t : Thread} (h : s.busy t = false) :
    s.running.countP (fun r => decide (r.1 = t)) = 0 := by
  rw [List.countP_eq_zero]
  intro r hr
  exact List.any_eq_false.mp h r hr

theorem Confined.invokeAsyncHandler (h : Confined cfg s) (frame : FrameId) {conn : ConnId}
    (request : RpcRequest) (hbusy : s.busy (.loop (cfg.loopOf conn)) = false) :
    Confined cfg (invokeAsyncHandler cfg s frame conn request) := by
  unfold RpcServer.invokeAsyncHandler
  split
  · exact h
  · rename_i handler hhandler
    rcases hregister : s.cancellationRegistry_.registerToken conn request.requestId_ frame
      with ⟨res, registry⟩
    have hlimits := CancellationRegistry.limits_registerToken hregister
    have hrejected : Confined cfg (s.emit (.rejected frame conn request)) :=
      h.of_frame rfl rfl rfl
    cases res with
    | kDuplicateRequestId => exact h.of_frame rfl rfl rfl
    | kConnectionLimitReached | kGlobalLimitReached =>
      exact hrejected.sendFramedData _ _ _ _ _
    | kRegistered =>
      -- the new operation is the only one of its loop, which was not busy
      have hzero := countP_of_not_busy hbusy
      refine ⟨hlimits.1.trans h.global, hlimits.2.trans h.perConnection, h.pool, fun l => ?_,
        fun t inv hmem => ?_⟩
      · show ((Thread.loop (cfg.loopOf conn), Activity.submit _) :: s.running).countP _ ≤ 1
        rw [List.countP_cons]
        split_ifs with hl
        · rw [← of_decide_eq_true hl, hzero]
        · exact h.single l
      · rcases List.mem_cons.mp hmem with heq | hmem
        · obtain ⟨rfl, hinv⟩ := Prod.mk.inj heq
          obtain rfl := Activity.submit.inj hinv
          rfl
        · exact h.loops t inv hmem

theorem Confined.onRpcMessage (h : Confined cfg s) {conn : ConnId} (msg : Bytes)
    (outcome : Option RpcResult) (hbusy : s.busy (.loop (cfg.loopOf conn)) = false) :
    Confined cfg (onRpcMessage cfg s conn msg outcome) := by
  rw [onRpcMessage_eq]
  cases incoming cfg.effectiveMaxMessageSize msg with
  | invalid => exact h.of_frame rfl rfl rfl
  | cancel requestId =>
    exact h.of_limits (CancellationRegistry.limits_cancel _ conn requestId) rfl rfl
  | request request =>
    have hreceived : Confined cfg (receive s conn request) := h.of_frame rfl rfl rfl
    show Confined cfg (dispatch cfg (receive s conn request) s.nextFrame conn request outcome)
    unfold dispatch
    split_ifs
    · exact hreceived.invokeSyncHandler _ _ _ _
    · exact hreceived.invokeAsyncHandler _ _ hbusy
    · exact hreceived.sendFramedData _ _ _ _ _

theorem Confined.runReply (h : Confined cfg s) (inv : Invocation) (r : RpcResult) :
    Confined cfg (runReply cfg s inv r) := by
  have htaken : Confined cfg { s with cancellationRegistry_ :=
      (s.cancellationRegistry_.take inv.conn inv.request.requestId_).2 } :=
    h.of_limits (CancellationRegistry.limits_take _ _ _) rfl rfl
  unfold RpcServer.runReply
  dsimp only
  split
  · exact htaken
  · split
    · exact htaken
    · exact htaken.sendFramedData _ _ _ _ _

/-! ### The steps -/

theorem Confined.tryCompleteStop (h : Confined cfg s) : Confined cfg (tryCompleteStop s) := by
  unfold RpcServer.tryCompleteStop
  split
  · exact h
  · split
    · exact h.of_frame rfl rfl rfl
    · exact h

theorem Confined.start (h : Confined cfg s) : Confined cfg (start s) := by
  unfold RpcServer.start
  split
  · exact h
  · refine { h with pool := ?_ }
    show s.taskPool_.map _ = none
    rw [h.pool, Option.map_none]

theorem Confined.stop (h : Confined cfg s) : Confined cfg (stop s) := by
  have hstopped : Confined cfg { s with status_ := .kStopping, taskPoolStopped_ := true } :=
    h.of_frame rfl rfl rfl
  unfold RpcServer.stop
  dsimp only
  split
  · exact h
  · split
    · rename_i hpool
      cases h.pool.symm.trans hpool
    · exact hstopped.tryCompleteStop

/-- A reply object is called by an operation in progress. -/
theorem Confined.reply (h : Confined cfg s) {k : ℕ} {t : Thread} {activity : Activity}
    (hk : s.running[k]? = some (t, activity)) (inv : Invocation) (r : RpcResult) :
    Confined cfg (reply s k t inv r) := by
  unfold RpcServer.reply
  split
  · exact h.release k t
  · refine h.set hk ?_ rfl rfl rfl
    exact nofun

theorem Confined.userReply (h : Confined cfg s) (inv : Invocation) (r : RpcResult) :
    Confined cfg (userReply s inv r) := by
  unfold RpcServer.userReply
  split
  · exact h
  · refine ⟨h.global, h.perConnection, h.pool, fun l => ?_, fun t inv' hmem => ?_⟩
    · exact (List.countP_cons_of_neg (by simp)).trans_le (h.single l)
    · rcases List.mem_cons.mp hmem with heq | hmem
      · cases (Prod.mk.inj heq).2
      · exact h.loops t inv' hmem

/-- Without a pool the handler is called in place of the submission. -/
theorem Confined.submit (h : Confined cfg s) {k : ℕ} {t : Thread} {inv : Invocation}
    (hk : s.running[k]? = some (t, .submit inv)) : Confined cfg (submit s k t inv) := by
  unfold RpcServer.submit
  rw [h.pool]
  refine h.set hk ?_ rfl h.pool.symm rfl
  exact nofun

theorem Confined.step (h : Confined cfg s) {a : Action} (hs : step cfg s a = some s') :
    Confined cfg s' := by
  cases stepped_of_step hs with
  | start => exact h.start
  | stop => exact h.stop
  | tcpServerStopped => exact Confined.tryCompleteStop (h.of_frame rfl rfl rfl)
  | @userReply inv r => exact h.userReply inv r
  | submit hk => exact h.submit hk
  | @handlerReturns k t | @dropReply k t => exact h.release k t
  | handlerThrows hk => exact h.reply hk _ _
  | @queueReply k t inv r =>
    have hqueued : Confined cfg
        (s.queueInLoop (cfg.loopOf inv.conn) (.reply inv (replyResult r))) :=
      h.of_frame rfl rfl rfl
    exact hqueued.release k t
  | poolBeginStop hpool | poolFinishStop hpool | workerTake hpool | workerExit hpool =>
    cases h.pool.symm.trans hpool
  | connectionUp | peerHalfClose | loseConnection | transmit => exact h.of_frame rfl rfl rfl
  | @connectionDown conn =>
    exact h.of_limits (CancellationRegistry.limits_clear _ conn) rfl rfl
  | deliver _ hidle => exact h.onRpcMessage _ _ hidle
  | @runTask l task =>
    have hpopped : Confined cfg { s with tasks := s.tasks.dropFirst l } := h.of_frame rfl rfl rfl
    cases task with
    | reply inv r => exact hpopped.runReply inv r
    | onTaskPoolStopped => exact Confined.tryCompleteStop (hpopped.of_frame rfl rfl rfl)

theorem confined_of_reachable (hworkers : cfg.workers = none) (h : (machine cfg).Reachable s) :
    Confined cfg s :=
  Machine.ReachableBy.invariant (confined_init hworkers) (fun _ _ _ _ _ hold hs => hold.step hs) h

end MiniRpc.RpcServer
