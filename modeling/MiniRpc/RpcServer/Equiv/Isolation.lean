import MiniRpc.Machine.History
import MiniRpc.RpcServer.Equiv.Projection

/-!
# Connections do not interfere

A step that is no event of a connection leaves the session of the connection as it is, and on an
event of the connection the session does what the abstract server does (`moves_step`).  Without a
global limit and without a worker pool a server is so one abstract server for each connection
(`view_of_history`): two runs with the same events of a connection give the same responses,
force-closes and invocations for it and cancel the same requests, whatever happens on the other
connections, also under the same ids.
-/

namespace MiniRpc.RpcServer

variable {cfg : Config} {s s' s₁ s₂ : State} {B : ConnId} {inv : Invocation}

/-! ### The steps -/

/-- What an action is for a connection, if it is an event of it. -/
def event? (B : ConnId) (s : State) : Action → Option ConnectionEvent
  | .connectionUp conn => if conn = B then some .up else none
  | .peerHalfClose conn => if conn = B then some .halfClose else none
  | .loseConnection conn => if conn = B then some .lose else none
  | .connectionDown conn => if conn = B then some .down else none
  | .deliver conn msg _ => if conn = B then some (.message msg) else none
  | .reply inv rpcResult =>
    if inv.conn = B then some (.reply (number B s inv) rpcResult) else none
  | .handlerThrows k =>
    match s.running[k]? with
    | some (_, .handler inv) =>
      if inv.conn = B then some (.reply (number B s inv) handlerException) else none
    | _ => none
  | .runTask l =>
    match s.tasks.first l with
    | some (.reply inv _) => if inv.conn = B then some (.task (number B s inv)) else none
    | _ => none
  | _ => none

theorem untouched_tryCompleteStop (s : State) : Untouched B s (tryCompleteStop s) := by
  unfold tryCompleteStop
  split
  · exact .of_frame rfl rfl rfl rfl
  · split
    · have hstopped : Untouched B s { s with status_ := .kStopped } := .of_frame rfl rfl rfl rfl
      exact hstopped.trans (untouched_emit ⟨rfl, rfl, rfl, fun _ _ => rfl⟩)
    · exact .of_frame rfl rfl rfl rfl

theorem frame_release (s : State) (k : ℕ) (t : Thread) :
    (s.release k t).connections = s.connections ∧
      (s.release k t).cancellationRegistry_ = s.cancellationRegistry_ ∧
      (s.release k t).running = s.running.eraseIdx k ∧ (s.release k t).trace = s.trace := by
  cases t <;> exact ⟨rfl, rfl, rfl, rfl⟩

theorem untouched_release (h : Confined cfg s) {k : ℕ} {t : Thread} {activity : Activity}
    (hk : s.running[k]? = some (t, activity)) (hnone : submitted? B (t, activity) = none) :
    Untouched B s (s.release k t) := by
  obtain ⟨hconnections, hregistry, hrunning, htrace⟩ := frame_release s k t
  refine ⟨by rw [hconnections], by rw [htrace], fun _ => by rw [hregistry],
    fun _ _ => by rw [hregistry], fun _ _ => by rw [htrace], by rw [htrace], ?_⟩
  rw [invocationsOn, invocationsOn, hrunning, htrace, h.submitted_eraseIdx hk hnone]

/-- The handler is called that the loop was about to call. -/
theorem untouched_submit (h : Confined cfg s) {k : ℕ} {t : Thread}
    (hk : s.running[k]? = some (t, .submit inv)) : Untouched B s (submit s k t inv) := by
  unfold submit
  rw [h.pool]
  refine ⟨rfl, rfl, fun _ => rfl, fun _ _ => .rfl, fun _ _ => rfl, rfl, ?_⟩
  show (s.running.set k (t, .handler inv)).filterMap (submitted? B) ++
    (.invoked inv.frame inv.conn inv.request (.async inv.handler) :: s.trace).filterMap
      (Event.invocation? B) = s.running.filterMap (submitted? B) ++ _
  by_cases hconn : inv.conn = B
  · have hself : submitted? B (t, .submit inv) = some (inv.request, .async inv.handler) :=
      if_pos hconn
    have hinvoked :
        (Event.invoked inv.frame inv.conn inv.request (.async inv.handler)).invocation? B =
          some (inv.request, .async inv.handler) := if_pos hconn
    -- It is the only one, so the order of the two lists does not matter.
    have hbefore := (perm_of_getElem? hk).filterMap (submitted? B)
    rw [List.filterMap_cons_some hself] at hbefore
    have hrest : (s.running.eraseIdx k).filterMap (submitted? B) = [] := by
      have hlen := h.length_submitted B
      rw [hbefore.length_eq, List.length_cons] at hlen
      exact List.length_eq_zero_iff.mp (Nat.le_zero.mp (Nat.le_of_succ_le_succ hlen))
    have hafter := (perm_of_set hk (t, .handler inv)).filterMap (submitted? B)
    rw [List.filterMap_cons_none (by rfl), hrest] at hafter
    rw [hrest] at hbefore
    rw [hafter.eq_nil, List.perm_singleton.mp hbefore, List.filterMap_cons_some hinvoked]
    rfl
  · rw [h.submitted_set hk (if_neg hconn) (by rfl)]
    exact congrArg (_ ++ ·) (List.filterMap_cons_none (if_neg hconn))

/-- A reply object is called by a thread of the user. -/
theorem view_userReply (h : Laws cfg s .idle) (hinv : inv ∈ s.replies) (r : RpcResult) :
    view B (userReply s inv r) =
      if inv.conn = B then (view B s).reply (number B s inv) r else view B s := by
  refine view_called h (.inr hinv) r ?_ ?_ ?_ ?_
  all_goals
    unfold userReply
    split
    · rfl
    · rfl

/-- A reply object is called because its handler threw. -/
theorem view_handlerThrows (h : Laws cfg s .idle) (hconfined : Confined cfg s) {k : ℕ} {t : Thread}
    (hk : s.running[k]? = some (t, .handler inv)) : view B (reply s k t inv handlerException) =
      if inv.conn = B then (view B s).reply (number B s inv) handlerException else view B s := by
  obtain ⟨hconnections, hregistry, hrunning, htrace⟩ := frame_release s k t
  refine view_called h (.inl ⟨t, List.mem_of_getElem? hk⟩) handlerException ?_ ?_ ?_ ?_
  all_goals
    unfold reply
    split
  · rw [hconnections]
  · rfl
  · exact hregistry
  · rfl
  · rw [hrunning, hconfined.submitted_eraseIdx hk rfl]
  · exact hconfined.submitted_set hk rfl rfl
  · exact htrace
  · rfl

/-- What the session of a connection does in a step. -/
def Moves (cfg : Config) (sync : RpcHandler → Bytes → Option RpcResult) (B : ConnId) (s s' : State)
    (a : Action) : Prop :=
  view B s' = (event? B s a).elim (view B s) fun e => Session.next cfg sync e (view B s)

variable {sync : RpcHandler → Bytes → Option RpcResult}

/-- The connection or another one changes its state. -/
theorem moves_setConnection {conn : ConnId} {c : Connection} {a : Action} {e : ConnectionEvent}
    (hevent : event? B s a = if conn = B then some e else none)
    (hnext : conn = B → Session.next cfg sync e (view B s) = { view B s with connection := c }) :
    Moves cfg sync B s (s.setConnection conn c) a := by
  unfold Moves
  rw [hevent]
  by_cases hconn : conn = B
  · rw [if_pos hconn]
    show _ = Session.next cfg sync e (view B s)
    rw [hnext hconn]
    subst hconn
    unfold view
    rw [State.connections_setConnection_self]
    rfl
  · rw [if_neg hconn]
    have hother : Untouched B s (s.setConnection conn c) :=
      .of_frame (State.connections_setConnection_of_ne s c (Ne.symm hconn)) rfl rfl rfl
    exact hother.view_eq

/-- A reply object is called because its handler threw. -/
theorem moves_handlerThrows (h : Laws cfg s .idle) (hconfined : Confined cfg s) {k : ℕ} {t : Thread}
    (hk : s.running[k]? = some (t, .handler inv)) :
    Moves cfg sync B s (reply s k t inv handlerException) (.handlerThrows k) := by
  unfold Moves
  rw [view_handlerThrows h hconfined hk]
  simp only [event?, hk]
  split_ifs <;> rfl

theorem moves_userReply (h : Laws cfg s .idle) {r : RpcResult} (hinv : inv ∈ s.replies) :
    Moves cfg sync B s (userReply s inv r) (.reply inv r) := by
  unfold Moves event?
  dsimp only
  rw [view_userReply h hinv]
  split_ifs <;> rfl

/-- The task of a reply is queued; it becomes an event of the connection when it is run. -/
theorem untouched_queueReply (hconfined : Confined cfg s) {k : ℕ} {t : Thread} {r : RpcResult}
    (hk : s.running[k]? = some (t, .reply inv r)) : Untouched B s
      ((s.queueInLoop (cfg.loopOf inv.conn) (.reply inv (replyResult r))).release k t) := by
  have hqueued : Untouched B s
      (s.queueInLoop (cfg.loopOf inv.conn) (.reply inv (replyResult r))) :=
    .of_frame rfl rfl rfl rfl
  have hconfined' : Confined cfg
      (s.queueInLoop (cfg.loopOf inv.conn) (.reply inv (replyResult r))) :=
    hconfined.of_frame rfl rfl rfl
  exact hqueued.trans (untouched_release hconfined' hk rfl)

theorem moves_connectionDown (h : Laws cfg s .idle) {conn : ConnId} :
    Moves cfg sync B s { s with
      connections := Function.update s.connections conn .down
      cancellationRegistry_ := s.cancellationRegistry_.clearConnectionCancellations conn
      trace := .closed conn :: s.trace } (.connectionDown conn) := by
  unfold Moves event?
  dsimp only
  by_cases hconn : conn = B
  · subst hconn
    rw [if_pos rfl]
    exact view_down h
  · rw [if_neg hconn]
    exact (untouched_down h hconn).view_eq

/-- A frame arrives on a connection whose loop is not in the middle of an operation. -/
theorem moves_deliver (h : Laws cfg s .idle) (hconfined : Confined cfg s)
    (hglobal : cfg.maxActiveRequests_ = none) {conn : ConnId} {msg : Bytes}
    {outcome : Option RpcResult} (hsync : Functional cfg sync (.deliver conn msg outcome))
    (hup : (s.connections conn).state = .kUp)
    (hidle : s.busy (.loop (cfg.loopOf conn)) = false) :
    Moves cfg sync B s (onRpcMessage cfg s conn msg outcome) (.deliver conn msg outcome) := by
  unfold Moves event?
  dsimp only
  by_cases hconn : conn = B
  · subst hconn
    rw [if_pos rfl]
    exact view_onRpcMessage h hconfined hglobal hup hidle msg outcome hsync
  · rw [if_neg hconn]
    exact (untouched_onRpcMessage h hconn msg outcome).view_eq

theorem moves_runTask (h : Laws cfg s .idle) {l : LoopId} {task : LoopTask}
    (htask : s.tasks.first l = some task) :
    Moves cfg sync B s (runTask cfg { s with tasks := s.tasks.dropFirst l } task) (.runTask l) := by
  have hpopped : Untouched B s { s with tasks := s.tasks.dropFirst l } :=
    .of_frame rfl rfl rfl rfl
  unfold Moves
  simp only [event?, htask]
  cases task with
  | reply inv r =>
    dsimp only
    by_cases hconn : inv.conn = B
    · rw [if_pos hconn]
      exact view_runReply h ⟨l, Channel.mem_of_first htask⟩ hconn _
    · rw [if_neg hconn]
      exact (hpopped.trans (untouched_runReply hconn _ r)).view_eq
  | onTaskPoolStopped =>
    have hstopped : Untouched B s
        { s with tasks := s.tasks.dropFirst l, taskPoolStopped_ := true } :=
      .of_frame rfl rfl rfl rfl
    exact (hstopped.trans (untouched_tryCompleteStop _)).view_eq

theorem untouched_start (s : State) : Untouched B s (start s) := by
  unfold start
  split
  · exact .of_frame rfl rfl rfl rfl
  · exact .of_frame rfl rfl rfl rfl

theorem untouched_stop (s : State) : Untouched B s (stop s) := by
  have hstopped : Untouched B s { s with status_ := .kStopping, taskPoolStopped_ := true } :=
    .of_frame rfl rfl rfl rfl
  unfold stop
  split
  · exact .of_frame rfl rfl rfl rfl
  · dsimp only
    split
    · exact .of_frame rfl rfl rfl rfl
    · exact hstopped.trans (untouched_tryCompleteStop _)

theorem untouched_onTcpServerStopped (s : State) : Untouched B s (onTcpServerStopped s) := by
  have hstopped : Untouched B s { s with tcpServerStopped_ := true } := .of_frame rfl rfl rfl rfl
  exact hstopped.trans (untouched_tryCompleteStop _)

theorem moves_step (h : Laws cfg s .idle) (hconfined : Confined cfg s)
    (hglobal : cfg.maxActiveRequests_ = none) {a : Action} (hsync : Functional cfg sync a)
    (hs : step cfg s a = some s') : Moves cfg sync B s s' a := by
  cases stepped_of_step hs with
  | start => exact (untouched_start s).view_eq
  | stop => exact (untouched_stop s).view_eq
  | tcpServerStopped => exact (untouched_onTcpServerStopped s).view_eq
  | userReply hinv => exact moves_userReply h hinv
  | submit hk => exact (untouched_submit hconfined hk).view_eq
  | handlerReturns hk | dropReply hk => exact (untouched_release hconfined hk rfl).view_eq
  | handlerThrows hk => exact moves_handlerThrows h hconfined hk
  | queueReply hk => exact (untouched_queueReply hconfined hk).view_eq
  | poolBeginStop hpool | poolFinishStop hpool | workerTake hpool | workerExit hpool =>
    cases hconfined.pool.symm.trans hpool
  | connectionUp | peerHalfClose | loseConnection =>
    refine moves_setConnection rfl ?_
    rintro rfl
    rfl
  | connectionDown => exact moves_connectionDown h
  | deliver hup hidle => exact moves_deliver h hconfined hglobal hsync hup hidle
  | @transmit conn =>
    have htaken : Untouched B s { s with outbox := s.outbox.dropFirst conn } :=
      .of_frame rfl rfl rfl rfl
    exact htaken.view_eq
  | runTask _ htask => exact moves_runTask h htask

/-- **The server refines one abstract server for each connection**: its session is what the abstract
server does on the events of the connection. -/
theorem view_of_history (hglobal : cfg.maxActiveRequests_ = none) (hworkers : cfg.workers = none)
    (sync : RpcHandler → Bytes → Option RpcResult) (B : ConnId)
    {steps : List (Machine.Step State Action)} (h : (machine cfg).History steps s)
    (hsync : ∀ st ∈ steps, Functional cfg sync st.action) :
    view B s = Session.after cfg sync (Machine.labels (event? B) steps) := by
  have hstep : ∀ s a s', (machine cfg).Reachable s → Functional cfg sync a →
      (machine cfg).step s a = some s' → Moves cfg sync B s s' a :=
    fun s a s' hreachable hfunctional hs => moves_step (laws_of_reachable hreachable)
      (confined_of_reachable hworkers hreachable) hglobal hfunctional hs
  have hinit : view B (machine cfg).init = Session.init := by
    have hcanceled : canceledOn B (State.init cfg) = ∅ :=
      Set.eq_empty_of_forall_notMem fun _ hmem => absurd hmem.choose_spec.1 (Finset.notMem_empty _)
    have hentries : (fun i => ((State.init cfg).cancellationRegistry_.find? B i).map
        (framesOn B (State.init cfg).trace).idxOf) = fun _ => none := by
      funext i
      exact congrArg (Option.map _) (CancellationRegistry.find?_init _ _ B i)
    show Session.mk _ _ (fun i => ((State.init cfg).cancellationRegistry_.find? B i).map
      (framesOn B (State.init cfg).trace).idxOf) (canceledOn B (State.init cfg)) _ _ _ = _
    rw [hcanceled, hentries]
    rfl
  rw [Session.after, ← hinit]
  exact @Machine.History.view_eq _ _ _ _ _ _ _ (view B) (event? B) (Session.next cfg sync)
    (fun st => Functional cfg sync st.action) hstep h hsync

/-! ### Two runs -/

/-- What concerns the connection is the same in two states. -/
structure SameFor (B : ConnId) (s₁ s₂ : State) : Prop where
  requests : requestsOn B s₁.trace = requestsOn B s₂.trace
  /-- The responses and the force-closes, in their order. -/
  answers : answersOn B s₁.trace = answersOn B s₂.trace
  /-- The handlers called, in their order. -/
  invocations : invocationsOn B s₁ = invocationsOn B s₂
  /-- The requests whose token is cancelled. -/
  canceled : canceledOn B s₁ = canceledOn B s₂

/-- **Connections do not interfere**: two runs with the same events of a connection are the same for
it. -/
theorem sameFor_of_labels (hglobal : cfg.maxActiveRequests_ = none) (hworkers : cfg.workers = none)
    (sync : RpcHandler → Bytes → Option RpcResult) (B : ConnId)
    {steps₁ steps₂ : List (Machine.Step State Action)} (h₁ : (machine cfg).History steps₁ s₁)
    (h₂ : (machine cfg).History steps₂ s₂) (hsync₁ : ∀ st ∈ steps₁, Functional cfg sync st.action)
    (hsync₂ : ∀ st ∈ steps₂, Functional cfg sync st.action)
    (hevents : Machine.labels (event? B) steps₁ = Machine.labels (event? B) steps₂) :
    SameFor B s₁ s₂ := by
  have hview : view B s₁ = view B s₂ := by
    rw [view_of_history hglobal hworkers sync B h₁ hsync₁,
      view_of_history hglobal hworkers sync B h₂ hsync₂, hevents]
  exact ⟨congrArg Session.requests hview, congrArg Session.answers hview,
    congrArg Session.invocations hview, congrArg Session.canceled hview⟩

/-! ### Two runs with the same ids -/

instance {sync : RpcHandler → Bytes → Option RpcResult} (outcome : Option RpcResult) :
    ∀ i : Incoming, Decidable (i.Functional cfg sync outcome)
  | .request request =>
    inferInstanceAs (Decidable (
      ∀ handler ∈ cfg.syncHandlers_.find? request.service_ request.method_,
        outcome = sync handler request.payload_))
  | .invalid | .cancel _ => .isTrue trivial

instance {sync : RpcHandler → Bytes → Option RpcResult} : ∀ a, Decidable (Functional cfg sync a)
  | .deliver _ msg outcome => inferInstanceAs
      (Decidable ((incoming cfg.effectiveMaxMessageSize msg).Functional cfg sync outcome))
  | .start | .stop | .tcpServerStopped | .poolBeginStop | .poolFinishStop | .connectionUp _
  | .peerHalfClose _ | .loseConnection _ | .connectionDown _ | .transmit _ | .runTask _ | .submit _
  | .handlerReturns _ | .handlerThrows _ | .queueReply _ | .dropReply _ | .reply .. | .workerTake _
  | .workerExit _ => .isTrue trivial

/-- A synchronous method, an asynchronous one, one active request and one loop a connection. -/
def sharedServer : Config :=
  { Config.ofHandlers (Finmap.singleton (text "s") (Finmap.singleton (text "e") ⟨2⟩))
      (Finmap.singleton (text "s") (Finmap.singleton (text "m") ⟨1⟩)) with
    maxActiveRequestsPerConnection_ := some 1
    loopOf := id
    maxActiveRequestsPerConnection_pos := by simp }

/-- The synchronous method returns its payload. -/
def echo : RpcHandler → Bytes → Option RpcResult := fun _ payload => some (succeed payload)

def echoRequest : RpcRequest := ⟨6, text "s", text "e", text "p"⟩

/-- The asynchronous method is called on a connection. -/
def callAsync (conn : ConnId) : List Action :=
  [.deliver conn asyncRequest.fields.flatten none, .submit 0, .handlerReturns 0]

def callEcho : Action := .deliver 3 echoRequest.fields.flatten (echo ⟨2⟩ (text "p"))

def cancelAction (conn : ConnId) : Action := .deliver conn (RpcCancel.mk 5).fields.flatten none

def replyAction (frame : FrameId) : Action := .reply (asyncInvocation frame) (succeed (text "a"))

/-- Connection 3 alone: a request is replied to, a synchronous one comes before that, and another
one with the same id is cancelled. -/
def alone : List Action := [.start, .connectionUp 3] ++ callAsync 3 ++
  [callEcho, replyAction 0, .queueReply 0, .runTask 3] ++ callAsync 3 ++ [cancelAction 3]

/-- Meanwhile connection 4 sends the same ids, cancels, repeats an active id and is closed. -/
def crowded : List Action := [.start, .connectionUp 3, .connectionUp 4] ++ callAsync 4 ++
  callAsync 3 ++ [cancelAction 4, callEcho] ++ callAsync 4 ++ [replyAction 1] ++
  [.deliver 4 asyncRequest.fields.flatten none, .queueReply 0, .connectionDown 4, .runTask 3] ++
  callAsync 3 ++ [cancelAction 3]

theorem sameFor_crowded :
    (answersOn 3 ((machine sharedServer).after crowded).trace).length = 2 ∧
      SameFor 3 ((machine sharedServer).after alone) ((machine sharedServer).after crowded) :=
  ⟨by decide +kernel,
    sameFor_of_labels rfl rfl echo 3 (Machine.history_after (by decide +kernel))
      (Machine.history_after (by decide +kernel)) (by decide +kernel) (by decide +kernel)
      (by decide +kernel)⟩

end MiniRpc.RpcServer
