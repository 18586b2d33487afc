import MiniRpc.RpcServer.Equiv.Accounts

/-!
# At most one execution and one response for each request

* `place_le`: a frame that was received is about to be dispatched, on its way to the worker pool, in
  its queue, invoked or refused, and in one of these places only.
* `Closed`: once the close of a connection was reported, nothing is sent on it.

`atMostOnce_of_reachable` is what follows for every run.
-/

namespace MiniRpc.RpcServer

variable {cfg : Config} {proper network : Prop} {s s' : State} {phase phase' : Phase}

/-! ### Observers -/

/-- A property of the `Request` frames. -/
abbrev FrameProperty := FrameId → ConnId → RpcRequest → Bool

/-- The frame with a number. -/
def isFrame (n : FrameId) : FrameProperty := fun frame _ _ => frame = n

/-- The frames of a connection with an id. -/
def isRequest (c : ConnId) (i : UInt64) : FrameProperty := fun _ conn request =>
  conn = c ∧ request.requestId_ = i

variable (P : FrameProperty)

/-- The number of invocations of handlers for frames with a property. -/
def invoked (trace : List Event) : ℕ :=
  trace.countP fun
    | .invoked frame conn request _ => P frame conn request
    | _ => false

/-- The number of frames with a property that were refused. -/
def rejected (trace : List Event) : ℕ :=
  trace.countP fun
    | .rejected frame conn request => P frame conn request
    | _ => false

/-- One if the frame has the property, else zero. -/
def indicator (frame : FrameId) (conn : ConnId) (request : RpcRequest) : ℕ :=
  if P frame conn request = true then 1 else 0

/-- Whether the frame of an invocation has the property. -/
def Invocation.satisfies (inv : Invocation) : Bool := P inv.frame inv.conn inv.request

/-- Whether an operation is on its way to the worker pool with such a frame. -/
def submits : Thread × Activity → Bool
  | (_, .submit inv) => inv.satisfies P
  | _ => false

/-- Whether the step being taken has still to dispatch such a frame. -/
def Phase.dispatching : Phase → ℕ
  | .received frame conn request => indicator P frame conn request
  | _ => 0

/-- The number of places where frames with a property are. -/
def place (phase : Phase) (running : List (Thread × Activity)) (tasks : List Invocation)
    (trace : List Event) : ℕ :=
  phase.dispatching P + running.countP (submits P) + tasks.countP (·.satisfies P) +
    invoked P trace + rejected P trace

theorem received_cons (trace : List Event) (frame : FrameId) (conn : ConnId)
    (request : RpcRequest) : received P (.requestReceived frame conn request :: trace) =
      received P trace + indicator P frame conn request :=
  List.countP_cons

theorem invoked_cons (trace : List Event) (frame : FrameId) (conn : ConnId) (request : RpcRequest)
    (handler : Handler) : invoked P (.invoked frame conn request handler :: trace) =
      invoked P trace + indicator P frame conn request :=
  List.countP_cons

theorem rejected_cons (trace : List Event) (frame : FrameId) (conn : ConnId)
    (request : RpcRequest) : rejected P (.rejected frame conn request :: trace) =
      rejected P trace + indicator P frame conn request :=
  List.countP_cons

theorem satisfies_cons (tasks : List Invocation) (inv : Invocation) :
    (inv :: tasks).countP (·.satisfies P) =
      tasks.countP (·.satisfies P) + indicator P inv.frame inv.conn inv.request :=
  List.countP_cons

theorem submits_cons (running : List (Thread × Activity)) (t : Thread) (inv : Invocation) :
    ((t, Activity.submit inv) :: running).countP (submits P) =
      running.countP (submits P) + indicator P inv.frame inv.conn inv.request :=
  List.countP_cons

variable {P}

/-- An operation that submits nothing does not count. -/
theorem submits_cons_of_ne {running : List (Thread × Activity)} {t : Thread} {activity : Activity}
    (h : ∀ inv, activity ≠ .submit inv) :
    ((t, activity) :: running).countP (submits P) = running.countP (submits P) := by
  cases activity with
  | submit inv => exact absurd rfl (h inv)
  | handler | reply => rfl

/-- The operations in progress, one of which is on its way to the worker pool. -/
theorem submits_of_perm {running rest : List (Thread × Activity)} {t : Thread} {inv : Invocation}
    (h : running.Perm ((t, .submit inv) :: rest)) : running.countP (submits P) =
      rest.countP (submits P) + indicator P inv.frame inv.conn inv.request := by
  rw [h.countP_eq, submits_cons]

/-- The operations in progress, one of which submits nothing. -/
theorem submits_of_perm_of_ne {running rest : List (Thread × Activity)} {t : Thread}
    {activity : Activity} (h : running.Perm ((t, activity) :: rest))
    (hactivity : ∀ inv, activity ≠ .submit inv) :
    running.countP (submits P) = rest.countP (submits P) := by
  rw [h.countP_eq, submits_cons_of_ne hactivity]

/-! ### Places -/

/-- The law of `place_le`. -/
def Placed (P : FrameProperty) (s : State) (phase : Phase) : Prop :=
  place P phase s.running (poolTasks s.taskPool_) s.trace ≤ received P s.trace

theorem placed_init : Placed P (.init cfg) .idle := by
  have htasks : poolTasks (State.init cfg).taskPool_ = [] := by
    unfold State.init
    cases cfg.workers <;> rfl
  unfold Placed
  rw [htasks]
  exact le_rfl

theorem Placed.step (h : Placed P s phase)
    (ht : Transition cfg proper network (s, phase) (s', phase')) : Placed P s' phase' := by
  have hplace := h
  unfold Placed place at hplace
  cases ht with
  | @receive _ conn request =>
    show indicator P s.nextFrame conn request + s.running.countP (submits P) +
      (poolTasks s.taskPool_).countP (·.satisfies P) + invoked P s.trace + rejected P s.trace ≤
        received P (.requestReceived s.nextFrame conn request :: s.trace)
    rw [received_cons]
    simp only [Phase.dispatching] at hplace
    omega
  | @invokeSync _ frame conn request handler =>
    show 0 + s.running.countP (submits P) + (poolTasks s.taskPool_).countP (·.satisfies P) +
      invoked P (.invoked frame conn request (.sync handler) :: s.trace) + rejected P s.trace ≤
        received P s.trace
    rw [invoked_cons]
    simp only [Phase.dispatching] at hplace
    omega
  | unknownMethod =>
    simp only [Placed, place, Phase.dispatching] at hplace ⊢
    omega
  | @refuseLimit _ frame conn request | @refuseDuplicate _ frame conn request =>
    show 0 + s.running.countP (submits P) + (poolTasks s.taskPool_).countP (·.satisfies P) +
      invoked P s.trace + rejected P (.rejected frame conn request :: s.trace) ≤
        received P s.trace
    rw [rejected_cons]
    simp only [Phase.dispatching] at hplace
    omega
  | @register _ frame conn request handler =>
    show 0 + List.countP (submits P) ((.loop (cfg.loopOf conn), .submit ⟨frame, conn, request,
      handler⟩) :: s.running) + (poolTasks s.taskPool_).countP (·.satisfies P) +
        invoked P s.trace + rejected P s.trace ≤ received P s.trace
    rw [submits_cons]
    simp only [Phase.dispatching] at hplace ⊢
    omega
  | @startHandler _ inv t rest running hrunning hrunning' =>
    have hbefore := submits_of_perm (P := P) hrunning
    have hafter := submits_of_perm_of_ne (P := P) hrunning' fun _ heq => by cases heq
    show 0 + running.countP (submits P) + (poolTasks s.taskPool_).countP (·.satisfies P) +
      invoked P (.invoked inv.frame inv.conn inv.request (.async inv.handler) :: s.trace) +
        rejected P s.trace ≤ received P s.trace
    rw [invoked_cons]
    simp only [Phase.dispatching] at hplace
    omega
  | @enqueue _ inv t running pool hrunning hpool =>
    have hbefore := submits_of_perm (P := P) hrunning
    have hone := satisfies_cons P [] inv
    simp only [Placed, place, hpool, List.countP_append, List.countP_nil] at hone ⊢
    omega
  | @refuse _ inv t rest running r _ _ hrunning hrunning' =>
    have hbefore := submits_of_perm (P := P) hrunning
    have hafter := submits_of_perm_of_ne (P := P) hrunning' fun _ heq => by cases heq
    show 0 + running.countP (submits P) + (poolTasks s.taskPool_).countP (·.satisfies P) +
      invoked P s.trace + rejected P (.rejected inv.frame inv.conn inv.request :: s.trace) ≤
        received P s.trace
    rw [rejected_cons]
    simp only [Phase.dispatching] at hplace
    omega
  | @refuseReplied _ inv t running hrunning =>
    have hbefore := submits_of_perm (P := P) hrunning
    show 0 + running.countP (submits P) + (poolTasks s.taskPool_).countP (·.satisfies P) +
      invoked P s.trace + rejected P (.rejected inv.frame inv.conn inv.request :: s.trace) ≤
        received P s.trace
    rw [rejected_cons]
    simp only [Phase.dispatching] at hplace
    omega
  | @workerTake _ inv w pool hpool =>
    rw [hpool, satisfies_cons] at hplace
    show 0 + s.running.countP (submits P) + (poolTasks pool).countP (·.satisfies P) +
      invoked P (.invoked inv.frame inv.conn inv.request (.async inv.handler) :: s.trace) +
        rejected P s.trace ≤ received P s.trace
    rw [invoked_cons]
    simp only [Phase.dispatching] at hplace
    omega
  | @handlerThrows _ inv t rest running hflag hrunning hrunning' =>
    have hsame : running.countP (submits P) = s.running.countP (submits P) :=
      (submits_of_perm_of_ne hrunning' fun _ heq => by cases heq).trans
        (submits_of_perm_of_ne hrunning fun _ heq => by cases heq).symm
    rw [← hsame] at hplace
    exact hplace
  | leave hrunning hactivity =>
    rw [submits_of_perm_of_ne hrunning hactivity] at hplace
    exact hplace
  | queueReply hrunning =>
    rw [submits_of_perm_of_ne hrunning fun _ heq => by cases heq] at hplace
    exact hplace
  | pool pool hpool =>
    rw [← hpool] at hplace
    exact hplace
  | _ => exact h

/-! ### Numbers and closed connections -/

/-- Every number is given to one frame at most. -/
structure Numbered (nextFrame : FrameId) (trace : List Event) : Prop where
  fresh : ∀ n, nextFrame ≤ n → received (isFrame n) trace = 0
  once : ∀ n, received (isFrame n) trace ≤ 1

theorem Numbered.step (h : Numbered s.nextFrame s.trace)
    (ht : Transition cfg proper network (s, phase) (s', phase')) :
    Numbered s'.nextFrame s'.trace := by
  cases ht with
  | @receive _ conn request =>
    have hcount : ∀ n, received (isFrame n) (.requestReceived s.nextFrame conn request :: s.trace) =
        received (isFrame n) s.trace + if s.nextFrame = n then 1 else 0 := fun n => by
      rw [received_cons, indicator, isFrame]
      simp only [decide_eq_true_eq]
    refine ⟨fun n hn => ?_, fun n => ?_⟩
    · have hne : s.nextFrame ≠ n := Nat.ne_of_lt (Nat.lt_of_succ_le hn)
      rw [hcount, if_neg hne, h.fresh n (Nat.le_of_succ_le hn)]
    · rw [hcount]
      split_ifs with heq
      · rw [h.fresh n heq.le]
      · exact h.once n
  | _ => exact ⟨h.fresh, h.once⟩

/-- No response is sent on a connection whose close was reported before. -/
def SilentAfterClose : List Event → Prop :=
  List.Pairwise fun later earlier => ∀ c, earlier = .closed c →
    ∀ id origin output, later ≠ .responded c id origin output

/-- A connection whose close was reported stays down, and nothing is sent on it. -/
structure Closed (connections : ConnId → Connection) (trace : List Event) : Prop where
  down : ∀ c, .closed c ∈ trace → connections c = .down
  silent : SilentAfterClose trace

/-- Another event. -/
theorem Closed.cons {connections : ConnId → Connection} {trace : List Event}
    (h : Closed connections trace) {e : Event} (hclosed : ∀ c, e ≠ .closed c)
    (hresponded : ∀ c id origin output, e ≠ .responded c id origin output) :
    Closed connections (e :: trace) where
  down c hmem := by
    rcases List.mem_cons.mp hmem with heq | hmem
    · exact absurd heq.symm (hclosed c)
    · exact h.down c hmem
  silent := List.pairwise_cons.mpr ⟨fun _ _ c _ => hresponded c, h.silent⟩

/-- A connection that is not down changes, or one that begins to close again. -/
theorem Closed.update {connections : ConnId → Connection} {trace : List Event}
    (h : Closed connections trace) {conn : ConnId} {c : Connection}
    (hc : connections conn = .down → c = .down) :
    Closed (Function.update connections conn c) trace where
  down c' hmem := by
    by_cases hne : c' = conn
    · subst hne
      rw [Function.update_self]
      exact hc (h.down c' hmem)
    · rw [Function.update_of_ne hne]
      exact h.down c' hmem
  silent := h.silent

theorem Closed.forceClose (h : Closed s.connections s.trace) (conn : ConnId) :
    Closed (forceClose s conn).connections (forceClose s conn).trace := by
  have hclose : Closed (Function.update s.connections conn (s.connections conn).close) s.trace :=
    h.update fun hdown => by
      rw [hdown]
      rfl
  exact hclose.cons (fun _ heq => by cases heq) fun _ _ _ _ heq => by cases heq

theorem Closed.step (h : Closed s.connections s.trace)
    (ht : Transition cfg proper network (s, phase) (s', phase')) :
    Closed s'.connections s'.trace := by
  cases ht with
  | receive | cancel | cancelNone | refuseLimit | startHandler | refuseReplied | workerTake
  | handlerThrows | userReply | stopCompleted =>
    exact h.cons (fun _ heq => by cases heq) fun _ _ _ _ heq => by cases heq
  | invokeSync | refuse =>
    exact (h.cons (fun _ heq => by cases heq) fun _ _ _ _ heq => by cases heq).cons
      (fun _ heq => by cases heq) fun _ _ _ _ heq => by cases heq
  | @respond _ conn requestId origin r hvalid hconnected =>
    refine ⟨fun c hmem => ?_, List.pairwise_cons.mpr ⟨fun e he c hc => ?_, h.silent⟩⟩
    · rcases List.mem_cons.mp hmem with heq | hmem
      · cases heq
      · exact h.down c hmem
    · -- A connection whose close was reported is not connected.
      intro id origin' output heq
      obtain ⟨rfl, -⟩ := Event.responded.inj heq
      rw [h.down conn (hc ▸ he)] at hconnected
      cases hconnected
  | refuseDuplicate =>
    refine Closed.forceClose ?_ _
    exact h.cons (fun _ heq => by cases heq) fun _ _ _ _ heq => by cases heq
  | close | forceClose => exact h.forceClose _
  | up hnew =>
    exact h.update fun hdown => by cases hnew.symm.trans (congrArg Connection.state hdown)
  | closing hup =>
    exact h.update fun hdown => by cases hup.symm.trans (congrArg Connection.state hdown)
  | @down _ conn hup =>
    have hdown : Closed (Function.update s.connections conn .down) s.trace := h.update fun _ => rfl
    refine ⟨fun c hmem => ?_, List.pairwise_cons.mpr ⟨fun _ _ _ _ _ _ _ heq => (by cases heq),
      h.silent⟩⟩
    rcases List.mem_cons.mp hmem with heq | hmem
    · obtain rfl := Event.closed.inj heq
      exact Function.update_self _ _ _
    · exact hdown.down c hmem
  | _ => exact h

/-! ### At most once -/

/-- Each frame has at most one invocation, each id of a connection no more invocations and no more
responses than frames; what is refused is not invoked, and nothing is sent after a close. -/
structure AtMostOnce (trace : List Event) : Prop where
  invocation : ∀ n, invoked (isFrame n) trace ≤ 1
  invocations : ∀ c i, invoked (isRequest c i) trace ≤ requests trace c i
  responses : ∀ c i, responses trace c i ≤ requests trace c i
  rejected : ∀ frame conn request, .rejected frame conn request ∈ trace →
    ∀ conn' request' handler, .invoked frame conn' request' handler ∉ trace
  closed : SilentAfterClose trace

theorem placed_of_reachable (P : FrameProperty) (h : (machine cfg).Reachable s) :
    Placed P s .idle :=
  invariant (P := fun x => Placed P x.1 x.2) placed_init (fun _ _ hP ht => hP.step ht) h

theorem numbered_of_reachable (h : (machine cfg).Reachable s) : Numbered s.nextFrame s.trace :=
  invariant (P := fun x => Numbered x.1.nextFrame x.1.trace)
    ⟨fun _ _ => rfl, fun _ => Nat.zero_le 1⟩ (fun _ _ hP ht => hP.step ht) h

theorem closed_of_reachable (h : (machine cfg).Reachable s) : Closed s.connections s.trace :=
  invariant (P := fun x => Closed x.1.connections x.1.trace)
    ⟨fun _ hmem => (by cases hmem), List.Pairwise.nil⟩ (fun _ _ hP ht => hP.step ht) h

/-- A frame is not invoked and refused, nor invoked twice. -/
theorem invoked_add_rejected_le (h : (machine cfg).Reachable s) (n : FrameId) :
    invoked (isFrame n) s.trace + rejected (isFrame n) s.trace ≤ 1 := by
  have hplaced := placed_of_reachable (isFrame n) h
  have honce := (numbered_of_reachable h).once n
  unfold Placed place at hplaced
  omega

/-- **At most one execution and at most one response for each request**, in every run. -/
theorem atMostOnce_of_reachable (h : (machine cfg).Reachable s) : AtMostOnce s.trace where
  invocation n := (Nat.le_add_right _ _).trans (invoked_add_rejected_le h n)
  invocations c i := by
    have hplaced := placed_of_reachable (isRequest c i) h
    unfold Placed place at hplaced
    have hrequests : received (isRequest c i) s.trace = requests s.trace c i := rfl
    omega
  responses c i := by
    have hle := (books_of_reachable h).accounts.le c i
    unfold account at hle
    omega
  rejected frame conn request hrejected conn' request' handler hinvoked := by
    have hle := invoked_add_rejected_le h frame
    have hpos : 0 < invoked (isFrame frame) s.trace :=
      List.countP_pos_iff.mpr ⟨_, hinvoked, decide_eq_true rfl⟩
    have hpos' : 0 < RpcServer.rejected (isFrame frame) s.trace :=
      List.countP_pos_iff.mpr ⟨_, hrejected, decide_eq_true rfl⟩
    omega
  closed := (closed_of_reachable h).silent

/-! ### A run -/

/-- A server with one asynchronous handler and without workers. -/
def asyncServer : Config :=
  .ofHandlers ∅ (Finmap.singleton (text "s") (Finmap.singleton (text "m") ⟨1⟩))

/-- A request for its handler. -/
def asyncRequest : RpcRequest := ⟨5, text "s", text "m", text "p"⟩

/-- The invocation for a frame with the request. -/
def asyncInvocation (frame : FrameId) : Invocation := ⟨frame, 3, asyncRequest, ⟨1⟩⟩

def succeed (payload : Bytes) : RpcResult := ⟨kSuccess, .NO_ERROR, payload, []⟩

/-- The handler replies, throws, and its reply object is called once more. -/
def answering : List Action := [.start, .connectionUp 3,
  .deliver 3 asyncRequest.fields.flatten none, .submit 0,
  .reply (asyncInvocation 0) (succeed (text "a")), .handlerThrows 1,
  .reply (asyncInvocation 0) (succeed (text "b")), .queueReply 0, .runTask 0, .connectionDown 3]

theorem atMostOnce_answering :
    responses ((machine asyncServer).after answering).trace 3 5 = 1 ∧
      AtMostOnce ((machine asyncServer).after answering).trace :=
  ⟨by decide, atMostOnce_of_reachable (Machine.reachable_after _)⟩

end MiniRpc.RpcServer
