import MiniRpc.RpcClient.Equiv.Decompose

/-!
# The callbacks of a step

An operation takes at most one callback, in a frame of its own on top of the stack (`TakesOne`), or
it takes those of requests that lost their connection or could not be sent again (`TakesLost`).  So
the callback of a response, a timeout or a cancel is taken alone, and is the next thing to run
(`stack_of_single`).
-/

namespace MiniRpc.RpcClient

variable {cfg : Config} {s s' : State} {id : UInt64}

theorem mem_held {c : Completion} : c ∈ s.held ↔ ∃ cs, .callbacks cs ∈ s.stack ∧ c ∈ cs := by
  unfold State.held
  rw [List.mem_flatMap]
  constructor
  · rintro ⟨f, hf, hc⟩
    cases f with
    | callbacks cs => exact ⟨cs, hf, hc⟩
    | _ => cases hc
  · rintro ⟨cs, hf, hc⟩
    exact ⟨.callbacks cs, hf, hc⟩

/-! ### One callback -/

/-- One callback is taken at most, in a frame of its own. -/
def TakesOne (s s' : State) : Prop :=
  s'.stack = s.stack ∨ ∃ c, s'.stack = .callbacks [c] :: s.stack

theorem stack_callInLoop (cfg : Config) (s : State) (id : UInt64) (a : CallArgs) :
    (callInLoop cfg s id a).stack = s.stack ∨ ∃ c : Completion, c.cause = .rejected ∧
      (callInLoop cfg s id a).stack = .callbacks [c] :: s.stack := by
  unfold callInLoop
  split
  · exact .inr ⟨_, rfl, rfl⟩
  · dsimp only
    split_ifs
    · exact .inr ⟨_, rfl, rfl⟩
    · exact .inr ⟨_, rfl, rfl⟩
    · exact .inr ⟨_, rfl, rfl⟩
    · left
      unfold State.armRequestTimer
      split_ifs
      · rfl
      · rfl

theorem takesOne_callInLoop (cfg : Config) (s : State) (id : UInt64) (a : CallArgs) :
    TakesOne s (callInLoop cfg s id a) := by
  rcases stack_callInLoop cfg s id a with hsame | ⟨c, -, hpush⟩
  · exact .inl hsame
  · exact .inr ⟨c, hpush⟩

theorem stack_sendCancel (s : State) (id : UInt64) : (sendCancel s id).stack = s.stack := by
  unfold sendCancel
  split
  · rfl
  · dsimp only
    split_ifs
    · rfl
    · rfl

theorem takesOne_cancelInLoop (s : State) (id : UInt64) : TakesOne s (cancelInLoop s id) := by
  unfold cancelInLoop
  split
  · exact .inl rfl
  · exact .inr ⟨_, congrArg _ (stack_sendCancel _ id)⟩

theorem takesOne_runTimer (s : State) (task : TimerTask) : TakesOne s (runTimer s task) := by
  cases task with
  | onRequestTimeout id =>
    unfold runTimer onRequestTimeout
    dsimp only
    split
    · exact .inl rfl
    · split_ifs
      · exact .inl rfl
      · exact .inr ⟨_, congrArg _ (stack_sendCancel _ id)⟩
  | onReconnectTimeout id =>
    unfold runTimer onReconnectTimeout
    dsimp only
    split
    · exact .inl rfl
    · split_ifs
      · exact .inl rfl
      · exact .inr ⟨_, rfl⟩
      · exact .inl rfl

theorem takesOne_onRpcMessage (cfg : Config) (s : State) (conn : ConnId) (msg : Bytes) :
    TakesOne s (onRpcMessage cfg s conn msg) := by
  rw [onRpcMessage_eq]
  cases validResponse? cfg msg with
  | none => exact .inl rfl
  | some response =>
    dsimp only
    unfold onResponse
    dsimp only
    split
    · split_ifs
      · exact .inl rfl
      · exact .inl rfl
    · exact .inr ⟨_, rfl⟩

/-! ### The callbacks of lost requests -/

/-- The callbacks that are taken are those of requests that lost their connection or could not be
sent again. -/
def TakesLost (s s' : State) : Prop :=
  ∀ c ∈ s'.held, c ∈ s.held ∨ c.cause = .connectionLost ∨ c.cause = .resendFailed

/-- A frame of callbacks of lost requests, on a stack that holds no other callbacks than `s`. -/
theorem takesLost_of_push {cs : List Completion} {stack : List Frame}
    (hs' : s'.stack = .callbacks cs :: stack)
    (hcs : ∀ c ∈ cs, c.cause = .connectionLost ∨ c.cause = .resendFailed)
    (hstack : ∀ cs, .callbacks cs ∈ stack → .callbacks cs ∈ s.stack) : TakesLost s s' := by
  intro c hc
  obtain ⟨cs', hf, hc⟩ := mem_held.mp hc
  rw [hs'] at hf
  rcases List.mem_cons.mp hf with hnew | hold
  · rw [Frame.callbacks.inj hnew] at hc
    exact .inr (hcs c hc)
  · exact .inl (mem_held.mpr ⟨cs', hstack cs' hold, hc⟩)

/-- No callback is taken. -/
theorem takesLost_of_stack (hstack : ∀ cs, .callbacks cs ∈ s'.stack → .callbacks cs ∈ s.stack) :
    TakesLost s s' := by
  intro c hc
  obtain ⟨cs, hf, hc⟩ := mem_held.mp hc
  exact .inl (mem_held.mpr ⟨cs, hstack cs hf, hc⟩)

theorem takesLost_failAllPendingRequests {t : State}
    (hstack : ∀ cs, .callbacks cs ∈ t.stack → .callbacks cs ∈ s.stack) (order : List UInt64)
    (errorCode : RpcErrorCode) (errorMessage : Bytes) :
    TakesLost s (failAllPendingRequests t order errorCode errorMessage) := by
  rw [failAllPendingRequests_eq]
  apply takesLost_of_push rfl _ hstack
  intro c hc
  obtain ⟨item, -, rfl⟩ := List.mem_map.mp hc
  exact .inl rfl

theorem takesLost_failAllDisreconnectRequests {t : State}
    (hstack : ∀ cs, .callbacks cs ∈ t.stack → .callbacks cs ∈ s.stack) (order : List UInt64)
    (errorCode : RpcErrorCode) (errorMessage : Bytes) :
    TakesLost s (failAllDisreconnectRequests t order errorCode errorMessage) := by
  rw [failAllDisreconnectRequests_frame t t rfl rfl]
  apply takesLost_of_push rfl _ hstack
  intro c hc
  obtain ⟨item, -, rfl⟩ := List.mem_map.mp hc
  exact .inl rfl

theorem takesLost_disconnect (s : State) (order : List UInt64) :
    TakesLost s (disconnect s order) := by
  unfold disconnect
  dsimp only
  split
  · exact takesLost_failAllPendingRequests (fun _ h => h) order _ _
  · exact takesLost_failAllPendingRequests (fun _ h => h) order _ _
  · exact takesLost_of_stack fun _ h => h
  · exact takesLost_failAllPendingRequests (fun _ h => h) order _ _

theorem takesLost_onConnectionDown {t : State} (hstack : t.stack = s.stack) (conn : ConnId)
    (order : List UInt64) : TakesLost s (onConnectionDown t conn order) := by
  have hpush : ∀ cs, .callbacks cs ∈ (Frame.onConnectionDown conn :: t.stack) →
      .callbacks cs ∈ s.stack := by
    intro cs hf
    rw [hstack] at hf
    exact (List.mem_cons.mp hf).resolve_left fun heq => by cases heq
  unfold onConnectionDown
  dsimp only
  split_ifs
  · exact takesLost_failAllPendingRequests hpush order _ _
  · exact takesLost_failAllDisreconnectRequests hpush order _ _

theorem stack_runConnectionCallback (cfg : Config) (s : State) (conn : ConnId) (up : Bool)
    (cs : List Completion) (hf : .callbacks cs ∈ (runConnectionCallback cfg s conn up).stack) :
    .callbacks cs ∈ s.stack := by
  unfold runConnectionCallback at hf
  split_ifs at hf
  · exact (List.mem_cons.mp hf).resolve_left fun heq => by cases heq
  · exact hf

theorem takesLost_resend {conn : Option ConnId} {c : ConnId} {waiting : List UInt64}
    {f : Frame} {rest : List Frame} (hstack : s.stack = f :: rest) :
    TakesLost s (resend { s with stack := .checkReconnect conn waiting :: rest } c id) := by
  have hrest : ∀ cs, Frame.callbacks cs ∈ Frame.checkReconnect conn waiting :: rest →
      Frame.callbacks cs ∈ s.stack := by
    intro cs hf
    rw [hstack]
    exact .tail _ ((List.mem_cons.mp hf).resolve_left fun heq => by cases heq)
  unfold resend
  split
  · exact takesLost_of_stack hrest
  · split_ifs
    · exact takesLost_of_stack hrest
    · dsimp only
      split_ifs
      · apply takesLost_of_push rfl _ hrest
        intro c' hc'
        obtain rfl := List.mem_singleton.mp hc'
        exact .inr rfl
      · apply takesLost_of_stack
        unfold State.armRequestTimer
        split_ifs
        · exact hrest
        · exact hrest

theorem takesLost_resumed {order : List UInt64} {f : Frame} {rest : List Frame}
    (hstack : s.stack = f :: rest) (h : Resumed cfg { s with stack := rest } order f s') :
    TakesLost s s' := by
  have hrest : ∀ cs, Frame.callbacks cs ∈ rest → Frame.callbacks cs ∈ s.stack := by
    intro cs hf
    rw [hstack]
    exact .tail _ hf
  cases h with
  | callbacksDone | skipCheck | checkDone | stopCheck | noErrorCallback =>
    exact takesLost_of_stack hrest
  | @callback c cs =>
    intro c' hc'
    obtain ⟨cs', hf, hc'⟩ := mem_held.mp hc'
    left
    rcases List.mem_cons.mp ((List.mem_cons.mp hf).resolve_left fun heq => by cases heq) with
      hframe | hold
    · rw [Frame.callbacks.inj hframe] at hc'
      exact mem_held.mpr ⟨c :: cs, hstack ▸ List.mem_cons_self, .tail _ hc'⟩
    · exact mem_held.mpr ⟨cs', hrest cs' hold, hc'⟩
  | startCheck | errorCallback =>
    apply takesLost_of_stack
    intro cs hf
    exact hrest cs ((List.mem_cons.mp hf).resolve_left fun heq => by cases heq)
  | resend => exact takesLost_resend hstack
  | onConnectionDown =>
    apply takesLost_of_stack
    intro cs hf
    exact hrest cs (stack_runConnectionCallback cfg _ _ _ cs hf)

/-! ### All steps -/

theorem takes_of_step {b : Action} (h : step cfg s b = some s') :
    TakesOne s s' ∨ TakesLost s s' := by
  cases stepped_of_step h with
  | drawId | queueCall | queueCancel | tick | transmit | loseConnection | sweep =>
    exact .inl (.inl rfl)
  | resume hstack hresumed => exact .inr (takesLost_resumed hstack hresumed)
  | @runTask task tasks =>
    cases task with
    | callInLoop id a =>
      exact .inl (takesOne_callInLoop cfg { s with loop_ := s.loop_.setTasks tasks } id a)
    | cancelInLoop id =>
      exact .inl (takesOne_cancelInLoop { s with loop_ := s.loop_.setTasks tasks } id)
  | @fireTimer t task loop => exact .inl (takesOne_runTimer { s with loop_ := loop } task)
  | enterUser =>
    right
    apply takesLost_of_stack
    intro cs hf
    exact (List.mem_cons.mp hf).resolve_left fun heq => by cases heq
  | connectionUp =>
    right
    apply takesLost_of_stack
    intro cs hf
    have hbelow := stack_runConnectionCallback cfg _ _ _ cs hf
    exact (List.mem_cons.mp hbelow).resolve_left fun heq => by cases heq
  | @connectionDown conn order => exact .inr (takesLost_onConnectionDown rfl conn order)
  | @connectionError errorCode order =>
    right
    apply takesLost_failAllDisreconnectRequests
    intro cs hf
    exact (List.mem_cons.mp hf).resolve_left fun heq => by cases heq
  | @deliver conn msg => exact .inl (takesOne_onRpcMessage cfg s conn msg)
  | @call a => exact .inl (takesOne_callInLoop cfg (fetchRequestId s a).2 (fetchRequestId s a).1 a)
  | @cancel id => exact .inl (takesOne_cancelInLoop s id)
  | connect =>
    left; left
    unfold connect
    split_ifs
    · rfl
    · rfl
  | @disconnect order => exact .inr (takesLost_disconnect s order)
  | leaveUser hstack =>
    right
    apply takesLost_of_stack
    intro cs hf
    rw [hstack]
    exact .tail _ hf

/-- The causes of the completions that complete one request. -/
def singleCauses : List Cause := [.response, .requestTimeout, .canceled, .reconnectTimeout]

/-- The callback of a response, a timeout or a cancel is taken alone. -/
theorem stack_of_single {b : Action} {c : Completion} (h : step cfg s b = some s')
    (hc : c ∈ s'.held) (hnew : c ∉ s.held) (hcause : c.cause ∈ singleCauses) :
    s'.stack = .callbacks [c] :: s.stack := by
  rcases takes_of_step h with (hsame | ⟨d, hpush⟩) | hlost
  · unfold State.held at hc hnew
    rw [hsame] at hc
    exact absurd hc hnew
  · obtain ⟨cs, hf, hc⟩ := mem_held.mp hc
    rw [hpush] at hf
    rcases List.mem_cons.mp hf with hframe | hold
    · rw [Frame.callbacks.inj hframe] at hc
      obtain rfl := List.mem_singleton.mp hc
      exact hpush
    · exact absurd (mem_held.mpr ⟨cs, hold, hc⟩) hnew
  · rcases hlost c hc with hold | hlost | hfailed
    · exact absurd hold hnew
    · rw [hlost] at hcause
      exact absurd hcause (by decide)
    · rw [hfailed] at hcause
      exact absurd hcause (by decide)

end MiniRpc.RpcClient
