import MiniRpc.Machine.Progress
import MiniRpc.RpcClient.Equiv.Capacity

/-!
# What a client has to do

`State.rank w` counts what is left to do of the operations in progress, of the queued tasks and of
the calls of other threads, where each frame that the network has not taken yet counts for `w`.
Every internal action lowers it (`rank_lt_of_internal`), and the arrival of a message raises it by
one callback at most (`rank_deliver_le`).

A client that can take no step by itself has no operation in progress and nothing queued
(`Rest.stack_eq`, `Rest.tasks_eq`, `Rest.calling_eq`).
-/

namespace MiniRpc.RpcClient

variable {cfg : Config} {s s' : State} {a : Action} {w n : ℕ}

/-- The actions that nobody outside the client has to do anything for; user code returns. -/
def internal : Action → Bool
  | .queueCall _ | .runTask | .resume _ | .leaveUser => true
  | _ => false

theorem isNetwork_of_internal (ha : internal a = true) : a.isNetwork = false := by
  cases a with
  | transmit | deliver => cases ha
  | _ => rfl

/-! ### What is left to do -/

/-- How far an operation is from its end when so many requests are pending. -/
def Frame.weight (w pending : ℕ) : Frame → ℕ
  | .callbacks cs => 2 * cs.length + 1
  | .userCode => 1
  | .onConnectionUp _ => (w + 4) * pending + 2
  | .checkReconnect _ waiting => (w + 4) * waiting.length + 1
  | .onConnectionDown _ | .onConnectionError _ => 2

/-- How far the operations on the stack are from their ends. -/
def weigh (w pending : ℕ) : List Frame → ℕ
  | [] => 0
  | f :: stack => f.weight w pending + weigh w pending stack

/-- The number of pending requests. -/
def State.pendingCount (s : State) : ℕ := s.pendingRequests_.keys.card

/-- What is left to do. -/
def State.rank (w : ℕ) (s : State) : ℕ :=
  w * s.outbox.length + weigh w s.pendingCount s.stack + (w + 4) * s.loop_.tasks.length +
    (w + 5) * s.calling.length

theorem weigh_mono {pending pending' : ℕ} (h : pending ≤ pending') (stack : List Frame) :
    weigh w pending stack ≤ weigh w pending' stack := by
  induction stack with
  | nil => exact Nat.le_refl _
  | cons f stack ih =>
    have hf : f.weight w pending ≤ f.weight w pending' := by
      cases f with
      | onConnectionUp => exact Nat.add_le_add_right (Nat.mul_le_mul_left _ h) 2
      | _ => exact Nat.le_refl _
    exact Nat.add_le_add hf ih

theorem weigh_append (pending : ℕ) (fs stack : List Frame) :
    weigh w pending (fs ++ stack) = weigh w pending fs + weigh w pending stack := by
  induction fs with
  | nil => simp [weigh]
  | cons f fs ih =>
    rw [List.cons_append, weigh, weigh, ih]
    omega

/-! ### The operations -/

/-- What an operation does that hands at most `n` frames to the codec. -/
structure Acts (n : ℕ) (s s' : State) : Prop where
  stack : TakesOne s s'
  outbox : s'.outbox.length ≤ s.outbox.length + n
  tasks : s'.loop_.tasks = s.loop_.tasks
  calling : s'.calling = s.calling

/-- An operation adds its frames and one callback to what is left to do. -/
theorem Acts.rank_le (h : Acts n s s')
    (hpending : s.stack = [] ∨ s'.pendingCount ≤ s.pendingCount) :
    s'.rank w ≤ s.rank w + w * n + 3 := by
  have hstack : weigh w s'.pendingCount s.stack ≤ weigh w s.pendingCount s.stack := by
    rcases hpending with hempty | hle
    · rw [hempty]
      exact Nat.le_refl _
    · exact weigh_mono hle _
  have hnew : weigh w s'.pendingCount s'.stack ≤ weigh w s'.pendingCount s.stack + 3 := by
    rcases h.stack with hsame | ⟨c, hpush⟩
    · rw [hsame]
      omega
    · rw [hpush]
      simp only [weigh, Frame.weight, List.length_singleton]
      omega
  have houtbox := Nat.mul_le_mul_left w h.outbox
  rw [Nat.mul_add] at houtbox
  unfold State.rank
  rw [h.tasks, h.calling]
  omega

/-- A callback is taken. -/
theorem acts_complete (s : State) (c : Completion) : Acts n s (s.complete c) :=
  ⟨.inr ⟨c, rfl⟩, Nat.le_add_right _ _, rfl, rfl⟩

/-- Nothing happens that is left to do. -/
theorem acts_none (hstack : s'.stack = s.stack) (houtbox : s'.outbox = s.outbox)
    (htasks : s'.loop_.tasks = s.loop_.tasks) (hcalling : s'.calling = s.calling) :
    Acts n s s' :=
  ⟨.inl hstack, houtbox ▸ Nat.le_add_right _ _, htasks, hcalling⟩

/-- Arming a timer leaves no more to do, and neither does sending a frame, other than the frame. -/
theorem acts_send_armRequestTimer (s : State) (id : UInt64) (timeout : ℕ) (conn : ConnId)
    (frame : Bytes) (e : Event) : Acts 1 s ((s.armRequestTimer id timeout).send conn frame e) := by
  unfold State.armRequestTimer
  split_ifs
  · exact ⟨.inl rfl, by simp [State.send, State.armTimer, State.setTimerId], rfl, rfl⟩
  · exact ⟨.inl rfl, by simp [State.send], rfl, rfl⟩

theorem Acts.of_same {t : State} (h : Acts n t s') (hstack : t.stack = s.stack)
    (houtbox : t.outbox = s.outbox) (htasks : t.loop_.tasks = s.loop_.tasks)
    (hcalling : t.calling = s.calling) : Acts n s s' where
  stack := by
    have htakes := h.stack
    unfold TakesOne at htakes ⊢
    rwa [← hstack]
  outbox := houtbox ▸ h.outbox
  tasks := h.tasks.trans htasks
  calling := h.calling.trans hcalling

theorem acts_callInLoop (cfg : Config) (s : State) (id : UInt64) (a : CallArgs) :
    Acts 1 s (callInLoop cfg s id a) := by
  unfold callInLoop
  split
  · exact acts_complete s _
  · dsimp only
    split_ifs
    · exact acts_complete s _
    · exact acts_complete s _
    · exact acts_complete s _
    · exact (acts_send_armRequestTimer _ _ _ _ _ _).of_same rfl rfl rfl rfl

theorem acts_sendCancel (s : State) (id : UInt64) : Acts 1 s (sendCancel s id) := by
  unfold sendCancel
  split
  · exact acts_none rfl rfl rfl rfl
  · dsimp only
    split_ifs
    · exact acts_none rfl rfl rfl rfl
    · exact ⟨.inl rfl, by simp [State.send], rfl, rfl⟩

theorem acts_cancelInLoop (s : State) (id : UInt64) : Acts 1 s (cancelInLoop s id) := by
  have hstack := takesOne_cancelInLoop s id
  unfold cancelInLoop at hstack ⊢
  split at hstack
  · exact acts_none rfl rfl rfl rfl
  · rename_i p hp
    have hcancel := acts_sendCancel
      (ignoreResponse ((s.cancelTimer p.timerId).erasePending id) id) id
    exact ⟨hstack, hcancel.outbox, hcancel.tasks.trans (EventLoop.tasks_cancelIfSet _ _),
      hcancel.calling⟩

/-- No frame is sent when one arrives. -/
theorem acts_onRpcMessage (cfg : Config) (s : State) (conn : ConnId) (msg : Bytes) :
    Acts 0 s (onRpcMessage cfg s conn msg) := by
  rw [onRpcMessage_eq]
  cases validResponse? cfg msg with
  | none => exact acts_none rfl rfl rfl rfl
  | some response =>
    dsimp only
    unfold onResponse
    dsimp only
    split
    · split_ifs
      · exact acts_none rfl rfl rfl rfl
      · exact acts_none rfl rfl rfl rfl
    · exact (acts_complete _ _).of_same rfl rfl (EventLoop.tasks_cancelIfSet _ _) rfl

theorem acts_resend (s : State) (c : ConnId) (id : UInt64) : Acts 1 s (resend s c id) := by
  unfold resend
  split
  · exact acts_none rfl rfl rfl rfl
  · split_ifs
    · exact acts_none rfl rfl rfl rfl
    · dsimp only
      split_ifs
      · exact (acts_complete _ _).of_same rfl rfl (EventLoop.tasks_cancelIfSet _ _) rfl
      · exact (acts_send_armRequestTimer _ _ _ _ _ _).of_same rfl rfl
          (EventLoop.tasks_cancelIfSet _ _) rfl

/-- The requests to be resent are pending. -/
theorem length_waiting_le {order : List UInt64}
    (horder : IterationOrder order s.pendingRequests_) :
    (waitingToResendRequest s order).length ≤ s.pendingCount := by
  have hfilter := List.length_filter_le
    (fun item : UInt64 × PendingRequest => ¬ (item.2.phase ≠ .kWaitingReconnect ∨
      ¬ item.2.allowReconnect ∨ item.2.remainingResends = 0)) (entries order s.pendingRequests_)
  have hentries : (entries order s.pendingRequests_).length ≤ order.length :=
    List.length_filterMap_le _ _
  have hcard : order.length = s.pendingCount := by
    rw [← List.toFinset_card_of_nodup horder.1, horder.2]
    rfl
  unfold waitingToResendRequest
  rw [List.length_map, ← hcard]
  exact hfilter.trans hentries

/-- The innermost operation is replaced by `fs`, what it leaves of itself. -/
theorem rank_lt_of_stack {f : Frame} {rest : List Frame} (fs : List Frame)
    (hstack : s.stack = f :: rest) (hstack' : s'.stack = fs ++ rest)
    (houtbox : s'.outbox = s.outbox) (htasks : s'.loop_.tasks = s.loop_.tasks)
    (hcalling : s'.calling = s.calling) (hpending : s'.pendingCount ≤ s.pendingCount)
    (hlt : weigh w s'.pendingCount fs < f.weight w s.pendingCount) : s'.rank w < s.rank w := by
  have hrest := weigh_mono (w := w) hpending rest
  unfold State.rank
  rw [houtbox, htasks, hcalling, hstack, hstack', weigh_append, weigh]
  omega

/-- An operation that goes on lowers the rank. -/
theorem rank_lt_of_resumed {order : List UInt64} {f : Frame} {rest : List Frame}
    (hstack : s.stack = f :: rest) (h : Resumed cfg { s with stack := rest } order f s')
    (hpending : s'.pendingCount ≤ s.pendingCount) : s'.rank w < s.rank w := by
  cases h with
  | callbacksDone | skipCheck | checkDone | stopCheck | noErrorCallback =>
    refine rank_lt_of_stack [] hstack rfl rfl rfl rfl hpending ?_
    simp [Frame.weight, weigh]
  | @callback c cs =>
    refine rank_lt_of_stack [.userCode, .callbacks cs] hstack rfl rfl rfl rfl hpending ?_
    simp only [Frame.weight, weigh, List.length_cons]
    omega
  | errorCallback =>
    refine rank_lt_of_stack [.userCode] hstack rfl rfl rfl rfl hpending ?_
    simp [Frame.weight, weigh]
  | startCheck hconn horder =>
    have hwaiting := Nat.mul_le_mul_left (w + 4) (length_waiting_le horder)
    refine rank_lt_of_stack [_] hstack rfl rfl rfl rfl hpending ?_
    simp only [Frame.weight, weigh]
    exact Nat.lt_succ_of_le (Nat.add_le_add_right hwaiting 1)
  | @resend conn c requestId waiting hc =>
    -- the frame that is sent, or the callback, is paid for by the request that is resent
    have hacts := (acts_resend { s with stack := .checkReconnect conn waiting :: rest } c
      requestId).rank_le (w := w) (.inr hpending)
    have hpaid : State.rank w { s with stack := .checkReconnect conn waiting :: rest } +
        (w + 4) = s.rank w := by
      unfold State.rank State.pendingCount
      rw [hstack]
      simp only [weigh, Frame.weight, List.length_cons, Nat.mul_add]
      omega
    show (RpcClient.resend { s with stack := .checkReconnect conn waiting :: rest } c
      requestId).rank w < _
    omega
  | @onConnectionDown conn =>
    unfold runConnectionCallback at hpending ⊢
    split_ifs at hpending ⊢
    · refine rank_lt_of_stack [.userCode] hstack rfl rfl rfl rfl hpending ?_
      simp [Frame.weight, weigh]
    · refine rank_lt_of_stack [] hstack rfl rfl rfl rfl hpending ?_
      simp [Frame.weight, weigh]

/-- Executing a queued task lowers the rank. -/
theorem rank_lt_of_runTask {task : LoopTask} {tasks : List LoopTask} (hstack : s.stack = [])
    (htasks : s.loop_.tasks = task :: tasks) :
    (runTask cfg { s with loop_ := s.loop_.setTasks tasks } task).rank w < s.rank w := by
  have hpaid : State.rank w { s with loop_ := s.loop_.setTasks tasks } + (w + 4) = s.rank w := by
    simp only [State.rank, State.pendingCount, EventLoop.setTasks, htasks, List.length_cons,
      Nat.mul_add]
    omega
  have hacts : Acts 1 { s with loop_ := s.loop_.setTasks tasks }
      (runTask cfg { s with loop_ := s.loop_.setTasks tasks } task) := by
    cases task with
    | callInLoop requestId args => exact acts_callInLoop cfg _ requestId args
    | cancelInLoop requestId => exact acts_cancelInLoop _ requestId
  have hle := hacts.rank_le (w := w) (.inl hstack)
  omega

/-- **What the client does by itself lowers the rank.** -/
theorem rank_lt_of_internal (ha : internal a = true) (h : step cfg s a = some s') :
    s'.rank w < s.rank w := by
  cases stepped_of_step h with
  | @queueCall k requestId args hk =>
    have hlt := (List.getElem?_eq_some_iff.mp hk).1
    have hcalling : (s.calling.eraseIdx k).length + 1 = s.calling.length := by
      rw [List.length_eraseIdx_of_lt hlt]
      omega
    simp only [State.rank, State.pendingCount, EventLoop.queueInLoop, List.length_append,
      List.length_singleton, ← hcalling, Nat.mul_add]
    omega
  | resume hstack hresumed =>
    exact rank_lt_of_resumed hstack hresumed (releases_of_step rfl h).card_le
  | runTask hstack htasks => exact rank_lt_of_runTask hstack htasks
  | leaveUser hstack =>
    refine rank_lt_of_stack [] hstack rfl rfl rfl rfl (Nat.le_refl _) ?_
    simp [Frame.weight, weigh]
  | _ => cases ha

/-- A message that arrives completes one call at most. -/
theorem rank_deliver_le {msg : Bytes} (h : step cfg s (.deliver msg) = some s') :
    s'.rank w ≤ s.rank w + 3 := by
  cases stepped_of_step h with
  | @deliver conn _ hstack hcurrent =>
    exact (acts_onRpcMessage cfg s conn msg).rank_le (.inl hstack)

/-- The network takes a frame. -/
theorem rank_dropFirst {conn : ConnId} {frame : Bytes} (h : s.outbox.first conn = some frame) :
    State.rank w { s with outbox := s.outbox.dropFirst conn } + w = s.rank w := by
  have hlen := (Channel.perm_of_first h).length_eq
  simp only [State.rank, State.pendingCount, hlen, List.length_cons, Nat.mul_add]
  omega

/-! ### At rest -/

/-- A map can be iterated over in some order. -/
theorem exists_iterationOrder (pending : Finmap fun _ : UInt64 => PendingRequest) :
    ∃ order, IterationOrder order pending :=
  ⟨pending.keys.toList, Finset.nodup_toList _, Finset.toList_toFinset _⟩

/-- An operation that waits for no user code can go on. -/
theorem exists_resume (cfg : Config) (s : State) {f : Frame} (hf : f ≠ .userCode) :
    ∃ order s', resume cfg s order f = some s' := by
  cases f with
  | userCode => exact absurd rfl hf
  | callbacks cs =>
    cases cs with
    | nil => exact ⟨[], _, rfl⟩
    | cons c cs => exact ⟨[], _, rfl⟩
  | onConnectionUp conn =>
    obtain ⟨order, horder⟩ := exists_iterationOrder s.pendingRequests_
    by_cases hconn : some conn = s.conn_
    · exact ⟨order, _, (if_pos hconn).trans (if_pos horder)⟩
    · exact ⟨order, _, if_neg hconn⟩
  | checkReconnect conn waiting =>
    cases waiting with
    | nil => exact ⟨[], _, rfl⟩
    | cons requestId waiting =>
      cases hresend : canResend s conn with
      | none => exact ⟨[], s, by simp only [resume, hresend]⟩
      | some c =>
        exact ⟨[], resend (s.push (.checkReconnect conn waiting)) c requestId,
          by simp only [resume, hresend]⟩
  | onConnectionDown conn => exact ⟨[], _, rfl⟩
  | onConnectionError errorCode =>
    by_cases hcallback : cfg.connectionErrorCallback_ = true
    · exact ⟨[], _, if_pos hcallback⟩
    · exact ⟨[], _, if_neg hcallback⟩

/-- What the loop does when no operation is in progress. -/
theorem step_idle (ha : a = .runTask ∨ ∃ msg, a = .deliver msg) (hstack : s.stack = []) :
    step cfg s a = stepIdle cfg s a := by
  rcases ha with rfl | ⟨msg, rfl⟩
  all_goals
    unfold step
    dsimp only
    rw [hstack]

section Rest

variable (hrest : (machine cfg).Rest internal s)

include hrest

theorem Rest.absurd_step (ha : internal a = true) (h : step cfg s a = some s') : False := by
  have hnone : step cfg s a = none := hrest a ha
  cases hnone.symm.trans h

/-- User code returns and operations go on, so none is in progress. -/
theorem Rest.stack_eq : s.stack = [] := by
  cases hstack : s.stack with
  | nil => rfl
  | cons f rest =>
    by_cases hf : f = .userCode
    · have hstep : step cfg s .leaveUser = some { s with stack := rest } := by
        unfold step
        dsimp only
        rw [hstack, hf]
        rfl
      exact (Rest.absurd_step hrest rfl hstep).elim
    · obtain ⟨order, s', hresume⟩ := exists_resume cfg { s with stack := rest } hf
      have hstep : step cfg s (.resume order) = some s' := by
        unfold step
        dsimp only
        rw [hstack]
        exact hresume
      exact (Rest.absurd_step hrest rfl hstep).elim

theorem Rest.tasks_eq : s.loop_.tasks = [] := by
  have hstack := Rest.stack_eq hrest
  cases htasks : s.loop_.tasks with
  | nil => rfl
  | cons task tasks =>
    have hstep : step cfg s .runTask =
        some (runTask cfg { s with loop_ := s.loop_.setTasks tasks } task) := by
      rw [step_idle (.inl rfl) hstack]
      unfold stepIdle
      dsimp only
      rw [htasks]
    exact (Rest.absurd_step hrest rfl hstep).elim

theorem Rest.calling_eq : s.calling = [] := by
  cases hcalling : s.calling with
  | nil => rfl
  | cons call calling =>
    obtain ⟨requestId, args⟩ := call
    have hstep : step cfg s (.queueCall 0) = some { s with
        calling := s.calling.eraseIdx 0
        loop_ := s.loop_.queueInLoop (.callInLoop requestId args) } := by
      unfold step stepOutside
      dsimp only
      rw [hcalling]
      rfl
    exact (Rest.absurd_step hrest rfl hstep).elim

end Rest

end MiniRpc.RpcClient
