import MiniRpc.RpcServer.Equiv.Decompose

/-!
# What a transition does to an invocation

The places an invocation can be in (`State.Waiting`, `State.Started`, `State.Replying`,
`State.Queued`), and one inversion lemma for each: where an invocation was before it came there.
-/

namespace MiniRpc.RpcServer

variable {cfg : Config} {proper network : Prop} {s s' : State} {phase phase' : Phase}
  {inv : Invocation} {r : RpcResult}

/-- The handler of the invocation was not called yet. -/
def State.Waiting (s : State) (inv : Invocation) : Prop :=
  (∃ t, (t, .submit inv) ∈ s.running) ∨ inv ∈ poolTasks s.taskPool_

/-- The handler of the invocation was called. -/
def State.Started (s : State) (inv : Invocation) : Prop :=
  (∃ t, (t, .handler inv) ∈ s.running) ∨ inv ∈ s.replies

/-- The reply object of the invocation was called with a result and has not queued its task yet. -/
def State.Replying (s : State) (inv : Invocation) (r : RpcResult) : Prop :=
  ∃ t, (t, .reply inv r) ∈ s.running

/-- A task that replies with a result is queued. -/
def State.Queued (s : State) (inv : Invocation) (r : RpcResult) : Prop :=
  ∃ l, (l, .reply inv r) ∈ s.tasks

/-! ### Lists with one element set or taken out -/

section Perm

variable {α : Type} {xs ys rest : List α} {x y z : α}

theorem mem_of_taken (h : xs.Perm (y :: rest)) (hx : x ∈ rest) : x ∈ xs :=
  h.mem_iff.mpr (List.mem_cons_of_mem y hx)

theorem mem_of_set (h : xs.Perm (y :: rest)) (h' : ys.Perm (z :: rest)) (hx : x ∈ ys) :
    x = z ∨ x ∈ xs :=
  (List.mem_cons.mp (h'.mem_iff.mp hx)).imp_right (mem_of_taken h)

theorem mem_head (h : xs.Perm (y :: rest)) : y ∈ xs := h.mem_iff.mpr List.mem_cons_self

end Perm

/-! ### The trace -/

/-- Whether the event is a response. -/
def Event.isResponse : Event → Bool
  | .responded .. => true
  | _ => false

/-- A transition sends one response, or records events that are no responses. -/
theorem Transition.events (ht : Transition cfg proper network (s, phase) (s', phase')) :
    (∃ es, s'.trace = es ++ s.trace ∧ ∀ e ∈ es, e.isResponse = false) ∨
    (∃ conn id origin r, phase = .answering conn id origin r ∧
      (limitedResponse cfg.effectiveMaxMessageSize id r).Valid ∧
      s'.trace = .responded conn id origin
        (limitedResponse cfg.effectiveMaxMessageSize id r).fields.flatten :: s.trace) := by
  cases ht with
  | respond hvalid => exact .inr ⟨_, _, _, _, rfl, hvalid, rfl⟩
  | invokeSync | refuse | refuseDuplicate =>
    exact .inl ⟨[_, _], rfl, List.forall_mem_cons.mpr ⟨rfl, List.forall_mem_singleton.mpr rfl⟩⟩
  | receive | refuseLimit | close | cancel | cancelNone | startHandler | refuseReplied | workerTake
  | handlerThrows | userReply | forceClose | down | stopCompleted =>
    exact .inl ⟨[_], rfl, List.forall_mem_singleton.mpr rfl⟩
  | _ => exact .inl ⟨[], rfl, List.forall_mem_nil _⟩

theorem Transition.trace_subset (ht : Transition cfg proper network (s, phase) (s', phase')) :
    s.trace ⊆ s'.trace := by
  rcases ht.events with ⟨es, heq, -⟩ | ⟨_, _, _, _, -, -, heq⟩
  · rw [heq]
    exact List.subset_append_right es _
  · rw [heq]
    exact List.subset_cons_self _ _

/-- A response that was just sent carries the result that was to be answered. -/
theorem Transition.responded (ht : Transition cfg proper network (s, phase) (s', phase'))
    {conn : ConnId} {id : UInt64} {origin : Origin} {output : Bytes}
    (h : .responded conn id origin output ∈ s'.trace) :
    .responded conn id origin output ∈ s.trace ∨ ∃ r,
      phase = .answering conn id origin r ∧
      (limitedResponse cfg.effectiveMaxMessageSize id r).Valid ∧
      output = (limitedResponse cfg.effectiveMaxMessageSize id r).fields.flatten := by
  rcases ht.events with ⟨es, heq, hes⟩ | ⟨conn', id', origin', r, hphase, hvalid, heq⟩
  · rw [heq, List.mem_append] at h
    exact .inl (h.resolve_left fun hmem => by cases hes _ hmem)
  · rw [heq, List.mem_cons] at h
    rcases h with h | h
    · obtain ⟨rfl, rfl, rfl, rfl⟩ := Event.responded.inj h
      exact .inr ⟨r, hphase, hvalid, rfl⟩
    · exact .inl h

/-! ### Inversions -/

/-- An invocation whose handler was not called was just registered or was there before. -/
theorem Transition.waiting (ht : Transition cfg proper network (s, phase) (s', phase'))
    (h : s'.Waiting inv) : s.Waiting inv ∨
      phase = .received inv.frame inv.conn inv.request ∧
      cfg.asyncHandlers_.find? inv.request.service_ inv.request.method_ = some inv.handler ∧
      s'.cancellationRegistry_.find? inv.conn inv.request.requestId_ = some inv.frame := by
  rcases h with ⟨t, hmem⟩ | hmem
  · cases ht with
    | register hhandler _ _ hfind =>
      rcases List.mem_cons.mp hmem with heq | hmem
      · obtain ⟨-, heq⟩ := Prod.mk.inj heq
        obtain rfl := Activity.submit.inj heq
        exact .inr ⟨rfl, hhandler, by rw [hfind, if_pos ⟨rfl, rfl⟩]⟩
      · exact .inl (.inl ⟨t, hmem⟩)
    | startHandler hrunning hrunning' | refuse _ _ _ hrunning hrunning'
    | handlerThrows _ hrunning hrunning' =>
      rcases mem_of_set hrunning hrunning' hmem with heq | hmem
      · cases heq
      · exact .inl (.inl ⟨t, hmem⟩)
    | workerTake | userReply =>
      rcases List.mem_cons.mp hmem with heq | hmem
      · cases heq
      · exact .inl (.inl ⟨t, hmem⟩)
    | enqueue hrunning | refuseReplied hrunning | leave hrunning | queueReply hrunning =>
      exact .inl (.inl ⟨t, mem_of_taken hrunning hmem⟩)
    | _ => exact .inl (.inl ⟨t, hmem⟩)
  · cases ht with
    | @enqueue _ inv' t running pool hrunning hpool =>
      rw [hpool, List.mem_append, List.mem_singleton] at hmem
      rcases hmem with hmem | rfl
      · exact .inl (.inr hmem)
      · exact .inl (.inl ⟨t, mem_head hrunning⟩)
    | workerTake _ hpool =>
      have hmem : inv ∈ poolTasks s.taskPool_ := hpool ▸ List.mem_cons_of_mem _ hmem
      exact .inl (.inr hmem)
    | pool _ hpool => exact .inl (.inr (hpool ▸ hmem))
    | _ => exact .inl (.inr hmem)

/-- An invocation whose handler was called was waiting for that or was there before. -/
theorem Transition.started (ht : Transition cfg proper network (s, phase) (s', phase'))
    (h : s'.Started inv) : s.Started inv ∨ s.Waiting inv ∧
      .invoked inv.frame inv.conn inv.request (.async inv.handler) ∈ s'.trace := by
  rcases h with ⟨t, hmem⟩ | hmem
  · cases ht with
    | startHandler hrunning hrunning' =>
      rcases mem_of_set hrunning hrunning' hmem with heq | hmem
      · obtain ⟨-, heq⟩ := Prod.mk.inj heq
        obtain rfl := Activity.handler.inj heq
        exact .inr ⟨.inl ⟨_, mem_head hrunning⟩, List.mem_cons_self⟩
      · exact .inl (.inl ⟨t, hmem⟩)
    | refuse _ _ _ hrunning hrunning' | handlerThrows _ hrunning hrunning' =>
      rcases mem_of_set hrunning hrunning' hmem with heq | hmem
      · cases heq
      · exact .inl (.inl ⟨t, hmem⟩)
    | @workerTake _ inv' w pool hpool =>
      rcases List.mem_cons.mp hmem with heq | hmem
      · obtain ⟨-, heq⟩ := Prod.mk.inj heq
        obtain rfl := Activity.handler.inj heq
        have hmem : inv ∈ poolTasks s.taskPool_ := hpool ▸ List.mem_cons_self
        exact .inr ⟨.inr hmem, List.mem_cons_self⟩
      · exact .inl (.inl ⟨t, hmem⟩)
    | register | userReply =>
      rcases List.mem_cons.mp hmem with heq | hmem
      · cases heq
      · exact .inl (.inl ⟨t, hmem⟩)
    | enqueue hrunning | refuseReplied hrunning | leave hrunning | queueReply hrunning =>
      exact .inl (.inl ⟨t, mem_of_taken hrunning hmem⟩)
    | _ => exact .inl (.inl ⟨t, hmem⟩)
  · cases ht with
    | startHandler hrunning =>
      rcases List.mem_cons.mp hmem with rfl | hmem
      · exact .inr ⟨.inl ⟨_, mem_head hrunning⟩, List.mem_cons_self⟩
      · exact .inl (.inr hmem)
    | workerTake _ hpool =>
      rcases List.mem_cons.mp hmem with rfl | hmem
      · have hmem : inv ∈ poolTasks s.taskPool_ := hpool ▸ List.mem_cons_self
        exact .inr ⟨.inr hmem, List.mem_cons_self⟩
      · exact .inl (.inr hmem)
    | _ => exact .inl (.inr hmem)

/-- A reply object that was called sets its flag; what it was called with is on record, and the
handler was called, unless the worker pool refused the task. -/
theorem Transition.replying (ht : Transition cfg proper network (s, phase) (s', phase'))
    (h : s'.Replying inv r) : s.Replying inv r ∨
      inv.frame ∉ s.repliedFlags ∧ .finished inv.frame (some r) ∈ s'.trace ∧
      s'.cancellationRegistry_ = s.cancellationRegistry_ ∧
      (s.Started inv ∨ s.Waiting inv ∧ r.result = kUnsuccess) := by
  obtain ⟨t, hmem⟩ := h
  cases ht with
  | refuse r' hr hflag hrunning hrunning' =>
    rcases mem_of_set hrunning hrunning' hmem with heq | hmem
    · obtain ⟨-, heq⟩ := Prod.mk.inj heq
      obtain ⟨rfl, rfl⟩ := Activity.reply.inj heq
      exact .inr ⟨hflag, List.mem_cons_self, rfl, .inr ⟨.inl ⟨_, mem_head hrunning⟩, hr⟩⟩
    · exact .inl ⟨t, hmem⟩
  | handlerThrows hflag hrunning hrunning' =>
    rcases mem_of_set hrunning hrunning' hmem with heq | hmem
    · obtain ⟨-, heq⟩ := Prod.mk.inj heq
      obtain ⟨rfl, rfl⟩ := Activity.reply.inj heq
      exact .inr ⟨hflag, List.mem_cons_self, rfl, .inl (.inl ⟨_, mem_head hrunning⟩)⟩
    · exact .inl ⟨t, hmem⟩
  | userReply r' hinv hflag =>
    rcases List.mem_cons.mp hmem with heq | hmem
    · obtain ⟨-, heq⟩ := Prod.mk.inj heq
      obtain ⟨rfl, rfl⟩ := Activity.reply.inj heq
      exact .inr ⟨hflag, List.mem_cons_self, rfl, .inl (.inr hinv)⟩
    · exact .inl ⟨t, hmem⟩
  | startHandler hrunning hrunning' =>
    rcases mem_of_set hrunning hrunning' hmem with heq | hmem
    · cases heq
    · exact .inl ⟨t, hmem⟩
  | register | workerTake =>
    rcases List.mem_cons.mp hmem with heq | hmem
    · cases heq
    · exact .inl ⟨t, hmem⟩
  | enqueue hrunning | refuseReplied hrunning | leave hrunning | queueReply hrunning =>
    exact .inl ⟨t, mem_of_taken hrunning hmem⟩
  | _ => exact .inl ⟨t, hmem⟩

/-- A queued reply was about to be queued or was there before. -/
theorem Transition.queued (ht : Transition cfg proper network (s, phase) (s', phase'))
    (h : s'.Queued inv r) : s.Queued inv r ∨
      ∃ r', s.Replying inv r' ∧ r = replyResult r' ∧
        s'.cancellationRegistry_ = s.cancellationRegistry_ := by
  obtain ⟨l, hmem⟩ := h
  cases ht with
  | queueReply hrunning =>
    rcases List.mem_append.mp hmem with hmem | hmem
    · exact .inl ⟨l, hmem⟩
    · obtain ⟨-, heq⟩ := Prod.mk.inj (List.mem_singleton.mp hmem)
      obtain ⟨rfl, rfl⟩ := LoopTask.reply.inj heq
      exact .inr ⟨_, ⟨_, mem_head hrunning⟩, rfl, rfl⟩
  | pushStopped =>
    rcases List.mem_append.mp hmem with hmem | hmem
    · exact .inl ⟨l, hmem⟩
    · cases List.mem_singleton.mp hmem
  | takeNone htasks | takeCanceled htasks | take htasks | popStopped htasks =>
    exact .inl ⟨l, mem_of_taken htasks hmem⟩
  | _ => exact .inl ⟨l, hmem⟩

end MiniRpc.RpcServer
