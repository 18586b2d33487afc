import MiniRpc.RpcServer.Equiv.Once
import MiniRpc.RpcServer.Equiv.Served

/-!
# The replies of cancelled requests

A queued reply takes the token of its connection and its id.  `Replies` says whose token that is, in
the runs in which no reply of a cancelled invocation finds one: the token of the invocation, which
was not cancelled.  Without that condition a reply of a cancelled invocation takes the token of a
later request with the same id and answers it.
-/

namespace MiniRpc.RpcServer

variable {cfg : Config} {proper network : Prop} {s s' : State} {phase phase' : Phase}
  {inv : Invocation} {r : RpcResult} {trace : List Event}

/-! ### Pending replies -/

/-- An operation that is about to queue a reply for a frame. -/
def repliesFor (n : FrameId) : Thread × Activity → Bool
  | (_, .reply inv _) => inv.frame = n
  | _ => false

/-- A queued reply for a frame. -/
def queuedFor (n : FrameId) : LoopId × LoopTask → Bool
  | (_, .reply inv _) => inv.frame = n
  | _ => false

/-- The number of replies for a frame that are not processed. -/
def pending (running : List (Thread × Activity)) (tasks : Channel LoopId LoopTask) (n : FrameId) :
    ℕ :=
  running.countP (repliesFor n) + tasks.countP (queuedFor n)

theorem pending_pos_of_replying (h : s.Replying inv r) :
    0 < pending s.running s.tasks inv.frame := by
  obtain ⟨t, hmem⟩ := h
  exact Nat.add_pos_left (List.countP_pos_iff.mpr ⟨_, hmem, decide_eq_true rfl⟩) _

theorem pending_pos_of_queued (h : s.Queued inv r) : 0 < pending s.running s.tasks inv.frame := by
  obtain ⟨l, hmem⟩ := h
  exact Nat.add_pos_right _ (List.countP_pos_iff.mpr ⟨_, hmem, decide_eq_true rfl⟩)

theorem Transition.flags_subset (ht : Transition cfg proper network (s, phase) (s', phase')) :
    s.repliedFlags ⊆ s'.repliedFlags := by
  cases ht with
  | refuse | handlerThrows | userReply => exact Finset.subset_insert _ _
  | _ => exact Finset.Subset.refl _

/-- A list one element of which is taken out. -/
theorem countP_taken {α : Type} {p : α → Bool} {xs rest : List α} {x : α}
    (h : xs.Perm (x :: rest)) : xs.countP p = rest.countP p + if p x = true then 1 else 0 := by
  rw [h.countP_eq, List.countP_cons]

theorem countP_rest_le {α : Type} {p : α → Bool} {xs rest : List α} {x : α}
    (h : xs.Perm (x :: rest)) : rest.countP p ≤ xs.countP p :=
  (countP_taken h).symm ▸ Nat.le_add_right _ _

/-- The reply object of an invocation is called. -/
theorem pending_call {running running' rest : List (Thread × Activity)} {t : Thread}
    (tasks : Channel LoopId LoopTask) {n : FrameId}
    (hrest : rest.countP (repliesFor n) ≤ running.countP (repliesFor n))
    (hrunning' : running'.Perm ((t, .reply inv r) :: rest)) {flags : Finset FrameId}
    (hflag : inv.frame ∉ flags) : pending running' tasks n ≤ pending running tasks n ∨
      n ∉ flags ∧ n ∈ insert inv.frame flags ∧
        pending running' tasks n ≤ pending running tasks n + 1 := by
  have hafter := countP_taken (p := repliesFor n) hrunning'
  unfold pending
  by_cases hn : inv.frame = n
  · subst hn
    refine .inr ⟨hflag, Finset.mem_insert_self _ _, ?_⟩
    split_ifs at hafter <;> omega
  · have hne : ¬ repliesFor n (t, .reply inv r) = true := fun heq => hn (of_decide_eq_true heq)
    rw [if_neg hne] at hafter
    exact .inl (by omega)

/-- A reply for a frame becomes pending when its flag is set, and at no other time. -/
theorem Transition.pending (ht : Transition cfg proper network (s, phase) (s', phase'))
    (n : FrameId) :
    pending s'.running s'.tasks n ≤ pending s.running s.tasks n ∨
      n ∉ s.repliedFlags ∧ n ∈ s'.repliedFlags ∧
        pending s'.running s'.tasks n ≤ pending s.running s.tasks n + 1 := by
  cases ht with
  | refuse _ _ hflag hrunning hrunning' | handlerThrows hflag hrunning hrunning' =>
    exact pending_call s.tasks (countP_rest_le hrunning) hrunning' hflag
  | userReply _ _ hflag => exact pending_call s.tasks le_rfl (.refl _) hflag
  | startHandler hrunning hrunning' =>
    have hafter := countP_taken (p := repliesFor n) hrunning'
    exact .inl (Nat.add_le_add_right (hafter.le.trans (countP_rest_le hrunning)) _)
  | enqueue hrunning | refuseReplied hrunning | leave hrunning =>
    exact .inl (Nat.add_le_add_right (countP_rest_le hrunning) _)
  | @queueReply _ inv r t running hrunning =>
    have hbefore := countP_taken (p := repliesFor n) hrunning
    refine .inl ?_
    show running.countP (repliesFor n) +
      (s.tasks ++ [(_, LoopTask.reply inv (replyResult r))]).countP (queuedFor n) ≤
        s.running.countP (repliesFor n) + s.tasks.countP (queuedFor n)
    rw [hbefore, List.countP_append, List.countP_singleton]
    show _ + (_ + if repliesFor n (t, .reply inv r) = true then 1 else 0) ≤ _
    omega
  | @pushStopped =>
    have hafter : (s.tasks ++ [(0, LoopTask.onTaskPoolStopped)]).countP (queuedFor n) =
        s.tasks.countP (queuedFor n) := by
      rw [List.countP_append]
      rfl
    exact .inl (Nat.add_le_add_left hafter.le _)
  | takeNone htasks | takeCanceled htasks | take htasks | popStopped htasks =>
    exact .inl (Nat.add_le_add_left (countP_rest_le htasks) _)
  | _ => exact .inl le_rfl

/-! ### Whose token -/

/-- The token of the invocation is registered under its id, or was cancelled. -/
def Invocation.Own (registry : CancellationRegistry) (inv : Invocation) : Prop :=
  registry.find? inv.conn inv.request.requestId_ = some inv.frame ∨
    inv.frame ∈ registry.canceled_

/-- A queued reply of `inv₀` takes a token. -/
structure Takes (proper : Prop) (s s' : State) (inv₀ : Invocation) (r : RpcResult)
    (token : TokenId) : Prop where
  queued : s.Queued inv₀ r
  found : s.cancellationRegistry_.find? inv₀.conn inv₀.request.requestId_ = some token
  live : token ∉ s.cancellationRegistry_.canceled_
  proper : proper → inv₀.frame ∉ s.cancellationRegistry_.canceled_
  pending : pending s.running s.tasks inv₀.frame = pending s'.running s'.tasks inv₀.frame + 1

theorem Transition.takes {tasks : Channel LoopId LoopTask} {registry : CancellationRegistry}
    {l : LoopId} {token : TokenId} (htasks : s.tasks.Perm ((l, .reply inv r) :: tasks))
    (hfound : s.cancellationRegistry_.find? inv.conn inv.request.requestId_ = some token)
    (htoken : token ∉ s.cancellationRegistry_.canceled_)
    (hproper : proper → inv.frame ∉ s.cancellationRegistry_.canceled_) :
    Takes proper s { s with tasks := tasks, cancellationRegistry_ := registry } inv r token where
  queued := ⟨l, mem_head htasks⟩
  found := hfound
  live := htoken
  proper := hproper
  pending := by
    have hbefore := countP_taken (p := queuedFor inv.frame) htasks
    have hself : queuedFor inv.frame (l, .reply inv r) = true := decide_eq_true rfl
    rw [if_pos hself] at hbefore
    simp only [RpcServer.pending]
    omega

/-- The token of an invocation stays where it is, or it is cancelled, or a queued reply takes it. -/
theorem Transition.own (ht : Transition cfg proper network (s, phase) (s', phase'))
    (htokens : Tokens s.cancellationRegistry_ s.nextFrame phase)
    (h : inv.Own s.cancellationRegistry_) : inv.Own s'.cancellationRegistry_ ∨
      ∃ inv₀ r, Takes proper s s' inv₀ r inv.frame := by
  unfold Invocation.Own at h ⊢
  cases ht with
  | @register _ frame conn request handler registry _ hnone hcanceled hfind =>
    refine .inl ?_
    rw [hcanceled]
    refine h.imp_left fun hfound => ?_
    rw [hfind, if_neg fun hmatch => ?_, hfound]
    rw [hmatch.1, hmatch.2, hnone] at hfound
    cases hfound
  | @cancel _ conn requestId token registry hfound' hcanceled hfind =>
    refine .inl ?_
    rw [hcanceled, hfind, Finset.mem_insert]
    split_ifs with hmatch
    · rcases h with hfound | hmem
      · rw [hmatch.1, hmatch.2, hfound'] at hfound
        exact .inr (.inl (Option.some.inj hfound).symm)
      · exact .inr (.inr hmem)
    · exact h.imp_right .inr
  | takeCanceled _ hfound _ _ htoken => exact absurd htoken (htokens.live _ _ _ hfound)
  | @take _ inv₀ r l token tasks registry htasks hfound' hcanceled hfind htoken hproper =>
    rcases h with hfound | hmem
    · by_cases hmatch : inv.conn = inv₀.conn ∧ inv.request.requestId_ = inv₀.request.requestId_
      · rw [hmatch.1, hmatch.2, hfound'] at hfound
        obtain rfl := Option.some.inj hfound
        exact .inr ⟨inv₀, r, Transition.takes htasks hfound' htoken hproper⟩
      · exact .inl (.inl (by rw [hfind, if_neg hmatch, hfound]))
    · exact .inl (.inr (hcanceled ▸ hmem))
  | @down _ conn =>
    refine .inl ?_
    rw [CancellationRegistry.find?_clear, CancellationRegistry.mem_canceled_clear]
    split_ifs with hconn
    · rcases h with hfound | hmem
      · exact .inr (.inr ⟨_, hconn ▸ hfound⟩)
      · exact .inr (.inl hmem)
    · exact h.imp_right .inl
  | _ => exact .inl h

/-! ### The law -/

/-- At most one reply is pending for each frame, none before its flag is set, and while one is or
may come the token of the invocation is registered or cancelled. -/
structure Replies (s : State) : Prop where
  flagged : ∀ n ∉ s.repliedFlags, pending s.running s.tasks n = 0
  once : ∀ n, pending s.running s.tasks n ≤ 1
  held : ∀ inv : Invocation, s.Waiting inv ∨ s.Started inv → inv.frame ∉ s.repliedFlags →
    inv.Own s.cancellationRegistry_
  replying : ∀ (inv : Invocation) r, s.Replying inv r → inv.Own s.cancellationRegistry_
  queued : ∀ (inv : Invocation) r, s.Queued inv r → inv.Own s.cancellationRegistry_

theorem replies_init : Replies (.init cfg) where
  flagged _ _ := rfl
  once _ := Nat.zero_le 1
  held inv h := by
    rcases h with h | ⟨t, hmem⟩ | hmem
    · exact absurd h not_waiting_init
    · cases hmem
    · cases hmem
  replying _ _ h := by
    obtain ⟨t, hmem⟩ := h
    cases hmem
  queued _ _ h := by
    obtain ⟨l, hmem⟩ := h
    cases hmem

/-- A queued reply of an invocation that was not cancelled takes the token of the invocation. -/
theorem Replies.frame_eq {inv₀ : Invocation} {token : TokenId} (h : Replies s)
    (htakes : Takes True s s' inv₀ r token) : inv₀.frame = token := by
  have hfound := (h.queued inv₀ r htakes.queued).resolve_right (htakes.proper trivial)
  exact Option.some.inj (hfound.symm.trans htakes.found)

/-- After that no reply is pending for its frame. -/
theorem Replies.pending_eq_zero {inv₀ : Invocation} {token : TokenId} (h : Replies s)
    (htakes : Takes True s s' inv₀ r token) : pending s'.running s'.tasks token = 0 := by
  have heq := h.frame_eq htakes
  have honce := h.once inv₀.frame
  have hpending := htakes.pending
  rw [← heq]
  omega

theorem Replies.step (h : Replies s) (htokens : Tokens s.cancellationRegistry_ s.nextFrame phase)
    (ht : Transition cfg True network (s, phase) (s', phase')) : Replies s' := by
  have hflags := ht.flags_subset
  -- The token of an invocation with a pending reply was not taken.
  have hown : ∀ inv : Invocation, 0 < pending s'.running s'.tasks inv.frame →
      inv.Own s.cancellationRegistry_ → inv.Own s'.cancellationRegistry_ := by
    intro inv hpending hinv
    rcases ht.own htokens hinv with hinv | ⟨inv₀, r, htakes⟩
    · exact hinv
    · exact absurd (h.pending_eq_zero htakes) hpending.ne'
  -- Nor was that of an invocation whose reply object was not called.
  have hheld : ∀ inv : Invocation, s.Waiting inv ∨ s.Started inv → inv.frame ∉ s'.repliedFlags →
      inv.Own s'.cancellationRegistry_ := by
    intro inv hinv hflag
    have hflag : inv.frame ∉ s.repliedFlags := fun hmem => hflag (hflags hmem)
    rcases ht.own htokens (h.held inv hinv hflag) with hinv | ⟨inv₀, r, htakes⟩
    · exact hinv
    · have hpending := htakes.pending
      rw [h.frame_eq htakes, h.flagged _ hflag] at hpending
      omega
  refine ⟨fun n hn => ?_, fun n => ?_, fun inv hinv hflag => ?_, fun inv r hinv => ?_,
    fun inv r hinv => ?_⟩
  · have hold := h.flagged n fun hmem => hn (hflags hmem)
    rcases ht.pending n with hle | ⟨-, hmem, -⟩
    · omega
    · exact absurd hmem hn
  · rcases ht.pending n with hle | ⟨hmem, -, hle⟩
    · exact hle.trans (h.once n)
    · rw [h.flagged n hmem] at hle
      exact hle
  · rcases hinv with hinv | hinv
    · rcases ht.waiting hinv with hold | ⟨-, -, hfound⟩
      · exact hheld inv (.inl hold) hflag
      · exact .inl hfound
    · rcases ht.started hinv with hold | ⟨hold, -⟩
      · exact hheld inv (.inr hold) hflag
      · exact hheld inv (.inl hold) hflag
  · rcases ht.replying hinv with hold | ⟨hflag, -, hregistry, hold⟩
    · exact hown inv (pending_pos_of_replying hinv) (h.replying inv r hold)
    · rw [hregistry]
      exact h.held inv (hold.symm.imp_left And.left) hflag
  · rcases ht.queued hinv with hold | ⟨r', hold, -, hregistry⟩
    · exact hown inv (pending_pos_of_queued hinv) (h.queued inv r hold)
    · rw [hregistry]
      exact h.replying inv r' hold

/-! ### Responses to cancelled requests -/

/-- No response comes from the reply object of an invocation that was cancelled before. -/
def SilentAfterCancel : List Event → Prop :=
  List.Pairwise fun later earlier => ∀ c id n, earlier = .cancelReceived c id (some n) →
    ∀ id' token output, later ≠ .responded c id' (.reply n token) output

/-- The reply of a cancelled invocation sends nothing, and a reply that takes the token of an
invocation sends what the reply object of that invocation was called with. -/
structure AnswersItsOwn (cfg : Config) (trace : List Event) : Prop where
  silent : SilentAfterCancel trace
  own : ∀ c id n token output, .responded c id (.reply n token) output ∈ trace →
    ∃ result, .finished token (some result) ∈ trace ∧
      output = (limitedResponse cfg.effectiveMaxMessageSize id
        (replyResult result)).fields.flatten

/-- What carries `AnswersItsOwn` over a step: a reply that is being answered took the token of its
own invocation, which was not cancelled. -/
structure Answered (cfg : Config) (s : State) (phase : Phase) : Prop where
  canceled : ∀ c id n, .cancelReceived c id (some n) ∈ s.trace →
    n ∈ s.cancellationRegistry_.canceled_
  answering : ∀ c id n token r, phase = .answering c id (.reply n token) r →
    n = token ∧ n ∉ s.cancellationRegistry_.canceled_ ∧
      ∃ result, .finished n (some result) ∈ s.trace ∧ r = replyResult result
  answers : AnswersItsOwn cfg s.trace

theorem Transition.canceled_subset (ht : Transition cfg proper network (s, phase) (s', phase')) :
    s.cancellationRegistry_.canceled_ ⊆ s'.cancellationRegistry_.canceled_ := by
  cases ht with
  | register _ _ hcanceled | takeCanceled _ _ hcanceled | take _ _ hcanceled =>
    exact hcanceled.symm.subset
  | cancel _ hcanceled =>
    rw [hcanceled]
    exact Finset.subset_insert _ _
  | down =>
    exact fun n hn => (CancellationRegistry.mem_canceled_clear _ _ n).mpr (.inl hn)
  | _ => exact Finset.Subset.refl _

/-- The token that a `Cancel` frame found is cancelled. -/
theorem Transition.cancelReceived (ht : Transition cfg proper network (s, phase) (s', phase'))
    {c : ConnId} {id : UInt64} {n : TokenId} (h : .cancelReceived c id (some n) ∈ s'.trace) :
    .cancelReceived c id (some n) ∈ s.trace ∨ n ∈ s'.cancellationRegistry_.canceled_ := by
  cases ht with
  | cancel _ hcanceled =>
    rcases List.mem_cons.mp h with heq | h
    · obtain ⟨-, -, heq⟩ := Event.cancelReceived.inj heq
      obtain rfl := Option.some.inj heq
      rw [hcanceled]
      exact .inr (Finset.mem_insert_self _ _)
    · exact .inl h
  | invokeSync | refuse | refuseDuplicate =>
    rcases List.mem_cons.mp h with heq | h
    · cases heq
    · rcases List.mem_cons.mp h with heq | h
      · cases heq
      · exact .inl h
  | receive | refuseLimit | respond | close | cancelNone | startHandler | refuseReplied
  | workerTake | handlerThrows | userReply | forceClose | down | stopCompleted =>
    rcases List.mem_cons.mp h with heq | h
    · cases heq
    · exact .inl h
  | _ => exact .inl h

/-- A queued reply is about to be answered: it took its own token. -/
theorem Transition.answersOwn (ht : Transition cfg True network (s, phase) (s', phase'))
    (hreplies : Replies s) (hserved : Served cfg s phase) {c : ConnId} {id : UInt64}
    {n : FrameId} {token : TokenId} (hphase : phase' = .answering c id (.reply n token) r) :
    n = token ∧ n ∉ s'.cancellationRegistry_.canceled_ ∧
      ∃ result, .finished n (some result) ∈ s'.trace ∧ r = replyResult result := by
  cases ht with
  | @take _ inv r' l token' tasks registry htasks hfound hcanceled _ htoken hproper =>
    obtain ⟨-, -, horigin, rfl⟩ := Phase.answering.inj hphase
    obtain ⟨rfl, rfl⟩ := Origin.reply.inj horigin
    have htakes : Takes True s { s with tasks := tasks, cancellationRegistry_ := registry } inv r'
      token' := Transition.takes htasks hfound htoken hproper
    obtain ⟨result, hreplied, hr⟩ := hserved.queued inv _ ⟨l, mem_head htasks⟩
    exact ⟨hreplies.frame_eq htakes, fun hmem => hproper trivial (hcanceled ▸ hmem), result,
      hreplied.finished, hr⟩
  | _ => cases hphase

theorem answered_init : Answered cfg (.init cfg) .idle where
  canceled _ _ _ h := by cases h
  answering _ _ _ _ _ h := by cases h
  answers := ⟨.nil, fun _ _ _ _ _ h => by cases h⟩

theorem Answered.step (h : Answered cfg s phase) (hreplies : Replies s)
    (hserved : Served cfg s phase) (ht : Transition cfg True network (s, phase) (s', phase')) :
    Answered cfg s' phase' := by
  refine ⟨fun c id n hmem => ?_, fun _ _ _ _ _ => ht.answersOwn hreplies hserved, ?_,
    fun c id n token output hmem => ?_⟩
  · rcases ht.cancelReceived hmem with hold | hnew
    · exact ht.canceled_subset (h.canceled c id n hold)
    · exact hnew
  · rcases ht.events with ⟨es, heq, hes⟩ | ⟨conn, id, origin, r, hphase, -, heq⟩
    · -- What was recorded is no response.
      rw [heq]
      refine List.pairwise_append.mpr ⟨List.pairwise_of_forall_mem_list fun e he _ _ => ?_,
        h.answers.silent, fun e he _ _ => ?_⟩
      all_goals
        rintro _ _ _ - _ _ _ rfl
        cases hes _ he
    · -- The reply that is answered was not cancelled.
      rw [heq]
      refine List.pairwise_cons.mpr ⟨?_, h.answers.silent⟩
      rintro _ hmem c id' n rfl _ token _ hresponded
      obtain ⟨-, -, rfl, -⟩ := Event.responded.inj hresponded
      exact (h.answering _ _ _ _ _ hphase).2.1 (h.canceled c id' n hmem)
  · rcases ht.responded hmem with hold | ⟨r, hphase, -, houtput⟩
    · obtain ⟨result, hfinished, houtput⟩ := h.answers.own c id n token output hold
      exact ⟨result, ht.trace_subset hfinished, houtput⟩
    · obtain ⟨rfl, -, result, hfinished, rfl⟩ := h.answering _ _ _ _ _ hphase
      exact ⟨result, ht.trace_subset hfinished, houtput⟩

/-- **A cancelled request is not answered, and a response belongs to the request it answers**, in
the runs in which no reply of a cancelled invocation finds a token. -/
theorem answersItsOwn_of_proper (h : (machine cfg).ReachableBy Proper s) :
    AnswersItsOwn cfg s.trace := by
  have hlaw : (Books s .idle ∧ Served cfg s .idle) ∧ Replies s ∧ Answered cfg s .idle :=
    invariant_of_proper
      (P := fun x => (Books x.1 x.2 ∧ Served cfg x.1 x.2) ∧ Replies x.1 ∧ Answered cfg x.1 x.2)
      ⟨⟨books_init, served_init⟩, replies_init, answered_init⟩
      (fun _ _ hP ht => ⟨⟨hP.1.1.step ht, hP.1.2.step ht⟩, hP.2.1.step hP.1.1.tokens ht,
        hP.2.2.step hP.2.1 hP.1.2 ht⟩) h
  exact hlaw.2.2.answers

/-- A request that is cancelled while its handler holds the reply object. -/
def cancelling : List Action := [.start, .connectionUp 3,
  .deliver 3 asyncRequest.fields.flatten none, .submit 0, .handlerReturns 0,
  .deliver 3 (RpcCancel.fields ⟨5⟩).flatten none]

/-- The reply object is called. -/
def replyingLate : List Action :=
  [.reply (asyncInvocation 0) (succeed (text "a")), .queueReply 0, .runTask 0]

theorem answersItsOwn_cancelling :
    .cancelReceived 3 5 (some 0) ∈ ((machine asyncServer).afterBy Proper
      (cancelling ++ replyingLate)).trace ∧
    AnswersItsOwn asyncServer ((machine asyncServer).afterBy Proper
      (cancelling ++ replyingLate)).trace :=
  ⟨by decide +kernel, answersItsOwn_of_proper (Machine.reachableBy_afterBy _)⟩

/-- The id is used again before the reply object of the cancelled request is called: the second
request is answered with the result of the first. -/
theorem not_answersItsOwn :
    ¬ ∀ cfg s, (machine cfg).Reachable s → AnswersItsOwn cfg s.trace := by
  intro h
  let s := (machine asyncServer).after (cancelling ++ [.deliver 3 asyncRequest.fields.flatten none,
    .submit 0, .handlerReturns 0] ++ replyingLate)
  have hsilent : SilentAfterCancel s.trace := (h asyncServer s (Machine.reachable_after _)).silent
  have htrace : s.trace = .responded 3 5 (.reply 0 1)
      (resultResponse 5 (succeed (text "a"))).fields.flatten :: s.trace.tail := by decide +kernel
  have hcancel : .cancelReceived 3 5 (some 0) ∈ s.trace.tail := by decide +kernel
  rw [htrace] at hsilent
  exact (List.pairwise_cons.mp hsilent).1 _ hcancel 3 5 0 rfl 5 1 _ rfl

end MiniRpc.RpcServer
