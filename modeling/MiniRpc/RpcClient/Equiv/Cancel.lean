import MiniRpc.RpcClient.Equiv.Ledger
import MiniRpc.RpcClient.Equiv.Queue

/-!
# Cancels and the queue of the loop

A cancel from another thread is queued behind the task of its call, so it takes effect when it is
run (`Doomed`).  A cancel from the loop thread is executed at once: it takes effect unless the task
of the call is still queued (`Overtakes`), in which case the request is made afterwards as if it
had not been cancelled.
-/

namespace MiniRpc.RpcClient

variable {cfg : Config} {proper network : Prop} {s s' : State} {id : UInt64}

/-! ### Requests that are gone -/

/-- The request is not pending and nothing on its way makes it so. -/
structure Gone (id : UInt64) (s : State) : Prop where
  pending : id ∉ s.pendingRequests_
  calling : ∀ a, (id, a) ∉ s.calling
  tasks : ∀ a, .callInLoop id a ∉ s.loop_.tasks

/-- No call draws the id between the two states. -/
def NotDrawn (id : UInt64) (s s' : State) : Prop :=
  ∀ n, s.nextRequestId_ ≤ n → n < s'.nextRequestId_ → UInt64.ofNat n ≠ id

theorem notDrawn_of_eq (h : s.nextRequestId_ = s'.nextRequestId_) : NotDrawn id s s' :=
  fun n hn hlt => absurd hlt (by omega)

theorem Gone.transition (h : Gone id s) (ht : Transition cfg proper network s s')
    (hdrawn : NotDrawn id s s') : Gone id s' := by
  cases ht with
  | draw =>
    refine ⟨h.pending, fun a hmem => ?_, h.tasks⟩
    rcases List.mem_cons.mp hmem with heq | hold
    · exact hdrawn s.nextRequestId_ (Nat.le_refl _) (Nat.lt_succ_self _) (Prod.mk.inj heq).1.symm
    · exact h.calling a hold
  | enqueue hcalling =>
    refine ⟨h.pending, fun a hmem => ?_, fun a hmem => ?_⟩
    · exact h.calling a (hcalling.mem_iff.mpr (.tail _ hmem))
    · rcases List.mem_append.mp hmem with hold | hnew
      · exact h.tasks a hold
      · obtain ⟨rfl, rfl⟩ := LoopTask.callInLoop.inj (List.mem_singleton.mp hnew)
        exact h.calling a (hcalling.mem_iff.mpr List.mem_cons_self)
  | dequeue htasks =>
    refine ⟨h.pending, fun a hmem => ?_, fun a hmem => h.tasks a (htasks ▸ .tail _ hmem)⟩
    rcases List.mem_cons.mp hmem with heq | hold
    · obtain ⟨rfl, rfl⟩ := Prod.mk.inj heq
      exact h.tasks a (htasks ▸ List.mem_cons_self)
    · exact h.calling a hold
  | queueCancel =>
    refine ⟨h.pending, h.calling, fun a hmem => ?_⟩
    rcases List.mem_append.mp hmem with hold | hnew
    · exact h.tasks a hold
    · cases List.mem_singleton.mp hnew
  | dequeueCancel htasks =>
    exact ⟨h.pending, h.calling, fun a hmem => h.tasks a (htasks ▸ .tail _ hmem)⟩
  | reject _ _ hcalling =>
    exact ⟨h.pending, fun a hmem => h.calling a (hcalling ▸ .tail _ hmem), h.tasks⟩
  | accept hcalling =>
    refine ⟨fun hmem => ?_, fun a hmem => h.calling a (hcalling ▸ .tail _ hmem), fun a hmem => ?_⟩
    · rcases Finmap.mem_insert.mp hmem with rfl | hold
      · exact h.calling _ (hcalling ▸ List.mem_cons_self)
      · exact h.pending hold
    · exact h.tasks a (EventLoop.tasks_runAfterIfPos .. ▸ hmem)
  | lose | respond | cancel | resendFailed =>
    exact ⟨fun hmem => h.pending (Finmap.mem_erase.mp hmem).2, h.calling,
      fun a hmem => h.tasks a (EventLoop.tasks_cancelIfSet .. ▸ hmem)⟩
  | timeOut | exhaust =>
    exact ⟨fun hmem => h.pending (Finmap.mem_erase.mp hmem).2, h.calling, h.tasks⟩
  | startWait _ hp =>
    exact ⟨fun hmem => h.pending ((mem_insert_of_lookup hp id).mp hmem), h.calling,
      fun a hmem => h.tasks a (EventLoop.tasks_cancelIfSet .. ▸ hmem)⟩
  | rearm _ _ hp =>
    exact ⟨fun hmem => h.pending ((mem_insert_of_lookup hp id).mp hmem), h.calling, h.tasks⟩
  | resend _ _ hp =>
    refine ⟨fun hmem => ?_, h.calling, fun a hmem => h.tasks a ?_⟩
    · exact h.pending ((mem_insert_of_lookup hp id).mp hmem)
    · rwa [EventLoop.tasks_runAfterIfPos, EventLoop.tasks_cancelIfSet] at hmem
  | _ => exact ⟨h.pending, h.calling, h.tasks⟩

theorem next_le_of_steps (h : Steps cfg proper network s s') :
    s.nextRequestId_ ≤ s'.nextRequestId_ :=
  Machine.preserved_of_chain (P := fun t => s.nextRequestId_ ≤ t.nextRequestId_)
    (fun _ _ hle ht => hle.trans ht.next_le) h (Nat.le_refl _)

theorem next_le_of_step {a : Action} (h : step cfg s a = some s') :
    s.nextRequestId_ ≤ s'.nextRequestId_ :=
  have hsteps : Steps cfg False True s s' := steps_step False.elim (fun _ => trivial) h
  next_le_of_steps hsteps

theorem Gone.step {a : Action} (h : Gone id s) (hs : step cfg s a = some s')
    (hdrawn : NotDrawn id s s') : Gone id s' := by
  have hsteps : Steps cfg False True s s' := steps_step False.elim (fun _ => trivial) hs
  clear hs
  induction hsteps with
  | refl => exact h
  | tail hbefore ht ih =>
    have hle := next_le_of_steps hbefore
    refine (ih fun n hn hlt => ?_).transition ht fun n hn hlt => ?_
    · exact hdrawn n hn (hlt.trans_le ht.next_le)
    · exact hdrawn n (hle.trans hn) hlt

/-! ### Cancels in the queue -/

/-- The request is gone when the loop has run the `k` oldest tasks of its queue. -/
inductive Doomed (id : UInt64) : ℕ → State → Prop
  | gone {s : State} (h : Gone id s) : Doomed id 0 s
  | queued {s : State} {before after : List LoopTask}
      (htasks : s.loop_.tasks = before ++ .cancelInLoop id :: after)
      (hafter : ∀ a, .callInLoop id a ∉ after) (hcalling : ∀ a, (id, a) ∉ s.calling) :
      Doomed id (before.length + 1) s

/-- After `cancelInLoop` the request is not pending. -/
theorem not_mem_cancelInLoop (s : State) (id : UInt64) :
    id ∉ (cancelInLoop s id).pendingRequests_ := by
  unfold cancelInLoop
  split
  · rename_i hp
    exact Finmap.lookup_eq_none.mp hp
  · rename_i p hp
    have hsend : ∀ t : State, (sendCancel t id).pendingRequests_ = t.pendingRequests_ := by
      intro t
      unfold sendCancel
      split
      · rfl
      · dsimp only
        split_ifs <;> rfl
    show id ∉ (sendCancel _ id).pendingRequests_
    rw [hsend]
    exact Finmap.notMem_erase_self

/-- The first task of the queue is run. -/
theorem Doomed.runTask {k : ℕ} {task : LoopTask} {tasks : List LoopTask} (h : Doomed id (k + 1) s)
    (htasks : s.loop_.tasks = task :: tasks) :
    Doomed id k (runTask cfg { s with loop_ := s.loop_.setTasks tasks } task) := by
  have hsame := sameQueue_runTask cfg { s with loop_ := s.loop_.setTasks tasks } task
  obtain ⟨hcalling', htasks'⟩ := hsame
  cases h with
  | @queued _ before after hqueue hafter hcalling =>
    rw [htasks] at hqueue
    cases before with
    | nil =>
      -- the cancel itself is run
      obtain ⟨rfl, rfl⟩ := List.cons.inj hqueue
      refine .gone ⟨not_mem_cancelInLoop _ id, fun a => ?_, fun a => ?_⟩
      · rw [hcalling']
        exact hcalling a
      · rw [htasks']
        exact hafter a
    | cons other before =>
      obtain ⟨rfl, hrest⟩ := List.cons.inj hqueue
      refine .queued (htasks'.trans hrest) hafter fun a => ?_
      rw [hcalling']
      exact hcalling a

/-- How many queued tasks an action runs. -/
def Action.runs (a : Action) : ℕ := if a = .runTask then 1 else 0

/-- A step brings the request nearer to its end by the task it runs. -/
theorem Doomed.step {k : ℕ} {a : Action} (h : Doomed id k s) (hs : step cfg s a = some s')
    (hdrawn : NotDrawn id s s') : Doomed id (k - a.runs) s' := by
  cases h with
  | gone hgone =>
    rw [Nat.zero_sub]
    exact .gone (hgone.step hs hdrawn)
  | @queued _ before after htasks hafter hcalling =>
    have hold : Doomed id (before.length + 1) s := .queued htasks hafter hcalling
    cases queueStep_of_step hs with
    | same ha hsame =>
      rw [Action.runs, if_neg ha]
      exact .queued (hsame.tasks.trans htasks) hafter fun a => hsame.calling ▸ hcalling a
    | drawId hnext hcalling' htasks' =>
      refine .queued (htasks'.trans htasks) hafter fun a hmem => ?_
      rw [hcalling'] at hmem
      rcases List.mem_cons.mp hmem with heq | hmem
      · exact hdrawn s.nextRequestId_ (Nat.le_refl _) (by omega) (Prod.mk.inj heq).1.symm
      · exact hcalling a hmem
    | @queueCall k call hcall hcalling' htasks' =>
      rw [htasks, List.append_assoc, List.cons_append] at htasks'
      refine .queued htasks' (fun a hmem => ?_) fun a hmem => ?_
      · rcases List.mem_append.mp hmem with hmem | hmem
        · exact hafter a hmem
        · obtain ⟨rfl, rfl⟩ := LoopTask.callInLoop.inj (List.mem_singleton.mp hmem)
          exact hcalling call.2 hcall
      · rw [hcalling'] at hmem
        exact hcalling a (List.mem_of_mem_eraseIdx hmem)
    | queueCancel hcalling' htasks' =>
      rw [htasks, List.append_assoc, List.cons_append] at htasks'
      refine .queued htasks' (fun a hmem => ?_) fun a => hcalling' ▸ hcalling a
      rcases List.mem_append.mp hmem with hmem | hmem
      · exact hafter a hmem
      · cases List.mem_singleton.mp hmem
    | runTask hfirst hrun =>
      rw [hrun]
      exact hold.runTask hfirst

theorem next_le_of_run {as : List Action} (h : (machine cfg).Run s as s') :
    s.nextRequestId_ ≤ s'.nextRequestId_ := by
  induction h with
  | nil => exact Nat.le_refl _
  | cons hstep _ ih => exact (next_le_of_step hstep).trans ih

/-- **A doomed request is gone once the queue has run its oldest tasks.** -/
theorem Doomed.run {k : ℕ} {as : List Action} (hrun : (machine cfg).Run s as s')
    (hdrawn : NotDrawn id s s') (h : Doomed id k s) : Doomed id (k - as.count .runTask) s' := by
  induction hrun generalizing k with
  | nil => exact h
  | @cons s t s' a as hstep hrest ih =>
    have hnear := h.step hstep fun n hn hlt => hdrawn n hn (hlt.trans_le (next_le_of_run hrest))
    have hdoomed := ih (fun n hn hlt => hdrawn n ((next_le_of_step hstep).trans hn) hlt) hnear
    have hcount : k - (a :: as).count .runTask = k - a.runs - as.count .runTask := by
      rw [List.count_cons, Action.runs, Nat.sub_sub, Nat.add_comm]
      simp only [beq_iff_eq]
    rw [hcount]
    exact hdoomed

/-- A doomed request is gone when enough tasks have been run. -/
theorem Doomed.not_mem {k n : ℕ} (h : Doomed id (k - n) s) (hle : k ≤ n) :
    id ∉ s.pendingRequests_ := by
  rw [Nat.sub_eq_zero_of_le hle] at h
  cases h with
  | gone hgone => exact hgone.pending

/-! ### Cancels take effect -/

/-- The id was drawn and the call that drew it has returned it. -/
def Returned (s : State) (id : UInt64) : Prop :=
  (∃ a, (id, a) ∈ s.calls) ∧ ∀ a, (id, a) ∉ s.calling

/-- The request an action cancels. -/
def Action.canceled? : Action → Option UInt64
  | .cancel id => some id
  | .queueCancel id => some id
  | _ => none

/-- The loop thread cancels a request whose call is still queued. -/
def Overtakes (s : State) : Action → Prop
  | .cancel id => ∃ a, .callInLoop id a ∈ s.loop_.tasks
  | _ => False

/-- Cancelling an id that was returned takes effect, where the cancel satisfies `C`: whatever
happens afterwards, as soon as the tasks queued by then have been run, the request is not pending,
unless a later call draws the same id again. -/
def CancelsTakeEffect (cfg : Config) (C : State → Action → Prop) : Prop :=
  ∀ (s s₁ s₂ : State) (id : UInt64) (a : Action) (as : List Action),
    (machine cfg).Reachable s → Returned s id → a.canceled? = some id → C s a →
    step cfg s a = some s₁ → (machine cfg).Run s₁ as s₂ → NotDrawn id s₁ s₂ →
    s₁.loop_.tasks.length ≤ as.count .runTask → id ∉ s₂.pendingRequests_

/-- Another thread makes a call and hands its id to the loop thread, which is about to cancel it. -/
def overtaking : List Action := [.connectionUp, .leaveUser, .resume [], .resume [],
  .drawId ⟨text "s", text "m", text "p", ⟨7⟩, 0, false, 0, none⟩, .queueCall 0, .enterUser]

theorem returned_overtaking : Returned ((machine .default).after overtaking) 1 := by
  have hcalls : ∃ a, ((1 : UInt64), a) ∈ ((machine .default).after overtaking).calls :=
    ⟨⟨text "s", text "m", text "p", ⟨7⟩, 0, false, 0, none⟩, by decide⟩
  have hcalling : ((machine .default).after overtaking).calling = [] := by decide
  refine ⟨hcalls, fun a hmem => ?_⟩
  rw [hcalling] at hmem
  cases hmem

/-- **Cancels take effect** whenever they are made by another thread or the call is not queued any
more. -/
theorem cancelsTakeEffect (cfg : Config) :
    CancelsTakeEffect cfg fun s a => ¬ Overtakes s a := by
  intro s s₁ s₂ id a as _ hreturned hcancel hovertakes hstep hrun hdrawn hcount
  cases a with
  | cancel id' =>
    obtain rfl := Option.some.inj hcancel
    have hgone : Gone id' s₁ := by
      have hs₁ : s₁ = cancelInLoop s id' := by
        cases stepped_of_step hstep
        rfl
      have hsame := sameQueue_cancelInLoop s id'
      rw [hs₁]
      refine ⟨not_mem_cancelInLoop s id', fun a => ?_, fun a hmem => hovertakes ⟨a, ?_⟩⟩
      · rw [hsame.calling]
        exact hreturned.2 a
      · rwa [hsame.tasks] at hmem
    exact ((Doomed.gone hgone).run hrun hdrawn).not_mem (Nat.zero_le _)
  | queueCancel id' =>
    obtain rfl := Option.some.inj hcancel
    obtain rfl := Option.some.inj hstep
    have hqueued : Doomed id' (s.loop_.tasks.length + 1)
        { s with loop_ := s.loop_.queueInLoop (.cancelInLoop id') } :=
      @Doomed.queued _ _ s.loop_.tasks [] rfl (fun _ => List.not_mem_nil) hreturned.2
    refine (hqueued.run hrun hdrawn).not_mem ?_
    rwa [EventLoop.queueInLoop, List.length_append] at hcount
  | _ => cases hcancel

/-- From another thread the cancel is queued behind the call: the request is made, and is gone once
both tasks have been run. -/
theorem cancelsTakeEffect_queued :
    1 ∈ ((machine .default).after
      (overtaking ++ [.queueCancel 1] ++ [.leaveUser, .runTask])).pendingRequests_ ∧
    1 ∉ ((machine .default).after
      (overtaking ++ [.queueCancel 1] ++ [.leaveUser, .runTask, .runTask])).pendingRequests_ := by
  let M := machine .default
  refine ⟨by decide, ?_⟩
  have hrun : M.Run (M.after (overtaking ++ [.queueCancel 1])) [.leaveUser, .runTask, .runTask]
      (M.after (overtaking ++ [.queueCancel 1] ++ [.leaveUser, .runTask, .runTask])) :=
    Machine.run_afterBy (by decide)
  have hcancel : M.Run (M.after overtaking) [.queueCancel 1]
      (M.after (overtaking ++ [.queueCancel 1])) := Machine.run_afterBy (by decide)
  cases hcancel with
  | cons hstep hnil =>
    cases hnil
    exact cancelsTakeEffect .default _ _ _ 1 (.queueCancel 1) _ (Machine.reachable_after overtaking)
      returned_overtaking rfl not_false hstep hrun (notDrawn_of_eq (by decide)) (by decide)

/-- A cancel that overtakes its call does nothing at all. -/
theorem step_cancel_of_overtakes (h : (machine cfg).Reachable s)
    (hcalls : s.nextRequestId_ ≤ 2 ^ 64) {rest : List Frame} (hstack : s.stack = .userCode :: rest)
    (hovertakes : Overtakes s (.cancel id)) : step cfg s (.cancel id) = some s := by
  obtain ⟨a, ha⟩ := hovertakes
  have hle := (ledger_of_reachable h hcalls).le_one id
  have hqueued : 0 < s.queuedCalls id :=
    List.countP_pos_iff.mpr ⟨_, ha, beq_self_eq_true id⟩
  have hnot : id ∉ s.pendingRequests_ := by
    intro hmem
    simp only [State.copies, if_pos hmem] at hle
    omega
  have hcancel : cancelInLoop s id = s := by
    unfold cancelInLoop
    rw [Finmap.lookup_eq_none.mpr hnot]
  have hstep : step cfg s (.cancel id) = some (cancelInLoop s id) := by
    unfold step
    dsimp only
    rw [hstack]
    rfl
  rw [hstep, hcancel]

/-- **A cancel can be lost**: the request is sent after it and stays pending. -/
theorem not_cancelsTakeEffect : ¬ CancelsTakeEffect .default fun _ _ => True := by
  intro h
  let M := machine .default
  have hrun : M.Run (M.after (overtaking ++ [.cancel 1])) [.leaveUser, .runTask]
      (M.after (overtaking ++ [.cancel 1] ++ [.leaveUser, .runTask])) :=
    Machine.run_afterBy (by decide)
  have hcancel : M.Run (M.after overtaking) [.cancel 1] (M.after (overtaking ++ [.cancel 1])) :=
    Machine.run_afterBy (by decide)
  cases hcancel with
  | cons hstep hnil =>
    cases hnil
    exact h _ _ _ 1 (.cancel 1) _ (Machine.reachable_after overtaking) returned_overtaking rfl
      trivial hstep hrun (notDrawn_of_eq (by decide)) (by decide) (by decide)

end MiniRpc.RpcClient
