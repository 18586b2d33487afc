import MiniRpc.RpcClient.Equiv.Taken

/-!
# Every call is completed exactly once

`copies s id` counts the places where the id of a call can be: drawn but not queued, queued,
pending, and taken for invocation.  Every id that was drawn is in exactly one place and no other id
is anywhere (`Ledger`), as long as fewer than `2 ^ 64` ids were drawn.  `Provenance` adds that what
is found there belongs to the call that drew the id.
-/

namespace MiniRpc.RpcClient

variable {cfg : Config} {proper network : Prop} {s s' : State} {id : UInt64}

/-! ### Where an id can be -/

/-- The task is the call with this id. -/
def LoopTask.isCall (id : UInt64) : LoopTask → Bool
  | .callInLoop requestId _ => requestId == id
  | .cancelInLoop _ => false

/-- The call an event starts. -/
def Event.call? : Event → Option (UInt64 × CallArgs)
  | .called requestId a => some (requestId, a)
  | _ => none

namespace State

/-- The calls that drew an id, with that id, the latest first. -/
def calls (s : State) : List (UInt64 × CallArgs) := s.trace.filterMap Event.call?

/-- How many tasks for the call with this id are queued. -/
def queuedCalls (s : State) (id : UInt64) : ℕ := s.loop_.tasks.countP (LoopTask.isCall id)

/-- How many places the id is in. -/
def copies (s : State) (id : UInt64) : ℕ :=
  s.calling.countP (fun call => call.1 == id) + s.queuedCalls id +
    (if id ∈ s.pendingRequests_ then 1 else 0) + s.taken id

/-- The id was drawn. -/
def Drawn (s : State) (id : UInt64) : Prop := 1 ≤ id.toNat ∧ id.toNat < s.nextRequestId_

instance (s : State) (id : UInt64) : Decidable (s.Drawn id) := inferInstanceAs (Decidable (_ ∧ _))

end State

/-! ### The ledger -/

/-- Every drawn id is in one place, every other id in none. -/
structure Ledger (s : State) : Prop where
  next_pos : 1 ≤ s.nextRequestId_
  le_one : ∀ id, s.copies id ≤ 1
  drawn : ∀ id, 0 < s.copies id ↔ s.Drawn id
  /-- The response to a request is ignored only after its callback was taken. -/
  ignored : ∀ id ∈ s.ignoredResponseRequests_, s.taken id = 1

theorem ledger_init : Ledger .init where
  next_pos := Nat.le_refl 1
  le_one _ := Nat.zero_le 1
  drawn id := by
    have hdrawn : ¬ State.init.Drawn id := fun ⟨h1, h2⟩ => absurd (lt_of_le_of_lt h1 h2) (by decide)
    exact ⟨fun h => absurd h (lt_irrefl 0), fun h => absurd h hdrawn⟩
  ignored _ h := absurd h Finmap.notMem_empty

theorem Ledger.drawn_of_mem (h : Ledger s) (hmem : id ∈ s.pendingRequests_) : s.Drawn id :=
  (h.drawn id).mp (by simp only [State.copies, if_pos hmem]; omega)

theorem Ledger.taken_of_mem (h : Ledger s) (hmem : id ∈ s.pendingRequests_) : s.taken id = 0 := by
  have hle := h.le_one id
  simp only [State.copies, if_pos hmem] at hle
  omega

theorem Ledger.not_mem_of_calling (h : Ledger s) {call : UInt64 × CallArgs}
    (hcall : call ∈ s.calling) : call.1 ∉ s.pendingRequests_ := fun hmem => by
  have hle := h.le_one call.1
  have hpos : 0 < s.calling.countP fun other => other.1 == call.1 :=
    List.countP_pos_iff.mpr ⟨call, hcall, beq_self_eq_true call.1⟩
  simp only [State.copies, if_pos hmem] at hle
  omega

theorem Ledger.not_mem_of_taken (h : Ledger s) (htaken : 0 < s.taken id) :
    id ∉ s.pendingRequests_ := fun hmem => by
  rw [h.taken_of_mem hmem] at htaken
  exact absurd htaken (lt_irrefl 0)

theorem Ledger.taken_le_one (h : Ledger s) (id : UInt64) : s.taken id ≤ 1 := by
  have hle := h.le_one id
  simp only [State.copies] at hle
  omega

theorem Ledger.drawn_of_taken (h : Ledger s) (htaken : 0 < s.taken id) : s.Drawn id :=
  (h.drawn id).mp (by simp only [State.copies]; omega)

/-- The two maps share no id. -/
theorem Ledger.disjoint (h : Ledger s) (hmem : id ∈ s.pendingRequests_) :
    id ∉ s.ignoredResponseRequests_ := fun hignored => by
  have htaken := h.ignored id hignored
  rw [h.taken_of_mem hmem] at htaken
  cases htaken

/-! ### What a transition does to the ledger -/

theorem countP_requestId_cons (c : Completion) (cs : List Completion) (id : UInt64) :
    (c :: cs).countP (fun c => c.requestId == id) =
      (if c.requestId = id then 1 else 0) + cs.countP fun c => c.requestId == id := by
  rw [List.countP_cons, add_comm]
  simp only [beq_iff_eq]

theorem isCall_append (tasks : List LoopTask) (task : LoopTask) (id : UInt64) :
    (tasks ++ [task]).countP (LoopTask.isCall id) =
      tasks.countP (LoopTask.isCall id) + if task.isCall id then 1 else 0 := by
  rw [List.countP_append, List.countP_singleton]

theorem Ledger.of_copies (h : Ledger s) (hnext : s'.nextRequestId_ = s.nextRequestId_)
    (hcopies : ∀ id, s'.copies id = s.copies id)
    (hignored : ∀ id ∈ s'.ignoredResponseRequests_, s'.taken id = 1) : Ledger s' where
  next_pos := hnext ▸ h.next_pos
  le_one id := hcopies id ▸ h.le_one id
  drawn id := by
    rw [hcopies, h.drawn, State.Drawn, State.Drawn, hnext]
  ignored := hignored

/-- The ids stay where they are. -/
theorem Ledger.congr (h : Ledger s) (hnext : s'.nextRequestId_ = s.nextRequestId_)
    (hcalling : s'.calling = s.calling) (hqueued : ∀ id, s'.queuedCalls id = s.queuedCalls id)
    (hpending : ∀ id, id ∈ s'.pendingRequests_ ↔ id ∈ s.pendingRequests_)
    (hignored : ∀ id ∈ s'.ignoredResponseRequests_, id ∈ s.ignoredResponseRequests_)
    (htaken : s'.takenCallbacks.Perm s.takenCallbacks) : Ledger s' := by
  have hcount : ∀ id, s'.taken id = s.taken id := fun id => htaken.countP_eq _
  refine h.of_copies hnext (fun id => ?_) fun id hid => ?_
  · simp only [State.copies, hcalling, hqueued, hpending, hcount]
  · rw [hcount]
    exact h.ignored id (hignored id hid)

/-- The callback of a pending request is taken. -/
theorem Ledger.take (h : Ledger s) {c : Completion} (hnext : s'.nextRequestId_ = s.nextRequestId_)
    (hcalling : s'.calling = s.calling) (hqueued : ∀ id, s'.queuedCalls id = s.queuedCalls id)
    (hmem : c.requestId ∈ s.pendingRequests_)
    (hpending : s'.pendingRequests_ = s.pendingRequests_.erase c.requestId)
    (hignored : ∀ id ∈ s'.ignoredResponseRequests_,
      id ∈ s.ignoredResponseRequests_ ∨ id = c.requestId)
    (htaken : s'.takenCallbacks.Perm (c :: s.takenCallbacks)) : Ledger s' := by
  have hcount : ∀ id, s'.taken id = (if c.requestId = id then 1 else 0) + s.taken id :=
    fun id => (htaken.countP_eq _).trans (countP_requestId_cons c _ id)
  refine h.of_copies hnext (fun id => ?_) fun id hid => ?_
  · simp only [State.copies, hcalling, hqueued, hpending, hcount, Finmap.mem_erase]
    by_cases heq : c.requestId = id
    · subst heq
      simp only [hmem, ne_eq, not_true_eq_false, false_and, if_false, if_true]
      omega
    · have hne : id ≠ c.requestId := fun he => heq he.symm
      simp only [heq, hne, ne_eq, not_false_eq_true, true_and, if_false]
      omega
  · rw [hcount]
    by_cases heq : c.requestId = id
    · subst heq
      rw [h.taken_of_mem hmem, if_pos rfl]
    · rcases hignored id hid with hold | hnew
      · rw [h.ignored id hold, if_neg heq]
      · exact absurd hnew.symm heq

theorem toNat_ofNat_next {n : ℕ} (h : n + 1 ≤ 2 ^ 64) : (UInt64.ofNat n).toNat = n := by
  rw [UInt64.toNat_ofNat']
  exact Nat.mod_eq_of_lt (by omega)

/-- The next id was not drawn before. -/
theorem not_drawn_next (h : s.nextRequestId_ + 1 ≤ 2 ^ 64) :
    ¬ s.Drawn (UInt64.ofNat s.nextRequestId_) := fun hdrawn => by
  have hlt := hdrawn.2
  rw [toNat_ofNat_next h] at hlt
  exact absurd hlt (lt_irrefl _)

theorem Ledger.draw (h : Ledger s) (hbound : s.nextRequestId_ + 1 ≤ 2 ^ 64) (a : CallArgs) :
    Ledger { s with
      nextRequestId_ := s.nextRequestId_ + 1
      calling := (UInt64.ofNat s.nextRequestId_, a) :: s.calling
      trace := .called (UInt64.ofNat s.nextRequestId_) a :: s.trace } := by
  have hcopies : ∀ id, State.copies { s with
      nextRequestId_ := s.nextRequestId_ + 1
      calling := (UInt64.ofNat s.nextRequestId_, a) :: s.calling
      trace := .called (UInt64.ofNat s.nextRequestId_) a :: s.trace } id =
      s.copies id + if UInt64.ofNat s.nextRequestId_ = id then 1 else 0 := fun id => by
    change List.countP _ (_ :: s.calling) + s.queuedCalls id + (if id ∈ s.pendingRequests_ then _
      else _) + s.taken id = _
    rw [List.countP_cons]
    simp only [beq_iff_eq, State.copies]
    omega
  have hnext := toNat_ofNat_next hbound
  have hpos := h.next_pos
  have hnone : s.copies (UInt64.ofNat s.nextRequestId_) = 0 :=
    Nat.eq_zero_of_not_pos fun hp => not_drawn_next hbound ((h.drawn _).mp hp)
  refine ⟨Nat.le_add_left _ _, fun id => ?_, fun id => ?_, h.ignored⟩
  · rw [hcopies]
    split_ifs with heq
    · subst heq
      omega
    · exact h.le_one id
  · rw [hcopies]
    have hdrawn := h.drawn id
    simp only [State.Drawn] at hdrawn ⊢
    split_ifs with heq
    · subst heq
      omega
    · have hne : id.toNat ≠ s.nextRequestId_ := fun he => heq (by rw [← he, UInt64.ofNat_toNat])
      rw [Nat.add_zero, hdrawn]
      omega

theorem mem_insert_of_lookup {p q : PendingRequest} (hp : s.pendingRequests_.lookup id = some p)
    (id' : UInt64) :
    id' ∈ s.pendingRequests_.insert id q ↔ id' ∈ s.pendingRequests_ := by
  rw [Finmap.mem_insert, or_iff_right_of_imp]
  rintro rfl
  exact Finmap.mem_of_lookup_eq_some hp

theorem queuedCalls_cancelIfSet (o : Option TimerId) (id : UInt64) :
    (s.loop_.cancelIfSet o).tasks.countP (LoopTask.isCall id) = s.queuedCalls id := by
  rw [EventLoop.tasks_cancelIfSet]
  rfl

theorem Ledger.enqueue (h : Ledger s) {a : CallArgs} {calling : List (UInt64 × CallArgs)}
    (hcalling : s.calling.Perm ((id, a) :: calling)) : Ledger { s with
      calling := calling
      loop_ := s.loop_.queueInLoop (.callInLoop id a) } := by
  refine h.of_copies rfl (fun id' => ?_) h.ignored
  have hcount := hcalling.countP_eq fun call => call.1 == id'
  rw [List.countP_cons] at hcount
  simp only [State.copies, State.queuedCalls, EventLoop.queueInLoop, isCall_append,
    LoopTask.isCall, hcount, beq_iff_eq]
  change _ + _ + _ + s.taken id' = _
  omega

theorem Ledger.dequeue (h : Ledger s) {a : CallArgs} {tasks : List LoopTask}
    (htasks : s.loop_.tasks = .callInLoop id a :: tasks) : Ledger { s with
      calling := (id, a) :: s.calling
      loop_ := s.loop_.setTasks tasks } := by
  refine h.of_copies rfl (fun id' => ?_) h.ignored
  simp only [State.copies, State.queuedCalls, EventLoop.setTasks, htasks, List.countP_cons,
    LoopTask.isCall, beq_iff_eq]
  change _ + _ + _ + s.taken id' = _
  omega

theorem Ledger.reject (h : Ledger s) {a : CallArgs} {calling : List (UInt64 × CallArgs)}
    (hcalling : s.calling = (id, a) :: calling) (errorCode : RpcErrorCode)
    (errorMessage : Bytes) : Ledger { s with
      calling := calling
      stack := .callbacks [rejection s id a errorCode errorMessage] :: s.stack } := by
  have hcount : ∀ id', State.taken { s with
      calling := calling
      stack := .callbacks [rejection s id a errorCode errorMessage] :: s.stack } id' =
      (if id = id' then 1 else 0) + s.taken id' := fun id' => countP_requestId_cons _ _ id'
  have hcopies : ∀ id', State.copies { s with
      calling := calling
      stack := .callbacks [rejection s id a errorCode errorMessage] :: s.stack } id' =
      s.copies id' := fun id' => by
    simp only [State.copies, hcount, hcalling, List.countP_cons, beq_iff_eq]
    change _ + s.queuedCalls id' + _ + _ = _
    omega
  refine h.of_copies rfl hcopies fun id' hid => ?_
  have hle := h.le_one id'
  have htaken := h.ignored id' hid
  simp only [State.copies, hcalling, List.countP_cons, beq_iff_eq] at hle
  rw [hcount]
  omega

/-- The id leaves `calling` for the pending requests. -/
theorem Ledger.accept (h : Ledger s) {a : CallArgs} {calling : List (UInt64 × CallArgs)}
    {p : PendingRequest} (hcalling : s.calling = (id, a) :: calling)
    (hnext : s'.nextRequestId_ = s.nextRequestId_) (hcalling' : s'.calling = calling)
    (hqueued : ∀ id, s'.queuedCalls id = s.queuedCalls id)
    (hpending : s'.pendingRequests_ = s.pendingRequests_.insert id p)
    (hignored : s'.ignoredResponseRequests_ = s.ignoredResponseRequests_)
    (htaken : ∀ id, s'.taken id = s.taken id) : Ledger s' := by
  have hle := h.le_one id
  have hnot : id ∉ s.pendingRequests_ := fun hmem => by
    simp only [State.copies, hcalling, List.countP_cons, beq_self_eq_true, if_true,
      if_pos hmem] at hle
    omega
  refine h.of_copies hnext (fun id' => ?_) fun id' hid => ?_
  · simp only [State.copies, hcalling', hqueued, hpending, htaken, hcalling, List.countP_cons,
      Finmap.mem_insert, beq_iff_eq]
    by_cases heq : id = id'
    · subst heq
      simp only [hnot, true_or, if_true, if_false]
      omega
    · have hne : id' ≠ id := fun he => heq he.symm
      simp only [heq, hne, false_or, if_false]
      omega
  · rw [htaken]
    exact h.ignored id' (hignored ▸ hid)

/-- Every transition keeps the ledger while fewer than `2 ^ 64` ids have been drawn. -/
theorem Ledger.step (h : Ledger s) (hbound : s'.nextRequestId_ ≤ 2 ^ 64)
    (ht : Transition cfg proper network s s') : Ledger s' := by
  have hpop : ∀ {f : Frame} {stack : List Frame}, s.stack = f :: stack →
      (∀ cs, f = .callbacks cs → cs = []) → Ledger { s with stack := stack } :=
    fun hstack hf => h.congr rfl rfl (fun _ => rfl) (fun _ => .rfl) (fun _ h => h)
      (perm_of_pop hstack hf)
  cases ht with
  | draw a => exact h.draw hbound a
  | enqueue hcalling => exact h.enqueue hcalling
  | dequeue htasks => exact h.dequeue htasks
  | queueCancel id =>
    refine h.congr rfl rfl (fun id' => ?_) (fun _ => .rfl) (fun _ h => h) (.refl _)
    exact isCall_append _ _ _
  | dequeueCancel htasks =>
    refine h.congr rfl rfl (fun id' => ?_) (fun _ => .rfl) (fun _ h => h) (.refl _)
    simp only [State.queuedCalls, EventLoop.setTasks, htasks]
    rfl
  | leaveUser hstack => exact hpop hstack fun _ hf => by cases hf
  | closeCallbacks hstack => exact hpop hstack fun cs hf => by cases hf; rfl
  | @invoke c cs rest hstack =>
    refine h.congr rfl rfl (fun _ => rfl) (fun _ => .rfl) (fun _ h => h) ?_
    rw [takenCallbacks_of_stack hstack]
    exact @List.perm_middle _ c (cs ++ rest.flatMap _) _
  | reject errorMessage hcode hcalling => exact h.reject hcalling _ errorMessage
  | accept hcalling =>
    exact h.accept hcalling rfl rfl (fun _ => by rw [State.queuedCalls,
      EventLoop.tasks_runAfterIfPos, State.queuedCalls]) rfl rfl fun _ => rfl
  | @lose id p cs cs' rest errorCode errorMessage hcode hstack hp hcs =>
    refine h.take rfl rfl (queuedCalls_cancelIfSet p.timerId) (Finmap.mem_of_lookup_eq_some hp) rfl
      (fun _ => .inl) (c := lostCompletion s.now errorCode errorMessage (id, p.callback)) ?_
    rw [takenCallbacks_of_stack hstack]
    exact (hcs.append_right _).append_right _
  | @respond p conn response hconn hp =>
    exact h.take rfl rfl (queuedCalls_cancelIfSet p.timerId) (Finmap.mem_of_lookup_eq_some hp) rfl
      (fun _ => .inl) (.refl _)
  | @cancel id p hp =>
    exact h.take rfl rfl (queuedCalls_cancelIfSet p.timerId) (Finmap.mem_of_lookup_eq_some hp) rfl
      (fun _ hid => (Finmap.mem_insert.mp hid).symm) (.refl _)
  | timeOut ht hdue hp =>
    exact h.take rfl rfl (fun _ => rfl) (Finmap.mem_of_lookup_eq_some hp) rfl
      (fun _ hid => (Finmap.mem_insert.mp hid).symm) (.refl _)
  | exhaust ht hdue hp =>
    exact h.take rfl rfl (fun _ => rfl) (Finmap.mem_of_lookup_eq_some hp) rfl (fun _ => .inl)
      (.refl _)
  | @resendFailed conn c id waiting rest p errorMessage hstack hc hp =>
    refine h.take rfl rfl (queuedCalls_cancelIfSet p.timerId) (Finmap.mem_of_lookup_eq_some hp) rfl
      (fun _ => .inl) ?_ (c := ⟨id, p.callback, failure id .INTERNAL_ERROR errorMessage,
        .resendFailed, s.now⟩)
    rw [takenCallbacks_of_stack hstack]
    exact .refl _
  | @startWait id p hconn hp =>
    exact h.congr rfl rfl (queuedCalls_cancelIfSet p.timerId) (mem_insert_of_lookup hp)
      (fun _ h => h) (.refl _)
  | rearm ht hdue hp =>
    exact h.congr rfl rfl (fun _ => rfl) (mem_insert_of_lookup hp) (fun _ h => h) (.refl _)
  | @resend conn c id waiting rest p hstack hc hp =>
    refine h.congr rfl rfl (fun id' => ?_) (mem_insert_of_lookup hp) (fun _ h => h) ?_
    · simp only [State.queuedCalls, EventLoop.tasks_runAfterIfPos, EventLoop.tasks_cancelIfSet]
    · rw [takenCallbacks_of_stack hstack]
      exact .refl _
  | respondIgnored =>
    exact h.congr rfl rfl (fun _ => rfl) (fun _ => .rfl) (fun _ hid => (Finmap.mem_erase.mp hid).2)
      (.refl _)
  | sweep =>
    exact h.congr rfl rfl (fun _ => rfl) (fun _ => .rfl) (fun _ => Finmap.mem_of_mem_filter)
      (.refl _)
  | up hstack | down hstack | error _ hstack =>
    refine h.congr rfl rfl (fun _ => rfl) (fun _ => .rfl) (fun _ h => h) ?_
    rw [takenCallbacks_of_stack hstack]
    exact .refl _
  | @clearIgnored f rest hf hstack =>
    refine h.congr rfl rfl (fun _ => rfl) (fun _ => .rfl)
      (fun _ hid => absurd hid Finmap.notMem_empty) (perm_of_pop hstack fun cs hcs => ?_)
    subst hcs
    rcases hf with ⟨_, hf⟩ | ⟨_, hf⟩ <;> cases hf
  | startCheck hstack | skipResend hstack =>
    refine h.congr rfl rfl (fun _ => rfl) (fun _ => .rfl) (fun _ h => h) ?_
    rw [takenCallbacks_of_stack hstack]
    exact .refl _
  | skipCheck hstack | stopCheck hstack => exact hpop hstack fun _ hf => by cases hf
  | _ => exact ⟨h.next_pos, h.le_one, h.drawn, h.ignored⟩

theorem ledger_of_reachable (h : (machine cfg).Reachable s) (hcalls : s.nextRequestId_ ≤ 2 ^ 64) :
    Ledger s :=
  invariant_of_bound ledger_init (fun _ _ hP => hP.step) h hcalls

/-! ### The calls -/

/-- Each id is drawn by one call. -/
structure CallsUnique (s : State) : Prop where
  nodup : (s.calls.map Prod.fst).Nodup
  drawn : ∀ call ∈ s.calls, s.Drawn call.1

theorem CallsUnique.step (h : CallsUnique s) (hpos : 1 ≤ s.nextRequestId_)
    (hbound : s'.nextRequestId_ ≤ 2 ^ 64) (ht : Transition cfg proper network s s') :
    CallsUnique s' := by
  cases ht with
  | draw a =>
    refine ⟨List.nodup_cons.mpr ⟨fun hmem => ?_, h.nodup⟩, fun call hcall => ?_⟩
    · obtain ⟨call, hcall, heq⟩ := List.mem_map.mp hmem
      have heq : call.1 = UInt64.ofNat s.nextRequestId_ := heq
      exact not_drawn_next hbound (heq ▸ h.drawn call hcall)
    · rcases List.mem_cons.mp hcall with rfl | hcall
      · have hnext := toNat_ofNat_next hbound
        simp only [State.Drawn]
        omega
      · exact ⟨(h.drawn call hcall).1, Nat.lt_succ_of_lt (h.drawn call hcall).2⟩
  | _ => exact ⟨h.nodup, h.drawn⟩

theorem callsUnique_of_reachable (h : (machine cfg).Reachable s)
    (hcalls : s.nextRequestId_ ≤ 2 ^ 64) : CallsUnique s :=
  (invariant_of_bound (P := fun s => Ledger s ∧ CallsUnique s)
    ⟨ledger_init, List.nodup_nil, fun _ h => absurd h List.not_mem_nil⟩
    (fun _ _ hP hbound ht =>
      ⟨hP.1.step hbound ht, hP.2.step hP.1.next_pos hbound ht⟩) h hcalls).2

/-- What is queued, pending or taken under an id belongs to the call that drew it. -/
structure Provenance (s : State) : Prop where
  calling : ∀ call ∈ s.calling, call ∈ s.calls
  queued : ∀ id a, .callInLoop id a ∈ s.loop_.tasks → (id, a) ∈ s.calls
  pending : ∀ id p, s.pendingRequests_.lookup id = some p →
    ∃ a, (id, a) ∈ s.calls ∧ p.callback = a.cb
  taken : ∀ c ∈ s.takenCallbacks,
    c.response.requestId_ = c.requestId ∧ ∃ a, (c.requestId, a) ∈ s.calls ∧ c.callback = a.cb

theorem provenance_init : Provenance .init where
  calling _ h := absurd h List.not_mem_nil
  queued _ _ h := absurd h List.not_mem_nil
  pending id _ h := by cases (Finmap.lookup_empty id).symm.trans h
  taken _ h := absurd h List.not_mem_nil

theorem Provenance.takes (h : Provenance s) {c : Completion} (hc : Takes s s' c) :
    c.response.requestId_ = c.requestId ∧ ∃ a, (c.requestId, a) ∈ s.calls ∧ c.callback = a.cb := by
  cases hc with
  | reject _ _ hcalling => exact ⟨rfl, _, h.calling _ hcalling, rfl⟩
  | lose _ _ hp | respond _ hp | cancel hp | timeOut _ _ hp | exhaust hp | resendFailed _ hp =>
    exact ⟨rfl, h.pending _ _ hp⟩

theorem Transition.calls_subset (h : Transition cfg proper network s s') : s.calls ⊆ s'.calls :=
  (h.trace_suffix.filterMap Event.call?).subset

theorem Transition.calling_mem_calls (h : Transition cfg proper network s s') (hprov : Provenance s)
    {call : UInt64 × CallArgs} (hcall : call ∈ s'.calling) : call ∈ s'.calls := by
  cases h with
  | draw a =>
    rcases List.mem_cons.mp hcall with rfl | hcall
    · exact List.mem_cons_self
    · exact .tail _ (hprov.calling call hcall)
  | enqueue hcalling => exact hprov.calling call (hcalling.mem_iff.mpr (.tail _ hcall))
  | dequeue htasks =>
    rcases List.mem_cons.mp hcall with rfl | hcall
    · exact hprov.queued _ _ (htasks ▸ List.mem_cons_self)
    · exact hprov.calling call hcall
  | reject _ _ hcalling | accept hcalling =>
    exact hprov.calling call (hcalling ▸ .tail _ hcall)
  | _ => exact hprov.calling call hcall

theorem Transition.queued_mem_calls (h : Transition cfg proper network s s') (hprov : Provenance s)
    {a : CallArgs} (htask : .callInLoop id a ∈ s'.loop_.tasks) : (id, a) ∈ s'.calls := by
  cases h with
  | draw => exact .tail _ (hprov.queued id a htask)
  | enqueue hcalling =>
    rcases List.mem_append.mp htask with hold | hnew
    · exact hprov.queued id a hold
    · cases List.mem_singleton.mp hnew
      exact hprov.calling _ (hcalling.mem_iff.mpr List.mem_cons_self)
  | queueCancel =>
    rcases List.mem_append.mp htask with hold | hnew
    · exact hprov.queued id a hold
    · cases List.mem_singleton.mp hnew
  | dequeue htasks | dequeueCancel htasks => exact hprov.queued id a (htasks ▸ .tail _ htask)
  | accept => exact hprov.queued id a (EventLoop.tasks_runAfterIfPos .. ▸ htask)
  | lose | respond | cancel | resendFailed | startWait =>
    exact hprov.queued id a (EventLoop.tasks_cancelIfSet .. ▸ htask)
  | resend =>
    rw [EventLoop.tasks_runAfterIfPos, EventLoop.tasks_cancelIfSet] at htask
    exact hprov.queued id a htask
  | _ => exact hprov.queued id a htask

theorem Transition.pending_callback (h : Transition cfg proper network s s') {p : PendingRequest}
    (hp : s'.pendingRequests_.lookup id = some p) :
    (∃ q, s.pendingRequests_.lookup id = some q ∧ p.callback = q.callback) ∨
      ∃ a, (id, a) ∈ s.calling ∧ p.callback = a.cb := by
  cases h with
  | accept hcalling =>
    rcases Finmap.lookup_insert_eq_some.mp hp with ⟨rfl, rfl⟩ | ⟨_, hold⟩
    · exact .inr ⟨_, hcalling ▸ List.mem_cons_self, rfl⟩
    · exact .inl ⟨p, hold, rfl⟩
  | lose | respond | cancel | timeOut | exhaust | resendFailed =>
    exact .inl ⟨p, (Finmap.lookup_erase_eq_some.mp hp).2, rfl⟩
  | startWait _ hq | rearm _ _ hq | resend _ _ hq =>
    rcases Finmap.lookup_insert_eq_some.mp hp with ⟨rfl, rfl⟩ | ⟨_, hold⟩
    · exact .inl ⟨_, hq, rfl⟩
    · exact .inl ⟨p, hold, rfl⟩
  | _ => exact .inl ⟨p, hp, rfl⟩

theorem Provenance.step (h : Provenance s) (ht : Transition cfg proper network s s') :
    Provenance s' where
  calling _ hcall := ht.calling_mem_calls h hcall
  queued _ _ htask := ht.queued_mem_calls h htask
  pending id p hp := by
    rcases ht.pending_callback hp with ⟨q, hq, hcallback⟩ | ⟨a, ha, hcallback⟩
    · obtain ⟨a, ha, hcb⟩ := h.pending id q hq
      exact ⟨a, ht.calls_subset ha, hcallback.trans hcb⟩
    · exact ⟨a, ht.calls_subset (h.calling _ ha), hcallback⟩
  taken c hc := by
    obtain ⟨hresponse, a, ha, hcb⟩ := (ht.mem_takenCallbacks hc).elim (h.taken c) h.takes
    exact ⟨hresponse, a, ht.calls_subset ha, hcb⟩

theorem provenance_of_reachable (h : (machine cfg).Reachable s) : Provenance s :=
  invariant provenance_init (fun _ _ hP => hP.step) h

/-! ### Exactly once -/

/-- What the ids and the callbacks of a state are like. -/
structure ExactlyOnce (s : State) : Prop where
  /-- The id of a call that has returned is queued, or pending with its callback not taken, or its
  callback was taken once; and only one of these. -/
  situation : ∀ id a, (id, a) ∈ s.calls → (id, a) ∉ s.calling →
    (s.queuedCalls id = 1 ∧ id ∉ s.pendingRequests_ ∧ s.taken id = 0) ∨
    (s.queuedCalls id = 0 ∧ id ∈ s.pendingRequests_ ∧ s.taken id = 0) ∨
    (s.queuedCalls id = 0 ∧ id ∉ s.pendingRequests_ ∧ s.taken id = 1)
  /-- No callback is taken twice. -/
  taken_le_one : ∀ id, s.taken id ≤ 1
  /-- Each id belongs to one call. -/
  unique : ∀ id a b, (id, a) ∈ s.calls → (id, b) ∈ s.calls → a = b
  queued : ∀ id a, .callInLoop id a ∈ s.loop_.tasks → (id, a) ∈ s.calls
  /-- The callback of a pending request is that of the call. -/
  pending : ∀ id p, s.pendingRequests_.lookup id = some p →
    ∃ a, (id, a) ∈ s.calls ∧ p.callback = a.cb
  /-- The callback taken is that of the call, and gets a response with its id. -/
  taken : ∀ c ∈ s.takenCallbacks,
    c.response.requestId_ = c.requestId ∧ ∃ a, (c.requestId, a) ∈ s.calls ∧ c.callback = a.cb
  disjoint : ∀ id, id ∈ s.pendingRequests_ → id ∉ s.ignoredResponseRequests_
  drawn : ∀ id, id ∈ s.pendingRequests_ ∨ id ∈ s.ignoredResponseRequests_ →
    id.toNat < s.nextRequestId_

theorem CallsUnique.eq_of_mem (h : CallsUnique s) {a b : CallArgs} (ha : (id, a) ∈ s.calls)
    (hb : (id, b) ∈ s.calls) : a = b :=
  congrArg Prod.snd (List.inj_on_of_nodup_map h.nodup ha hb rfl)

theorem Ledger.situation (h : Ledger s) (hunique : CallsUnique s) (hprov : Provenance s)
    {a : CallArgs} (hcall : (id, a) ∈ s.calls) (hreturned : (id, a) ∉ s.calling) :
    (s.queuedCalls id = 1 ∧ id ∉ s.pendingRequests_ ∧ s.taken id = 0) ∨
    (s.queuedCalls id = 0 ∧ id ∈ s.pendingRequests_ ∧ s.taken id = 0) ∨
    (s.queuedCalls id = 0 ∧ id ∉ s.pendingRequests_ ∧ s.taken id = 1) := by
  have hone := h.le_one id
  have hdrawn := (h.drawn id).mpr (hunique.drawn _ hcall)
  have hcalling : s.calling.countP (fun call => call.1 == id) = 0 := by
    rw [List.countP_eq_zero]
    rintro ⟨id', b⟩ hmem heq
    obtain rfl : id' = id := beq_iff_eq.mp heq
    exact hreturned (hunique.eq_of_mem hcall (hprov.calling _ hmem) ▸ hmem)
  by_cases hmem : id ∈ s.pendingRequests_
  · simp only [State.copies, hcalling, hmem, if_true] at hone hdrawn
    exact .inr (.inl ⟨by omega, hmem, by omega⟩)
  · simp only [State.copies, hcalling, hmem, if_false] at hone hdrawn
    rcases Nat.eq_zero_or_pos (s.queuedCalls id) with hqueued | hqueued
    · exact .inr (.inr ⟨hqueued, hmem, by omega⟩)
    · exact .inl ⟨by omega, hmem, by omega⟩

/-- **Every call is completed exactly once**, whatever the order of events and whatever the user
callbacks do, as long as fewer than `2 ^ 64` ids are drawn. -/
theorem exactlyOnce_of_reachable (h : (machine cfg).Reachable s)
    (hcalls : s.nextRequestId_ ≤ 2 ^ 64) : ExactlyOnce s := by
  have hledger := ledger_of_reachable h hcalls
  have hunique := callsUnique_of_reachable h hcalls
  have hprov := provenance_of_reachable h
  refine ⟨fun id a => hledger.situation hunique hprov, hledger.taken_le_one,
    fun id a b => hunique.eq_of_mem, hprov.queued, hprov.pending, hprov.taken,
    fun id => hledger.disjoint, fun id hid => ?_⟩
  rcases hid with hmem | hmem
  · exact (hledger.drawn_of_mem hmem).2
  · exact (hledger.drawn_of_taken (by rw [hledger.ignored id hmem]; exact Nat.one_pos)).2

/-- A run in which the connection comes up, its callback calls, and the call is cancelled by
another thread. -/
theorem exactlyOnce_of_reachable_cancel :
    let s := (machine .default).after [.connectionUp,
      .call ⟨text "s", text "m", text "p", ⟨7⟩, 0, true, 0, none⟩, .leaveUser, .queueCancel 1,
      .resume [1], .resume [1], .runTask]
    s.takenCallbacks.map Completion.cause = [.canceled] ∧ s.taken 1 = 1 ∧ ExactlyOnce s :=
  ⟨by decide, by decide, exactlyOnce_of_reachable (Machine.reachable_after _) (by decide)⟩

end MiniRpc.RpcClient
