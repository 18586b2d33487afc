import MiniRpc.RpcServer.Equiv.Registry
import MiniRpc.RpcServer.Equiv.Results
import MiniRpc.RpcServer.Equiv.View

/-!
# The slots of the active requests

An entry of the cancellation registry takes a slot of the limits on active requests.  No slot leaks:
the connection of an entry is up, and its token is that of an invocation that can still be answered
(`State.Unanswered`), so a slot is free again as soon as its request is answered, dropped with its
connection or cancelled.  A request is therefore refused for a limit only when that many invocations
are unanswered (`SlotsReleased`).
-/

namespace MiniRpc.RpcServer

variable {cfg : Config} {proper network : Prop} {s s' : State} {phase phase' : Phase}
  {inv : Invocation} {r : RpcResult}

/-- The invocation can still be answered: it waits for its handler, or its reply object was not
called, or its reply is on the way. -/
def State.Unanswered (s : State) (inv : Invocation) : Prop :=
  s.Waiting inv ∨ (inv ∈ s.replies ∧ inv.frame ∉ s.repliedFlags) ∨ (∃ r, s.Replying inv r) ∨
    ∃ r, s.Queued inv r

/-! ### Where an invocation goes -/

section Perm

variable {α : Type} {xs rest : List α} {x y : α}

/-- An element is the one taken out, or is left. -/
theorem eq_or_mem_of_taken (h : xs.Perm (y :: rest)) (hx : x ∈ xs) : x = y ∨ x ∈ rest :=
  List.mem_cons.mp (h.mem_iff.mp hx)

end Perm

/-- An invocation that waits goes on waiting, or its handler is called, or its task is refused and
its reply object is called. -/
theorem Transition.waiting_next (ht : Transition cfg proper network (s, phase) (s', phase'))
    (h : s.Waiting inv) (hflag : inv.frame ∉ s.repliedFlags) : s'.Waiting inv ∨
      (inv ∈ s'.replies ∧ s'.repliedFlags = s.repliedFlags) ∨ ∃ r, s'.Replying inv r := by
  rcases h with ⟨t, hmem⟩ | hmem
  · cases ht with
    | register | userReply => exact .inl (.inl ⟨t, .tail _ hmem⟩)
    | startHandler hrunning hrunning' =>
      rcases eq_or_mem_of_taken hrunning hmem with heq | hmem
      · obtain ⟨-, heq⟩ := Prod.mk.inj heq
        obtain rfl := Activity.submit.inj heq
        exact .inr (.inl ⟨List.mem_cons_self, rfl⟩)
      · exact .inl (.inl ⟨t, hrunning'.mem_iff.mpr (.tail _ hmem)⟩)
    | enqueue hrunning hpool =>
      rcases eq_or_mem_of_taken hrunning hmem with heq | hmem
      · obtain ⟨-, heq⟩ := Prod.mk.inj heq
        obtain rfl := Activity.submit.inj heq
        refine .inl (.inr ?_)
        rw [hpool]
        exact List.mem_append_right _ (List.mem_singleton_self _)
      · exact .inl (.inl ⟨t, hmem⟩)
    | refuse r hr hflag' hrunning hrunning' =>
      rcases eq_or_mem_of_taken hrunning hmem with heq | hmem
      · obtain ⟨-, heq⟩ := Prod.mk.inj heq
        obtain rfl := Activity.submit.inj heq
        exact .inr (.inr ⟨r, _, hrunning'.mem_iff.mpr List.mem_cons_self⟩)
      · exact .inl (.inl ⟨t, hrunning'.mem_iff.mpr (.tail _ hmem)⟩)
    | refuseReplied hrunning hflag' =>
      rcases eq_or_mem_of_taken hrunning hmem with heq | hmem
      · obtain ⟨-, heq⟩ := Prod.mk.inj heq
        obtain rfl := Activity.submit.inj heq
        exact absurd hflag' hflag
      · exact .inl (.inl ⟨t, hmem⟩)
    | workerTake => exact .inl (.inl ⟨t, .tail _ hmem⟩)
    | handlerThrows _ hrunning hrunning' =>
      rcases eq_or_mem_of_taken hrunning hmem with heq | hmem
      · cases heq
      · exact .inl (.inl ⟨t, hrunning'.mem_iff.mpr (.tail _ hmem)⟩)
    | leave hrunning hactivity =>
      rcases eq_or_mem_of_taken hrunning hmem with heq | hmem
      · obtain ⟨-, rfl⟩ := Prod.mk.inj heq
        exact absurd rfl (hactivity inv)
      · exact .inl (.inl ⟨t, hmem⟩)
    | queueReply hrunning =>
      rcases eq_or_mem_of_taken hrunning hmem with heq | hmem
      · cases heq
      · exact .inl (.inl ⟨t, hmem⟩)
    | _ => exact .inl (.inl ⟨t, hmem⟩)
  · cases ht with
    | enqueue hrunning hpool =>
      refine .inl (.inr ?_)
      rw [hpool]
      exact List.mem_append_left _ hmem
    | workerTake w hpool =>
      rw [hpool] at hmem
      rcases List.mem_cons.mp hmem with rfl | hmem
      · exact .inr (.inl ⟨List.mem_cons_self, rfl⟩)
      · exact .inl (.inr hmem)
    | pool _ hpool => exact .inl (.inr (hpool.symm ▸ hmem))
    | _ => exact .inl (.inr hmem)

theorem Transition.replies_subset (ht : Transition cfg proper network (s, phase) (s', phase')) :
    s.replies ⊆ s'.replies := by
  cases ht with
  | startHandler | workerTake => exact List.subset_cons_self _ _
  | _ => exact List.Subset.refl _

/-- When the flag of a reply object is set, its reply is on the way. -/
theorem Transition.flagged (ht : Transition cfg proper network (s, phase) (s', phase'))
    {n : FrameId} (h : n ∈ s'.repliedFlags) : n ∈ s.repliedFlags ∨
      phase = .idle ∧ ∃ inv : Invocation, inv.frame = n ∧ (∃ r, s'.Replying inv r) ∧
        (s.Started inv ∨ s.Waiting inv ∧ .rejected n inv.conn inv.request ∈ s'.trace) := by
  cases ht with
  | @refuse _ inv t rest running r hr hflag hrunning hrunning' =>
    rcases Finset.mem_insert.mp h with rfl | hold
    · refine .inr ⟨rfl, inv, rfl, ⟨r, t, hrunning'.mem_iff.mpr List.mem_cons_self⟩, .inr ⟨?_, ?_⟩⟩
      · exact .inl ⟨t, mem_head hrunning⟩
      · exact .tail _ List.mem_cons_self
    · exact .inl hold
  | @handlerThrows _ inv t rest running hflag hrunning hrunning' =>
    rcases Finset.mem_insert.mp h with rfl | hold
    · exact .inr ⟨rfl, inv, rfl, ⟨_, t, hrunning'.mem_iff.mpr List.mem_cons_self⟩,
        .inl (.inl ⟨t, mem_head hrunning⟩)⟩
    · exact .inl hold
  | @userReply _ inv r hinv hflag =>
    rcases Finset.mem_insert.mp h with rfl | hold
    · exact .inr ⟨rfl, inv, rfl, ⟨r, .user, List.mem_cons_self⟩, .inl (.inr hinv)⟩
    · exact .inl hold
  | _ => exact .inl h

/-- A reply that is on the way to its loop is queued there, or dropped with its connection. -/
theorem Transition.replying_next (ht : Transition cfg proper network (s, phase) (s', phase'))
    (h : s.Replying inv r) : s'.Replying inv r ∨ (∃ r', s'.Queued inv r') ∨
      (s'.connections inv.conn).state = .kDown := by
  obtain ⟨t, hmem⟩ := h
  cases ht with
  | register | userReply | workerTake => exact .inl ⟨t, .tail _ hmem⟩
  | startHandler hrunning hrunning' | refuse _ _ _ hrunning hrunning'
  | handlerThrows _ hrunning hrunning' =>
    rcases eq_or_mem_of_taken hrunning hmem with heq | hmem
    · cases heq
    · exact .inl ⟨t, hrunning'.mem_iff.mpr (.tail _ hmem)⟩
  | enqueue hrunning | refuseReplied hrunning =>
    rcases eq_or_mem_of_taken hrunning hmem with heq | hmem
    · cases heq
    · exact .inl ⟨t, hmem⟩
  | leave hrunning _ hdropped =>
    rcases eq_or_mem_of_taken hrunning hmem with heq | hmem
    · obtain ⟨-, rfl⟩ := Prod.mk.inj heq
      exact .inr (.inr (hdropped inv r rfl))
    · exact .inl ⟨t, hmem⟩
  | queueReply hrunning =>
    rcases eq_or_mem_of_taken hrunning hmem with heq | hmem
    · obtain ⟨-, heq⟩ := Prod.mk.inj heq
      obtain ⟨rfl, rfl⟩ := Activity.reply.inj heq
      exact .inr (.inl ⟨_, _, List.mem_append_right _ (List.mem_singleton_self _)⟩)
    · exact .inl ⟨t, hmem⟩
  | _ => exact .inl ⟨t, hmem⟩

/-- A queued reply stays queued until it empties the slot of its id. -/
theorem Transition.queued_next (ht : Transition cfg proper network (s, phase) (s', phase'))
    (h : s.Queued inv r) : s'.Queued inv r ∨
      s'.cancellationRegistry_.find? inv.conn inv.request.requestId_ = none := by
  obtain ⟨l, hmem⟩ := h
  cases ht with
  | queueReply | pushStopped => exact .inl ⟨l, List.mem_append_left _ hmem⟩
  | takeNone htasks hnone =>
    rcases eq_or_mem_of_taken htasks hmem with heq | hmem
    · obtain ⟨-, heq⟩ := Prod.mk.inj heq
      obtain ⟨rfl, -⟩ := LoopTask.reply.inj heq
      exact .inr hnone
    · exact .inl ⟨l, hmem⟩
  | takeCanceled htasks _ _ hfind | take htasks _ _ hfind =>
    rcases eq_or_mem_of_taken htasks hmem with heq | hmem
    · obtain ⟨-, heq⟩ := Prod.mk.inj heq
      obtain ⟨rfl, -⟩ := LoopTask.reply.inj heq
      exact .inr (by rw [hfind, if_pos ⟨rfl, rfl⟩])
    · exact .inl ⟨l, hmem⟩
  | popStopped htasks =>
    rcases eq_or_mem_of_taken htasks hmem with heq | hmem
    · cases heq
    · exact .inl ⟨l, hmem⟩
  | _ => exact .inl ⟨l, hmem⟩

/-- The connections that are up stay up until their close is reported. -/
theorem Transition.state_up (ht : Transition cfg proper network (s, phase) (s', phase'))
    {c : ConnId} (h : (s.connections c).state = .kUp) : (s'.connections c).state = .kUp ∨
      phase = .idle ∧ phase' = .idle ∧
        ∀ i, s'.cancellationRegistry_.find? c i = none := by
  have hupdate : ∀ {conn : ConnId} {c' : Connection},
      ((s.connections conn).state = .kUp → c'.state = .kUp) →
        (Function.update s.connections conn c' c).state = .kUp := fun {conn c'} hc' => by
    by_cases hc : c = conn
    · subst hc
      rw [Function.update_self]
      exact hc' h
    · rw [Function.update_of_ne hc]
      exact h
  cases ht with
  | up => exact .inl (hupdate fun _ => rfl)
  | closing _ hc => exact .inl (hupdate fun _ => hc)
  | forceClose | close | refuseDuplicate => exact .inl (hupdate id)
  | @down _ conn =>
    by_cases hc : c = conn
    · exact .inr ⟨rfl, rfl, fun i => by rw [CancellationRegistry.find?_clear, if_pos hc]⟩
    · have hsame := Function.update_of_ne hc Connection.down s.connections
      exact .inl ((congrArg Connection.state hsame).trans h)
  | _ => exact .inl h

/-! ### The invariant -/

/-- The number of a frame belongs to one invocation. -/
theorem Laws.eq_of_frame (h : Laws cfg s phase) {inv inv' : Invocation}
    (hinv : inv.Known cfg s.trace) (hinv' : inv'.Known cfg s.trace)
    (hframe : inv.frame = inv'.frame) : inv = inv' := by
  obtain ⟨frame, conn, request, handler⟩ := inv
  obtain ⟨frame', conn', request', handler'⟩ := inv'
  obtain rfl : frame = frame' := hframe
  obtain ⟨rfl, rfl⟩ := h.numbered.unique hinv.received hinv'.received
  obtain rfl : handler = handler' := Option.some.inj (hinv.registered.symm.trans hinv'.registered)
  rfl

/-- An invocation that was dispatched does not wait. -/
theorem Laws.not_waiting (h : Laws cfg s phase)
    (hdone : 0 < invoked (isFrame inv.frame) s.trace + rejected (isFrame inv.frame) s.trace) :
    ¬ s.Waiting inv := by
  have hplaced := h.placed inv.frame
  have honce := h.numbered.once inv.frame
  have hself : inv.satisfies (isFrame inv.frame) = true := decide_eq_true rfl
  unfold Placed place at hplaced
  rintro (⟨t, hmem⟩ | hmem)
  · have hpos : 0 < s.running.countP (submits (isFrame inv.frame)) :=
      List.countP_pos_iff.mpr ⟨_, hmem, hself⟩
    omega
  · have hpos : 0 < (poolTasks s.taskPool_).countP (·.satisfies (isFrame inv.frame)) :=
      List.countP_pos_iff.mpr ⟨_, hmem, hself⟩
    omega

theorem Laws.known (h : Laws cfg s phase) (hinv : s.Unanswered inv) : inv.Known cfg s.trace := by
  rcases hinv with hwaiting | ⟨hreplies, -⟩ | ⟨r, hreplying⟩ | ⟨r, hqueued⟩
  · exact h.served.waiting inv hwaiting
  · exact (h.served.started inv (.inr hreplies)).1
  · exact (h.served.replying inv r hreplying).known
  · obtain ⟨r', hreplied, -⟩ := h.served.queued inv r hqueued
    exact hreplied.known

/-- The slots between the transitions of a step. -/
structure Slots (s : State) (phase : Phase) : Prop where
  link : ∀ frame conn request, phase = .received frame conn request →
    (s.connections conn).state = .kUp
  up : ∀ c i t, s.cancellationRegistry_.find? c i = some t → (s.connections c).state = .kUp
  unflagged : ∀ inv, s.Waiting inv → inv.frame ∉ s.repliedFlags
  held : ∀ c i t, s.cancellationRegistry_.find? c i = some t → ∃ inv : Invocation,
    inv.frame = t ∧ inv.conn = c ∧ inv.request.requestId_ = i ∧ s.Unanswered inv

theorem slots_init : Slots (.init cfg) .idle where
  link _ _ _ h := by cases h
  up c i _ h := by cases (CancellationRegistry.find?_init _ _ c i).symm.trans h
  unflagged _ h := absurd h not_waiting_init
  held c i _ h := by cases (CancellationRegistry.find?_init _ _ c i).symm.trans h

/-- The flag of an invocation that waits is not set. -/
theorem Slots.unflagged_step (h : Slots s phase) (hlaws : Laws cfg s phase)
    (hlaws' : Laws cfg s' phase') (ht : Transition cfg proper network (s, phase) (s', phase'))
    (hinv : s'.Waiting inv) : inv.frame ∉ s'.repliedFlags := by
  intro hflag
  rcases ht.flagged hflag with hold | ⟨hidle, inv', hframe, -, hcalled⟩
  · rcases ht.waiting hinv with hwaiting | ⟨hphase, -, -⟩
    · exact h.unflagged inv hwaiting hold
    · -- the frame that is being dispatched has no result yet
      obtain ⟨r, hfinished⟩ := hlaws.results.flagged _ hold
      have hlt := hlaws.results.bound _ _ hfinished
      rw [hphase] at hlt
      exact Nat.lt_irrefl _ hlt
  · refine hlaws'.not_waiting ?_ hinv
    have hself : isFrame inv.frame inv'.frame inv'.conn inv'.request = true :=
      decide_eq_true hframe
    rcases hcalled with hstarted | ⟨-, hrejected⟩
    · have hinvoked := ht.trace_subset (hlaws.served.started inv' hstarted).2
      exact Nat.add_pos_left (List.countP_pos_iff.mpr ⟨_, hinvoked, hself⟩) _
    · refine Nat.add_pos_right _ (List.countP_pos_iff.mpr ⟨_, hrejected, ?_⟩)
      exact decide_eq_true rfl

/-- An invocation with a slot stays unanswered as long as it has the slot. -/
theorem Slots.unanswered (h : Slots s phase) (hlaws : Laws cfg s phase)
    (ht : Transition cfg proper network (s, phase) (s', phase')) (hinv : s.Unanswered inv)
    (hslot : s'.cancellationRegistry_.find? inv.conn inv.request.requestId_ ≠ none)
    (hup : (s'.connections inv.conn).state = .kUp) : s'.Unanswered inv := by
  have hknown := hlaws.known hinv
  rcases hinv with hwaiting | ⟨hreplies, hflag⟩ | ⟨r, hreplying⟩ | ⟨r, hqueued⟩
  · have hflag := h.unflagged inv hwaiting
    rcases ht.waiting_next hwaiting hflag with hwaiting | ⟨hreplies, hflags⟩ | hreplying
    · exact .inl hwaiting
    · exact .inr (.inl ⟨hreplies, hflags ▸ hflag⟩)
    · exact .inr (.inr (.inl hreplying))
  · by_cases hset : inv.frame ∈ s'.repliedFlags
    · rcases ht.flagged hset with hold | ⟨-, inv', hframe, hreplying, hcalled⟩
      · exact absurd hold hflag
      · -- the reply object that was called is that of the invocation
        have hinv' : s.Waiting inv' ∨ s.Started inv' := hcalled.symm.imp_left And.left
        obtain rfl := hlaws.eq_of_frame (hlaws.served.known hinv') hknown hframe
        exact .inr (.inr (.inl hreplying))
    · exact .inr (.inl ⟨ht.replies_subset hreplies, hset⟩)
  · rcases ht.replying_next hreplying with hreplying | hqueued | hdown
    · exact .inr (.inr (.inl ⟨r, hreplying⟩))
    · exact .inr (.inr (.inr hqueued))
    · cases hdown.symm.trans hup
  · rcases ht.queued_next hqueued with hqueued | hnone
    · exact .inr (.inr (.inr ⟨r, hqueued⟩))
    · exact absurd hnone hslot

theorem Slots.step (h : Slots s phase) (hlaws : Laws cfg s phase) (hlaws' : Laws cfg s' phase')
    (ht : Transition cfg proper network (s, phase) (s', phase')) : Slots s' phase' := by
  have hup : ∀ c i t, s'.cancellationRegistry_.find? c i = some t →
      (s'.connections c).state = .kUp := by
    intro c i t hfound
    have hold : (s.connections c).state = .kUp := by
      rcases ht.entry hfound with hold | ⟨request, hphase, -⟩
      · exact h.up c i t hold
      · exact h.link _ _ _ hphase
    rcases ht.state_up hold with hstate | ⟨-, -, hnone⟩
    · exact hstate
    · cases (hnone i).symm.trans hfound
  refine ⟨fun frame conn request hphase => ?_, hup, fun inv => h.unflagged_step hlaws hlaws' ht,
    fun c i t hfound => ?_⟩
  · cases ht with
    | receive request hstate =>
      obtain ⟨-, rfl, -⟩ := Phase.received.inj hphase
      exact hstate
    | _ => cases hphase
  · have hkept : s.cancellationRegistry_.find? c i = some t → ∃ inv : Invocation,
        inv.frame = t ∧ inv.conn = c ∧ inv.request.requestId_ = i ∧ s'.Unanswered inv := by
      intro hold
      obtain ⟨inv, hframe, rfl, rfl, hinv⟩ := h.held c i t hold
      refine ⟨inv, hframe, rfl, rfl, h.unanswered hlaws ht hinv (fun hnone => ?_) ?_⟩
      · cases hnone.symm.trans hfound
      · exact hup _ _ _ hfound
    rcases ht.entry hfound with hold | ⟨request, hphase, hid⟩
    · exact hkept hold
    · cases ht with
      | @register _ frame conn request' handler =>
        obtain ⟨rfl, rfl, rfl⟩ := Phase.received.inj hphase
        exact ⟨_, rfl, rfl, hid, .inl (.inl ⟨_, List.mem_cons_self⟩)⟩
      | invokeSync | unknownMethod | refuseLimit | refuseDuplicate => exact hkept hfound
      | _ => cases hphase

theorem slots_of_reachable (h : (machine cfg).Reachable s) : Slots s .idle := by
  refine (invariant (P := fun x => Laws cfg x.1 x.2 ∧ Slots x.1 x.2) ?_ (fun x y hP ht => ?_) h).2
  · exact ⟨laws_of_reachable Machine.Reachable.init, slots_init⟩
  · have hlaws' := hP.1.step ht
    exact ⟨hlaws', hP.2.step hP.1 hlaws' ht⟩

/-! ### Limits -/

theorem Transition.sameLimits (ht : Transition cfg proper network (s, phase) (s', phase')) :
    SameLimits s.cancellationRegistry_ s'.cancellationRegistry_ := by
  cases ht with
  | register _ _ _ _ hlimits | cancel _ _ _ _ hlimits | takeCanceled _ _ _ _ _ hlimits
  | take _ _ _ _ _ _ hlimits => exact hlimits
  | down => exact CancellationRegistry.limits_clear _ _
  | _ => exact ⟨rfl, rfl⟩

/-- The limits of the registry are those that were set. -/
theorem registryLimits_of_reachable (h : (machine cfg).Reachable s) :
    s.cancellationRegistry_.maxActiveRequests_ = cfg.maxActiveRequests_ ∧
      s.cancellationRegistry_.maxActiveRequestsPerConnection_ =
        cfg.maxActiveRequestsPerConnection_ := by
  refine invariant (P := fun x =>
    x.1.cancellationRegistry_.maxActiveRequests_ = cfg.maxActiveRequests_ ∧
      x.1.cancellationRegistry_.maxActiveRequestsPerConnection_ =
        cfg.maxActiveRequestsPerConnection_) ⟨rfl, rfl⟩ (fun x y hP ht => ?_) h
  have hsame := ht.sameLimits
  exact ⟨hsame.1.trans hP.1, hsame.2.trans hP.2⟩

/-- A registration refused by the limit on all requests finds that many entries. -/
theorem reached_of_globalLimit {reg : CancellationRegistry} {conn : ConnId} {requestId : UInt64}
    {token : TokenId}
    (h : (reg.registerToken conn requestId token).1 = .kGlobalLimitReached) :
    CancellationRegistry.Reached reg.maxActiveRequests_ reg.total := by
  unfold CancellationRegistry.registerToken at h
  dsimp only at h
  split_ifs at h with hduplicate hglobal
  have hcount : reg.activeRequests = reg.total := (Finmap.card_uncurry _).symm
  rw [hcount] at hglobal
  exact (CancellationRegistry.Session.any_iff_reached _ _).mp hglobal

/-- A registration refused by the limit on the requests of a connection finds that many entries of
the connection. -/
theorem reached_of_connectionLimit {reg : CancellationRegistry} {conn : ConnId}
    {requestId : UInt64} {token : TokenId}
    (h : (reg.registerToken conn requestId token).1 = .kConnectionLimitReached) :
    CancellationRegistry.Reached reg.maxActiveRequestsPerConnection_ (reg.count conn) := by
  unfold CancellationRegistry.registerToken at h
  dsimp only at h
  split_ifs at h with hduplicate hglobal hconnection
  obtain ⟨requests, hrequests, hany⟩ := (Option.any_eq_true _ _).mp hconnection
  have hcount : reg.count conn = requests.keys.card := by
    unfold CancellationRegistry.count Finmap.innerKeys
    rw [hrequests]
    rfl
  rw [hcount]
  exact (CancellationRegistry.Session.any_iff_reached _ _).mp hany

/-! ### Slots and invocations -/

/-- The invocation an operation in progress has still to answer. -/
def Activity.unanswered? : Activity → Option Invocation
  | .submit inv => some inv
  | .handler _ => none
  | .reply inv _ => some inv

/-- The invocation a queued task answers. -/
def LoopTask.unanswered? : LoopTask → Option Invocation
  | .reply inv _ => some inv
  | .onTaskPoolStopped => none

/-- The invocations that can still be answered. -/
def State.unanswered (s : State) : List Invocation :=
  s.running.filterMap (fun r => r.2.unanswered?) ++ poolTasks s.taskPool_ ++
    s.replies.filter (fun inv => decide (inv.frame ∉ s.repliedFlags)) ++
    s.tasks.filterMap fun task => task.2.unanswered?

theorem mem_unanswered : inv ∈ s.unanswered ↔ s.Unanswered inv := by
  have hrunning : inv ∈ s.running.filterMap (fun r => r.2.unanswered?) ↔
      (∃ t, (t, .submit inv) ∈ s.running) ∨ ∃ r, s.Replying inv r := by
    rw [List.mem_filterMap]
    constructor
    · rintro ⟨⟨t, activity⟩, hmem, heq⟩
      cases activity with
      | submit inv' =>
        obtain rfl := Option.some.inj heq
        exact .inl ⟨t, hmem⟩
      | handler inv' => cases heq
      | reply inv' r =>
        obtain rfl := Option.some.inj heq
        exact .inr ⟨r, t, hmem⟩
    · rintro (⟨t, hmem⟩ | ⟨r, t, hmem⟩)
      · exact ⟨_, hmem, rfl⟩
      · exact ⟨_, hmem, rfl⟩
  have htasks : inv ∈ s.tasks.filterMap (fun task => task.2.unanswered?) ↔
      ∃ r, s.Queued inv r := by
    rw [List.mem_filterMap]
    constructor
    · rintro ⟨⟨l, task⟩, hmem, heq⟩
      cases task with
      | reply inv' r =>
        obtain rfl := Option.some.inj heq
        exact ⟨r, l, hmem⟩
      | onTaskPoolStopped => cases heq
    · rintro ⟨r, l, hmem⟩
      exact ⟨_, hmem, rfl⟩
  unfold State.unanswered State.Unanswered State.Waiting
  simp only [List.mem_append, List.mem_filter, decide_eq_true_eq, hrunning, htasks]
  tauto

/-- The frames of the unanswered invocations with a property. -/
def State.unansweredFrames (s : State) (p : Invocation → Bool) : Finset FrameId :=
  ((s.unanswered.filter p).map Invocation.frame).toFinset

/-- Different slots hold different frames. -/
theorem card_slots_le {α : Type} {keys : Finset α} (slot : α → ConnId × UInt64)
    (hslot : Function.Injective slot) {frames : Finset FrameId}
    (htokens : Tokens s.cancellationRegistry_ s.nextFrame phase)
    (hframes : ∀ a ∈ keys, ∃ t ∈ frames,
      s.cancellationRegistry_.find? (slot a).1 (slot a).2 = some t) :
    keys.card ≤ frames.card := by
  choose! token htoken hfound using hframes
  refine Finset.card_le_card_of_injOn token htoken fun a ha b hb heq => ?_
  have hb' := hfound b hb
  rw [← heq] at hb'
  obtain ⟨hconn, hid⟩ := htokens.unique _ _ _ _ _ (hfound a ha) hb'
  exact hslot (Prod.ext hconn hid)

/-- What holds of the slots of the active requests. -/
structure SlotsReleased (cfg : Config) (s : State) : Prop where
  /-- A connection whose close was reported has no slot. -/
  up : ∀ c i t, s.cancellationRegistry_.find? c i = some t → (s.connections c).state = .kUp
  /-- A slot is held for an invocation that can still be answered, with its connection and id. -/
  held : ∀ c i t, s.cancellationRegistry_.find? c i = some t → ∃ inv ∈ s.unanswered,
    inv.frame = t ∧ inv.conn = c ∧ inv.request.requestId_ = i
  /-- There are no more slots than unanswered invocations, over all connections and on each. -/
  total : s.cancellationRegistry_.total ≤ (s.unansweredFrames fun _ => true).card
  count : ∀ c, s.cancellationRegistry_.count c ≤
    (s.unansweredFrames fun inv => decide (inv.conn = c)).card
  /-- A request is refused for the limit on active requests only when that many invocations are
  unanswered. -/
  globalLimit : ∀ conn id token,
    (s.cancellationRegistry_.registerToken conn id token).1 = .kGlobalLimitReached →
      ∃ n ∈ cfg.maxActiveRequests_, n ≤ (s.unansweredFrames fun _ => true).card
  /-- A request is refused for the limit of its connection only when that many invocations of the
  connection are unanswered. -/
  connectionLimit : ∀ conn id token,
    (s.cancellationRegistry_.registerToken conn id token).1 = .kConnectionLimitReached →
      ∃ n ∈ cfg.maxActiveRequestsPerConnection_,
        n ≤ (s.unansweredFrames fun inv => decide (inv.conn = conn)).card

/-- The slots of a connection are the entries of its inner map. -/
theorem find?_of_mem_innerKeys {reg : CancellationRegistry} {c : ConnId} {i : UInt64}
    (h : i ∈ reg.cancellations_.innerKeys c) : ∃ t, reg.find? c i = some t := by
  unfold Finmap.innerKeys at h
  unfold CancellationRegistry.find?
  cases hlookup : reg.cancellations_.lookup c with
  | none =>
    rw [hlookup] at h
    exact absurd h (Finset.notMem_empty i)
  | some requests =>
    rw [hlookup] at h
    exact Finmap.mem_iff.mp (Finmap.mem_keys.mp h)

/-- **No slot leaks**, in every run: a slot of the limits on active requests is held for an
invocation that can still be answered, on a connection that is up. -/
theorem slotsReleased_of_reachable (h : (machine cfg).Reachable s) : SlotsReleased cfg s := by
  have hslots := slots_of_reachable h
  have htokens := (laws_of_reachable h).tokens
  have hlimits := registryLimits_of_reachable h
  have hheld : ∀ c i t, s.cancellationRegistry_.find? c i = some t → ∃ inv ∈ s.unanswered,
      inv.frame = t ∧ inv.conn = c ∧ inv.request.requestId_ = i := by
    intro c i t hfound
    obtain ⟨inv, hframe, hconn, hid, hinv⟩ := hslots.held c i t hfound
    exact ⟨inv, mem_unanswered.mpr hinv, hframe, hconn, hid⟩
  -- the frame of a slot is among those of the invocations it may be held for
  have hframes : ∀ (p : Invocation → Bool) c i, (∀ inv : Invocation, inv.conn = c → p inv = true) →
      (∃ t, s.cancellationRegistry_.find? c i = some t) →
        ∃ t ∈ s.unansweredFrames p, s.cancellationRegistry_.find? c i = some t := by
    intro p c i hp ⟨t, hfound⟩
    obtain ⟨inv, hmem, rfl, hconn, -⟩ := hheld c i t hfound
    refine ⟨inv.frame, List.mem_toFinset.mpr (List.mem_map_of_mem ?_), hfound⟩
    exact List.mem_filter.mpr ⟨hmem, hp inv hconn⟩
  have htotal : s.cancellationRegistry_.total ≤ (s.unansweredFrames fun _ => true).card := by
    refine card_slots_le id Function.injective_id htokens fun ⟨c, i⟩ hmem => ?_
    refine hframes _ c i (fun _ _ => rfl) ?_
    obtain ⟨t, ht⟩ := Finmap.mem_iff.mp (Finmap.mem_keys.mp hmem)
    exact ⟨t, (CancellationRegistry.find?_eq_lookup _ c i).trans ht⟩
  have hcount : ∀ c, s.cancellationRegistry_.count c ≤
      (s.unansweredFrames fun inv => decide (inv.conn = c)).card := by
    intro c
    refine card_slots_le (Prod.mk c) (Prod.mk_right_injective c) htokens fun i hmem => ?_
    exact hframes _ c i (fun inv hconn => decide_eq_true hconn) (find?_of_mem_innerKeys hmem)
  refine ⟨hslots.up, hheld, htotal, hcount, fun conn id token hstatus => ?_,
    fun conn id token hstatus => ?_⟩
  · obtain ⟨n, hn, hle⟩ := reached_of_globalLimit hstatus
    exact ⟨n, hlimits.1 ▸ hn, hle.trans htotal⟩
  · obtain ⟨n, hn, hle⟩ := reached_of_connectionLimit hstatus
    exact ⟨n, hlimits.2 ▸ hn, hle.trans (hcount conn)⟩

/-- A request whose reply object was called, with its reply on the way. -/
theorem slotsReleased_of_reachable_replying :
    let s := (machine asyncServer).after [.start, .connectionUp 3,
      .deliver 3 asyncRequest.fields.flatten none, .submit 0, .handlerReturns 0,
      .reply (asyncInvocation 0) (succeed (text "a"))]
    s.cancellationRegistry_.find? 3 5 = some 0 ∧ SlotsReleased asyncServer s :=
  ⟨by decide, slotsReleased_of_reachable (Machine.reachable_after _)⟩

end MiniRpc.RpcServer
