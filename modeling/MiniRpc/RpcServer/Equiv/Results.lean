import MiniRpc.RpcServer.Equiv.Once
import MiniRpc.RpcServer.Equiv.Served

/-!
# Every frame is finished once

* `Owned`: a token in the registry is that of a request received on the connection of its entry.
* `Results`: for each frame at most one result is on record, of the synchronous handler or of the
  first call of the reply object; as long as the flag of a reply object is not set there is none.
-/

namespace MiniRpc.RpcServer

variable {cfg : Config} {proper network : Prop} {s s' : State} {phase phase' : Phase}
  {inv : Invocation}

/-! ### The owner of a token -/

/-- The tokens in the registry belong to requests of the connections they are registered for. -/
def Owned (s : State) : Prop :=
  ∀ c i t, s.cancellationRegistry_.find? c i = some t →
    ∃ request, .requestReceived t c request ∈ s.trace

theorem owned_init : Owned (.init cfg) := fun c i t h => by
  cases (CancellationRegistry.find?_init _ _ c i).symm.trans h

/-- An entry of the registry was just registered or was there before. -/
theorem Transition.entry (ht : Transition cfg proper network (s, phase) (s', phase'))
    {c : ConnId} {i : UInt64} {t : TokenId} (h : s'.cancellationRegistry_.find? c i = some t) :
    s.cancellationRegistry_.find? c i = some t ∨
      ∃ request, phase = .received t c request ∧ request.requestId_ = i := by
  cases ht with
  | register _ _ _ hfind =>
    rw [hfind] at h
    split_ifs at h with hmatch
    · obtain rfl := Option.some.inj h
      exact .inr ⟨_, by rw [hmatch.1], hmatch.2.symm⟩
    · exact .inl h
  | cancel _ _ hfind | takeCanceled _ _ _ hfind | take _ _ _ hfind =>
    rw [hfind] at h
    split_ifs at h
    exact .inl h
  | down =>
    rw [CancellationRegistry.find?_clear] at h
    split_ifs at h
    exact .inl h
  | _ => exact .inl h

theorem Owned.step (h : Owned s) (hserved : Served cfg s phase)
    (ht : Transition cfg proper network (s, phase) (s', phase')) : Owned s' := by
  intro c i t hfound
  rcases ht.entry hfound with hold | ⟨request, hphase, -⟩
  · obtain ⟨request, hmem⟩ := h c i t hold
    exact ⟨request, ht.trace_subset hmem⟩
  · exact ⟨request, ht.trace_subset (hserved.received _ _ _ hphase)⟩

/-! ### Results on record -/

/-- The handler of a synchronous method returns. -/
structure FinishesSync (s s' : State) (phase phase' : Phase) (n : FrameId) : Prop where
  received : ∃ conn request, phase = .received n conn request
  bound : phase'.bound s'.nextFrame = s.nextFrame
  invocation : ∀ inv, s'.Waiting inv ∨ s'.Started inv → s.Waiting inv ∨ s.Started inv
  flags : s'.repliedFlags = s.repliedFlags

/-- The reply object of an invocation is called for the first time. -/
structure FinishesAsync (s s' : State) (phase phase' : Phase) (n : FrameId) (o : Option RpcResult) :
    Prop where
  result : ∃ r, o = some r
  invocation : ∃ inv : Invocation, inv.frame = n ∧ (s.Waiting inv ∨ s.Started inv)
  idle : phase = .idle
  bound : phase'.bound s'.nextFrame = s.nextFrame
  flag : n ∉ s.repliedFlags
  flags : s'.repliedFlags = insert n s.repliedFlags

theorem mem_cons_finished {trace : List Event} {n n' : FrameId} {o o' : Option RpcResult} :
    .finished n' o' ∈ .finished n o :: trace ↔ n' = n ∧ o' = o ∨ .finished n' o' ∈ trace := by
  rw [List.mem_cons, Event.finished.injEq]

/-- A transition records one result or none. -/
theorem Transition.finished (ht : Transition cfg proper network (s, phase) (s', phase')) :
    ((∀ n o, .finished n o ∈ s'.trace ↔ .finished n o ∈ s.trace) ∧
      s'.repliedFlags = s.repliedFlags) ∨
    ∃ n o, (∀ n' o', .finished n' o' ∈ s'.trace ↔ n' = n ∧ o' = o ∨ .finished n' o' ∈ s.trace) ∧
      (FinishesSync s s' phase phase' n ∨ FinishesAsync s s' phase phase' n o) := by
  -- An event that is no result changes nothing.
  have hskip : ∀ {e : Event} {trace : List Event}, (∀ n o, e ≠ .finished n o) → ∀ n o,
      .finished n o ∈ e :: trace ↔ .finished n o ∈ trace := fun hne n o => by
    rw [List.mem_cons, or_iff_right (hne n o).symm]
  cases ht with
  | @invokeSync _ frame conn request handler outcome =>
    refine .inr ⟨frame, outcome, fun n' o' => ?_, .inl ⟨⟨_, _, rfl⟩, rfl, fun _ => id, rfl⟩⟩
    rw [mem_cons_finished, hskip (e := .invoked _ _ _ _) nofun]
  | @refuse _ inv t rest running r hr hflag hrunning =>
    refine .inr ⟨inv.frame, some r, fun n' o' => ?_, .inr ⟨⟨r, rfl⟩, ⟨inv, rfl, .inl ?_⟩,
      rfl, rfl, hflag, rfl⟩⟩
    · rw [mem_cons_finished, hskip (e := .rejected _ _ _) nofun]
    · exact .inl ⟨_, mem_head hrunning⟩
  | @handlerThrows _ inv t rest running hflag hrunning =>
    refine .inr ⟨inv.frame, _, fun _ _ => mem_cons_finished, .inr ⟨⟨_, rfl⟩, ⟨inv, rfl, .inr ?_⟩,
      rfl, rfl, hflag, rfl⟩⟩
    exact .inl ⟨_, mem_head hrunning⟩
  | @userReply _ inv r hinv hflag =>
    exact .inr ⟨inv.frame, some r, fun _ _ => mem_cons_finished, .inr ⟨⟨r, rfl⟩,
      ⟨inv, rfl, .inr (.inr hinv)⟩, rfl, rfl, hflag, rfl⟩⟩
  | refuseDuplicate =>
    refine .inl ⟨fun n o => ?_, rfl⟩
    exact (hskip (e := .forceClosed _) nofun n o).trans (hskip (e := .rejected _ _ _) nofun n o)
  | receive | refuseLimit | respond | close | cancel | cancelNone | startHandler | refuseReplied
  | workerTake | forceClose | down | stopCompleted =>
    refine .inl ⟨hskip ?_, rfl⟩
    exact nofun
  | _ => exact .inl ⟨fun _ _ => .rfl, rfl⟩

/-- What is on record about the results of the frames. -/
structure Results (s : State) (phase : Phase) : Prop where
  bound : ∀ n o, .finished n o ∈ s.trace → n < phase.bound s.nextFrame
  flagged : ∀ n ∈ s.repliedFlags, ∃ r, .finished n (some r) ∈ s.trace
  waits : ∀ inv : Invocation, s.Waiting inv ∨ s.Started inv → inv.frame ∉ s.repliedFlags →
    ∀ o, .finished inv.frame o ∉ s.trace
  once : ∀ n o o', .finished n o ∈ s.trace → .finished n o' ∈ s.trace → o = o'

theorem results_init : Results (.init cfg) .idle where
  bound _ _ h := by cases h
  flagged n h := absurd h (Finset.notMem_empty n)
  waits _ _ _ _ h := by cases h
  once _ _ _ h := by cases h

/-- The frame that is being dispatched has no invocation yet. -/
theorem frame_ne_of_received {n : FrameId} {conn : ConnId} {request : RpcRequest}
    (hplaced : Placed (isFrame n) s (.received n conn request))
    (hnumbered : Numbered s.nextFrame s.trace) (hserved : Served cfg s phase)
    (hinv : s.Waiting inv ∨ s.Started inv) : inv.frame ≠ n := by
  rintro rfl
  have honce := hnumbered.once inv.frame
  have hself : isFrame inv.frame inv.frame inv.conn inv.request = true := decide_eq_true rfl
  have hdispatching : (Phase.received inv.frame conn request).dispatching (isFrame inv.frame) = 1 :=
    if_pos (decide_eq_true rfl)
  unfold Placed place at hplaced
  rcases hinv with (⟨t, hmem⟩ | hmem) | hstarted
  · have hpos : 0 < s.running.countP (submits (isFrame inv.frame)) :=
      List.countP_pos_iff.mpr ⟨_, hmem, hself⟩
    omega
  · have hpos : 0 < (poolTasks s.taskPool_).countP (·.satisfies (isFrame inv.frame)) :=
      List.countP_pos_iff.mpr ⟨_, hmem, hself⟩
    omega
  · have hpos : 0 < invoked (isFrame inv.frame) s.trace :=
      List.countP_pos_iff.mpr ⟨_, (hserved.started inv hstarted).2, hself⟩
    omega

/-- The number of a frame that was received is below the next one. -/
theorem Numbered.lt_of_mem {nextFrame : FrameId} {trace : List Event}
    (h : Numbered nextFrame trace) {n : FrameId} {conn : ConnId} {request : RpcRequest}
    (hmem : .requestReceived n conn request ∈ trace) : n < nextFrame := by
  by_contra hle
  have hzero := h.fresh n (Nat.not_lt.mp hle)
  have hpos : 0 < received (isFrame n) trace :=
    List.countP_pos_iff.mpr ⟨_, hmem, decide_eq_true rfl⟩
  omega

theorem Served.known (h : Served cfg s phase) (hinv : s.Waiting inv ∨ s.Started inv) :
    inv.Known cfg s.trace :=
  hinv.elim (h.waiting inv) fun hstarted => (h.started inv hstarted).1

theorem Transition.bound_le (ht : Transition cfg proper network (s, phase) (s', phase'))
    (htokens : Tokens s.cancellationRegistry_ s.nextFrame phase) :
    phase.bound s.nextFrame ≤ phase'.bound s'.nextFrame := by
  cases ht with
  | invokeSync | unknownMethod | refuseLimit | refuseDuplicate | register =>
    exact (htokens.frame _ _ _ rfl).le
  | _ => exact le_rfl

/-- A result that is recorded for a frame without one is its only result. -/
theorem once_of_fresh {trace trace' : List Event} {n n' : FrameId} {o o₁ o₂ : Option RpcResult}
    (hnew : ∀ n' o', .finished n' o' ∈ trace' ↔ n' = n ∧ o' = o ∨ .finished n' o' ∈ trace)
    (hfresh : ∀ o', .finished n o' ∉ trace)
    (honce : ∀ n o o', .finished n o ∈ trace → .finished n o' ∈ trace → o = o')
    (h₁ : .finished n' o₁ ∈ trace') (h₂ : .finished n' o₂ ∈ trace') : o₁ = o₂ := by
  rcases (hnew n' o₁).mp h₁ with ⟨hn₁, ho₁⟩ | h₁ <;> rcases (hnew n' o₂).mp h₂ with ⟨hn₂, ho₂⟩ | h₂
  · exact ho₁.trans ho₂.symm
  · exact absurd (hn₁ ▸ h₂) (hfresh o₂)
  · exact absurd (hn₂ ▸ h₁) (hfresh o₁)
  · exact honce n' o₁ o₂ h₁ h₂

theorem Results.step (h : Results s phase) (hserved : Served cfg s phase)
    (htokens : Tokens s.cancellationRegistry_ s.nextFrame phase)
    (hnumbered : Numbered s.nextFrame s.trace) (hplaced : ∀ n, Placed (isFrame n) s phase)
    (ht : Transition cfg proper network (s, phase) (s', phase')) : Results s' phase' := by
  have hbound := ht.bound_le htokens
  -- An invocation was there before, or its frame is the one being dispatched.
  have hinvocation : ∀ inv : Invocation, s'.Waiting inv ∨ s'.Started inv →
      (s.Waiting inv ∨ s.Started inv) ∨
        ∃ conn request, phase = .received inv.frame conn request := by
    rintro inv (hinv | hinv)
    · rcases ht.waiting hinv with hold | ⟨hphase, -, -⟩
      · exact .inl (.inl hold)
      · exact .inr ⟨_, _, hphase⟩
    · rcases ht.started hinv with hold | ⟨hold, -⟩
      · exact .inl (.inr hold)
      · exact .inl (.inl hold)
  rcases ht.finished with ⟨hsame, hflags⟩ | ⟨n, o, hnew, hsync | hasync⟩
  · -- No result is recorded.
    refine ⟨fun n o hmem => (h.bound n o ((hsame n o).mp hmem)).trans_le hbound, fun n hn => ?_,
      fun inv hinv hflag o hmem => ?_, fun n o o' hmem hmem' => ?_⟩
    · obtain ⟨r, hr⟩ := h.flagged n (hflags ▸ hn)
      exact ⟨r, (hsame n _).mpr hr⟩
    · have hmem := (hsame inv.frame o).mp hmem
      rcases hinvocation inv hinv with hold | ⟨conn, request, hphase⟩
      · exact h.waits inv hold (hflags ▸ hflag) o hmem
      · have hlt := h.bound _ _ hmem
        rw [hphase] at hlt
        exact Nat.lt_irrefl _ hlt
    · exact h.once n o o' ((hsame n o).mp hmem) ((hsame n o').mp hmem')
  · -- A synchronous handler returns: its frame had no result and has no invocation.
    obtain ⟨conn, request, hphase⟩ := hsync.received
    subst hphase
    have hfresh : ∀ o', .finished n o' ∉ s.trace := fun o' hmem =>
      Nat.lt_irrefl n (h.bound n o' hmem)
    refine ⟨fun n' o' hmem => ?_, fun n' hn' => ?_, fun inv hinv hflag o' hmem => ?_,
      fun n' o₁ o₂ hmem₁ hmem₂ => ?_⟩
    · rcases (hnew n' o').mp hmem with ⟨rfl, rfl⟩ | hmem
      · rw [hsync.bound]
        exact htokens.frame _ _ _ rfl
      · exact (h.bound n' o' hmem).trans_le hbound
    · obtain ⟨r, hr⟩ := h.flagged n' (hsync.flags ▸ hn')
      exact ⟨r, (hnew n' _).mpr (.inr hr)⟩
    · have hold := hsync.invocation inv hinv
      rcases (hnew _ o').mp hmem with ⟨heq, rfl⟩ | hmem
      · exact frame_ne_of_received (hplaced n) hnumbered hserved hold heq
      · exact h.waits inv hold (hsync.flags ▸ hflag) o' hmem
    · exact once_of_fresh hnew hfresh h.once hmem₁ hmem₂
  · -- A reply object is called for the first time: its frame had no result.
    obtain ⟨r, rfl⟩ := hasync.result
    obtain ⟨inv₀, rfl, hinv₀⟩ := hasync.invocation
    obtain rfl := hasync.idle
    have hfresh : ∀ o', .finished inv₀.frame o' ∉ s.trace := h.waits inv₀ hinv₀ hasync.flag
    refine ⟨fun n' o' hmem => ?_, fun n' hn' => ?_, fun inv hinv hflag o' hmem => ?_,
      fun n' o₁ o₂ hmem₁ hmem₂ => ?_⟩
    · rcases (hnew n' o').mp hmem with ⟨rfl, rfl⟩ | hmem
      · rw [hasync.bound]
        exact hnumbered.lt_of_mem (hserved.known hinv₀).received
      · exact (h.bound n' o' hmem).trans_le hbound
    · rw [hasync.flags, Finset.mem_insert] at hn'
      rcases hn' with rfl | hn'
      · exact ⟨r, (hnew _ _).mpr (.inl ⟨rfl, rfl⟩)⟩
      · obtain ⟨r', hr'⟩ := h.flagged n' hn'
        exact ⟨r', (hnew n' _).mpr (.inr hr')⟩
    · rw [hasync.flags, Finset.mem_insert, not_or] at hflag
      have hmem := ((hnew _ o').mp hmem).resolve_left fun heq => hflag.1 heq.1
      rcases hinvocation inv hinv with hold | ⟨_, _, hphase⟩
      · exact h.waits inv hold hflag.2 o' hmem
      · cases hphase
    · exact once_of_fresh hnew hfresh h.once hmem₁ hmem₂

/-! ### Every run -/

/-- The laws of a server together, between the transitions of a step. -/
structure Laws (cfg : Config) (s : State) (phase : Phase) : Prop where
  served : Served cfg s phase
  tokens : Tokens s.cancellationRegistry_ s.nextFrame phase
  numbered : Numbered s.nextFrame s.trace
  placed : ∀ n, Placed (isFrame n) s phase
  owned : Owned s
  results : Results s phase

theorem Laws.step (h : Laws cfg s phase)
    (ht : Transition cfg proper network (s, phase) (s', phase')) : Laws cfg s' phase' where
  served := h.served.step ht
  tokens := h.tokens.step ht
  numbered := h.numbered.step ht
  placed n := (h.placed n).step ht
  owned := h.owned.step h.served ht
  results := h.results.step h.served h.tokens h.numbered h.placed ht

theorem laws_of_reachable (h : (machine cfg).Reachable s) : Laws cfg s .idle := by
  refine invariant (P := fun x => Laws cfg x.1 x.2) ?_ (fun _ _ hlaws ht => hlaws.step ht) h
  exact ⟨served_init, tokens_init, ⟨fun _ _ => rfl, fun _ => Nat.zero_le 1⟩, fun _ => placed_init,
    owned_init, results_init⟩

end MiniRpc.RpcServer
