import MiniRpc.RpcClient.Equiv.Budget

/-!
# The timers of the pending requests

The live timers are the timers of the pending requests: each live timer is entered in the request it
is for, and a request's timer is live, for its phase, and due a full timeout after the request was
last sent.  So a timer never fires for a request that is gone or in the other phase.
-/

namespace MiniRpc.RpcClient

variable {cfg : Config} {proper network : Prop} {s s' : State} {id : UInt64} {p : PendingRequest}

/-- The request a timer is for. -/
def TimerTask.requestId : TimerTask → UInt64
  | .onRequestTimeout requestId => requestId
  | .onReconnectTimeout requestId => requestId

/-- When the latest request frame of the id was sent. -/
def lastSent : List Event → UInt64 → Option ℕ
  | [], _ => none
  | .requestSent _ requestId _ _ time :: trace, id =>
    if requestId = id then some time else lastSent trace id
  | .requestResent _ requestId _ time :: trace, id =>
    if requestId = id then some time else lastSent trace id
  | _ :: trace, id => lastSent trace id

/-- The timer of a pending request. -/
structure TimerOk (timers : Finmap fun _ : TimerId => Timer TimerTask) (sent : Option ℕ)
    (id : UInt64) (p : PendingRequest) : Prop where
  request : p.phase = .kWaitingResponse → 0 < p.requestTimeout → ∃ t time,
    p.timerId = some t ∧ sent = some time ∧
      timers.lookup t = some ⟨time + p.requestTimeout, .onRequestTimeout id⟩
  no_timeout : p.phase = .kWaitingResponse → p.requestTimeout = 0 → p.timerId = none
  reconnect : p.phase = .kWaitingReconnect → ∃ t deadline,
    p.timerId = some t ∧ timers.lookup t = some ⟨deadline, .onReconnectTimeout id⟩

/-- The live timers are the timers of the pending requests. -/
structure Timers (s : State) : Prop where
  entries : ∀ id p, s.pendingRequests_.lookup id = some p →
    TimerOk s.loop_.timers (lastSent s.trace id) id p
  live : ∀ t timer, s.loop_.timers.lookup t = some timer →
    ∃ p, s.pendingRequests_.lookup timer.task.requestId = some p ∧ p.timerId = some t

theorem timers_init : Timers .init where
  entries id _ h := by cases (Finmap.lookup_empty id).symm.trans h
  live t _ h := by cases (Finmap.lookup_empty t).symm.trans h

/-- The timer entered in a request is live and for its phase. -/
theorem TimerOk.timer {timers : Finmap fun _ : TimerId => Timer TimerTask} {sent : Option ℕ}
    (h : TimerOk timers sent id p) {t : TimerId} (ht : p.timerId = some t) :
    ∃ timer, timers.lookup t = some timer ∧
      timer.task = match p.phase with
        | .kWaitingResponse => .onRequestTimeout id
        | .kWaitingReconnect => .onReconnectTimeout id := by
  cases hphase : p.phase with
  | kWaitingResponse =>
    rcases Nat.eq_zero_or_pos p.requestTimeout with hzero | hpos
    · cases (h.no_timeout hphase hzero).symm.trans ht
    · obtain ⟨u, time, hu, _, hlookup⟩ := h.request hphase hpos
      obtain rfl : u = t := Option.some.inj (hu.symm.trans ht)
      exact ⟨_, hlookup, rfl⟩
  | kWaitingReconnect =>
    obtain ⟨u, deadline, hu, hlookup⟩ := h.reconnect hphase
    obtain rfl : u = t := Option.some.inj (hu.symm.trans ht)
    exact ⟨_, hlookup, rfl⟩

/-- The timer of a request carries its id. -/
theorem TimerOk.requestId {timers : Finmap fun _ : TimerId => Timer TimerTask} {sent : Option ℕ}
    (h : TimerOk timers sent id p) {t : TimerId} (ht : p.timerId = some t) :
    ∃ timer, timers.lookup t = some timer ∧ timer.task.requestId = id := by
  obtain ⟨timer, hlookup, htask⟩ := h.timer ht
  refine ⟨timer, hlookup, ?_⟩
  rw [htask]
  cases p.phase <;> rfl

/-- The timers other than `old` are still there. -/
theorem TimerOk.keep {timers timers' : Finmap fun _ : TimerId => Timer TimerTask} {sent : Option ℕ}
    (h : TimerOk timers sent id p)
    (hkeep : ∀ t timer, p.timerId = some t → timers.lookup t = some timer →
      timers'.lookup t = some timer) : TimerOk timers' sent id p where
  request hphase hpos := by
    obtain ⟨t, time, ht, hsent, hlookup⟩ := h.request hphase hpos
    exact ⟨t, time, ht, hsent, hkeep t _ ht hlookup⟩
  no_timeout := h.no_timeout
  reconnect hphase := by
    obtain ⟨t, deadline, ht, hlookup⟩ := h.reconnect hphase
    exact ⟨t, deadline, ht, hkeep t _ ht hlookup⟩

/-- The request `id` and its timer `old` change; the other requests and their timers stay. -/
theorem Timers.update (h : Timers s) (id : UInt64) (old : Option TimerId)
    (hold : (s.pendingRequests_.lookup id).bind PendingRequest.timerId = old)
    (hpending : ∀ id', id' ≠ id → s'.pendingRequests_.lookup id' = s.pendingRequests_.lookup id')
    (hsent : ∀ id', id' ≠ id → lastSent s'.trace id' = lastSent s.trace id')
    (hkeep : ∀ t timer, s.loop_.timers.lookup t = some timer → old ≠ some t →
      s'.loop_.timers.lookup t = some timer)
    (hback : ∀ t timer, s'.loop_.timers.lookup t = some timer →
      (∃ q, s'.pendingRequests_.lookup timer.task.requestId = some q ∧ q.timerId = some t) ∨
        (old ≠ some t ∧ s.loop_.timers.lookup t = some timer))
    (hentry : ∀ q, s'.pendingRequests_.lookup id = some q →
      TimerOk s'.loop_.timers (lastSent s'.trace id) id q) : Timers s' where
  entries id' p' hp' := by
    by_cases hid : id' = id
    · subst hid
      exact hentry p' hp'
    · rw [hpending id' hid] at hp'
      have hentry' := h.entries id' p' hp'
      rw [hsent id' hid]
      refine hentry'.keep fun t timer ht hlookup => hkeep t timer hlookup fun hmine => ?_
      -- `old` carries `id`, the timer of another request its own id.
      rw [← hold, Option.bind_eq_some_iff] at hmine
      obtain ⟨p, hp, hpt⟩ := hmine
      obtain ⟨timer₁, hlookup₁, hid₁⟩ := (h.entries id p hp).requestId hpt
      obtain ⟨timer₂, hlookup₂, hid₂⟩ := hentry'.requestId ht
      obtain rfl := Option.some.inj (hlookup₁.symm.trans hlookup₂)
      exact hid (hid₂.symm.trans hid₁)
  live t timer ht := by
    rcases hback t timer ht with hnew | ⟨hne, hlookup⟩
    · exact hnew
    · obtain ⟨p, hp, hpt⟩ := h.live t timer hlookup
      have hid : timer.task.requestId ≠ id := fun heq => hne (by rw [← hold, ← heq, hp]; exact hpt)
      exact ⟨p, (hpending _ hid).trans hp, hpt⟩

/-- A request leaves with its timer. -/
theorem Timers.erase (h : Timers s) (hp : s.pendingRequests_.lookup id = some p)
    (hpending : s'.pendingRequests_ = s.pendingRequests_.erase id)
    (hloop : s'.loop_.timers = (s.loop_.cancelIfSet p.timerId).timers)
    (hsent : ∀ id', lastSent s'.trace id' = lastSent s.trace id') : Timers s' := by
  refine h.update id p.timerId (by rw [hp]; rfl) (fun id' hid => ?_)
    (fun id' _ => hsent id') (fun t timer ht hne => ?_) (fun t timer ht => .inr ?_) fun q hq => ?_
  · rw [hpending, Finmap.lookup_erase_ne hid]
  · rw [hloop, EventLoop.lookup_cancelIfSet_of_ne _ hne, ht]
  · rw [hloop] at ht
    exact EventLoop.lookup_of_cancelIfSet _ ht
  · rw [hpending, Finmap.lookup_erase] at hq
    cases hq

/-- A due timer is the timer of the request it is for. -/
theorem Timers.timerId_eq (h : Timers s) {t : TimerId} {timer : Timer TimerTask}
    (ht : s.loop_.timers.lookup t = some timer)
    (hp : s.pendingRequests_.lookup timer.task.requestId = some p) : p.timerId = some t := by
  obtain ⟨q, hq, hqt⟩ := h.live t timer ht
  obtain rfl : p = q := Option.some.inj (hp.symm.trans hq)
  exact hqt

/-- The request timer of a request just sent. -/
theorem timerOk_of_sent (loop : EventLoop TimerTask LoopTask) (id : UInt64) {q : PendingRequest}
    (hphase : q.phase = .kWaitingResponse)
    (htimer : q.timerId = (loop.runAfterIfPos q.requestTimeout (.onRequestTimeout id)).2) :
    TimerOk (loop.runAfterIfPos q.requestTimeout (.onRequestTimeout id)).1.timers (some loop.now)
      id q where
  request _ hpos := by
    obtain ⟨t, ht, hlookup⟩ := loop.runAfterIfPos_of_pos hpos (.onRequestTimeout id)
    exact ⟨t, loop.now, htimer.trans ht, rfl, hlookup⟩
  no_timeout _ hzero := by
    rw [htimer, hzero]
    rfl
  reconnect hreconnect := by cases hphase.symm.trans hreconnect

/-- The reconnect timer of a request that waits. -/
theorem timerOk_of_waiting (loop : EventLoop TimerTask LoopTask) (sent : Option ℕ) (id : UInt64)
    {q : PendingRequest} (hphase : q.phase = .kWaitingReconnect)
    (htimer : q.timerId = some loop.nextTimerId) :
    TimerOk (loop.runAfter q.reconnectTimeout (.onReconnectTimeout id)).timers sent id q where
  request hresponse := by cases hphase.symm.trans hresponse
  no_timeout hresponse := by cases hphase.symm.trans hresponse
  reconnect _ := ⟨_, _, htimer, loop.lookup_runAfter_self _ _⟩

/-- A pending request gets a new reconnect timer. -/
theorem Timers.wait (h : Timers s) {q : PendingRequest}
    (hp : s.pendingRequests_.lookup id = some p) (hphase : q.phase = .kWaitingReconnect)
    (htimer : q.timerId = some s.loop_.nextTimerId)
    (hpending : s'.pendingRequests_ = s.pendingRequests_.insert id q)
    (hloop : s'.loop_ = (s.loop_.cancelIfSet p.timerId).runAfter q.reconnectTimeout
      (.onReconnectTimeout id))
    (hsent : ∀ id', lastSent s'.trace id' = lastSent s.trace id') : Timers s' := by
  refine h.update id p.timerId (by rw [hp]; rfl) (fun id' hid => ?_)
    (fun id' _ => hsent id') (fun t timer ht hne => ?_) (fun t timer ht => ?_) fun q' hq' => ?_
  · rw [hpending, Finmap.lookup_insert_of_ne _ hid]
  · rw [hloop]
    exact EventLoop.lookup_runAfter_of_live _ _ _
      ((EventLoop.lookup_cancelIfSet_of_ne _ hne).trans ht)
  · rw [hloop] at ht
    rcases EventLoop.lookup_of_runAfter _ ht with ⟨hnew, rfl⟩ | hold
    · refine .inl ⟨q, ?_, ?_⟩
      · rw [hpending]
        exact Finmap.lookup_insert _
      · rw [htimer, hnew, EventLoop.nextTimerId_cancelIfSet]
    · exact .inr (EventLoop.lookup_of_cancelIfSet _ hold)
  · rw [hpending, Finmap.lookup_insert] at hq'
    obtain rfl := Option.some.inj hq'
    rw [hloop]
    exact timerOk_of_waiting _ _ id hphase
      (htimer.trans (congrArg some (EventLoop.nextTimerId_cancelIfSet _ _).symm))

/-- The request of an id is sent, with a new request timer; `old` was its timer. -/
theorem Timers.send (h : Timers s) (id : UInt64) (old : Option TimerId) {q : PendingRequest}
    (hold : (s.pendingRequests_.lookup id).bind PendingRequest.timerId = old)
    (hphase : q.phase = .kWaitingResponse)
    (htimer : q.timerId = ((s.loop_.cancelIfSet old).runAfterIfPos q.requestTimeout
      (.onRequestTimeout id)).2)
    (hpending : s'.pendingRequests_ = s.pendingRequests_.insert id q)
    (hloop : s'.loop_ = ((s.loop_.cancelIfSet old).runAfterIfPos q.requestTimeout
      (.onRequestTimeout id)).1)
    (hsent : lastSent s'.trace id = some s.now)
    (hsent' : ∀ id', id' ≠ id → lastSent s'.trace id' = lastSent s.trace id') : Timers s' := by
  refine h.update id old hold (fun id' hid => ?_) hsent' (fun t timer ht hne => ?_)
    (fun t timer ht => ?_) fun q' hq' => ?_
  · rw [hpending, Finmap.lookup_insert_of_ne _ hid]
  · rw [hloop]
    exact EventLoop.lookup_runAfterIfPos_of_live _ _ _
      ((EventLoop.lookup_cancelIfSet_of_ne _ hne).trans ht)
  · rw [hloop] at ht
    rcases EventLoop.lookup_of_runAfterIfPos _ ht with ⟨hnew, rfl⟩ | hback
    · refine .inl ⟨q, ?_, htimer.trans hnew⟩
      rw [hpending]
      exact Finmap.lookup_insert _
    · exact .inr (EventLoop.lookup_of_cancelIfSet _ hback)
  · rw [hpending, Finmap.lookup_insert] at hq'
    obtain rfl := Option.some.inj hq'
    rw [hloop, hsent]
    have hok := timerOk_of_sent (s.loop_.cancelIfSet old) id hphase htimer
    rw [EventLoop.now_cancelIfSet] at hok
    exact hok

/-- A timer that fires finds its request in the phase it was armed for. -/
theorem Timers.not_stray (h : Timers s) {t : TimerId} {timer : Timer TimerTask}
    (ht : s.loop_.timers.lookup t = some timer) :
    ∃ p, s.pendingRequests_.lookup timer.task.requestId = some p ∧ p.timerId = some t ∧
      timer.task = match p.phase with
        | .kWaitingResponse => .onRequestTimeout timer.task.requestId
        | .kWaitingReconnect => .onReconnectTimeout timer.task.requestId := by
  obtain ⟨p, hp, hpt⟩ := h.live t timer ht
  obtain ⟨timer', hlookup, htask⟩ := (h.entries _ p hp).timer hpt
  obtain rfl : timer = timer' := Option.some.inj (ht.symm.trans hlookup)
  exact ⟨p, hp, hpt, htask⟩

theorem Timers.step (h : Timers s) (hledger : Ledger s) (ht : Transition cfg proper network s s') :
    Timers s' := by
  have hcancel : ∀ {t : TimerId} {timer : Timer TimerTask} {p : PendingRequest},
      s.loop_.timers.lookup t = some timer →
      s.pendingRequests_.lookup timer.task.requestId = some p →
      s.loop_.cancel t = s.loop_.cancelIfSet p.timerId := fun ht hp => by
    rw [h.timerId_eq ht hp]
    rfl
  cases ht with
  | @accept id a calling conn hcalling =>
    have hnone : s.pendingRequests_.lookup id = none :=
      Finmap.lookup_eq_none.mpr (hledger.not_mem_of_calling (hcalling ▸ List.mem_cons_self))
    refine h.send id none (by rw [hnone]; rfl) rfl rfl rfl rfl ?_ fun id' hid => ?_
    · simp only [lastSent, if_true]
    · simp only [lastSent, if_neg (Ne.symm hid)]
  | lose _ _ _ hp | respond _ hp | cancel hp | resendFailed _ _ _ hp =>
    exact h.erase hp rfl rfl fun _ => rfl
  | timeOut ht _ hp | exhaust ht _ hp =>
    exact h.erase hp rfl (congrArg EventLoop.timers (hcancel ht hp)) fun _ => rfl
  | startWait _ hp => exact h.wait hp rfl rfl rfl rfl fun _ => rfl
  | @rearm id p t deadline ht _ hp hphase =>
    refine h.wait (q := rearmedEntry p s.loop_.nextTimerId) hp hphase rfl rfl ?_ fun _ => rfl
    rw [hcancel ht hp]
    rfl
  | @resend conn c id waiting rest p hstack hc hp hphase henc =>
    refine h.send id p.timerId (by rw [hp]; rfl) rfl rfl rfl rfl ?_ fun id' hid => ?_
    · simp only [lastSent, if_true]
    · simp only [lastSent, if_neg (Ne.symm hid)]
  | @stray t timer ht hstray =>
    obtain ⟨p, hp, _, htask⟩ := h.not_stray ht
    exfalso
    cases hphase : p.phase with
    | kWaitingResponse =>
      rw [hphase] at htask
      rw [htask] at hstray
      exact hstray p hp hphase
    | kWaitingReconnect =>
      rw [hphase] at htask
      rw [htask] at hstray
      exact hstray p hp hphase
  | _ => exact ⟨h.entries, h.live⟩

theorem timers_of_reachable (h : (machine cfg).Reachable s) (hcalls : s.nextRequestId_ ≤ 2 ^ 64) :
    Timers s :=
  (invariant_of_bound (P := fun s => Ledger s ∧ Timers s) ⟨ledger_init, timers_init⟩
    (fun _ _ hP hbound ht => ⟨hP.1.step hbound ht, hP.2.step hP.1 ht⟩) h hcalls).2

/-! ### Request timeouts -/

/-- The client fails a call with `REQUEST_TIMEOUT` only when the call has a timeout, which has
passed since its latest frame was sent. -/
def TimedOut (s : State) : Prop :=
  ∀ c ∈ s.takenCallbacks, c.cause ≠ .response → c.response.errorCode_ = .REQUEST_TIMEOUT →
    ∃ a time, acceptedCall s.trace c.requestId = some a ∧ 0 < a.timeout ∧
      lastSent s.trace c.requestId = some time ∧ time + a.timeout ≤ c.time

/-- Nothing is sent again under an id whose callback was taken. -/
theorem Transition.sent_of_taken (ht : Transition cfg proper network s s') (hledger : Ledger s)
    (htaken : 0 < s.taken id) : acceptedCall s'.trace id = acceptedCall s.trace id ∧
      lastSent s'.trace id = lastSent s.trace id := by
  cases ht with
  | @accept id' a calling conn hcalling =>
    have hne : id' ≠ id := fun heq => by
      have hle := hledger.le_one id
      have hpos : 0 < s.calling.countP fun call => call.1 == id :=
        List.countP_pos_iff.mpr ⟨_, hcalling ▸ List.mem_cons_self, beq_iff_eq.mpr heq⟩
      simp only [State.copies] at hle
      omega
    simp only [acceptedCall, lastSent, if_neg hne, and_self]
  | @resend conn c id' waiting rest p hstack hc hp =>
    have hne : id' ≠ id := fun heq => by
      subst heq
      exact hledger.not_mem_of_taken htaken (Finmap.mem_of_lookup_eq_some hp)
    simp only [acceptedCall, lastSent, if_neg hne, and_self]
  | _ => exact ⟨rfl, rfl⟩

theorem PendingRequest.Serves.requestTimeout {a : CallArgs} (h : p.Serves cfg a) :
    p.requestTimeout = a.timeout := by
  unfold PendingRequest.Serves at h
  rw [h]
  rfl

theorem TimedOut.step (h : TimedOut s) (hledger : Ledger s) (hbudget : Budget cfg s)
    (htimers : Timers s) (ht : Transition cfg proper network s s') : TimedOut s' := by
  intro c hc hcause hcode
  rcases ht.mem_takenCallbacks hc with hold | hnew
  · obtain ⟨haccepted, hsent⟩ := ht.sent_of_taken hledger (State.taken_pos hold)
    rw [haccepted, hsent]
    exact h c hold hcause hcode
  · cases hnew with
    | @reject _ _ errorCode _ hreject =>
      obtain rfl : errorCode = .REQUEST_TIMEOUT := hcode
      exact absurd hreject (by decide)
    | @lose _ _ errorCode _ hlose =>
      obtain rfl : errorCode = .REQUEST_TIMEOUT := hcode
      exact absurd hlose (by decide)
    | respond => exact absurd rfl hcause
    | cancel =>
      have hne : RpcErrorCode.REQUEST_CANCELED ≠ .REQUEST_TIMEOUT := by decide
      exact absurd hcode hne
    | exhaust =>
      have hne : RpcErrorCode.RECONNECT_TIMEOUT ≠ .REQUEST_TIMEOUT := by decide
      exact absurd hcode hne
    | resendFailed =>
      have hne : RpcErrorCode.INTERNAL_ERROR ≠ .REQUEST_TIMEOUT := by decide
      exact absurd hcode hne
    | @timeOut id p t deadline htimer hdue hp hphase hignored htrace =>
      obtain ⟨a, haccepted, hbalanced⟩ := hbudget.pending id p hp
      have hentry := htimers.entries id p hp
      have hpt := htimers.timerId_eq htimer hp
      have hpos : 0 < p.requestTimeout := Nat.pos_of_ne_zero fun hzero => by
        cases (hentry.no_timeout hphase hzero).symm.trans hpt
      obtain ⟨u, time, hu, hsent, hlookup⟩ := hentry.request hphase hpos
      obtain rfl : u = t := Option.some.inj (hu.symm.trans hpt)
      have hdeadline : time + p.requestTimeout = deadline :=
        congrArg Timer.deadline (Option.some.inj (hlookup.symm.trans htimer))
      rw [htrace]
      rw [hbalanced.serves.requestTimeout] at hpos hdeadline
      exact ⟨a, time, haccepted, hpos, hsent, hdeadline ▸ hdue⟩

end MiniRpc.RpcClient
