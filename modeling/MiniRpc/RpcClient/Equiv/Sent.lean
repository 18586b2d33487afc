import MiniRpc.RpcClient.Equiv.Budget

/-!
# What is sent and received on a connection

A request is sent at most once on a connection, a cancel only for a request that was given up, and
a request that waits for its response was sent on the connection that is up and has not been
answered there (`Sent`).
-/

namespace MiniRpc.RpcClient

variable {cfg : Config} {proper network : Prop} {s s' : State} {id : UInt64} {p : PendingRequest}

/-! ### Reading the trace -/

/-- The event sends a `Request` frame with this id on `conn`. -/
def Event.sendsRequest (conn : ConnId) (id : UInt64) : Event → Bool
  | .requestSent c requestId _ _ _ => c == conn && requestId == id
  | .requestResent c requestId _ _ => c == conn && requestId == id
  | _ => false

/-- The event sends a `Cancel` frame with this id on `conn`. -/
def Event.sendsCancel (conn : ConnId) (id : UInt64) : Event → Bool
  | .cancelSent c requestId _ => c == conn && requestId == id
  | _ => false

/-- The event is the arrival of a valid response with this id on `conn`. -/
def Event.receives (conn : ConnId) (id : UInt64) : Event → Bool
  | .received c response => c == conn && response.requestId_ == id
  | _ => false

/-- The `Request` frame an event sends, with its connection and its id. -/
def Event.request? : Event → Option (ConnId × UInt64 × Bytes)
  | .requestSent conn requestId _ frame _ => some (conn, requestId, frame)
  | .requestResent conn requestId frame _ => some (conn, requestId, frame)
  | _ => none

def requestsSent (trace : List Event) (conn : ConnId) (id : UInt64) : ℕ :=
  trace.countP (Event.sendsRequest conn id)

def cancelsSent (trace : List Event) (conn : ConnId) (id : UInt64) : ℕ :=
  trace.countP (Event.sendsCancel conn id)

def responsesReceived (trace : List Event) (conn : ConnId) (id : UInt64) : ℕ :=
  trace.countP (Event.receives conn id)

/-- A `Request` frame with this id was sent on `conn`, and no response with this id has arrived on
`conn` since. -/
def unanswered : List Event → ConnId → UInt64 → Bool
  | [], _, _ => false
  | .requestSent c requestId _ _ _ :: trace, conn, id =>
    if c = conn ∧ requestId = id then true else unanswered trace conn id
  | .requestResent c requestId _ _ :: trace, conn, id =>
    if c = conn ∧ requestId = id then true else unanswered trace conn id
  | .received c response :: trace, conn, id =>
    if c = conn ∧ response.requestId_ = id then false else unanswered trace conn id
  | _ :: trace, conn, id => unanswered trace conn id

/-- What is unanswered was sent. -/
theorem requestsSent_pos_of_unanswered {trace : List Event} {conn : ConnId}
    (h : unanswered trace conn id = true) : 0 < requestsSent trace conn id := by
  induction trace with
  | nil => cases h
  | cons e trace ih =>
    unfold requestsSent at ih ⊢
    rw [List.countP_cons]
    cases e with
    | requestSent c requestId a frame time =>
      simp only [unanswered] at h
      split_ifs at h with heq
      · simp [Event.sendsRequest, heq]
      · exact Nat.add_pos_left (ih h) _
    | requestResent c requestId frame time =>
      simp only [unanswered] at h
      split_ifs at h with heq
      · simp [Event.sendsRequest, heq]
      · exact Nat.add_pos_left (ih h) _
    | received c response =>
      simp only [unanswered] at h
      split_ifs at h
      exact Nat.add_pos_left (ih h) _
    | _ => exact Nat.add_pos_left (ih h) _

/-! ### Requests that were sent -/

/-- The id was accepted: it is pending or its callback was taken. -/
def State.Known (s : State) (id : UInt64) : Prop := id ∈ s.pendingRequests_ ∨ 0 < s.taken id

theorem Transition.taken_le (h : Transition cfg proper network s s') (id : UInt64) :
    s.taken id ≤ s'.taken id := by
  rcases h.taken_cases with hperm | ⟨c, htakes⟩
  · exact (hperm.countP_eq _).ge
  · rw [State.taken, State.taken, htakes.perm.countP_eq, countP_requestId_cons]
    exact Nat.le_add_left _ _

/-- A pending request stays pending until its callback is taken. -/
theorem Transition.mem_pending (h : Transition cfg proper network s s')
    (hmem : id ∈ s.pendingRequests_) : s'.Known id := by
  have herase : ∀ {id' : UInt64}, s'.pendingRequests_ = s.pendingRequests_.erase id' →
      0 < s'.taken id' → s'.Known id := fun {id'} hpending htaken => by
    by_cases hid : id = id'
    · exact .inr (hid ▸ htaken)
    · exact .inl (hpending ▸ Finmap.mem_erase.mpr ⟨hid, hmem⟩)
  cases h with
  | accept => exact .inl (Finmap.mem_insert.mpr (.inr hmem))
  | startWait _ hp | rearm _ _ hp | resend _ _ hp =>
    exact .inl (Finmap.mem_insert.mpr (.inr hmem))
  | @lose id' p cs cs' rest errorCode errorMessage hcode hstack hp hcs =>
    refine herase rfl (List.countP_pos_iff.mpr ⟨_, List.mem_append_left _
      (List.mem_append_left _ (hcs.mem_iff.mpr List.mem_cons_self)), beq_self_eq_true _⟩)
  | respond | cancel | timeOut | exhaust | resendFailed =>
    exact herase rfl (List.countP_pos_iff.mpr ⟨_, List.mem_cons_self, beq_self_eq_true _⟩)
  | _ => exact .inl hmem

theorem Transition.known (h : Transition cfg proper network s s') (hknown : s.Known id) :
    s'.Known id :=
  hknown.elim h.mem_pending fun htaken => .inr (htaken.trans_le (h.taken_le id))

/-- An id that is still being called was not accepted. -/
theorem Ledger.not_known_of_calling (h : Ledger s) {call : UInt64 × CallArgs}
    (hcall : call ∈ s.calling) : ¬ s.Known call.1 := by
  rintro (hmem | htaken)
  · exact h.not_mem_of_calling hcall hmem
  · have hle := h.le_one call.1
    have hpos : 0 < s.calling.countP fun other => other.1 == call.1 :=
      List.countP_pos_iff.mpr ⟨call, hcall, beq_self_eq_true call.1⟩
    simp only [State.copies] at hle
    omega

/-! ### Connections that have not come up yet -/

/-- The event is a frame sent or received on `conn`. -/
def Event.isOn (conn : ConnId) : Event → Bool
  | .requestSent c _ _ _ _ => c == conn
  | .requestResent c _ _ _ => c == conn
  | .cancelSent c _ _ => c == conn
  | .received c _ => c == conn
  | _ => false

/-- Whether a frame was sent or received on `conn`. -/
def traffic (trace : List Event) (conn : ConnId) : Bool := trace.any (Event.isOn conn)

/-- Where there was no traffic, nothing was sent and nothing received. -/
theorem countP_eq_zero_of_traffic {trace : List Event} {conn : ConnId} {f : Event → Bool}
    (h : traffic trace conn = false) (hf : ∀ e, f e = true → e.isOn conn = true) :
    trace.countP f = 0 := by
  rw [List.countP_eq_zero]
  intro e he hfe
  exact List.any_eq_false.mp h e he (hf e hfe)

theorem requestsSent_of_traffic {trace : List Event} {conn : ConnId}
    (h : traffic trace conn = false) (id : UInt64) : requestsSent trace conn id = 0 := by
  refine countP_eq_zero_of_traffic h fun e he => ?_
  cases e <;> simp_all [Event.sendsRequest, Event.isOn]

theorem responsesReceived_of_traffic {trace : List Event} {conn : ConnId}
    (h : traffic trace conn = false) (id : UInt64) : responsesReceived trace conn id = 0 := by
  refine countP_eq_zero_of_traffic h fun e he => ?_
  cases e <;> simp_all [Event.receives, Event.isOn]

/-- The connections that came up are older than the next one, and only they saw traffic. -/
structure Fresh (s : State) : Prop where
  current_lt : ∀ conn, s.tcpClient_.current = some conn → conn < s.tcpClient_.nextConn
  traffic : ∀ conn, s.tcpClient_.nextConn ≤ conn → traffic s.trace conn = false

theorem fresh_init : Fresh .init where
  current_lt _ h := by cases h
  traffic _ _ := rfl

theorem current_of_connectedConn {conn : ConnId} (h : s.connectedConn = some conn) :
    s.tcpClient_.current = some conn := by
  have hconnected := (connectedConn_eq_some h).2
  simp only [TcpClient.isConnected, Bool.and_eq_true, decide_eq_true_eq] at hconnected
  exact hconnected.1

/-- A frame on the current connection. -/
theorem Fresh.cons (h : Fresh s) {conn : ConnId} (hconn : s.tcpClient_.current = some conn)
    {e : Event} (he : ∀ c, e.isOn c = (conn == c)) (c : ConnId)
    (hc : s.tcpClient_.nextConn ≤ c) : RpcClient.traffic (e :: s.trace) c = false := by
  have hne : conn ≠ c := ((h.current_lt conn hconn).trans_le hc).ne
  rw [RpcClient.traffic, List.any_cons, he, beq_false_of_ne hne, Bool.false_or]
  exact h.traffic c hc

theorem Fresh.step (h : Fresh s) (ht : Transition cfg proper network s s') : Fresh s' := by
  cases ht with
  | sendCancel hconn =>
    exact ⟨h.current_lt, h.cons (current_of_connectedConn hconn) fun _ => rfl⟩
  | accept _ _ hconn =>
    exact ⟨h.current_lt, h.cons (current_of_connectedConn hconn) fun _ => rfl⟩
  | resend _ hc =>
    exact ⟨h.current_lt, h.cons (current_of_connectedConn (canResend_eq_some hc).2.2) fun _ => rfl⟩
  | respond hconn | respondIgnored hconn =>
    exact ⟨h.current_lt, h.cons hconn fun _ => rfl⟩
  | respondUnknown hconn => exact ⟨h.current_lt, h.cons hconn fun _ => rfl⟩
  | up =>
    refine ⟨fun conn hconn => ?_, fun conn hle => h.traffic conn (Nat.le_of_succ_le hle)⟩
    obtain rfl := Option.some.inj hconn
    exact Nat.lt_succ_self _
  | down => exact ⟨fun _ hconn => (by cases hconn), h.traffic⟩
  | _ => exact ⟨h.current_lt, h.traffic⟩

theorem fresh_of_reachable (h : (machine cfg).Reachable s) : Fresh s :=
  invariant fresh_init (fun _ _ hP => hP.step) h

/-! ### What is sent -/

/-- What was sent and received on the connections. -/
structure Sent (s : State) : Prop where
  /-- Nothing is sent under an id before its call is accepted. -/
  known : ∀ conn id, 0 < requestsSent s.trace conn id → s.Known id
  /-- A request that waits for a reconnect was not sent on the connection. -/
  waiting : ∀ conn id p, s.pendingRequests_.lookup id = some p → p.phase = .kWaitingReconnect →
    s.connectedConn = some conn → requestsSent s.trace conn id = 0
  once : ∀ conn id, requestsSent s.trace conn id ≤ 1
  /-- A request that waits for its response was sent on the connection and is unanswered. -/
  response : ∀ conn id p, s.pendingRequests_.lookup id = some p → p.phase = .kWaitingResponse →
    s.tcpClient_.current = some conn → unanswered s.trace conn id = true
  /-- A cancel is sent for a request that was given up. -/
  cancels : ∀ conn id, 0 < cancelsSent s.trace conn id → 0 < s.taken id
  /-- A response to a request that is not completed closes the connection. -/
  received : ∀ conn id, s.tcpClient_.current = some conn → s.tcpClient_.closing = false →
    s.taken id = 0 → responsesReceived s.trace conn id = 0

theorem sent_init : Sent .init where
  known _ _ h := absurd h (lt_irrefl 0)
  waiting _ id _ h := by cases (Finmap.lookup_empty id).symm.trans h
  once _ _ := Nat.zero_le 1
  response _ id _ h := by cases (Finmap.lookup_empty id).symm.trans h
  cancels _ _ h := absurd h (lt_irrefl 0)
  received _ _ h := by cases h

/-- A `Request` frame is sent. -/
theorem requestsSent_cons (trace : List Event) {e : Event} {c : ConnId} {id' : UInt64}
    (he : ∀ conn id, e.sendsRequest conn id = (c == conn && id' == id)) (conn : ConnId)
    (id : UInt64) : requestsSent (e :: trace) conn id =
      requestsSent trace conn id + if c = conn ∧ id' = id then 1 else 0 := by
  rw [requestsSent, List.countP_cons, he]
  simp only [Bool.and_eq_true, beq_iff_eq]
  rfl

/-- What a transition adds to the requests sent: nothing, or the frame of a request that was not
sent on the connection before. -/
inductive Sends (s s' : State) : Prop
  | none (h : ∀ conn id, requestsSent s'.trace conn id = requestsSent s.trace conn id)
  | one {conn : ConnId} {id : UInt64} (hconn : s.connectedConn = some conn)
      (hold : requestsSent s.trace conn id = 0) (hnew : id ∈ s'.pendingRequests_)
      (hphase : ∀ p, s'.pendingRequests_.lookup id = some p → p.phase = .kWaitingResponse)
      (h : ∀ c id', requestsSent s'.trace c id' =
        requestsSent s.trace c id' + if conn = c ∧ id = id' then 1 else 0)

theorem Sent.sends (h : Sent s) (hledger : Ledger s) (ht : Transition cfg proper network s s') :
    Sends s s' := by
  cases ht with
  | @accept id a calling conn hcalling hstatus hconn =>
    refine @Sends.one _ _ conn id hconn (Nat.eq_zero_of_not_pos fun hpos => ?_)
      (Finmap.mem_insert.mpr (.inl rfl)) (fun p hp => ?_) (requestsSent_cons _ fun _ _ => rfl)
    · exact hledger.not_known_of_calling (hcalling ▸ List.mem_cons_self) (h.known conn id hpos)
    · rw [Finmap.lookup_insert] at hp
      obtain rfl := Option.some.inj hp
      rfl
  | @resend conn c id waiting rest p hstack hc hp hphase henc =>
    have hconn := (canResend_eq_some hc).2.2
    refine @Sends.one _ _ c id hconn (h.waiting c id p hp hphase hconn)
      (Finmap.mem_insert.mpr (.inl rfl)) (fun p hp => ?_) (requestsSent_cons _ fun _ _ => rfl)
    rw [Finmap.lookup_insert] at hp
    obtain rfl := Option.some.inj hp
    rfl
  | _ => exact .none fun _ _ => rfl

theorem Sent.known_step (h : Sent s) (hledger : Ledger s) (ht : Transition cfg proper network s s')
    (conn : ConnId) (id : UInt64) (hpos : 0 < requestsSent s'.trace conn id) : s'.Known id := by
  cases h.sends hledger ht with
  | none heq => exact ht.known (h.known conn id (heq conn id ▸ hpos))
  | @one c id' hconn hold hnew hphase heq =>
    by_cases hid : id' = id
    · exact .inl (hid ▸ hnew)
    · refine ht.known (h.known conn id ?_)
      rwa [heq, if_neg fun hmatch => hid hmatch.2] at hpos

theorem Sent.once_step (h : Sent s) (hledger : Ledger s) (ht : Transition cfg proper network s s')
    (conn : ConnId) (id : UInt64) : requestsSent s'.trace conn id ≤ 1 := by
  cases h.sends hledger ht with
  | none heq => exact heq conn id ▸ h.once conn id
  | @one c id' hconn hold hnew hphase heq =>
    rw [heq]
    split_ifs with hmatch
    · obtain ⟨rfl, rfl⟩ := hmatch
      omega
    · exact h.once conn id

/-- A request that waits for a reconnect while a connection is up was waiting before, or the
connection is new. -/
theorem Transition.waiting_old (ht : Transition cfg proper network s s') {conn : ConnId}
    (hp : s'.pendingRequests_.lookup id = some p) (hphase : p.phase = .kWaitingReconnect)
    (hconn : s'.connectedConn = some conn) :
    (∃ q, s.pendingRequests_.lookup id = some q ∧ q.phase = .kWaitingReconnect ∧
      s.connectedConn = some conn) ∨ (conn = s.tcpClient_.nextConn ∧ s'.trace = s.trace) := by
  cases ht with
  | accept =>
    rcases Finmap.lookup_insert_eq_some.mp hp with ⟨_, rfl⟩ | ⟨_, hold⟩
    · cases hphase
    · exact .inl ⟨p, hold, hphase, hconn⟩
  | resend =>
    rcases Finmap.lookup_insert_eq_some.mp hp with ⟨_, rfl⟩ | ⟨_, hold⟩
    · cases hphase
    · exact .inl ⟨p, hold, hphase, hconn⟩
  | lose | respond | cancel | timeOut | exhaust | resendFailed =>
    exact .inl ⟨p, (Finmap.lookup_erase_eq_some.mp hp).2, hphase, hconn⟩
  | startWait hnone => cases hnone.symm.trans hconn
  | rearm _ _ hq hwaiting =>
    rcases Finmap.lookup_insert_eq_some.mp hp with ⟨rfl, _⟩ | ⟨_, hold⟩
    · exact .inl ⟨_, hq, hwaiting, hconn⟩
    · exact .inl ⟨p, hold, hphase, hconn⟩
  | up =>
    have hsome := (connectedConn_eq_some hconn).1
    exact .inr ⟨(Option.some.inj hsome).symm, rfl⟩
  | loseConnection => cases (connectedConn_of_not_connected rfl).symm.trans hconn
  | down => cases hconn
  | error => cases hconn
  | _ => exact .inl ⟨p, hp, hphase, hconn⟩

theorem Sent.waiting_step (h : Sent s) (hledger : Ledger s) (hfresh : Fresh s)
    (ht : Transition cfg proper network s s') (conn : ConnId) (id : UInt64) (p : PendingRequest)
    (hp : s'.pendingRequests_.lookup id = some p) (hphase : p.phase = .kWaitingReconnect)
    (hconn : s'.connectedConn = some conn) : requestsSent s'.trace conn id = 0 := by
  rcases ht.waiting_old hp hphase hconn with ⟨q, hq, hwaiting, hconn'⟩ | ⟨rfl, htrace⟩
  · have hold := h.waiting conn id q hq hwaiting hconn'
    cases h.sends hledger ht with
    | none heq => exact (heq conn id).trans hold
    | @one c id' _ _ _ hresponse heq =>
      have hid : id' ≠ id := fun hid => by
        subst hid
        cases hphase.symm.trans (hresponse p hp)
      rw [heq, hold, if_neg fun hmatch => hid hmatch.2]
  · rw [htrace]
    exact requestsSent_of_traffic (hfresh.traffic _ (Nat.le_refl _)) id

theorem Sent.response_step (h : Sent s) (hphases : Phases s)
    (ht : Transition cfg proper network s s') (conn : ConnId) (id : UInt64) (p : PendingRequest)
    (hp : s'.pendingRequests_.lookup id = some p) (hphase : p.phase = .kWaitingResponse)
    (hconn : s'.tcpClient_.current = some conn) : unanswered s'.trace conn id = true := by
  have hreceived : ∀ {c : ConnId} {response : RpcResponse} {q : PendingRequest},
      s.pendingRequests_.lookup id = some q → q.phase = .kWaitingResponse →
      s.tcpClient_.current = some conn → response.requestId_ ≠ id →
      unanswered (.received c response :: s.trace) conn id = true :=
    fun hq hwaits hcurrent hne => by
      simp only [unanswered, if_neg fun hmatch : _ ∧ _ => hne hmatch.2]
      exact h.response conn id _ hq hwaits hcurrent
  cases ht with
  | @accept id' a calling c _ _ hc =>
    have hcurrent := current_of_connectedConn hc
    obtain rfl : c = conn := Option.some.inj (hcurrent.symm.trans hconn)
    simp only [unanswered, true_and]
    split_ifs with hid
    · rfl
    · rcases Finmap.lookup_insert_eq_some.mp hp with ⟨heq, _⟩ | ⟨_, hold⟩
      · exact absurd heq.symm hid
      · exact h.response c id p hold hphase hconn
  | @resend _ c id' waiting rest q _ hc =>
    have hcurrent := current_of_connectedConn (canResend_eq_some hc).2.2
    obtain rfl : c = conn := Option.some.inj (hcurrent.symm.trans hconn)
    simp only [unanswered, true_and]
    split_ifs with hid
    · rfl
    · rcases Finmap.lookup_insert_eq_some.mp hp with ⟨heq, _⟩ | ⟨_, hold⟩
      · exact absurd heq.symm hid
      · exact h.response c id p hold hphase hconn
  | lose | cancel | timeOut | exhaust | resendFailed =>
    exact h.response conn id p (Finmap.lookup_erase_eq_some.mp hp).2 hphase hconn
  | respond =>
    obtain ⟨hne, hold⟩ := Finmap.lookup_erase_eq_some.mp hp
    exact hreceived hold hphase hconn hne.symm
  | respondIgnored _ hnot | respondUnknown _ hnot =>
    refine hreceived hp hphase hconn fun hid => hnot ?_
    exact hid ▸ Finmap.mem_of_lookup_eq_some hp
  | startWait | rearm _ _ _ hwaiting =>
    rcases Finmap.lookup_insert_eq_some.mp hp with ⟨_, rfl⟩ | ⟨_, hold⟩
    · first | cases hphase | cases hwaiting.symm.trans hphase
    · exact h.response conn id p hold hphase hconn
  | up _ hcurrent => cases (hphases.waiting_of_current_none hcurrent hp).symm.trans hphase
  | down => cases hconn
  | _ => exact h.response conn id p hp hphase hconn

theorem Sent.cancels_step (h : Sent s) (ht : Transition cfg proper network s s') (conn : ConnId)
    (id : UInt64) (hpos : 0 < cancelsSent s'.trace conn id) : 0 < s'.taken id := by
  have hold : 0 < cancelsSent s.trace conn id → 0 < s'.taken id :=
    fun hpos => (h.cancels conn id hpos).trans_le (ht.taken_le id)
  cases ht with
  | @sendCancel c id' hc hheld =>
    by_cases hid : id' = id
    · obtain ⟨d, hd, rfl, _⟩ := hheld
      exact hid ▸ State.taken_pos (List.mem_append_left _ hd)
    · refine hold ?_
      rwa [cancelsSent, List.countP_cons_of_neg (by simp [Event.sendsCancel, hid])] at hpos
  | _ => exact hold hpos

theorem Sent.received_step (h : Sent s) (hledger : Ledger s) (hfresh : Fresh s)
    (ht : Transition cfg proper network s s') (conn : ConnId) (id : UInt64)
    (hconn : s'.tcpClient_.current = some conn) (hopen : s'.tcpClient_.closing = false)
    (htaken : s'.taken id = 0) : responsesReceived s'.trace conn id = 0 := by
  have hbefore : s.taken id = 0 := Nat.eq_zero_of_le_zero (htaken ▸ ht.taken_le id)
  have hother : ∀ {c : ConnId} {response : RpcResponse}, s.tcpClient_.current = some conn →
      s.tcpClient_.closing = false → response.requestId_ ≠ id →
      responsesReceived (.received c response :: s.trace) conn id = 0 :=
    fun hcurrent hclosing hne => by
      rw [responsesReceived, List.countP_cons_of_neg (by simp [Event.receives, hne])]
      exact h.received conn id hcurrent hclosing hbefore
  cases ht with
  | @respond p c response hcurrent hp =>
    refine hother hconn hopen fun hid => ?_
    subst hid
    exact absurd htaken (Nat.ne_of_gt
      (List.countP_pos_iff.mpr ⟨_, List.mem_cons_self, beq_self_eq_true _⟩))
  | respondIgnored hcurrent hnot hignored =>
    refine hother hconn hopen fun hid => ?_
    have hone := hledger.ignored _ hignored
    rw [hid, hbefore] at hone
    cases hone
  | respondUnknown | forceClose | loseConnection | beginDisconnect | finishDisconnect => cases hopen
  | up =>
    obtain rfl := Option.some.inj hconn
    exact responsesReceived_of_traffic (hfresh.traffic _ (Nat.le_refl _)) id
  | down => cases hconn
  | _ => exact h.received conn id hconn hopen hbefore

theorem Sent.step (h : Sent s) (hledger : Ledger s) (hphases : Phases s) (hfresh : Fresh s)
    (ht : Transition cfg proper network s s') : Sent s' where
  known := h.known_step hledger ht
  waiting := h.waiting_step hledger hfresh ht
  once := h.once_step hledger ht
  response := h.response_step hphases ht
  cancels := h.cancels_step ht
  received := h.received_step hledger hfresh ht

/-- What the laws of the connections rest on. -/
structure Connections (s : State) : Prop where
  phases : Phases s
  ledger : Ledger s
  fresh : Fresh s
  sent : Sent s

theorem connections_init : Connections .init := ⟨phases_init, ledger_init, fresh_init, sent_init⟩

theorem Connections.step (h : Connections s) (hbound : s'.nextRequestId_ ≤ 2 ^ 64)
    (ht : Transition cfg proper network s s') : Connections s' where
  phases := h.phases.step ht
  ledger := h.ledger.step hbound ht
  fresh := h.fresh.step ht
  sent := h.sent.step h.ledger h.phases h.fresh ht

theorem connections_of_reachable (h : (machine cfg).Reachable s)
    (hcalls : s.nextRequestId_ ≤ 2 ^ 64) : Connections s :=
  invariant_of_bound connections_init (fun _ _ hP => hP.step) h hcalls

end MiniRpc.RpcClient
