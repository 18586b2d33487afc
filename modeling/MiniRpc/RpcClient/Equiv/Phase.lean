import MiniRpc.RpcClient.Equiv.Decompose

/-!
# Phases, status and connection agree

`Phases` relates the phase of each pending request to `status_`, `conn_` and the flag of a manual
disconnect.  While the client is connected, a request that still waits for a reconnect is covered by
an operation on the stack: `onConnection`, which has still to call `checkReconnect`, or
`checkReconnect`, which has still to resend it.  Between events the stack is empty, so none is left.
-/

namespace MiniRpc.RpcClient

variable {cfg : Config} {proper network : Prop} {s s' : State} {id : UInt64} {p : PendingRequest}

/-- The operations on the stack that belong to a connection event. -/
def Frame.isConnectionEvent : Frame → Bool
  | .callbacks _ | .userCode => false
  | _ => true

/-- The operations of a connection event that is down. -/
def Frame.isDown : Frame → Bool
  | .onConnectionDown _ | .onConnectionError _ => true
  | _ => false

/-- The connection events in progress. -/
def State.connectionEvents (s : State) : List Frame := s.stack.filter Frame.isConnectionEvent

/-- One of the operations will resend the request on `conn`. -/
def Covered (events : List Frame) (conn : ConnId) (id : UInt64) : Prop :=
  .onConnectionUp conn ∈ events ∨
    ∃ waiting, .checkReconnect (some conn) waiting ∈ events ∧ id ∈ waiting

/-- What holds of a pending request. -/
structure PhaseOk (status : Status) (manual : Bool) (connected : Option ConnId)
    (events : List Frame) (id : UInt64) (p : PendingRequest) : Prop where
  reconnectTimeout_pos : p.allowReconnect = true → 0 < p.reconnectTimeout
  waiting : p.phase = .kWaitingReconnect → p.allowReconnect = true ∧ p.remainingResends ≠ 0
  covered : p.phase = .kWaitingReconnect → status = .kConnected → ∀ conn, connected = some conn →
    Covered events conn id
  response : p.phase = .kWaitingResponse → status = .kConnected ∨ status = .kDisconnecting
  manual : manual = true → status = .kDisconnecting

/-- Phases, status and connection agree. -/
structure Phases (s : State) : Prop where
  entries : ∀ id p, s.pendingRequests_.lookup id = some p →
    PhaseOk s.status_ s.manualDisconnection_ s.connectedConn s.connectionEvents id p
  conn : s.conn_ = s.tcpClient_.current
  status : (s.status_ = .kConnected ∨ s.status_ = .kDisconnecting) ↔ s.conn_ ≠ none
  manual : s.manualDisconnection_ = true → s.status_ ≠ .kConnected
  down : s.stack.any Frame.isDown = true → s.tcpClient_.current = none

theorem phases_init : Phases .init where
  entries id _ h := by cases (Finmap.lookup_empty id).symm.trans h
  conn := rfl
  status := by decide
  manual h := by cases h
  down _ := rfl

theorem Phases.of_stack (h : Phases s) {stack : List Frame} (hstack : s.stack = stack) :
    Phases { s with stack := stack } := hstack ▸ h

theorem connectedConn_eq_some {conn : ConnId} (h : s.connectedConn = some conn) :
    s.conn_ = some conn ∧ s.tcpClient_.isConnected conn = true := by
  unfold State.connectedConn at h
  obtain ⟨hmem, hconnected⟩ := Option.filter_eq_some_iff.mp h
  exact ⟨hmem, hconnected⟩

theorem canResend_eq_some {conn : Option ConnId} {c : ConnId} (h : canResend s conn = some c) :
    conn = some c ∧ s.status_ = .kConnected ∧ s.connectedConn = some c := by
  unfold canResend at h
  split_ifs at h with hcond
  obtain ⟨hconn, hstatus⟩ := not_or.mp hcond
  exact ⟨(not_not.mp hconn).trans (connectedConn_eq_some h).1, not_not.mp hstatus, h⟩

/-- An accepted call that may be resent has time to wait for a reconnect. -/
theorem newPending_reconnectTimeout_pos (cfg : Config) (a : CallArgs)
    (h : (newPending cfg a).allowReconnect = true) : 0 < (newPending cfg a).reconnectTimeout := by
  have hallow : a.allowReconnect = true := (Bool.and_eq_true_iff.mp h).1
  simp only [newPending, hallow, true_and]
  split_ifs with hzero
  · exact cfg.defaultReconnectTimeout_pos
  · exact Nat.pos_of_ne_zero hzero

theorem Phases.entries_erase (h : Phases s) (id' : UInt64) (id : UInt64) (p : PendingRequest)
    (hp : (s.pendingRequests_.erase id').lookup id = some p) :
    PhaseOk s.status_ s.manualDisconnection_ s.connectedConn s.connectionEvents id p :=
  h.entries id p (Finmap.lookup_erase_eq_some.mp hp).2

theorem Phases.entries_insert (h : Phases s) {id' : UInt64} {q : PendingRequest}
    (hq : PhaseOk s.status_ s.manualDisconnection_ s.connectedConn s.connectionEvents id' q)
    (id : UInt64) (p : PendingRequest) (hp : (s.pendingRequests_.insert id' q).lookup id = some p) :
    PhaseOk s.status_ s.manualDisconnection_ s.connectedConn s.connectionEvents id p := by
  rcases Finmap.lookup_insert_eq_some.mp hp with ⟨rfl, rfl⟩ | ⟨_, hold⟩
  · exact hq
  · exact h.entries id p hold

theorem Phases.not_connected (h : Phases s) (hcurrent : s.tcpClient_.current = none) :
    s.status_ ≠ .kConnected ∧ s.status_ ≠ .kDisconnecting := by
  have hnone : s.conn_ = none := h.conn.trans hcurrent
  constructor <;> intro hstatus
  · exact h.status.mp (.inl hstatus) hnone
  · exact h.status.mp (.inr hstatus) hnone

/-- The loop of `checkReconnect` goes on: the other requests stay covered. -/
theorem covered_of_ne {conn : Option ConnId} {c : ConnId} {id id' : UInt64}
    {waiting : List UInt64} {rest : List Frame} (hne : id' ≠ id)
    (h : Covered ((.checkReconnect conn (id :: waiting) :: rest).filter Frame.isConnectionEvent)
      c id') :
    Covered ((.checkReconnect conn waiting :: rest).filter Frame.isConnectionEvent) c id' := by
  have hrest : ∀ f ∈ (Frame.checkReconnect conn (id :: waiting) :: rest).filter
      Frame.isConnectionEvent, f = .checkReconnect conn (id :: waiting) ∨
        f ∈ (Frame.checkReconnect conn waiting :: rest).filter Frame.isConnectionEvent :=
    fun f hf => (List.mem_cons.mp hf).imp_right (.tail _)
  rcases h with hup | ⟨w, hw, hid⟩
  · rcases hrest _ hup with heq | hmem
    · cases heq
    · exact .inl hmem
  · rcases hrest _ hw with heq | hmem
    · obtain ⟨rfl, rfl⟩ := Frame.checkReconnect.inj heq
      refine .inr ⟨waiting, List.mem_cons_self, ?_⟩
      exact (List.mem_cons.mp hid).resolve_left hne
    · exact .inr ⟨w, hmem, hid⟩

/-- A frame that covers nothing on `c` is taken off the stack. -/
theorem covered_of_pop {f : Frame} {rest : List Frame} {c : ConnId}
    (hup : f ≠ .onConnectionUp c)
    (hcheck : ∀ waiting, f = .checkReconnect (some c) waiting → id ∉ waiting)
    (h : Covered ((f :: rest).filter Frame.isConnectionEvent) c id) :
    Covered (rest.filter Frame.isConnectionEvent) c id := by
  have hrest : ∀ f' ∈ (f :: rest).filter Frame.isConnectionEvent,
      f' = f ∨ f' ∈ rest.filter Frame.isConnectionEvent := fun f' hf' => by
    obtain ⟨hmem, hevent⟩ := List.mem_filter.mp hf'
    exact (List.mem_cons.mp hmem).imp_right fun hmem => List.mem_filter.mpr ⟨hmem, hevent⟩
  rcases h with hmem | ⟨waiting, hmem, hid⟩
  · exact .inl ((hrest _ hmem).resolve_left fun heq => hup heq.symm)
  · exact .inr ⟨waiting, (hrest _ hmem).resolve_left fun heq => hcheck waiting heq.symm hid, hid⟩

/-- A request that waits for a reconnect while there is no connection. -/
theorem PhaseOk.of_not_connected {status status' : Status} {manual manual' : Bool}
    {connected connected' : Option ConnId} {events events' : List Frame}
    (h : PhaseOk status manual connected events id p) (hphase : p.phase = .kWaitingReconnect)
    (hconnected : status' = .kConnected → connected' = none)
    (hmanual : manual' = true → status' = .kDisconnecting) :
    PhaseOk status' manual' connected' events' id p where
  reconnectTimeout_pos := h.reconnectTimeout_pos
  waiting := h.waiting
  covered _ hstatus conn hconn := by cases (hconnected hstatus).symm.trans hconn
  response hresponse := by cases hphase.symm.trans hresponse
  manual := hmanual

/-- The connection events change, but still cover the request. -/
theorem PhaseOk.of_covered {status : Status} {manual : Bool} {connected : Option ConnId}
    {events events' : List Frame} (h : PhaseOk status manual connected events id p)
    (hcovered : p.phase = .kWaitingReconnect → status = .kConnected →
      ∀ conn, connected = some conn → Covered events conn id → Covered events' conn id) :
    PhaseOk status manual connected events' id p :=
  ⟨h.1, h.2, fun hphase hstatus conn hconn =>
    hcovered hphase hstatus conn hconn (h.3 hphase hstatus conn hconn), h.4, h.5⟩

/-! ### One transition -/

/-- An operation that covers no request ends. -/
theorem Phases.pop (h : Phases s) {f : Frame} {rest : List Frame} (hstack : s.stack = f :: rest)
    (hup : ∀ c, s.connectedConn = some c → f ≠ .onConnectionUp c)
    (hcheck : ∀ c waiting, s.connectedConn = some c → s.status_ = .kConnected →
      f = .checkReconnect (some c) waiting → waiting = []) : Phases { s with stack := rest } := by
  have h := h.of_stack hstack
  refine ⟨fun id p hp => (h.entries id p hp).of_covered fun _ hstatus c hc =>
    covered_of_pop (hup c hc) fun w heq hid => ?_, h.conn, h.status, h.manual,
    fun hdown => h.down ?_⟩
  · rw [hcheck c w hc hstatus heq] at hid
    cases hid
  · exact List.any_cons ▸ (Bool.or_eq_true _ _).mpr (.inr hdown)

/-- The loop of `checkReconnect` leaves a request out that does not wait. -/
theorem Phases.skipResend (h : Phases s) {conn : Option ConnId} {waiting : List UInt64}
    {rest : List Frame} (hstack : s.stack = .checkReconnect conn (id :: waiting) :: rest)
    (hphase : ∀ p, s.pendingRequests_.lookup id = some p → p.phase ≠ .kWaitingReconnect) :
    Phases { s with stack := .checkReconnect conn waiting :: rest } := by
  have h := h.of_stack hstack
  refine ⟨fun id' p' hp' => (h.entries id' p' hp').of_covered fun hwaiting _ c _ =>
    covered_of_ne fun heq => ?_, h.conn, h.status, h.manual, h.down⟩
  subst heq
  exact hphase p' hp' hwaiting

/-- `checkReconnect` starts: its loop resends every request that waits for a reconnect. -/
theorem Phases.startCheck (h : Phases s) {conn : ConnId} {order : List UInt64} {rest : List Frame}
    (hstack : s.stack = .onConnectionUp conn :: rest)
    (horder : IterationOrder order s.pendingRequests_) : Phases { s with
      stack := .checkReconnect s.conn_ (waitingToResendRequest s order) :: rest } := by
  have h := h.of_stack hstack
  refine ⟨fun id p hp => (h.entries id p hp).of_covered fun hphase _ c hc hcovered => ?_, h.conn,
    h.status, h.manual, h.down⟩
  obtain ⟨hallow, hremaining⟩ := (h.entries id p hp).2 hphase
  refine .inr ⟨waitingToResendRequest s order, ?_, ?_⟩
  · rw [← (connectedConn_eq_some hc).1]
    exact List.mem_cons_self
  · have hmem : (id, p) ∈ RpcClient.entries order s.pendingRequests_ :=
      mem_entries.mpr ⟨horder.mem_iff.mpr (Finmap.mem_of_lookup_eq_some hp), hp⟩
    refine List.mem_map_of_mem (f := Prod.fst) (List.mem_filter.mpr ⟨hmem, ?_⟩)
    simp [hphase, hallow, hremaining]

/-- `checkReconnect` ends early only if the connection it resends on is not the current one. -/
theorem Phases.stopCheck (h : Phases s) {conn : Option ConnId} {waiting : List UInt64}
    {rest : List Frame} (hstack : s.stack = .checkReconnect conn waiting :: rest)
    (hstop : waiting = [] ∨ canResend s conn = none) : Phases { s with stack := rest } := by
  refine h.pop hstack (fun c _ heq => by cases heq) fun c w hc hstatus heq => ?_
  obtain ⟨rfl, rfl⟩ := Frame.checkReconnect.inj heq
  rcases hstop with hempty | hstop
  · exact hempty
  · have hgo : canResend s (some c) = s.connectedConn := by
      unfold canResend
      rw [if_neg]
      rintro (hne | hne)
      · exact hne (connectedConn_eq_some hc).1.symm
      · exact hne hstatus
    cases (hgo.symm.trans hstop).symm.trans hc

/-- A connection comes up: `onConnection` has still to call `checkReconnect`. -/
theorem Phases.up (h : Phases s) (hcurrent : s.tcpClient_.current = none) : Phases { s with
    tcpClient_ := ⟨some s.tcpClient_.nextConn, true, false, s.tcpClient_.nextConn + 1⟩
    conn_ := some s.tcpClient_.nextConn
    status_ := .kConnected
    manualDisconnection_ := false
    stack := [.onConnectionUp s.tcpClient_.nextConn] } := by
  obtain ⟨hnotConnected, hnotDisconnecting⟩ := h.not_connected hcurrent
  refine ⟨fun id p hp => ?_, rfl, ?_, ?_, ?_⟩
  · have hentry := h.entries id p hp
    have hphase : p.phase ≠ .kWaitingResponse := fun hresponse =>
      (hentry.4 hresponse).elim hnotConnected hnotDisconnecting
    refine ⟨hentry.1, hentry.2, fun _ _ conn hconn => .inl ?_, fun hresponse => ?_, fun hm => ?_⟩
    · obtain rfl := Option.some.inj (connectedConn_eq_some hconn).1
      exact List.mem_cons_self
    · exact absurd hresponse hphase
    · cases hm
  · simp
  · intro hm
    cases hm
  · intro hdown
    cases hdown

/-- A connection goes down, after the requests in flight have failed or started to wait. -/
theorem Phases.connectionDown (h : Phases s) {conn : ConnId} {cs : List Completion}
    (hphase : ∀ id p, s.pendingRequests_.lookup id = some p → p.phase = .kWaitingReconnect)
    (hmanual : s.manualDisconnection_ = true → s.pendingRequests_ = ∅) : Phases { s with
      tcpClient_ := ⟨none, false, false, s.tcpClient_.nextConn⟩
      conn_ := none
      status_ := .kDisconnected
      stack := [.callbacks cs, .onConnectionDown conn] } := by
  refine ⟨fun id p hp => (h.entries id p hp).of_not_connected (hphase id p hp) ?_ fun hm => ?_,
    rfl, by simp, fun _ hstatus => (by cases hstatus), fun _ => rfl⟩
  · intro hstatus
    cases hstatus
  · cases (Finmap.lookup_empty id).symm.trans (hmanual hm ▸ hp)

/-- Connecting has failed. -/
theorem Phases.error (h : Phases s) {cs : List Completion} (errorCode : ℤ)
    (hcurrent : s.tcpClient_.current = none)
    (hphase : ∀ id p, s.pendingRequests_.lookup id = some p → p.phase = .kWaitingReconnect) :
    Phases { s with
      conn_ := none
      status_ := .kDisconnected
      stack := [.callbacks cs, .onConnectionError errorCode] } := by
  refine ⟨fun id p hp => (h.entries id p hp).of_not_connected (hphase id p hp) ?_ fun hm => ?_,
    hcurrent.symm, by simp, fun _ hstatus => (by cases hstatus), fun _ => hcurrent⟩
  · intro hstatus
    cases hstatus
  · exact absurd ((h.entries id p hp).5 hm) (h.not_connected hcurrent).2

/-- `connect` is called while nothing is connected, so every request waits for a reconnect. -/
theorem Phases.connect (h : Phases s) (hstatus : s.status_ = .kDisconnected) :
    Phases { s with status_ := .kConnecting } := by
  have hconn : s.conn_ = none := by
    by_contra hne
    rcases h.status.mpr hne with heq | heq <;> cases hstatus.symm.trans heq
  refine ⟨fun id p hp => ?_, h.conn, by simp [hconn], fun _ hs => (by cases hs), h.down⟩
  have hentry := h.entries id p hp
  have hphase : p.phase = .kWaitingReconnect := by
    cases hp' : p.phase with
    | kWaitingReconnect => rfl
    | kWaitingResponse => rcases hentry.4 hp' with heq | heq <;> cases hstatus.symm.trans heq
  refine hentry.of_not_connected hphase (fun hs => (by cases hs)) fun hm => ?_
  cases hstatus.symm.trans (hentry.5 hm)

/-- `disconnect` is called while the client is connected. -/
theorem Phases.beginDisconnect (h : Phases s) (hstatus : s.status_ = .kConnected) :
    Phases { s with
      tcpClient_ := { s.tcpClient_ with closing := true }
      status_ := .kDisconnecting
      manualDisconnection_ := true } := by
  refine ⟨fun id p hp => ?_, h.conn, ?_, fun _ hs => (by cases hs), h.down⟩
  · have hentry := h.entries id p hp
    exact ⟨hentry.1, hentry.2, fun _ hs => (by cases hs), fun _ => .inr rfl, fun _ => rfl⟩
  · have hconn := h.status.mp (.inl hstatus)
    simp [hconn]

/-- `disconnect` is called while the client is not connected: no request is left. -/
theorem Phases.finishDisconnect (h : Phases s) {status : Status} (hempty : s.pendingRequests_ = ∅)
    (hstatus : (status = s.status_ ∧ s.status_ ≠ .kConnected) ∨
      (s.status_ = .kConnecting ∧ status = .kDisconnected)) : Phases { s with
        tcpClient_ := { s.tcpClient_ with closing := true }
        status_ := status
        manualDisconnection_ := true } := by
  refine ⟨fun id p hp => ?_, h.conn, ?_, fun _ hs => ?_, h.down⟩
  · cases (Finmap.lookup_empty id).symm.trans (hempty ▸ hp)
  · rcases hstatus with ⟨rfl, _⟩ | ⟨hconnecting, rfl⟩
    · exact h.status
    · have hiff := h.status
      rw [hconnecting] at hiff
      simpa using hiff
  · rcases hstatus with ⟨rfl, hne⟩ | ⟨_, rfl⟩
    · exact hne hs
    · cases hs

theorem Phases.step (h : Phases s) (ht : Transition cfg proper network s s') : Phases s' := by
  cases ht with
  | loseConnection =>
    refine ⟨fun id p hp => ?_, h.conn, h.status, h.manual, h.down⟩
    have hentry := h.entries id p hp
    refine ⟨hentry.1, hentry.2, fun _ _ conn hconn => ?_, hentry.4, hentry.5⟩
    cases (connectedConn_of_not_connected rfl).symm.trans hconn
  | leaveUser hstack | closeCallbacks hstack | invoke hstack =>
    have h := h.of_stack hstack
    exact ⟨h.entries, h.conn, h.status, h.manual, h.down⟩
  | @accept id a calling conn hcalling hstatus hconn =>
    refine ⟨h.entries_insert ⟨newPending_reconnectTimeout_pos cfg a, fun hphase => ?_,
      fun hphase => ?_, fun _ => .inl hstatus, fun hmanual => ?_⟩, h.conn, h.status, h.manual,
      h.down⟩
    · cases hphase
    · cases hphase
    · exact absurd hstatus (h.manual hmanual)
  | lose _ _ hstack =>
    have h := h.of_stack hstack
    exact ⟨h.entries_erase _, h.conn, h.status, h.manual, h.down⟩
  | respond | cancel | timeOut | exhaust =>
    exact ⟨h.entries_erase _, h.conn, h.status, h.manual, h.down⟩
  | @resendFailed conn c id waiting rest p errorMessage hstack hc hp hphase =>
    have h := h.of_stack hstack
    refine ⟨fun id' p' hp' => ?_, h.conn, h.status, h.manual, h.down⟩
    obtain ⟨hne, hold⟩ := Finmap.lookup_erase_eq_some.mp hp'
    exact (h.entries id' p' hold).of_covered fun _ _ _ _ => covered_of_ne hne
  | @startWait id p hconn hp hphase hallow hremaining =>
    have hentry := h.entries id p hp
    refine ⟨h.entries_insert ⟨hentry.1, fun _ => ⟨hallow, hremaining⟩, fun _ _ conn hsome => ?_,
      fun hphase => ?_, hentry.5⟩, h.conn, h.status, h.manual, h.down⟩
    · cases hconn.symm.trans hsome
    · cases hphase
  | @rearm id p t deadline ht hdue hp hphase hmore =>
    have hentry := h.entries id p hp
    refine ⟨h.entries_insert ⟨hentry.1, fun _ => ⟨(hentry.2 hphase).1, hmore⟩,
      fun _ => hentry.3 hphase, fun hresponse => ?_, hentry.5⟩, h.conn, h.status, h.manual, h.down⟩
    cases hphase.symm.trans hresponse
  | @resend conn c id waiting rest p hstack hc hp hphase henc =>
    have hconnected := (canResend_eq_some hc).2.1
    have hentry := h.entries id p hp
    have h := h.of_stack hstack
    refine ⟨fun id' p' hp' => ?_, h.conn, h.status, h.manual, h.down⟩
    rcases Finmap.lookup_insert_eq_some.mp hp' with ⟨rfl, rfl⟩ | ⟨hne, hold⟩
    · refine ⟨hentry.1, fun hphase => ?_, fun hphase => ?_, fun _ => .inl hconnected, hentry.5⟩
      · cases hphase
      · cases hphase
    · exact (h.entries id' p' hold).of_covered fun _ _ _ _ => covered_of_ne hne
  | up _ hcurrent => exact h.up hcurrent
  | down _ _ hphase hmanual => exact h.connectionDown hphase hmanual
  | error errorCode _ hcurrent hphase => exact h.error errorCode hcurrent hphase
  | connect hstatus => exact h.connect hstatus
  | beginDisconnect hstatus => exact h.beginDisconnect hstatus
  | finishDisconnect hempty hstatus => exact h.finishDisconnect hempty hstatus
  | @clearIgnored f rest hf hstack =>
    have hpop : Phases { s with stack := rest } := by
      refine h.pop hstack (fun c _ heq => ?_) fun c w _ _ heq => ?_
      · rcases hf with ⟨_, rfl⟩ | ⟨_, rfl⟩ <;> cases heq
      · rcases hf with ⟨_, rfl⟩ | ⟨_, rfl⟩ <;> cases heq
    exact ⟨hpop.entries, hpop.conn, hpop.status, hpop.manual, hpop.down⟩
  | startCheck hstack _ horder => exact h.startCheck hstack horder
  | @skipCheck conn rest hstack hconn =>
    refine h.pop hstack (fun c hc heq => ?_) fun c w _ _ heq => (by cases heq)
    obtain rfl := Frame.onConnectionUp.inj heq
    exact hconn (connectedConn_eq_some hc).1
  | stopCheck hstack hstop => exact h.stopCheck hstack hstop
  | skipResend hstack hphase => exact h.skipResend hstack hphase
  | _ => exact ⟨h.entries, h.conn, h.status, h.manual, h.down⟩

theorem phases_of_reachable (h : (machine cfg).Reachable s) : Phases s :=
  invariant phases_init (fun _ _ hP => hP.step) h

/-! ### Between events -/

/-- What the phases, the status and the connection are like when no operation is in progress. -/
structure PhasesConsistent (s : State) : Prop where
  waiting : ∀ id p, s.pendingRequests_.lookup id = some p → p.phase = .kWaitingReconnect →
    p.allowReconnect = true ∧ 0 < p.remainingResends ∧ 0 < p.reconnectTimeout
  response : ∀ id p, s.pendingRequests_.lookup id = some p → p.phase = .kWaitingResponse →
    s.status_ = .kConnected ∨ s.status_ = .kDisconnecting
  /-- While the client is connected, no request waits for a reconnect. -/
  resent : ∀ conn, s.status_ = .kConnected → s.conn_ = some conn →
    s.tcpClient_.isConnected conn = true →
    ∀ id p, s.pendingRequests_.lookup id = some p → p.phase ≠ .kWaitingReconnect
  /-- A manual disconnect leaves no request to be resent. -/
  manual : s.manualDisconnection_ = true →
    s.status_ = .kDisconnecting ∨ s.pendingRequests_ = ∅

/-- **Phases and status agree** whenever the loop is between events. -/
theorem phasesConsistent_of_reachable (h : (machine cfg).Reachable s) (hstack : s.stack = []) :
    PhasesConsistent s := by
  have hphases := phases_of_reachable h
  refine ⟨fun id p hp hphase => ?_, fun id p hp => (hphases.entries id p hp).response,
    fun conn hstatus hconn hconnected id p hp hphase => ?_, fun hmanual => ?_⟩
  · have hentry := hphases.entries id p hp
    obtain ⟨hallow, hremaining⟩ := hentry.waiting hphase
    exact ⟨hallow, UInt8.pos_iff_ne_zero.mpr hremaining, hentry.reconnectTimeout_pos hallow⟩
  · have hsome : s.connectedConn = some conn := by
      unfold State.connectedConn
      rw [hconn, Option.filter_some, if_pos hconnected]
    have hcovered := (hphases.entries id p hp).covered hphase hstatus conn hsome
    rw [State.connectionEvents, hstack] at hcovered
    rcases hcovered with hmem | ⟨_, hmem, _⟩ <;> exact absurd hmem List.not_mem_nil
  · by_cases hempty : s.pendingRequests_ = ∅
    · exact .inr hempty
    · refine .inl ?_
      by_contra hstatus
      refine hempty (Finmap.ext_lookup fun id => ?_)
      cases hp : s.pendingRequests_.lookup id with
      | none => rw [Finmap.lookup_empty]
      | some p => exact absurd ((hphases.entries id p hp).manual hmanual) hstatus

/-- A request that waits for a reconnect after its connection was lost. -/
theorem phasesConsistent_of_reachable_lost :
    let s := (machine .default).after [.connectionUp, .leaveUser, .resume [], .resume [],
      .enterUser, .call ⟨text "s", text "m", text "p", ⟨7⟩, 0, true, 0, none⟩, .leaveUser,
      .connectionDown [1], .resume [], .resume [], .leaveUser]
    (s.pendingRequests_.lookup 1).map PendingRequest.phase = some .kWaitingReconnect ∧
      PhasesConsistent s :=
  ⟨by decide, phasesConsistent_of_reachable (Machine.reachable_after _) (by decide)⟩

end MiniRpc.RpcClient
