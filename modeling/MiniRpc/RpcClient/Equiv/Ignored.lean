import MiniRpc.RpcClient.Equiv.Sent

/-!
# Responses to requests that were given up

A request that timed out or was cancelled leaves its id in `ignoredResponseRequests_`, so that a
late response does not close the connection.

* `deliver_late`: the late response is ignored unless `clearExpiredIgnoredResponseRequests` has run
  a minute or more after the request was given up.
* `onlySentTolerated_of_proper`: the ids remembered were sent on the connection that is up, and a
  response to any other closes it, in the runs that cancel or answer no request that waits for a
  reconnect.  A cancelled one leaves an id that the next connection knows nothing of
  (`not_onlySentTolerated`).
-/

namespace MiniRpc.RpcClient

variable {cfg : Config} {proper network : Prop} {s s' : State} {id : UInt64}

/-- The encoding of a valid response is accepted if it is not too large. -/
theorem validResponse?_fields {response : RpcResponse} (h : response.Valid)
    (hsize : response.fields.flatten.length ≤ cfg.effectiveMaxMessageSize) :
    validResponse? cfg response.fields.flatten = some response := by
  unfold validResponse?
  rw [if_pos ⟨hsize, RpcResponse.decodeHead_fields response⟩]
  simp only [RpcResponse.decode_encode h]

theorem step_deliver (hstack : s.stack = []) {conn : ConnId}
    (hconn : s.tcpClient_.current = some conn) (msg : Bytes) :
    step cfg s (.deliver msg) = some (onRpcMessage cfg s conn msg) := by
  unfold step
  dsimp only
  rw [hstack]
  simp only [stepIdle, hconn]

/-! ### Late responses -/

/-- The call was completed locally, by a request timeout or by `cancel`. -/
def Completion.GivenUp (c : Completion) : Prop := c.cause = .requestTimeout ∨ c.cause = .canceled

instance (c : Completion) : Decidable c.GivenUp := inferInstanceAs (Decidable (_ ∨ _))

/-- The event is a run of `clearExpiredIgnoredResponseRequests` at this time or later. -/
def Event.isSweepFrom (time : ℕ) : Event → Bool
  | .swept t => decide (time ≤ t)
  | _ => false

/-- Whether `clearExpiredIgnoredResponseRequests` has run at this time or later. -/
def sweptFrom (trace : List Event) (time : ℕ) : Bool := trace.any (Event.isSweepFrom time)

theorem sweptFrom_of_suffix {trace trace' : List Event} {time : ℕ}
    (h : sweptFrom trace time = true) (hsuffix : trace <:+ trace') :
    sweptFrom trace' time = true := by
  obtain ⟨e, hmem, he⟩ := List.any_eq_true.mp h
  exact List.any_eq_true.mpr ⟨e, hsuffix.subset hmem, he⟩

/-- The id of a request that was given up is remembered for a minute while its response can still
arrive. -/
def Remembered (s : State) : Prop :=
  ∀ c ∈ s.takenCallbacks, c.GivenUp → ∀ conn, s.tcpClient_.current = some conn →
    unanswered s.trace conn c.requestId = true →
    s.ignoredResponseRequests_.lookup c.requestId = some (c.time + oneMinute) ∨
      sweptFrom s.trace (c.time + oneMinute) = true

/-- A request whose callback was taken is not sent again. -/
theorem Transition.unanswered_of_taken (ht : Transition cfg proper network s s')
    (hledger : Ledger s) (htaken : 0 < s.taken id) {conn : ConnId}
    (h : unanswered s'.trace conn id = true) :
    unanswered s.trace conn id = true := by
  cases ht with
  | @accept id' a calling c hcalling =>
    have hne : id' ≠ id := fun hid =>
      hledger.not_known_of_calling (hcalling ▸ List.mem_cons_self) (.inr (hid ▸ htaken))
    rwa [unanswered, if_neg fun hmatch => hne hmatch.2] at h
  | @resend _ c id' waiting rest p hstack hc hp =>
    have hne : id' ≠ id := fun hid =>
      hledger.not_mem_of_taken htaken (hid ▸ Finmap.mem_of_lookup_eq_some hp)
    rwa [unanswered, if_neg fun hmatch => hne hmatch.2] at h
  | respond | respondIgnored | respondUnknown =>
    simp only [unanswered] at h
    split_ifs at h
    exact h
  | _ => exact h

theorem Remembered.step (h : Remembered s) (hconns : Connections s)
    (ht : Transition cfg proper network s s') : Remembered s' := by
  intro c hc hgiven conn hconn hunanswered
  rcases ht.mem_takenCallbacks hc with hold | hnew
  · have htaken := State.taken_pos hold
    have hbefore := ht.unanswered_of_taken hconns.ledger htaken hunanswered
    have hkeep : s.tcpClient_.current = some conn →
        s.ignoredResponseRequests_.lookup c.requestId = some (c.time + oneMinute) ∨
          sweptFrom s'.trace (c.time + oneMinute) = true := fun hcurrent =>
      (h c hold hgiven conn hcurrent hbefore).imp_right fun hswept =>
        sweptFrom_of_suffix hswept ht.trace_suffix
    have hne : ∀ {id' : UInt64} {p : PendingRequest}, s.pendingRequests_.lookup id' = some p →
        c.requestId ≠ id' := fun hp hid =>
      hconns.ledger.not_mem_of_taken htaken (hid ▸ Finmap.mem_of_lookup_eq_some hp)
    cases ht with
    | cancel hp | timeOut _ _ hp =>
      rw [Finmap.lookup_insert_of_ne _ (hne hp)]
      exact hkeep hconn
    | @respondIgnored c' response hcurrent =>
      have hid : c.requestId ≠ response.requestId_ := fun hid => by
        obtain rfl : c' = conn := Option.some.inj (hcurrent.symm.trans hconn)
        simp [unanswered, hid] at hunanswered
      rw [Finmap.lookup_erase_ne hid]
      exact hkeep hconn
    | sweep =>
      rcases hkeep hconn with hlookup | hswept
      · by_cases hexpired : c.time + oneMinute ≤ s.now
        · refine .inr (List.any_eq_true.mpr ⟨.swept s.now, List.mem_cons_self, ?_⟩)
          exact decide_eq_true hexpired
        · exact .inl (Finmap.lookup_filter_eq_some.mpr ⟨hlookup, by simp [hexpired]⟩)
      · exact .inr hswept
    | clearIgnored hf hstack =>
      have hdown : s.stack.any Frame.isDown = true := by
        rw [hstack]
        rcases hf with ⟨_, rfl⟩ | ⟨_, rfl⟩ <;> rfl
      cases (hconns.phases.down hdown).symm.trans hconn
    | up =>
      obtain rfl := Option.some.inj hconn
      have hpos := requestsSent_pos_of_unanswered hbefore
      rw [requestsSent_of_traffic (hconns.fresh.traffic _ (Nat.le_refl _))] at hpos
      exact absurd hpos (lt_irrefl 0)
    | down => cases hconn
    | _ => exact hkeep hconn
  · cases hnew with
    | cancel hp hignored htrace | timeOut _ _ hp _ hignored htrace =>
      rw [hignored]
      exact .inl (Finmap.lookup_insert _)
    | _ => rcases hgiven with hcause | hcause <;> cases hcause

theorem remembered_of_reachable (h : (machine cfg).Reachable s)
    (hcalls : s.nextRequestId_ ≤ 2 ^ 64) : Remembered s :=
  (invariant_of_bound (P := fun s => Connections s ∧ Remembered s)
    ⟨connections_init, fun _ h => absurd h List.not_mem_nil⟩
    (fun _ _ hP hbound ht => ⟨hP.1.step hbound ht, hP.2.step hP.1 ht⟩) h hcalls).2

/-- A response to an id that is not pending but remembered takes it out and does nothing else. -/
theorem onResponse_of_ignored {response : RpcResponse}
    (hp : response.requestId_ ∉ s.pendingRequests_)
    (hignored : response.requestId_ ∈ s.ignoredResponseRequests_) (conn : ConnId) :
    onResponse s conn response =
      { s with
        ignoredResponseRequests_ := s.ignoredResponseRequests_.erase response.requestId_
        trace := .received conn response :: s.trace } := by
  unfold onResponse
  dsimp only
  have hnone : (s.emit (.received conn response)).pendingRequests_.lookup response.requestId_ =
      none := Finmap.lookup_eq_none.mpr hp
  rw [hnone]
  exact if_pos hignored

/-- The message is a response that arrives on `conn`, and all that changes is that its id is
forgotten. -/
def ResponseIgnored (cfg : Config) (s : State) (conn : ConnId) (msg : Bytes)
    (response : RpcResponse) : Prop :=
  step cfg s (.deliver msg) = some { s with
    ignoredResponseRequests_ := s.ignoredResponseRequests_.erase response.requestId_
    trace := .received conn response :: s.trace }

/-- A request sent on `conn`, which is up, was given up, and its first response arrives. -/
structure LateResponse (cfg : Config) (s : State) (conn : ConnId) (c : Completion) (msg : Bytes)
    (response : RpcResponse) : Prop where
  stack : s.stack = []
  current : s.tcpClient_.current = some conn
  status : s.status_ = .kConnected
  taken : c ∈ s.takenCallbacks
  givenUp : c.GivenUp
  unanswered : unanswered s.trace conn c.requestId = true
  valid : validResponse? cfg msg = some response
  requestId : response.requestId_ = c.requestId

/-- **A late response is ignored** unless the periodic sweep has run a minute or more after the
request was given up. -/
theorem deliver_late (h : (machine cfg).Reachable s) (hcalls : s.nextRequestId_ ≤ 2 ^ 64)
    {conn : ConnId} {c : Completion} {msg : Bytes} {response : RpcResponse}
    (hlate : LateResponse cfg s conn c msg response)
    (hswept : sweptFrom s.trace (c.time + oneMinute) = false) :
    ResponseIgnored cfg s conn msg response := by
  have hlookup := (remembered_of_reachable h hcalls c hlate.taken hlate.givenUp conn hlate.current
    hlate.unanswered).resolve_right (by simp [hswept])
  have hmem : response.requestId_ ∈ s.ignoredResponseRequests_ :=
    hlate.requestId ▸ Finmap.mem_of_lookup_eq_some hlookup
  have hnot : response.requestId_ ∉ s.pendingRequests_ :=
    hlate.requestId ▸ (ledger_of_reachable h hcalls).not_mem_of_taken (State.taken_pos hlate.taken)
  unfold ResponseIgnored
  rw [step_deliver hlate.stack hlate.current, onRpcMessage_eq, hlate.valid]
  exact congrArg some (onResponse_of_ignored hnot hmem conn)

/-- A run that gives a request up: the call is made and cancelled by the user. -/
def givingUp : List Action := [.connectionUp, .leaveUser, .resume [], .resume [], .enterUser,
  .call ⟨text "s", text "m", text "p", ⟨7⟩, 0, false, 0, none⟩, .cancel 1, .resume [], .leaveUser,
  .resume [], .leaveUser]

/-- What the run completes. -/
def givenUpCompletion : Completion :=
  ⟨1, ⟨7⟩, failure 1 .REQUEST_CANCELED (text "rpc request canceled"), .canceled, 0⟩

/-- The response to the request. -/
def lateResponse : RpcResponse := ⟨1, kSuccess, .NO_ERROR, text "p", []⟩

theorem lateResponse_valid :
    validResponse? .default lateResponse.fields.flatten = some lateResponse :=
  validResponse?_fields
    ⟨by decide, by decide, .inl rfl, by decide, by decide, fun _ => rfl, fun h => by cases h⟩
    (by decide)

/-- The response arrives in time. -/
theorem deliver_late_in_time :
    let s := (machine .default).after givingUp
    givenUpCompletion ∈ s.takenCallbacks ∧
      ResponseIgnored .default s 0 lateResponse.fields.flatten lateResponse :=
  ⟨by decide, deliver_late (Machine.reachable_after _) (by decide) (c := givenUpCompletion)
    ⟨by decide, by decide, by decide, by decide, by decide, by decide, lateResponse_valid, rfl⟩
    (by decide)⟩

/-- The response does not arrive within the minute: the sweep has forgotten the request, and the
connection is closed. -/
theorem deliver_late_after_sweep : ¬ ∀ s, (machine .default).Reachable s →
    ∀ conn c msg response, LateResponse .default s conn c msg response →
      ResponseIgnored .default s conn msg response := by
  intro h
  have hstep := h ((machine .default).after (givingUp ++ [.tick oneMinute, .sweep]))
    (Machine.reachable_after _) 0 givenUpCompletion lateResponse.fields.flatten lateResponse
    ⟨by decide, by decide, by decide, by decide, by decide, by decide, lateResponse_valid, rfl⟩
  have hclosing := congrArg (Option.map fun s => s.tcpClient_.closing) hstep
  revert hclosing
  decide

/-! ### Ids that were never sent on the connection -/

/-- Each response to an id that was not sent on its connection closed the connection. -/
def UnknownClosed (trace : List Event) : Prop :=
  ∀ later earlier conn response, trace = later ++ .received conn response :: earlier →
    requestsSent earlier conn response.requestId_ = 0 →
    ∃ rest, later = rest ++ [.forceClosed conn]

theorem UnknownClosed.cons {trace : List Event} (h : UnknownClosed trace) {e : Event}
    (he : ∀ conn response, e = .received conn response →
      0 < requestsSent trace conn response.requestId_) : UnknownClosed (e :: trace) := by
  intro later earlier conn response htrace hunsent
  cases later with
  | nil =>
    obtain ⟨rfl, rfl⟩ := List.cons.inj htrace
    exact absurd hunsent (he conn response rfl).ne'
  | cons e' later =>
    obtain ⟨rfl, htail⟩ := List.cons.inj htrace
    obtain ⟨rest, rfl⟩ := h later earlier conn response htail hunsent
    exact ⟨e :: rest, rfl⟩

/-- An unknown response closes the connection. -/
theorem UnknownClosed.close {trace : List Event} (h : UnknownClosed trace) (conn : ConnId)
    (response : RpcResponse) :
    UnknownClosed (.forceClosed conn :: .received conn response :: trace) := by
  intro later earlier conn' response' htrace hunsent
  cases later with
  | nil => cases htrace
  | cons e later =>
    obtain ⟨rfl, htail⟩ := List.cons.inj htrace
    cases later with
    | nil =>
      cases htail
      exact ⟨[], rfl⟩
    | cons e' later =>
      obtain ⟨rfl, hearlier⟩ := List.cons.inj htail
      obtain ⟨rest, rfl⟩ := h later earlier conn' response' hearlier hunsent
      exact ⟨.forceClosed conn :: .received conn response :: rest, rfl⟩

/-- The ids remembered are the ids of requests sent on the connection that is up and not answered
there, and a response to an id that was not sent on its connection closes the connection. -/
structure OnlySentTolerated (s : State) : Prop where
  ignored : ∀ conn id, s.tcpClient_.current = some conn → id ∈ s.ignoredResponseRequests_ →
    unanswered s.trace conn id = true
  closed : UnknownClosed s.trace

/-- While no connection is up, the ids remembered are about to be forgotten. -/
structure Tolerance (s : State) : Prop where
  tolerated : OnlySentTolerated s
  idle : ∀ id ∈ s.ignoredResponseRequests_, s.tcpClient_.current = none →
    s.stack.any Frame.isDown = true

theorem tolerance_init : Tolerance .init where
  tolerated := ⟨fun _ _ h => (by cases h), fun later _ _ _ h => by cases later <;> cases h⟩
  idle _ h := absurd h Finmap.notMem_empty

theorem Tolerance.of_stack (h : Tolerance s) {stack : List Frame} (hstack : s.stack = stack) :
    Tolerance { s with stack := stack } := hstack ▸ h

/-- A request that waits for its response is given up. -/
theorem Tolerance.giveUp (h : Tolerance s) (hconns : Connections s) {p : PendingRequest}
    (hp : s.pendingRequests_.lookup id = some p) (hphase : p.phase = .kWaitingResponse)
    (hignored : ∀ id' ∈ s'.ignoredResponseRequests_, id' = id ∨ id' ∈ s.ignoredResponseRequests_)
    (hcurrent : s'.tcpClient_.current = s.tcpClient_.current) (htrace : s'.trace = s.trace)
    (hstack : s.stack.any Frame.isDown = true → s'.stack.any Frame.isDown = true) :
    Tolerance s' where
  tolerated := by
    refine ⟨fun conn id' hconn hid => ?_, htrace ▸ h.tolerated.closed⟩
    rw [htrace]
    rcases hignored id' hid with rfl | hold
    · exact hconns.sent.response conn id' p hp hphase (hcurrent ▸ hconn)
    · exact h.tolerated.ignored conn id' (hcurrent ▸ hconn) hold
  idle id' hid hnone := by
    rcases hignored id' hid with rfl | hold
    · cases (hconns.phases.waiting_of_current_none (hcurrent ▸ hnone) hp).symm.trans hphase
    · exact hstack (h.idle id' hold (hcurrent ▸ hnone))

/-- A response to another id. -/
theorem OnlySentTolerated.received (h : OnlySentTolerated s) {conn : ConnId}
    {response : RpcResponse} (conn' : ConnId) (id : UInt64)
    (hconn : s.tcpClient_.current = some conn') (hid : id ∈ s.ignoredResponseRequests_)
    (hne : response.requestId_ ≠ id) :
    unanswered (.received conn response :: s.trace) conn' id = true := by
  rw [unanswered, if_neg fun hmatch => hne hmatch.2]
  exact h.ignored conn' id hconn hid

theorem Tolerance.step (h : Tolerance s) (hconns : Connections s)
    (ht : Transition cfg True network s s') : Tolerance s' := by
  have hignored := h.tolerated.ignored
  have hclosed := h.tolerated.closed
  cases ht with
  | draw | connectionCallback | connectionErrorCallback | exhaust | rearm | forceClose
  | sendCancel =>
    exact ⟨⟨hignored, hclosed.cons fun _ _ he => (by cases he)⟩, h.idle⟩
  | leaveUser hstack | closeCallbacks hstack | lose _ _ hstack | resendFailed _ hstack
  | startCheck hstack | skipCheck hstack | stopCheck hstack | skipResend hstack =>
    have h := h.of_stack hstack
    exact ⟨⟨hignored, hclosed⟩, h.idle⟩
  | invoke hstack =>
    have h := h.of_stack hstack
    exact ⟨⟨hignored, hclosed.cons fun _ _ he => (by cases he)⟩, h.idle⟩
  | accept =>
    refine ⟨⟨fun conn id hconn hid => ?_, hclosed.cons fun _ _ he => (by cases he)⟩, h.idle⟩
    simp only [unanswered]
    split_ifs
    · rfl
    · exact hignored conn id hconn hid
  | resend hstack =>
    have h := h.of_stack hstack
    refine ⟨⟨fun conn id hconn hid => ?_, hclosed.cons fun _ _ he => (by cases he)⟩, h.idle⟩
    simp only [unanswered]
    split_ifs
    · rfl
    · exact hignored conn id hconn hid
  | cancel hp hproper =>
    exact h.giveUp hconns hp (hproper trivial) (fun _ => Finmap.mem_insert.mp) rfl rfl id
  | timeOut _ _ hp hphase =>
    exact h.giveUp hconns hp hphase (fun _ => Finmap.mem_insert.mp) rfl rfl id
  | @respond p conn response hconn hp hproper =>
    have hmem := Finmap.mem_of_lookup_eq_some hp
    refine ⟨⟨fun conn' id hconn' hid => h.tolerated.received conn' id hconn' hid fun heq =>
      hconns.ledger.disjoint hmem (heq ▸ hid), hclosed.cons fun conn' response' he => ?_⟩, h.idle⟩
    obtain ⟨rfl, rfl⟩ := Event.received.inj he
    exact requestsSent_pos_of_unanswered
      (hconns.sent.response _ _ p hp (hproper trivial) hconn)
  | @respondIgnored conn response hconn hnot hmem =>
    refine ⟨⟨fun conn' id hconn' hid => ?_, hclosed.cons fun conn' response' he => ?_⟩,
      fun id hid => h.idle id (Finmap.mem_erase.mp hid).2⟩
    · obtain ⟨hne, hold⟩ := Finmap.mem_erase.mp hid
      exact h.tolerated.received conn' id hconn' hold hne.symm
    · obtain ⟨rfl, rfl⟩ := Event.received.inj he
      exact requestsSent_pos_of_unanswered (hignored _ _ hconn hmem)
  | @respondUnknown conn response hconn hnot hunknown =>
    refine ⟨⟨fun conn' id hconn' hid => ?_, hclosed.close conn response⟩, h.idle⟩
    exact h.tolerated.received conn' id hconn' hid fun heq => hunknown (heq ▸ hid)
  | sweep =>
    exact ⟨⟨fun conn id hconn hid => hignored conn id hconn (Finmap.mem_of_mem_filter hid),
      hclosed.cons fun _ _ he => (by cases he)⟩,
      fun id hid => h.idle id (Finmap.mem_of_mem_filter hid)⟩
  | up hstack hcurrent =>
    have hnone : ∀ id, id ∉ s.ignoredResponseRequests_ := fun id hid => by
      have hdown := h.idle id hid hcurrent
      rw [hstack] at hdown
      cases hdown
    exact ⟨⟨fun _ id _ hid => absurd hid (hnone id), hclosed⟩, fun id hid => absurd hid (hnone id)⟩
  | down => exact ⟨⟨fun _ _ hconn => (by cases hconn), hclosed⟩, fun _ _ _ => rfl⟩
  | error _ _ hcurrent =>
    exact ⟨⟨fun _ _ hconn => (by cases hcurrent.symm.trans hconn), hclosed⟩, fun _ _ _ => rfl⟩
  | clearIgnored =>
    exact ⟨⟨fun _ _ _ hid => absurd hid Finmap.notMem_empty, hclosed⟩,
      fun _ hid => absurd hid Finmap.notMem_empty⟩
  | _ => exact ⟨⟨hignored, hclosed⟩, h.idle⟩

/-- **Only ids sent on the connection are tolerated** in the runs that cancel or answer no request
that waits for a reconnect. -/
theorem onlySentTolerated_of_proper (h : (machine cfg).ReachableBy (Proper cfg) s)
    (hcalls : s.nextRequestId_ ≤ 2 ^ 64) : OnlySentTolerated s :=
  (invariant_of_proper_of_bound (P := fun s => Connections s ∧ Tolerance s)
    ⟨connections_init, tolerance_init⟩
    (fun _ _ hP hbound ht => ⟨hP.1.step hbound ht, hP.2.step hP.1 ht⟩) h hcalls).2.tolerated

/-- A call that is cancelled while it waits for its response. -/
theorem onlySentTolerated_of_proper_cancel :
    let s := (machine .default).afterBy (Proper .default) givingUp
    s.tcpClient_.current = some 0 ∧ s.ignoredResponseRequests_.lookup 1 = some oneMinute ∧
      OnlySentTolerated s :=
  ⟨by decide, by decide, onlySentTolerated_of_proper (Machine.reachableBy_afterBy _) (by decide)⟩

/-- A call that is cancelled while it waits for a reconnect: the next connection remembers its id,
which was never sent on it. -/
theorem not_onlySentTolerated :
    ¬ ∀ s, (machine .default).Reachable s → OnlySentTolerated s := by
  intro h
  have htolerated := h ((machine .default).after [.connectionUp, .leaveUser, .resume [], .resume [],
    .enterUser, .call ⟨text "s", text "m", text "p", ⟨7⟩, 0, true, 0, none⟩, .leaveUser,
    .connectionDown [1], .resume [], .resume [], .leaveUser, .queueCancel 1, .runTask, .resume [],
    .leaveUser, .resume [], .connectionUp]) (Machine.reachable_after _)
  have hunanswered := htolerated.ignored 1 1 (by decide) (Finmap.mem_of_lookup_eq_some
    (b := 60000) (by decide))
  revert hunanswered
  decide

end MiniRpc.RpcClient
