import MiniRpc.RpcClient.Equiv.Frames

/-!
# Responses that a client still expects

While the client has not begun to close the connection that is up, the requests sent on it that are
unanswered are pending or were given up: every other way to complete a request is its response, or
comes with the end of the connection (`Expecting`).  So the client takes the response to any of
them, as long as it remembers those that were given up (`expects_of_unanswered`).
-/

namespace MiniRpc.RpcClient

variable {cfg : Config} {proper network : Prop} {s s' : State} {conn : ConnId} {id : UInt64}

/-- What the client knows of a connection that it has not begun to close. -/
structure Expecting (s : State) : Prop where
  attached : ∀ conn, s.tcpClient_.current = some conn → s.tcpClient_.closing = false →
    s.connectedConn = some conn ∧ s.status_ = .kConnected
  givenUp : ∀ conn, s.tcpClient_.current = some conn → s.tcpClient_.closing = false →
    ∀ d ∈ s.takenCallbacks, unanswered s.trace conn d.requestId = true → d.GivenUp

theorem expecting_init : Expecting .init where
  attached _ h := by cases h
  givenUp _ h := by cases h

theorem Expecting.attached_step (h : Expecting s) (ht : Transition cfg proper network s s')
    (hconn : s'.tcpClient_.current = some conn) (hclosing : s'.tcpClient_.closing = false) :
    s'.connectedConn = some conn ∧ s'.status_ = .kConnected := by
  cases ht with
  | loseConnection | forceClose | respondUnknown | beginDisconnect | finishDisconnect =>
    cases hclosing
  | up =>
    obtain rfl := Option.some.inj hconn
    refine ⟨?_, rfl⟩
    unfold State.connectedConn
    rw [Option.filter_eq_some_iff]
    exact ⟨rfl, by simp [TcpClient.isConnected]⟩
  | down => cases hconn
  | error _ _ hcurrent => cases hcurrent.symm.trans hconn
  | connect hstatus => cases hstatus.symm.trans (h.attached conn hconn hclosing).2
  | _ => exact h.attached conn hconn hclosing

/-- A connection that is up and not closing after a transition was so before, or is new. -/
theorem Transition.current_old (ht : Transition cfg proper network s s')
    (hconn : s'.tcpClient_.current = some conn) (hclosing : s'.tcpClient_.closing = false) :
    (s.tcpClient_.current = some conn ∧ s.tcpClient_.closing = false) ∨
      (conn = s.tcpClient_.nextConn ∧ s'.trace = s.trace) := by
  cases ht with
  | loseConnection | forceClose | respondUnknown | beginDisconnect | finishDisconnect =>
    cases hclosing
  | up => exact .inr ⟨(Option.some.inj hconn).symm, rfl⟩
  | down => cases hconn
  | _ => exact .inl ⟨hconn, hclosing⟩

/-- On a connection that is not closing, a callback whose request is unanswered is taken because the
request is given up. -/
theorem Expecting.takes (h : Expecting s) (hconns : Connections s)
    (hconn : s.tcpClient_.current = some conn) (hclosing : s.tcpClient_.closing = false)
    {d : Completion} (hnew : Takes s s' d)
    (hunanswered : unanswered s'.trace conn d.requestId = true) : d.GivenUp := by
  obtain ⟨hconnected, hstatus⟩ := h.attached conn hconn hclosing
  -- a request that waits for a reconnect was not sent on the connection
  have hwaiting : ∀ {id : UInt64} {p : PendingRequest}, s.pendingRequests_.lookup id = some p →
      p.phase = .kWaitingReconnect → unanswered s.trace conn id = true → False := by
    intro id p hp hphase hsent
    have hnone := hconns.sent.waiting conn id p hp hphase hconnected
    exact (requestsSent_pos_of_unanswered hsent).ne' hnone
  cases hnew with
  | reject _ _ hcalling htrace =>
    rw [htrace] at hunanswered
    have hknown := hconns.sent.known conn _ (requestsSent_pos_of_unanswered hunanswered)
    exact absurd hknown (hconns.ledger.not_known_of_calling hcalling)
  | lose _ _ _ hgone =>
    rcases hgone with hnone | hother
    · cases hnone.symm.trans hconnected
    · exact absurd hstatus hother
  | @respond _ conn' response hconn' _ htrace =>
    obtain rfl : conn' = conn := Option.some.inj (hconn'.symm.trans hconn)
    rw [htrace] at hunanswered
    simp [unanswered] at hunanswered
  | cancel => exact .inr rfl
  | timeOut => exact .inl rfl
  | exhaust hp hphase _ htrace =>
    rw [htrace] at hunanswered
    exact (hwaiting hp hphase hunanswered).elim
  | resendFailed _ hp hphase htrace =>
    rw [htrace] at hunanswered
    exact (hwaiting hp hphase hunanswered).elim

theorem Expecting.step (h : Expecting s) (hconns : Connections s)
    (ht : Transition cfg proper network s s') : Expecting s' where
  attached _ hconn hclosing := h.attached_step ht hconn hclosing
  givenUp conn hconn hclosing d hd hunanswered := by
    rcases ht.current_old hconn hclosing with ⟨hconn, hclosing⟩ | ⟨rfl, htrace⟩
    · rcases ht.mem_takenCallbacks hd with hold | hnew
      · have hbefore := ht.unanswered_of_taken hconns.ledger (State.taken_pos hold) hunanswered
        exact h.givenUp conn hconn hclosing d hold hbefore
      · exact h.takes hconns hconn hclosing hnew hunanswered
    · -- nothing has been sent on a new connection
      rw [htrace] at hunanswered
      have hnone := requestsSent_of_traffic (hconns.fresh.traffic _ (Nat.le_refl _)) d.requestId
      exact absurd (requestsSent_pos_of_unanswered hunanswered) (by rw [hnone]; exact lt_irrefl 0)

theorem expecting_of_reachable (h : (machine cfg).Reachable s)
    (hcalls : s.nextRequestId_ ≤ 2 ^ 64) : Expecting s :=
  (invariant_of_bound (P := fun s => Connections s ∧ Expecting s)
    ⟨connections_init, expecting_init⟩
    (fun _ _ hP hbound ht => ⟨hP.1.step hbound ht, hP.2.step hP.1 ht⟩) h hcalls).2

/-! ### Frames that are expected -/

/-- The request was given up, and a sweep a minute or more after that has forgotten its id. -/
def Forgotten (s : State) (id : UInt64) : Prop :=
  ∃ d ∈ s.takenCallbacks, d.requestId = id ∧ d.GivenUp ∧
    sweptFrom s.trace (d.time + oneMinute) = true

/-- What was sent on the connection and not answered there since. -/
theorem unanswered_of_sent {trace : List Event} (hsent : 0 < requestsSent trace conn id)
    (hreceived : responsesReceived trace conn id = 0) : unanswered trace conn id = true := by
  induction trace with
  | nil => exact absurd hsent (lt_irrefl 0)
  | cons e trace ih =>
    unfold requestsSent at hsent ih
    unfold responsesReceived at hreceived ih
    rw [List.countP_cons] at hsent hreceived
    obtain ⟨hrest, hhead⟩ := Nat.add_eq_zero_iff.mp hreceived
    cases e with
    | requestSent c requestId _ _ _ | requestResent c requestId _ _ =>
      simp only [unanswered]
      split_ifs with hmatch
      · rfl
      · rw [if_neg (by simpa [Event.sendsRequest] using hmatch)] at hsent
        exact ih hsent hrest
    | received c response =>
      simp only [unanswered]
      split_ifs with hmatch
      · simp [Event.receives, hmatch] at hhead
      · exact ih hsent hrest
    | _ => exact ih hsent hrest

/-- **The response to an unanswered request is understood** on a connection that the client has not
begun to close: the request is pending, or its id is remembered, or it was given up and the id
forgotten more than a minute later. -/
theorem expects_of_unanswered (h : (machine cfg).Reachable s) (hcalls : s.nextRequestId_ ≤ 2 ^ 64)
    (hconn : s.tcpClient_.current = some conn) (hclosing : s.tcpClient_.closing = false)
    (hunanswered : unanswered s.trace conn id = true) :
    id ∈ s.pendingRequests_ ∨ (id ∉ s.pendingRequests_ ∧ id ∈ s.ignoredResponseRequests_) ∨
      Forgotten s id := by
  have hconns := connections_of_reachable h hcalls
  rcases hconns.sent.known conn id (requestsSent_pos_of_unanswered hunanswered) with
    hpending | htaken
  · exact .inl hpending
  · obtain ⟨d, hd, hid⟩ := List.countP_pos_iff.mp htaken
    obtain rfl := eq_of_beq hid
    have hgiven := (expecting_of_reachable h hcalls).givenUp conn hconn hclosing d hd hunanswered
    rcases remembered_of_reachable h hcalls d hd hgiven conn hconn hunanswered with
      hlookup | hswept
    · have hnot := hconns.ledger.not_mem_of_taken htaken
      exact .inr (.inl ⟨hnot, Finmap.mem_of_lookup_eq_some hlookup⟩)
    · exact .inr (.inr ⟨d, hd, rfl, hgiven, hswept⟩)

end MiniRpc.RpcClient
