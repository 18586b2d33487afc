import MiniRpc.Machine.History
import MiniRpc.RpcServer.Equiv.Answers
import MiniRpc.RpcServer.Equiv.Replies
import MiniRpc.RpcServer.Equiv.Traffic

/-!
# When the server closes a connection

The server closes a connection by force for a message that it does not understand and for a request
under an id that is active on the connection (`Offends`).  A response closes it only where the limit
on messages leaves no room for the error that replaces a response that is too large; otherwise
nothing but the peer's own messages makes the server close (`forcedCloses_of_step`), and a peer that
does not offend is never cut off (`not_forceClosed_of_behaves`).
-/

namespace MiniRpc.RpcServer

variable {cfg : Config} {proper : Prop} {s s' : State} {phase phase' : Phase} {conn c : ConnId}
  {msg : Bytes} {request : RpcRequest}

/-! ### Offences -/

/-- The message is not one that the server understands, or repeats an id that is active. -/
def Offends (cfg : Config) (s : State) (conn : ConnId) (msg : Bytes) : Prop :=
  match incoming cfg.effectiveMaxMessageSize msg with
  | .invalid => True
  | .cancel _ => False
  | .request request => Duplicate cfg s conn request

instance (cfg : Config) (s : State) (conn : ConnId) (msg : Bytes) :
    Decidable (Offends cfg s conn msg) := by
  unfold Offends
  split <;> infer_instance

/-- The step brings a message that offends on the connection. -/
def OffendsOn (cfg : Config) (c : ConnId) (s : State) (a : Action) : Prop :=
  ∃ msg outcome, a = .deliver c msg outcome ∧ Offends cfg s c msg

instance (cfg : Config) (c : ConnId) (s : State) : (a : Action) → Decidable (OffendsOn cfg c s a)
  | .deliver conn msg outcome =>
    decidable_of_iff (conn = c ∧ Offends cfg s conn msg) (by
      constructor
      · rintro ⟨rfl, hmsg⟩
        exact ⟨msg, outcome, rfl, hmsg⟩
      · rintro ⟨msg', outcome', heq, hmsg⟩
        obtain ⟨rfl, rfl, -⟩ := Action.deliver.inj heq
        exact ⟨rfl, hmsg⟩)
  | .start | .stop | .tcpServerStopped | .poolBeginStop | .poolFinishStop | .connectionUp _
  | .peerHalfClose _ | .loseConnection _ | .connectionDown _ | .transmit _ | .runTask _ | .submit _
  | .handlerReturns _ | .handlerThrows _ | .queueReply _ | .dropReply _ | .reply _ _
  | .workerTake _ | .workerExit _ => .isFalse (by rintro ⟨msg, outcome, heq, -⟩; cases heq)

/-- How often the server has closed a connection by force. -/
def forcedCloses (trace : List Event) (c : ConnId) : ℕ :=
  trace.countP fun e => decide (e = .forceClosed c)

theorem forcedCloses_cons (trace : List Event) (conn c : ConnId) :
    forcedCloses (.forceClosed conn :: trace) c =
      forcedCloses trace c + if conn = c then 1 else 0 := by
  rw [forcedCloses, List.countP_cons]
  simp only [decide_eq_true_eq, Event.forceClosed.injEq]
  rfl

theorem forcedCloses_cons_of_ne {e : Event} (he : ∀ c, e ≠ .forceClosed c) (trace : List Event)
    (c : ConnId) : forcedCloses (e :: trace) c = forcedCloses trace c :=
  List.countP_cons_of_neg (by simp [he c])

/-! ### What does not close -/

/-- What the step being taken has still to do closes no connection. -/
def Phase.Harmless (cfg : Config) (s : State) : Phase → Prop
  | .idle => True
  | .received _ conn request => ¬ Duplicate cfg s conn request
  | .answering _ _ _ r => Consistent r

theorem consistent_unknownMethod :
    Consistent (failure .METHOD_NOT_FOUND (text "service or method not exist")) := by decide

theorem consistent_refuseLimit :
    Consistent (failure .RESOURCE_EXHAUSTED (text "server request limit reached")) := by decide

/-- Without the arrival of a frame nothing closes a connection: every result that is answered is
consistent, so that there is a response to it. -/
theorem Transition.harmless (hroom : tooLargeLen ≤ cfg.effectiveMaxMessageSize)
    (hserved : Served cfg s phase) (hharmless : phase.Harmless cfg s)
    (ht : Transition cfg proper False (s, phase) (s', phase')) (c : ConnId) :
    phase'.Harmless cfg s' ∧ forcedCloses s'.trace c = forcedCloses s.trace c := by
  have hmax : cfg.effectiveMaxMessageSize ≤ kMaxMessageSize :=
    (effectiveMaxMessageSize_bounds cfg).2
  have hcons : ∀ {e : Event} {trace : List Event}, (∀ c, e ≠ .forceClosed c) →
      forcedCloses (e :: trace) c = forcedCloses trace c :=
    fun he => forcedCloses_cons_of_ne he _ c
  cases ht with
  | receive _ _ hnetwork | cancel _ _ _ hnetwork | cancelNone _ hnetwork | forceClose _ hnetwork
  | transmit _ hnetwork => exact hnetwork.elim
  | refuseDuplicate hduplicate => exact absurd hduplicate hharmless
  | close hclose =>
    rcases hclose with hsmall | hinvalid
    · exact absurd hroom (not_le.mpr hsmall)
    · exact absurd (hharmless.limitedResponse_valid _ hmax) hinvalid
  | invokeSync outcome =>
    refine ⟨?_, (hcons (by simp)).trans (hcons (by simp))⟩
    rw [Phase.Harmless, syncResult_eq]
    exact consistent_normalised outcome
  | unknownMethod => exact ⟨consistent_unknownMethod, rfl⟩
  | refuseLimit => exact ⟨consistent_refuseLimit, hcons (by simp)⟩
  | take htasks =>
    obtain ⟨r, -, rfl⟩ := hserved.queued _ _ ⟨_, mem_head htasks⟩
    refine ⟨?_, rfl⟩
    have hconsistent := consistent_normalised (some r)
    rw [← replyResult_eq] at hconsistent
    exact hconsistent
  | refuse => exact ⟨trivial, (hcons (by simp)).trans (hcons (by simp))⟩
  | respond | startHandler | refuseReplied | workerTake | handlerThrows | userReply | down
  | stopCompleted => exact ⟨trivial, hcons (by simp)⟩
  | _ => exact ⟨trivial, rfl⟩

theorem forcedCloses_of_steps (hroom : tooLargeLen ≤ cfg.effectiveMaxMessageSize)
    (hserved : Served cfg s phase) (hharmless : phase.Harmless cfg s)
    (h : Steps cfg proper False (s, phase) (s', phase')) (c : ConnId) :
    forcedCloses s'.trace c = forcedCloses s.trace c := by
  refine (Machine.preserved_of_chain (P := fun x => Served cfg x.1 x.2 ∧ x.2.Harmless cfg x.1 ∧
    forcedCloses x.1.trace c = forcedCloses s.trace c) ?_ h ⟨hserved, hharmless, rfl⟩).2.2
  rintro x y ⟨hserved, hharmless, hcloses⟩ ht
  obtain ⟨hharmless', hsame⟩ := ht.harmless hroom hserved hharmless c
  exact ⟨hserved.step ht, hharmless', hsame.trans hcloses⟩

/-! ### Messages -/

/-- The encoding of a request is accepted if it is not too large. -/
theorem incoming_request (h : request.Encodable)
    (hlen : request.fields.flatten.length ≤ cfg.effectiveMaxMessageSize) :
    incoming cfg.effectiveMaxMessageSize request.fields.flatten = .request request := by
  have hhead := RpcRequest.decodeHead_fields request
  have hne : request.fields.flatten ≠ [] := by
    intro hempty
    rw [hempty] at hhead
    cases hhead
  unfold incoming
  rw [if_neg (not_or.mpr ⟨hne, not_lt.mpr hlen⟩), hhead]
  simp [RpcRequest.decode_encode h]

theorem incoming_cancel (cancel : RpcCancel)
    (hlen : cancel.fields.flatten.length ≤ cfg.effectiveMaxMessageSize) :
    incoming cfg.effectiveMaxMessageSize cancel.fields.flatten = .cancel cancel.requestId_ := by
  have hhead := RpcCancel.decodeHead_fields cancel
  have hne : cancel.fields.flatten ≠ [] := by
    intro hempty
    rw [hempty] at hhead
    cases hhead
  unfold incoming
  rw [if_neg (not_or.mpr ⟨hne, not_lt.mpr hlen⟩), hhead]
  simp [RpcCancel.decode_encode]

/-- A request under an active id is refused without a response. -/
theorem onRequest_of_duplicate (hduplicate : Duplicate cfg s conn request)
    (outcome : Option RpcResult) : onRequest cfg s conn request outcome =
      forceClose ((receive s conn request).emit (.rejected s.nextFrame conn request)) conn := by
  obtain ⟨hsync, hasync, hactive⟩ := hduplicate
  obtain ⟨handler, hhandler⟩ := Option.isSome_iff_exists.mp hasync
  have hregister : (receive s conn request).cancellationRegistry_.registerToken conn
      request.requestId_ s.nextFrame = (.kDuplicateRequestId, s.cancellationRegistry_) :=
    CancellationRegistry.registerToken_of_isSome hactive
  unfold onRequest dispatch invokeAsyncHandler
  rw [if_neg (Bool.eq_false_iff.mp hsync), if_pos hasync, hhandler]
  simp only [hregister]

theorem forcedCloses_onRequest (h : (machine cfg).Reachable s)
    (hroom : tooLargeLen ≤ cfg.effectiveMaxMessageSize) (hup : (s.connections conn).state = .kUp)
    (hfresh : ¬ Duplicate cfg s conn request) (outcome : Option RpcResult) (c : ConnId) :
    forcedCloses (onRequest cfg s conn request outcome).trace c = forcedCloses s.trace c := by
  have hreceive : Transition cfg False True (s, .idle)
      (receive s conn request, .received s.nextFrame conn request) :=
    .receive request hup trivial
  have hserved := (laws_of_reachable h).served.step hreceive
  have hsteps : Steps cfg False False (receive s conn request, .received s.nextFrame conn request)
      (onRequest cfg s conn request outcome, .idle) := steps_dispatch request outcome
  rw [forcedCloses_of_steps hroom hserved hfresh hsteps]
  exact forcedCloses_cons_of_ne (by simp) _ c

/-- A message that does not offend closes nothing. -/
theorem forcedCloses_of_not_offends (h : (machine cfg).Reachable s)
    (hroom : tooLargeLen ≤ cfg.effectiveMaxMessageSize) (hup : (s.connections conn).state = .kUp)
    (hmsg : ¬ Offends cfg s conn msg) (outcome : Option RpcResult) (c : ConnId) :
    forcedCloses (onRpcMessage cfg s conn msg outcome).trace c = forcedCloses s.trace c := by
  rw [onRpcMessage_eq]
  unfold Offends at hmsg
  cases hincoming : incoming cfg.effectiveMaxMessageSize msg with
  | invalid =>
    rw [hincoming] at hmsg
    exact absurd trivial hmsg
  | cancel requestId => exact forcedCloses_cons_of_ne (by simp) s.trace c
  | request request =>
    rw [hincoming] at hmsg
    exact forcedCloses_onRequest h hroom hup hmsg outcome c

/-- A message that offends closes its connection. -/
theorem forcedCloses_of_offends (hmsg : Offends cfg s conn msg) (outcome : Option RpcResult)
    (c : ConnId) : forcedCloses (onRpcMessage cfg s conn msg outcome).trace c =
      forcedCloses s.trace c + if conn = c then 1 else 0 := by
  rw [onRpcMessage_eq]
  unfold Offends at hmsg
  cases hincoming : incoming cfg.effectiveMaxMessageSize msg with
  | invalid => exact forcedCloses_cons s.trace conn c
  | cancel requestId =>
    rw [hincoming] at hmsg
    exact hmsg.elim
  | request request =>
    rw [hincoming] at hmsg
    dsimp only
    rw [onRequest_of_duplicate hmsg]
    refine (forcedCloses_cons _ conn c).trans ?_
    have hreceived : forcedCloses (.rejected s.nextFrame conn request ::
        .requestReceived s.nextFrame conn request :: s.trace) c = forcedCloses s.trace c :=
      (forcedCloses_cons_of_ne (by simp) _ c).trans (forcedCloses_cons_of_ne (by simp) _ c)
    rw [← hreceived]
    rfl

/-! ### Runs -/

/-- What one step does to a connection, which it closes by force if the peer offends. -/
structure ClosesJustly (cfg : Config) (s s' : State) (c : ConnId) (a : Action) : Prop where
  offence : OffendsOn cfg c s a → forcedCloses s'.trace c = forcedCloses s.trace c + 1
  spared : ¬ OffendsOn cfg c s a → forcedCloses s'.trace c = forcedCloses s.trace c

theorem closesJustly_of_step (hroom : tooLargeLen ≤ cfg.effectiveMaxMessageSize)
    (h : (machine cfg).Reachable s) {a : Action} (hs : step cfg s a = some s') (c : ConnId) :
    ClosesJustly cfg s s' c a := by
  have hserved := (laws_of_reachable h).served
  cases hnetwork : a.isNetwork with
  | false =>
    have hsteps : Steps cfg False False (s, .idle) (s', .idle) :=
      steps_step False.elim (fun hyes => by cases hnetwork.symm.trans hyes) hs
    refine ⟨?_, fun _ => forcedCloses_of_steps hroom hserved trivial hsteps c⟩
    rintro ⟨msg, outcome, rfl, -⟩
    cases hnetwork
  | true =>
    cases stepped_of_step hs with
    | transmit =>
      refine ⟨?_, fun _ => rfl⟩
      rintro ⟨msg, outcome, heq, -⟩
      cases heq
    | @deliver conn msg outcome hup =>
      constructor
      · rintro ⟨msg', outcome', heq, hmsg⟩
        obtain ⟨rfl, rfl, rfl⟩ := Action.deliver.inj heq
        exact (forcedCloses_of_offends hmsg outcome conn).trans (by rw [if_pos rfl])
      · intro hspared
        by_cases hmsg : Offends cfg s conn msg
        · have hne : conn ≠ c := by
            rintro rfl
            exact hspared ⟨msg, outcome, rfl, hmsg⟩
          exact (forcedCloses_of_offends hmsg outcome c).trans (by rw [if_neg hne]; rfl)
        · exact forcedCloses_of_not_offends h hroom hup hmsg outcome c
    | _ => cases hnetwork

/-- How many messages of a run offended on the connection. -/
def offences (cfg : Config) (c : ConnId) (steps : List (Machine.Step State Action)) : ℕ :=
  steps.countP fun st => decide (OffendsOn cfg c st.before st.action)

/-- **A connection is closed by force exactly when its peer offends**, once for each offence:
nothing else that the handlers, the user, the other peers or the network do makes the server close
it, whatever the results are and however they are replied. -/
theorem forcedCloses_eq_offences (hroom : tooLargeLen ≤ cfg.effectiveMaxMessageSize)
    {steps : List (Machine.Step State Action)} (h : (machine cfg).History steps s) (c : ConnId) :
    forcedCloses s.trace c = offences cfg c steps := by
  induction h with
  | nil => rfl
  | @cons steps s s' a hrun hs ih =>
    have hstep := closesJustly_of_step hroom hrun.reachable hs c
    unfold offences at ih ⊢
    rw [List.countP_cons, ← ih]
    simp only [decide_eq_true_eq]
    split_ifs with hoffends
    · exact hstep.offence hoffends
    · exact hstep.spared hoffends

/-- Requests with the same id on two connections, twice on one of them. -/
def offending : List Action := [.start, .connectionUp 3, .connectionUp 4,
  .deliver 3 asyncRequest.fields.flatten none, .submit 0, .handlerReturns 0,
  .deliver 4 asyncRequest.fields.flatten none, .submit 0, .handlerReturns 0,
  .deliver 3 asyncRequest.fields.flatten none,
  .reply ⟨1, 4, asyncRequest, ⟨1⟩⟩ (succeed (text "a")), .queueReply 0, .runTask 0]

theorem forcedCloses_offending :
    let steps := (machine asyncServer).stepsFrom (.init asyncServer) offending
    offences asyncServer 3 steps = 1 ∧ offences asyncServer 4 steps = 0 ∧
      ∀ c, forcedCloses ((machine asyncServer).after offending).trace c =
        offences asyncServer c steps :=
  ⟨by decide +kernel, by decide +kernel, forcedCloses_eq_offences (by decide)
    (Machine.history_after (by decide +kernel))⟩

end MiniRpc.RpcServer
