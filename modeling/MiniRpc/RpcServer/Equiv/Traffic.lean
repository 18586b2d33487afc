import MiniRpc.RpcServer.Equiv.Results
import MiniRpc.RpcServer.Equiv.Session

/-!
# The frames of a server

* `Outgoing`: the frames in the outbox are responses on record, and a response answers a `Request`
  frame of its connection with its id.
* `Quiet`: without the network, what the server puts into its outbox is what it records as sent, and
  nothing arrives.
* `Delivery`: what the arrival of a frame does.
-/

namespace MiniRpc.RpcServer

variable {cfg : Config} {proper network : Prop} {s s' s'' : State} {phase phase' : Phase}
  {conn : ConnId} {msg : Bytes}

/-! ### The frames in the outbox -/

/-- The frame with this number is a request on the connection with this id. -/
def Requested (trace : List Event) (conn : ConnId) (id : UInt64) (frame : FrameId) : Prop :=
  ∃ request, .requestReceived frame conn request ∈ trace ∧ request.requestId_ = id

theorem Requested.mono {trace trace' : List Event} {id : UInt64} {frame : FrameId}
    (htrace : trace ⊆ trace') (h : Requested trace conn id frame) :
    Requested trace' conn id frame := by
  obtain ⟨request, hmem, hid⟩ := h
  exact ⟨request, htrace hmem, hid⟩

/-- The outbox holds responses on record, and a response answers a request that was received. -/
structure Outgoing (s : State) (phase : Phase) : Prop where
  outbox : ∀ c frame, (c, frame) ∈ s.outbox → ∃ id origin, .responded c id origin frame ∈ s.trace
  answering : ∀ conn id origin r, phase = .answering conn id origin r →
    Requested s.trace conn id origin.frame
  responded : ∀ conn id origin output, .responded conn id origin output ∈ s.trace →
    Requested s.trace conn id origin.frame

theorem outgoing_init : Outgoing (.init cfg) .idle where
  outbox _ _ h := by cases h
  answering _ _ _ _ h := by cases h
  responded _ _ _ _ h := by cases h

theorem Transition.requested (ht : Transition cfg proper network (s, phase) (s', phase'))
    (hserved : Served cfg s phase) {id : UInt64} {origin : Origin} {r : RpcResult}
    (h : phase' = .answering conn id origin r) : Requested s'.trace conn id origin.frame := by
  cases ht with
  | invokeSync | unknownMethod | refuseLimit =>
    obtain ⟨rfl, rfl, rfl, -⟩ := Phase.answering.inj h
    refine ⟨_, ?_, rfl⟩
    first
      | exact hserved.received _ _ _ rfl
      | exact .tail _ (hserved.received _ _ _ rfl)
      | exact .tail _ (.tail _ (hserved.received _ _ _ rfl))
  | take htasks =>
    obtain ⟨rfl, rfl, rfl, -⟩ := Phase.answering.inj h
    obtain ⟨r', hreplied, -⟩ := hserved.queued _ _ ⟨_, mem_head htasks⟩
    exact ⟨_, hreplied.known.received, rfl⟩
  | _ => cases h

theorem Outgoing.step (h : Outgoing s phase) (hserved : Served cfg s phase)
    (ht : Transition cfg proper network (s, phase) (s', phase')) : Outgoing s' phase' := by
  have htrace : s.trace ⊆ s'.trace := ht.trace_subset
  refine ⟨fun c frame hmem => ?_, fun conn id origin r => ht.requested hserved,
    fun conn id origin output hmem => ?_⟩
  · -- only a response is added to the outbox
    have hold : (c, frame) ∈ s.outbox → ∃ id origin, .responded c id origin frame ∈ s'.trace :=
      fun hmem => by
        obtain ⟨id, origin, hresponded⟩ := h.outbox c frame hmem
        exact ⟨id, origin, htrace hresponded⟩
    cases ht with
    | respond =>
      rcases List.mem_append.mp hmem with hmem | hmem
      · exact hold hmem
      · obtain ⟨rfl, rfl⟩ := Prod.mk.inj (List.mem_singleton.mp hmem)
        exact ⟨_, _, List.mem_cons_self⟩
    | transmit => exact hold (Channel.mem_of_mem_dropFirst hmem)
    | _ => exact hold hmem
  · rcases ht.responded hmem with hold | ⟨r, hphase, -, -⟩
    · exact (h.responded _ _ _ _ hold).mono htrace
    · exact (h.answering _ _ _ _ hphase).mono htrace

theorem outgoing_of_reachable (h : (machine cfg).Reachable s) : Outgoing s .idle :=
  (invariant (P := fun x => Served cfg x.1 x.2 ∧ Outgoing x.1 x.2) ⟨served_init, outgoing_init⟩
    (fun _ _ hP ht => ⟨hP.1.step ht, hP.2.step hP.1 ht⟩) h).2

/-! ### Without the network -/

/-- A frame arrived. -/
def Event.isArrival : Event → Bool
  | .requestReceived .. | .cancelReceived .. => true
  | _ => false

/-- What the steps from `s` to `s'` put into the outbox is what they record as sent, nothing
arrives, and a connection that has not begun to close had not begun before. -/
structure Quiet (s s' : State) : Prop where
  open_of : ∀ c, (s'.connections c).closing = false → (s.connections c).closing = false
  trace : ∃ es, s'.trace = es ++ s.trace ∧ ∀ e ∈ es, e.isArrival = false
  responses : ∀ c i, responses s'.trace c i + s.outbox.count c (carriesResponse i) =
    responses s.trace c i + s'.outbox.count c (carriesResponse i)

theorem Quiet.refl (s : State) : Quiet s s :=
  ⟨fun _ => id, ⟨[], rfl, List.forall_mem_nil _⟩, fun _ _ => rfl⟩

theorem Quiet.trans (h : Quiet s s') (h' : Quiet s' s'') : Quiet s s'' where
  open_of c hopen := h.open_of c (h'.open_of c hopen)
  trace := by
    obtain ⟨es, heq, hes⟩ := h.trace
    obtain ⟨es', heq', hes'⟩ := h'.trace
    refine ⟨es' ++ es, by rw [heq', heq, List.append_assoc], fun e he => ?_⟩
    exact (List.mem_append.mp he).elim (hes' e) (hes e)
  responses c i := by
    have hfirst := h.responses c i
    have hsecond := h'.responses c i
    omega

theorem Quiet.countP (h : Quiet s s') {p : Event → Bool}
    (hp : ∀ e, e.isArrival = false → p e = false) :
    s'.trace.countP p = s.trace.countP p := by
  obtain ⟨es, heq, hes⟩ := h.trace
  have hzero : es.countP p = 0 := List.countP_eq_zero.mpr fun e he => by simp [hp e (hes e he)]
  rw [heq, List.countP_append, hzero, Nat.zero_add]

theorem Quiet.requests (h : Quiet s s') (c : ConnId) (i : UInt64) :
    requests s'.trace c i = requests s.trace c i :=
  h.countP fun e he => by cases e <;> first | rfl | cases he

theorem Quiet.cancels (h : Quiet s s') (c : ConnId) (i : UInt64) :
    cancels s'.trace c i = cancels s.trace c i :=
  h.countP fun e he => by cases e <;> first | rfl | cases he

theorem Quiet.received (h : Quiet s s') {n : FrameId} {c : ConnId} {q : RpcRequest}
    (hmem : .requestReceived n c q ∈ s'.trace) : .requestReceived n c q ∈ s.trace := by
  obtain ⟨es, heq, hes⟩ := h.trace
  rw [heq, List.mem_append] at hmem
  exact hmem.resolve_left fun hnew => by cases hes _ hnew

/-- A connection that changes has begun to close or had not begun before. -/
theorem open_of_update {connections : ConnId → Connection} {c' : Connection} {c : ConnId}
    (hc : c'.closing = false → (connections conn).closing = false)
    (h : (Function.update connections conn c' c).closing = false) :
    (connections c).closing = false := by
  by_cases hne : c = conn
  · subst hne
    rw [Function.update_self] at h
    exact hc h
  · rwa [Function.update_of_ne hne] at h

theorem Transition.quiet (ht : Transition cfg proper False (s, phase) (s', phase')) :
    Quiet s s' := by
  have hone : ∀ {e : Event}, e.isArrival = false →
      ∃ es, e :: s.trace = es ++ s.trace ∧ ∀ e' ∈ es, e'.isArrival = false :=
    fun he => ⟨[_], rfl, List.forall_mem_singleton.mpr he⟩
  have htwo : ∀ {e e' : Event}, e.isArrival = false → e'.isArrival = false →
      ∃ es, e :: e' :: s.trace = es ++ s.trace ∧ ∀ e'' ∈ es, e''.isArrival = false :=
    fun he he' => ⟨[_, _], rfl, List.forall_mem_cons.mpr ⟨he, List.forall_mem_singleton.mpr he'⟩⟩
  cases ht with
  -- the arrivals and the departures are the network's
  | receive _ _ hnetwork | cancel _ _ _ hnetwork | cancelNone _ hnetwork
  | transmit _ hnetwork => exact hnetwork.elim
  | @respond _ conn requestId origin r hvalid =>
    refine ⟨fun _ => id, hone rfl, fun c i => ?_⟩
    show responses (.responded conn requestId origin _ :: s.trace) c i + _ =
      _ + Channel.count (s.outbox ++ [(conn, _)]) c _
    rw [responses_cons, Channel.count_send, carriesResponse_response hvalid,
      requestId_limitedResponse, ofRequest]
    simp only [decide_eq_true_eq]
    omega
  | invokeSync | refuse => exact ⟨fun _ => id, htwo rfl rfl, fun _ _ => rfl⟩
  | refuseDuplicate =>
    exact ⟨fun _ => open_of_update fun hclosing => (by cases hclosing), htwo rfl rfl,
      fun _ _ => rfl⟩
  | close | forceClose | down =>
    exact ⟨fun _ => open_of_update fun hclosing => (by cases hclosing), hone rfl, fun _ _ => rfl⟩
  | up => exact ⟨fun _ => open_of_update id, ⟨[], rfl, List.forall_mem_nil _⟩, fun _ _ => rfl⟩
  | closing _ _ hclosing =>
    exact ⟨fun _ => open_of_update fun hopen => (by cases hclosing.symm.trans hopen),
      ⟨[], rfl, List.forall_mem_nil _⟩, fun _ _ => rfl⟩
  | refuseLimit | startHandler | refuseReplied | workerTake | handlerThrows | userReply
  | stopCompleted => exact ⟨fun _ => id, hone rfl, fun _ _ => rfl⟩
  | _ => exact ⟨fun _ => id, ⟨[], rfl, List.forall_mem_nil _⟩, fun _ _ => rfl⟩

theorem quiet_of_steps (h : Steps cfg False False (s, phase) (s', phase')) : Quiet s s' :=
  Machine.preserved_of_chain (P := fun x => Quiet s x.1)
    (fun _ _ hquiet ht => hquiet.trans ht.quiet) h (.refl s)

theorem quiet_of_step {a : Action} (ha : a.isNetwork = false) (h : step cfg s a = some s') :
    Quiet s s' :=
  quiet_of_steps (steps_step False.elim (fun hnetwork => by cases ha.symm.trans hnetwork) h)

/-! ### The network -/

theorem trace_subset_of_step {a : Action} (h : step cfg s a = some s') : s.trace ⊆ s'.trace := by
  have hsteps : Steps cfg False True (s, .idle) (s', .idle) :=
    steps_step False.elim (fun _ => trivial) h
  refine Machine.preserved_of_chain (P := fun x => s.trace ⊆ x.1.trace) (fun _ _ hsubset ht => ?_)
    hsteps (List.Subset.refl _)
  exact List.Subset.trans hsubset ht.trace_subset

/-- What the decoders accept is what the frame carries. -/
theorem ofFrame?_of_incoming {maxMessageSize : ℕ} :
    match incoming maxMessageSize msg with
    | .invalid => True
    | .cancel requestId => RpcMessage.ofFrame? msg = some (.cancel ⟨requestId⟩)
    | .request request => RpcMessage.ofFrame? msg = some (.request request) := by
  unfold incoming RpcMessage.ofFrame?
  split_ifs
  · trivial
  · cases decodeHead msg with
    | none => trivial
    | some head =>
      cases head with
      | kResponse => trivial
      | kCancel =>
        rcases RpcCancel.empty.decode msg [] with ⟨res, cancel, errorMessage⟩
        dsimp only
        split_ifs with hfail
        · trivial
        · simp only [not_or, not_not, Bool.not_eq_false] at hfail
          obtain ⟨rfl, rfl⟩ := hfail
          rfl
      | kRequest =>
        rcases RpcRequest.empty.decode msg [] with ⟨res, request, errorMessage⟩
        dsimp only
        split_ifs with hfail
        · trivial
        · simp only [not_or, not_not, Bool.not_eq_false] at hfail
          obtain ⟨rfl, rfl⟩ := hfail
          rfl

/-- A frame arrives: the server closes the connection, cancels a request or dispatches one. -/
theorem onRpcMessage_cases (cfg : Config) (s : State) (conn : ConnId) (msg : Bytes)
    (outcome : Option RpcResult) :
    onRpcMessage cfg s conn msg outcome = forceClose s conn ∨
    (∃ requestId, RpcMessage.ofFrame? msg = some (.cancel ⟨requestId⟩) ∧
      onRpcMessage cfg s conn msg outcome = cancelAsync s conn requestId) ∨
    ∃ request, RpcMessage.ofFrame? msg = some (.request request) ∧
      onRpcMessage cfg s conn msg outcome = onRequest cfg s conn request outcome := by
  have hframe := @ofFrame?_of_incoming msg cfg.effectiveMaxMessageSize
  rw [onRpcMessage_eq]
  cases hmsg : incoming cfg.effectiveMaxMessageSize msg with
  | invalid => exact .inl rfl
  | cancel requestId =>
    rw [hmsg] at hframe
    exact .inr (.inl ⟨requestId, hframe, rfl⟩)
  | request request =>
    rw [hmsg] at hframe
    exact .inr (.inr ⟨request, hframe, rfl⟩)

/-- What the arrival of a frame on a connection does. -/
structure Delivery (s s' : State) (conn : ConnId) (frame : Bytes) : Prop where
  open_of : ∀ c, (s'.connections c).closing = false → (s.connections c).closing = false
  received : ∀ n c q, .requestReceived n c q ∈ s'.trace → .requestReceived n c q ∈ s.trace ∨
    c = conn ∧ RpcMessage.ofFrame? frame = some (.request q)
  requests_le : ∀ c i, requests s'.trace c i ≤
    requests s.trace c i + if conn = c ∧ carriesRequest i frame = true then 1 else 0
  requests : ∀ c i, (s'.connections c).closing = false → requests s'.trace c i =
    requests s.trace c i + if conn = c ∧ carriesRequest i frame = true then 1 else 0
  cancels : ∀ c i, cancels s'.trace c i ≤
    cancels s.trace c i + if conn = c ∧ carriesCancel i frame = true then 1 else 0
  responses : ∀ c i, responses s'.trace c i + s.outbox.count c (carriesResponse i) =
    responses s.trace c i + s'.outbox.count c (carriesResponse i)

/-- The frame is neither a valid request nor a valid cancel. -/
theorem delivery_forceClose (s : State) (conn : ConnId) (frame : Bytes) :
    Delivery s (forceClose s conn) conn frame where
  open_of _ := open_of_update fun hclosing => by cases hclosing
  received _ _ _ hmem := .inl ((List.mem_cons.mp hmem).resolve_left fun heq => by cases heq)
  requests_le _ _ := Nat.le_add_right _ _
  requests c i hopen := by
    have hne : ¬ (conn = c ∧ carriesRequest i frame = true) := fun hmatch => by
      obtain ⟨rfl, -⟩ := hmatch
      have hclosing : ((forceClose s conn).connections conn).closing = true :=
        congrArg Connection.closing (s.connections_setConnection_self conn _)
      cases hclosing.symm.trans hopen
    rw [if_neg hne]
    rfl
  cancels _ _ := Nat.le_add_right _ _
  responses _ _ := rfl

theorem delivery_cancelAsync (s : State) (conn : ConnId) {requestId : UInt64} {frame : Bytes}
    (hframe : RpcMessage.ofFrame? frame = some (.cancel ⟨requestId⟩)) :
    Delivery s (cancelAsync s conn requestId) conn frame := by
  have hrequest : ∀ i, carriesRequest i frame = false := fun i => by
    rw [carriesRequest, hframe]
  refine ⟨fun _ => id, fun n c q hmem => .inl ?_, fun c i => Nat.le_add_right _ _,
    fun c i _ => ?_, fun c i => ?_, fun _ _ => rfl⟩
  · exact (List.mem_cons.mp hmem).resolve_left fun heq => by cases heq
  · simp only [hrequest, Bool.false_eq_true, and_false, if_false]
    rfl
  · rw [carriesCancel, hframe]
    simp only [decide_eq_true_eq]
    show cancels (.cancelReceived conn requestId _ :: s.trace) c i ≤ _
    cases s.cancellationRegistry_.find? conn requestId with
    | none => exact Nat.le_add_right _ _
    | some token => exact (cancels_cons s.trace conn requestId token c i).le

theorem delivery_onRequest (cfg : Config) (s : State) (conn : ConnId) {request : RpcRequest}
    {frame : Bytes} (hframe : RpcMessage.ofFrame? frame = some (.request request))
    (outcome : Option RpcResult) :
    Delivery s (onRequest cfg s conn request outcome) conn frame := by
  -- The frame gets its number, and what follows is quiet.
  have hquiet : Quiet (receive s conn request) (onRequest cfg s conn request outcome) :=
    quiet_of_steps (steps_dispatch request outcome)
  have hrequests : ∀ c i, requests (onRequest cfg s conn request outcome).trace c i =
      requests s.trace c i + if conn = c ∧ carriesRequest i frame = true then 1 else 0 :=
    fun c i => by
      rw [hquiet.requests, carriesRequest, hframe]
      simp only [decide_eq_true_eq]
      exact requests_cons s.trace s.nextFrame conn request c i
  refine ⟨hquiet.open_of, fun n c q hmem => ?_, fun c i => (hrequests c i).le,
    fun c i _ => hrequests c i, fun c i => ?_, hquiet.responses⟩
  · rcases List.mem_cons.mp (hquiet.received hmem) with heq | hmem
    · obtain ⟨-, rfl, rfl⟩ := Event.requestReceived.inj heq
      exact .inr ⟨rfl, hframe⟩
    · exact .inl hmem
  · exact (hquiet.cancels c i).trans_le (Nat.le_add_right _ _)

/-- A frame arrives on a connection. -/
theorem delivery_of_step {outcome : Option RpcResult}
    (h : step cfg s (.deliver conn msg outcome) = some s') : Delivery s s' conn msg := by
  cases stepped_of_step h
  rcases onRpcMessage_cases cfg s conn msg outcome with
    heq | ⟨requestId, hframe, heq⟩ | ⟨request, hframe, heq⟩
  · rw [heq]
    exact delivery_forceClose s conn msg
  · rw [heq]
    exact delivery_cancelAsync s conn hframe
  · rw [heq]
    exact delivery_onRequest cfg s conn hframe outcome

/-! ### Connections that are down -/

/-- A connection whose close was reported has begun to close. -/
theorem closing_of_down (h : (machine cfg).Reachable s)
    (hdown : (s.connections conn).state = .kDown) : (s.connections conn).closing = true := by
  refine invariant (P := fun x => ∀ c, (x.1.connections c).state = .kDown →
    (x.1.connections c).closing = true) (fun _ hinit => by cases hinit) ?_ h conn hdown
  rintro ⟨t, phase⟩ ⟨t', phase'⟩ hold ht c hstate
  have hupdate : ∀ {conn : ConnId} {c' : Connection},
      ((Function.update t.connections conn c' c).state = .kDown) →
      (c'.state = .kDown → c'.closing = true) →
        (Function.update t.connections conn c' c).closing = true := fun {conn c'} hstate hc' => by
    by_cases hc : c = conn
    · subst hc
      rw [Function.update_self] at hstate ⊢
      exact hc' hstate
    · rw [Function.update_of_ne hc] at hstate ⊢
      exact hold c hstate
  cases ht with
  | up => exact hupdate hstate fun hc => by cases hc
  | closing _ hc => exact hupdate hstate fun hc' => by cases hc.symm.trans hc'
  | forceClose | close | refuseDuplicate | down => exact hupdate hstate fun _ => rfl
  | _ => exact hold c hstate

end MiniRpc.RpcServer
