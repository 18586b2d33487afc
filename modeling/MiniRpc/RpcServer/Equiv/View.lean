import MiniRpc.RpcServer.Equiv.Confined
import MiniRpc.RpcServer.Equiv.Results

/-!
# What a server does for one connection

`view B` is what a server does for connection `B`, as a `Session`: its requests are numbered in the
order they were received on `B`, whatever numbers their frames have.  An asynchronous handler that
the loop of `B` is about to call counts as called.

`Untouched B` is a step that changes nothing of that; operations on the other connections are such
steps.
-/

namespace MiniRpc.RpcServer

variable {cfg : Config} {s s' : State} {B : ConnId} {inv : Invocation}

/-! ### Observers -/

def Event.received? (B : ConnId) : Event → Option (FrameId × RpcRequest)
  | .requestReceived frame conn request => if conn = B then some (frame, request) else none
  | _ => none

def Event.answer? (B : ConnId) : Event → Option Answer
  | .responded conn requestId _ output =>
    if conn = B then some (.response requestId output) else none
  | .forceClosed conn => if conn = B then some .forceClosed else none
  | _ => none

def Event.invocation? (B : ConnId) : Event → Option (RpcRequest × Handler)
  | .invoked _ conn request handler => if conn = B then some (request, handler) else none
  | _ => none

def Event.result? (n : FrameId) : Event → Option RpcResult
  | .finished frame rpcResult => if frame = n then rpcResult else none
  | _ => none

/-- The handler that an operation in progress is about to call. -/
def submitted? (B : ConnId) : Thread × Activity → Option (RpcRequest × Handler)
  | (_, .submit inv) => if inv.conn = B then some (inv.request, .async inv.handler) else none
  | _ => none

/-- The requests received on a connection with the numbers of their frames, the oldest first. -/
def receivedOn (B : ConnId) (trace : List Event) : List (FrameId × RpcRequest) :=
  (trace.filterMap (Event.received? B)).reverse

def framesOn (B : ConnId) (trace : List Event) : List FrameId := (receivedOn B trace).map Prod.fst

def requestsOn (B : ConnId) (trace : List Event) : List RpcRequest :=
  (receivedOn B trace).map Prod.snd

/-- The result on record for a frame. -/
def resultOf (n : FrameId) (trace : List Event) : Option RpcResult :=
  trace.findSome? (Event.result? n)

/-- The responses and the force-closes on a connection, the latest first. -/
def answersOn (B : ConnId) (trace : List Event) : List Answer :=
  trace.filterMap (Event.answer? B)

/-- The handlers called for requests of a connection, the latest first. -/
def invocationsOn (B : ConnId) (s : State) : List (RpcRequest × Handler) :=
  s.running.filterMap (submitted? B) ++ s.trace.filterMap (Event.invocation? B)

/-- The numbers on a connection of the requests whose token is cancelled. -/
def canceledOn (B : ConnId) (s : State) : Set ℕ :=
  { j | ∃ n ∈ s.cancellationRegistry_.canceled_, (framesOn B s.trace)[j]? = some n }

/-- What the server does for a connection. -/
def view (B : ConnId) (s : State) : Session where
  connection := s.connections B
  requests := requestsOn B s.trace
  entries i := (s.cancellationRegistry_.find? B i).map (framesOn B s.trace).idxOf
  canceled := canceledOn B s
  results j := (framesOn B s.trace)[j]?.bind fun n => resultOf n s.trace
  answers := answersOn B s.trace
  invocations := invocationsOn B s

/-! ### Frames -/

variable {trace : List Event} {n : FrameId} {request : RpcRequest}

theorem mem_receivedOn : (n, request) ∈ receivedOn B trace ↔
    .requestReceived n B request ∈ trace := by
  rw [receivedOn, List.mem_reverse, List.mem_filterMap]
  constructor
  · rintro ⟨e, he, hreceived⟩
    cases e with
    | requestReceived frame conn request' =>
      simp only [Event.received?] at hreceived
      split_ifs at hreceived with hconn
      obtain ⟨rfl, rfl⟩ := Prod.mk.inj (Option.some.inj hreceived)
      exact hconn ▸ he
    | _ => cases hreceived
  · intro hmem
    exact ⟨_, hmem, if_pos rfl⟩

theorem mem_framesOn : n ∈ framesOn B trace ↔ ∃ request, .requestReceived n B request ∈ trace := by
  rw [framesOn, List.mem_map]
  constructor
  · rintro ⟨⟨n', request⟩, hmem, rfl⟩
    exact ⟨request, mem_receivedOn.mp hmem⟩
  · rintro ⟨request, hmem⟩
    exact ⟨(n, request), mem_receivedOn.mpr hmem, rfl⟩

/-- Elements that satisfy a test that only one element satisfies are the same. -/
theorem eq_of_countP_le_one {α : Type} {p : α → Bool} {l : List α} (h : l.countP p ≤ 1) {x y : α}
    (hx : x ∈ l) (hy : y ∈ l) (hpx : p x = true) (hpy : p y = true) : x = y := by
  obtain ⟨xs, ys, rfl⟩ := List.append_of_mem hx
  rw [List.countP_append, List.countP_cons_of_pos hpx] at h
  rcases List.mem_append.mp hy with hy | hy
  · have hpos := List.countP_pos_iff.mpr ⟨y, hy, hpy⟩
    omega
  · rcases List.mem_cons.mp hy with heq | hy
    · exact heq.symm
    · have hpos := List.countP_pos_iff.mpr ⟨y, hy, hpy⟩
      omega

/-- A number belongs to one request of one connection. -/
theorem Numbered.unique {nextFrame : FrameId} (h : Numbered nextFrame trace) {c c' : ConnId}
    {q q' : RpcRequest} (hmem : .requestReceived n c q ∈ trace)
    (hmem' : .requestReceived n c' q' ∈ trace) : c = c' ∧ q = q' := by
  have heq := eq_of_countP_le_one (h.once n) hmem hmem' (decide_eq_true rfl) (decide_eq_true rfl)
  obtain ⟨-, rfl, rfl⟩ := Event.requestReceived.inj heq
  exact ⟨rfl, rfl⟩

theorem count_framesOn_le (B : ConnId) (n : FrameId) (trace : List Event) :
    (framesOn B trace).count n ≤ received (isFrame n) trace := by
  induction trace with
  | nil => exact le_rfl
  | cons e trace ih =>
    have hmono : received (isFrame n) trace ≤ received (isFrame n) (e :: trace) :=
      (List.sublist_cons_self e trace).countP_le
    cases hreceived : e.received? B with
    | none =>
      have heq : framesOn B (e :: trace) = framesOn B trace := by
        unfold framesOn receivedOn
        rw [List.filterMap_cons_none hreceived]
      rw [heq]
      exact ih.trans hmono
    | some fr =>
      have heq : framesOn B (e :: trace) = framesOn B trace ++ [fr.1] := by
        unfold framesOn receivedOn
        rw [List.filterMap_cons_some hreceived, List.reverse_cons, List.map_append]
        rfl
      cases e with
      | requestReceived frame conn request =>
        simp only [Event.received?] at hreceived
        split_ifs at hreceived
        obtain rfl := Option.some.inj hreceived
        rw [heq, List.count_append, received_cons, indicator, List.count_singleton]
        refine Nat.add_le_add ih (le_of_eq ?_)
        simp only [isFrame, beq_iff_eq, decide_eq_true_eq]
      | _ => cases hreceived

theorem Numbered.nodup {nextFrame : FrameId} (h : Numbered nextFrame trace) (B : ConnId) :
    (framesOn B trace).Nodup :=
  List.nodup_iff_count_le_one.mpr fun n => (count_framesOn_le B n trace).trans (h.once n)

theorem getElem?_framesOn {nextFrame : FrameId} (h : Numbered nextFrame trace) {j : ℕ} :
    (framesOn B trace)[j]? = some n ↔
      n ∈ framesOn B trace ∧ (framesOn B trace).idxOf n = j := by
  constructor
  · intro hj
    obtain ⟨hlt, hget⟩ := List.getElem?_eq_some_iff.mp hj
    refine ⟨List.mem_of_getElem? hj, ?_⟩
    rw [← hget]
    exact (h.nodup B).idxOf_getElem _ _
  · rintro ⟨hmem, rfl⟩
    exact List.getElem?_idxOf hmem

/-- The request with a number on a connection. -/
theorem getElem?_requestsOn {nextFrame : FrameId} (h : Numbered nextFrame trace)
    (hmem : .requestReceived n B request ∈ trace) :
    (requestsOn B trace)[(framesOn B trace).idxOf n]? = some request := by
  have hn : n ∈ framesOn B trace := mem_framesOn.mpr ⟨request, hmem⟩
  have hj := List.getElem?_idxOf hn
  unfold framesOn at hj
  rw [List.getElem?_map, Option.map_eq_some_iff] at hj
  obtain ⟨⟨n', request'⟩, hreceived, rfl⟩ := hj
  unfold requestsOn
  rw [List.getElem?_map]
  have hmem' := mem_receivedOn.mp (List.mem_of_getElem? hreceived)
  obtain ⟨-, rfl⟩ := h.unique hmem hmem'
  exact congrArg (Option.map Prod.snd) hreceived

theorem length_requestsOn (B : ConnId) (trace : List Event) :
    (requestsOn B trace).length = (framesOn B trace).length := by
  rw [requestsOn, framesOn, List.length_map, List.length_map]

/-! ### What is no event of the connection -/

/-- Nothing that the session of the connection depends on is changed. -/
structure Untouched (B : ConnId) (s s' : State) : Prop where
  connection : s'.connections B = s.connections B
  received : receivedOn B s'.trace = receivedOn B s.trace
  find : ∀ i, s'.cancellationRegistry_.find? B i = s.cancellationRegistry_.find? B i
  canceled : ∀ n ∈ framesOn B s.trace,
    (n ∈ s'.cancellationRegistry_.canceled_ ↔ n ∈ s.cancellationRegistry_.canceled_)
  results : ∀ n ∈ framesOn B s.trace, resultOf n s'.trace = resultOf n s.trace
  answers : answersOn B s'.trace = answersOn B s.trace
  invocations : invocationsOn B s' = invocationsOn B s

theorem Untouched.frames (h : Untouched B s s') : framesOn B s'.trace = framesOn B s.trace :=
  congrArg (List.map Prod.fst) h.received

theorem Untouched.trans {s'' : State} (h : Untouched B s s') (h' : Untouched B s' s'') :
    Untouched B s s'' where
  connection := h'.connection.trans h.connection
  received := h'.received.trans h.received
  find i := (h'.find i).trans (h.find i)
  canceled n hn := (h'.canceled n (h.frames ▸ hn)).trans (h.canceled n hn)
  results n hn := (h'.results n (h.frames ▸ hn)).trans (h.results n hn)
  answers := h'.answers.trans h.answers
  invocations := h'.invocations.trans h.invocations

theorem Untouched.view_eq (h : Untouched B s s') : view B s' = view B s := by
  have hframes := h.frames
  -- the numbers of the frames are the same, so everything is told in the same numbers
  have hentries : (fun i => (s'.cancellationRegistry_.find? B i).map (framesOn B s'.trace).idxOf) =
      fun i => (s.cancellationRegistry_.find? B i).map (framesOn B s.trace).idxOf := by
    funext i
    rw [h.find, hframes]
  have hcanceled : canceledOn B s' = canceledOn B s := by
    ext j
    unfold canceledOn
    rw [Set.mem_ofPred_eq, Set.mem_ofPred_eq, hframes]
    constructor
    · rintro ⟨n, hn, hj⟩
      exact ⟨n, (h.canceled n (List.mem_of_getElem? hj)).mp hn, hj⟩
    · rintro ⟨n, hn, hj⟩
      exact ⟨n, (h.canceled n (List.mem_of_getElem? hj)).mpr hn, hj⟩
  have hresults : (fun j : ℕ => (framesOn B s'.trace)[j]?.bind fun n => resultOf n s'.trace) =
      fun j : ℕ => (framesOn B s.trace)[j]?.bind fun n => resultOf n s.trace := by
    funext j
    rw [hframes]
    cases hj : (framesOn B s.trace)[j]? with
    | none => rfl
    | some n => exact h.results n (List.mem_of_getElem? hj)
  have hrequests : requestsOn B s'.trace = requestsOn B s.trace :=
    congrArg (List.map Prod.snd) h.received
  unfold view
  rw [h.connection, hentries, hcanceled, hresults, hrequests, h.answers, h.invocations]

/-- What is changed is not what matters here. -/
theorem Untouched.of_frame (hconnection : s'.connections B = s.connections B)
    (hregistry : s'.cancellationRegistry_ = s.cancellationRegistry_)
    (hrunning : s'.running = s.running) (htrace : s'.trace = s.trace) : Untouched B s s' where
  connection := hconnection
  received := by rw [htrace]
  find i := by rw [hregistry]
  canceled n _ := by rw [hregistry]
  results n _ := by rw [htrace]
  answers := by rw [htrace]
  invocations := by rw [invocationsOn, invocationsOn, hrunning, htrace]

/-- Whether an event is none of the connection. -/
structure Event.Foreign (B : ConnId) (trace : List Event) (e : Event) : Prop where
  received : e.received? B = none
  answer : e.answer? B = none
  invocation : e.invocation? B = none
  result : ∀ n ∈ framesOn B trace, e.result? n = none

theorem untouched_emit {e : Event} (h : e.Foreign B s.trace) : Untouched B s (s.emit e) where
  connection := rfl
  received := congrArg List.reverse (List.filterMap_cons_none h.received)
  find _ := rfl
  canceled _ _ := .rfl
  results n hn := by
    show (e :: s.trace).findSome? (Event.result? n) = s.trace.findSome? (Event.result? n)
    rw [List.findSome?_cons, h.result n hn]
  answers := List.filterMap_cons_none h.answer
  invocations := congrArg (s.running.filterMap (submitted? B) ++ ·)
    (List.filterMap_cons_none h.invocation)

variable {c : ConnId}

theorem foreign_of_ne (hne : c ≠ B) (trace : List Event) :
    (∀ id origin output, (Event.responded c id origin output).Foreign B trace) ∧
      (Event.forceClosed c).Foreign B trace ∧
      (∀ n request, (Event.requestReceived n c request).Foreign B trace) ∧
      ∀ n request handler, (Event.invoked n c request handler).Foreign B trace :=
  ⟨fun _ _ _ => ⟨rfl, if_neg hne, rfl, fun _ _ => rfl⟩, ⟨rfl, if_neg hne, rfl, fun _ _ => rfl⟩,
    fun _ _ => ⟨if_neg hne, rfl, rfl, fun _ _ => rfl⟩,
    fun _ _ _ => ⟨rfl, rfl, if_neg hne, fun _ _ => rfl⟩⟩

theorem foreign_finished (hn : n ∉ framesOn B trace) (o : Option RpcResult) :
    (Event.finished n o).Foreign B trace :=
  ⟨rfl, rfl, rfl, fun m hmem => if_neg fun heq : n = m => hn (heq ▸ hmem)⟩

theorem untouched_forceClose (hne : c ≠ B) (s : State) : Untouched B s (forceClose s c) := by
  have hclosed : Untouched B s (s.setConnection c (s.connections c).close) :=
    .of_frame (State.connections_setConnection_of_ne s _ hne.symm) rfl rfl rfl
  exact hclosed.trans (untouched_emit (foreign_of_ne hne _).2.1)

theorem untouched_send (hne : c ≠ B) (s : State) (output : Bytes) (requestId : UInt64)
    (origin : Origin) : Untouched B s (s.send c output (.responded c requestId origin output)) := by
  have hsent : Untouched B s { s with outbox := s.outbox ++ [(c, output)] } :=
    .of_frame rfl rfl rfl rfl
  exact hsent.trans (untouched_emit ((foreign_of_ne hne _).1 _ _ _))

theorem untouched_sendFramedData (hne : c ≠ B) (s : State) (requestId : UInt64) (origin : Origin)
    (r : RpcResult) (maxMessageSize : ℕ) :
    Untouched B s (sendFramedData s c requestId origin r maxMessageSize) := by
  rw [sendFramedData_eq_answer]
  split
  · exact untouched_forceClose hne s
  · split
    · exact untouched_send hne s _ _ _
    · exact .of_frame rfl rfl rfl rfl

theorem untouched_invokeSyncHandler (hne : c ≠ B) (s : State) (hn : n ∉ framesOn B s.trace)
    (outcome : Option RpcResult) :
    Untouched B s (invokeSyncHandler cfg s n c request outcome) := by
  unfold invokeSyncHandler
  split
  · exact .of_frame rfl rfl rfl rfl
  · rename_i handler hhandler
    have hinvoked : Untouched B s (s.emit (.invoked n c request (.sync handler))) :=
      untouched_emit ((foreign_of_ne hne _).2.2.2 _ _ _)
    have hfinished := hinvoked.trans
      (untouched_emit (foreign_finished (hinvoked.frames ▸ hn) outcome))
    dsimp only
    split
    · exact hfinished.trans (untouched_sendFramedData hne _ _ _ _ _)
    · split
      · exact hfinished.trans (untouched_sendFramedData hne _ _ _ _ _)
      · exact hfinished.trans (untouched_sendFramedData hne _ _ _ _ _)

theorem untouched_rejected (s : State) (n : FrameId) (c : ConnId) (request : RpcRequest) :
    Untouched B s (s.emit (.rejected n c request)) :=
  untouched_emit ⟨rfl, rfl, rfl, fun _ _ => rfl⟩

theorem untouched_invokeAsyncHandler (hne : c ≠ B) (s : State) (n : FrameId)
    (request : RpcRequest) : Untouched B s (invokeAsyncHandler cfg s n c request) := by
  unfold invokeAsyncHandler
  split
  · exact .of_frame rfl rfl rfl rfl
  · rename_i handler hhandler
    rcases hregister : s.cancellationRegistry_.registerToken c request.requestId_ n
      with ⟨res, registry⟩
    have hrejected : Untouched B s (s.emit (.rejected n c request)) :=
      untouched_rejected s n c request
    cases res with
    | kDuplicateRequestId => exact hrejected.trans (untouched_forceClose hne _)
    | kConnectionLimitReached | kGlobalLimitReached =>
      exact hrejected.trans (untouched_sendFramedData hne _ _ _ _ _)
    | kRegistered =>
      rcases CancellationRegistry.registerToken_cases s.cancellationRegistry_ c request.requestId_ n
        with ⟨reg', heq, -, hcanceled, hfind⟩ | ⟨status, hstatus, heq⟩
      · -- the new entry and the new operation belong to the other connection
        obtain ⟨-, rfl⟩ := Prod.mk.inj (hregister.symm.trans heq)
        refine ⟨rfl, rfl, fun i => ?_, fun m _ => ?_, fun _ _ => rfl, rfl, ?_⟩
        · exact (hfind B i).trans (if_neg fun hmatch => hne hmatch.1.symm)
        · exact (congrArg (m ∈ ·) hcanceled).to_iff
        · exact congrArg (· ++ _) (List.filterMap_cons_none (if_neg hne))
      · exact absurd (Prod.mk.inj (hregister.symm.trans heq)).1.symm hstatus

/-- The tokens of the connection are not those of another. -/
theorem Laws.not_mem_framesOn {phase : Phase} (h : Laws cfg s phase) (hne : c ≠ B) {i : UInt64}
    {t : TokenId} (hfound : s.cancellationRegistry_.find? c i = some t) :
    t ∉ framesOn B s.trace := by
  intro hmem
  obtain ⟨request, hreceived⟩ := h.owned c i t hfound
  obtain ⟨request', hreceived'⟩ := mem_framesOn.mp hmem
  exact hne (h.numbered.unique hreceived hreceived').1

theorem untouched_cancelAsync {phase : Phase} (h : Laws cfg s phase) (hne : c ≠ B)
    (requestId : UInt64) : Untouched B s (cancelAsync s c requestId) := by
  rcases CancellationRegistry.cancel_cases s.cancellationRegistry_ c requestId with
    ⟨token, hfound, hcanceled, hfind⟩ | ⟨-, heq⟩
  · refine ⟨rfl, rfl, fun i => ?_, fun n hn => ?_, fun _ _ => rfl, rfl, rfl⟩
    · exact (hfind B i).trans (if_neg fun hmatch => hne hmatch.1.symm)
    · show n ∈ (s.cancellationRegistry_.cancel c requestId).canceled_ ↔ _
      rw [hcanceled, Finset.mem_insert, or_iff_right]
      exact fun heq => h.not_mem_framesOn hne hfound (heq ▸ hn)
  · exact ⟨rfl, rfl, fun i => by rw [cancelAsync, heq], fun n _ => by rw [cancelAsync, heq],
      fun _ _ => rfl, rfl, rfl⟩

theorem untouched_runReply (hne : inv.conn ≠ B) (s : State) (r : RpcResult) :
    Untouched B s (runReply cfg s inv r) := by
  have htaken : Untouched B s { s with cancellationRegistry_ :=
      (s.cancellationRegistry_.take inv.conn inv.request.requestId_).2 } := by
    refine ⟨rfl, rfl, fun i => ?_, fun n _ => ?_, fun _ _ => rfl, rfl, rfl⟩
    · exact (CancellationRegistry.find?_take _ _ _ B i).trans
        (if_neg fun hmatch => hne hmatch.1.symm)
    · exact (congrArg (n ∈ ·) (CancellationRegistry.canceled_take _ _ _)).to_iff
  unfold runReply
  dsimp only
  split
  · exact htaken
  · split
    · exact htaken
    · exact htaken.trans (untouched_sendFramedData hne _ _ _ _ _)

theorem untouched_down {phase : Phase} (h : Laws cfg s phase) (hne : c ≠ B) : Untouched B s { s with
    connections := Function.update s.connections c .down
    cancellationRegistry_ := s.cancellationRegistry_.clearConnectionCancellations c
    trace := .closed c :: s.trace } := by
  refine ⟨Function.update_of_ne hne.symm _ _, rfl, fun i => ?_, fun n hn => ?_, fun _ _ => rfl, rfl,
    rfl⟩
  · exact (CancellationRegistry.find?_clear _ c B i).trans (if_neg hne.symm)
  · -- only the tokens of the other connection are cancelled
    show n ∈ (s.cancellationRegistry_.clearConnectionCancellations c).canceled_ ↔ _
    rw [CancellationRegistry.mem_canceled_clear, or_iff_left]
    rintro ⟨i, hfound⟩
    exact h.not_mem_framesOn hne hfound hn

theorem untouched_onRpcMessage (h : Laws cfg s .idle) (hne : c ≠ B) (msg : Bytes)
    (outcome : Option RpcResult) : Untouched B s (onRpcMessage cfg s c msg outcome) := by
  rw [onRpcMessage_eq]
  cases incoming cfg.effectiveMaxMessageSize msg with
  | invalid => exact untouched_forceClose hne s
  | cancel requestId => exact untouched_cancelAsync h hne requestId
  | request request =>
    have hreceived : Untouched B s (receive s c request) := by
      have hnext : Untouched B s { s with nextFrame := s.nextFrame + 1 } :=
        .of_frame rfl rfl rfl rfl
      exact hnext.trans (untouched_emit ((foreign_of_ne hne _).2.2.1 _ _))
    -- the number of the frame is new, so it is none of a frame of `B`
    have hn : s.nextFrame ∉ framesOn B (receive s c request).trace := by
      rw [hreceived.frames]
      intro hmem
      obtain ⟨request', hmem⟩ := mem_framesOn.mp hmem
      exact Nat.lt_irrefl _ (h.numbered.lt_of_mem hmem)
    refine hreceived.trans ?_
    show Untouched B _ (dispatch cfg (receive s c request) s.nextFrame c request outcome)
    unfold dispatch
    split_ifs
    · exact untouched_invokeSyncHandler hne _ hn _
    · exact untouched_invokeAsyncHandler hne _ _ _
    · exact untouched_sendFramedData hne _ _ _ _ _

end MiniRpc.RpcServer
