import MiniRpc.RpcClient.Equiv.Ignored
import MiniRpc.RpcClient.Equiv.Traffic
import MiniRpc.RpcMessage.Equiv.Exact

/-!
# What the client does with a frame

A frame is the response to a pending request, the response to an ignored one, or neither.
`onRpcMessage_failsClosed` says that the first completes that request, the second only forgets the
id, and the third only closes the connection.

The callback of a completed request is a frame of the stack until the loop goes on; what other
threads and the network do before that does not touch the requests (`Awaits.run`), so the entry is
gone and its timer cancelled when the callback is invoked (`Awaits.resume`).
-/

namespace MiniRpc.RpcClient

variable {cfg : Config} {s s' : State} {conn : ConnId} {msg : Bytes} {response : RpcResponse}

/-! ### The next callback -/

/-- The callback `c` is the next thing the loop runs, and the requests are those of `s`. -/
structure Awaits (s : State) (c : Completion) (rest : List Frame) (s' : State) : Prop where
  stack : s'.stack = .callbacks [c] :: rest
  pending : s'.pendingRequests_ = s.pendingRequests_
  ignored : s'.ignoredResponseRequests_ = s.ignoredResponseRequests_
  timers : s'.loop_.timers = s.loop_.timers

theorem Awaits.kept {c : Completion} {rest : List Frame} {t : State} {a : Action}
    (h : Awaits s c rest s') (ha : ∀ order, a ≠ .resume order) (hs : step cfg s' a = some t) :
    Awaits s c rest t := by
  have hstack := h.stack
  cases stepped_of_step hs with
  | drawId | queueCall | queueCancel | tick | transmit | loseConnection =>
    exact ⟨h.stack, h.pending, h.ignored, h.timers⟩
  | @resume order => exact absurd rfl (ha order)
  | runTask hidle | fireTimer hidle | sweep hidle | enterUser hidle | connectionUp hidle
  | connectionDown hidle | connectionError hidle | deliver hidle =>
    cases hidle.symm.trans hstack
  | call huser | cancel huser | connect huser | disconnect huser | leaveUser huser =>
    cases huser.symm.trans hstack

theorem Awaits.run {c : Completion} {rest : List Frame} {t : State} {as : List Action}
    (hrun : (machine cfg).Run s' as t) (h : Awaits s c rest s')
    (has : ∀ a ∈ as, ∀ order, a ≠ .resume order) : Awaits s c rest t := by
  induction hrun with
  | nil => exact h
  | cons hs _ ih =>
    apply ih
    · exact h.kept (has _ List.mem_cons_self) hs
    · intro a ha
      exact has a (List.mem_cons_of_mem _ ha)

/-- The callback is invoked. -/
theorem Awaits.resume {c : Completion} {rest : List Frame} (h : Awaits s c rest s') (cfg : Config)
    (order : List UInt64) : step cfg s' (.resume order) = some { s' with
      stack := .userCode :: .callbacks [] :: rest
      trace := .invoked c :: s'.trace } := by
  unfold step
  dsimp only
  rw [h.stack]
  rfl

/-! ### Frames -/

/-- The message is the encoding of this valid response, within the limit. -/
def Carries (cfg : Config) (msg : Bytes) (response : RpcResponse) : Prop :=
  msg.length ≤ cfg.effectiveMaxMessageSize ∧
    (RpcMessage.response response).encode = (true, msg, [])

theorem validResponse?_eq_some_iff :
    validResponse? cfg msg = some response ↔ Carries cfg msg response := by
  constructor
  · intro h
    constructor
    · unfold validResponse? at h
      exact (Option.ite_none_right_eq_some.mp h).1.1
    · exact RpcMessage.ofFrame?_eq_some_iff.mp (ofFrame?_of_validResponse h)
  · rintro ⟨hlen, h⟩
    obtain ⟨hvalid, rfl⟩ := RpcMessage.encode_response.mp h
    exact validResponse?_fields hvalid hlen

theorem Carries.unique {response' : RpcResponse} (h : Carries cfg msg response)
    (h' : Carries cfg msg response') : response = response' := by
  rw [← validResponse?_eq_some_iff] at h h'
  exact Option.some.inj (h.symm.trans h')

theorem onRpcMessage_response (h : Carries cfg msg response) (s : State) (conn : ConnId) :
    onRpcMessage cfg s conn msg = onResponse s conn response := by
  rw [onRpcMessage_eq, validResponse?_eq_some_iff.mpr h]

theorem onRpcMessage_other (h : ∀ response, ¬ Carries cfg msg response) (s : State)
    (conn : ConnId) : onRpcMessage cfg s conn msg = forceClose s conn := by
  have hnone : validResponse? cfg msg = none := by
    rw [Option.eq_none_iff_forall_ne_some]
    intro response hvalid
    exact h response (validResponse?_eq_some_iff.mp hvalid)
  rw [onRpcMessage_eq, hnone]

/-- The response to a request that is not pending. -/
theorem onResponse_of_notMem (hnot : response.requestId_ ∉ s.pendingRequests_) (conn : ConnId) :
    onResponse s conn response =
      if response.requestId_ ∈ s.ignoredResponseRequests_ then { s with
        ignoredResponseRequests_ := s.ignoredResponseRequests_.erase response.requestId_
        trace := .received conn response :: s.trace }
      else forceClose { s with trace := .received conn response :: s.trace } conn := by
  have hnone : (s.emit (.received conn response)).pendingRequests_.lookup response.requestId_ =
      none := Finmap.lookup_eq_none.mpr hnot
  unfold onResponse
  dsimp only
  rw [hnone]
  rfl

/-- The message is the response to a pending request. -/
def IsAnswer (cfg : Config) (s : State) (msg : Bytes) : Prop :=
  ∃ response, Carries cfg msg response ∧ response.requestId_ ∈ s.pendingRequests_

/-- The message is the response to an ignored request. -/
def IsLate (cfg : Config) (s : State) (msg : Bytes) : Prop :=
  ∃ response, Carries cfg msg response ∧ response.requestId_ ∉ s.pendingRequests_ ∧
    response.requestId_ ∈ s.ignoredResponseRequests_

/-- The message is neither. -/
def IsForeign (cfg : Config) (s : State) (msg : Bytes) : Prop :=
  ∀ response, Carries cfg msg response → response.requestId_ ∉ s.pendingRequests_ ∧
    response.requestId_ ∉ s.ignoredResponseRequests_

theorem not_late_of_answer (h : IsAnswer cfg s msg) : ¬ IsLate cfg s msg := by
  rintro ⟨response', hcarries', hnot, -⟩
  obtain ⟨response, hcarries, hmem⟩ := h
  obtain rfl := hcarries.unique hcarries'
  exact hnot hmem

theorem foreign_iff : IsForeign cfg s msg ↔ ¬ IsAnswer cfg s msg ∧ ¬ IsLate cfg s msg := by
  constructor
  · intro h
    constructor
    · rintro ⟨response, hcarries, hmem⟩
      exact (h response hcarries).1 hmem
    · rintro ⟨response, hcarries, -, hignored⟩
      exact (h response hcarries).2 hignored
  · rintro ⟨hanswer, hlate⟩ response hcarries
    have hnot : response.requestId_ ∉ s.pendingRequests_ :=
      fun hmem => hanswer ⟨response, hcarries, hmem⟩
    exact ⟨hnot, fun hignored => hlate ⟨response, hcarries, hnot, hignored⟩⟩

/-! ### All frames -/

/-- What `response` leaves of `s` when the request it answers has the entry `p`. -/
structure Answered (cfg : Config) (s : State) (response : RpcResponse) (p : PendingRequest)
    (s' : State) : Prop where
  /-- The entry is removed. -/
  erased : response.requestId_ ∉ s'.pendingRequests_
  others : ∀ id, id ≠ response.requestId_ →
    s'.pendingRequests_.lookup id = s.pendingRequests_.lookup id
  ignored : s'.ignoredResponseRequests_ = s.ignoredResponseRequests_
  /-- Its timer is cancelled. -/
  canceled : ∀ t ∈ p.timerId, t ∉ s'.loop_.timers
  timers : ∀ t, p.timerId ≠ some t → s'.loop_.timers.lookup t = s.loop_.timers.lookup t
  tcpClient : s'.tcpClient_ = s.tcpClient_
  /-- No callback has been invoked so far. -/
  uninvoked : s'.trace.filterMap Event.invocation? = s.trace.filterMap Event.invocation?
  /-- Whatever happens until the loop goes on, it goes on with the callback of the request, and
  then the maps and the timers are still the same. -/
  invoked : ∀ as t, (machine cfg).Run s' as t → (∀ a ∈ as, ∀ order, a ≠ .resume order) →
    Awaits s' ⟨response.requestId_, p.callback, response, .response, s.now⟩ s.stack t ∧
      ∀ order, step cfg t (.resume order) = some { t with
        stack := .userCode :: .callbacks [] :: s.stack
        trace :=
          .invoked ⟨response.requestId_, p.callback, response, .response, s.now⟩ :: t.trace }

theorem answered_onResponse {p : PendingRequest}
    (hp : s.pendingRequests_.lookup response.requestId_ = some p) (conn : ConnId) :
    Answered cfg s response p (onResponse s conn response) := by
  have hlookup : (s.emit (.received conn response)).pendingRequests_.lookup response.requestId_ =
      some p := hp
  have hnow : ((s.emit (.received conn response)).cancelTimer p.timerId).now = s.now :=
    EventLoop.now_cancelIfSet _ _
  have hresult : onResponse s conn response =
      (((s.emit (.received conn response)).cancelTimer p.timerId).erasePending
        response.requestId_).complete
          ⟨response.requestId_, p.callback, response, .response, s.now⟩ := by
    unfold onResponse
    dsimp only
    rw [hlookup, ← hnow]
    rfl
  rw [hresult]
  constructor
  · exact Finmap.notMem_erase_self
  · intro id hne
    exact Finmap.lookup_erase_ne hne
  · rfl
  · intro t ht hmem
    obtain ⟨timer, htimer⟩ := Finmap.mem_iff.mp hmem
    exact (s.loop_.lookup_of_cancelIfSet htimer).1 ht
  · intro t hne
    exact s.loop_.lookup_cancelIfSet_of_ne hne
  · rfl
  · rfl
  · intro as t hrun has
    have hawaits := Awaits.run hrun ⟨rfl, rfl, rfl, rfl⟩ has
    exact ⟨hawaits, hawaits.resume cfg⟩

/-- The response to a pending or an ignored request does not touch the connection. -/
theorem tcpClient_onRpcMessage (h : ¬ IsForeign cfg s msg) (conn : ConnId) :
    (onRpcMessage cfg s conn msg).tcpClient_ = s.tcpClient_ := by
  by_cases hanswer : IsAnswer cfg s msg
  · obtain ⟨response, hcarries, hmem⟩ := hanswer
    obtain ⟨p, hp⟩ := Finmap.mem_iff.mp hmem
    have hanswered : Answered cfg s response p (onResponse s conn response) :=
      answered_onResponse hp conn
    rw [onRpcMessage_response hcarries]
    exact hanswered.tcpClient
  · have hlate : IsLate cfg s msg :=
      by_contra fun hlate => h (foreign_iff.mpr ⟨hanswer, hlate⟩)
    obtain ⟨response, hcarries, hnot, hignored⟩ := hlate
    rw [onRpcMessage_response hcarries, onResponse_of_notMem hnot, if_pos hignored]

/-- The state `s'` is what a message leaves of the state `s`. -/
structure ExactFrame (cfg : Config) (s : State) (conn : ConnId) (msg : Bytes) (s' : State) :
    Prop where
  exactlyOne : (IsAnswer cfg s msg ∧ ¬ IsLate cfg s msg ∧ ¬ IsForeign cfg s msg) ∨
    (¬ IsAnswer cfg s msg ∧ IsLate cfg s msg ∧ ¬ IsForeign cfg s msg) ∨
    (¬ IsAnswer cfg s msg ∧ ¬ IsLate cfg s msg ∧ IsForeign cfg s msg)
  /-- The response to a pending request completes it. -/
  answer : ∀ response, Carries cfg msg response → ∀ p,
    s.pendingRequests_.lookup response.requestId_ = some p → Answered cfg s response p s'
  /-- The response to an ignored request is ignored, once. -/
  late : ∀ response, Carries cfg msg response → response.requestId_ ∉ s.pendingRequests_ →
    response.requestId_ ∈ s.ignoredResponseRequests_ →
    s' = { s with
      ignoredResponseRequests_ := s.ignoredResponseRequests_.erase response.requestId_
      trace := .received conn response :: s.trace }
  /-- Anything else closes the connection; what has arrived may be recorded before that. -/
  foreign : IsForeign cfg s msg → ∃ trace,
    trace.filterMap Event.invocation? = s.trace.filterMap Event.invocation? ∧
    s' = forceClose { s with trace := trace } conn

/-- **Frame handling is exact and fails closed.** -/
theorem onRpcMessage_failsClosed (cfg : Config) (s : State) (conn : ConnId) (msg : Bytes) :
    ExactFrame cfg s conn msg (onRpcMessage cfg s conn msg) := by
  constructor
  · rw [foreign_iff]
    by_cases hanswer : IsAnswer cfg s msg
    · have hlate := not_late_of_answer hanswer
      tauto
    · tauto
  · intro response hcarries p hp
    rw [onRpcMessage_response hcarries]
    exact answered_onResponse hp conn
  · intro response hcarries hnot hignored
    rw [onRpcMessage_response hcarries, onResponse_of_notMem hnot, if_pos hignored]
  · intro hforeign
    by_cases hcarries : ∃ response, Carries cfg msg response
    · -- the response to an unknown request
      obtain ⟨response, hcarries⟩ := hcarries
      obtain ⟨hnot, hignored⟩ := hforeign response hcarries
      refine ⟨.received conn response :: s.trace, rfl, ?_⟩
      rw [onRpcMessage_response hcarries, onResponse_of_notMem hnot, if_neg hignored]
    · refine ⟨s.trace, rfl, ?_⟩
      exact onRpcMessage_other (not_exists.mp hcarries) s conn

end MiniRpc.RpcClient
