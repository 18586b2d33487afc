import MiniRpc.RpcClient.Equiv.Frames

/-!
# The responses that callbacks get

A callback gets the response that arrived for its call, or a failure that the client made
(`Answers`).  What arrives was checked by the decoder (`received_of_run`), and the failures are made
with an error code and without a payload, so every response that a callback gets keeps to the rule
of the protocol (`wellFormed_of_run`).
-/

namespace MiniRpc

/-- An error code that is defined and not zero. -/
def RpcErrorCode.IsError (e : RpcErrorCode) : Prop :=
  RpcErrorCode.NO_ERROR.value < e.value ∧ e.value < RpcErrorCode.ERROR_CODE_CNT.value

instance (e : RpcErrorCode) : Decidable e.IsError := inferInstanceAs (Decidable (_ ∧ _))

/-- The rule of the protocol: a success without an error, or a failure with an error code and
without a payload. -/
def RpcResponse.FollowsRule (r : RpcResponse) : Prop :=
  (r.responseResult_ = kSuccess ∧ r.errorCode_ = .NO_ERROR ∧ r.errorMessage_ = []) ∨
    (r.responseResult_ = kUnsuccess ∧ r.errorCode_.IsError ∧ r.payload_ = [])

theorem RpcErrorCode.isError_of_ne {e : RpcErrorCode} (hne : e ≠ .NO_ERROR)
    (hlt : e.value < RpcErrorCode.ERROR_CODE_CNT.value) : e.IsError := by
  refine ⟨UInt16.pos_iff_ne_zero.mpr fun hzero => ?_, hlt⟩
  exact hne (RpcErrorCode.ext hzero)

theorem RpcResponse.Valid.followsRule {r : RpcResponse} (h : r.Valid) : r.FollowsRule := by
  rcases h.result with hresult | hresult
  · exact .inl ⟨hresult, h.code_iff.mpr hresult, h.errorMessage_nil hresult⟩
  · right
    refine ⟨hresult, RpcErrorCode.isError_of_ne ?_ h.code_lt, h.payload_nil hresult⟩
    intro hnone
    exact kSuccess_ne_kUnsuccess ((h.code_iff.mp hnone).symm.trans hresult)

namespace RpcClient

variable {cfg : Config} {proper network : Prop} {s s' : State} {conn : ConnId}
  {response : RpcResponse}

/-! ### The failures of the client -/

theorem failure_followsRule (id : UInt64) {errorCode : RpcErrorCode} (h : errorCode.IsError)
    (errorMessage : Bytes) : (failure id errorCode errorMessage).FollowsRule :=
  .inr ⟨rfl, h, rfl⟩

theorem isError_of_rejection : ∀ errorCode ∈ rejectionCodes, errorCode.IsError := by decide

theorem isError_of_loss : ∀ errorCode ∈ lossCodes, errorCode.IsError := by decide

/-- The response of a callback has arrived, or it is a failure of the client. -/
inductive Answers (s : State) (c : Completion) : Prop
  | received {conn : ConnId} (hcause : c.cause = .response)
      (h : .received conn c.response ∈ s.trace)
  | failed {errorCode : RpcErrorCode} {errorMessage : Bytes} (hcode : errorCode.IsError)
      (h : c.response = failure c.requestId errorCode errorMessage)

theorem Takes.answers {c : Completion} (h : Takes s s' c) : Answers s' c := by
  cases h with
  | reject _ hcode => exact .failed (isError_of_rejection _ hcode) rfl
  | lose _ hcode => exact .failed (isError_of_loss _ hcode) rfl
  | respond _ _ htrace => exact .received rfl (htrace ▸ List.mem_cons_self)
  | cancel | timeOut | exhaust | resendFailed => exact .failed (by decide) rfl

theorem answers_of_reachable (h : (machine cfg).Reachable s) : ∀ c ∈ s.takenCallbacks,
    Answers s c := by
  apply invariant (P := fun s => ∀ c ∈ s.takenCallbacks, Answers s c) _ _ h
  · intro c hc
    cases hc
  · intro s s' hold ht c hc
    rcases ht.mem_takenCallbacks hc with htaken | hnew
    · cases hold c htaken with
      | received hcause hmem => exact .received hcause (ht.trace_suffix.subset hmem)
      | failed hcode hresponse => exact .failed hcode hresponse
    · exact hnew.answers

/-! ### What has arrived -/

/-- A response arrives in a message that passed the checks. -/
theorem received_of_step {a : Action} (h : step cfg s a = some s')
    (hmem : .received conn response ∈ s'.trace) :
    .received conn response ∈ s.trace ∨ ∃ msg, a = .deliver msg ∧ Carries cfg msg response := by
  by_cases hnetwork : a.isNetwork = false
  · exact .inl ((quiet_of_step hnetwork h).received conn response hmem)
  · cases stepped_of_step h with
    | transmit => exact .inl hmem
    | @deliver conn' msg =>
      by_cases hcarries : ∃ r, Carries cfg msg r
      · obtain ⟨r, hcarries⟩ := hcarries
        have hframe := RpcMessage.ofFrame?_eq_some_iff.mpr hcarries.2
        rw [onRpcMessage_response hcarries] at hmem
        rcases (delivery_onResponse s conn' hframe).received conn response hmem with
          hold | ⟨-, hresponse⟩
        · exact .inl hold
        · obtain rfl := RpcMessage.response.inj (Option.some.inj (hframe.symm.trans hresponse))
          exact .inr ⟨msg, rfl, hcarries⟩
      · rw [onRpcMessage_other (not_exists.mp hcarries)] at hmem
        exact .inl ((List.mem_cons.mp hmem).resolve_left fun heq => by cases heq)
    | _ => exact absurd rfl hnetwork

theorem received_of_run {as : List Action} (hrun : (machine cfg).Run s as s')
    (hmem : .received conn response ∈ s'.trace) :
    .received conn response ∈ s.trace ∨ ∃ msg, .deliver msg ∈ as ∧ Carries cfg msg response := by
  induction hrun with
  | nil => exact .inl hmem
  | cons hs _ ih =>
    rcases ih hmem with hfirst | ⟨msg, hdeliver, hcarries⟩
    · rcases received_of_step hs hfirst with hold | ⟨msg, rfl, hcarries⟩
      · exact .inl hold
      · exact .inr ⟨msg, List.mem_cons_self, hcarries⟩
    · exact .inr ⟨msg, .tail _ hdeliver, hcarries⟩

/-! ### Every run -/

/-- What a callback that is invoked in the run `as` gets. -/
structure WellFormed (cfg : Config) (as : List Action) (s : State) (c : Completion) : Prop where
  /-- The callback was passed to `call`, which drew this id. -/
  called : ∃ a, .called c.requestId a ∈ s.trace ∧ c.callback = a.cb
  /-- The response carries the id. -/
  id : c.response.requestId_ = c.requestId
  rule : c.response.FollowsRule
  /-- A success came from the peer. -/
  success : c.response.responseResult_ = kSuccess →
    c.cause = .response ∧ ∃ msg, .deliver msg ∈ as ∧ Carries cfg msg c.response

theorem called_mem_trace {id : UInt64} {a : CallArgs} (h : (id, a) ∈ s.calls) :
    .called id a ∈ s.trace := by
  obtain ⟨e, he, hcall⟩ := List.mem_filterMap.mp h
  cases e with
  | called id' a' =>
    obtain ⟨rfl, rfl⟩ := Prod.mk.inj (Option.some.inj hcall)
    exact he
  | _ => cases hcall

/-- **Every response that a callback gets is well-formed and carries the right id.** -/
theorem wellFormed_of_run {as : List Action} (hrun : (machine cfg).Run .init as s) {c : Completion}
    (hc : .invoked c ∈ s.trace) : WellFormed cfg as s c := by
  have hreachable := hrun.reachable .init
  have htaken : c ∈ s.takenCallbacks :=
    List.mem_append_right _ (List.mem_filterMap.mpr ⟨_, hc, rfl⟩)
  obtain ⟨hid, a, hcall, hcallback⟩ := (provenance_of_reachable hreachable).taken c htaken
  have hcalled : ∃ a, .called c.requestId a ∈ s.trace ∧ c.callback = a.cb :=
    ⟨a, called_mem_trace hcall, hcallback⟩
  cases answers_of_reachable hreachable c htaken with
  | received hcause hmem =>
    rcases received_of_run hrun hmem with hinit | ⟨msg, hdeliver, hcarries⟩
    · cases hinit
    · have hvalid := (RpcMessage.encode_response.mp hcarries.2).1
      exact ⟨hcalled, hid, hvalid.followsRule, fun _ => ⟨hcause, msg, hdeliver, hcarries⟩⟩
  | failed hcode hresponse =>
    refine ⟨hcalled, hid, hresponse ▸ failure_followsRule _ hcode _, fun hsuccess => ?_⟩
    rw [hresponse] at hsuccess
    exact absurd hsuccess.symm RpcResponse.kSuccess_ne_kUnsuccess

/-- A call that succeeds. -/
def succeeding : List Action := [.connectionUp,
  .call ⟨text "s", text "m", text "p", ⟨7⟩, 0, false, 0, none⟩, .leaveUser, .resume [1],
  .resume [], .deliver (RpcResponse.mk 1 kSuccess .NO_ERROR (text "q") []).fields.flatten,
  .resume []]

theorem wellFormed_of_run_succeeding :
    let s := (machine .default).after succeeding
    let c : Completion := ⟨1, ⟨7⟩, ⟨1, kSuccess, .NO_ERROR, text "q", []⟩, .response, 0⟩
    .invoked c ∈ s.trace ∧ WellFormed .default succeeding s c := by
  intro s c
  have hinvoked : .invoked c ∈ s.trace := by decide
  have hrun : (machine .default).Run ((machine .default).after []) succeeding
      ((machine .default).after ([] ++ succeeding)) := Machine.run_afterBy (by decide)
  exact ⟨hinvoked, wellFormed_of_run hrun hinvoked⟩

end RpcClient

end MiniRpc
