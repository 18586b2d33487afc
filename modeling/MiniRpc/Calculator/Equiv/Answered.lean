import MiniRpc.Calculator.Equiv.Add
import MiniRpc.RpcClient.Equiv.WellFormed
import MiniRpc.System.Equiv.EndToEnd

/-!
# `Add` over a client and a server

A `CalculatorClient` and a server with the `CalculatorService`, over connections that come and go:
a callback of `add` that gets a sum gets the sum of the operands of its own call
(`answered_of_reachable`).
-/

namespace MiniRpc.CalculatorClient

open RpcServer CalculatorService

variable {clientConfig : RpcClient.Config} {serverConfig : RpcServer.Config} {s : System.State}
  {calls : List Registrations.Call} {handler : RpcHandler} {a b : Int32}
  {callback : RpcClient.RpcCallback} {timeout : ℕ}

theorem add_eq (cfg : RpcClient.Config) (a b : Int32) (callback : RpcClient.RpcCallback) :
    add cfg a b callback = addWithTimeout cfg a b callback cfg.defaultTimeout_ := rfl

/-- Whenever the handler is invoked, it is `add` that runs. -/
def RunsAdd (handler : RpcHandler) (trace : List Event) : Prop :=
  ∀ frame conn request o, .invoked frame conn request (.sync handler) ∈ trace →
    .finished frame o ∈ trace → o = some (CalculatorService.add request.payload_)

/-- What the callback of `add a b` gets for a response: the sum, when it is an `int32_t`, or the
error that the response reports.  No success is one that `wrapAddCallback` rejects. -/
inductive Answered (a b : Int32) (response : RpcResponse) : Prop
  | sum {value : Int32} (hsuccess : response.responseResult_ = kSuccess) (hfits : Fits a b)
      (hvalue : value.toInt = a.toInt + b.toInt)
      (h : wrapAddCallback response = ⟨kSuccess, .NO_ERROR, value, []⟩)
  | failed (hresult : response.responseResult_ = kUnsuccess) (hcode : response.errorCode_.IsError)
      (h : wrapAddCallback response =
        ⟨kUnsuccess, response.errorCode_, 0, response.errorMessage_⟩)

/-- The handler that was registered is the only one for its method. -/
theorem eq_of_registered (hregistered : (registerCalculatorService (.after calls) handler).1 = true)
    (hcfg : (registerCalculatorService (.after calls) handler).2.Of serverConfig) {h : Handler}
    (hh : serverConfig.Registered (text "Calculator") (text "Add") h) : h = .sync handler := by
  have hafter := ((represents_after calls).call
    (.registerMethod (text "Calculator") (text "Add") (some handler))).represents
  have hadded := ((represents_after calls).registration (text "Calculator") (text "Add")
    (.sync handler)).2 hregistered (text "Calculator") (text "Add")
  rw [if_pos ⟨rfl, rfl⟩] at hadded
  have hbound := (hafter.handlerIn_eq (text "Calculator") (text "Add")).symm.trans hadded
  cases h with
  | sync handler' =>
    have hfind : serverConfig.syncHandlers_.find? (text "Calculator") (text "Add") =
      some handler' := hh
    rw [hcfg.1] at hfind
    have hfound := (hafter.sync _ _ _).mp hfind
    exact Option.some.inj (hfound.symm.trans hbound)
  | async handler' =>
    have hfind : serverConfig.asyncHandlers_.find? (text "Calculator") (text "Add") =
      some handler' := hh
    rw [hcfg.2] at hfind
    have hfound := (hafter.async _ _ _).mp hfind
    exact Option.some.inj (hfound.symm.trans hbound)

/-- A success of `add` is the sum. -/
theorem answered_of_success {response : RpcResponse}
    (hsuccess : response.responseResult_ = kSuccess)
    (hresult : (CalculatorService.add (CalculatorProtocol.ofOperands a b).requestEncode).result =
      kSuccess)
    (hpayload : (CalculatorService.add (CalculatorProtocol.ofOperands a b).requestEncode).payload =
      response.payload_) : Answered a b response := by
  have hfits : Fits a b := by
    by_contra hoverflow
    rw [add_of_overflow hoverflow] at hresult
    exact absurd hresult.symm RpcResponse.kSuccess_ne_kUnsuccess
  rw [add_of_fits hfits] at hpayload
  refine .sum hsuccess hfits (toInt_narrowed hfits) ?_
  rw [wrapAddCallback, if_pos hsuccess, ← hpayload]
  simp only [RpcResult.ofResult, CalculatorProtocol.resultDecode_resultEncode]
  exact if_neg (by simp)

/-- **`Add` is correct over every run**, whatever the calls, cancels, timeouts, lost connections and
resends: a callback gets the sum of the operands of its own call, and only if it is an `int32_t`. -/
theorem answered_of_reachable
    (h : (System.machine clientConfig serverConfig).Reachable s)
    (hcalls : s.client.nextRequestId_ ≤ 2 ^ 64)
    (hregistered : (registerCalculatorService (.after calls) handler).1 = true)
    (hcfg : (registerCalculatorService (.after calls) handler).2.Of serverConfig)
    (hruns : RunsAdd handler s.server.trace) {c : RpcClient.Completion}
    (hcall : (c.requestId, addWithTimeout clientConfig a b callback timeout) ∈ s.client.calls)
    (hinvoked : .invoked c ∈ s.client.trace) : Answered a b c.response := by
  obtain ⟨hclient, hserver⟩ := System.ends_of_reachable h
  have htaken : c ∈ s.client.takenCallbacks :=
    List.mem_append_right _ (List.mem_filterMap.mpr ⟨_, hinvoked, rfl⟩)
  have hfailed : c.response.responseResult_ = kUnsuccess → c.response.errorCode_.IsError →
      Answered a b c.response := by
    intro hresult hcode
    refine .failed hresult hcode (if_neg fun hsuccess => ?_)
    exact RpcResponse.kSuccess_ne_kUnsuccess (hsuccess.symm.trans hresult)
  cases RpcClient.answers_of_reachable hclient c htaken with
  | failed hcode hresponse =>
    rw [hresponse] at hfailed ⊢
    exact hfailed rfl hcode
  | @received conn hcause hreceived =>
    obtain ⟨id, origin, output, hresponded, hframe⟩ :=
      (System.flow_of_reachable h).answers conn c.response hreceived
    have hvalid := (RpcMessage.encode_response.mp (RpcMessage.ofFrame?_eq_some_iff.mp hframe)).1
    rcases hvalid.followsRule with ⟨hsuccess, -, -⟩ | ⟨hresult, hcode, -⟩
    · obtain ⟨args, frame, handler', result, hserved⟩ :=
        System.servedCall_of_received h hcalls hreceived hsuccess
      -- The response carries the id of the call, so what was served is this call.
      obtain ⟨hid, -⟩ := (RpcClient.provenance_of_reachable hclient).taken c htaken
      rw [hid] at hserved
      obtain rfl := hserved.unique _ hcall
      obtain rfl := eq_of_registered hregistered hcfg hserved.served.registered
      have hresult := Option.some.inj
        (hruns _ _ _ _ hserved.served.invoked hserved.served.finished)
      exact answered_of_success hsuccess (hresult ▸ hserved.served.success)
        (hresult ▸ hserved.served.payload)
    · exact hfailed hresult hcode

/-! ### A run -/

/-- The tables of a server with the calculator. -/
def calculatorTables : Registrations := (registerCalculatorService (.after []) ⟨1⟩).2

/-- A server with the calculator. -/
def calculatorServer : RpcServer.Config :=
  .ofHandlers calculatorTables.syncHandlers_ calculatorTables.asyncHandlers_

/-- The arguments of `add 2 (-5)`. -/
def addCall : RpcClient.CallArgs := add .default 2 (-5) ⟨7⟩

/-- `add` is called and answered. -/
def adding : List System.Action := [.server .start, .client .connectionUp,
  .server (.connectionUp 0), .client (.call addCall), .client .leaveUser, .client (.resume [1]),
  .client (.resume []), .toServer 0 (some (CalculatorService.add addCall.payload)), .toClient 0,
  .client (.resume [])]

/-- What the callback gets. -/
def added : RpcClient.Completion := ⟨1, ⟨7⟩, resultResponse 1
  (.ofResult kSuccess (CalculatorProtocol.resultEncode ⟨0, 0, -3⟩) []), .response, 0⟩

theorem runsAdd_adding :
    RunsAdd ⟨1⟩ ((System.machine .default calculatorServer).after adding).server.trace := by
  have htrace : ((System.machine .default calculatorServer).after adding).server.trace =
      [.responded 0 1 (.direct 0) added.response.fields.flatten,
        .finished 0 (some (CalculatorService.add addCall.payload)),
        .invoked 0 0 (RpcClient.callRequest 1 addCall) (.sync ⟨1⟩),
        .requestReceived 0 0 (RpcClient.callRequest 1 addCall)] := by
    decide +kernel
  intro frame conn request o hinvoked hfinished
  rw [htrace] at hinvoked hfinished
  simp only [List.mem_cons, List.not_mem_nil, Event.invoked.injEq, Event.finished.injEq,
    reduceCtorEq, false_or, or_false] at hinvoked hfinished
  rw [hinvoked.2.2.1]
  exact hfinished.2

theorem answered_adding :
    .invoked added ∈ ((System.machine .default calculatorServer).after adding).client.trace ∧
      Answered 2 (-5) added.response := by
  have hregistered : (registerCalculatorService (.after []) ⟨1⟩).1 = true := by decide +kernel
  have hcall : (added.requestId, add .default 2 (-5) ⟨7⟩) ∈
      ((System.machine .default calculatorServer).after adding).client.calls := by
    decide +kernel
  rw [add_eq] at hcall
  have hinvoked : .invoked added ∈
      ((System.machine .default calculatorServer).after adding).client.trace := by
    decide +kernel
  exact ⟨hinvoked, answered_of_reachable (Machine.reachable_after _) (by decide +kernel)
    hregistered ⟨rfl, rfl⟩ runsAdd_adding hcall hinvoked⟩

end MiniRpc.CalculatorClient
