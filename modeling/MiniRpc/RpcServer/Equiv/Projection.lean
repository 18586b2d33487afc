import MiniRpc.RpcServer.Equiv.View

/-!
# What happens on one connection

On an event of a connection the session of the connection does what the abstract server does: one
lemma for each operation of the server.
-/

namespace MiniRpc.RpcServer

variable {cfg : Config} {s s' : State} {B : ConnId} {inv : Invocation} {request : RpcRequest}
  {n : FrameId}

/-! ### Operations in progress -/

/-- At most one handler is about to be called for a connection. -/
theorem Confined.length_submitted (h : Confined cfg s) (B : ConnId) :
    (s.running.filterMap (submitted? B)).length ≤ 1 := by
  rw [List.length_filterMap_eq_countP]
  refine le_trans (List.countP_mono_left fun r hr hsubmits => ?_) (h.single (cfg.loopOf B))
  obtain ⟨t, activity⟩ := r
  cases activity with
  | submit inv =>
    simp only [submitted?] at hsubmits
    split_ifs at hsubmits with hconn
    · exact decide_eq_true (hconn ▸ h.loops t inv hr)
    · cases hsubmits
  | handler | reply => cases hsubmits

/-- While the loop of a connection is not busy no handler is about to be called for it. -/
theorem Confined.submitted_of_not_busy (h : Confined cfg s)
    (hbusy : s.busy (.loop (cfg.loopOf B)) = false) :
    s.running.filterMap (submitted? B) = [] := by
  rw [List.filterMap_eq_nil_iff]
  rintro ⟨t, activity⟩ hr
  cases activity with
  | submit inv =>
    refine if_neg fun hconn => ?_
    have hthread := h.loops t inv hr
    exact List.any_eq_false.mp hbusy _ hr (decide_eq_true (hconn ▸ hthread))
  | handler | reply => rfl

theorem eq_of_perm_of_length_le_one {α : Type} {l l' : List α} (h : l.Perm l')
    (hlen : l'.length ≤ 1) : l = l' := by
  match l', hlen with
  | [], _ => exact h.eq_nil
  | [x], _ => exact List.perm_singleton.mp h

/-- An operation that calls no handler ends. -/
theorem Confined.submitted_eraseIdx (h : Confined cfg s) {k : ℕ} {t : Thread} {activity : Activity}
    (hk : s.running[k]? = some (t, activity)) (hnone : submitted? B (t, activity) = none) :
    (s.running.eraseIdx k).filterMap (submitted? B) = s.running.filterMap (submitted? B) := by
  refine eq_of_perm_of_length_le_one ?_ (h.length_submitted B)
  have hperm := (perm_of_getElem? hk).filterMap (submitted? B)
  rw [List.filterMap_cons_none hnone] at hperm
  exact hperm.symm

/-- An operation that calls no handler takes the place of another. -/
theorem Confined.submitted_set (h : Confined cfg s) {k : ℕ} {t : Thread}
    {activity activity' : Activity} (hk : s.running[k]? = some (t, activity))
    (hnone : submitted? B (t, activity) = none) (hnone' : submitted? B (t, activity') = none) :
    (s.running.set k (t, activity')).filterMap (submitted? B) =
      s.running.filterMap (submitted? B) := by
  rw [← h.submitted_eraseIdx hk hnone]
  refine eq_of_perm_of_length_le_one ?_ ?_
  · have hperm := (perm_of_set hk (t, activity')).filterMap (submitted? B)
    rwa [List.filterMap_cons_none hnone'] at hperm
  · rw [h.submitted_eraseIdx hk hnone]
    exact h.length_submitted B

/-! ### The registry -/

open CancellationRegistry in
/-- Without a global limit the status of a registration depends on the entries of the connection. -/
theorem registerToken_status {reg : CancellationRegistry} (hglobal : reg.maxActiveRequests_ = none)
    (hpos : ∀ n ∈ reg.maxActiveRequestsPerConnection_, 0 < n) (conn : ConnId) (requestId : UInt64)
    (token : TokenId) :
    ((reg.find? conn requestId).isSome = true ∧
      (reg.registerToken conn requestId token).1 = .kDuplicateRequestId) ∨
    (¬ (reg.find? conn requestId).isSome = true ∧
      Reached reg.maxActiveRequestsPerConnection_ (reg.count conn) ∧
      (reg.registerToken conn requestId token).1 = .kConnectionLimitReached) ∨
    (¬ (reg.find? conn requestId).isSome = true ∧
      ¬ Reached reg.maxActiveRequestsPerConnection_ (reg.count conn) ∧
      (reg.registerToken conn requestId token).1 = .kRegistered) := by
  rw [← Session.any_iff_reached]
  unfold registerToken
  rw [hglobal]
  cases hlookup : reg.cancellations_.lookup conn with
  | none =>
    have hcount : reg.count conn = 0 := by
      rw [count, Finmap.innerKeys, hlookup]
      rfl
    -- a limit is positive, so a connection without entries has not reached it
    have hroom : (reg.maxActiveRequestsPerConnection_.any fun n =>
        decide (reg.count conn ≥ n)) = false := by
      rw [hcount]
      cases hlimit : reg.maxActiveRequestsPerConnection_ with
      | none => rfl
      | some n => exact decide_eq_false (Nat.not_le.mpr (hpos n hlimit))
    rw [find?, hlookup, hroom]
    exact .inr (.inr ⟨Bool.false_ne_true, Bool.false_ne_true, rfl⟩)
  | some requests =>
    have hcount : reg.count conn = requests.keys.card := by
      rw [count, card_innerKeys hlookup]
    rw [find?_of_lookup hlookup, hcount]
    simp only [Option.any_some, Option.any_none, Bool.false_eq_true, if_false]
    split_ifs with hduplicate hlimit
    · exact .inl ⟨hduplicate, rfl⟩
    · exact .inr (.inl ⟨hduplicate, hlimit, rfl⟩)
    · exact .inr (.inr ⟨hduplicate, hlimit, rfl⟩)

theorem ncard_find? (reg : CancellationRegistry) (conn : ConnId) :
    { i | (reg.find? conn i).isSome = true }.ncard = reg.count conn := by
  have hkeys : { i | (reg.find? conn i).isSome = true } =
      (reg.cancellations_.innerKeys conn : Set UInt64) := by
    ext i
    rw [Set.mem_ofPred_eq, Finset.mem_coe, CancellationRegistry.find?, Finmap.innerKeys]
    cases reg.cancellations_.lookup conn with
    | none => simp
    | some requests =>
      show (requests.lookup i).isSome = true ↔ i ∈ requests.keys
      rw [Finmap.lookup_isSome, Finmap.mem_keys]
  rw [hkeys, Set.ncard_coe_finset, CancellationRegistry.count]

/-! ### Events of the connection -/

theorem view_forceClose (s : State) (B : ConnId) :
    view B (forceClose s B) = (view B s).forceClose := by
  have hconn : (forceClose s B).connections B = (s.connections B).close :=
    State.connections_setConnection_self s B _
  have hanswers : answersOn B (forceClose s B).trace = .forceClosed :: answersOn B s.trace :=
    List.filterMap_cons_some (if_pos rfl)
  unfold view Session.forceClose
  rw [hconn, hanswers]
  rfl

theorem view_send (s : State) (B : ConnId) (output : Bytes) (requestId : UInt64) (origin : Origin) :
    view B (s.send B output (.responded B requestId origin output)) =
      { view B s with answers := .response requestId output :: (view B s).answers } := by
  have hanswers : answersOn B (s.send B output (.responded B requestId origin output)).trace =
      .response requestId output :: answersOn B s.trace :=
    List.filterMap_cons_some (if_pos rfl)
  unfold view
  rw [hanswers]
  rfl

theorem view_sendFramedData (s : State) (B : ConnId) (requestId : UInt64) (origin : Origin)
    (r : RpcResult) : view B (sendFramedData s B requestId origin r cfg.effectiveMaxMessageSize) =
      (view B s).respond cfg requestId r := by
  rw [sendFramedData_eq_answer]
  unfold Session.respond
  cases answer cfg.effectiveMaxMessageSize requestId r with
  | none => exact view_forceClose s B
  | some output =>
    dsimp only
    by_cases hconnected : (s.connections B).connected = true
    · rw [if_pos hconnected, if_pos (show (view B s).connection.connected = true from hconnected)]
      exact view_send s B output requestId origin
    · rw [if_neg hconnected,
        if_neg (show ¬ (view B s).connection.connected = true from hconnected)]

/-- The token of an entry is that of a request received on the connection. -/
theorem Laws.mem_framesOn {phase : Phase} (h : Laws cfg s phase) {i : UInt64} {t : TokenId}
    (hfound : s.cancellationRegistry_.find? B i = some t) : t ∈ framesOn B s.trace :=
  RpcServer.mem_framesOn.mpr (h.owned B i t hfound)

/-- The entry of a request is removed. -/
theorem entries_erase {registry registry' : CancellationRegistry} {id : UInt64}
    (hfind : ∀ c i, registry'.find? c i = if c = B ∧ i = id then none else registry.find? c i)
    (f : TokenId → ℕ) : (fun i => (registry'.find? B i).map f) =
      Function.update (fun i => (registry.find? B i).map f) id none := by
  funext i
  rw [hfind, Function.update_apply]
  by_cases hi : i = id
  · rw [if_pos ⟨rfl, hi⟩, if_pos hi]
    rfl
  · rw [if_neg fun hmatch => hi hmatch.2, if_neg hi]

theorem view_cancelAsync {phase : Phase} (h : Laws cfg s phase) (requestId : UInt64) :
    view B (cancelAsync s B requestId) = (view B s).cancel requestId := by
  rcases CancellationRegistry.cancel_cases s.cancellationRegistry_ B requestId with
    ⟨token, hfound, hcanceled, hfind⟩ | ⟨hnone, heq⟩
  · have hmem := h.mem_framesOn hfound
    have hentry : (view B s).entries requestId = some ((framesOn B s.trace).idxOf token) :=
      congrArg (Option.map _) hfound
    have hset : canceledOn B (cancelAsync s B requestId) =
        insert ((framesOn B s.trace).idxOf token) (canceledOn B s) := by
      ext j
      show (∃ n ∈ (s.cancellationRegistry_.cancel B requestId).canceled_,
        (framesOn B s.trace)[j]? = some n) ↔ j = _ ∨ ∃ n ∈ s.cancellationRegistry_.canceled_,
        (framesOn B s.trace)[j]? = some n
      rw [hcanceled]
      constructor
      · rintro ⟨n, hn, hj⟩
        rcases Finset.mem_insert.mp hn with rfl | hn
        · exact .inl ((getElem?_framesOn h.numbered).mp hj).2.symm
        · exact .inr ⟨n, hn, hj⟩
      · rintro (rfl | ⟨n, hn, hj⟩)
        · exact ⟨token, Finset.mem_insert_self _ _, List.getElem?_idxOf hmem⟩
        · exact ⟨n, Finset.mem_insert_of_mem hn, hj⟩
    unfold Session.cancel
    rw [hentry]
    show Session.mk _ _ (fun i => ((s.cancellationRegistry_.cancel B requestId).find? B i).map
      (framesOn B s.trace).idxOf) (canceledOn B (cancelAsync s B requestId)) _ _ _ = _
    rw [hset, entries_erase hfind]
    rfl
  · have hentry : (view B s).entries requestId = none := congrArg (Option.map _) hnone
    have hsame : Untouched B s (cancelAsync s B requestId) :=
      ⟨rfl, rfl, fun i => by rw [cancelAsync, heq], fun n _ => by rw [cancelAsync, heq],
        fun _ _ => rfl, rfl, rfl⟩
    unfold Session.cancel
    rw [hentry]
    exact hsame.view_eq

theorem view_down {phase : Phase} (h : Laws cfg s phase) : view B { s with
    connections := Function.update s.connections B .down
    cancellationRegistry_ := s.cancellationRegistry_.clearConnectionCancellations B
    trace := .closed B :: s.trace } = (view B s).down := by
  have hentries : (fun i => ((s.cancellationRegistry_.clearConnectionCancellations B).find? B i).map
      (framesOn B s.trace).idxOf) = fun _ => none := by
    funext i
    rw [CancellationRegistry.find?_clear, if_pos rfl]
    rfl
  have hcanceled : { j | ∃ n ∈ (s.cancellationRegistry_.clearConnectionCancellations B).canceled_,
      (framesOn B s.trace)[j]? = some n } =
      canceledOn B s ∪ { j | ∃ i, (view B s).entries i = some j } := by
    ext j
    rw [Set.mem_ofPred_eq]
    constructor
    · rintro ⟨n, hn, hj⟩
      rcases (CancellationRegistry.mem_canceled_clear _ B n).mp hn with hn | ⟨i, hfound⟩
      · exact .inl ⟨n, hn, hj⟩
      · refine .inr ⟨i, ?_⟩
        show (s.cancellationRegistry_.find? B i).map _ = some j
        rw [hfound, Option.map_some, ((getElem?_framesOn h.numbered).mp hj).2]
    · rintro (⟨n, hn, hj⟩ | ⟨i, hi⟩)
      · exact ⟨n, (CancellationRegistry.mem_canceled_clear _ B n).mpr (.inl hn), hj⟩
      · obtain ⟨t, hfound, rfl⟩ := Option.map_eq_some_iff.mp hi
        exact ⟨t, (CancellationRegistry.mem_canceled_clear _ B t).mpr (.inr ⟨i, hfound⟩),
          List.getElem?_idxOf (h.mem_framesOn hfound)⟩
  show Session.mk (Function.update s.connections B .down B) _ (fun i =>
    ((s.cancellationRegistry_.clearConnectionCancellations B).find? B i).map
      (framesOn B s.trace).idxOf) { j | ∃ n ∈
    (s.cancellationRegistry_.clearConnectionCancellations B).canceled_,
      (framesOn B s.trace)[j]? = some n } _ _ _ = _
  rw [hentries, hcanceled, Function.update_self]
  rfl

theorem receivedOn_receive (s : State) (B : ConnId) (request : RpcRequest) :
    receivedOn B (receive s B request).trace =
      receivedOn B s.trace ++ [(s.nextFrame, request)] := by
  have hself : (Event.requestReceived s.nextFrame B request).received? B =
      some (s.nextFrame, request) := if_pos rfl
  unfold receivedOn
  show (List.filterMap _ (.requestReceived s.nextFrame B request :: s.trace)).reverse = _
  rw [List.filterMap_cons_some hself, List.reverse_cons]

theorem framesOn_receive (s : State) (B : ConnId) (request : RpcRequest) :
    framesOn B (receive s B request).trace = framesOn B s.trace ++ [s.nextFrame] := by
  rw [framesOn, receivedOn_receive, List.map_append]
  rfl

theorem requestsOn_receive (s : State) (B : ConnId) (request : RpcRequest) :
    requestsOn B (receive s B request).trace = requestsOn B s.trace ++ [request] := by
  rw [requestsOn, receivedOn_receive, List.map_append]
  rfl

/-- There is no result yet for a frame that was not received. -/
theorem Results.resultOf_eq_none {phase : Phase} (h : Results s phase)
    (hn : ¬ n < phase.bound s.nextFrame) : resultOf n s.trace = none := by
  unfold resultOf
  rw [List.findSome?_eq_none_iff]
  intro e he
  cases e with
  | finished frame rpcResult =>
    refine if_neg ?_
    rintro rfl
    exact hn (h.bound _ _ he)
  | _ => rfl

theorem view_receive (h : Laws cfg s .idle) (request : RpcRequest) :
    view B (receive s B request) =
      { view B s with requests := (view B s).requests ++ [request] } := by
  have hframes := framesOn_receive s B request
  -- the frames received before keep their numbers
  have hentries : (fun i => (s.cancellationRegistry_.find? B i).map
      (framesOn B s.trace ++ [s.nextFrame]).idxOf) =
      fun i => (s.cancellationRegistry_.find? B i).map (framesOn B s.trace).idxOf := by
    funext i
    cases hfound : s.cancellationRegistry_.find? B i with
    | none => rfl
    | some t => exact congrArg some (List.idxOf_append_of_mem (h.mem_framesOn hfound))
  have hcanceled : { j | ∃ n ∈ s.cancellationRegistry_.canceled_,
      (framesOn B s.trace ++ [s.nextFrame])[j]? = some n } = canceledOn B s := by
    ext j
    constructor
    · rintro ⟨n, hn, hj⟩
      rw [List.getElem?_append] at hj
      split_ifs at hj
      · exact ⟨n, hn, hj⟩
      · -- the token of the new frame cannot be cancelled yet
        have heq := List.mem_singleton.mp (List.mem_of_getElem? hj)
        exact absurd (h.tokens.canceled n hn) (heq ▸ Nat.lt_irrefl _)
    · rintro ⟨n, hn, hj⟩
      exact ⟨n, hn, (List.getElem?_append_left (List.getElem?_eq_some_iff.mp hj).1).trans hj⟩
  have hresults : (fun j : ℕ => (framesOn B s.trace ++ [s.nextFrame])[j]?.bind fun n =>
      resultOf n s.trace) = (view B s).results := by
    funext j
    show _ = (framesOn B s.trace)[j]?.bind fun n => resultOf n s.trace
    by_cases hj : j < (framesOn B s.trace).length
    · rw [List.getElem?_append_left hj]
    · rw [List.getElem?_append_right (Nat.not_lt.mp hj), List.getElem?_eq_none (Nat.not_lt.mp hj)]
      cases hfresh : [s.nextFrame][j - (framesOn B s.trace).length]? with
      | none => rfl
      | some n =>
        rw [List.mem_singleton.mp (List.mem_of_getElem? hfresh)]
        exact h.results.resultOf_eq_none (Nat.lt_irrefl _)
  unfold view canceledOn
  rw [hframes, requestsOn_receive]
  show Session.mk _ _ (fun i => (s.cancellationRegistry_.find? B i).map
      (framesOn B s.trace ++ [s.nextFrame]).idxOf) { j | ∃ n ∈ s.cancellationRegistry_.canceled_,
      (framesOn B s.trace ++ [s.nextFrame])[j]? = some n } (fun j : ℕ =>
      (framesOn B s.trace ++ [s.nextFrame])[j]?.bind fun n => resultOf n s.trace) _ _ = _
  rw [hentries, hcanceled, hresults]
  rfl

/-- A result is recorded for a frame without one. -/
theorem view_finished {nextFrame : FrameId} (h : Numbered nextFrame s.trace)
    (hn : n ∈ framesOn B s.trace) (hnone : resultOf n s.trace = none) (o : Option RpcResult) :
    view B (s.emit (.finished n o)) = { view B s with
      results := Function.update (view B s).results ((framesOn B s.trace).idxOf n) o } := by
  have hresults : (fun j : ℕ => (framesOn B s.trace)[j]?.bind fun m =>
      resultOf m (.finished n o :: s.trace)) =
      Function.update (view B s).results ((framesOn B s.trace).idxOf n) o := by
    funext j
    rw [Function.update_apply]
    by_cases hj : j = (framesOn B s.trace).idxOf n
    · rw [if_pos hj, hj, List.getElem?_idxOf hn, Option.bind_some, resultOf, List.findSome?_cons,
        Event.result?, if_pos rfl]
      cases o with
      | none => exact hnone
      | some r => rfl
    · rw [if_neg hj]
      show _ = (framesOn B s.trace)[j]?.bind fun m => resultOf m s.trace
      cases hm : (framesOn B s.trace)[j]? with
      | none => rfl
      | some m =>
        have hne : n ≠ m := fun heq =>
          hj (heq ▸ ((getElem?_framesOn h).mp hm).2.symm)
        rw [Option.bind_some, Option.bind_some, resultOf, List.findSome?_cons, Event.result?,
          if_neg hne]
        rfl
  unfold view
  show Session.mk _ _ _ _ (fun j : ℕ => (framesOn B s.trace)[j]?.bind fun m =>
      resultOf m (.finished n o :: s.trace)) _ _ = _
  rw [hresults]
  rfl

/-- A handler is called while none is about to be. -/
theorem view_invoked (hsubmitted : s.running.filterMap (submitted? B) = []) (n : FrameId)
    (request : RpcRequest) (handler : Handler) :
    view B (s.emit (.invoked n B request handler)) =
      { view B s with invocations := (request, handler) :: (view B s).invocations } := by
  have hinvocations : invocationsOn B (s.emit (.invoked n B request handler)) =
      (request, handler) :: invocationsOn B s := by
    have hself : (Event.invoked n B request handler).invocation? B = some (request, handler) :=
      if_pos rfl
    unfold invocationsOn
    show s.running.filterMap _ ++ (.invoked n B request handler :: s.trace).filterMap _ = _
    rw [hsubmitted, List.filterMap_cons_some hself]
    rfl
  unfold view
  rw [hinvocations]
  rfl

theorem view_invokeSyncHandler {nextFrame : FrameId} (h : Numbered nextFrame s.trace)
    (hsubmitted : s.running.filterMap (submitted? B) = []) (hn : n ∈ framesOn B s.trace)
    (hnone : resultOf n s.trace = none) {handler : RpcHandler}
    (hhandler : cfg.syncHandlers_.find? request.service_ request.method_ = some handler)
    (outcome : Option RpcResult) : view B (invokeSyncHandler cfg s n B request outcome) =
      ({ view B s with
        invocations := (request, .sync handler) :: (view B s).invocations
        results := Function.update (view B s).results ((framesOn B s.trace).idxOf n)
          outcome } : Session).respond cfg request.requestId_ (syncResult outcome) := by
  have hnumbered : Numbered nextFrame (s.emit (.invoked n B request (.sync handler))).trace :=
    ⟨h.fresh, h.once⟩
  have hfinished := view_finished hnumbered hn hnone outcome
  rw [invokeSyncHandler_eq hhandler, view_sendFramedData, hfinished, view_invoked hsubmitted]
  rfl

theorem view_invokeAsyncHandler (hconfined : Confined cfg s)
    (hglobal : cfg.maxActiveRequests_ = none) {handler : RpcAsyncHandler}
    (hhandler : cfg.asyncHandlers_.find? request.service_ request.method_ = some handler) :
    view B (invokeAsyncHandler cfg s n B request) =
      (view B s).register cfg ((framesOn B s.trace).idxOf n) request handler := by
  have hrejected : view B (s.emit (.rejected n B request)) = view B s :=
    (untouched_rejected s n B request).view_eq
  have hpos : ∀ m ∈ s.cancellationRegistry_.maxActiveRequestsPerConnection_, 0 < m := by
    rw [hconfined.perConnection]
    exact cfg.maxActiveRequestsPerConnection_pos
  have hactive : (view B s).active = s.cancellationRegistry_.count B := by
    rw [← ncard_find?]
    unfold Session.active view
    dsimp only
    simp only [Option.isSome_map]
  have hentry : ((view B s).entries request.requestId_).isSome =
      (s.cancellationRegistry_.find? B request.requestId_).isSome := Option.isSome_map
  have hstatus := registerToken_status (hconfined.global.trans hglobal) hpos B request.requestId_ n
  rw [hconfined.perConnection, ← hactive, ← hentry] at hstatus
  unfold invokeAsyncHandler Session.register
  rw [hhandler]
  rcases hregister : s.cancellationRegistry_.registerToken B request.requestId_ n
    with ⟨res, registry⟩
  rw [hregister] at hstatus
  dsimp only at hstatus
  rcases hstatus with ⟨hduplicate, rfl⟩ | ⟨hfresh, hlimit, rfl⟩ | ⟨hfresh, hlimit, rfl⟩
  · rw [if_pos hduplicate, ← hrejected]
    exact view_forceClose _ B
  · rw [if_neg hfresh, if_pos hlimit, ← hrejected]
    exact view_sendFramedData _ B _ _ _
  · rw [if_neg hfresh, if_neg hlimit]
    rcases CancellationRegistry.registerToken_cases s.cancellationRegistry_ B request.requestId_ n
      with ⟨reg', heq, -, hcanceled, hfind⟩ | ⟨status, hstatus, heq⟩
    · obtain ⟨-, rfl⟩ := Prod.mk.inj (hregister.symm.trans heq)
      have hentries : (fun i => (registry.find? B i).map (framesOn B s.trace).idxOf) =
          Function.update (view B s).entries request.requestId_
            (some ((framesOn B s.trace).idxOf n)) := by
        funext i
        rw [hfind, Function.update_apply]
        by_cases hi : i = request.requestId_
        · rw [if_pos ⟨rfl, hi⟩, if_pos hi]
          rfl
        · rw [if_neg fun hmatch => hi hmatch.2, if_neg hi]
          rfl
      have hself : submitted? B (.loop (cfg.loopOf B), .submit ⟨n, B, request, handler⟩) =
          some (request, .async handler) := if_pos rfl
      have hcanceledOn : { j | ∃ m ∈ registry.canceled_, (framesOn B s.trace)[j]? = some m } =
          canceledOn B s := by
        rw [hcanceled]
        rfl
      show Session.mk _ _ (fun i => (registry.find? B i).map (framesOn B s.trace).idxOf)
        { j | ∃ m ∈ registry.canceled_, (framesOn B s.trace)[j]? = some m } _ _
        (((Thread.loop (cfg.loopOf B), Activity.submit ⟨n, B, request, handler⟩) ::
          s.running).filterMap (submitted? B) ++ _) = _
      rw [hentries, hcanceledOn, List.filterMap_cons_some hself]
      rfl
    · exact absurd (Prod.mk.inj (hregister.symm.trans heq)).1.symm hstatus

/-- What a synchronous handler returns for a message is a function of the payload. -/
def Incoming.Functional (cfg : Config) (sync : RpcHandler → Bytes → Option RpcResult)
    (outcome : Option RpcResult) : Incoming → Prop
  | .request request => ∀ handler ∈ cfg.syncHandlers_.find? request.service_ request.method_,
      outcome = sync handler request.payload_
  | _ => True

/-- What synchronous handlers return is a function of the payload. -/
def Functional (cfg : Config) (sync : RpcHandler → Bytes → Option RpcResult) : Action → Prop
  | .deliver _ msg outcome => (incoming cfg.effectiveMaxMessageSize msg).Functional cfg sync outcome
  | _ => True

theorem view_onRpcMessage {sync : RpcHandler → Bytes → Option RpcResult} (h : Laws cfg s .idle)
    (hconfined : Confined cfg s) (hglobal : cfg.maxActiveRequests_ = none)
    (hup : (s.connections B).state = .kUp)
    (hbusy : s.busy (.loop (cfg.loopOf B)) = false) (msg : Bytes) (outcome : Option RpcResult)
    (hsync : (incoming cfg.effectiveMaxMessageSize msg).Functional cfg sync outcome) :
    view B (onRpcMessage cfg s B msg outcome) = (view B s).message cfg sync msg := by
  rw [onRpcMessage_eq]
  unfold Session.message
  cases hincoming : incoming cfg.effectiveMaxMessageSize msg with
  | invalid => exact view_forceClose s B
  | cancel requestId => exact view_cancelAsync h requestId
  | request request =>
    have hreceive : Transition cfg False True (s, .idle)
        (receive s B request, .received s.nextFrame B request) :=
      .receive request hup trivial
    have hlaws := h.step hreceive
    have hreceived : Confined cfg (receive s B request) := hconfined.of_frame rfl rfl rfl
    have hsubmitted := hconfined.submitted_of_not_busy hbusy
    have hn : s.nextFrame ∈ framesOn B (receive s B request).trace := by
      rw [framesOn_receive]
      exact List.mem_append_right _ (List.mem_singleton.mpr rfl)
    have hfresh : s.nextFrame ∉ framesOn B s.trace := fun hmem => by
      obtain ⟨request', hmem⟩ := mem_framesOn.mp hmem
      exact Nat.lt_irrefl _ (h.numbered.lt_of_mem hmem)
    have hnumber : (framesOn B (receive s B request).trace).idxOf s.nextFrame =
        (view B s).requests.length := by
      show _ = (requestsOn B s.trace).length
      rw [framesOn_receive, List.idxOf_append_of_notMem hfresh, length_requestsOn,
        List.idxOf_cons_self, Nat.add_zero]
    have hnone : resultOf s.nextFrame (receive s B request).trace = none :=
      hlaws.results.resultOf_eq_none (Nat.lt_irrefl _)
    show view B (dispatch cfg (receive s B request) s.nextFrame B request outcome) =
      Session.dispatch cfg sync { view B s with requests := (view B s).requests ++ [request] }
        (view B s).requests.length request
    rw [← view_receive h]
    unfold dispatch Session.dispatch isRegisteredInSync isRegisteredInAsync
    cases hsyncHandler : cfg.syncHandlers_.find? request.service_ request.method_ with
    | some handler =>
      show view B (invokeSyncHandler cfg (receive s B request) s.nextFrame B request outcome) = _
      have houtcome : outcome = sync handler request.payload_ := by
        rw [hincoming] at hsync
        exact hsync handler hsyncHandler
      rw [view_invokeSyncHandler hlaws.numbered hsubmitted hn hnone hsyncHandler, hnumber, houtcome]
    | none =>
      cases hasyncHandler : cfg.asyncHandlers_.find? request.service_ request.method_ with
      | some handler =>
        show view B (invokeAsyncHandler cfg (receive s B request) s.nextFrame B request) = _
        rw [view_invokeAsyncHandler hreceived hglobal hasyncHandler, hnumber]
      | none => exact view_sendFramedData (receive s B request) B _ _ _

theorem finished_of_resultOf {trace : List Event} {r : RpcResult}
    (h : resultOf n trace = some r) : .finished n (some r) ∈ trace := by
  obtain ⟨e, he, hr⟩ := List.exists_of_findSome?_eq_some h
  cases e with
  | finished frame o =>
    simp only [Event.result?] at hr
    split_ifs at hr with heq
    rw [← heq, ← hr]
    exact he
  | _ => cases hr

/-- The result that the reply object of an invocation was called with. -/
theorem Laws.resultOf_eq {phase : Phase} (h : Laws cfg s phase) {r : RpcResult}
    (hmem : .finished n (some r) ∈ s.trace) : resultOf n s.trace = some r := by
  have hresult : (Event.finished n (some r)).result? n = some r := if_pos rfl
  cases hfound : resultOf n s.trace with
  | none => cases (List.findSome?_eq_none_iff.mp hfound _ hmem).symm.trans hresult
  | some r' => exact h.results.once _ _ _ (finished_of_resultOf hfound) hmem

/-- The results of a session are those on record for the frames of the connection. -/
theorem results_view (hn : n ∈ framesOn B s.trace) :
    (view B s).results ((framesOn B s.trace).idxOf n) = resultOf n s.trace := by
  show (framesOn B s.trace)[(framesOn B s.trace).idxOf n]?.bind _ = _
  rw [List.getElem?_idxOf hn, Option.bind_some]

/-- The number of a request on its connection. -/
def number (B : ConnId) (s : State) (inv : Invocation) : ℕ :=
  (framesOn B s.trace).idxOf inv.frame

/-- A reply object is called; its first call is recorded. -/
theorem view_called (h : Laws cfg s .idle) (hinv : s.Started inv) (r : RpcResult)
    (hconnection : s'.connections B = s.connections B)
    (hregistry : s'.cancellationRegistry_ = s.cancellationRegistry_)
    (hrunning : s'.running.filterMap (submitted? B) = s.running.filterMap (submitted? B))
    (htrace : s'.trace = if inv.frame ∈ s.repliedFlags then s.trace
      else .finished inv.frame (some r) :: s.trace) :
    view B s' = if inv.conn = B then (view B s).reply (number B s inv) r else view B s := by
  have hreceived := (h.served.started inv hinv).1.received
  -- But for the trace nothing is changed.
  have hsame : ∀ u : State, u.connections = s.connections →
      u.cancellationRegistry_ = s.cancellationRegistry_ → u.running = s.running →
      u.trace = s'.trace → view B s' = view B u := by
    intro u hconnections hregistry' hrunning' htrace'
    refine Untouched.view_eq ⟨hconnection.trans (by rw [hconnections]), by rw [htrace'],
      fun i => by rw [hregistry, hregistry'], fun _ _ => by rw [hregistry, hregistry'],
      fun _ _ => by rw [htrace'], by rw [htrace'], ?_⟩
    rw [invocationsOn, invocationsOn, hrunning, hrunning', htrace']
  by_cases hflag : inv.frame ∈ s.repliedFlags
  · -- a later call: the first one has left a result, and the session keeps it
    rw [if_pos hflag] at htrace
    rw [hsame s rfl rfl rfl htrace.symm]
    split_ifs with hconn
    · have hn : inv.frame ∈ framesOn B s.trace := mem_framesOn.mpr ⟨_, hconn ▸ hreceived⟩
      obtain ⟨r', hr'⟩ := h.results.flagged _ hflag
      unfold Session.reply number
      rw [results_view hn, h.resultOf_eq hr']
      rfl
    · rfl
  · -- the first call: there is no result yet
    rw [if_neg hflag] at htrace
    rw [hsame (s.emit (.finished inv.frame (some r))) rfl rfl rfl htrace.symm]
    split_ifs with hconn
    · have hn : inv.frame ∈ framesOn B s.trace := mem_framesOn.mpr ⟨_, hconn ▸ hreceived⟩
      have hnone : resultOf inv.frame s.trace = none := by
        cases hfound : resultOf inv.frame s.trace with
        | none => rfl
        | some r' =>
          exact absurd (finished_of_resultOf hfound) (h.results.waits inv (.inr hinv) hflag _)
      rw [view_finished h.numbered hn hnone (some r)]
      unfold Session.reply number
      rw [results_view hn, hnone]
      rfl
    · -- the frame was received on another connection, so it is none of this one
      refine (untouched_emit (foreign_finished (fun hmem => ?_) _)).view_eq
      obtain ⟨request', hreceived'⟩ := mem_framesOn.mp hmem
      exact hconn (h.numbered.unique hreceived hreceived').1

/-- The queued task of a reply object is run. -/
theorem view_runReply (h : Laws cfg s .idle) {r : RpcResult} (hqueued : s.Queued inv r)
    (hconn : inv.conn = B) (tasks : Channel LoopId LoopTask) :
    view B (runReply cfg { s with tasks := tasks } inv r) =
      (view B s).task cfg (number B s inv) := by
  obtain ⟨r', hreplied, rfl⟩ := h.served.queued inv r hqueued
  have hreceived : .requestReceived inv.frame B inv.request ∈ s.trace :=
    hconn ▸ hreplied.known.received
  have hn : inv.frame ∈ framesOn B s.trace := mem_framesOn.mpr ⟨_, hreceived⟩
  have hrequest : (view B s).requests[(framesOn B s.trace).idxOf inv.frame]? = some inv.request :=
    getElem?_requestsOn h.numbered hreceived
  have hresult := (results_view hn).trans (h.resultOf_eq hreplied.finished)
  have hfst := CancellationRegistry.take_fst s.cancellationRegistry_ B inv.request.requestId_
  unfold Session.task runReply number
  rw [hrequest, hresult, hconn]
  dsimp only
  cases hfound : s.cancellationRegistry_.find? B inv.request.requestId_ with
  | none =>
    have hentry : (view B s).entries inv.request.requestId_ = none :=
      congrArg (Option.map _) hfound
    rw [hfst, hfound, hentry, CancellationRegistry.take_of_none hfound]
    exact Untouched.view_eq (.of_frame rfl rfl rfl rfl)
  | some token =>
    have hentry : (view B s).entries inv.request.requestId_ =
        some ((framesOn B s.trace).idxOf token) := congrArg (Option.map _) hfound
    -- the token may be that of a later request with the id; a registered one is not cancelled
    have hlive : token ∉ (s.cancellationRegistry_.take B inv.request.requestId_).2.canceled_ := by
      rw [CancellationRegistry.canceled_take]
      exact h.tokens.live _ _ _ hfound
    have htaken : view B { s with
        tasks := tasks
        cancellationRegistry_ :=
          (s.cancellationRegistry_.take B inv.request.requestId_).2 } =
        { view B s with
          entries := Function.update (view B s).entries inv.request.requestId_ none } := by
      have hcanceled : { j | ∃ m ∈
          (s.cancellationRegistry_.take B inv.request.requestId_).2.canceled_,
          (framesOn B s.trace)[j]? = some m } = canceledOn B s := by
        rw [CancellationRegistry.canceled_take]
        rfl
      show Session.mk _ _ (fun i =>
        ((s.cancellationRegistry_.take B inv.request.requestId_).2.find? B i).map
          (framesOn B s.trace).idxOf) { j | ∃ m ∈
          (s.cancellationRegistry_.take B inv.request.requestId_).2.canceled_,
          (framesOn B s.trace)[j]? = some m } _ _ _ = _
      rw [hcanceled, entries_erase (CancellationRegistry.find?_take _ _ _)]
      rfl
    rw [hfst, hfound, hentry]
    dsimp only
    rw [if_neg hlive, view_sendFramedData, htaken]

end MiniRpc.RpcServer
