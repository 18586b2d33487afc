import MiniRpc.RpcClient.Equiv.Transition

/-!
# The loops over `pendingRequests_`

What the loops of `failAllPendingRequests` and `failAllDisreconnectRequests` do to the state, and
that they are sequences of transitions.  The loops change `pendingRequests_`, the timers and the
callbacks taken, and read nothing else, so they can be run before or after the other fields of the
state are set.
-/

namespace MiniRpc.RpcClient

/-- Sequences of transitions. -/
abbrev Steps (cfg : Config) (proper network : Prop) : State → State → Prop :=
  Relation.ReflTransGen (Transition cfg proper network)

variable {cfg : Config} {proper network : Prop} {s : State} {id : UInt64} {p : PendingRequest}

/-! ### Iteration orders -/

theorem mem_entries {order : List UInt64} {pending : Finmap fun _ : UInt64 => PendingRequest}
    {item : UInt64 × PendingRequest} :
    item ∈ entries order pending ↔ item.1 ∈ order ∧ pending.lookup item.1 = some item.2 := by
  unfold entries
  rw [List.mem_filterMap]
  constructor
  · rintro ⟨id, hid, h⟩
    obtain ⟨p, hp, rfl⟩ := Option.map_eq_some_iff.mp h
    exact ⟨hid, hp⟩
  · rintro ⟨hid, hp⟩
    exact ⟨item.1, hid, by rw [hp]; rfl⟩

theorem nodup_map_fst_entries {order : List UInt64} (horder : order.Nodup)
    (pending : Finmap fun _ : UInt64 => PendingRequest) :
    ((entries order pending).map Prod.fst).Nodup := by
  induction order with
  | nil => exact List.nodup_nil
  | cons id order ih =>
    obtain ⟨hid, hnodup⟩ := List.nodup_cons.mp horder
    unfold entries
    rw [List.filterMap_cons]
    cases hp : pending.lookup id with
    | none => exact ih hnodup
    | some p =>
      refine List.nodup_cons.mpr ⟨fun hmem => ?_, ih hnodup⟩
      obtain ⟨item, hitem, hitem_id⟩ := List.mem_map.mp hmem
      have hitem_id : item.1 = id := hitem_id
      exact hid (hitem_id ▸ (mem_entries.mp hitem).1)

theorem IterationOrder.mem_iff {order : List UInt64}
    {pending : Finmap fun _ : UInt64 => PendingRequest} (h : IterationOrder order pending)
    {id : UInt64} : id ∈ order ↔ id ∈ pending := by
  rw [← List.mem_toFinset, h.2, Finmap.mem_keys]

/-! ### The wait for a reconnect -/

theorem armTimer_insert (s : State) (id : UInt64) (p : PendingRequest) (d : ℕ) (task : TimerTask) :
    { s with pendingRequests_ := s.pendingRequests_.insert id p }.armTimer id d task =
      { s with
        pendingRequests_ :=
          s.pendingRequests_.insert id { p with timerId := some s.loop_.nextTimerId }
        loop_ := s.loop_.runAfter d task } := by
  simp only [State.armTimer, State.setTimerId, Finmap.lookup_insert, Option.getD_some,
    Finmap.insert_insert]

theorem armRequestTimer_insert (s : State) (id : UInt64) (p : PendingRequest) (d : ℕ)
    (hp : p.timerId = none) :
    { s with pendingRequests_ := s.pendingRequests_.insert id p }.armRequestTimer id d =
      { s with
        pendingRequests_ := s.pendingRequests_.insert id
          { p with timerId := (s.loop_.runAfterIfPos d (.onRequestTimeout id)).2 }
        loop_ := (s.loop_.runAfterIfPos d (.onRequestTimeout id)).1 } := by
  unfold State.armRequestTimer EventLoop.runAfterIfPos
  by_cases hd : 0 < d
  · rw [if_pos hd, if_pos hd, armTimer_insert]
  · rw [if_neg hd, if_neg hd]
    have hself : { p with timerId := none } = p := by rw [← hp]
    exact congrArg (fun q => { s with pendingRequests_ := s.pendingRequests_.insert id q })
      hself.symm

theorem startReconnectWait_eq (hp : s.pendingRequests_.lookup id = some p) :
    startReconnectWait s id =
      { s with
        pendingRequests_ := s.pendingRequests_.insert id (waitingEntry p s.loop_.nextTimerId)
        loop_ := (s.loop_.cancelIfSet p.timerId).runAfter p.reconnectTimeout
          (.onReconnectTimeout id) } := by
  unfold startReconnectWait
  rw [hp]
  refine (armTimer_insert (s.cancelTimer p.timerId) id _ _ _).trans ?_
  simp only [State.cancelTimer, waitingEntry, EventLoop.nextTimerId_cancelIfSet]

/-- The wait for a reconnect reads and writes the pending requests and the timers only. -/
theorem startReconnectWait_frame (s t : State) (id : UInt64)
    (hpending : t.pendingRequests_ = s.pendingRequests_) (hloop : t.loop_ = s.loop_) :
    startReconnectWait t id =
      { t with
        pendingRequests_ := (startReconnectWait s id).pendingRequests_
        loop_ := (startReconnectWait s id).loop_ } := by
  cases hp : s.pendingRequests_.lookup id with
  | none =>
    have ht : startReconnectWait t id = t := by unfold startReconnectWait; rw [hpending, hp]
    have hs : startReconnectWait s id = s := by unfold startReconnectWait; rw [hp]
    rw [ht, hs, ← hpending, ← hloop]
  | some p =>
    rw [startReconnectWait_eq hp, startReconnectWait_eq (hpending ▸ hp), hpending, hloop]

theorem foldl_startReconnectWait_frame (ids : List UInt64) (s t : State)
    (hpending : t.pendingRequests_ = s.pendingRequests_) (hloop : t.loop_ = s.loop_) :
    ids.foldl startReconnectWait t =
      { t with
        pendingRequests_ := (ids.foldl startReconnectWait s).pendingRequests_
        loop_ := (ids.foldl startReconnectWait s).loop_ } := by
  induction ids generalizing s t with
  | nil => rw [List.foldl_nil, List.foldl_nil, ← hpending, ← hloop]
  | cons id ids ih =>
    have ht := startReconnectWait_frame s t id hpending hloop
    rw [List.foldl_cons, List.foldl_cons, ih (startReconnectWait s id)]
    · rw [ht]
    · rw [ht]
    · rw [ht]

theorem lookup_startReconnectWait_of_ne (s : State) {id id' : UInt64} (h : id' ≠ id) :
    (startReconnectWait s id).pendingRequests_.lookup id' = s.pendingRequests_.lookup id' := by
  cases hp : s.pendingRequests_.lookup id with
  | none => unfold startReconnectWait; rw [hp]
  | some p =>
    rw [startReconnectWait_eq hp]
    exact Finmap.lookup_insert_of_ne _ h

/-- What is pending after the loop: the requests of the loop wait, the others are as before. -/
theorem lookup_foldl_startReconnectWait (ids : List UInt64) (s : State) (id : UInt64) :
    (id ∉ ids ∧ (ids.foldl startReconnectWait s).pendingRequests_.lookup id =
        s.pendingRequests_.lookup id) ∨
      (id ∈ ids ∧ ∀ p, (ids.foldl startReconnectWait s).pendingRequests_.lookup id = some p →
        p.phase = .kWaitingReconnect) := by
  induction ids generalizing s with
  | nil => exact .inl ⟨List.not_mem_nil, rfl⟩
  | cons id' ids ih =>
    rw [List.foldl_cons]
    rcases ih (startReconnectWait s id') with ⟨hnot, heq⟩ | ⟨hmem, hphase⟩
    · by_cases hid : id = id'
      · subst hid
        refine .inr ⟨List.mem_cons_self, fun p hp => ?_⟩
        rw [heq] at hp
        cases hs : s.pendingRequests_.lookup id with
        | none =>
          unfold startReconnectWait at hp
          rw [hs] at hp
          cases hs.symm.trans hp
        | some q =>
          rw [startReconnectWait_eq hs, Finmap.lookup_insert] at hp
          obtain rfl := Option.some.inj hp
          rfl
      · refine .inl ⟨fun hmem => ?_, heq.trans (lookup_startReconnectWait_of_ne s hid)⟩
        rcases List.mem_cons.mp hmem with h | h
        · exact hid h
        · exact hnot h
    · exact .inr ⟨List.mem_cons_of_mem _ hmem, hphase⟩

theorem connectedConn_of_current_none (hcurrent : s.tcpClient_.current = none) :
    s.connectedConn = none := by
  unfold State.connectedConn TcpClient.isConnected
  rw [hcurrent]
  cases s.conn_ <;> rfl

theorem connectedConn_of_not_connected (hconnected : s.tcpClient_.connected = false) :
    s.connectedConn = none := by
  unfold State.connectedConn TcpClient.isConnected
  rw [hconnected]
  cases s.conn_ with
  | none => rfl
  | some conn => simp

theorem connectedConn_startReconnectWait (s : State) (id : UInt64) :
    (startReconnectWait s id).connectedConn = s.connectedConn := by
  rw [startReconnectWait_frame s s id rfl rfl]
  rfl

theorem now_startReconnectWait (s : State) (id : UInt64) :
    (startReconnectWait s id).now = s.now := by
  cases hp : s.pendingRequests_.lookup id with
  | none => unfold startReconnectWait; rw [hp]
  | some p =>
    rw [startReconnectWait_eq hp]
    exact EventLoop.now_cancelIfSet _ _

theorem now_foldl_startReconnectWait (ids : List UInt64) (s : State) :
    (ids.foldl startReconnectWait s).now = s.now := by
  induction ids generalizing s with
  | nil => rfl
  | cons id ids ih => rw [List.foldl_cons, ih, now_startReconnectWait]

theorem steps_foldl_startReconnectWait (ids : List UInt64) (s : State)
    (hconn : s.connectedConn = none) (hnodup : ids.Nodup)
    (hids : ∀ id ∈ ids, ∃ p, s.pendingRequests_.lookup id = some p ∧
      p.phase = .kWaitingResponse ∧ p.allowReconnect = true ∧ p.remainingResends ≠ 0) :
    Steps cfg proper network s (ids.foldl startReconnectWait s) := by
  induction ids generalizing s with
  | nil => exact .refl
  | cons id ids ih =>
    obtain ⟨hid, hnodup⟩ := List.nodup_cons.mp hnodup
    obtain ⟨p, hp, hphase, hallow, hremaining⟩ := hids id List.mem_cons_self
    have hhead : Transition cfg proper network s (startReconnectWait s id) := by
      rw [startReconnectWait_eq hp]
      exact .startWait hconn hp hphase hallow hremaining
    refine .head hhead (ih _ ?_ hnodup fun id' hid' => ?_)
    · rw [connectedConn_startReconnectWait, hconn]
    · have hne : id' ≠ id := fun h => hid (h ▸ hid')
      rw [lookup_startReconnectWait_of_ne s hne]
      exact hids id' (List.mem_cons_of_mem _ hid')

/-! ### Taking callbacks -/

theorem takeCallback_eq (hp : s.pendingRequests_.lookup id = some p)
    (callbacks : List (UInt64 × RpcCallback)) :
    takeCallback (s, callbacks) id =
      ({ s with
          pendingRequests_ := s.pendingRequests_.erase id
          loop_ := s.loop_.cancelIfSet p.timerId },
        callbacks.orderedInsert (fun a b => a.1 ≤ b.1) (id, p.callback)) := by
  unfold takeCallback
  simp only [hp]
  rfl

/-- Taking callbacks reads and writes the pending requests and the timers only. -/
theorem foldl_takeCallback_frame (ids : List UInt64) (s t : State)
    (callbacks : List (UInt64 × RpcCallback)) (hpending : t.pendingRequests_ = s.pendingRequests_)
    (hloop : t.loop_ = s.loop_) :
    ids.foldl takeCallback (t, callbacks) =
      ({ t with
          pendingRequests_ := (ids.foldl takeCallback (s, callbacks)).1.pendingRequests_
          loop_ := (ids.foldl takeCallback (s, callbacks)).1.loop_ },
        (ids.foldl takeCallback (s, callbacks)).2) := by
  induction ids generalizing s t callbacks with
  | nil => rw [List.foldl_nil, List.foldl_nil, ← hpending, ← hloop]
  | cons id ids ih =>
    rw [List.foldl_cons, List.foldl_cons]
    cases hp : s.pendingRequests_.lookup id with
    | none =>
      have ht : takeCallback (t, callbacks) id = (t, callbacks) := by
        unfold takeCallback; simp only [hpending, hp]
      have hs : takeCallback (s, callbacks) id = (s, callbacks) := by
        unfold takeCallback; simp only [hp]
      rw [ht, hs]
      exact ih s t callbacks hpending hloop
    | some p =>
      rw [takeCallback_eq hp, takeCallback_eq (hpending ▸ hp)]
      exact ih _ _ _ (by rw [hpending]) (by rw [hloop])

theorem lookup_foldl_takeCallback (ids : List UInt64) (s : State)
    (callbacks : List (UInt64 × RpcCallback)) (id : UInt64) :
    (ids.foldl takeCallback (s, callbacks)).1.pendingRequests_.lookup id =
      if id ∈ ids then none else s.pendingRequests_.lookup id := by
  induction ids generalizing s callbacks with
  | nil => rfl
  | cons id' ids ih =>
    rw [List.foldl_cons]
    cases hp : s.pendingRequests_.lookup id' with
    | none =>
      have hs : takeCallback (s, callbacks) id' = (s, callbacks) := by
        unfold takeCallback; simp only [hp]
      rw [hs, ih]
      by_cases hid : id = id'
      · subst hid
        simp only [hp, List.mem_cons, true_or, ite_self]
      · simp only [List.mem_cons, hid, false_or]
    | some p =>
      rw [takeCallback_eq hp, ih]
      by_cases hid : id = id'
      · subst hid
        simp only [Finmap.lookup_erase, List.mem_cons, true_or, if_true, ite_self]
      · simp only [Finmap.lookup_erase_ne hid, List.mem_cons, hid, false_or]

theorem now_foldl_takeCallback (ids : List UInt64) (s : State)
    (callbacks : List (UInt64 × RpcCallback)) :
    (ids.foldl takeCallback (s, callbacks)).1.now = s.now := by
  induction ids generalizing s callbacks with
  | nil => rfl
  | cons id ids ih =>
    rw [List.foldl_cons]
    cases hp : s.pendingRequests_.lookup id with
    | none =>
      have hs : takeCallback (s, callbacks) id = (s, callbacks) := by
        unfold takeCallback; simp only [hp]
      rw [hs, ih]
    | some p =>
      rw [takeCallback_eq hp, ih]
      exact EventLoop.now_cancelIfSet _ _

/-- Taking callbacks, with the callbacks taken so far in the innermost frame. -/
theorem steps_foldl_takeCallback (cfg : Config) (proper network : Prop) {errorCode : RpcErrorCode}
    (hcode : errorCode ∈ lossCodes) (errorMessage : Bytes) (rest : List Frame)
    (ids : List UInt64) (s : State) (callbacks : List (UInt64 × RpcCallback))
    (hgone : s.connectedConn = none ∨ s.status_ ≠ .kConnected) :
    Steps cfg proper network
      { s with
        stack := .callbacks (callbacks.map (lostCompletion s.now errorCode errorMessage)) :: rest }
      { (ids.foldl takeCallback (s, callbacks)).1 with
        stack := .callbacks ((ids.foldl takeCallback (s, callbacks)).2.map
          (lostCompletion s.now errorCode errorMessage)) :: rest } := by
  induction ids generalizing s callbacks with
  | nil => exact .refl
  | cons id ids ih =>
    rw [List.foldl_cons]
    cases hp : s.pendingRequests_.lookup id with
    | none =>
      have hs : takeCallback (s, callbacks) id = (s, callbacks) := by
        unfold takeCallback; simp only [hp]
      rw [hs]
      exact ih s callbacks hgone
    | some p =>
      rw [takeCallback_eq hp]
      have hperm := (List.perm_orderedInsert
        (fun a b : UInt64 × RpcCallback => a.1 ≤ b.1) (id, p.callback) callbacks).map
          (lostCompletion s.now errorCode errorMessage)
      refine .head (.lose errorMessage hcode rfl hp hperm hgone) ?_
      have hnow : State.now { s with
          pendingRequests_ := s.pendingRequests_.erase id
          loop_ := s.loop_.cancelIfSet p.timerId } = s.now := EventLoop.now_cancelIfSet _ _
      have hrest := ih { s with
        pendingRequests_ := s.pendingRequests_.erase id
        loop_ := s.loop_.cancelIfSet p.timerId }
        (callbacks.orderedInsert (fun a b => a.1 ≤ b.1) (id, p.callback)) hgone
      rw [hnow] at hrest
      exact hrest

/-! ### Failing every pending request -/

/-- The loop that cancels the timers of the requests taken out. -/
theorem foldl_cancelTimer (items : List (UInt64 × PendingRequest)) (s : State) :
    items.foldl (fun s item => s.cancelTimer item.2.timerId) s =
      { s with
        loop_ := items.foldl (fun loop item => loop.cancelIfSet item.2.timerId) s.loop_ } := by
  induction items generalizing s with
  | nil => rfl
  | cons item items ih => rw [List.foldl_cons, ih]; rfl

theorem now_foldl_cancelIfSet (items : List (UInt64 × PendingRequest))
    (loop : EventLoop TimerTask LoopTask) :
    (items.foldl (fun loop item => loop.cancelIfSet item.2.timerId) loop).now = loop.now := by
  induction items generalizing loop with
  | nil => rfl
  | cons item items ih => rw [List.foldl_cons, ih, EventLoop.now_cancelIfSet]

theorem lookup_foldl_erase (items : List (UInt64 × PendingRequest))
    (pending : Finmap fun _ : UInt64 => PendingRequest) (id : UInt64) :
    (items.foldl (fun m item => m.erase item.1) pending).lookup id =
      if id ∈ items.map Prod.fst then none else pending.lookup id := by
  induction items generalizing pending with
  | nil => rfl
  | cons item items ih =>
    rw [List.foldl_cons, ih, List.map_cons]
    by_cases hid : id = item.1
    · subst hid
      simp only [Finmap.lookup_erase, List.mem_cons, true_or, if_true, ite_self]
    · simp only [Finmap.lookup_erase_ne hid, List.mem_cons, hid, false_or]

/-- An iteration over all pending requests that erases them leaves none. -/
theorem foldl_erase_entries {order : List UInt64}
    {pending : Finmap fun _ : UInt64 => PendingRequest} (h : IterationOrder order pending) :
    (entries order pending).foldl (fun m item => m.erase item.1) pending = ∅ := by
  refine Finmap.ext_lookup fun id => ?_
  rw [lookup_foldl_erase, Finmap.lookup_empty]
  split_ifs with hid
  · rfl
  · cases hp : pending.lookup id with
    | none => rfl
    | some p =>
      have hmem : (id, p) ∈ entries order pending :=
        mem_entries.mpr ⟨h.mem_iff.mpr (Finmap.mem_of_lookup_eq_some hp), hp⟩
      exact absurd (List.mem_map_of_mem hmem) hid

theorem steps_foldl_lose (cfg : Config) (proper network : Prop) {errorCode : RpcErrorCode}
    (hcode : errorCode ∈ lossCodes) (errorMessage : Bytes) (rest : List Frame)
    (items : List (UInt64 × PendingRequest)) (s : State) (cs : List Completion)
    (hstack : s.stack = .callbacks cs :: rest) (hnodup : (items.map Prod.fst).Nodup)
    (hitems : ∀ item ∈ items, s.pendingRequests_.lookup item.1 = some item.2)
    (hgone : s.connectedConn = none ∨ s.status_ ≠ .kConnected) :
    Steps cfg proper network s
      { s with
        pendingRequests_ := items.foldl (fun m item => m.erase item.1) s.pendingRequests_
        loop_ := items.foldl (fun loop item => loop.cancelIfSet item.2.timerId) s.loop_
        stack := .callbacks (cs ++ items.map fun item =>
          lostCompletion s.now errorCode errorMessage (item.1, item.2.callback)) :: rest } := by
  induction items generalizing s cs with
  | nil =>
    rw [List.map_nil, List.append_nil, ← hstack]
    exact .refl
  | cons item items ih =>
    rw [List.map_cons, List.nodup_cons] at hnodup
    have hcs : (cs ++ [lostCompletion s.now errorCode errorMessage
        (item.1, item.2.callback)]).Perm
        (lostCompletion s.now errorCode errorMessage (item.1, item.2.callback) :: cs) :=
      List.perm_append_singleton _ _
    refine .head (.lose errorMessage hcode hstack (hitems item List.mem_cons_self) hcs hgone) ?_
    have hrest := ih { s with
      pendingRequests_ := s.pendingRequests_.erase item.1
      loop_ := s.loop_.cancelIfSet item.2.timerId
      stack := .callbacks (cs ++ [lostCompletion s.now errorCode errorMessage
        (item.1, item.2.callback)]) :: rest } _ rfl hnodup.2 (fun item' hitem' => by
      have hne : item'.1 ≠ item.1 := fun h =>
        hnodup.1 (h ▸ List.mem_map_of_mem hitem')
      exact (Finmap.lookup_erase_ne hne).trans (hitems item' (List.mem_cons_of_mem _ hitem')))
      hgone
    have hnow : State.now { s with
        pendingRequests_ := s.pendingRequests_.erase item.1
        loop_ := s.loop_.cancelIfSet item.2.timerId
        stack := .callbacks (cs ++ [lostCompletion s.now errorCode errorMessage
          (item.1, item.2.callback)]) :: rest } = s.now := EventLoop.now_cancelIfSet _ _
    rw [hnow, List.append_assoc] at hrest
    exact hrest

theorem failAllPendingRequests_eq (s : State) (order : List UInt64) (errorCode : RpcErrorCode)
    (errorMessage : Bytes) :
    failAllPendingRequests s order errorCode errorMessage =
      { s with
        pendingRequests_ := ∅
        loop_ := (entries order s.pendingRequests_).foldl
          (fun loop item => loop.cancelIfSet item.2.timerId) s.loop_
        stack := .callbacks ((entries order s.pendingRequests_).map fun item =>
          lostCompletion s.now errorCode errorMessage (item.1, item.2.callback)) :: s.stack } := by
  have hnow := now_foldl_cancelIfSet (entries order s.pendingRequests_) s.loop_
  simp only [failAllPendingRequests, foldl_cancelTimer, State.push, State.now, hnow]

/-- Every pending request is failed, in a new frame on top of the stack. -/
theorem steps_failAllPendingRequests (cfg : Config) (proper network : Prop) {order : List UInt64}
    (horder : IterationOrder order s.pendingRequests_) {errorCode : RpcErrorCode}
    (hcode : errorCode ∈ lossCodes) (errorMessage : Bytes)
    (hgone : s.connectedConn = none ∨ s.status_ ≠ .kConnected) :
    Steps cfg proper network s (failAllPendingRequests s order errorCode errorMessage) := by
  rw [failAllPendingRequests_eq]
  refine .head .openCallbacks ?_
  have hsteps := steps_foldl_lose cfg proper network hcode errorMessage s.stack
    (entries order s.pendingRequests_) { s with stack := .callbacks [] :: s.stack } [] rfl
    (nodup_map_fst_entries horder.1 _) (fun item hitem => (mem_entries.mp hitem).2) hgone
  rw [foldl_erase_entries horder] at hsteps
  exact hsteps

/-! ### Failing the requests that do not wait for a reconnect -/

/-- The requests of the first loop of `failAllDisreconnectRequests`. -/
def waitingToChangePhase (s : State) (order : List UInt64) : List UInt64 :=
  ((entries order s.pendingRequests_).filter fun item =>
    item.2.phase = .kWaitingResponse ∧ item.2.allowReconnect ∧ item.2.remainingResends ≠ 0).map
      Prod.fst

/-- The requests of its second loop. -/
def waitingToCallFailCallback (s : State) (order : List UInt64) : List UInt64 :=
  ((entries order s.pendingRequests_).filter fun item =>
    item.2.phase = .kWaitingResponse ∧
      ((item.2.allowReconnect ∧ item.2.remainingResends = 0) ∨ ¬ item.2.allowReconnect)).map
      Prod.fst

/-- The two loops of `failAllDisreconnectRequests`. -/
def reconnectLoops (s : State) (order : List UInt64) : State × List (UInt64 × RpcCallback) :=
  (waitingToCallFailCallback s order).foldl takeCallback
    ((waitingToChangePhase s order).foldl startReconnectWait s, [])

/-- The loops read and write the pending requests and the timers only. -/
theorem reconnectLoops_frame (s t : State) (order : List UInt64)
    (hpending : t.pendingRequests_ = s.pendingRequests_) (hloop : t.loop_ = s.loop_) :
    reconnectLoops t order =
      ({ t with
          pendingRequests_ := (reconnectLoops s order).1.pendingRequests_
          loop_ := (reconnectLoops s order).1.loop_ },
        (reconnectLoops s order).2) := by
  have hwait := foldl_startReconnectWait_frame (waitingToChangePhase s order) s t hpending hloop
  have htake := foldl_takeCallback_frame (waitingToCallFailCallback s order)
    ((waitingToChangePhase s order).foldl startReconnectWait s)
    ((waitingToChangePhase s order).foldl startReconnectWait t) []
    (by rw [hwait]) (by rw [hwait])
  have hchange : waitingToChangePhase t order = waitingToChangePhase s order := by
    unfold waitingToChangePhase
    rw [hpending]
  have hfail : waitingToCallFailCallback t order = waitingToCallFailCallback s order := by
    unfold waitingToCallFailCallback
    rw [hpending]
  unfold reconnectLoops
  rw [hchange, hfail, htake, hwait]

theorem now_reconnectLoops (s : State) (order : List UInt64) :
    (reconnectLoops s order).1.now = s.now := by
  unfold reconnectLoops
  rw [now_foldl_takeCallback, now_foldl_startReconnectWait]

theorem failAllDisreconnectRequests_frame (s t : State) {order : List UInt64}
    {errorCode : RpcErrorCode} {errorMessage : Bytes}
    (hpending : t.pendingRequests_ = s.pendingRequests_) (hloop : t.loop_ = s.loop_) :
    failAllDisreconnectRequests t order errorCode errorMessage =
      { t with
        pendingRequests_ := (reconnectLoops s order).1.pendingRequests_
        loop_ := (reconnectLoops s order).1.loop_
        stack := .callbacks ((reconnectLoops s order).2.map
          (lostCompletion s.now errorCode errorMessage)) :: t.stack } := by
  have hnow : (reconnectLoops t order).1.now = s.now := by
    rw [now_reconnectLoops]
    exact congrArg EventLoop.now hloop
  have hdef : failAllDisreconnectRequests t order errorCode errorMessage =
      (reconnectLoops t order).1.push (.callbacks ((reconnectLoops t order).2.map
        (lostCompletion (reconnectLoops t order).1.now errorCode errorMessage))) := rfl
  rw [hdef, hnow, reconnectLoops_frame s t order hpending hloop]
  rfl

/-- No request is left waiting for a response. -/
theorem phase_reconnectLoops {order : List UInt64}
    (horder : IterationOrder order s.pendingRequests_) (id : UInt64) (p : PendingRequest)
    (hp : (reconnectLoops s order).1.pendingRequests_.lookup id = some p) :
    p.phase = .kWaitingReconnect := by
  unfold reconnectLoops at hp
  rw [lookup_foldl_takeCallback] at hp
  split_ifs at hp with htaken
  rcases lookup_foldl_startReconnectWait (waitingToChangePhase s order) s id with
    ⟨hnot, hsame⟩ | ⟨_, hwaiting⟩
  · rw [hsame] at hp
    have hmem : (id, p) ∈ entries order s.pendingRequests_ :=
      mem_entries.mpr ⟨horder.mem_iff.mpr (Finmap.mem_of_lookup_eq_some hp), hp⟩
    cases hphase : p.phase with
    | kWaitingReconnect => rfl
    | kWaitingResponse =>
      exfalso
      by_cases hagain : p.allowReconnect = true ∧ p.remainingResends ≠ 0
      · exact hnot (List.mem_map_of_mem (f := Prod.fst)
          (List.mem_filter.mpr ⟨hmem, decide_eq_true ⟨hphase, hagain⟩⟩))
      · refine htaken (List.mem_map_of_mem (f := Prod.fst)
          (List.mem_filter.mpr ⟨hmem, decide_eq_true ⟨hphase, ?_⟩⟩))
        by_cases hallow : p.allowReconnect = true
        · exact .inl ⟨hallow, not_not.mp fun h => hagain ⟨hallow, h⟩⟩
        · exact .inr hallow
  · exact hwaiting p hp

theorem steps_reconnectLoops (cfg : Config) (proper network : Prop) {order : List UInt64}
    (horder : order.Nodup) (hconn : s.connectedConn = none) {errorCode : RpcErrorCode}
    (hcode : errorCode ∈ lossCodes) (errorMessage : Bytes) :
    Steps cfg proper network s { s with
      pendingRequests_ := (reconnectLoops s order).1.pendingRequests_
      loop_ := (reconnectLoops s order).1.loop_
      stack := .callbacks ((reconnectLoops s order).2.map
        (lostCompletion s.now errorCode errorMessage)) :: s.stack } := by
  let opened : State := { s with stack := .callbacks [] :: s.stack }
  have hchange : (waitingToChangePhase s order).Nodup :=
    (nodup_map_fst_entries horder _).sublist (List.filter_sublist.map _)
  have hwait : Steps cfg proper network opened
      ((waitingToChangePhase s order).foldl startReconnectWait opened) := by
    refine steps_foldl_startReconnectWait _ _ hconn hchange fun id hid => ?_
    obtain ⟨item, hitem, rfl⟩ := List.mem_map.mp hid
    obtain ⟨hmem, hcond⟩ := List.mem_filter.mp hitem
    exact ⟨item.2, (mem_entries.mp hmem).2, of_decide_eq_true hcond⟩
  have htake := steps_foldl_takeCallback cfg proper network hcode errorMessage s.stack
    (waitingToCallFailCallback s order)
    ((waitingToChangePhase s order).foldl startReconnectWait opened) [] (by
      left
      rw [foldl_startReconnectWait_frame _ s opened rfl rfl]
      exact hconn)
  have hframe := reconnectLoops_frame s opened order rfl rfl
  have hopened : (waitingToChangePhase s order).foldl startReconnectWait opened =
      { (waitingToChangePhase s order).foldl startReconnectWait opened with
        stack := .callbacks [] :: s.stack } := by
    rw [foldl_startReconnectWait_frame _ s opened rfl rfl]
  have hboth : (waitingToCallFailCallback s order).foldl takeCallback
      ((waitingToChangePhase s order).foldl startReconnectWait opened, []) =
        reconnectLoops opened order := rfl
  rw [List.map_nil, ← hopened, hboth, hframe, now_foldl_startReconnectWait] at htake
  exact .head .openCallbacks (hwait.trans htake)

end MiniRpc.RpcClient
