import MiniRpc.RpcClient.Equiv.Taken

/-!
# The client keeps to its message size

`callInLoop` is the only operation that looks at the size of a message.  A request is resent with
the strings it was accepted with, and a cancel, which is shorter than any request, is sent for a
request that was accepted before (`Limits`).
-/

namespace MiniRpc.RpcClient

variable {cfg : Config} {proper network : Prop} {s s' : State}

/-- The message an event hands to `codec_.send`. -/
def Event.output? : Event → Option Bytes
  | .requestSent _ _ _ frame _ => some frame
  | .requestResent _ _ frame _ => some frame
  | .cancelSent _ _ frame => some frame
  | _ => none

theorem length_requestFrame (id : UInt64) (p : PendingRequest) : (requestFrame id p).length =
    RpcRequest.OutputMessageLen p.serviceName.length p.methodName.length p.payload.length :=
  (p.request id).length_flatten_fields

/-- A cancel is shorter than a request. -/
theorem length_cancelFrame_le (id id' : UInt64) (p : PendingRequest) :
    (cancelFrame id).length ≤ (requestFrame id' p).length := by
  have hcancel : (cancelFrame id).length = VERSION_LEN + REQUEST_TYPE_LEN + REQUEST_ID_LEN := by
    simp only [cancelFrame, RpcCancel.fields, List.flatten_cons, List.flatten_nil,
      List.length_append, length_netBytes, List.length_nil, VERSION_LEN, REQUEST_TYPE_LEN,
      REQUEST_ID_LEN]
  rw [hcancel, length_requestFrame, RpcRequest.OutputMessageLen]
  omega

/-- The requests that are pending fit, a cancel fits wherever one may be sent, and what was sent
did fit. -/
structure Limits (cfg : Config) (s : State) : Prop where
  pending : ∀ id p, s.pendingRequests_.lookup id = some p →
    (requestFrame id p).length ≤ cfg.effectiveMaxMessageSize
  taken : ∀ c ∈ s.takenCallbacks, c.cause ≠ .rejected →
    (cancelFrame c.requestId).length ≤ cfg.effectiveMaxMessageSize
  sent : ∀ e ∈ s.trace, ∀ frame ∈ e.output?, frame.length ≤ cfg.effectiveMaxMessageSize
  outbox : ∀ item ∈ s.outbox, item.2.length ≤ cfg.effectiveMaxMessageSize

theorem limits_init : Limits cfg .init where
  pending id _ h := by cases (Finmap.lookup_empty id).symm.trans h
  taken _ h := by cases h
  sent _ h := by cases h
  outbox _ h := by cases h

/-- What a transition leaves pending fits. -/
theorem Limits.pending_step (h : Limits cfg s) (ht : Transition cfg proper network s s')
    (id : UInt64) (p : PendingRequest) (hp : s'.pendingRequests_.lookup id = some p) :
    (requestFrame id p).length ≤ cfg.effectiveMaxMessageSize := by
  cases ht with
  | accept _ _ _ hlen =>
    rcases Finmap.lookup_insert_eq_some.mp hp with ⟨_, rfl⟩ | ⟨_, hold⟩
    · rw [length_requestFrame]
      exact hlen
    · exact h.pending id p hold
  | startWait _ hq | rearm _ _ hq | resend _ _ hq =>
    -- the entry keeps its strings
    rcases Finmap.lookup_insert_eq_some.mp hp with ⟨rfl, rfl⟩ | ⟨_, hold⟩
    · have hold := h.pending id _ hq
      exact hold
    · exact h.pending id p hold
  | lose | respond | cancel | timeOut | exhaust | resendFailed =>
    exact h.pending id p (Finmap.lookup_erase_eq_some.mp hp).2
  | _ => exact h.pending id p hp

/-- A callback that is taken belongs to a rejected call or to a request that was pending. -/
theorem Limits.taken_step (h : Limits cfg s) (ht : Transition cfg proper network s s')
    {c : Completion} (hc : c ∈ s'.takenCallbacks) (hcause : c.cause ≠ .rejected) :
    (cancelFrame c.requestId).length ≤ cfg.effectiveMaxMessageSize := by
  have hpending : ∀ {id id' : UInt64} {p : PendingRequest},
      s.pendingRequests_.lookup id = some p →
      (cancelFrame id').length ≤ cfg.effectiveMaxMessageSize := by
    intro id id' p hp
    exact (length_cancelFrame_le id' id p).trans (h.pending id p hp)
  rcases ht.mem_takenCallbacks hc with hold | htakes
  · exact h.taken c hold hcause
  · cases htakes with
    | reject => exact absurd rfl hcause
    | lose _ _ hp | respond _ hp | cancel hp | timeOut _ _ hp | exhaust hp | resendFailed _ hp =>
      exact hpending hp

/-- What a transition hands to the codec: nothing, or one message that fits. -/
theorem Limits.sends (h : Limits cfg s) (ht : Transition cfg proper network s s') :
    ((∀ e ∈ s'.trace, e ∈ s.trace ∨ e.output? = none) ∧ ∀ item ∈ s'.outbox, item ∈ s.outbox) ∨
      ∃ conn e frame, s'.trace = e :: s.trace ∧ s'.outbox = s.outbox ++ [(conn, frame)] ∧
        e.output? = some frame ∧ frame.length ≤ cfg.effectiveMaxMessageSize := by
  cases ht with
  | sendCancel hconn hheld =>
    obtain ⟨c, hc, rfl, hcause⟩ := hheld
    have hne : c.cause ≠ .rejected := by rcases hcause with hcause | hcause <;> simp [hcause]
    exact .inr ⟨_, _, _, rfl, rfl, rfl, h.taken c (List.mem_append_left _ hc) hne⟩
  | accept hcalling hstatus hconn hlen =>
    refine .inr ⟨_, _, _, rfl, rfl, rfl, ?_⟩
    rw [length_requestFrame]
    exact hlen
  | resend _ _ hp => exact .inr ⟨_, _, _, rfl, rfl, rfl, h.pending _ _ hp⟩
  | transmit conn =>
    exact .inl ⟨fun e he => .inl he, fun item hitem => Channel.mem_of_mem_dropFirst hitem⟩
  | draw | forceClose | connectionCallback | connectionErrorCallback | invoke | respond | exhaust
  | rearm | respondIgnored | sweep =>
    refine .inl ⟨fun e he => ?_, fun item hitem => hitem⟩
    rcases List.mem_cons.mp he with rfl | hold
    · exact .inr rfl
    · exact .inl hold
  | respondUnknown =>
    refine .inl ⟨fun e he => ?_, fun item hitem => hitem⟩
    rcases List.mem_cons.mp he with rfl | hold
    · exact .inr rfl
    rcases List.mem_cons.mp hold with rfl | hold
    · exact .inr rfl
    · exact .inl hold
  | _ => exact .inl ⟨fun e he => .inl he, fun item hitem => hitem⟩

theorem Limits.step (h : Limits cfg s) (ht : Transition cfg proper network s s') :
    Limits cfg s' where
  pending := h.pending_step ht
  taken _ := h.taken_step ht
  sent := by
    intro e he frame hframe
    rcases h.sends ht with ⟨hquiet, -⟩ | ⟨conn, e', frame', htrace, -, hout, hlen⟩
    · rcases hquiet e he with hold | hnone
      · exact h.sent e hold frame hframe
      · cases hnone.symm.trans hframe
    · rw [htrace] at he
      rcases List.mem_cons.mp he with rfl | hold
      · cases hout.symm.trans hframe
        exact hlen
      · exact h.sent e hold frame hframe
  outbox := by
    intro item hitem
    rcases h.sends ht with ⟨-, hquiet⟩ | ⟨conn, e', frame', -, houtbox, -, hlen⟩
    · exact h.outbox item (hquiet item hitem)
    · rw [houtbox] at hitem
      rcases List.mem_append.mp hitem with hold | hnew
      · exact h.outbox item hold
      · obtain rfl := List.mem_singleton.mp hnew
        exact hlen

theorem limits_of_reachable (h : (machine cfg).Reachable s) : Limits cfg s :=
  invariant limits_init (fun _ _ hP ht => hP.step ht) h

end MiniRpc.RpcClient
