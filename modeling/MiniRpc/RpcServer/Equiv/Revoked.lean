import MiniRpc.RpcServer.Equiv.Replies
import MiniRpc.RpcServer.Equiv.Traffic

/-!
# Why a token is cancelled

A token belongs to the request it was registered for, and it is cancelled only when a `Cancel` frame
for that request finds it or the close of its connection is reported (`Revoked`).
-/

namespace MiniRpc.RpcServer

variable {cfg : Config} {proper network : Prop} {s s' : State} {phase phase' : Phase}
  {c : ConnId} {i : UInt64} {t : TokenId}

/-- A `Cancel` frame found the token, or the close of the connection was reported. -/
def CanceledBy (trace : List Event) (c : ConnId) (i : UInt64) (t : TokenId) : Prop :=
  .cancelReceived c i (some t) ∈ trace ∨ .closed c ∈ trace

/-- A token that is cancelled was in the registry. -/
theorem Transition.canceled (ht : Transition cfg proper network (s, phase) (s', phase'))
    (h : t ∈ s'.cancellationRegistry_.canceled_) : t ∈ s.cancellationRegistry_.canceled_ ∨
      ∃ c i, s.cancellationRegistry_.find? c i = some t ∧ CanceledBy s'.trace c i t := by
  cases ht with
  | register _ _ hcanceled | takeCanceled _ _ hcanceled | take _ _ hcanceled =>
    exact .inl (hcanceled ▸ h)
  | @cancel _ conn requestId token registry hfound hcanceled =>
    rw [hcanceled, Finset.mem_insert] at h
    rcases h with rfl | hold
    · exact .inr ⟨conn, requestId, hfound, .inl List.mem_cons_self⟩
    · exact .inl hold
  | @down _ conn =>
    rcases (CancellationRegistry.mem_canceled_clear _ conn t).mp h with hold | ⟨i, hfound⟩
    · exact .inl hold
    · exact .inr ⟨conn, i, hfound, .inr List.mem_cons_self⟩
  | _ => exact .inl h

/-- A token that a `Cancel` frame found was in the registry. -/
theorem Transition.found (ht : Transition cfg proper network (s, phase) (s', phase'))
    (h : .cancelReceived c i (some t) ∈ s'.trace) : .cancelReceived c i (some t) ∈ s.trace ∨
      s.cancellationRegistry_.find? c i = some t := by
  have hcons : ∀ {e : Event} {trace : List Event}, e ≠ .cancelReceived c i (some t) →
      .cancelReceived c i (some t) ∈ e :: trace → .cancelReceived c i (some t) ∈ trace :=
    fun he hmem => (List.mem_cons.mp hmem).resolve_left (Ne.symm he)
  cases ht with
  | cancel hfound =>
    rcases List.mem_cons.mp h with heq | hold
    · obtain ⟨rfl, rfl, htoken⟩ := Event.cancelReceived.inj heq
      exact .inr (htoken ▸ hfound)
    · exact .inl hold
  | invokeSync | refuse | refuseDuplicate => exact .inl (hcons (by simp) (hcons (by simp) h))
  | receive | refuseLimit | respond | close | cancelNone | startHandler | refuseReplied
  | workerTake | handlerThrows | userReply | forceClose | down | stopCompleted =>
    exact .inl (hcons (by simp) h)
  | _ => exact .inl h

theorem CanceledBy.mono {trace trace' : List Event} (htrace : trace ⊆ trace')
    (h : CanceledBy trace c i t) : CanceledBy trace' c i t :=
  h.imp (fun hmem => htrace hmem) fun hmem => htrace hmem

/-- What is on record about the tokens. -/
structure Revoked (s : State) : Prop where
  entry : ∀ c i t, s.cancellationRegistry_.find? c i = some t → Requested s.trace c i t
  found : ∀ c i t, .cancelReceived c i (some t) ∈ s.trace → Requested s.trace c i t
  canceled : ∀ t ∈ s.cancellationRegistry_.canceled_,
    ∃ c i, Requested s.trace c i t ∧ CanceledBy s.trace c i t

theorem revoked_init : Revoked (.init cfg) where
  entry c i t h := by cases (CancellationRegistry.find?_init _ _ c i).symm.trans h
  found _ _ _ h := by cases h
  canceled t h := absurd h (Finset.notMem_empty t)

theorem Revoked.step (h : Revoked s) (hserved : Served cfg s phase)
    (ht : Transition cfg proper network (s, phase) (s', phase')) : Revoked s' := by
  have htrace : s.trace ⊆ s'.trace := ht.trace_subset
  constructor
  case entry =>
    intro c i t hfound
    rcases ht.entry hfound with hold | ⟨request, hphase, hid⟩
    · exact (h.entry c i t hold).mono htrace
    · exact ⟨request, htrace (hserved.received _ _ _ hphase), hid⟩
  case found =>
    intro c i t hmem
    rcases ht.found hmem with hold | hfound
    · exact (h.found c i t hold).mono htrace
    · exact (h.entry c i t hfound).mono htrace
  case canceled =>
    intro t hmem
    rcases ht.canceled hmem with hold | ⟨c, i, hfound, hby⟩
    · obtain ⟨c, i, hrequested, hby⟩ := h.canceled t hold
      exact ⟨c, i, hrequested.mono htrace, hby.mono htrace⟩
    · exact ⟨c, i, (h.entry c i t hfound).mono htrace, hby⟩

theorem revoked_of_reachable (h : (machine cfg).Reachable s) : Revoked s :=
  (invariant (P := fun x => Served cfg x.1 x.2 ∧ Revoked x.1) ⟨served_init, revoked_init⟩
    (fun _ _ hP ht => ⟨hP.1.step ht, hP.2.step hP.1 ht⟩) h).2

/-! ### Proper steps -/

/-- What is known of the replies in the runs in which no reply of a cancelled invocation finds a
token. -/
theorem answered_of_proper (h : (machine cfg).ReachableBy Proper s) : Answered cfg s .idle :=
  (invariant_of_proper
    (P := fun x => (Books x.1 x.2 ∧ Served cfg x.1 x.2) ∧ Replies x.1 ∧ Answered cfg x.1 x.2)
    ⟨⟨books_init, served_init⟩, replies_init, answered_init⟩
    (fun _ _ hP ht => ⟨⟨hP.1.1.step ht, hP.1.2.step ht⟩, hP.2.1.step hP.1.1.tokens ht,
      hP.2.2.step hP.2.1 hP.1.2 ht⟩) h).2.2

/-- A queued reply finds no other token than its own, so none if that was cancelled, where no two
requests on a connection have the same id. -/
theorem proper_of_unique (h : (machine cfg).Reachable s)
    (hunique : ∀ c i n n', Requested s.trace c i n → Requested s.trace c i n' → n = n')
    (a : Action) : Proper s a := by
  have hlaws := laws_of_reachable h
  cases a with
  | runTask l =>
    intro task htask
    cases task with
    | onTaskPoolStopped => trivial
    | reply inv r =>
      intro hcanceled
      by_contra hsome
      obtain ⟨token, hfound⟩ := Option.ne_none_iff_exists'.mp hsome
      obtain ⟨r', hreplied, -⟩ := hlaws.served.queued inv r ⟨l, Channel.mem_of_first htask⟩
      have hown := (revoked_of_reachable h).entry _ _ _ hfound
      obtain rfl := hunique _ _ _ _ hown ⟨inv.request, hreplied.known.received, rfl⟩
      exact hlaws.tokens.live _ _ _ hfound hcanceled
  | _ => trivial

end MiniRpc.RpcServer
