import MiniRpc.Bytes.Cursor

/-!
# Accesses within bounds

A read cursor is sound on a message when its two counters add up to the length of the message, and
did so at each read made, which took no more than was left (`ReadCursor.Sound`).  A routine keeps
its cursor sound whether it succeeds or fails (`Reader.Keeps`); there is one rule for each
primitive and one for sequences.

A write cursor is sound on a buffer of size `n` when the bytes written so far are those in front
of the index, each written once and in order, and the buffer still has its size
(`WriteCursor.Sound`).  Filling the buffer with pieces that fit keeps it so
(`WriteCursor.Sound.fill`).
-/

namespace MiniRpc

/-! ### Reads -/

/-- The read took no more than was counted as left of a message of length `n`, and the count was
right. -/
def Access.Counted (a : Access) (n : ℕ) : Prop :=
  ∃ left, a.leftLen = some left ∧ a.index + left = n ∧ a.length ≤ left

/-- The read ended within a message of length `n`. -/
def Access.Within (a : Access) (n : ℕ) : Prop := a.index + a.length ≤ n

theorem Access.Counted.within {a : Access} {n : ℕ} (h : a.Counted n) : a.Within n := by
  obtain ⟨left, -, hsum, hle⟩ := h
  show a.index + a.length ≤ n
  omega

/-- The counters add up to the length of the message, now and at each read made, and the reads
were within the message. -/
structure ReadCursor.Sound (c : ReadCursor) (msg : Bytes) : Prop where
  data : c.data = msg
  left : c.index + c.leftLen = msg.length
  reads : ∀ a ∈ c.reads, a.Counted msg.length ∧ a.Within msg.length

theorem ReadCursor.sound_start (msg : Bytes) : (ReadCursor.start msg).Sound msg where
  data := rfl
  left := Nat.zero_add _
  reads := by
    intro a ha
    cases ha

namespace Reader

/-- The routine keeps its cursor sound, whether it succeeds or fails. -/
def Keeps {α : Type} (m : Reader α) : Prop :=
  ∀ (c : ReadCursor) (msg : Bytes), c.Sound msg → (m.runFrom c).2.Sound msg

theorem keeps_pure {α : Type} (a : α) : Keeps (pure a : Reader α) := fun _ _ h => h

theorem keeps_leftLen : Keeps leftLen := fun _ _ h => h

theorem keeps_failIf (p : Prop) [Decidable p] (err : Bytes) : Keeps (failIf p err) := by
  intro c msg h
  have hrun : (failIf p err).runFrom c = if p then (.error err, c) else (.ok (), c) := rfl
  rw [hrun]
  split_ifs
  · exact h
  · exact h

/-- A read is made only when enough is left, and moves both counters by its length. -/
theorem keeps_read (w : ℕ) (err : Bytes) : Keeps (read w err) := by
  intro c msg h
  have hleft := h.left
  by_cases hlt : c.leftLen < w
  · rw [read_of_lt hlt]
    exact h
  · rw [read_of_le (not_lt.mp hlt)]
    constructor
    · exact h.data
    · show c.index + w + (c.leftLen - w) = msg.length
      omega
    · intro a ha
      rcases List.mem_append.mp ha with ha | ha
      · exact h.reads a ha
      · obtain rfl := List.mem_singleton.mp ha
        have hcounted : Access.Counted ⟨c.index, w, some c.leftLen⟩ msg.length :=
          ⟨c.leftLen, rfl, hleft, not_lt.mp hlt⟩
        exact ⟨hcounted, hcounted.within⟩

theorem Keeps.bind {α β : Type} {m : Reader α} {f : α → Reader β} (hm : m.Keeps)
    (hf : ∀ a, (f a).Keeps) : (m >>= f).Keeps := by
  intro c msg h
  have hrun : (m >>= f).runFrom c = (m.run >>= ExceptT.bindCont f).run c := rfl
  have hsound : (m.run.run c).2.Sound msg := hm c msg h
  rw [hrun, StateT.run_bind]
  rcases hres : m.run.run c with ⟨res, c'⟩
  rw [hres] at hsound
  cases res with
  | error err => exact hsound
  | ok a => exact hf a c' msg hsound

end Reader

/-! ### Writes -/

/-- The indices that the accesses of a log go over, in order. -/
def touched (log : List (ℕ × ℕ)) : List ℕ := log.flatMap fun a => List.range' a.1 a.2

theorem touched_append (log : List (ℕ × ℕ)) (index length : ℕ) :
    touched (log ++ [(index, length)]) = touched log ++ List.range' index length := by
  simp [touched]

namespace WriteCursor

/-- The buffer has size `n`, and what was written is what stands in front of the index. -/
structure Sound (b : WriteCursor) (n : ℕ) : Prop where
  size : b.data.length = n
  within : ∀ a ∈ b.writes, a.1 + a.2 ≤ n
  touched : touched b.writes = List.range b.index

theorem sound_start (n : ℕ) (s : Bytes) : (⟨resize n s, 0, []⟩ : WriteCursor).Sound n where
  size := length_resize n s
  within := by
    intro a ha
    cases ha
  touched := rfl

theorem Sound.memcpy {b : WriteCursor} {n : ℕ} {src : Bytes} (h : b.Sound n)
    (hle : b.index + src.length ≤ n) : (b.memcpy src).Sound n := by
  constructor
  · have hsize := h.size
    show (b.data.take b.index ++ src ++ b.data.drop (b.index + src.length)).length = n
    simp only [List.length_append, List.length_take, List.length_drop]
    omega
  · intro a ha
    rcases List.mem_append.mp ha with ha | ha
    · exact h.within a ha
    · obtain rfl := List.mem_singleton.mp ha
      exact hle
  · show MiniRpc.touched (b.writes ++ [(b.index, src.length)]) = List.range (b.index + src.length)
    have hrange : List.range' (0 + b.index) src.length = List.range' b.index src.length := by
      rw [Nat.zero_add]
    rw [touched_append, h.touched, List.range_eq_range', List.range_eq_range', ← hrange,
      List.range'_append_1]

theorem Sound.fill {n : ℕ} : ∀ {pieces : List Bytes} {b : WriteCursor}, b.Sound n →
    b.index + pieces.flatten.length ≤ n → (b.fill pieces).Sound n
  | [], _, h, _ => h
  | p :: ps, b, h, hle => by
    rw [List.flatten_cons, List.length_append] at hle
    have hp : b.index + p.length ≤ n := by omega
    have hps : (b.memcpy p).index + ps.flatten.length ≤ n := by
      show b.index + p.length + ps.flatten.length ≤ n
      omega
    exact (h.memcpy hp).fill hps

theorem index_fill : ∀ (pieces : List Bytes) (b : WriteCursor),
    (b.fill pieces).index = b.index + pieces.flatten.length
  | [], _ => rfl
  | p :: ps, b => by
    have hp : (b.memcpy p).index = b.index + p.length := rfl
    rw [fill_cons, index_fill ps, hp, List.flatten_cons, List.length_append, Nat.add_assoc]

end WriteCursor

end MiniRpc
