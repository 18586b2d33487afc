import MiniRpc.Bytes.Endian

/-!
# Reading and writing a buffer through an index

`WriteCursor` is a buffer of fixed size and the index of the next write; `memcpy` overwrites the
bytes there and moves the index.  Filling a buffer with pieces whose lengths sum to its size
leaves exactly the pieces, whatever the buffer held before (`WriteCursor.data_fill`).

`ReadCursor` is a message, the index of the next read and the number of bytes left, kept apart as
two counters.  A `Reader` is a routine over it that fails with a text; `read w err` is the step
every field is read with.  `ReadCursor.At c bs` says that the two counters agree and that `bs` is
what is left to read; `read_ok` is the rule of the step, `Reader.run_bind_ok` chains it, and
`read_inv` and `Reader.run_bind_inv` go back from a run that succeeded to what was read.

Both cursors log every access.  `Reader.Reports` says that a routine never fails without a text.
-/

namespace MiniRpc

/-! ### Writing -/

/-- A buffer of fixed size being written from the front. -/
structure WriteCursor where
  /-- The buffer. -/
  data : Bytes
  /-- The index of the next write. -/
  index : ℕ
  /-- Index and length of the writes made, the latest last. -/
  writes : List (ℕ × ℕ)

/-- A string resized to `n`: cut, or padded with zeros. -/
def resize (n : ℕ) (s : Bytes) : Bytes := s.take n ++ List.replicate (n - s.length) 0

@[simp] theorem length_resize (n : ℕ) (s : Bytes) : (resize n s).length = n := by
  rw [resize, List.length_append, List.length_take, List.length_replicate]
  omega

namespace WriteCursor

/-- Copy `src` to the index and move the index past it. -/
def memcpy (b : WriteCursor) (src : Bytes) : WriteCursor where
  data := b.data.take b.index ++ src ++ b.data.drop (b.index + src.length)
  index := b.index + src.length
  writes := b.writes ++ [(b.index, src.length)]

/-- Copy the pieces one after the other. -/
def fill (b : WriteCursor) (pieces : List Bytes) : WriteCursor := pieces.foldl memcpy b

theorem fill_cons (b : WriteCursor) (p : Bytes) (ps : List Bytes) :
    b.fill (p :: ps) = (b.memcpy p).fill ps := rfl

/-- After the pieces the buffer holds what stood before the index, the pieces, and what stood
after them. -/
theorem data_fill : ∀ (pieces : List Bytes) (b : WriteCursor),
    b.index + pieces.flatten.length ≤ b.data.length →
    (b.fill pieces).data =
      b.data.take b.index ++ pieces.flatten ++ b.data.drop (b.index + pieces.flatten.length)
  | [], b, _ => by
    show b.data = _
    simp
  | p :: ps, b, h => by
    rw [List.flatten_cons, List.length_append] at h
    have hlen : (b.memcpy p).data.length = b.data.length := by
      simp only [memcpy, List.length_append, List.length_take, List.length_drop]
      omega
    have htake : (b.memcpy p).data.take (b.memcpy p).index = b.data.take b.index ++ p := by
      apply List.take_left'
      rw [List.length_append, List.length_take]
      simp only [memcpy]
      omega
    have hdrop : (b.memcpy p).data.drop ((b.memcpy p).index + ps.flatten.length) =
        b.data.drop (b.index + (p ++ ps.flatten).length) := by
      have hpre : (b.data.take b.index ++ p).length = b.index + p.length := by
        rw [List.length_append, List.length_take]
        omega
      simp only [memcpy]
      rw [List.drop_append, hpre, List.drop_eq_nil_of_le (by omega), List.nil_append,
        List.drop_drop, List.length_append]
      congr 1
      omega
    rw [fill_cons, data_fill ps (b.memcpy p) (by rw [hlen]; simp only [memcpy]; omega), htake,
      hdrop, List.flatten_cons, List.append_assoc (b.data.take b.index)]

/-- A buffer of exactly the size of the pieces ends up holding the pieces. -/
theorem data_fill_resize (s : Bytes) (pieces : List Bytes) (n : ℕ)
    (hn : n = pieces.flatten.length) :
    ((⟨resize n s, 0, []⟩ : WriteCursor).fill pieces).data = pieces.flatten := by
  rw [data_fill _ _ (by simp [hn])]
  simp [hn]

end WriteCursor

/-! ### Reading -/

/-- A read that was made. -/
structure Access where
  /-- The index it started at. -/
  index : ℕ
  /-- The number of bytes copied. -/
  length : ℕ
  /-- The number of bytes that were counted as left, where a count is kept. -/
  leftLen : Option ℕ
  deriving DecidableEq, Repr

/-- A message being read from the front. -/
structure ReadCursor where
  /-- The message. -/
  data : Bytes
  /-- The index of the next read. -/
  index : ℕ
  /-- The number of bytes not yet read. -/
  leftLen : ℕ
  /-- The reads made, the latest last. -/
  reads : List Access

/-- A routine that reads a message and may fail with a text. -/
abbrev Reader := ExceptT Bytes (StateM ReadCursor)

/-- The cursor in front of a message. -/
def ReadCursor.start (msg : Bytes) : ReadCursor := ⟨msg, 0, msg.length, []⟩

/-- The counters agree and `bs` is what is left to read. -/
structure ReadCursor.At (c : ReadCursor) (bs : Bytes) : Prop where
  /-- What is left starts at the index. -/
  drop : c.data.drop c.index = bs
  /-- The index is within the message. -/
  le : c.index ≤ c.data.length
  /-- The second counter is the length of what is left. -/
  left : c.index + c.leftLen = c.data.length

theorem ReadCursor.At.leftLen {c : ReadCursor} {bs : Bytes} (h : c.At bs) :
    c.leftLen = bs.length := by
  have h1 := h.left
  have h2 := h.le
  rw [← h.drop, List.length_drop]
  omega

theorem ReadCursor.at_start (msg : Bytes) : (ReadCursor.start msg).At msg :=
  ⟨rfl, Nat.zero_le _, Nat.zero_add _⟩

namespace Reader

/-- Run a routine from a cursor. -/
def runFrom {α : Type} (m : Reader α) (c : ReadCursor) : Except Bytes α × ReadCursor := m.run.run c

/-- Copy `w` bytes from the index and move both counters, or fail with `err` when fewer are
left. -/
def read (w : ℕ) (err : Bytes) : Reader Bytes := ExceptT.mk fun c =>
  if c.leftLen < w then (.error err, c)
  else
    (.ok ((c.data.drop c.index).take w),
      { c with
        index := c.index + w
        leftLen := c.leftLen - w
        reads := c.reads ++ [⟨c.index, w, some c.leftLen⟩] })

theorem read_of_lt {w : ℕ} {c : ReadCursor} (h : c.leftLen < w) (err : Bytes) :
    (read w err).runFrom c = (.error err, c) := if_pos h

theorem read_of_le {w : ℕ} {c : ReadCursor} (h : w ≤ c.leftLen) (err : Bytes) :
    (read w err).runFrom c =
      (.ok ((c.data.drop c.index).take w),
        { c with
          index := c.index + w
          leftLen := c.leftLen - w
          reads := c.reads ++ [⟨c.index, w, some c.leftLen⟩] }) := if_neg (not_lt.mpr h)

/-- Copy `w` bytes from the index and move it, without a look at how many are left. -/
def copy (w : ℕ) : Reader Bytes := ExceptT.mk fun c =>
  (.ok ((c.data.drop c.index).take w),
    { c with
      index := c.index + w
      reads := c.reads ++ [⟨c.index, w, none⟩] })

/-- The length of the message. -/
def size : Reader ℕ := ExceptT.mk fun c => (.ok c.data.length, c)

/-- The number of bytes left. -/
def leftLen : Reader ℕ := ExceptT.mk fun c => (.ok c.leftLen, c)

/-- Fail with `err` when `p` holds. -/
def failIf (p : Prop) [Decidable p] (err : Bytes) : Reader Unit := ExceptT.mk fun c =>
  if p then (.error err, c) else (.ok (), c)

theorem run_bind_ok {α β : Type} {m : Reader α} {f : α → Reader β} {c c' : ReadCursor} {a : α}
    (h : m.runFrom c = (.ok a, c')) : (m >>= f).runFrom c = (f a).runFrom c' := by
  have h' : m.run.run c = (.ok a, c') := h
  show (ExceptT.bind m f).run.run c = _
  show (m.run >>= ExceptT.bindCont f).run c = _
  rw [StateT.run_bind, h']
  rfl

theorem leftLen_ok {c : ReadCursor} {bs : Bytes} (h : c.At bs) :
    leftLen.runFrom c = (.ok bs.length, c) := by
  rw [← h.leftLen]
  rfl

theorem failIf_ok {p : Prop} [Decidable p] (h : ¬ p) (err : Bytes) (c : ReadCursor) :
    (failIf p err).runFrom c = (.ok (), c) :=
  if_neg h

/-- **Rule of the read step.** Reading the length of a prefix of what is left returns the prefix
and leaves the rest. -/
theorem read_ok {c : ReadCursor} {a bs : Bytes} (h : c.At (a ++ bs)) (err : Bytes) :
    ∃ c', (read a.length err).runFrom c = (.ok a, c') ∧ c'.At bs := by
  have hleft := h.leftLen
  rw [List.length_append] at hleft
  have htotal := h.left
  rw [read_of_le (by omega), h.drop, List.take_left]
  refine ⟨_, rfl, ?_, ?_, ?_⟩
  · show c.data.drop (c.index + a.length) = bs
    rw [← List.drop_drop, h.drop, List.drop_left]
  · show c.index + a.length ≤ c.data.length
    omega
  · show c.index + a.length + (c.leftLen - a.length) = c.data.length
    omega

/-! #### Runs that succeeded -/

theorem run_bind_inv {α β : Type} {m : Reader α} {f : α → Reader β} {c c'' : ReadCursor} {b : β}
    (h : (m >>= f).runFrom c = (.ok b, c'')) :
    ∃ a c', m.runFrom c = (.ok a, c') ∧ (f a).runFrom c' = (.ok b, c'') := by
  have h' : (m.run >>= ExceptT.bindCont f).run c = (.ok b, c'') := h
  rw [StateT.run_bind] at h'
  rcases hm : m.run.run c with ⟨res, c'⟩
  rw [hm] at h'
  cases res with
  | error err => cases h'
  | ok a => exact ⟨a, c', hm, h'⟩

theorem pure_inv {α : Type} {a b : α} {c c' : ReadCursor}
    (h : (pure a : Reader α).runFrom c = (.ok b, c')) : a = b ∧ c = c' := by
  obtain ⟨ha, hc⟩ := Prod.mk.inj h
  exact ⟨Except.ok.inj ha, hc⟩

theorem failIf_inv {p : Prop} [Decidable p] {err : Bytes} {u : Unit} {c c' : ReadCursor}
    (h : (failIf p err).runFrom c = (.ok u, c')) : ¬ p ∧ c = c' := by
  have hrun : (failIf p err).runFrom c = if p then (.error err, c) else (.ok (), c) := rfl
  rw [hrun] at h
  split_ifs at h with hp
  · cases (Prod.mk.inj h).1
  · exact ⟨hp, (Prod.mk.inj h).2⟩

theorem leftLen_inv {c c' : ReadCursor} {bs : Bytes} {n : ℕ} (hat : c.At bs)
    (h : leftLen.runFrom c = (.ok n, c')) : n = bs.length ∧ c = c' := by
  rw [leftLen_ok hat] at h
  obtain ⟨hn, hc⟩ := Prod.mk.inj h
  exact ⟨(Except.ok.inj hn).symm, hc⟩

/-- What was read is a prefix of what was left. -/
theorem read_inv {c c' : ReadCursor} {w : ℕ} {err a bs : Bytes} (hat : c.At bs)
    (h : (read w err).runFrom c = (.ok a, c')) :
    ∃ bs', a.length = w ∧ bs = a ++ bs' ∧ c'.At bs' := by
  by_cases hlt : c.leftLen < w
  · rw [read_of_lt hlt] at h
    cases (Prod.mk.inj h).1
  · have hle : w ≤ bs.length := hat.leftLen ▸ not_lt.mp hlt
    have hlen : (bs.take w).length = w := List.length_take_of_le hle
    have hsplit : c.At (bs.take w ++ bs.drop w) := by rwa [List.take_append_drop]
    obtain ⟨c₁, hrun, hat₁⟩ := read_ok hsplit err
    rw [hlen, h] at hrun
    obtain ⟨ha, rfl⟩ := Prod.mk.inj hrun
    obtain rfl := Except.ok.inj ha
    exact ⟨bs.drop w, hlen, (List.take_append_drop w bs).symm, hat₁⟩

/-! #### Runs that failed -/

/-- When the routine fails, it says why. -/
def Reports {α : Type} (m : Reader α) : Prop :=
  ∀ (c c' : ReadCursor) (err : Bytes), m.runFrom c = (.error err, c') → err ≠ []

theorem reports_pure {α : Type} (a : α) : Reports (pure a : Reader α) := by
  intro c c' err h
  cases (Prod.mk.inj h).1

theorem reports_leftLen : Reports leftLen := by
  intro c c' err h
  cases (Prod.mk.inj h).1

theorem reports_failIf {p : Prop} [Decidable p] {err : Bytes} (herr : err ≠ []) :
    Reports (failIf p err) := by
  intro c c' err' h
  have hrun : (failIf p err).runFrom c = if p then (.error err, c) else (.ok (), c) := rfl
  rw [hrun] at h
  split_ifs at h with hp
  · rwa [← Except.error.inj (Prod.mk.inj h).1]
  · cases (Prod.mk.inj h).1

theorem reports_read {w : ℕ} {err : Bytes} (herr : err ≠ []) : Reports (read w err) := by
  intro c c' err' h
  by_cases hlt : c.leftLen < w
  · rw [read_of_lt hlt] at h
    rwa [← Except.error.inj (Prod.mk.inj h).1]
  · rw [read_of_le (not_lt.mp hlt)] at h
    cases (Prod.mk.inj h).1

/-- A sequence reports its errors when both of its parts do. -/
theorem Reports.bind {α β : Type} {m : Reader α} {f : α → Reader β} (hm : m.Reports)
    (hf : ∀ a, (f a).Reports) : (m >>= f).Reports := by
  intro c c'' err h
  have h' : (m.run >>= ExceptT.bindCont f).run c = (.error err, c'') := h
  rw [StateT.run_bind] at h'
  rcases hrun : m.run.run c with ⟨res, c'⟩
  rw [hrun] at h'
  cases res with
  | error e =>
    obtain ⟨he, -⟩ := Prod.mk.inj h'
    rw [← Except.error.inj he]
    exact hm c c' e hrun
  | ok a => exact hf a c' c'' err h'

end Reader

end MiniRpc
