import Mathlib.Data.List.Basic
import Mathlib.Data.Set.Basic

/-!
# Delimited formats and exact codecs

`Delimited valid f`: from the front of a text that starts with the encoding `f a` of a valid value,
the value and the rest of the text can be told.  Encodings of a fixed length are delimited
(`Delimited.of_length`), and the encodings of a delimited format are prefix-free
(`Delimited.prefixFree`).

`ExactCodec` is the two-way law between an encoder that fills an output and a decoder that fills an
object: what is valid is encoded, whatever the output held, and decoded again; and what is decoded
is the encoding of the value it decodes to.
-/

namespace MiniRpc

variable {α β γ : Type}

/-! ### Delimited formats -/

/-- No word of the set is a proper prefix of another. -/
def PrefixFree (words : Set (List β)) : Prop :=
  ∀ m x, m ∈ words → m ++ x ∈ words → x = []

/-- A value and the rest of a text can be told from the text. -/
def Delimited (valid : α → Prop) (f : α → List β) : Prop :=
  ∀ a b x y, valid a → valid b → f a ++ x = f b ++ y → a = b ∧ x = y

namespace Delimited

variable {valid : α → Prop} {f : α → List β}

theorem prefixFree (h : Delimited valid f) : PrefixFree {m | ∃ a, valid a ∧ m = f a} := by
  rintro m x ⟨a, ha, rfl⟩ ⟨b, hb, heq⟩
  have heq : f a ++ x = f b ++ [] := by rw [heq, List.append_nil]
  exact (h a b x [] ha hb heq).2

/-- Encodings of one length. -/
theorem of_length {w : ℕ} (hlen : ∀ a, valid a → (f a).length = w)
    (hinj : ∀ a b, valid a → valid b → f a = f b → a = b) : Delimited valid f := by
  intro a b x y ha hb heq
  obtain ⟨hhead, hrest⟩ := List.append_inj heq ((hlen a ha).trans (hlen b hb).symm)
  exact ⟨hinj a b ha hb hhead, hrest⟩

end Delimited

/-! ### Exact codecs -/

/-- An encoder and a decoder, which both report whether they succeeded and take the error text so
far, agree exactly on the valid values; `length` is the length of an encoding. -/
structure ExactCodec (valid : α → Prop) (length : α → ℕ)
    (encode : α → List β → γ → Bool × List β × γ) (decode : α → List β → γ → Bool × α × γ) :
    Prop where
  /-- Exactly the valid values are encoded, whatever the output held before. -/
  encode_iff : ∀ a output err, (encode a output err).1 = true ↔ valid a
  /-- The encoding has the announced length and is decoded, into any object. -/
  decode_encode : ∀ a, valid a → ∃ m, m.length = length a ∧
    (∀ output err, encode a output err = (true, m, err)) ∧
    ∀ self err, decode self m err = (true, a, err)
  /-- Exactly the encodings of the valid values are decoded. -/
  decode_iff : ∀ self m err, (decode self m err).1 = true ↔
    ∃ a, valid a ∧ ∀ output err', encode a output err' = (true, m, err')
  /-- What is decoded is encoded to the same text. -/
  encode_decode : ∀ self m err, (decode self m err).1 = true →
    ∀ output err', encode (decode self m err).2.1 output err' = (true, m, err')

/-- The law from its two halves: what a valid value is encoded to, and what is decoded. -/
theorem ExactCodec.of_encoding {valid : α → Prop} {length : α → ℕ}
    {encode : α → List β → γ → Bool × List β × γ} {decode : α → List β → γ → Bool × α × γ}
    (encoding : α → List β) (hlength : ∀ a, (encoding a).length = length a)
    (hencode : ∀ a output err, valid a → encode a output err = (true, encoding a, err))
    (hvalid : ∀ a output err, (encode a output err).1 = true → valid a)
    (hdecode : ∀ a self err, valid a → decode self (encoding a) err = (true, a, err))
    (hsound : ∀ self m err, (decode self m err).1 = true →
      valid (decode self m err).2.1 ∧ m = encoding (decode self m err).2.1) :
    ExactCodec valid length encode decode where
  encode_iff a output err := ⟨hvalid a output err, fun ha => by rw [hencode a output err ha]⟩
  decode_encode a ha :=
    ⟨encoding a, hlength a, fun output err => hencode a output err ha,
      fun self err => hdecode a self err ha⟩
  decode_iff self m err := by
    constructor
    · intro h
      obtain ⟨ha, hm⟩ := hsound self m err h
      refine ⟨_, ha, fun output err' => ?_⟩
      rw [hencode _ output err' ha, ← hm]
    · rintro ⟨a, ha, henc⟩
      -- an encoder has one output, so the message is the encoding
      have hsame : (true, encoding a, err) = (true, m, err) :=
        (hencode a m err ha).symm.trans (henc m err)
      have hm : encoding a = m := (Prod.mk.inj (Prod.mk.inj hsame).2).1
      rw [← hm, hdecode a self err ha]
  encode_decode self m err h output err' := by
    obtain ⟨ha, hm⟩ := hsound self m err h
    rw [hencode _ output err' ha, ← hm]

end MiniRpc
