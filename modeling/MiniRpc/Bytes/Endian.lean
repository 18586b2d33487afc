import Mathlib.Data.List.Induction
import Mathlib.Algebra.Order.Ring.Nat
import Mathlib.Tactic.Ring
import Mathlib.Tactic.Positivity

/-!
# Byte strings and the byte order of unsigned integers

`beBytes w n` are the `w` big-endian bytes of `n`, `ofBE` reads them back (`ofBE_beBytes`,
`beBytes_ofBE`).  `toMemory e w n` is the object representation of a `w`-byte unsigned integer on
a host of byte order `e`, and `swap e w` is the conversion between host and network order that
reverses the object's bytes on a little-endian host.  Storing a converted value writes its
big-endian bytes on either host (`toMemory_swap`), and converting a loaded one reads them
(`swap_ofMemory`).
-/

namespace MiniRpc

/-- A byte string: embedded zeros are allowed and the length is not limited. -/
abbrev Bytes := List UInt8

/-- The byte order of a host. -/
inductive Endian
  | little
  | big
  deriving DecidableEq, Repr

/-- The `w` big-endian bytes of `n`; higher bits are dropped. -/
def beBytes : ℕ → ℕ → Bytes
  | 0, _ => []
  | w + 1, n => beBytes w (n / 256) ++ [UInt8.ofNat n]

/-- The number whose big-endian bytes are given. -/
def ofBE (bs : Bytes) : ℕ := bs.foldl (fun n b => n * 256 + b.toNat) 0

@[simp] theorem length_beBytes (w n : ℕ) : (beBytes w n).length = w := by
  induction w generalizing n with
  | zero => rfl
  | succ w ih => rw [beBytes, List.length_append, ih, List.length_singleton]

theorem ofBE_append_singleton (bs : Bytes) (b : UInt8) :
    ofBE (bs ++ [b]) = ofBE bs * 256 + b.toNat := by
  rw [ofBE, List.foldl_append]
  rfl

theorem ofBE_beBytes (w n : ℕ) : ofBE (beBytes w n) = n % 256 ^ w := by
  induction w generalizing n with
  | zero => rw [pow_zero, Nat.mod_one]; rfl
  | succ w ih =>
    have hb : (UInt8.ofNat n).toNat = n % 256 := UInt8.toNat_ofNat'
    rw [beBytes, ofBE_append_singleton, ih, hb, pow_succ', Nat.mod_mul]
    ring

theorem ofBE_beBytes_of_lt {w n : ℕ} (h : n < 256 ^ w) : ofBE (beBytes w n) = n := by
  rw [ofBE_beBytes, Nat.mod_eq_of_lt h]

theorem beBytes_ofBE (bs : Bytes) : beBytes bs.length (ofBE bs) = bs := by
  induction bs using List.reverseRecOn with
  | nil => rfl
  | append_singleton bs b ih =>
    have hb : b.toNat < 256 := b.toNat_lt
    have hdiv : (ofBE bs * 256 + b.toNat) / 256 = ofBE bs := by omega
    have hmod : UInt8.ofNat (ofBE bs * 256 + b.toNat) = b := by
      apply UInt8.toNat_inj.mp
      rw [UInt8.toNat_ofNat']
      omega
    rw [List.length_append, List.length_singleton, beBytes, ofBE_append_singleton, hdiv, hmod, ih]

theorem ofBE_lt (bs : Bytes) : ofBE bs < 256 ^ bs.length := by
  have h := ofBE_beBytes bs.length (ofBE bs)
  rw [beBytes_ofBE] at h
  rw [h]
  exact Nat.mod_lt _ (by positivity)

/-! ### Object representations -/

/-- The bytes in memory of a `w`-byte unsigned integer. -/
def toMemory (e : Endian) (w n : ℕ) : Bytes :=
  match e with
  | .little => (beBytes w n).reverse
  | .big => beBytes w n

/-- The unsigned integer whose bytes in memory are given. -/
def ofMemory (e : Endian) (bs : Bytes) : ℕ :=
  match e with
  | .little => ofBE bs.reverse
  | .big => ofBE bs

@[simp] theorem length_toMemory (e : Endian) (w n : ℕ) : (toMemory e w n).length = w := by
  cases e <;> simp [toMemory]

theorem toMemory_ofMemory (e : Endian) (bs : Bytes) :
    toMemory e bs.length (ofMemory e bs) = bs := by
  cases e with
  | little =>
    rw [toMemory, ofMemory, ← List.length_reverse, beBytes_ofBE, List.reverse_reverse]
  | big => exact beBytes_ofBE bs

/-- Reverse the object's bytes on a little-endian host, and leave it as it is on a big-endian
one: the conversion between host order and network order, in either direction. -/
def swap (e : Endian) (w n : ℕ) : ℕ :=
  match e with
  | .little => ofMemory e (toMemory e w n).reverse
  | .big => n

theorem toMemory_swap (e : Endian) (w n : ℕ) : toMemory e w (swap e w n) = beBytes w n := by
  cases e with
  | little =>
    have hlen : ((toMemory .little w n).reverse).length = w := by simp
    have h := toMemory_ofMemory .little (toMemory .little w n).reverse
    rw [hlen] at h
    rw [swap, h, toMemory, List.reverse_reverse]
  | big => rfl

theorem swap_ofMemory (e : Endian) (bs : Bytes) : swap e bs.length (ofMemory e bs) = ofBE bs := by
  cases e with
  | little => rw [swap, toMemory_ofMemory, ofMemory, List.reverse_reverse]
  | big => rfl

end MiniRpc
