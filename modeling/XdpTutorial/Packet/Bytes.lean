import Mathlib.Data.Nat.Defs
import Mathlib.Tactic.Common

/-!
# Bytes, 16-bit words and byte order

The XDP programs of the tutorial read and write packet headers through C
structs whose multi-byte fields are stored in network byte order
(big-endian). A `__u16` loaded from the packet has the value its two bytes
have in the *host's* byte order, and the programs convert with `bpf_ntohs` /
`bpf_htons` before comparing or computing. Every theorem of this development
is stated for both host byte orders: `Endian` is a parameter of the model.

## The model

Bytes are `UInt8` and 16-bit fields `UInt16`, the C types. `Endian.load16`
is the value of a `__u16` stored in two bytes, `Endian.store16` the two bytes
a `__u16` is stored as, and `bswap16`, `bpfNtohs`, `bpfHtons` are the byte
swaps of `bpf_endian.h`. The lemmas move everything to `toNat` arithmetic,
where `omega` decides it, and say once the three facts the programs rely on:
`bpf_ntohs` of a loaded field is its network-order value (`bpfNtohs_load16`),
`bpf_htons` then a store writes the network-order bytes (`store16_bpfHtons`),
and a load after a store gives the stored value back (`load16_store16`).
-/

namespace XdpTutorial

/-! ### Machine words -/

@[simp] theorem u8_toNat_ofNat (n : ℕ) : (UInt8.ofNat n).toNat = n % 256 := by
  simp [UInt8.toNat, UInt8.ofNat, BitVec.toNat_ofNat]

@[simp] theorem u16_toNat_ofNat (n : ℕ) : (UInt16.ofNat n).toNat = n % 65536 := by
  simp [UInt16.toNat, UInt16.ofNat, BitVec.toNat_ofNat]

theorem u8_toNat_lt (b : UInt8) : b.toNat < 256 := b.toNat_lt_size

theorem u16_toNat_lt (x : UInt16) : x.toNat < 65536 := x.toNat_lt_size

theorem u8_eq_iff {a b : UInt8} : a = b ↔ a.toNat = b.toNat :=
  ⟨congrArg _, UInt8.toNat.inj⟩

theorem u16_eq_iff {a b : UInt16} : a = b ↔ a.toNat = b.toNat :=
  ⟨congrArg _, UInt16.toNat.inj⟩

@[simp] theorem u16_toNat_add (a b : UInt16) : (a + b).toNat = (a.toNat + b.toNat) % 65536 := by
  simp [UInt16.toNat, UInt16.add_def, BitVec.toNat_add]

@[simp] theorem u16_toNat_sub (a b : UInt16) :
    (a - b).toNat = (65536 - b.toNat + a.toNat) % 65536 := by
  simp [UInt16.toNat, UInt16.sub_def, BitVec.toNat_sub]

@[simp] theorem u16_toNat_not (a : UInt16) : (~~~a).toNat = 65535 - a.toNat := by
  show (~~~a.toBitVec).toNat = _
  simp [BitVec.toNat_not, UInt16.toNat]

theorem u8_toNat_sub_one {t : UInt8} (h : 1 ≤ t.toNat) : (t - 1).toNat = t.toNat - 1 := by
  have := t.toBitVec.isLt
  simp only [UInt8.toNat, UInt8.sub_def, BitVec.toNat_sub] at h ⊢
  simp at this ⊢
  omega

theorem u16_lt_iff {a b : UInt16} : a < b ↔ a.toNat < b.toNat := by
  simp [UInt16.lt_def, BitVec.lt_def, UInt16.toNat]

@[simp] theorem u16_toNat_one : (1 : UInt16).toNat = 1 := rfl

@[simp] theorem u16_toNat_lit (n : ℕ) : (no_index (OfNat.ofNat n : UInt16)).toNat = n % 65536 :=
  u16_toNat_ofNat n

/-- The low and the high byte of `256 * hi + lo`. -/
theorem split_bytes {lo hi : ℕ} (h : lo < 256) :
    (256 * hi + lo) % 256 = lo ∧ (256 * hi + lo) / 256 = hi := by
  omega

/-- The conversion of a C `int` to `__u16`: its value modulo `2^16`. -/
def u16OfInt (x : ℤ) : UInt16 := UInt16.ofNat (x % 65536).toNat

theorem u16OfInt_toNat {x : ℤ} (h₀ : 0 ≤ x) (h₁ : x < 65536) : ((u16OfInt x).toNat : ℤ) = x := by
  simp only [u16OfInt, u16_toNat_ofNat]; omega

@[simp] theorem u16OfInt_cast_toNat (t : UInt16) : u16OfInt t.toNat = t := by
  have := u16_toNat_lt t
  rw [u16_eq_iff, u16OfInt, u16_toNat_ofNat]; omega

/-! ### Byte order -/

/-- The host's byte order: how a `__u16` sits in two bytes of memory. -/
inductive Endian where
  /-- Least significant byte first. -/
  | little
  /-- Most significant byte first; this is also network byte order. -/
  | big
  deriving DecidableEq, Repr

/-- The value of a `__u16` whose bytes in memory are `b₀ b₁`, lower address first. -/
def Endian.load16 : Endian → UInt8 → UInt8 → UInt16
  | .little, b₀, b₁ => UInt16.ofNat (b₀.toNat + 256 * b₁.toNat)
  | .big, b₀, b₁ => UInt16.ofNat (256 * b₀.toNat + b₁.toNat)

/-- The two bytes a `__u16` is stored as, lower address first. -/
def Endian.store16 : Endian → UInt16 → List UInt8
  | .little, v => [UInt8.ofNat v.toNat, UInt8.ofNat (v.toNat / 256)]
  | .big, v => [UInt8.ofNat (v.toNat / 256), UInt8.ofNat v.toNat]

/-- The network-order value of the bytes `b₀ b₁`. -/
def be16 (b₀ b₁ : UInt8) : UInt16 := Endian.big.load16 b₀ b₁

/-- Modelled from the spec: `__builtin_bswap16`, which `bpf_endian.h` (not in src/) uses for
`bpf_ntohs` and `bpf_htons` on a little-endian host; it exchanges the two bytes. -/
def bswap16 (x : UInt16) : UInt16 := UInt16.ofNat (x.toNat % 256 * 256 + x.toNat / 256)

/-- Modelled from the spec: `bpf_ntohs` (`bpf_endian.h`, not in src/), network to host byte
order ("all multi-byte header fields are big-endian and must be converted to host order"). -/
def bpfNtohs : Endian → UInt16 → UInt16
  | .little, x => bswap16 x
  | .big, x => x

/-- Modelled from the spec: `bpf_htons` (`bpf_endian.h`, not in src/), host to network byte
order; the same swap as `bpf_ntohs`. -/
def bpfHtons : Endian → UInt16 → UInt16 := bpfNtohs

@[simp] theorem length_store16 (e : Endian) (v : UInt16) : (e.store16 v).length = 2 := by
  cases e <;> rfl

theorem be16_toNat (b₀ b₁ : UInt8) : (be16 b₀ b₁).toNat = 256 * b₀.toNat + b₁.toNat := by
  have := u8_toNat_lt b₀; have := u8_toNat_lt b₁
  simp [be16, Endian.load16]; omega

theorem bswap16_toNat (x : UInt16) : (bswap16 x).toNat = 256 * (x.toNat % 256) + x.toNat / 256 := by
  have := u16_toNat_lt x
  simp [bswap16]; omega

/-- `bswap16` exchanges the bytes of `256 * hi + lo`. -/
theorem bswap16_toNat_of_eq {x : UInt16} (lo hi : ℕ) (hlo : lo < 256)
    (h : x.toNat = 256 * hi + lo) : (bswap16 x).toNat = 256 * lo + hi := by
  rw [bswap16_toNat, h, (split_bytes hlo).1, (split_bytes hlo).2]

/-- `bpf_ntohs` of a field loaded from memory is the field's network-order value. -/
@[simp] theorem bpfNtohs_load16 (e : Endian) (b₀ b₁ : UInt8) :
    bpfNtohs e (e.load16 b₀ b₁) = be16 b₀ b₁ := by
  have := u8_toNat_lt b₀; have := u8_toNat_lt b₁
  cases e
  · rw [u16_eq_iff, be16_toNat]
    exact bswap16_toNat_of_eq _ _ (u8_toNat_lt b₀) (by simp [Endian.load16]; omega)
  · rfl

@[simp] theorem bpfNtohs_bpfNtohs (e : Endian) (x : UInt16) : bpfNtohs e (bpfNtohs e x) = x := by
  have := u16_toNat_lt x
  cases e
  · have h := bswap16_toNat_of_eq (x := x) (x.toNat % 256) (x.toNat / 256) (by omega) (by omega)
    rw [u16_eq_iff, bpfNtohs, bpfNtohs, bswap16_toNat_of_eq (x.toNat / 256) _ (by omega) h]
    omega
  · rfl

@[simp] theorem bpfNtohs_bpfHtons (e : Endian) (x : UInt16) : bpfNtohs e (bpfHtons e x) = x :=
  bpfNtohs_bpfNtohs e x

theorem bpfNtohs_injective (e : Endian) : Function.Injective (bpfNtohs e) := fun x y h => by
  rw [← bpfNtohs_bpfNtohs e x, h, bpfNtohs_bpfNtohs]

/-- Comparing a loaded field with `bpf_htons(c)` compares its network-order value with `c`. -/
@[simp] theorem bpfHtons_inj (e : Endian) {x y : UInt16} : bpfHtons e x = bpfHtons e y ↔ x = y :=
  (bpfNtohs_injective e).eq_iff

theorem load16_eq_bpfHtons_iff (e : Endian) (b₀ b₁ : UInt8) (c : UInt16) :
    e.load16 b₀ b₁ = bpfHtons e c ↔ be16 b₀ b₁ = c := by
  rw [← (bpfNtohs_injective e).eq_iff, bpfNtohs_load16, bpfNtohs_bpfHtons]

/-- Storing `bpf_htons(v)` writes the network-order bytes of `v`. -/
@[simp] theorem store16_bpfHtons (e : Endian) (v : UInt16) :
    e.store16 (bpfHtons e v) = Endian.big.store16 v := by
  have := u16_toNat_lt v
  cases e
  · have h := bswap16_toNat_of_eq (x := v) (v.toNat % 256) (v.toNat / 256) (by omega) (by omega)
    simp only [bpfHtons, bpfNtohs, Endian.store16, List.cons.injEq, and_true, u8_eq_iff,
      u8_toNat_ofNat, h, (split_bytes (Nat.div_lt_of_lt_mul (by omega : v.toNat < 256 * 256))).1,
      (split_bytes (Nat.div_lt_of_lt_mul (by omega : v.toNat < 256 * 256))).2]
    omega
  · rfl

/-- Loading the two bytes a value was stored as gives the value back. -/
theorem load16_store16 (e : Endian) (v : UInt16) :
    e.load16 ((e.store16 v).getD 0 0) ((e.store16 v).getD 1 0) = v := by
  have := u16_toNat_lt v
  cases e <;> simp [Endian.load16, Endian.store16, u16_eq_iff] <;> omega

/-- Storing a value loaded from two bytes writes the same two bytes. -/
theorem store16_load16 (e : Endian) (b₀ b₁ : UInt8) : e.store16 (e.load16 b₀ b₁) = [b₀, b₁] := by
  have := u8_toNat_lt b₀; have := u8_toNat_lt b₁
  cases e <;> simp [Endian.load16, Endian.store16, u8_eq_iff] <;> omega

end XdpTutorial
