import Mathlib.Data.Nat.Find
import XdpTutorial.Common.ParsingHelpers

/-!
# The Ethernet header and its VLAN tags

`parse_ethhdr` steps over at most `VLAN_MAX_DEPTH` VLAN tags after the
Ethernet header with an unrolled loop, and `get_ip6hdr` has a loop of the
same shape that returns `NULL` where a tag does not fit. This module says
what both loops compute, in terms of the frame alone.

## The model

For an Ethernet header at `a`, `encapType mem a i` is the `i`-th protocol the
loop meets, in network order: the header's `h_proto` for `i = 0`, else the
encapsulated protocol of the `i`-th tag, at `a + 14 + 4 (i - 1)`. The loop stops
at `i` (`VlanStop`) when it has stepped over `VLAN_MAX_DEPTH` tags, when that
protocol is not a VLAN type, or when the tag at `a + 14 + 4 i` does not fit
before `data_end`; `FirstVlanStop` picks the least such `i`.

## What is proved

`parseEthhdr_vlanStop`: `parse_ethhdr` fails on a truncated Ethernet header,
and otherwise returns `encapType` at the first stop, with the cursor after the
tags before it. `getIp6hdr_parse_agree`: the `get_*` path (`get_ethhdr`, then
`get_ip6hdr`) finds an IPv6 header exactly when `parse_ethhdr` returns IPv6
and `parse_ip6hdr` succeeds, at the same place and with the same cursor; on a
truncated tag the `get_*` path returns `NULL` where `parse_ethhdr` returns the
tag's VLAN type. Both rest on one lemma per loop (`parseEthhdrVlans_first`,
`getIp6hdrVlans_first`), by induction on the iterations left.
-/

namespace XdpTutorial

/-! ### The protocols of a VLAN stack -/

/-- The address of the `i`-th protocol after an Ethernet header at `a`: `h_proto` (bytes 12–13)
for `i = 0`, the encapsulated protocol (bytes 2–3) of the `i`-th VLAN tag otherwise. -/
def encapAddr (a : ℕ) : ℕ → ℕ
  | 0 => a + 12
  | i + 1 => a + 14 + 4 * i + 2

/-- The `i`-th protocol after an Ethernet header at `a`, in network order. -/
def encapType (mem : ℕ → UInt8) (a i : ℕ) : UInt16 :=
  be16 (mem (encapAddr a i)) (mem (encapAddr a i + 1))

/-- The VLAN loop, run on an Ethernet header at `a`, stops at the `i`-th protocol: it has
stepped over `VLAN_MAX_DEPTH` tags, the protocol is not a VLAN type, or the tag at `a + 14 + 4 i`
does not fit before `data_end`. -/
def VlanStop (mem : ℕ → UInt8) (dataEnd a i : ℕ) : Prop :=
  i = vlanMaxDepth ∨ isVlanType (encapType mem a i) = false ∨ dataEnd < a + 14 + 4 * i + 4

/-- `k` is the least `i` at which the loop stops. -/
def FirstVlanStop (mem : ℕ → UInt8) (dataEnd a k : ℕ) : Prop :=
  VlanStop mem dataEnd a k ∧ ∀ i < k, ¬VlanStop mem dataEnd a i

instance (mem : ℕ → UInt8) (dataEnd a i : ℕ) : Decidable (VlanStop mem dataEnd a i) :=
  inferInstanceAs (Decidable (_ ∨ _ ∨ _))

instance (mem : ℕ → UInt8) (dataEnd a k : ℕ) : Decidable (FirstVlanStop mem dataEnd a k) :=
  inferInstanceAs (Decidable (_ ∧ ∀ i < k, _))

section Stop

variable {mem : ℕ → UInt8} {dataEnd a j k : ℕ}

/-- Between a point where the loop has not stopped and the first stop, the first stop is
further on. -/
theorem FirstVlanStop.lt (hk : FirstVlanStop mem dataEnd a k) (hj : ¬VlanStop mem dataEnd a j)
    (hjk : j ≤ k) : j < k :=
  lt_of_le_of_ne hjk fun h => hj (h ▸ hk.1)

/-- A stop at `j` that is not before the first stop is the first stop. -/
theorem FirstVlanStop.eq (hk : FirstVlanStop mem dataEnd a k) (hj : VlanStop mem dataEnd a j)
    (hjk : j ≤ k) : k = j :=
  le_antisymm (not_lt.1 fun h => hk.2 j h hj) hjk

theorem FirstVlanStop.unique (hk : FirstVlanStop mem dataEnd a k) (hj : FirstVlanStop mem dataEnd a j) :
    k = j :=
  le_antisymm (not_lt.1 fun h => hk.2 j h hj.1) (not_lt.1 fun h => hj.2 k h hk.1)

/-- The tags before the first stop fit before `data_end`. -/
theorem FirstVlanStop.fits (hk : FirstVlanStop mem dataEnd a k) (hfit : a + 14 ≤ dataEnd) :
    a + 14 + 4 * k ≤ dataEnd := by
  cases k with
  | zero => exact hfit
  | succ i =>
    have := hk.2 i i.lt_succ_self
    simp only [VlanStop, not_or, not_lt] at this
    omega

end Stop

/-- A VLAN type is not IPv6. -/
theorem ne_ethPIpv6_of_isVlanType {t : UInt16} (h : isVlanType t = true) :
    t ≠ UInt16.ofNat ethPIpv6 := by
  rintro rfl; exact absurd h (by decide)

/-- A protocol, returned as an `int`, is `ETH_P_IPV6` exactly when it is. -/
theorem toNat_eq_ethPIpv6 (t : UInt16) : (t.toNat : ℤ) = ethPIpv6 ↔ t = UInt16.ofNat ethPIpv6 := by
  rw [u16_eq_iff, u16_toNat_ofNat, Int.ofNat_inj]; rfl

/-- Comparing with `bpf_htons(c)` compares the network-order value with `c`. -/
theorem eq_bpfHtons_iff (e : Endian) (h c : UInt16) : h = bpfHtons e c ↔ bpfNtohs e h = c := by
  rw [← (bpfNtohs_injective e).eq_iff, bpfNtohs_bpfHtons]

/-- `proto_is_vlan` tests the network-order value. -/
theorem protoIsVlan_eq (e : Endian) (h : UInt16) : protoIsVlan e h = isVlanType (bpfNtohs e h) := by
  rw [← load16_store16 e h, protoIsVlan_load16, bpfNtohs_load16]

/-! ### The two loops -/

section Loops

variable {e : Endian} {ctx : XdpMd} {p : Ptr} {k : ℕ}

/-- The `i`-th tag, past a cursor, as the loops address it. -/
theorem vlanTag_add (p : Ptr) (j : ℕ) : p + (14 + 4 * j) + 4 = p + (14 + 4 * (j + 1)) := by
  rw [Ptr.add_add]; rfl

/-- Reading the next protocol from the `j`-th tag, which fits, gives the `j + 1`-th protocol. -/
theorem load16_encap (hp : ctx.Cursor p) {j : ℕ} (hfit : p.addr + 14 + 4 * j + 4 ≤ ctx.dataEnd) :
    ∃ h, ctx.load16 e (p + (14 + 4 * j) + 2) = some h ∧
      bpfNtohs e h = encapType ctx.mem p.addr (j + 1) := by
  refine ⟨_, XdpMd.load16_eq ((hp.add (k := 14 + 4 * j) (by omega)).canAccess (k := 2)
    (by simp only [Ptr.add_addr]; omega)), ?_⟩
  simp only [Ptr.add_addr, bpfNtohs_load16, encapType, encapAddr]
  congr 2 <;> omega

/-- `parse_ethhdr`'s loop, entered at the `j`-th protocol `h` with `vlanMaxDepth - j` iterations
left, stops at the first stop `k` with the `k`-th protocol and the cursor after `k` tags. -/
theorem parseEthhdrVlans_first (hp : ctx.Cursor p) (hk : FirstVlanStop ctx.mem ctx.dataEnd p.addr k) :
    ∀ m j, j + m = vlanMaxDepth → j ≤ k → ∀ h, bpfNtohs e h = encapType ctx.mem p.addr j →
      ∃ h', parseEthhdrVlans e ctx ctx.dataEnd m h (p + (14 + 4 * j)) = some (h', p + (14 + 4 * k)) ∧
        bpfNtohs e h' = encapType ctx.mem p.addr k := by
  intro m
  induction m with
  | zero =>
    intro j hj hjk h hh
    obtain rfl := hk.eq (.inl (by simpa using hj)) hjk
    exact ⟨h, rfl, hh⟩
  | succ m ih =>
    intro j hj hjk h hh
    simp only [parseEthhdrVlans, protoIsVlan_eq, hh, Ptr.add_addr, gt_iff_lt]
    by_cases hs : VlanStop ctx.mem ctx.dataEnd p.addr j
    · obtain rfl := hk.eq hs hjk
      refine ⟨h, ?_, hh⟩
      rcases hs with hs | hs | hs
      · simp [vlanMaxDepth] at hs hj; omega
      · simp [hs]
      · split_ifs <;> first | rfl | omega
    · simp only [VlanStop, not_or, Bool.not_eq_false, not_lt] at hs
      obtain ⟨h₂, h₂', hh₂⟩ := load16_encap (e := e) hp (j := j) hs.2.2
      rw [if_neg (by simp [hs.2.1]), if_neg (by omega), h₂', Option.bind_eq_bind, Option.some_bind,
        vlanTag_add]
      exact ih (j + 1) (by omega) (hk.lt (by simp [VlanStop, hs]) hjk) h₂ hh₂

/-- `get_ip6hdr`'s loop, entered likewise, ends as `parse_ethhdr`'s, except that it returns
`NULL` when the first stop is a VLAN tag that does not fit. -/
theorem getIp6hdrVlans_first (hp : ctx.Cursor p) (hk : FirstVlanStop ctx.mem ctx.dataEnd p.addr k) :
    ∀ m j, j + m = vlanMaxDepth → j ≤ k → ∀ h, bpfNtohs e h = encapType ctx.mem p.addr j →
      ∃ h', getIp6hdrVlans e ctx ctx.dataEnd m h (p + (14 + 4 * j)) =
          some (if k ≠ vlanMaxDepth ∧ isVlanType (encapType ctx.mem p.addr k) = true then none
            else some (h', p + (14 + 4 * k))) ∧
        bpfNtohs e h' = encapType ctx.mem p.addr k := by
  intro m
  induction m with
  | zero =>
    intro j hj hjk h hh
    obtain rfl := hk.eq (.inl (by simpa using hj)) hjk
    exact ⟨h, by simp [getIp6hdrVlans, show k = vlanMaxDepth by simpa using hj], hh⟩
  | succ m ih =>
    intro j hj hjk h hh
    have hj5 : j ≠ vlanMaxDepth := by simp [vlanMaxDepth] at hj ⊢; omega
    simp only [getIp6hdrVlans, protoIsVlan_eq, hh, Ptr.add_addr, gt_iff_lt]
    by_cases hs : VlanStop ctx.mem ctx.dataEnd p.addr j
    · obtain rfl := hk.eq hs hjk
      refine ⟨h, ?_, hh⟩
      rcases hs with hs | hs | hs
      · exact absurd hs hj5
      · simp [hs]
      · cases isVlanType (encapType ctx.mem p.addr k) <;>
          simp [hj5, show ctx.dataEnd < p.addr + (14 + 4 * k) + 4 by omega]
    · simp only [VlanStop, not_or, Bool.not_eq_false, not_lt] at hs
      obtain ⟨h₂, h₂', hh₂⟩ := load16_encap (e := e) hp (j := j) hs.2.2
      rw [if_neg (by simp [hs.2.1]), if_neg (by omega), h₂', Option.bind_eq_bind, Option.some_bind,
        vlanTag_add]
      exact ih (j + 1) (by omega) (hk.lt (by simp [VlanStop, hs]) hjk) h₂ hh₂

end Loops

/-- The loop always stops, at the latest after `VLAN_MAX_DEPTH` tags. -/
theorem firstVlanStop_exists (mem : ℕ → UInt8) (dataEnd a : ℕ) :
    ∃ k, FirstVlanStop mem dataEnd a k :=
  have h : ∃ i, VlanStop mem dataEnd a i := ⟨vlanMaxDepth, .inl rfl⟩
  ⟨Nat.find h, Nat.find_spec h, fun _ => Nat.find_min h⟩

/-! ### `parse_ethhdr` -/

section Parse

variable {e : Endian} {ctx : XdpMd} {p : Ptr} {k : ℕ}

/-- `parse_ethhdr` on an Ethernet header that fits returns the protocol at the first stop and
leaves the cursor after the tags before it. -/
theorem parseEthhdr_first (hp : ctx.Cursor p) (hfit : p.addr + 14 ≤ ctx.dataEnd)
    (hk : FirstVlanStop ctx.mem ctx.dataEnd p.addr k) :
    parseEthhdr e ctx p ctx.dataEnd =
      some ⟨(encapType ctx.mem p.addr k).toNat, p + (14 + 4 * k), some p⟩ := by
  obtain ⟨h', hv, hh'⟩ := parseEthhdrVlans_first (e := e) hp hk vlanMaxDepth 0 rfl k.zero_le
    (e.load16 (ctx.mem (p.addr + 12)) (ctx.mem (p.addr + 12 + 1))) (bpfNtohs_load16 e _ _)
  unfold parseEthhdr
  rw [if_neg (by omega), XdpMd.load16_eq (hp.canAccess (by omega))]
  simp only [Option.bind_eq_bind, Option.some_bind, Ptr.add_addr]
  rw [show p + 14 = p + (14 + 4 * 0) from rfl, hv, Option.some_bind, hh']
  rfl

/-- What `parse_ethhdr` returns, from any cursor: `-1` with the cursor unmoved on a truncated
Ethernet header; otherwise the protocol `E k` at the first stop `k` of the VLAN loop, in host
order, with the cursor after the `k` tags before it. -/
theorem parseEthhdr_vlanStop (e : Endian) (ctx : XdpMd) {p : Ptr} (hp : ctx.Cursor p) :
    (ctx.dataEnd < p.addr + 14 → parseEthhdr e ctx p ctx.dataEnd = some ⟨-1, p, none⟩) ∧
    ∀ k, p.addr + 14 ≤ ctx.dataEnd → FirstVlanStop ctx.mem ctx.dataEnd p.addr k →
      parseEthhdr e ctx p ctx.dataEnd =
        some ⟨(encapType ctx.mem p.addr k).toNat, p + (14 + 4 * k), some p⟩ :=
  ⟨fun h => if_pos h, fun _ hfit hk => parseEthhdr_first hp hfit hk⟩

/-- An 802.1ad tag around an 802.1Q tag around IPv6, with a 40-byte IPv6 header that carries
ICMPv6. -/
def qinqIpv6Frame : XdpMd :=
  ⟨fun a => ([0, 0, 0, 0, 0, 1, 0, 0, 0, 0, 0, 2, 0x88, 0xA8, 0, 5, 0x81, 0x00, 0, 7, 0x86, 0xDD,
    0x60, 0, 0, 0, 0, 0, 58, 64] ++ List.replicate 32 0 : List UInt8).getD a 0, 0, 62, 0, 0, by decide⟩

theorem parseEthhdr_vlanStop_qinqIpv6Frame :
    FirstVlanStop qinqIpv6Frame.mem qinqIpv6Frame.dataEnd qinqIpv6Frame.dataPtr.addr 2 ∧
      encapType qinqIpv6Frame.mem qinqIpv6Frame.dataPtr.addr 2 = UInt16.ofNat ethPIpv6 ∧
      parseEthhdr .big qinqIpv6Frame qinqIpv6Frame.dataPtr qinqIpv6Frame.dataEnd =
        some ⟨(encapType qinqIpv6Frame.mem qinqIpv6Frame.dataPtr.addr 2).toNat,
          qinqIpv6Frame.dataPtr + (14 + 4 * 2), some qinqIpv6Frame.dataPtr⟩ :=
  have hk : FirstVlanStop qinqIpv6Frame.mem qinqIpv6Frame.dataEnd qinqIpv6Frame.dataPtr.addr 2 := by
    decide
  ⟨hk, by decide, (parseEthhdr_vlanStop .big qinqIpv6Frame XdpMd.cursor_dataPtr).2 2 (by decide) hk⟩

end Parse

/-! ### The `get_*` path -/

/-- The `get_*` path to the IPv6 header, as a caller takes it: `get_ethhdr`, then `get_ip6hdr`
if it found an Ethernet header. Returns the IPv6 header, or `NULL`, and the cursor. -/
def getEthIp6hdr (e : Endian) (ctx : XdpMd) (nh : Ptr) : Option (Option Ptr × Ptr) :=
  match getEthhdr nh ctx.dataEnd with
  | (some eth, nh) => getIp6hdr e ctx eth nh ctx.dataEnd
  | (none, nh) => pure (none, nh)

section Get

variable {e : Endian} {ctx : XdpMd} {p : Ptr} {k : ℕ}

/-- On an Ethernet header that fits, the `get_*` path finds the IPv6 header exactly when the
protocol at the first stop is IPv6 and a whole IPv6 header follows the tags. -/
theorem getEthIp6hdr_first (hp : ctx.Cursor p) (hfit : p.addr + 14 ≤ ctx.dataEnd)
    (hk : FirstVlanStop ctx.mem ctx.dataEnd p.addr k) :
    getEthIp6hdr e ctx p = some
      (if encapType ctx.mem p.addr k = UInt16.ofNat ethPIpv6 ∧ p.addr + 14 + 4 * k + 40 ≤ ctx.dataEnd
        then (some (p + (14 + 4 * k)), p + (14 + 4 * k) + 40) else (none, p + 14)) := by
  obtain ⟨h', hv, hh'⟩ := getIp6hdrVlans_first (e := e) hp hk vlanMaxDepth 0 rfl k.zero_le
    (e.load16 (ctx.mem (p.addr + 12)) (ctx.mem (p.addr + 12 + 1))) (bpfNtohs_load16 e _ _)
  have hv' : getIp6hdrVlans e ctx ctx.dataEnd vlanMaxDepth
      (e.load16 (ctx.mem (p.addr + 12)) (ctx.mem (p.addr + 12 + 1))) (p + 14) = _ := hv
  unfold getEthIp6hdr getEthhdr getIp6hdr
  rw [if_neg (by omega)]
  simp only [XdpMd.load16_eq (hp.canAccess (k := 12) (by omega)), Option.bind_eq_bind,
    Option.some_bind, Ptr.add_addr, hv']
  by_cases hc : k ≠ vlanMaxDepth ∧ isVlanType (encapType ctx.mem p.addr k) = true
  · rw [if_pos hc, if_neg (fun h => ne_ethPIpv6_of_isVlanType hc.2 h.1)]; rfl
  · rw [if_neg hc]
    simp only [ne_eq, eq_bpfHtons_iff, hh', Ptr.add_addr, gt_iff_lt]
    by_cases h6 : encapType ctx.mem p.addr k = UInt16.ofNat ethPIpv6
    · by_cases h40 : ctx.dataEnd < p.addr + (14 + 4 * k) + 40
      · rw [if_neg (not_not.2 h6), if_pos h40, if_neg (by omega)]; rfl
      · rw [if_neg (not_not.2 h6), if_neg h40, if_pos ⟨h6, by omega⟩]; rfl
    · rw [if_pos h6, if_neg (fun h => h6 h.1)]; rfl

/-- The `get_*` and the `parse_*` path to the IPv6 header agree, from any cursor: the `get_*`
path finds a header exactly when `parse_ethhdr` returns IPv6 and `parse_ip6hdr` succeeds after
it, and then both hand back the same header and leave the cursor after it. Where the VLAN
loop stops at a VLAN type (a tag that does not fit, or one past `VLAN_MAX_DEPTH`), the `get_*`
path returns `NULL` and keeps the cursor after the Ethernet header, while `parse_ethhdr` returns
that type with the cursor after the tags before it. -/
theorem getIp6hdr_parse_agree (e : Endian) (ctx : XdpMd) {p : Ptr} (hp : ctx.Cursor p) :
    ∃ g r r6, getEthIp6hdr e ctx p = some g ∧ parseEthhdr e ctx p ctx.dataEnd = some r ∧
      parseIp6hdr ctx r.pos ctx.dataEnd = some r6 ∧
      (g.1.isSome ↔ r.ret = ethPIpv6 ∧ r6.ret ≠ -1) ∧
      (∀ q, g.1 = some q → r6.hdr = some q ∧ g.2 = q + 40 ∧ r6.pos = q + 40) ∧
      ∀ k, p.addr + 14 ≤ ctx.dataEnd → FirstVlanStop ctx.mem ctx.dataEnd p.addr k →
        isVlanType (encapType ctx.mem p.addr k) = true →
        g = (none, p + 14) ∧ r.ret = (encapType ctx.mem p.addr k).toNat ∧
          r.pos = p + (14 + 4 * k) := by
  by_cases hfit : p.addr + 14 ≤ ctx.dataEnd
  · obtain ⟨k, hk⟩ := firstVlanStop_exists ctx.mem ctx.dataEnd p.addr
    have hq : ctx.Cursor (p + (14 + 4 * k)) := hp.add (by have := hk.fits hfit; omega)
    refine ⟨_, _, _, getEthIp6hdr_first hp hfit hk, parseEthhdr_first hp hfit hk,
      parseHdr_eq (load8_toNat_of_fits hq rfl (by decide)), ?_⟩
    simp only [Ptr.add_addr, toNat_eq_ethPIpv6]
    by_cases h6 : encapType ctx.mem p.addr k = UInt16.ofNat ethPIpv6
    · have hnv : ∀ k', FirstVlanStop ctx.mem ctx.dataEnd p.addr k' →
          isVlanType (encapType ctx.mem p.addr k') = true → False := fun k' hk' hv =>
        ne_ethPIpv6_of_isVlanType hv (hk.unique hk' ▸ h6)
      by_cases h40 : p.addr + 14 + 4 * k + 40 ≤ ctx.dataEnd
      · rw [if_pos ⟨h6, h40⟩, if_neg (by omega)]
        refine ⟨by simp [h6], fun q hq => ?_, fun k' _ hk' hv => (hnv k' hk' hv).elim⟩
        cases hq
        exact ⟨rfl, rfl, rfl⟩
      · rw [if_neg (fun h => h40 h.2), if_pos (by omega)]
        exact ⟨by simp, by simp, fun k' _ hk' hv => (hnv k' hk' hv).elim⟩
    · rw [if_neg (fun h => h6 h.1)]
      refine ⟨by simp [h6], by simp, fun k' _ hk' _ => ?_⟩
      obtain rfl := hk.unique hk'
      exact ⟨rfl, rfl, rfl⟩
  · have hg : getEthIp6hdr e ctx p = some (none, p) := by
      unfold getEthIp6hdr getEthhdr; rw [if_pos (by omega)]; rfl
    exact ⟨_, _, _, hg, if_pos (by omega), parseHdr_eq (load8_toNat_of_fits hp rfl (by decide)),
      by simp [ethPIpv6], by simp, fun k' h => absurd h hfit⟩

theorem getIp6hdr_parse_agree_qinqIpv6Frame :
    ∃ g r r6, getEthIp6hdr .big qinqIpv6Frame qinqIpv6Frame.dataPtr = some g ∧
      parseEthhdr .big qinqIpv6Frame qinqIpv6Frame.dataPtr qinqIpv6Frame.dataEnd = some r ∧
      parseIp6hdr qinqIpv6Frame r.pos qinqIpv6Frame.dataEnd = some r6 ∧
      (g.1.isSome ↔ r.ret = ethPIpv6 ∧ r6.ret ≠ -1) ∧
      (∀ q, g.1 = some q → r6.hdr = some q ∧ g.2 = q + 40 ∧ r6.pos = q + 40) ∧
      ∀ k, qinqIpv6Frame.dataPtr.addr + 14 ≤ qinqIpv6Frame.dataEnd →
        FirstVlanStop qinqIpv6Frame.mem qinqIpv6Frame.dataEnd qinqIpv6Frame.dataPtr.addr k →
        isVlanType (encapType qinqIpv6Frame.mem qinqIpv6Frame.dataPtr.addr k) = true →
        g = (none, qinqIpv6Frame.dataPtr + 14) ∧
          r.ret = (encapType qinqIpv6Frame.mem qinqIpv6Frame.dataPtr.addr k).toNat ∧
          r.pos = qinqIpv6Frame.dataPtr + (14 + 4 * k) :=
  getIp6hdr_parse_agree .big qinqIpv6Frame XdpMd.cursor_dataPtr

end Get

end XdpTutorial
