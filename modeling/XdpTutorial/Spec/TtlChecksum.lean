import XdpTutorial.Spec.IcmpEcho
import XdpTutorial.Solutions.Router

/-!
# The IPv4 header checksum after `ip_decrease_ttl`

`ip_decrease_ttl` of packet-solutions does not recompute the header checksum
when it decrements the TTL. It adds `bpf_htons(0x0100)`, the change of the
16-bit word that holds the TTL, to the checksum in 32 bits, and adds a carry
out of 16 bits back in. The carry test is `check >= 0xFFFF`, so a sum of
exactly `0xFFFF` becomes `0x0000`.

## The model

`ipv4Check` is the header checksum field (bytes 10–11) in network order, and
`Ipv4ChecksumCorrect` says it is the RFC 1071 checksum of the header with
the field cleared. `decreaseTtlRecompute` is what the update should give: the
header with its TTL (byte 8) decremented and its checksum computed from
scratch.

## What is proved

`bpfNtohs_ipDecreaseTtlCheck`: the update made in host byte order writes the
bytes the update made in network order writes, on either host.
`ipDecreaseTtlCheck_onesNorm`: in network order, the update of the checksum
of words summing to more than `0x100` is the checksum of the words with
`0x100` taken off, the carry branch included. `ipDecreaseTtl_checksum`: for
every IPv4 header of `4 * ihl` bytes with `ihl ≥ 5`, a TTL of at least one and
a correct checksum, `ip_decrease_ttl` returns the new TTL, leaves in memory
the header `decreaseTtlRecompute` makes of it, and changes no other byte.
-/

namespace XdpTutorial.Solutions

/-! ### The IPv4 header checksum -/

/-- The header checksum field of an IPv4 header, bytes 10–11, in network order. -/
def ipv4Check (hdr : List UInt8) : UInt16 := be16 (hdr.getD 10 0) (hdr.getD 11 0)

/-- An IPv4 header with its checksum field cleared. -/
def clearIpv4Check (hdr : List UInt8) : List UInt8 := hdr.take 10 ++ [0, 0] ++ hdr.drop 12

/-- The header carries the RFC 1071 checksum of its bytes with the checksum field cleared. -/
def Ipv4ChecksumCorrect (hdr : List UInt8) : Prop :=
  ipv4Check hdr = rfc1071Checksum (clearIpv4Check hdr)

instance (hdr : List UInt8) : Decidable (Ipv4ChecksumCorrect hdr) :=
  inferInstanceAs (Decidable (_ = _))

/-- The header with its TTL, byte 8, decremented and its checksum computed from scratch. -/
def decreaseTtlRecompute (hdr : List UInt8) : List UInt8 :=
  let hdr' := patch hdr 8 [hdr.getD 8 0 - 1]
  patch hdr' 10 (Endian.big.store16 (rfc1071Checksum (clearIpv4Check hdr')))

/-! ### The update in one's complement -/

/-- A value stored in host byte order is the bytes of its network-order value. -/
theorem store16_eq_big (e : Endian) (v : UInt16) : e.store16 v = Endian.big.store16 (bpfNtohs e v) := by
  rw [← store16_bpfHtons e, show bpfHtons e (bpfNtohs e v) = v from bpfNtohs_bpfNtohs e v]

/-- `ip_decrease_ttl`'s update is `csum16_add` of `bpf_htons(0x0100)`, with a negative zero
(`0xFFFF`) turned into `0x0000`. -/
theorem ipDecreaseTtlCheck_eq_csum16Add (e : Endian) (c : UInt16) :
    ipDecreaseTtlCheck e c =
      if csum16Add c (bpfHtons e 0x0100) = 0xFFFF then 0 else csum16Add c (bpfHtons e 0x0100) := by
  have := u16_toNat_lt c
  have : (bpfHtons e 0x0100).toNat ≤ 256 := by cases e <;> decide
  have hs := csum16Add_toNat c (bpfHtons e 0x0100)
  simp only [u16_eq_iff, apply_ite UInt16.toNat, hs, ipDecreaseTtlCheck, onesAdd, u16_toNat_ofNat,
    u16_toNat_lit]
  split_ifs <;> omega

/-- On either host, the update of a checksum loaded in host byte order is, in network order,
the update made on the network-order value: one's complement addition and the test for a
negative zero commute with the byte swap. -/
theorem bpfNtohs_ipDecreaseTtlCheck (e : Endian) (c : UInt16) :
    bpfNtohs e (ipDecreaseTtlCheck e (bpfHtons e c)) = ipDecreaseTtlCheck .big c := by
  have hX : bpfNtohs e (csum16Add (bpfHtons e c) (bpfHtons e 0x0100)) =
      csum16Add c (bpfHtons .big 0x0100) := by
    rw [bpfNtohs_csum16Add, bpfNtohs_bpfHtons, bpfNtohs_bpfHtons]; rfl
  have hF : csum16Add (bpfHtons e c) (bpfHtons e 0x0100) = 0xFFFF ↔
      csum16Add c (bpfHtons .big 0x0100) = 0xFFFF := by
    rw [← (bpfNtohs_injective e).eq_iff, hX, show bpfNtohs e 0xFFFF = 0xFFFF by cases e <;> rfl]
  rw [ipDecreaseTtlCheck_eq_csum16Add, ipDecreaseTtlCheck_eq_csum16Add]
  by_cases h : csum16Add c (bpfHtons .big 0x0100) = 0xFFFF
  · rw [if_pos (hF.2 h), if_pos h]; cases e <;> rfl
  · rw [if_neg (mt hF.1 h), if_neg h, hX]

/-- **The update in network order.** For words summing to `s > 0x100`, adding `0x0100` to
their checksum with the code's carry gives the checksum of words summing to `s - 0x100`.
When the checksum is `0xFEFF` the sum `0xFFFF` is a negative zero, and the extra carry turns it
into `0x0000`, the checksum from scratch. -/
theorem ipDecreaseTtlCheck_onesNorm {s : ℕ} (hs : 0x100 < s) :
    ipDecreaseTtlCheck .big (UInt16.ofNat (0xFFFF - onesNorm s)) =
      UInt16.ofNat (0xFFFF - onesNorm (s - 0x100)) := by
  rw [u16_eq_iff, onesNorm, onesNorm, if_neg (by omega), if_neg (by omega)]
  simp only [ipDecreaseTtlCheck, u16_toNat_ofNat, show (bpfHtons .big 0x0100).toNat = 256 from rfl]
  split_ifs <;> omega

/-! ### The header -/

section Header

variable {hdr : List UInt8}

/-- The first twelve bytes of a header that has them, named. -/
theorem exists_cons_twelve (h : 12 ≤ hdr.length) :
    ∃ b0 b1 b2 b3 b4 b5 b6 b7 b8 b9 b10 b11 rest,
      hdr = b0 :: b1 :: b2 :: b3 :: b4 :: b5 :: b6 :: b7 :: b8 :: b9 :: b10 :: b11 :: rest := by
  rcases hdr with _ | ⟨_, _ | ⟨_, _ | ⟨_, _ | ⟨_, _ | ⟨_, _ | ⟨_, _ | ⟨_, _ | ⟨_, _ | ⟨_, _ |
    ⟨_, _ | ⟨_, _ | ⟨_, _⟩⟩⟩⟩⟩⟩⟩⟩⟩⟩⟩⟩ <;> simp only [List.length_cons, List.length_nil] at h <;>
    first | omega | exact ⟨_, _, _, _, _, _, _, _, _, _, _, _, _, rfl⟩

/-- Decrementing a TTL of at least one takes `0x100` off the words of the header with its
checksum cleared, which sum to more than `0x100` when the first byte is not zero. -/
theorem wordSum_clearIpv4Check_patch (hlen : 12 ≤ hdr.length) (h0 : 1 ≤ (hdr.getD 0 0).toNat)
    (httl : 1 ≤ (hdr.getD 8 0).toNat) :
    0x100 < wordSum (clearIpv4Check hdr) ∧
      wordSum (clearIpv4Check (patch hdr 8 [hdr.getD 8 0 - 1])) + 0x100 =
        wordSum (clearIpv4Check hdr) := by
  obtain ⟨_, _, _, _, _, _, _, _, _, _, _, _, _, rfl⟩ := exists_cons_twelve hlen
  simp only [List.getD_cons_succ, List.getD_cons_zero] at h0 httl ⊢
  simp only [clearIpv4Check, patch, List.take, List.drop, List.cons_append, List.nil_append,
    List.length_singleton, wordSum, u8_toNat_sub_one httl]
  omega

/-- The two stores of `ip_decrease_ttl`, to bytes 10–11 and to byte 8, may be made in either
order. -/
theorem patch_ttl_check (hlen : 12 ≤ hdr.length) (t : UInt8) {bs : List UInt8} (hbs : bs.length = 2) :
    patch (patch hdr 10 bs) 8 [t] = patch (patch hdr 8 [t]) 10 bs := by
  obtain ⟨_, _, _, _, _, _, _, _, _, _, _, _, _, rfl⟩ := exists_cons_twelve hlen
  match bs, hbs with
  | [_, _], _ => rfl

/-- **The header after the two stores.** On a header with a correct checksum, a first byte that
is not zero and a TTL of at least one, the bytes `ip_decrease_ttl` writes are those of the
header with the TTL decremented and the checksum computed from scratch. -/
theorem decreaseTtl_patch (e : Endian) (hlen : 12 ≤ hdr.length) (h0 : 1 ≤ (hdr.getD 0 0).toNat)
    (httl : 1 ≤ (hdr.getD 8 0).toNat) (hc : Ipv4ChecksumCorrect hdr) :
    patch (patch hdr 10 (e.store16 (ipDecreaseTtlCheck e (e.load16 (hdr.getD 10 0) (hdr.getD 11 0)))))
      8 [hdr.getD 8 0 - 1] = decreaseTtlRecompute hdr := by
  obtain ⟨hpos, hW⟩ := wordSum_clearIpv4Check_patch hlen h0 httl
  have key : ipDecreaseTtlCheck .big (ipv4Check hdr) =
      rfc1071Checksum (clearIpv4Check (patch hdr 8 [hdr.getD 8 0 - 1])) := by
    rw [hc, rfc1071Checksum, rfc1071Checksum, onesSum_eq, onesSum_eq, ipDecreaseTtlCheck_onesNorm hpos,
      ← hW, Nat.add_sub_cancel]
  rw [(load16_eq_bpfHtons_iff e (hdr.getD 10 0) (hdr.getD 11 0) _).2 rfl, store16_eq_big,
    bpfNtohs_ipDecreaseTtlCheck, patch_ttl_check hlen _ (length_store16 _ _)]
  exact congrArg (fun v => patch _ 10 (Endian.big.store16 v)) key

/-- Writing the checksum field leaves the header with the field cleared. -/
theorem clearIpv4Check_patch_check (hlen : 12 ≤ hdr.length) {bs : List UInt8} (hbs : bs.length = 2) :
    clearIpv4Check (patch hdr 10 bs) = clearIpv4Check hdr := by
  obtain ⟨_, _, _, _, _, _, _, _, _, _, _, _, _, rfl⟩ := exists_cons_twelve hlen
  match bs, hbs with
  | [_, _], _ => rfl

/-- The checksum field reads back the value written to it in network order. -/
theorem ipv4Check_patch_check (hlen : 12 ≤ hdr.length) (v : UInt16) :
    ipv4Check (patch hdr 10 (Endian.big.store16 v)) = v := by
  rw [ipv4Check, getD_patch_self (i := 0) (by simp; omega) (by simp),
    getD_patch_self (i := 1) (by simp; omega) (by simp)]
  exact load16_store16 .big v

/-- A header whose checksum was computed from scratch carries a correct checksum. -/
theorem ipv4ChecksumCorrect_decreaseTtlRecompute (hlen : 12 ≤ hdr.length) :
    Ipv4ChecksumCorrect (decreaseTtlRecompute hdr) := by
  have h' : 12 ≤ (patch hdr 8 [hdr.getD 8 0 - 1]).length := by rw [length_patch (by simp; omega)]; exact hlen
  rw [Ipv4ChecksumCorrect, decreaseTtlRecompute, ipv4Check_patch_check h',
    clearIpv4Check_patch_check h' (length_store16 _ _)]

end Header

/-! ### `ip_decrease_ttl` -/

section Program

variable {e : Endian} {ctx : XdpMd} {iph : Ptr}

/-- What `ip_decrease_ttl` does to a header whose first 12 bytes are in the packet: it writes
the updated checksum to bytes 10–11, then the decremented TTL to byte 8, and returns the TTL. -/
theorem ipDecreaseTtl_eq (h : ctx.CanAccess iph 12) :
    ipDecreaseTtl e ctx iph = some (((ctx.mem (iph.addr + 8) - 1).toNat : ℤ),
      (ctx.write (iph.addr + 10) (e.store16 (ipDecreaseTtlCheck e
        (e.load16 (ctx.mem (iph.addr + 10)) (ctx.mem (iph.addr + 11)))))).write (iph.addr + 8)
        [ctx.mem (iph.addr + 8) - 1]) := by
  have hc : ∀ k n, k + n ≤ 12 → ctx.CanAccess (iph + k) n := fun k n hk =>
    ⟨h.1, by simp only [Ptr.add_addr]; have := h.2.1; omega,
      by simp only [Ptr.add_addr]; have := h.2.2; omega⟩
  unfold ipDecreaseTtl
  rw [XdpMd.load16_eq (hc 10 2 le_rfl)]
  simp only [Option.bind_eq_bind, Option.some_bind]
  rw [XdpMd.store16_eq (hc 10 2 le_rfl)]
  simp only [Option.some_bind]
  rw [XdpMd.load8_eq (c := ctx.write _ _) (by simpa using hc 8 1 (by omega))]
  simp only [Option.some_bind]
  rw [XdpMd.store8_eq (c := ctx.write _ _) (by simpa using hc 8 1 (by omega))]
  simp only [Option.some_bind, XdpMd.write_mem, Ptr.add_addr,
    writeMem_of_lt (show iph.addr + 8 < iph.addr + 10 by omega)]
  rfl

/-- **`ip_decrease_ttl` keeps a correct checksum.** Take any IPv4 header `hdr` in the packet at
`iph`, of `4 * ihl` bytes with `ihl ≥ 5`, whose TTL is at least one and whose checksum is
correct, and either host byte order. `ip_decrease_ttl` returns the TTL less one, leaves at `iph`
the header with the TTL decremented and the checksum computed from scratch, and changes no
other byte of memory. -/
theorem ipDecreaseTtl_checksum (e : Endian) (ctx : XdpMd) (iph : Ptr) (hdr : List UInt8)
    (hhdr : ctx.loadBytes iph hdr.length = some hdr) (hlen : hdr.length = ipv4HeaderLength hdr 0)
    (hihl : 20 ≤ ipv4HeaderLength hdr 0) (httl : 1 ≤ (hdr.getD 8 0).toNat)
    (hc : Ipv4ChecksumCorrect hdr) :
    ∃ c', ipDecreaseTtl e ctx iph = some ((((hdr.getD 8 0).toNat - 1 : ℕ) : ℤ), c') ∧
      c'.loadBytes iph hdr.length = some (decreaseTtlRecompute hdr) ∧
      c'.data = ctx.data ∧ c'.dataEnd = ctx.dataEnd ∧
      ∀ a, a < iph.addr ∨ iph.addr + hdr.length ≤ a → c'.mem a = ctx.mem a := by
  have hacc : ctx.CanAccess iph hdr.length := by
    unfold XdpMd.loadBytes at hhdr; split_ifs at hhdr with h; exact h
  have hR := (XdpMd.eq_of_loadBytes hhdr).symm
  have hb : ∀ i < hdr.length, ctx.mem (iph.addr + i) = hdr.getD i 0 := fun i hi => by
    rw [← getD_readMem (m := ctx.mem) (a := iph.addr) hi, hR]
  have h0 : 1 ≤ (hdr.getD 0 0).toNat := by unfold ipv4HeaderLength at hihl; omega
  have h12 : ctx.CanAccess iph 12 := ⟨hacc.1, hacc.2.1, by have := hacc.2.2; omega⟩
  have hD := ipDecreaseTtl_eq (e := e) h12
  rw [hb 8 (by omega), hb 10 (by omega), hb 11 (by omega), u8_toNat_sub_one httl] at hD
  refine ⟨_, hD, ?_, rfl, rfl, fun a ha => ?_⟩
  · rw [XdpMd.loadBytes_eq (by simpa using hacc), XdpMd.write_mem, XdpMd.write_mem,
      readMem_writeMem (by simp; omega), readMem_writeMem (by simp; omega), hR,
      decreaseTtl_patch e (by omega) h0 httl hc]
  · simp only [XdpMd.write_mem]
    rcases ha with ha | ha
    · rw [writeMem_of_lt (by omega), writeMem_of_lt (by omega)]
    · rw [writeMem_of_le (by simp; omega), writeMem_of_le (by simp; omega)]

end Program

/-- An IPv4 header whose checksum, `0xFEFF`, takes the carry branch of `ip_decrease_ttl`, with
the sum `0xFFFF` turned into `0x0000`: TTL 64, protocol ICMP, source `123.234.0.0`. -/
def carryHeader : List UInt8 :=
  [0x45, 0x00, 0x00, 0x14, 0x00, 0x00, 0x00, 0x00, 0x40, 0x01, 0xFE, 0xFF, 0x7B, 0xEA, 0x00, 0x00,
    0x00, 0x00, 0x00, 0x00]

/-- `carryHeader` alone in the packet. -/
def carryCtx : XdpMd := ⟨fun a => carryHeader.getD a 0, 0, 20, 0, 0, by decide⟩

theorem ipDecreaseTtl_checksum_carryHeader :
    Ipv4ChecksumCorrect carryHeader ∧ ipv4Check carryHeader = 0xFEFF ∧
      ∃ c', ipDecreaseTtl .little carryCtx carryCtx.dataPtr = some (63, c') ∧
        c'.loadBytes carryCtx.dataPtr 20 = some (decreaseTtlRecompute carryHeader) ∧
        ipv4Check (decreaseTtlRecompute carryHeader) = 0 := by
  have hc : Ipv4ChecksumCorrect carryHeader := by decide
  obtain ⟨c', hD, hL, -⟩ := ipDecreaseTtl_checksum .little carryCtx carryCtx.dataPtr carryHeader
    (by decide) (by decide) (by decide) (by decide) hc
  exact ⟨hc, by decide, c', hD, hL, by decide⟩

end XdpTutorial.Solutions
