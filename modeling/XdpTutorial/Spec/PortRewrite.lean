import XdpTutorial.Spec.ByteOrder
import XdpTutorial.Spec.EchoParser

/-!
# What the port rewriter changes

`xdp_port_rewrite_func` always returns `XDP_PASS`; what matters is what it does to the packet.
This module says it over the packet's bytes, as a function `portRewrite` of the context, and
proves that the program computes exactly it, for every frame and either byte order.

## The contract

The program changes at most two bytes: the destination port (bytes 2–3, in network order) of the
header it takes for TCP or UDP, decremented by one modulo `2 ^ 16`, and only if the whole header
(20 bytes for TCP, 8 for UDP) fits before `data_end`. Which header that is, `portHeader`, depends
on the protocol at the first stop `k` of the VLAN loop (`vlanStop`): after a whole IPv6 header
with next header TCP or UDP; after an IPv4 header that `parse_iphdr` accepts, `4 * ihl` bytes on,
with protocol TCP or UDP; and for any other protocol, right after the VLAN tags, taken as TCP,
since such a frame leaves the `if`/`else if` chain and runs the label `parse_tcp:`. A frame too
short for an Ethernet header is left alone: the TCP header `parse_tcp:` then looks at, at `data`,
cannot fit.
-/

namespace XdpTutorial

/-- Where the VLAN loop, run on an Ethernet header at `a`, first stops. -/
def vlanStop (mem : ℕ → UInt8) (dataEnd a : ℕ) : ℕ :=
  Nat.find (p := VlanStop mem dataEnd a) ⟨vlanMaxDepth, .inl rfl⟩

theorem firstVlanStop_vlanStop (mem : ℕ → UInt8) (dataEnd a : ℕ) :
    FirstVlanStop mem dataEnd a (vlanStop mem dataEnd a) :=
  ⟨Nat.find_spec _, fun _ => Nat.find_min _⟩

namespace Packet02

/-! ### The contract -/

/-- The TCP (`20` bytes) or UDP (`8` bytes) header at `pos` that the `switch` on the IP protocol
`proto` goes on to, as offset and size, if any. -/
def l4Header (proto pos : ℕ) : Option (ℕ × ℕ) :=
  if proto = ipprotoTcp then some (pos, 20) else if proto = ipprotoUdp then some (pos, 8) else none

/-- The header the program takes for TCP or UDP, as offset and size, when the Ethernet header fits
and the VLAN loop first stops at `k`. -/
def portHeader (ctx : XdpMd) (k : ℕ) : Option (ℕ × ℕ) :=
  let ip := ctx.data + 14 + 4 * k
  if encapType ctx.mem ctx.data k = UInt16.ofNat ethPIpv6 then
    if ctx.dataEnd < ip + 40 then none else l4Header (ctx.mem (ip + 6)).toNat (ip + 40)
  else if encapType ctx.mem ctx.data k = UInt16.ofNat ethPIp then
    if ctx.dataEnd < ip + 20 ∨ ctx.dataEnd < ip + (ctx.mem ip).toNat % 16 * 4 then none
    else l4Header (ctx.mem (ip + 9)).toNat (ip + (ctx.mem ip).toNat % 16 * 4)
  else some (ip, 20)

/-- Decrement the destination port (bytes 2–3, network order) of the header of `size` bytes at
`pos`, if the header fits. -/
def decrementPort (ctx : XdpMd) (pos size : ℕ) : XdpMd :=
  if ctx.dataEnd < pos + size then ctx
  else ctx.write (pos + 2) (Endian.big.store16 (be16 (ctx.mem (pos + 2)) (ctx.mem (pos + 3)) - 1))

/-- What `xdp_port_rewrite_func` does to the packet. -/
def portRewrite (ctx : XdpMd) : XdpMd :=
  if ctx.dataEnd < ctx.data + 14 then ctx
  else match portHeader ctx (vlanStop ctx.mem ctx.dataEnd ctx.data) with
    | some (pos, size) => decrementPort ctx pos size
    | none => ctx

/-! ### The program against the contract -/

section Effect

variable {e : Endian} {ctx : XdpMd} {nh : Ptr}

/-- `parse_tcphdr` and `parse_udphdr`, from a cursor, decrement the port of the header they
check, in network order on either host. -/
theorem parsePortHdr_decrementPort (hnh : ctx.Cursor nh) (size : ℕ) (hs : 4 ≤ size) :
    ∃ r, parsePortHdr e ctx size nh ctx.dataEnd = some (r, decrementPort ctx nh.addr size) := by
  unfold parsePortHdr decrementPort
  by_cases h : ctx.dataEnd < nh.addr + size
  · rw [if_pos h, if_pos h]
    exact ⟨_, rfl⟩
  rw [if_neg (by omega), if_neg h, XdpMd.load16_eq (hnh.canAccess (by omega))]
  simp only [Option.bind_eq_bind, Option.some_bind]
  rw [XdpMd.store16_eq (hnh.canAccess (by omega)), bpfNtohs_load16, store16_bpfHtons]
  exact ⟨_, rfl⟩

/-- The `switch` on the IP protocol, from a cursor: TCP and UDP go on to their label, anything
else (including a failed parse, `-1`) to `out`. -/
theorem xdpPortRewriteFuncL4_eq (hnh : ctx.Cursor nh) (ipType : ℤ) :
    xdpPortRewriteFuncL4 e ctx ipType nh = some (.pass,
      if ipType = ipprotoTcp then decrementPort ctx nh.addr 20
      else if ipType = ipprotoUdp then decrementPort ctx nh.addr 8 else ctx) := by
  obtain ⟨r₁, h₁⟩ := parsePortHdr_decrementPort (e := e) hnh 20 (by decide)
  obtain ⟨r₂, h₂⟩ := parsePortHdr_decrementPort (e := e) hnh 8 (by decide)
  unfold xdpPortRewriteFuncL4
  split_ifs
  · simp only [xdpPortRewriteFuncTcp, parseTcphdr, h₁, Option.bind_eq_bind, Option.some_bind]
    rfl
  · simp only [xdpPortRewriteFuncUdp, parseUdphdr, h₂, Option.bind_eq_bind, Option.some_bind]
    rfl
  · rfl

/-- A protocol returned as an `int` goes on to the header `l4Header` names. -/
theorem l4Header_eq (proto pos : ℕ) :
    (if (proto : ℤ) = ipprotoTcp then decrementPort ctx pos 20
      else if (proto : ℤ) = ipprotoUdp then decrementPort ctx pos 8 else ctx) =
    match l4Header proto pos with
    | some (pos, size) => decrementPort ctx pos size
    | none => ctx := by
  simp only [l4Header, Int.ofNat_inj]
  split_ifs <;> rfl

/-- **What the port rewriter does.** For every frame and either byte order,
`xdp_port_rewrite_func` returns `XDP_PASS` with the packet `portRewrite` says: unchanged but for
the destination port of the header `portHeader` names, decremented if that header fits. -/
theorem xdpPortRewriteFunc_eq_portRewrite (e : Endian) (ctx : XdpMd) :
    xdpPortRewriteFunc e ctx = some (.pass, portRewrite ctx) := by
  obtain ⟨r₀, h₀⟩ := parsePortHdr_decrementPort (e := e) (XdpMd.cursor_dataPtr (c := ctx))
    20 (by decide)
  unfold portRewrite
  by_cases hfit : ctx.dataEnd < ctx.data + 14
  · rw [if_pos hfit]
    simp only [xdpPortRewriteFunc, (parseEthhdr_vlanStop e ctx XdpMd.cursor_dataPtr).1 hfit,
      Option.bind_eq_bind, Option.some_bind, show ¬((-1 : ℤ) = ethPIpv6) by decide,
      show ¬((-1 : ℤ) = ethPIp) by decide, if_false, xdpPortRewriteFuncTcp, parseTcphdr, h₀,
      decrementPort, XdpMd.dataPtr_addr, if_pos (show ctx.dataEnd < ctx.data + 20 by omega)]
    rfl
  rw [if_neg hfit]
  replace hfit : ctx.data + 14 ≤ ctx.dataEnd := by omega
  have hk := firstVlanStop_vlanStop ctx.mem ctx.dataEnd ctx.data
  generalize vlanStop ctx.mem ctx.dataEnd ctx.data = k at hk ⊢
  have hip : ctx.Cursor (ctx.dataPtr + (14 + 4 * k)) :=
    XdpMd.cursor_dataPtr.add (by simpa [Nat.add_assoc] using hk.fits hfit)
  have haddr : (ctx.dataPtr + (14 + 4 * k)).addr = ctx.data + 14 + 4 * k := by
    simp only [Ptr.add_addr, XdpMd.dataPtr_addr, Nat.add_assoc]
  simp only [xdpPortRewriteFunc, parseEthhdr_first XdpMd.cursor_dataPtr hfit hk,
    XdpMd.dataPtr_addr, Option.bind_eq_bind, Option.some_bind, portHeader,
    toNat_eq_ofNat_iff _ (by decide : ethPIpv6 < 65536),
    toNat_eq_ofNat_iff _ (by decide : ethPIp < 65536)]
  by_cases h6 : encapType ctx.mem ctx.data k = UInt16.ofNat ethPIpv6
  · rw [if_pos h6, if_pos h6, parseIp6hdr_eq hip, Option.some_bind, haddr]
    by_cases h40 : ctx.dataEnd < ctx.data + 14 + 4 * k + 40
    · rw [if_pos h40, if_pos h40, xdpPortRewriteFuncL4_eq hip]
      rfl
    · rw [if_neg h40, if_neg h40, xdpPortRewriteFuncL4_eq (hip.add (by omega)), ← l4Header_eq]
      simp only [Ptr.add_addr, haddr]
  rw [if_neg h6, if_neg h6]
  by_cases h4 : encapType ctx.mem ctx.data k = UInt16.ofNat ethPIp
  · rw [if_pos h4, if_pos h4, parseIphdr_eq hip, Option.some_bind, haddr]
    by_cases hA : ctx.dataEnd < ctx.data + 14 + 4 * k + 20 ∨
        ctx.dataEnd < ctx.data + 14 + 4 * k + (ctx.mem (ctx.data + 14 + 4 * k)).toNat % 16 * 4
    · rw [if_pos hA, if_pos hA, xdpPortRewriteFuncL4_eq hip]
      rfl
    · rw [if_neg hA, if_neg hA, xdpPortRewriteFuncL4_eq (hip.add (by omega)), ← l4Header_eq]
      simp only [Ptr.add_addr, haddr]
  rw [if_neg h4, if_neg h4]
  obtain ⟨r, h⟩ := parsePortHdr_decrementPort (e := e) hip 20 (by decide)
  simp only [xdpPortRewriteFuncTcp, parseTcphdr, h, Option.bind_eq_bind, Option.some_bind, haddr]
  rfl

end Effect

end Packet02

end XdpTutorial
