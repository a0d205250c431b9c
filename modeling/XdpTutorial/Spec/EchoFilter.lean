import XdpTutorial.Spec.PortChain
import XdpTutorial.Spec.FrameVerdict
import XdpTutorial.Spec.RouterPath

/-!
# The echo filter behind the rewriting programs

packet02's `xdp_parser_func` drops ICMP and ICMPv6 echo requests with an even sequence number; call
it the echo filter. A packet may reach it after crossing programs that rewrite it. This module
proves that three of them never change what the filter decides: any chain of packet02's port
rewriters, packet-solutions' `xdp_redirect_map_func`, and any path of its routers.

## The port rewriter

`xdp_port_rewrite_func` and the filter act on disjoint packets. The rewriter changes a packet
only when the protocol after the VLAN tags leads it to a TCP or a UDP header, or is neither IPv4
nor IPv6; the filter passes all such packets, since they carry no ICMP header where it looks
(`not_evenEchoRequest_of_portHeader`). The decrement does not touch the bytes that made that
choice (`portTarget_decrementPortBy`), so the filter passes the packet after it as well
(`echoVerdict_portRewrite`). By induction on the chain, `rewriteChain_echoVerdict`.

## The redirect program

`xdp_redirect_map_func` writes only the destination Ethernet address, and the filter never looks
at the Ethernet addresses (`echoVerdict_congr`).

## The router

`xdp_router_func` forwards only frames without VLAN tags, so the filter reads their IP header
right after the Ethernet header. Besides the Ethernet addresses, the router writes the IPv6 hop
limit, which the filter does not read (`evenEcho6_iff_of_agree`), or the IPv4 TTL and checksum,
which come before the ICMP header when `ihl` is at least `5` (`evenEcho4_iff_of_agree`). With an
`ihl` of `1` or `2`, which `parse_iphdr` lets through, the filter would take its ICMP type or
sequence number from those bytes.
-/

namespace XdpTutorial.Packet02

section Filter

variable {ctx : XdpMd} {k pos size : ℕ}

theorem l4Header_proto {proto p : ℕ} (h : l4Header proto p = some (pos, size)) :
    proto = ipprotoTcp ∨ proto = ipprotoUdp := by
  unfold l4Header at h
  split_ifs at h with ht hu
  · exact .inl ht
  · exact .inr hu

/-- A packet that names a header to the rewriter carries no echo request the filter drops. -/
theorem not_evenEchoRequest_of_portHeader (h : portHeader ctx k = some (pos, size)) :
    ¬EvenEchoRequest ctx k := by
  have h46 : UInt16.ofNat ethPIpv6 ≠ UInt16.ofNat ethPIp := by decide
  unfold portHeader at h
  dsimp only at h
  split_ifs at h with h6 h40 h4 hA
  · have hp := l4Header_proto h
    rintro (⟨-, -, h58, -⟩ | ⟨h4', -⟩)
    · rw [h58] at hp; revert hp; decide
    · exact h46 (h6.symm.trans h4')
  · have hp := l4Header_proto h
    rintro (⟨h6', -⟩ | ⟨-, -, -, h1, -⟩)
    · exact h6 h6'
    · rw [h1] at hp; revert hp; decide
  · rintro (⟨h6', -⟩ | ⟨h4', -⟩)
    · exact h6 h6'
    · exact h4 h4'

/-- The filter passes every packet whose port the rewriter decrements. -/
theorem xdpParserFunc_of_portTarget (e : Endian) (h : portTarget ctx = some pos) :
    xdpParserFunc e ctx = some (.pass, ctx) := by
  unfold portTarget at h
  split_ifs at h with hfit
  have hk := firstVlanStop_vlanStop ctx.mem ctx.dataEnd ctx.data
  generalize vlanStop ctx.mem ctx.dataEnd ctx.data = k at hk h
  cases hp : portHeader ctx k with
  | none => rw [hp] at h; cases h
  | some ps =>
    rw [xdpParserFunc_eq_of_first (by omega) hk, if_neg (not_evenEchoRequest_of_portHeader hp)]

theorem echoVerdict_of_portTarget (h : portTarget ctx = some pos) : echoVerdict ctx.frame = .pass :=
  congrArg Prod.fst (Option.some.inj
    ((xdpParserFunc_echoVerdict .big ctx).symm.trans (xdpParserFunc_of_portTarget .big h)))

/-- One run of the rewriter leaves the filter's verdict. -/
theorem echoVerdict_portRewrite (ctx : XdpMd) :
    echoVerdict (portRewrite ctx).frame = echoVerdict ctx.frame := by
  rw [portRewrite_eq_portTarget]
  cases ht : portTarget ctx with
  | none => rfl
  | some pos =>
    exact (echoVerdict_of_portTarget (portTarget_decrementPortBy ht 1)).trans
      (echoVerdict_of_portTarget ht).symm

/-- A chain of rewriters leaves the filter's verdict. -/
theorem rewriteChain_echoVerdict (es : List Endian) (ctx : XdpMd) :
    ∃ c', rewriteChain es ctx = some c' ∧ echoVerdict c'.frame = echoVerdict ctx.frame := by
  induction es generalizing ctx with
  | nil => exact ⟨ctx, rfl, rfl⟩
  | cons e es ih =>
    obtain ⟨c', hc, hv⟩ := ih (portRewrite ctx)
    refine ⟨c', ?_, hv.trans (echoVerdict_portRewrite ctx)⟩
    rw [rewriteChain, xdpPortRewriteFunc_eq_portRewrite, Option.bind_eq_bind, Option.some_bind]
    exact (if_pos rfl).trans hc

end Filter

/-- **The port rewriter does not disturb the echo filter.** For every packet and every chain of
hosts running `xdp_port_rewrite_func` of packet02, of any byte orders, `xdp_parser_func` of
packet02, on either host, decides on the packet the chain passes as on the packet the chain
received. -/
theorem rewriteChain_xdpParserFunc (es : List Endian) (ctx : XdpMd) (e : Endian) :
    ∃ c' a, rewriteChain es ctx = some c' ∧ xdpParserFunc e ctx = some (a, ctx) ∧
      xdpParserFunc e c' = some (a, c') := by
  obtain ⟨c', hc, hv⟩ := rewriteChain_echoVerdict es ctx
  exact ⟨c', _, hc, xdpParserFunc_echoVerdict e ctx,
    by rw [xdpParserFunc_echoVerdict, hv]⟩

/-! ### The redirect program -/

/-- The filter does not look at the Ethernet addresses: frames of one length that agree from byte
`12` on are judged alike. -/
theorem echoVerdict_congr {f f' : List UInt8} (hl : f'.length = f.length)
    (h : ∀ j, f'.getD (12 + j) 0 = f.getD (12 + j) 0) : echoVerdict f' = echoVerdict f := by
  have hs : SameFrom (XdpMd.ofFrame f') (XdpMd.ofFrame f) (0 + 12) (0 + 12) :=
    ⟨by simp only [XdpMd.ofFrame_dataEnd, hl], fun j _ => h j⟩
  obtain ⟨k, hk⟩ := firstVlanStop_exists (XdpMd.ofFrame f).mem f.length 0
  rw [echoVerdict_eq hk, echoVerdict_eq (hs.firstVlanStop_iff.2 hk),
    if_congr (SameFrom.evenEchoRequest_iff (i := k) (j := k) (hs.shift (4 * k)
      (by simp only [encapAddr_eq, XdpMd.ofFrame_data]) (by simp only [encapAddr_eq,
        XdpMd.ofFrame_data]))) rfl rfl]

/-- **The redirect program does not disturb the echo filter.** For every packet, every content
of `redirect_params` and `tx_port`, and either byte order of each host, `xdp_redirect_map_func`
returns a packet that `xdp_parser_func` of packet02 judges as the packet it received: the only
bytes it writes are the destination Ethernet address, which the filter does not read. -/
theorem xdpRedirectMapFunc_xdpParserFunc (e e' : Endian)
    (redirectParams : List UInt8 → Option EthAddr) (txPort : UInt32 → XdpAction) (ctx : XdpMd) :
    ∃ a c' v, Solutions.xdpRedirectMapFunc e ctx redirectParams txPort = some (a, c') ∧
      xdpParserFunc e' ctx = some (v, ctx) ∧ xdpParserFunc e' c' = some (v, c') := by
  have hy : Solutions.Yields ctx (Solutions.xdpRedirectMapFunc e ctx redirectParams txPort)
      (Solutions.redirectMapVerdict redirectParams txPort ctx.frame) :=
    Solutions.xdpRedirectMapFunc_yields e ctx
  obtain ⟨c', hc, -, -, hf⟩ := hy
  refine ⟨_, c', _, hc, xdpParserFunc_echoVerdict e' ctx, ?_⟩
  rw [xdpParserFunc_echoVerdict, hf, Solutions.redirectMapVerdict]
  split_ifs with h14
  · rfl
  split
  · rfl
  · rename_i dst _
    have h6 : 0 + dst.bytes.length ≤ ctx.frame.length := by rw [dst.length_eq]; omega
    exact congrArg (fun v => some (v, c')) (echoVerdict_congr (length_patch h6)
      fun j => getD_patch_of_ge h6 (by rw [dst.length_eq]; omega))

/-! ### The router -/

section Contract

variable {A B : XdpMd} {ip : ℕ}

/-- The IPv6 part of the contract reads the next header and the bytes from the ICMPv6 header on. -/
theorem evenEcho6_iff_of_agree (h6 : A.mem (ip + 6) = B.mem (ip + 6))
    (h : SameFrom A B (ip + 40) (ip + 40)) : EvenEcho6 A ip ↔ EvenEcho6 B ip := by
  have hl : A.dataEnd = B.dataEnd := by have := h.dataEnd_eq; omega
  rw [EvenEcho6, EvenEcho6, h6, hl]
  by_cases h48 : ip + 40 + 8 ≤ B.dataEnd
  · rw [h.mem_self (by omega), SameFrom.evenSequence_iff h (by omega)]
  · exact iff_of_false (fun h' => h48 h'.2.2.1) fun h' => h48 h'.2.2.1

/-- The IPv4 part of the contract reads `ihl`, the protocol and the bytes from the ICMP header
on. -/
theorem evenEcho4_iff_of_agree (h0 : A.mem ip = B.mem ip) (h9 : A.mem (ip + 9) = B.mem (ip + 9))
    (h : SameFrom A B (ip + (B.mem ip).toNat % 16 * 4) (ip + (B.mem ip).toNat % 16 * 4)) :
    EvenEcho4 A ip ↔ EvenEcho4 B ip := by
  have hl : A.dataEnd = B.dataEnd := by have := h.dataEnd_eq; omega
  rw [EvenEcho4, EvenEcho4, h0, h9, hl]
  by_cases h8 : ip + (B.mem ip).toNat % 16 * 4 + 8 ≤ B.dataEnd
  · rw [h.mem_self (by omega), SameFrom.evenSequence_iff h (by omega)]
  · exact iff_of_false (fun h' => h8 h'.2.2.2.1) fun h' => h8 h'.2.2.2.1

end Contract

section Router

variable {e : Endian} {f : List UInt8}

/-- A frame without VLAN tags is judged by what follows its Ethernet header. -/
theorem echoVerdict_untagged (h : isVlanType (etherType f) = false) :
    echoVerdict f = if EvenEchoRequest (XdpMd.ofFrame f) 0 then .drop else .pass :=
  echoVerdict_eq ⟨.inr (.inl h), fun _ hi => absurd hi (Nat.not_lt_zero _)⟩

theorem evenEchoRequest_ipv4 (h4 : etherType f = UInt16.ofNat ethPIp) :
    EvenEchoRequest (XdpMd.ofFrame f) 0 ↔ EvenEcho4 (XdpMd.ofFrame f) 14 := by
  simp only [EvenEchoRequest, XdpMd.ofFrame_data, encapType_ofFrame, h4, Nat.zero_add,
    Nat.mul_zero, Nat.add_zero, true_and, or_iff_right_iff_imp, and_imp]
  exact fun h _ => absurd h (by decide)

theorem evenEchoRequest_ipv6 (h6 : etherType f = UInt16.ofNat ethPIpv6) :
    EvenEchoRequest (XdpMd.ofFrame f) 0 ↔ EvenEcho6 (XdpMd.ofFrame f) 14 := by
  simp only [EvenEchoRequest, XdpMd.ofFrame_data, encapType_ofFrame, h6, Nat.zero_add,
    Nat.mul_zero, Nat.add_zero, true_and, or_iff_left_iff_imp, and_imp]
  exact fun h _ => absurd h (by decide)

/-- `ip_decrease_ttl` leaves every byte but the TTL (byte 22) and the checksum (bytes 24–25). -/
theorem getD_ipv4DecreaseTtl_of_ne (h : 26 ≤ f.length) {i : ℕ}
    (hi : i < 22 ∨ i = 23 ∨ 26 ≤ i) :
    (Solutions.ipv4DecreaseTtl e f).getD i 0 = f.getD i 0 := by
  rw [Solutions.ipv4DecreaseTtl]
  rcases hi with hi | rfl | hi
  · rw [getD_patch_of_lt (by simp [patch]; omega) hi, getD_patch_of_lt (by simp; omega) (by omega)]
  · rw [getD_patch_of_ge (by simp [patch]; omega) (by simp), getD_patch_of_lt (by simp; omega)
      (by omega)]
  · rw [getD_patch_of_ge (by simp [patch]; omega) (by simp; omega),
      getD_patch_of_ge (by simp; omega) (by simp; omega)]

theorem getD_ipv6DecreaseHopLimit_of_ne (h : 22 ≤ f.length) {i : ℕ} (h21 : i ≠ 21) :
    (Solutions.ipv6DecreaseHopLimit f).getD i 0 = f.getD i 0 := by
  rw [Solutions.ipv6DecreaseHopLimit]
  rcases (by omega : i < 21 ∨ 22 ≤ i) with hi | hi
  · exact getD_patch_of_lt (by simp; omega) hi
  · exact getD_patch_of_ge (by simp; omega) (by simp; omega)

/-- `ip_decrease_ttl` on an IPv4 frame whose `ihl` is at least `5` leaves the filter's verdict. -/
theorem echoVerdict_ipv4DecreaseTtl (h4 : etherType f = UInt16.ofNat ethPIp)
    (hlen : 34 ≤ f.length) (hihl : 20 ≤ Solutions.ipv4HeaderLength f 14) :
    echoVerdict (Solutions.ipv4DecreaseTtl e f) = echoVerdict f := by
  have hg : ∀ i, i < 22 ∨ i = 23 ∨ 26 ≤ i →
      (XdpMd.ofFrame (Solutions.ipv4DecreaseTtl e f)).mem i = (XdpMd.ofFrame f).mem i :=
    fun _ hi => by
      rw [XdpMd.ofFrame_mem, XdpMd.ofFrame_mem, getD_ipv4DecreaseTtl_of_ne (by omega) hi]
  have hE : etherType (Solutions.ipv4DecreaseTtl e f) = etherType f := by
    rw [etherType, etherType, getD_ipv4DecreaseTtl_of_ne (i := 12) (by omega) (.inl (by decide)),
      getD_ipv4DecreaseTtl_of_ne (i := 13) (by omega) (.inl (by decide))]
  have hv : isVlanType (etherType f) = false := by rw [h4]; decide
  have hv' : isVlanType (etherType (Solutions.ipv4DecreaseTtl e f)) = false := by rw [hE, hv]
  -- the ICMP header starts at or after byte 34, past the bytes the router writes
  have h14 : ((XdpMd.ofFrame f).mem 14).toNat = (f.getD 14 0).toNat := rfl
  unfold Solutions.ipv4HeaderLength at hihl
  have hs : SameFrom (XdpMd.ofFrame (Solutions.ipv4DecreaseTtl e f)) (XdpMd.ofFrame f)
      (14 + ((XdpMd.ofFrame f).mem 14).toNat % 16 * 4)
      (14 + ((XdpMd.ofFrame f).mem 14).toNat % 16 * 4) :=
    ⟨by rw [XdpMd.ofFrame_dataEnd, XdpMd.ofFrame_dataEnd,
      Solutions.length_ipv4DecreaseTtl (by omega)], fun _ _ => hg _ (.inr (.inr (by omega)))⟩
  rw [echoVerdict_untagged hv, echoVerdict_untagged hv']
  exact if_congr ((evenEchoRequest_ipv4 (hE.trans h4)).trans ((evenEcho4_iff_of_agree
    (hg 14 (.inl (by decide))) (hg 23 (.inr (.inl rfl))) hs).trans (evenEchoRequest_ipv4 h4).symm))
    rfl rfl

/-- Decrementing the hop limit of an IPv6 frame leaves the filter's verdict. -/
theorem echoVerdict_ipv6DecreaseHopLimit (h6 : etherType f = UInt16.ofNat ethPIpv6)
    (hlen : 54 ≤ f.length) : echoVerdict (Solutions.ipv6DecreaseHopLimit f) = echoVerdict f := by
  have hg : ∀ i, i ≠ 21 →
      (XdpMd.ofFrame (Solutions.ipv6DecreaseHopLimit f)).mem i = (XdpMd.ofFrame f).mem i :=
    fun _ hi => by
      rw [XdpMd.ofFrame_mem, XdpMd.ofFrame_mem, getD_ipv6DecreaseHopLimit_of_ne (by omega) hi]
  have hE : etherType (Solutions.ipv6DecreaseHopLimit f) = etherType f := by
    rw [etherType, etherType, getD_ipv6DecreaseHopLimit_of_ne (i := 12) (by omega) (by decide),
      getD_ipv6DecreaseHopLimit_of_ne (i := 13) (by omega) (by decide)]
  have hv : isVlanType (etherType f) = false := by rw [h6]; decide
  have hv' : isVlanType (etherType (Solutions.ipv6DecreaseHopLimit f)) = false := by rw [hE, hv]
  rw [echoVerdict_untagged hv, echoVerdict_untagged hv']
  refine if_congr ((evenEchoRequest_ipv6 (hE.trans h6)).trans ((evenEcho6_iff_of_agree
    (hg 20 (by decide)) ⟨by rw [XdpMd.ofFrame_dataEnd, XdpMd.ofFrame_dataEnd,
      Solutions.length_ipv6DecreaseHopLimit (by omega)], fun j _ => hg _ (by omega)⟩).trans
    (evenEchoRequest_ipv6 h6).symm)) rfl rfl

/-- Writing the next hop's addresses leaves the filter's verdict. -/
theorem echoVerdict_forward {g : List UInt8} (ps : Solutions.BpfFibLookup) (hg : 12 ≤ g.length) :
    echoVerdict (patch (patch g 0 ps.dmac.bytes) 6 ps.smac.bytes) = echoVerdict g :=
  echoVerdict_congr (Solutions.length_forward ps hg) fun _ =>
    Solutions.getD_forward ps hg (by omega)

/-- One hop: a redirect by the router leaves the filter's verdict, if an IPv4 frame's `ihl` is at
least `5`. -/
theorem echoVerdict_of_redirect {txPort : UInt32 → XdpAction} {g : List UInt8}
    {lookup : ℤ × Solutions.BpfFibLookup}
    (h : Solutions.routerVerdict e txPort f lookup = (.redirect, g))
    (hihl : etherType f = UInt16.ofNat ethPIp → 20 ≤ Solutions.ipv4HeaderLength f 14) :
    echoVerdict g = echoVerdict f := by
  rcases Solutions.routerVerdict_redirect h with ⟨h4, hlen, -, rfl⟩ | ⟨h6, hlen, -, rfl⟩
  · have := Solutions.length_ipv4DecreaseTtl (e := e) (f := f) (by omega)
    rw [echoVerdict_forward _ (by omega), echoVerdict_ipv4DecreaseTtl h4 hlen (hihl h4)]
  · have := Solutions.length_ipv6DecreaseHopLimit (f := f) (by omega)
    rw [echoVerdict_forward _ (by omega), echoVerdict_ipv6DecreaseHopLimit h6 hlen]

end Router

/-- **Routers do not disturb the echo filter.** Along every path of hosts running
`xdp_router_func`, whatever their byte orders, route lookups and `tx_port` maps, a frame is
judged by the filter at every hop as where it was sent, provided that an IPv4 frame's header
length `4 * ihl` is at least `20` bytes. -/
theorem routerPath_echoVerdict {f g : List UInt8} {n : ℕ} (h : Solutions.RouterPath f g n)
    (hihl : etherType f = UInt16.ofNat ethPIp → 20 ≤ Solutions.ipv4HeaderLength f 14) :
    echoVerdict g = echoVerdict f := by
  induction h with
  | nil f => rfl
  | @hop f g n e fib txPort ctx ctx' hf hr _ ih =>
    obtain ⟨lookup, hv⟩ := Solutions.RouterPath.first hf hr
    have hE := Solutions.etherType_of_redirect hv
    have hL : Solutions.ipv4HeaderLength ctx'.frame 14 = Solutions.ipv4HeaderLength f 14 := by
      rw [Solutions.ipv4HeaderLength, Solutions.ipv4HeaderLength,
        Solutions.getD_of_redirect hv (by omega) (by omega)]
    rw [ih fun h4 => hL ▸ hihl (hE ▸ h4), echoVerdict_of_redirect hv hihl]

theorem routerPath_echoVerdict_routedFrame :
    ∃ g, Solutions.RouterPath Solutions.routedFrame.frame g 1 ∧
      (etherType Solutions.routedFrame.frame = UInt16.ofNat ethPIp →
        20 ≤ Solutions.ipv4HeaderLength Solutions.routedFrame.frame 14) ∧
      echoVerdict g = echoVerdict Solutions.routedFrame.frame := by
  obtain ⟨g, hg⟩ := Solutions.routedFrame_path
  have hihl : etherType Solutions.routedFrame.frame = UInt16.ofNat ethPIp →
      20 ≤ Solutions.ipv4HeaderLength Solutions.routedFrame.frame 14 := by decide
  exact ⟨g, hg, hihl, routerPath_echoVerdict hg hihl⟩

end XdpTutorial.Packet02
