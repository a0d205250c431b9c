import XdpTutorial.Packet01.Parser
import XdpTutorial.Packet02.Parser
import XdpTutorial.Packet02.PortRewrite
import XdpTutorial.Solutions.IcmpEcho
import XdpTutorial.Spec.VlanTag
import XdpTutorial.Spec.Router

/-!
# Every packet access is safe

The kernel's verifier accepts a load or a store of the packet only through a
pointer that was checked against `data_end`, and forgets every such check
when `bpf_xdp_adjust_head` moves the packet. The model says the same: a
checked access (`XdpMd.load16`, `XdpMd.store`, ...) is `none` unless it lies
inside `[data, data_end)` and its pointer is of the current generation, which
`bpfXdpAdjustHead` advances; and a header pointer that no parser stored is
`none`, so a program that uses one ends in `none` too. A program's run on a
frame is therefore safe exactly when it returns `some`.

## What is proved

Each program returns `some` on every frame and for every outcome of the
helpers it calls: `bpf_xdp_adjust_head` (any `AdjustHead`, sound or not),
`bpf_fib_lookup`, and the lookups in `redirect_params` and `tx_port`.
`packetAccess_safe` collects the eight programs. The parsers need of their
helpers only `ParserUsable`, which `parse_iphdr` keeps whatever `ihl` is;
the VLAN functions re-check the bounds after every head adjustment and
access the packet only through the new `data`.
-/

namespace XdpTutorial

section Vlan

variable {e : Endian} {ctx : XdpMd}

/-- packet02's `vlan_tag_pop` on a frame whose Ethernet header fits makes only allowed accesses,
whatever `bpf_xdp_adjust_head` does. -/
theorem Packet02.vlanTagPop_safe (adj : AdjustHead) (hfit : ctx.data + 14 ≤ ctx.dataEnd) :
    ∃ r, Packet02.vlanTagPop e adj ctx ctx.dataPtr = some r := by
  obtain ⟨h, hl, -⟩ := load16_ethType (e := e) hfit
  unfold Packet02.vlanTagPop
  simp only [Ptr.add_add, Nat.reduceAdd, hl, Option.bind_eq_bind, Option.some_bind]
  cases protoIsVlan e h
  · exact ⟨_, rfl⟩
  by_cases h₂ : ctx.dataEnd < ctx.data + 18
  · rw [if_neg (by decide), if_pos (by simpa using h₂)]
    exact ⟨_, rfl⟩
  rw [if_neg (by decide), if_neg (by simpa using h₂), XdpMd.loadBytes_eq (ctx.canAccess_head hfit),
    XdpMd.load16_dataPtr (by omega), XdpMd.load16_dataPtr (by omega)]
  simp only [Option.some_bind]
  generalize bpfXdpAdjustHead adj ctx 4 = q
  obtain ⟨rc, c₀⟩ := q
  split_ifs with h₃ h₄
  · exact ⟨_, rfl⟩
  · exact ⟨_, rfl⟩
  · rw [XdpMd.store_eq (c₀.canAccess_head (by simp at h₄ ⊢; omega))]
    exact ⟨_, rfl⟩

/-- packet-solutions' `vlan_tag_push` on a frame whose Ethernet header fits makes only allowed
accesses, whatever `bpf_xdp_adjust_head` does. -/
theorem Solutions.vlanTagPush_safe (adj : AdjustHead) (hfit : ctx.data + 14 ≤ ctx.dataEnd)
    (vlid : ℤ) : ∃ r, Solutions.vlanTagPush e adj ctx ctx.dataPtr vlid = some r := by
  unfold Solutions.vlanTagPush
  rw [XdpMd.loadBytes_eq (ctx.canAccess_head hfit)]
  simp only [Option.bind_eq_bind, Option.some_bind]
  generalize bpfXdpAdjustHead adj ctx (-4) = q
  obtain ⟨rc, c₀⟩ := q
  by_cases h₁ : rc = 0
  swap
  · rw [if_pos h₁]; exact ⟨_, rfl⟩
  by_cases h₂ : c₀.dataEnd < c₀.data + 14
  · rw [if_neg (not_not.2 h₁), if_pos (by simpa using h₂)]; exact ⟨_, rfl⟩
  rw [if_neg (not_not.2 h₁), if_neg (by simpa using h₂),
    XdpMd.store_eq (c₀.canAccess_head (by simp; omega))]
  simp only [Option.some_bind, Ptr.add_add, Nat.reduceAdd, Ptr.add_addr, XdpMd.dataPtr_addr,
    XdpMd.write_dataEnd]
  by_cases h₃ : c₀.dataEnd < c₀.data + 18
  · rw [if_pos (by omega)]; exact ⟨_, rfl⟩
  rw [if_neg (by omega), XdpMd.store16_eq (c := c₀.write _ _) (c₀.canAccess_dataPtr (by omega))]
  simp only [Option.some_bind]
  rw [XdpMd.load16_eq (c := (c₀.write _ _).write _ _) (c₀.canAccess_dataPtr (by omega))]
  simp only [Option.some_bind]
  rw [XdpMd.store16_eq (c := (c₀.write _ _).write _ _) (c₀.canAccess_dataPtr (by omega))]
  simp only [Option.some_bind]
  rw [XdpMd.store16_eq (c := ((c₀.write _ _).write _ _).write _ _) (c₀.canAccess_dataPtr (by omega))]
  exact ⟨_, rfl⟩

theorem Solutions.vlanTagPop_safe (adj : AdjustHead) (hfit : ctx.data + 14 ≤ ctx.dataEnd) :
    ∃ r, Solutions.vlanTagPop e adj ctx ctx.dataPtr = some r := by
  rw [← Solutions.vlanTagPop_eq]; exact Packet02.vlanTagPop_safe adj hfit

/-- packet02's `vlan_tag_push` refuses a tagged frame and is packet-solutions' on any other. -/
theorem Packet02.vlanTagPush_safe (adj : AdjustHead) (hfit : ctx.data + 14 ≤ ctx.dataEnd)
    (vlid : ℤ) : ∃ r, Packet02.vlanTagPush e adj ctx ctx.dataPtr vlid = some r := by
  obtain ⟨h, hl, -⟩ := load16_ethType (e := e) hfit
  cases hv : protoIsVlan e h with
  | false => rw [Solutions.vlanTagPush_eq hl hv]; exact Solutions.vlanTagPush_safe adj hfit vlid
  | true => exact ⟨(-1, ctx), by simp [Packet02.vlanTagPush, hl, hv]⟩

/-- `xdp_vlan_swap_func` is safe when its `vlan_tag_pop` and `vlan_tag_push` are, on frames whose
Ethernet header fits. -/
theorem vlanSwap_safe {pop : XdpMd → Ptr → Option (ℤ × XdpMd)}
    {push : XdpMd → Ptr → ℤ → Option (ℤ × XdpMd)}
    (hpop : ctx.data + 14 ≤ ctx.dataEnd → ∃ r, pop ctx ctx.dataPtr = some r)
    (hpush : ctx.data + 14 ≤ ctx.dataEnd → ∃ r, push ctx ctx.dataPtr 1 = some r) :
    ∃ r, vlanSwap e pop push ctx = some r := by
  by_cases hfit : ctx.data + 14 ≤ ctx.dataEnd
  · rw [vlanSwap_eq hfit]
    split
    · obtain ⟨r, hr⟩ := hpop hfit; exact ⟨_, by rw [hr]; rfl⟩
    · obtain ⟨r, hr⟩ := hpush hfit; exact ⟨_, by rw [hr]; rfl⟩
  · refine ⟨(.pass, ctx), ?_⟩
    unfold vlanSwap parseEthhdr
    rw [if_pos (by simp; omega)]
    rfl

end Vlan

section PortRewrite

variable {e : Endian} {ctx : XdpMd}

/-- `parse_tcphdr` and `parse_udphdr` rewrite the port only inside the header they checked. -/
theorem Packet02.parsePortHdr_safe (size : ℕ) (hs : 4 ≤ size) {nh : Ptr} (hnh : ctx.Cursor nh) :
    ∃ r, Packet02.parsePortHdr e ctx size nh ctx.dataEnd = some r := by
  unfold Packet02.parsePortHdr
  split_ifs with h
  · exact ⟨_, rfl⟩
  rw [XdpMd.load16_eq (hnh.canAccess (by omega))]
  simp only [Option.bind_eq_bind, Option.some_bind]
  rw [XdpMd.store16_eq (hnh.canAccess (by omega))]
  exact ⟨_, rfl⟩

theorem Packet02.xdpPortRewriteFuncL4_safe (ipType : ℤ) {nh : Ptr} (hnh : ctx.Cursor nh) :
    ∃ r, Packet02.xdpPortRewriteFuncL4 e ctx ipType nh = some r := by
  obtain ⟨⟨_, c₁⟩, h₁⟩ := Packet02.parsePortHdr_safe (e := e) 20 (by decide) hnh
  obtain ⟨⟨_, c₂⟩, h₂⟩ := Packet02.parsePortHdr_safe (e := e) 8 (by decide) hnh
  unfold Packet02.xdpPortRewriteFuncL4
  split_ifs
  · exact ⟨(.pass, c₁), by simp [Packet02.xdpPortRewriteFuncTcp, Packet02.parseTcphdr, h₁]⟩
  · exact ⟨(.pass, c₂), by simp [Packet02.xdpPortRewriteFuncUdp, Packet02.parseUdphdr, h₂]⟩
  · exact ⟨_, rfl⟩

/-- `xdp_port_rewrite_func` is safe, also where it goes on to `parse_tcp:` from a frame that is
neither IPv4 nor IPv6. -/
theorem Packet02.xdpPortRewriteFunc_safe (e : Endian) (ctx : XdpMd) :
    ∃ r, Packet02.xdpPortRewriteFunc e ctx = some r := by
  obtain ⟨r, hr, hpos, -⟩ := parseEthhdr_usable (e := e) ctx.dataPtr XdpMd.cursor_dataPtr
  simp only [Packet02.xdpPortRewriteFunc, hr, Option.bind_eq_bind, Option.some_bind]
  split_ifs
  · obtain ⟨r', hr', hpos', -⟩ := parseIp6hdr_usable r.pos hpos
    rw [hr', Option.some_bind]
    exact Packet02.xdpPortRewriteFuncL4_safe _ hpos'
  · obtain ⟨r', hr', hpos', -⟩ := parseIphdr_usable r.pos hpos
    rw [hr', Option.some_bind]
    exact Packet02.xdpPortRewriteFuncL4_safe _ hpos'
  · obtain ⟨⟨_, c₁⟩, h₁⟩ := Packet02.parsePortHdr_safe (e := e) 20 (by decide) hpos
    exact ⟨(.pass, c₁), by simp [Packet02.xdpPortRewriteFuncTcp, Packet02.parseTcphdr, h₁]⟩

end PortRewrite

section Solutions

variable {e : Endian} {ctx : XdpMd}

/-- `xdp_redirect_map_func` reads the source address and writes the destination address only
after `parse_ethhdr` succeeded, through the pointer it stored. -/
theorem Solutions.xdpRedirectMapFunc_safe (e : Endian) (ctx : XdpMd)
    (redirectParams : List UInt8 → Option EthAddr) (txPort : UInt32 → XdpAction) :
    ∃ r, Solutions.xdpRedirectMapFunc e ctx redirectParams txPort = some r := by
  obtain ⟨r, hr, -, hu⟩ := parseEthhdr_usable (e := e) ctx.dataPtr XdpMd.cursor_dataPtr
  simp only [Solutions.xdpRedirectMapFunc, hr, Option.bind_eq_bind, Option.some_bind]
  split_ifs with h
  · exact ⟨_, rfl⟩
  obtain ⟨hh, hfit⟩ := hu h
  rw [XdpMd.dataPtr_addr] at hfit
  rw [hh, Option.some_bind, XdpMd.loadBytes_dataPtr (by omega), Option.some_bind]
  split
  · exact ⟨_, rfl⟩
  · rw [XdpMd.store_eq (ctx.canAccess_head (by simp; omega))]
    exact ⟨_, rfl⟩

/-- The `swap_src_dst_*` helpers, on fields inside the packet past a cursor. -/
theorem Solutions.swapFields_eq {c : XdpMd} {p : Ptr} (hp : c.Cursor p) {a b n : ℕ}
    (ha : p.addr + a + n ≤ c.dataEnd) (hb : p.addr + b + n ≤ c.dataEnd) :
    Solutions.swapFields c p a b n = some ((c.write (p.addr + a) (readMem c.mem (p.addr + b) n)).write
      (p.addr + b) (readMem c.mem (p.addr + a) n)) := by
  unfold Solutions.swapFields
  rw [XdpMd.loadBytes_eq (hp.canAccess ha), XdpMd.loadBytes_eq (hp.canAccess hb)]
  simp only [Option.bind_eq_bind, Option.some_bind]
  rw [XdpMd.store_eq (by simpa using hp.canAccess ha)]
  simp only [Option.some_bind]
  rw [XdpMd.store_eq (by simpa using hp.canAccess hb)]
  rfl

/-- The rewrite of `xdp_icmp_echo_func` is safe on a context whose Ethernet header fits and with
the first four bytes of the ICMP header inside the packet. -/
theorem Solutions.icmpEchoPatch_safe {c : XdpMd} (hfit : c.data + 12 ≤ c.dataEnd) {q : Ptr}
    (hq : c.Cursor q) (h4 : q.addr + 4 ≤ c.dataEnd) (t : ℕ) :
    ∃ r, Solutions.icmpEchoPatch e c c.dataPtr q t = some r := by
  unfold Solutions.icmpEchoPatch Solutions.swapSrcDstMac
  rw [Solutions.swapFields_eq XdpMd.cursor_dataPtr (by simp; omega) (by simp; omega)]
  simp only [Option.bind_eq_bind, Option.some_bind]
  rw [XdpMd.load16_eq (c := (c.write _ _).write _ _) (hq.canAccess_self (by omega))]
  simp only [Option.some_bind]
  rw [XdpMd.store8_eq (c := (c.write _ _).write _ _) (hq.canAccess_self (by omega))]
  simp only [Option.some_bind]
  rw [XdpMd.load16_eq (c := ((c.write _ _).write _ _).write _ _) (hq.canAccess_self (by omega)),
    Option.some_bind,
    XdpMd.load16_eq (c := ((c.write _ _).write _ _).write _ _) (hq.canAccess (by omega)),
    Option.some_bind,
    XdpMd.store16_eq (c := ((c.write _ _).write _ _).write _ _) (hq.canAccess (by omega))]
  exact ⟨_, rfl⟩

/-- After the IP dispatch, `xdp_icmp_echo_func` uses a header pointer only where the parser that
stored it succeeded: the IPv4 header's for an IPv4 frame, the IPv6 header's for an IPv6 frame,
and the ICMP header's only for an echo request. -/
theorem Solutions.icmpEchoReply_safe {ethType : ℤ} {nh : Ptr} (hnh : ctx.Cursor nh)
    (hfit : ctx.data + 14 ≤ ctx.dataEnd) {iphdr ipv6hdr : Option Ptr}
    (hip : ethType = ethPIp → ∃ p, iphdr = some p ∧ ctx.Cursor p ∧ p.addr + 20 ≤ ctx.dataEnd)
    (hip6 : ethType = ethPIpv6 → ∃ p, ipv6hdr = some p ∧ ctx.Cursor p ∧ p.addr + 40 ≤ ctx.dataEnd) :
    ∃ r, Solutions.icmpEchoReply e ctx ethType nh (some ctx.dataPtr) iphdr ipv6hdr = some r := by
  obtain ⟨r, hr, -, hu⟩ := parseIcmphdr_usable nh hnh
  simp only [Solutions.icmpEchoReply, hr, Option.bind_eq_bind, Option.some_bind]
  split_ifs with h₁ h₂
  · obtain ⟨p, rfl, hp, h20⟩ := hip h₁.1
    obtain ⟨hh, h8⟩ := hu (by omega)
    rw [Option.some_bind, Solutions.swapSrcDstIpv4, Solutions.swapFields_eq hp (by omega) (by omega)]
    simp only [Option.some_bind, hh]
    exact Solutions.icmpEchoPatch_safe (by simp; omega) (by exact hnh) (by simp; omega) _
  · obtain ⟨p, rfl, hp, h40⟩ := hip6 h₂.1
    obtain ⟨hh, h8⟩ := hu (by omega)
    rw [Option.some_bind, Solutions.swapSrcDstIpv6, Solutions.swapFields_eq hp (by omega) (by omega)]
    simp only [Option.some_bind, hh]
    exact Solutions.icmpEchoPatch_safe (by simp; omega) (by exact hnh) (by simp; omega) _
  · exact ⟨_, rfl⟩

theorem Solutions.xdpIcmpEchoFunc_safe (e : Endian) (ctx : XdpMd) :
    ∃ r, Solutions.xdpIcmpEchoFunc e ctx = some r := by
  obtain ⟨r, hr, hpos, hu⟩ := parseEthhdr_usable (e := e) ctx.dataPtr XdpMd.cursor_dataPtr
  simp only [Solutions.xdpIcmpEchoFunc, hr, Option.bind_eq_bind, Option.some_bind]
  split_ifs with h4 h6
  · obtain ⟨ri, hri, hpos', hu'⟩ := parseIphdr_usable r.pos hpos
    obtain ⟨he, h14⟩ := hu (by omega)
    rw [hri, Option.some_bind]
    split_ifs with hp
    · exact ⟨_, rfl⟩
    obtain ⟨hh, h20⟩ := hu' (by omega)
    rw [he]
    exact Solutions.icmpEchoReply_safe hpos' h14 (fun _ => ⟨_, hh, hpos, h20⟩)
      fun h => absurd (h4.symm.trans h) (by decide)
  · obtain ⟨ri, hri, hpos', hu'⟩ := parseIp6hdr_usable r.pos hpos
    obtain ⟨he, h14⟩ := hu (by omega)
    rw [hri, Option.some_bind]
    split_ifs with hp
    · exact ⟨_, rfl⟩
    obtain ⟨hh, h40⟩ := hu' (by omega)
    rw [he]
    exact Solutions.icmpEchoReply_safe hpos' h14 (fun h => absurd (h6.symm.trans h) (by decide))
      fun _ => ⟨_, hh, hpos, h40⟩
  · exact ⟨_, rfl⟩

/-- The router ends on every frame: it meets its contract, which gives it a result. -/
theorem Solutions.xdpRouterFunc_safe (e : Endian) (ctx : XdpMd) (fib : Solutions.FibLookup)
    (txPort : UInt32 → XdpAction) : ∃ r, Solutions.xdpRouterFunc e ctx fib txPort = some r := by
  obtain ⟨ps, h⟩ := Solutions.xdpRouterFunc_yields e txPort ctx
  obtain ⟨c', hc', -⟩ := h fib
  exact ⟨_, hc'⟩

end Solutions

/-- **Every packet access is safe.** For every frame and every outcome of the helpers, each of
the eight programs ends: every load and store it makes lies inside `[data, data_end)` and goes
through a pointer taken after the last `bpf_xdp_adjust_head`, and every header pointer it uses
was stored by a parser that succeeded. The two parsers moreover write nothing. -/
theorem packetAccess_safe (e : Endian) :
    (∀ ctx, ∃ r, Solutions.xdpIcmpEchoFunc e ctx = some r) ∧
    (∀ ctx fib txPort, ∃ r, Solutions.xdpRouterFunc e ctx fib txPort = some r) ∧
    (∀ adj ctx, ∃ r, Packet02.xdpVlanSwapFunc e adj ctx = some r) ∧
    (∀ adj ctx, ∃ r, Solutions.xdpVlanSwapFunc e adj ctx = some r) ∧
    (∀ ctx, ∃ r, Packet02.xdpPortRewriteFunc e ctx = some r) ∧
    (∀ ctx redirectParams txPort,
      ∃ r, Solutions.xdpRedirectMapFunc e ctx redirectParams txPort = some r) ∧
    (∀ ctx, ∃ a, Packet01.xdpParserFunc e ctx = some (a, ctx)) ∧
    (∀ ctx, ∃ a, Packet02.xdpParserFunc e ctx = some (a, ctx)) :=
  ⟨Solutions.xdpIcmpEchoFunc_safe e, Solutions.xdpRouterFunc_safe e,
    fun adj _ => vlanSwap_safe (Packet02.vlanTagPop_safe adj) (Packet02.vlanTagPush_safe adj · 1),
    fun adj _ => vlanSwap_safe (Solutions.vlanTagPop_safe adj) (Solutions.vlanTagPush_safe adj · 1),
    Packet02.xdpPortRewriteFunc_safe e, Solutions.xdpRedirectMapFunc_safe e,
    Packet01.xdpParserFunc_readOnly e, Packet02.xdpParserFunc_readOnly e⟩

end XdpTutorial
