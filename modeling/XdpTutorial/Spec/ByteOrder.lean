import XdpTutorial.Packet01.Parser
import XdpTutorial.Packet02.Parser
import XdpTutorial.Packet02.PortRewrite
import XdpTutorial.Packet02.Vlan
import XdpTutorial.Solutions.Vlan
import XdpTutorial.Spec.Checksum
import XdpTutorial.Spec.Ethhdr
import XdpTutorial.Spec.TtlChecksum

/-!
# The host's byte order

Every program is modelled for a host of either byte order `e`: a 16-bit load or store
goes through `Endian.load16 e`, and `bpf_ntohs`/`bpf_htons` swap bytes on a little-endian
host only. The programs of packet02 and packet-solutions read every multi-byte field
through `bpf_ntohs`, compare it with a `bpf_htons` constant, or copy it unchanged, so
none of them can tell the hosts apart: `byteOrder_independent` says that each computes,
on either host, the function it computes on a big-endian one.

The proof says once what a host-order access is: a load on host `e` is the big-endian
load followed by `bpf_htons e` (`XdpMd.load16_map`), a store of `bpf_htons e v` is the
big-endian store of `v` (`XdpMd.store16_htons`), and `bpf_htons` commutes with what the
programs compute on loaded values (`csum16_add`, `~`, the TTL checksum update,
`proto_is_vlan`). Each program is then rewritten into its big-endian form by `simp only`
with these lemmas, one lemma per function of the source.

packet01's `parse_ip6hdr` is the exception: it applies `bpf_ntohs` to the one-byte
`nexthdr`, and `xdp_parser_func` compares the result with `0x3A00`, which is
`bpf_ntohs(IPPROTO_ICMPV6)` on a little-endian host only. On a big-endian host the
program therefore passes every frame (`xdpParserFunc_bigEndian_pass`), while on a
little-endian one it drops an ICMPv6 echo request with an odd sequence number.
-/

namespace XdpTutorial

/-! ### Host-order loads and stores -/

section Access

variable {e : Endian} {c : XdpMd} {p : Ptr}

@[simp] theorem bpfNtohs_big (x : UInt16) : bpfNtohs .big x = x := rfl

@[simp] theorem bpfHtons_big (x : UInt16) : bpfHtons .big x = x := rfl

/-- A 16-bit load on host `e` is the big-endian load converted with `bpf_htons`. -/
theorem XdpMd.load16_map : c.load16 e p = (c.load16 .big p).map (bpfHtons e) := by
  unfold XdpMd.load16
  split_ifs
  · exact congrArg some ((load16_eq_bpfHtons_iff e _ _ _).2 rfl)
  · rfl

/-- Storing `bpf_htons(v)` on host `e` writes the bytes a big-endian host writes for `v`. -/
@[simp] theorem XdpMd.store16_htons (v : UInt16) :
    c.store16 e p (bpfHtons e v) = c.store16 .big p v := by
  unfold XdpMd.store16
  rw [XdpTutorial.store16_bpfHtons]

@[simp] theorem protoIsVlan_bpfHtons (h : UInt16) :
    protoIsVlan e (bpfHtons e h) = protoIsVlan .big h := by
  rw [protoIsVlan_eq, protoIsVlan_eq, bpfNtohs_bpfHtons]
  rfl

@[simp] theorem not_bpfHtons (a : UInt16) : ~~~(bpfHtons e a) = bpfHtons e (~~~a) :=
  (bpfNtohs_not e a).symm

@[simp] theorem csum16Add_bpfHtons (a b : UInt16) :
    Solutions.csum16Add (bpfHtons e a) (bpfHtons e b) = bpfHtons e (Solutions.csum16Add a b) :=
  (bpfNtohs_csum16Add e a b).symm

@[simp] theorem ipDecreaseTtlCheck_bpfHtons (c : UInt16) :
    Solutions.ipDecreaseTtlCheck e (bpfHtons e c) =
      bpfHtons e (Solutions.ipDecreaseTtlCheck .big c) := by
  rw [← Solutions.bpfNtohs_ipDecreaseTtlCheck e c]
  exact (bpfNtohs_bpfNtohs e _).symm

end Access

/-! ### The shared parser -/

section Parser

variable {e : Endian}

/-- The VLAN loop of `parse_ethhdr` returns on host `e` the `h_proto` it returns on a
big-endian host, converted with `bpf_htons`. -/
theorem parseEthhdrVlans_bpfHtons (ctx : XdpMd) (de : ℕ) : ∀ n h vlh,
    parseEthhdrVlans e ctx de n (bpfHtons e h) vlh =
      (parseEthhdrVlans .big ctx de n h vlh).map (Prod.map (bpfHtons e) id)
  | 0, _, _ => rfl
  | n + 1, h, vlh => by
    simp only [parseEthhdrVlans, protoIsVlan_bpfHtons]
    split_ifs
    · rfl
    · rfl
    · simp only [Option.bind_eq_bind, XdpMd.load16_map (e := e), Option.bind_map,
        Function.comp_def, parseEthhdrVlans_bpfHtons ctx de n, Option.map_bind]

theorem parseEthhdr_eq_big (ctx : XdpMd) (nh : Ptr) (de : ℕ) :
    parseEthhdr e ctx nh de = parseEthhdr .big ctx nh de := by
  unfold parseEthhdr
  split_ifs
  · rfl
  simp only [Option.bind_eq_bind, XdpMd.load16_map (e := e), Option.bind_map, Function.comp_def,
    parseEthhdrVlans_bpfHtons, bpfNtohs_bpfHtons, Prod.map, id, bpfNtohs_big]

end Parser

/-! ### packet02 -/

namespace Packet02

variable {e : Endian}

theorem xdpParserFunc_eq_big : xdpParserFunc e = xdpParserFunc .big := by
  funext ctx
  simp only [xdpParserFunc, xdpParserFuncEcho, parseEthhdr_eq_big (e := e), Option.bind_eq_bind,
    XdpMd.load16_map (e := e), Option.bind_map, Function.comp_def, bpfNtohs_bpfHtons, bpfNtohs_big]

theorem xdpPortRewriteFunc_eq_big : xdpPortRewriteFunc e = xdpPortRewriteFunc .big := by
  funext ctx
  simp only [xdpPortRewriteFunc, xdpPortRewriteFuncL4, xdpPortRewriteFuncTcp,
    xdpPortRewriteFuncUdp, parseTcphdr, parseUdphdr, parsePortHdr, parseEthhdr_eq_big (e := e),
    Option.bind_eq_bind, XdpMd.load16_map (e := e), Option.bind_map, Function.comp_def,
    bpfNtohs_bpfHtons, bpfNtohs_big, bpfHtons_big, XdpMd.store16_htons]

theorem vlanTagPop_eq_big (adj : AdjustHead) : vlanTagPop e adj = vlanTagPop .big adj := by
  funext ctx eth
  simp only [vlanTagPop, Option.bind_eq_bind, XdpMd.load16_map (e := e), Option.bind_map,
    Function.comp_def, bpfNtohs_bpfHtons, bpfNtohs_big, protoIsVlan_bpfHtons, store16_bpfHtons]

theorem vlanTagPush_eq_big (adj : AdjustHead) : vlanTagPush e adj = vlanTagPush .big adj := by
  funext ctx eth vlid
  simp only [vlanTagPush, Option.bind_eq_bind, XdpMd.load16_map (e := e), Option.bind_map,
    Function.comp_def, bpfHtons_big, XdpMd.store16_htons, protoIsVlan_bpfHtons]

end Packet02

/-- `xdp_vlan_swap_func`'s frame (shared by both lessons) tests the outer `h_proto` the same
way on either host. -/
theorem vlanSwap_eq_big {e : Endian} (pop : XdpMd → Ptr → Option (ℤ × XdpMd))
    (push : XdpMd → Ptr → ℤ → Option (ℤ × XdpMd)) : vlanSwap e pop push = vlanSwap .big pop push := by
  funext ctx
  simp only [vlanSwap, parseEthhdr_eq_big (e := e), Option.bind_eq_bind,
    XdpMd.load16_map (e := e), Option.bind_map, Function.comp_def, protoIsVlan_bpfHtons]

/-! ### packet-solutions -/

namespace Solutions

variable {e : Endian}

theorem vlanTagPop_eq_big (adj : AdjustHead) : vlanTagPop e adj = vlanTagPop .big adj := by
  funext ctx eth
  simp only [vlanTagPop, Option.bind_eq_bind, XdpMd.load16_map (e := e), Option.bind_map,
    Function.comp_def, bpfNtohs_bpfHtons, bpfNtohs_big, XdpMd.store16_htons, protoIsVlan_bpfHtons]

theorem vlanTagPush_eq_big (adj : AdjustHead) : vlanTagPush e adj = vlanTagPush .big adj := by
  funext ctx eth vlid
  simp only [vlanTagPush, Option.bind_eq_bind, XdpMd.load16_map (e := e), Option.bind_map,
    Function.comp_def, bpfHtons_big, XdpMd.store16_htons]

/-- The checksum patch of `xdp_icmp_echo_func` loads the two type words and the checksum in
host order and stores the result in host order: one's complement arithmetic commutes with
`bpf_htons`, so the stored bytes are the same on either host. -/
theorem icmpEchoPatch_eq_big (ctx : XdpMd) (eth icmphdr : Ptr) (echoReply : ℕ) :
    icmpEchoPatch e ctx eth icmphdr echoReply = icmpEchoPatch .big ctx eth icmphdr echoReply := by
  simp only [icmpEchoPatch, Option.bind_eq_bind, XdpMd.load16_map (e := e), Option.bind_map,
    Function.comp_def, not_bpfHtons, csum16Add_bpfHtons, XdpMd.store16_htons]

theorem ipDecreaseTtl_eq_big (ctx : XdpMd) (iph : Ptr) :
    ipDecreaseTtl e ctx iph = ipDecreaseTtl .big ctx iph := by
  simp only [ipDecreaseTtl, Option.bind_eq_bind, XdpMd.load16_map (e := e), Option.bind_map,
    Function.comp_def, ipDecreaseTtlCheck_bpfHtons, XdpMd.store16_htons]

theorem ipv4FibParams_eq_big (ctx : XdpMd) (iph : Ptr) :
    ipv4FibParams e ctx iph = ipv4FibParams .big ctx iph := by
  simp only [ipv4FibParams, Option.bind_eq_bind, XdpMd.load16_map (e := e), Option.bind_map,
    Function.comp_def, bpfNtohs_bpfHtons, bpfNtohs_big]

theorem ipv6FibParams_eq_big (ctx : XdpMd) (ip6h : Ptr) :
    ipv6FibParams e ctx ip6h = ipv6FibParams .big ctx ip6h := by
  simp only [ipv6FibParams, Option.bind_eq_bind, XdpMd.load16_map (e := e), Option.bind_map,
    Function.comp_def, bpfNtohs_bpfHtons, bpfNtohs_big]

/-- `xdp_router_func` up to `bpf_fib_lookup` keeps `h_proto` in host order: what it hands on is
the big-endian result with `h_proto` converted with `bpf_htons`. -/
theorem routerFibParams_eq_map_big (ctx : XdpMd) :
    routerFibParams e ctx =
      (routerFibParams .big ctx).map (Sum.map id (Prod.map (bpfHtons e) id)) := by
  unfold routerFibParams
  by_cases hfit : ctx.data + 14 > ctx.dataEnd
  · simp only [if_pos hfit]
    rfl
  simp only [if_neg hfit]
  rw [XdpMd.load16_map (e := e)]
  cases ctx.load16 .big (ctx.dataPtr + 12) with
  | none => rfl
  | some h =>
    simp only [Option.map_some', Option.some_bind, bpfHtons_inj, bpfHtons_big,
      ipv4FibParams_eq_big (e := e), ipv6FibParams_eq_big (e := e), Option.bind_eq_bind,
      Option.map_bind, Function.comp_def, apply_ite (Option.map _), Option.pure_def,
      Option.map_some', Sum.map_inl, Sum.map_inr, Prod.map, id]

theorem routerForward_bpfHtons (ctx : XdpMd) (txPort : UInt32 → XdpAction) (hProto : UInt16)
    (rc : ℤ) (params : BpfFibLookup) :
    routerForward e ctx txPort (bpfHtons e hProto) rc params =
      routerForward .big ctx txPort hProto rc params := by
  simp only [routerForward, bpfHtons_inj, bpfHtons_big, ipDecreaseTtl_eq_big (e := e)]

end Solutions

/-- **The programs of packet02 and packet-solutions do not depend on the host's byte order.**
Each computes on a host of either byte order the function it computes on a big-endian host:
the same action and the same packet for every context and every environment (the `adjust_head`
helper, the route lookup, the redirect maps). -/
theorem byteOrder_independent (e : Endian) :
    Packet02.xdpParserFunc e = Packet02.xdpParserFunc .big ∧
      Packet02.xdpPortRewriteFunc e = Packet02.xdpPortRewriteFunc .big ∧
      Packet02.xdpVlanSwapFunc e = Packet02.xdpVlanSwapFunc .big ∧
      Solutions.xdpVlanSwapFunc e = Solutions.xdpVlanSwapFunc .big ∧
      Solutions.xdpIcmpEchoFunc e = Solutions.xdpIcmpEchoFunc .big ∧
      Solutions.xdpRedirectMapFunc e = Solutions.xdpRedirectMapFunc .big ∧
      Solutions.xdpRouterFunc e = Solutions.xdpRouterFunc .big := by
  refine ⟨Packet02.xdpParserFunc_eq_big, Packet02.xdpPortRewriteFunc_eq_big, ?_, ?_, ?_, ?_, ?_⟩
  · funext adj ctx
    rw [Packet02.xdpVlanSwapFunc, vlanSwap_eq_big, Packet02.vlanTagPop_eq_big,
      Packet02.vlanTagPush_eq_big]
    rfl
  · funext adj ctx
    rw [Solutions.xdpVlanSwapFunc, vlanSwap_eq_big, Solutions.vlanTagPop_eq_big,
      Solutions.vlanTagPush_eq_big]
    rfl
  · funext ctx
    simp only [Solutions.xdpIcmpEchoFunc, Solutions.icmpEchoReply, parseEthhdr_eq_big (e := e),
      Solutions.icmpEchoPatch_eq_big (e := e)]
  · funext ctx redirectParams txPort
    simp only [Solutions.xdpRedirectMapFunc, parseEthhdr_eq_big (e := e)]
  · funext ctx fib txPort
    simp only [Solutions.xdpRouterFunc, Solutions.routerFibParams_eq_map_big (e := e),
      Option.bind_eq_bind, Option.bind_map]
    congr 1
    funext s
    rcases s with action | ⟨hProto, params⟩
    · rfl
    · exact Solutions.routerForward_bpfHtons ctx txPort hProto _ _

/-! ### packet01 on a big-endian host -/

namespace Packet01

variable {ctx : XdpMd}

/-- On a big-endian host `bpf_ntohs` of the widened `nexthdr` is `nexthdr` itself. -/
theorem toNat_bpfNtohs_big_ofNat (v : UInt8) :
    (bpfNtohs .big (UInt16.ofNat v.toNat)).toNat = v.toNat := by
  have := u8_toNat_lt v
  rw [bpfNtohs_big, u16_toNat_ofNat]
  omega

/-- From a cursor, lines 141–152 pass on a big-endian host: `parse_ip6hdr` returns a byte or
`-1`, never `0x3A00`. -/
theorem xdpParserFuncIp6_bigEndian_pass {nh : Ptr} (hnh : ctx.Cursor nh) :
    xdpParserFuncIp6 .big ctx nh = some (.pass, ctx) := by
  have hr : parseIp6hdr .big ctx nh ctx.dataEnd = some (if ctx.dataEnd < nh.addr + 40
      then ⟨-1, nh, none⟩ else ⟨(ctx.mem (nh.addr + 6)).toNat, nh + 40, some nh⟩) :=
    parseHdr_eq fun h => by
      rw [XdpMd.load8_eq (hnh.canAccess (by omega))]
      exact congrArg some (congrArg Nat.cast (toNat_bpfNtohs_big_ofNat _))
  have hlt := u8_toNat_lt (ctx.mem (nh.addr + 6))
  split_ifs at hr <;>
    simp only [xdpParserFuncIp6, hr, Option.bind_eq_bind, Option.some_bind] <;>
    exact if_pos (by omega)

/-- **On a big-endian host packet01's parser passes every frame**: its test for ICMPv6 compares
`bpf_ntohs(nexthdr)` with the little-endian constant `0x3A00`, which no byte equals. On a
little-endian host it drops an ICMPv6 echo request with an odd sequence number. -/
theorem xdpParserFunc_bigEndian_pass :
    (∀ ctx : XdpMd, xdpParserFunc .big ctx = some (.pass, ctx)) ∧
      ∃ ctx : XdpMd, (xdpParserFunc .little ctx).map Prod.fst = some .drop := by
  refine ⟨fun ctx => ?_, ⟨⟨fun a => (([2, 0, 0, 0, 0, 1, 2, 0, 0, 0, 0, 2, 0x86, 0xDD,
      0x60, 0, 0, 0, 0, 8, 58, 64] : List UInt8) ++ List.replicate 32 0 ++
      [128, 0, 0, 0, 0, 0, 0, 1]).getD a 0, 0, 62, 0, 0, by decide⟩, by decide⟩⟩
  obtain ⟨r, hr, hpos, -⟩ := parseEthhdr_usable (e := .big) ctx.dataPtr XdpMd.cursor_dataPtr
  simp only [xdpParserFunc, hr, Option.bind_eq_bind, Option.some_bind]
  split_ifs
  · exact xdpParserFuncIp6_bigEndian_pass hpos
  · obtain ⟨r', hr', hpos', -⟩ := parseVlanhdr_usable (e := .big) r.pos hpos
    rw [hr', Option.some_bind]
    exact xdpParserFuncIp6_bigEndian_pass hpos'
  · rfl

end Packet01

end XdpTutorial
