import XdpTutorial.Spec.Router

/-!
# What the router asks the routing table

`xdp_router_func` hands `bpf_fib_lookup` a `struct bpf_fib_lookup` it fills from the packet.
The router's contract (`xdpRouterFunc_spec`) says that these parameters depend on the frame
alone; this module says which they are, over the frame's bytes, as `fibKey`, and proves that the
program asks the lookup with exactly them, for every frame and either byte order.

## The key

For an IPv4 packet (its header at byte 14): the family `AF_INET`, the TOS (byte 15) in the first
byte of the `tos`/`flowinfo` union, the protocol (byte 23), the total length (bytes 16–17) read in
network order, and the source and destination addresses (bytes 26–29 and 30–33) in the first four
bytes of their unions. For an IPv6 packet: the family `AF_INET6`, the header's first word with the
version masked off by `IPV6_FLOWINFO_MASK`, the next header (byte 20), the payload length
(bytes 18–19) in network order, and the addresses (bytes 22–37 and 38–53). Ports are zero and the
interface is the one the packet came in on; every other field is as `= {}` left it.
-/

namespace XdpTutorial.Solutions

/-- The parameters `xdp_router_func` fills for the lookup of the frame `f`, received on the
interface `ifindex`. -/
def fibKey (f : List UInt8) (ifindex : UInt32) : BpfFibLookup :=
  if etherType f = UInt16.ofNat ethPIp then
    { BpfFibLookup.zero with
      family := UInt8.ofNat afInet, flowinfo := [f.getD 15 0, 0, 0, 0], l4Protocol := f.getD 23 0,
      sport := 0, dport := 0, totLen := be16 (f.getD 16 0) (f.getD 17 0),
      src := (f.drop 26).take 4 ++ List.replicate 12 0,
      dst := (f.drop 30).take 4 ++ List.replicate 12 0, ifindex := ifindex }
  else
    let flow := (f.drop 14).take 4
    { BpfFibLookup.zero with
      family := UInt8.ofNat afInet6, flowinfo := (flow.headD 0 &&& 0x0F) :: flow.tail,
      l4Protocol := f.getD 20 0, sport := 0, dport := 0,
      totLen := be16 (f.getD 18 0) (f.getD 19 0), src := (f.drop 22).take 16,
      dst := (f.drop 38).take 16, ifindex := ifindex }

section Program

variable {e : Endian} {ctx : XdpMd}

/-- The parameters filled from an IPv4 header that fits are the frame's key. -/
theorem ipv4FibParams_fibKey (h : ctx.data + 34 ≤ ctx.dataEnd)
    (h4 : etherType ctx.frame = UInt16.ofNat ethPIp) :
    ipv4FibParams e ctx (ctx.dataPtr + 14) = some (fibKey ctx.frame ctx.ingressIfindex) := by
  rw [fibKey, if_pos h4]
  simp (disch := omega) only [ipv4FibParams, Ptr.add_add, Nat.reduceAdd, XdpMd.load8_dataPtr,
    XdpMd.load16_dataPtr, XdpMd.loadBytes_dataPtr, Option.bind_eq_bind, Option.some_bind,
    bpfNtohs_load16, XdpMd.getD_frame, XdpMd.length_frame, XdpMd.slice_frame]
  rfl

/-- The parameters filled from an IPv6 header that fits are the frame's key. -/
theorem ipv6FibParams_fibKey (h : ctx.data + 54 ≤ ctx.dataEnd)
    (h4 : etherType ctx.frame ≠ UInt16.ofNat ethPIp) :
    ipv6FibParams e ctx (ctx.dataPtr + 14) = some (fibKey ctx.frame ctx.ingressIfindex) := by
  rw [fibKey, if_neg h4]
  simp (disch := omega) only [ipv6FibParams, Ptr.add_add, Nat.reduceAdd, XdpMd.load8_dataPtr,
    XdpMd.load16_dataPtr, XdpMd.loadBytes_dataPtr, Option.bind_eq_bind, Option.some_bind,
    bpfNtohs_load16, XdpMd.getD_frame, XdpMd.length_frame, XdpMd.slice_frame]
  rfl

/-- Where the contract looks the frame up, the code before the helper's call hands over
`h_proto` and the frame's key. -/
theorem routerFibParams_fibKey (h : routerEarlyVerdict ctx.frame = none) :
    routerFibParams e ctx =
      some (.inr (bpfHtons e (etherType ctx.frame), fibKey ctx.frame ctx.ingressIfindex)) := by
  have hlen := XdpMd.length_frame (c := ctx)
  unfold routerFibParams
  simp only [gt_iff_lt, Ptr.add_addr, XdpMd.dataPtr_addr, Nat.add_assoc, Nat.reduceAdd]
  rcases routerEarlyVerdict_eq_none h with ⟨h4, h34, httl⟩ | ⟨h4, h6, h54, hhop⟩
  · rw [XdpMd.getD_frame (by omega)] at httl
    simp (disch := omega) only [show ¬ ctx.dataEnd < ctx.data + 14 by omega,
      show ¬ ctx.dataEnd < ctx.data + 34 by omega, UInt8.not_le.2 httl, ↓reduceIte,
      load16_etherType, Option.bind_eq_bind, Option.some_bind, bpfHtons_inj, h4, Ptr.add_add,
      Nat.reduceAdd, XdpMd.load8_dataPtr, ipv4FibParams_fibKey (by omega) h4]
    rfl
  · rw [XdpMd.getD_frame (by omega)] at hhop
    simp (disch := omega) only [show ¬ ctx.dataEnd < ctx.data + 14 by omega,
      show ¬ ctx.dataEnd < ctx.data + 54 by omega, UInt8.not_le.2 hhop, ↓reduceIte,
      load16_etherType, Option.bind_eq_bind, Option.some_bind, bpfHtons_inj, h4, h6, Ptr.add_add,
      Nat.reduceAdd, XdpMd.load8_dataPtr, ipv6FibParams_fibKey (by omega) h4]
    rfl

end Program

/-- **What the router looks up.** For every frame, either byte order and every answer of the
routing table, `xdp_router_func` asks `bpf_fib_lookup` with the frame's `fibKey` and the
interface it came in on, and its verdict and frame are the contract's for that answer. -/
theorem xdpRouterFunc_asks_fibKey (e : Endian) (txPort : UInt32 → XdpAction) (ctx : XdpMd)
    (fib : FibLookup) :
    Yields ctx (xdpRouterFunc e ctx fib txPort)
      (routerVerdict e txPort ctx.frame (fib ctx (fibKey ctx.frame ctx.ingressIfindex))) := by
  cases hv : routerEarlyVerdict ctx.frame with
  | some a =>
    rw [xdpRouterFunc_of_early (routerFibParams_early hv), routerVerdict_of_early hv]
    exact yields_self ctx a
  | none =>
    rw [xdpRouterFunc_of_lookup (routerFibParams_fibKey hv), routerVerdict_of_lookup hv]
    exact routerForward_verdict (routerForward_success hv) _

end XdpTutorial.Solutions
