import XdpTutorial.Common.ParsingHelpers

/-!
# packet-solutions: redirecting and routing

`xdp_redirect_map_func` looks up the frame's source address in the map
`redirect_params`, and if it is there writes the address found as the frame's
destination and redirects the frame through the device map `tx_port`.

`xdp_router_func` forwards IPv4 and IPv6 packets with the kernel's routing
table: it fills a `struct bpf_fib_lookup` from the IP header, asks
`bpf_fib_lookup`, and on success decrements the TTL (patching the IPv4 header
checksum with `ip_decrease_ttl`) or the hop limit, writes the next hop's
addresses into the Ethernet header, and redirects through `tx_port`. It drops
truncated packets and packets the table blackholes, and passes the rest.

## The model

The helpers' outcomes are parameters. `FibLookup` is any outcome of
`bpf_fib_lookup`: a return code and the parameter struct as the helper leaves
it. A redirect through `tx_port` is any function from the key to the action
`bpf_redirect_map` returns, and a lookup in `redirect_params` any partial
function from the six-byte key.

`xdp_router_func` is cut at its call of the helper: `routerFibParams` is the
code before it, which ends at `out` with an action or hands over the
parameters, and `routerForward` the code after it.
-/

namespace XdpTutorial.Solutions

/-! ### The helpers -/

/-- `AF_INET`. -/
def afInet : ℕ := 2

/-- `AF_INET6`. -/
def afInet6 : ℕ := 10

/-- `BPF_FIB_LKUP_RET_SUCCESS`, the first of the kernel's return codes of `bpf_fib_lookup`,
which are not in src/. -/
def bpfFibLkupRetSuccess : ℤ := 0

/-- `BPF_FIB_LKUP_RET_BLACKHOLE`. -/
def bpfFibLkupRetBlackhole : ℤ := 1

/-- `BPF_FIB_LKUP_RET_UNREACHABLE`. -/
def bpfFibLkupRetUnreachable : ℤ := 2

/-- `BPF_FIB_LKUP_RET_PROHIBIT`. -/
def bpfFibLkupRetProhibit : ℤ := 3

/-- The zero address, as `struct bpf_fib_lookup fib_params = {}` leaves it. -/
def EthAddr.zero : EthAddr := ⟨List.replicate 6 0, rfl⟩

/-- `struct bpf_fib_lookup`, with the fields `xdp_router_func` sets or reads. The union of
`tos` and `flowinfo` is its four bytes, and `ipv4_src` and `ipv6_src` (and the destinations)
are the sixteen bytes of theirs, in memory order. -/
structure BpfFibLookup where
  /-- `family`. -/
  family : UInt8
  /-- `l4_protocol`. -/
  l4Protocol : UInt8
  /-- `sport`. -/
  sport : UInt16
  /-- `dport`. -/
  dport : UInt16
  /-- `tot_len`, in host byte order. -/
  totLen : UInt16
  /-- `ifindex`: the ingress device on input, the egress device on output. -/
  ifindex : UInt32
  /-- The union of `tos` and `flowinfo`. -/
  flowinfo : List UInt8
  /-- The union of `ipv4_src` and `ipv6_src`. -/
  src : List UInt8
  /-- The union of `ipv4_dst` and `ipv6_dst`. -/
  dst : List UInt8
  /-- `smac`, filled in by the helper. -/
  smac : EthAddr
  /-- `dmac`, filled in by the helper. -/
  dmac : EthAddr

/-- `struct bpf_fib_lookup fib_params = {}`. -/
def BpfFibLookup.zero : BpfFibLookup :=
  ⟨0, 0, 0, 0, 0, 0, List.replicate 4 0, List.replicate 16 0, List.replicate 16 0, EthAddr.zero,
    EthAddr.zero⟩

/-- An outcome of `bpf_fib_lookup(ctx, &params, sizeof(params), 0)`, for every context and
parameters: the return code and the parameters as the helper leaves them. -/
abbrev FibLookup := XdpMd → BpfFibLookup → ℤ × BpfFibLookup

/-! ### `xdp_redirect_map_func` -/

section Program

variable (e : Endian) (ctx : XdpMd)

/-- `xdp_redirect_map_func`, given the lookup in `redirect_params` and the redirect through
`tx_port`. -/
def xdpRedirectMapFunc (redirectParams : List UInt8 → Option EthAddr)
    (txPort : UInt32 → XdpAction) : Option (XdpAction × XdpMd) := do
  let r ← parseEthhdr e ctx ctx.dataPtr ctx.dataEnd
  if r.ret = -1 then pure (xdpStatsRecordAction .pass, ctx)
  else do
    let eth ← r.hdr
    let hSource ← ctx.loadBytes (eth + 6) 6
    match redirectParams hSource with
    | none => pure (xdpStatsRecordAction .pass, ctx)
    | some dst => do
      let ctx ← ctx.store eth dst.bytes
      pure (xdpStatsRecordAction (txPort 0), ctx)

/-! ### `xdp_router_func` -/

/-- `ip_decrease_ttl`'s new checksum: `check` plus `bpf_htons(0x0100)` in 32 bits, with the
carry out of 16 bits added back, cut to 16 bits. -/
def ipDecreaseTtlCheck (check : UInt16) : UInt16 :=
  let check : ℕ := check.toNat + (bpfHtons e 0x0100).toNat
  UInt16.ofNat (check + if check ≥ 0xFFFF then 1 else 0)

/-- `ip_decrease_ttl`: patch the checksum, decrement the TTL, return the new TTL. -/
def ipDecreaseTtl (iph : Ptr) : Option (ℤ × XdpMd) := do
  let check ← ctx.load16 e (iph + 10)
  let ctx ← ctx.store16 e (iph + 10) (ipDecreaseTtlCheck e check)
  let ttl ← ctx.load8 (iph + 8)
  let ctx ← ctx.store8 (iph + 8) (ttl - 1)
  pure ((ttl - 1).toNat, ctx)

/-- The parameters `xdp_router_func` fills from the IPv4 header at `iph`. -/
def ipv4FibParams (iph : Ptr) : Option BpfFibLookup := do
  let tos ← ctx.load8 (iph + 1)
  let protocol ← ctx.load8 (iph + 9)
  let totLen ← ctx.load16 e (iph + 2)
  let saddr ← ctx.loadBytes (iph + 12) 4
  let daddr ← ctx.loadBytes (iph + 16) 4
  pure { BpfFibLookup.zero with
    family := UInt8.ofNat afInet, flowinfo := [tos, 0, 0, 0], l4Protocol := protocol,
    sport := 0, dport := 0, totLen := bpfNtohs e totLen,
    src := saddr ++ List.replicate 12 0, dst := daddr ++ List.replicate 12 0,
    ifindex := ctx.ingressIfindex }

/-- The parameters `xdp_router_func` fills from the IPv6 header at `ip6h`; `flowinfo` is the
header's first word masked with `IPV6_FLOWINFO_MASK`. -/
def ipv6FibParams (ip6h : Ptr) : Option BpfFibLookup := do
  let flow ← ctx.loadBytes ip6h 4
  let nexthdr ← ctx.load8 (ip6h + 6)
  let payloadLen ← ctx.load16 e (ip6h + 4)
  let saddr ← ctx.loadBytes (ip6h + 8) 16
  let daddr ← ctx.loadBytes (ip6h + 24) 16
  pure { BpfFibLookup.zero with
    family := UInt8.ofNat afInet6, flowinfo := (flow.headD 0 &&& 0x0F) :: flow.tail,
    l4Protocol := nexthdr, sport := 0, dport := 0, totLen := bpfNtohs e payloadLen,
    src := saddr, dst := daddr, ifindex := ctx.ingressIfindex }

/-- `xdp_router_func` up to its call of `bpf_fib_lookup`: either the action it takes at `out`,
or `h_proto` and the parameters it fills from an IPv4 or IPv6 header with a TTL or hop limit
above `1`. -/
def routerFibParams : Option (XdpAction ⊕ UInt16 × BpfFibLookup) := do
  if ctx.data + 14 > ctx.dataEnd then pure (.inl .drop)
  else do
    let eth := ctx.dataPtr
    let hProto ← ctx.load16 e (eth + 12)
    if hProto = bpfHtons e (UInt16.ofNat ethPIp) then do
      let iph := eth + 14
      if iph.addr + 20 > ctx.dataEnd then pure (.inl .drop)
      else do
        let ttl ← ctx.load8 (iph + 8)
        if ttl ≤ 1 then pure (.inl .pass)
        else do
          let params ← ipv4FibParams e ctx iph
          pure (.inr (hProto, params))
    else if hProto = bpfHtons e (UInt16.ofNat ethPIpv6) then do
      let ip6h := eth + 14
      if ip6h.addr + 40 > ctx.dataEnd then pure (.inl .drop)
      else do
        let hopLimit ← ctx.load8 (ip6h + 7)
        if hopLimit ≤ 1 then pure (.inl .pass)
        else do
          let params ← ipv6FibParams e ctx ip6h
          pure (.inr (hProto, params))
    else pure (.inl .pass)

/-- `xdp_router_func` after `bpf_fib_lookup` returned `rc` and left the parameters `params`:
the `switch` on `rc`. -/
def routerForward (txPort : UInt32 → XdpAction) (hProto : UInt16) (rc : ℤ)
    (params : BpfFibLookup) : Option (XdpAction × XdpMd) := do
  if rc = bpfFibLkupRetSuccess then do
    let eth := ctx.dataPtr
    let ctx ← if hProto = bpfHtons e (UInt16.ofNat ethPIp) then do
        let (_, ctx) ← ipDecreaseTtl e ctx (eth + 14)
        pure ctx
      else if hProto = bpfHtons e (UInt16.ofNat ethPIpv6) then do
        let hopLimit ← ctx.load8 (eth + 14 + 7)
        ctx.store8 (eth + 14 + 7) (hopLimit - 1)
      else pure ctx
    let ctx ← ctx.store eth params.dmac.bytes
    let ctx ← ctx.store (eth + 6) params.smac.bytes
    pure (xdpStatsRecordAction (txPort params.ifindex), ctx)
  else if rc = bpfFibLkupRetBlackhole ∨ rc = bpfFibLkupRetUnreachable ∨
      rc = bpfFibLkupRetProhibit then
    pure (xdpStatsRecordAction .drop, ctx)
  else pure (xdpStatsRecordAction .pass, ctx)

/-- `xdp_router_func`, given `bpf_fib_lookup` and the redirect through `tx_port`. -/
def xdpRouterFunc (fib : FibLookup) (txPort : UInt32 → XdpAction) :
    Option (XdpAction × XdpMd) := do
  match ← routerFibParams e ctx with
  | .inl action => pure (xdpStatsRecordAction action, ctx)
  | .inr (hProto, params) =>
    let (rc, params) := fib ctx params
    routerForward e ctx txPort hProto rc params

end Program

end XdpTutorial.Solutions
