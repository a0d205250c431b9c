import XdpTutorial.Common.ParsingHelpers

/-!
# packet-solutions: answering ICMP echo requests

`xdp_icmp_echo_func` turns an ICMP or ICMPv6 echo request into the reply in
place and sends it back out (`XDP_TX`): it swaps the Ethernet and the IP
addresses, sets the ICMP type to the reply type and patches the checksum
incrementally, `~csum16_add(csum16_add(~checksum, ~m0), m1)`, where `m0` and
`m1` are the first 16-bit word of the ICMP header before and after the type
changed.

## The model

The three `swap_src_dst_*` helpers exchange two fields through a temporary
and differ only in the fields' offsets and size: they are `swapFields`. The
program is `xdpIcmpEchoFunc`, with the code after the IP dispatch in
`icmpEchoReply` (lines 212–223, which picks the reply type) and
`icmpEchoPatch` (lines 225–237, which rewrites the packet). A header pointer
that the parsers never stored is `none`; using it is an error of the model.

## What is proved

`xdpIcmpEchoFunc_shortIhlEcho`: an IPv4 frame whose header claims `ihl = 1`
and whose fifth IP byte is `8` is answered with `XDP_TX`, since the ICMP
header is taken four bytes into the IP header.
-/

namespace XdpTutorial.Solutions

section Program

variable (e : Endian) (ctx : XdpMd)

/-- Exchange the `n`-byte fields at `p + a` and `p + b` as the `swap_src_dst_*` helpers do:
save the first, copy the second over it, write the saved bytes to the second. -/
def swapFields (p : Ptr) (a b n : ℕ) : Option XdpMd := do
  let tmp ← ctx.loadBytes (p + a) n
  let other ← ctx.loadBytes (p + b) n
  let ctx ← ctx.store (p + a) other
  ctx.store (p + b) tmp

/-- `swap_src_dst_mac`: `h_source` (bytes 6–11) and `h_dest` (bytes 0–5). -/
def swapSrcDstMac (eth : Ptr) : Option XdpMd := swapFields ctx eth 6 0 6

/-- `swap_src_dst_ipv6`: `saddr` (bytes 8–23) and `daddr` (bytes 24–39). -/
def swapSrcDstIpv6 (ipv6 : Ptr) : Option XdpMd := swapFields ctx ipv6 8 24 16

/-- `swap_src_dst_ipv4`: `saddr` (bytes 12–15) and `daddr` (bytes 16–19). -/
def swapSrcDstIpv4 (iphdr : Ptr) : Option XdpMd := swapFields ctx iphdr 12 16 4

/-- `csum16_add`: 16-bit addition with the carry added back in. -/
def csum16Add (csum addend : UInt16) : UInt16 :=
  let csum := csum + addend
  csum + (if csum < addend then 1 else 0)

/-- Lines 225–237 of `xdp_icmp_echo_func`: swap the MAC addresses, set the ICMP type to
`echoReply`, patch the checksum, and transmit. -/
def icmpEchoPatch (eth icmphdr : Ptr) (echoReply : ℕ) : Option (XdpAction × XdpMd) := do
  let ctx ← swapSrcDstMac ctx eth
  let m0 ← ctx.load16 e icmphdr
  let ctx ← ctx.store8 icmphdr (UInt8.ofNat echoReply)
  let m1 ← ctx.load16 e icmphdr
  let checksum ← ctx.load16 e (icmphdr + 2)
  let ctx ← ctx.store16 e (icmphdr + 2) (~~~(csum16Add (csum16Add (~~~checksum) (~~~m0)) m1))
  pure (xdpStatsRecordAction .tx, ctx)

/-- Lines 212–223 of `xdp_icmp_echo_func`, from the cursor `nh` after the IP header, with the
header pointers the parsers stored: parse the ICMP header, and for an echo request of the
frame's family swap the IP addresses and go on to `icmpEchoPatch`. -/
def icmpEchoReply (ethType : ℤ) (nh : Ptr) (eth iphdr ipv6hdr : Option Ptr) :
    Option (XdpAction × XdpMd) := do
  let r ← parseIcmphdr ctx nh ctx.dataEnd
  if ethType = ethPIp ∧ r.ret = icmpEcho then do
    let iph ← iphdr
    let ctx ← swapSrcDstIpv4 ctx iph
    icmpEchoPatch e ctx (← eth) (← r.hdr) icmpEchoreply
  else if ethType = ethPIpv6 ∧ r.ret = icmpv6EchoRequest then do
    let ip6h ← ipv6hdr
    let ctx ← swapSrcDstIpv6 ctx ip6h
    icmpEchoPatch e ctx (← eth) (← r.hdr) icmpv6EchoReply
  else pure (xdpStatsRecordAction .pass, ctx)

/-- `xdp_icmp_echo_func`. -/
def xdpIcmpEchoFunc : Option (XdpAction × XdpMd) := do
  let r ← parseEthhdr e ctx ctx.dataPtr ctx.dataEnd
  if r.ret = ethPIp then do
    let ri ← parseIphdr ctx r.pos ctx.dataEnd
    if ri.ret ≠ ipprotoIcmp then pure (xdpStatsRecordAction .pass, ctx)
    else icmpEchoReply e ctx r.ret ri.pos r.hdr ri.hdr none
  else if r.ret = ethPIpv6 then do
    let ri ← parseIp6hdr ctx r.pos ctx.dataEnd
    if ri.ret ≠ ipprotoIcmpv6 then pure (xdpStatsRecordAction .pass, ctx)
    else icmpEchoReply e ctx r.ret ri.pos r.hdr none ri.hdr
  else pure (xdpStatsRecordAction .pass, ctx)

end Program

/-- A 34-byte IPv4 frame whose header starts with `0x41`, claiming `ihl = 1`, has protocol ICMP
and `8` as its fifth byte (the high byte of the identification field). -/
def shortIhlEcho : XdpMd :=
  ⟨fun a => ([0, 0, 0, 0, 0, 2, 0, 0, 0, 0, 0, 1, 0x08, 0x00,
      0x41, 0, 0, 20, 8, 0, 0, 0, 64, 1, 0, 0, 10, 0, 0, 1, 10, 0, 0, 2] : List UInt8).getD a 0,
    0, 34, 0, 0, by decide⟩

/-- `xdp_icmp_echo_func` transmits this frame, although its IPv4 header claims `ihl = 1`: it
takes the ICMP header four bytes into the IPv4 header, sees type `8`, and writes the "reply"
over the identification and fragment fields. -/
theorem xdpIcmpEchoFunc_shortIhlEcho (e : Endian) :
    (xdpIcmpEchoFunc e shortIhlEcho).map Prod.fst = some .tx := by
  cases e <;> decide

end XdpTutorial.Solutions
