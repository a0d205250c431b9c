import XdpTutorial.Common.ParsingHelpers

/-!
# Lesson packet02: rewriting destination ports

`packet02-rewriting/xdp_prog_kern.c` adds `parse_tcphdr` and `parse_udphdr`,
which besides parsing decrement the header's destination port, and the
program `xdp_port_rewrite_func` that dispatches to them. Both helpers have
the same shape, `parsePortHdr`, for their header size.

The dispatch is an `if`/`else if` chain over the Ethernet protocol whose
branches end in `goto parse_tcp`, `goto parse_udp` or `goto out`; the
labels follow the chain, `parse_tcp:` first. A frame that is neither IPv4
nor IPv6 leaves the chain without a `goto` and so runs `parse_tcp:`.

## What is proved

`xdpPortRewriteFunc_arpFrame`: on a 34-byte ARP frame the program returns
`XDP_PASS` but changes the frame, decrementing the two bytes where a TCP
header after the Ethernet header would have its destination port.
-/

namespace XdpTutorial.Packet02

section Program

variable (e : Endian) (ctx : XdpMd)

/-- The shape of `parse_tcphdr` and `parse_udphdr`: if a header of `size` bytes fits, advance
past it, set its destination port (bytes 2–3) to `bpf_htons(bpf_ntohs(dest) - 1)`, hand it
back and return `0` ("no next header"). -/
def parsePortHdr (size : ℕ) (nh : Ptr) (dataEnd : ℕ) : Option (Parsed × XdpMd) :=
  if nh.addr + size > dataEnd then pure (⟨-1, nh, none⟩, ctx)
  else do
    let dest ← ctx.load16 e (nh + 2)
    let ctx ← ctx.store16 e (nh + 2) (bpfHtons e (bpfNtohs e dest - 1))
    pure (⟨0, nh + size, some nh⟩, ctx)

/-- `parse_tcphdr`: a 20-byte `struct tcphdr`. -/
def parseTcphdr (nh : Ptr) (dataEnd : ℕ) : Option (Parsed × XdpMd) := parsePortHdr e ctx 20 nh dataEnd

/-- `parse_udphdr`: an 8-byte `struct udphdr`. -/
def parseUdphdr (nh : Ptr) (dataEnd : ℕ) : Option (Parsed × XdpMd) := parsePortHdr e ctx 8 nh dataEnd

/-- The label `parse_tcp:` of `xdp_port_rewrite_func`, reached with the cursor at `nh`. -/
def xdpPortRewriteFuncTcp (nh : Ptr) : Option (XdpAction × XdpMd) := do
  let (_, ctx) ← parseTcphdr e ctx nh ctx.dataEnd
  pure (.pass, ctx)

/-- The label `parse_udp:`, reached with the cursor at `nh`. -/
def xdpPortRewriteFuncUdp (nh : Ptr) : Option (XdpAction × XdpMd) := do
  let (_, ctx) ← parseUdphdr e ctx nh ctx.dataEnd
  pure (.pass, ctx)

/-- The `switch` on the IP protocol `ipType`, with the cursor at `nh` after the IP header. -/
def xdpPortRewriteFuncL4 (ipType : ℤ) (nh : Ptr) : Option (XdpAction × XdpMd) :=
  if ipType = ipprotoTcp then xdpPortRewriteFuncTcp e ctx nh
  else if ipType = ipprotoUdp then xdpPortRewriteFuncUdp e ctx nh
  else pure (.pass, ctx)

/-- `xdp_port_rewrite_func`. -/
def xdpPortRewriteFunc : Option (XdpAction × XdpMd) := do
  let r ← parseEthhdr e ctx ctx.dataPtr ctx.dataEnd
  if r.ret = ethPIpv6 then do
    let r ← parseIp6hdr ctx r.pos ctx.dataEnd
    xdpPortRewriteFuncL4 e ctx r.ret r.pos
  else if r.ret = ethPIp then do
    let r ← parseIphdr ctx r.pos ctx.dataEnd
    xdpPortRewriteFuncL4 e ctx r.ret r.pos
  else xdpPortRewriteFuncTcp e ctx r.pos

end Program

/-- A 34-byte ARP request: an Ethernet header with type `0x0806` and 20 bytes of ARP. -/
def arpFrame : XdpMd :=
  ⟨fun a => ([0xFF, 0xFF, 0xFF, 0xFF, 0xFF, 0xFF, 0, 0, 0, 0, 0, 1, 0x08, 0x06,
      0, 1, 0x08, 0x00, 6, 4, 0, 1, 0, 0, 0, 0, 0, 1, 10, 0, 0, 1, 0, 0] : List UInt8).getD a 0,
    0, 34, 0, 0, by decide⟩

/-- The port rewriter passes the ARP frame but changes it: the ARP protocol type `0x0800`, where
a TCP header would have its destination port, becomes `0x07FF`. -/
theorem xdpPortRewriteFunc_arpFrame (e : Endian) :
    (xdpPortRewriteFunc e arpFrame).map Prod.fst = some .pass ∧
      (xdpPortRewriteFunc e arpFrame).map (·.2.frame) =
        some (arpFrame.frame.set 16 0x07 |>.set 17 0xFF) := by
  cases e <;> decide

end XdpTutorial.Packet02
