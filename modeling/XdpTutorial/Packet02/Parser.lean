import XdpTutorial.Common.ParsingHelpers

/-!
# Lesson packet02: the parser on the common helpers

`xdp_parser_func` of `packet02-rewriting/xdp_prog_kern.c` solves packet01's
parsing exercise with the helpers of `common/parsing_helpers.h`:
`parse_ethhdr` takes the VLAN tags, and IPv4 is handled besides IPv6. An
ICMP or ICMPv6 echo request whose sequence number is even is dropped;
everything else is passed.

## The model

The IPv6 and the IPv4 branch of the program are the same code on different
helpers and constants: parse the IP header, go to `out` unless it carries
ICMP, parse the ICMP header, go to `out` unless it is an echo request, then
look at the sequence number. That code is `xdpParserFuncEcho`.

## What is proved

The parser only reads: for every frame it returns an action and the
context it was given (`xdpParserFunc_readOnly`). It needs of the helpers
only that they are usable (`ParserUsable`), so it holds although
`parse_iphdr` may leave the cursor inside the IPv4 header.
-/

namespace XdpTutorial.Packet02

section Program

variable (e : Endian) (ctx : XdpMd)

/-- A branch of `xdp_parser_func`, from the cursor `nh` after the Ethernet header: parse the IP
header with `parseIp` and go to `out` unless it carries `proto`; parse the ICMP header with
`parseIcmp` and go to `out` unless it has type `echoRequest`; drop the packet if the echo's
sequence number (bytes 6–7) is even. The IPv6 branch is this on `parse_ip6hdr`,
`IPPROTO_ICMPV6`, `parse_icmp6hdr` and `ICMPV6_ECHO_REQUEST`, the IPv4 branch on `parse_iphdr`,
`IPPROTO_ICMP`, `parse_icmphdr` and `ICMP_ECHO`. -/
def xdpParserFuncEcho (parseIp : Ptr → ℕ → Option Parsed) (proto : ℕ)
    (parseIcmp : Ptr → ℕ → Option Parsed) (echoRequest : ℕ) (nh : Ptr) :
    Option (XdpAction × XdpMd) := do
  let r ← parseIp nh ctx.dataEnd
  if r.ret ≠ proto then pure (xdpStatsRecordAction .pass, ctx)
  else do
    let r ← parseIcmp r.pos ctx.dataEnd
    if r.ret ≠ echoRequest then pure (xdpStatsRecordAction .pass, ctx)
    else do
      let icmph ← r.hdr
      let sequence ← ctx.load16 e (icmph + 6)
      pure (xdpStatsRecordAction (if (bpfNtohs e sequence).toNat % 2 = 0 then .drop else .pass),
        ctx)

/-- `xdp_parser_func` of packet02. -/
def xdpParserFunc : Option (XdpAction × XdpMd) := do
  let r ← parseEthhdr e ctx ctx.dataPtr ctx.dataEnd
  if r.ret = ethPIpv6 then
    xdpParserFuncEcho e ctx (parseIp6hdr ctx) ipprotoIcmpv6 (parseIcmp6hdr ctx) icmpv6EchoRequest
      r.pos
  else if r.ret = ethPIp then
    xdpParserFuncEcho e ctx (parseIphdr ctx) ipprotoIcmp (parseIcmphdr ctx) icmpEcho r.pos
  else pure (xdpStatsRecordAction .pass, ctx)

end Program

section ReadOnly

variable {e : Endian} {ctx : XdpMd}

/-- A branch started at a cursor on usable helpers reads the sequence number only through the
pointer the ICMP parser stored, inside the packet, and writes nothing. -/
theorem xdpParserFuncEcho_readOnly {parseIp parseIcmp : Ptr → ℕ → Option Parsed} {ipSize : ℕ}
    (hIp : ParserUsable ctx ipSize parseIp) (hIcmp : ParserUsable ctx 8 parseIcmp)
    (proto echoRequest : ℕ) {nh : Ptr} (hnh : ctx.Cursor nh) :
    ∃ a, xdpParserFuncEcho e ctx parseIp proto parseIcmp echoRequest nh = some (a, ctx) := by
  obtain ⟨r, hr, hpos, -⟩ := hIp nh hnh
  obtain ⟨r', hr', -, hhdr⟩ := hIcmp r.pos hpos
  simp only [xdpParserFuncEcho, hr, hr', Option.bind_eq_bind, Option.some_bind]
  split_ifs with h₁ h₂
  · exact ⟨_, rfl⟩
  · exact ⟨_, rfl⟩
  · obtain ⟨hh, hfit⟩ := hhdr (by omega)
    rw [hh, Option.some_bind, XdpMd.load16_eq (hpos.canAccess (by omega)), Option.some_bind]
    exact ⟨_, rfl⟩

/-- The parser only reads: for every frame it returns an action and the context it was given. -/
theorem xdpParserFunc_readOnly (e : Endian) (ctx : XdpMd) :
    ∃ a, xdpParserFunc e ctx = some (a, ctx) := by
  obtain ⟨r, hr, hpos, -⟩ := parseEthhdr_usable (e := e) ctx.dataPtr XdpMd.cursor_dataPtr
  simp only [xdpParserFunc, hr, Option.bind_eq_bind, Option.some_bind]
  split_ifs
  · exact xdpParserFuncEcho_readOnly parseIp6hdr_usable parseIcmp6hdr_usable _ _ hpos
  · exact xdpParserFuncEcho_readOnly parseIphdr_usable parseIcmphdr_usable _ _ hpos
  · exact ⟨_, rfl⟩

end ReadOnly

end XdpTutorial.Packet02
