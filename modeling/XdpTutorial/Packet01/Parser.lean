import XdpTutorial.Common.ParsingHelpers

/-!
# Lesson packet01: the first parser

`packet01-parsing/xdp_prog_kern.c` has its own, simpler helpers:
`parse_ethhdr` without VLAN tags, `parse_vlanhdr` for one tag,
`parse_ip6hdr` and `parse_icmp6hdr`. All four are fixed-size helpers, so each
is `parseHdr` applied to its size and the value it returns. Two of the return
values are unusual: `parse_ip6hdr` returns `bpf_ntohs` of the one-byte
`nexthdr`, which on a little-endian host is `nexthdr << 8` (hence the
comparison with `0x3A00` for ICMPv6), and `parse_icmp6hdr` returns `0`.

`xdp_parser_func` accepts an IPv6 frame, or a frame with one 802.1Q/802.1ad
tag, parses an IPv6 and an ICMPv6 header, and drops the packet when the
ICMPv6 sequence number is odd.

## What is proved

The program never looks at the protocol a VLAN tag encapsulates: after a tag
it parses an IPv6 header whatever that protocol is. `xdpParserFunc_vlanIpv4Frame`
evaluates it on a tagged IPv4 frame whose bytes happen to look like an
ICMPv6 echo with an odd sequence number: the program drops it.
-/

namespace XdpTutorial.Packet01

section Program

variable (e : Endian) (ctx : XdpMd)

/-- `parse_ethhdr` of packet01: the 14-byte Ethernet header, returning `bpf_ntohs(h_proto)`. -/
def parseEthhdr (nh : Ptr) (dataEnd : ℕ) : Option Parsed :=
  parseHdr 14 (fun eth => (fun v => ((bpfNtohs e v).toNat : ℤ)) <$> ctx.load16 e (eth + 12))
    nh dataEnd

/-- `parse_vlanhdr`: a 4-byte tag, returning `bpf_ntohs(h_vlan_encapsulated_proto)`. -/
def parseVlanhdr (nh : Ptr) (dataEnd : ℕ) : Option Parsed :=
  parseHdr 4 (fun vlan => (fun v => ((bpfNtohs e v).toNat : ℤ)) <$> ctx.load16 e (vlan + 2))
    nh dataEnd

/-- `parse_ip6hdr` of packet01: the 40-byte header, returning `bpf_ntohs(ip->nexthdr)`, the
byte swap of the one-byte `nexthdr` widened to 16 bits. -/
def parseIp6hdr (nh : Ptr) (dataEnd : ℕ) : Option Parsed :=
  parseHdr 40
    (fun ip => (fun v : UInt8 => ((bpfNtohs e (UInt16.ofNat v.toNat)).toNat : ℤ)) <$>
      ctx.load8 (ip + 6))
    nh dataEnd

/-- `parse_icmp6hdr` of packet01: the 8-byte header, returning `0` ("there is no next_header in
icmp"). -/
def parseIcmp6hdr (nh : Ptr) (dataEnd : ℕ) : Option Parsed :=
  parseHdr 8 (fun _ => pure 0) nh dataEnd

/-- `xdp_parser_func` after the `switch`, from the cursor `nh`: lines 141–152. -/
def xdpParserFuncIp6 (nh : Ptr) : Option (XdpAction × XdpMd) := do
  let r ← parseIp6hdr e ctx nh ctx.dataEnd
  if r.ret ≠ 0x3A00 then pure (xdpStatsRecordAction .pass, ctx)
  else do
    let r ← parseIcmp6hdr r.pos ctx.dataEnd
    if r.ret ≠ 0 then pure (xdpStatsRecordAction .pass, ctx)
    else do
      let icmp6 ← r.hdr
      let sequence ← ctx.load16 e (icmp6 + 6)
      pure (xdpStatsRecordAction (if (bpfNtohs e sequence).toNat % 2 = 1 then .drop else .pass),
        ctx)

/-- `xdp_parser_func` of packet01: an IPv6 frame goes on to the IPv6 header; an 802.1Q or
802.1ad frame first has its tag parsed; every other frame is passed. -/
def xdpParserFunc : Option (XdpAction × XdpMd) := do
  let r ← parseEthhdr e ctx ctx.dataPtr ctx.dataEnd
  if r.ret = ethPIpv6 then xdpParserFuncIp6 e ctx r.pos
  else if r.ret = ethP8021Q ∨ r.ret = ethP8021AD then do
    let r ← parseVlanhdr e ctx r.pos ctx.dataEnd
    xdpParserFuncIp6 e ctx r.pos
  else pure (xdpStatsRecordAction .pass, ctx)

end Program

section ReadOnly

variable {e : Endian} {ctx : XdpMd}

theorem parseEthhdr_usable : ParserUsable ctx 14 (parseEthhdr e ctx) :=
  parseHdr_usable fun hp h =>
    ⟨_, Int.ofNat_nonneg _, by rw [XdpMd.load16_eq (hp.canAccess (by omega))]; rfl⟩

theorem parseVlanhdr_usable : ParserUsable ctx 4 (parseVlanhdr e ctx) :=
  parseHdr_usable fun hp h =>
    ⟨_, Int.ofNat_nonneg _, by rw [XdpMd.load16_eq (hp.canAccess (by omega))]; rfl⟩

theorem parseIp6hdr_usable : ParserUsable ctx 40 (parseIp6hdr e ctx) :=
  parseHdr_usable fun hp h =>
    ⟨_, Int.ofNat_nonneg _, by rw [XdpMd.load8_eq (hp.canAccess (by omega))]; rfl⟩

theorem parseIcmp6hdr_usable : ParserUsable ctx 8 parseIcmp6hdr :=
  parseHdr_usable fun _ _ => ⟨0, Int.le_refl 0, rfl⟩

/-- From a cursor, lines 141–152 read the sequence number only through the pointer
`parse_icmp6hdr` stored, inside the packet, and write nothing. -/
theorem xdpParserFuncIp6_readOnly {nh : Ptr} (hnh : ctx.Cursor nh) :
    ∃ a, xdpParserFuncIp6 e ctx nh = some (a, ctx) := by
  obtain ⟨r, hr, hpos, -⟩ := parseIp6hdr_usable (e := e) nh hnh
  obtain ⟨r', hr', -, hhdr⟩ := parseIcmp6hdr_usable r.pos hpos
  simp only [xdpParserFuncIp6, hr, hr', Option.bind_eq_bind, Option.some_bind]
  split_ifs with h₁ h₂
  · exact ⟨_, rfl⟩
  · exact ⟨_, rfl⟩
  · obtain ⟨hh, hfit⟩ := hhdr (by omega)
    rw [hh, Option.some_bind, XdpMd.load16_eq (hpos.canAccess (by omega)), Option.some_bind]
    exact ⟨_, rfl⟩

/-- The parser only reads: for every frame it returns an action and the context it was given. -/
theorem xdpParserFunc_readOnly (e : Endian) (ctx : XdpMd) :
    ∃ a, xdpParserFunc e ctx = some (a, ctx) := by
  obtain ⟨r, hr, hpos, -⟩ := parseEthhdr_usable (e := e) ctx.dataPtr XdpMd.cursor_dataPtr
  simp only [xdpParserFunc, hr, Option.bind_eq_bind, Option.some_bind]
  split_ifs
  · exact xdpParserFuncIp6_readOnly hpos
  · obtain ⟨r', hr', hpos', -⟩ := parseVlanhdr_usable (e := e) r.pos hpos
    rw [hr', Option.some_bind]
    exact xdpParserFuncIp6_readOnly hpos'
  · exact ⟨_, rfl⟩

end ReadOnly

/-- A 66-byte 802.1Q frame whose tag encapsulates IPv4 (`0x0800`). The 40 bytes after the tag
have `58` where an IPv6 header has `nexthdr`, and the 8 bytes after those end with the odd
sequence number `1`. -/
def vlanIpv4Frame : XdpMd :=
  ⟨fun a => (([0, 0, 0, 0, 0, 1, 0, 0, 0, 0, 0, 2, 0x81, 0x00, 0, 7, 0x08, 0x00,
      0x45, 0, 0, 48, 0, 0, 58, 0] : List UInt8) ++ List.replicate 32 0 ++
      [128, 0, 0, 0, 0, 0, 0, 1]).getD a 0,
    0, 66, 0, 0, by decide⟩

/-- On a little-endian host, packet01's parser drops this IPv4-in-VLAN frame: it parses the
bytes after the tag as an IPv6 header whatever the tag encapsulates. -/
theorem xdpParserFunc_vlanIpv4Frame :
    be16 (vlanIpv4Frame.mem 16) (vlanIpv4Frame.mem 17) = 0x0800 ∧
      (xdpParserFunc .little vlanIpv4Frame).map Prod.fst = some .drop := by
  decide

end XdpTutorial.Packet01
