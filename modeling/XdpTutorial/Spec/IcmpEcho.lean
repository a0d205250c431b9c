import XdpTutorial.Spec.Checksum

/-!
# The checksum of the echo reply

`xdp_icmp_echo_func` answers an ICMP or ICMPv6 echo request in place. This
module follows a frame it answers with `XDP_TX` through the program and says
what the reply's ICMP message is, then what its checksum is.

## What is proved

`xdpIcmpEchoFunc_tx_ipv4` and `xdpIcmpEchoFunc_tx_ipv6` invert the program:
an answered frame was parsed down to an echo request whose ICMP header sits
right after the IP header, and the reply is the request with its addresses
swapped and `icmpEchoPatch` applied. `icmpEchoPatch_message` says what the
patch does to the ICMP message: it is `echoReplyMessage`.
`xdpIcmpEchoFunc_checksum` puts these together with the checksum arithmetic
of `XdpTutorial.Spec.Checksum`.
-/

namespace XdpTutorial.Solutions

/-- The ICMP message of `L` bytes at offset `o` of a frame. -/
def icmpMessage (f : List UInt8) (o L : ℕ) : List UInt8 := (f.drop o).take L

/-- The length in bytes, `4 * ihl`, of the IPv4 header at offset `ip` of a frame. -/
def ipv4HeaderLength (f : List UInt8) (ip : ℕ) : ℕ := (f.getD ip 0).toNat % 16 * 4

/-- The IPv6 pseudo-header of an ICMPv6 message of `L` bytes, for the IPv6 header at offset `ip`
of a frame: the source and destination addresses, the length in 32 bits, three zero bytes and
the next header. -/
def icmpv6PseudoHeader (f : List UInt8) (ip L : ℕ) : List UInt8 :=
  icmpMessage f (ip + 8) 32 ++ [UInt8.ofNat (L / 0x1000000), UInt8.ofNat (L / 0x10000),
    UInt8.ofNat (L / 0x100), UInt8.ofNat L, 0, 0, 0, UInt8.ofNat ipprotoIcmpv6]

/-- The ICMP message of `L` bytes at `o` of the reply `g` carries a correct checksum, with the
pseudo-header `p'`, whenever that of the request `f` did, with the pseudo-header `p`. -/
def KeepsChecksum (p p' f g : List UInt8) (o L : ℕ) : Prop :=
  o + L ≤ f.length → ChecksumCorrect p (icmpMessage f o L) → ChecksumCorrect p' (icmpMessage g o L)

/-- `KeepsChecksum` without pseudo-headers where the words of the reply's message but its
checksum are not all zero; where they are, the reply's checksum field is `0x0000`. -/
def KeepsChecksumUnlessZero (f g : List UInt8) (o L : ℕ) : Prop :=
  o + L ≤ f.length → ChecksumCorrect [] (icmpMessage f o L) →
    (wordSum (clearChecksum (icmpMessage g o L)) ≠ 0 →
        ChecksumCorrect [] (icmpMessage g o L)) ∧
      (wordSum (clearChecksum (icmpMessage g o L)) = 0 →
        checksumField (icmpMessage g o L) = 0)

instance (p p' f g : List UInt8) (o L : ℕ) : Decidable (KeepsChecksum p p' f g o L) :=
  inferInstanceAs (Decidable (_ → _ → _))

instance (f g : List UInt8) (o L : ℕ) : Decidable (KeepsChecksumUnlessZero f g o L) :=
  inferInstanceAs (Decidable (_ → _ → _ ∧ _))

theorem icmpMessage_frame {c : XdpMd} {o L : ℕ} (h : c.data + o + L ≤ c.dataEnd) :
    icmpMessage c.frame o L = readMem c.mem (c.data + o) L :=
  c.slice_frame h

section Trace

variable {e : Endian} {c c' : XdpMd}

/-- What a swap of two fields that succeeded wrote. -/
theorem swapFields_some {p : Ptr} {a b n : ℕ} (h : swapFields c p a b n = some c') :
    c' = (c.write (p.addr + a) (readMem c.mem (p.addr + b) n)).write (p.addr + b)
      (readMem c.mem (p.addr + a) n) := by
  simp only [swapFields, Option.bind_eq_bind, Option.bind_eq_some] at h
  obtain ⟨tmp, h₁, other, h₂, c₁, h₃, h₄⟩ := h
  rw [XdpMd.eq_of_store h₄, XdpMd.eq_of_store h₃, XdpMd.eq_of_loadBytes h₁,
    XdpMd.eq_of_loadBytes h₂]
  rfl

/-- A swap that succeeded keeps the packet's bounds. -/
theorem swapFields_bounds {p : Ptr} {a b n : ℕ} (h : swapFields c p a b n = some c') :
    c'.data = c.data ∧ c'.dataEnd = c.dataEnd := by
  rw [swapFields_some h]; exact ⟨rfl, rfl⟩

/-- A swap changes no byte past both fields. -/
theorem swapFields_readMem_of_ge {p : Ptr} {a b n : ℕ} (h : swapFields c p a b n = some c')
    {x L : ℕ} (ha : p.addr + a + n ≤ x) (hb : p.addr + b + n ≤ x) :
    readMem c'.mem x L = readMem c.mem x L := by
  rw [swapFields_some h, XdpMd.write_mem, XdpMd.write_mem,
    readMem_writeMem_of_ge (by simp only [length_readMem]; omega),
    readMem_writeMem_of_ge (by simp only [length_readMem]; omega)]

/-- Two adjacent fields swapped: their bytes read the second field, then the first. -/
theorem swapFields_adjacent {p : Ptr} {a n : ℕ} (h : swapFields c p a (a + n) n = some c') :
    readMem c'.mem (p.addr + a) (n + n) =
      readMem c.mem (p.addr + a + n) n ++ readMem c.mem (p.addr + a) n := by
  rw [swapFields_some h, XdpMd.write_mem, XdpMd.write_mem, readMem_add,
    readMem_writeMem_of_le (by omega), readMem_writeMem_self (by simp), ← Nat.add_assoc,
    readMem_writeMem_self (by simp), List.take_of_length_le (by simp),
    List.take_of_length_le (by simp)]

/-- What `icmpEchoPatch` does to the ICMP message at `q`, after swapping the MAC addresses; it
writes nothing before `q` but those. -/
theorem icmpEchoPatch_message {eth q : Ptr} {t : ℕ} {a : XdpAction} {L : ℕ}
    (h : icmpEchoPatch e c eth q t = some (a, c')) (hL : 4 ≤ L) :
    a = .tx ∧ ∃ c₂, swapSrcDstMac c eth = some c₂ ∧ c'.data = c.data ∧ c'.dataEnd = c.dataEnd ∧
      readMem c'.mem q.addr L = echoReplyMessage e (UInt8.ofNat t) (readMem c₂.mem q.addr L) ∧
      ∀ {x n : ℕ}, x + n ≤ q.addr → readMem c'.mem x n = readMem c₂.mem x n := by
  simp only [icmpEchoPatch, Option.bind_eq_bind, Option.bind_eq_some] at h
  obtain ⟨c₂, h₁, m0, h₂, c₃, h₃, m1, h₄, ck, h₅, c₄, h₆, h₇⟩ := h
  obtain rfl := XdpMd.eq_of_load16 h₂
  obtain rfl := XdpMd.eq_of_store8 h₃
  obtain rfl := XdpMd.eq_of_load16 h₄
  obtain rfl := XdpMd.eq_of_load16 h₅
  obtain rfl := XdpMd.eq_of_store16 h₆
  simp only [Option.pure_def, Option.some.injEq, Prod.mk.injEq, xdpStatsRecordAction] at h₇
  obtain ⟨rfl, rfl⟩ := h₇
  have hc₂ := swapFields_some h₁
  refine ⟨rfl, c₂, h₁, by rw [hc₂]; rfl, by rw [hc₂]; rfl, ?_, fun hx => ?_⟩
  · simp only [XdpMd.write_mem, Ptr.add_addr]
    rw [readMem_writeMem (by simp; omega), readMem_writeMem_head (by simp; omega),
      writeMem_of_le (by simp), writeMem_of_le (by simp), writeMem_self (by simp),
      writeMem_of_le (by simp)]
    simp only [echoReplyMessage, getD_readMem (by omega : 0 < L), getD_readMem (by omega : 1 < L),
      getD_readMem (by omega : 2 < L), getD_readMem (by omega : 3 < L)]
    rfl
  · simp only [XdpMd.write_mem, Ptr.add_addr]
    rw [readMem_writeMem_of_le (by omega), readMem_writeMem_of_le hx]

theorem parseHdr_hdr {size : ℕ} {field : Ptr → Option ℤ} {nh : Ptr} {dataEnd : ℕ} {r : Parsed}
    (h : parseHdr size field nh dataEnd = some r) : r.hdr = none ∨ r.hdr = some nh := by
  unfold parseHdr at h
  split_ifs at h
  · cases h; exact .inl rfl
  · simp only [Option.bind_eq_bind, Option.bind_eq_some] at h
    obtain ⟨v, -, h⟩ := h
    cases h; exact .inr rfl

/-- `icmpEchoReply` answers only an echo request of the frame's family, after swapping the IP
addresses through the header pointer the parsers stored, and patches the header at the cursor. -/
theorem icmpEchoReply_tx {ethType : ℤ} {q : Ptr} {eth iphdr ipv6hdr : Option Ptr}
    (h : icmpEchoReply e c ethType q eth iphdr ipv6hdr = some (.tx, c')) :
    (ethType = ethPIp ∧ ∃ p c₁ eth', iphdr = some p ∧ eth = some eth' ∧
        swapSrcDstIpv4 c p = some c₁ ∧ icmpEchoPatch e c₁ eth' q icmpEchoreply = some (.tx, c')) ∨
      (ethType = ethPIpv6 ∧ ∃ p c₁ eth', ipv6hdr = some p ∧ eth = some eth' ∧
        swapSrcDstIpv6 c p = some c₁ ∧ icmpEchoPatch e c₁ eth' q icmpv6EchoReply = some (.tx, c')) := by
  simp only [icmpEchoReply, Option.bind_eq_bind, Option.bind_eq_some] at h
  obtain ⟨r, hr, h⟩ := h
  have hh := parseHdr_hdr hr
  split_ifs at h with h₁ h₂
  · simp only [Option.bind_eq_some] at h
    obtain ⟨p, hp, c₁, hc₁, eth', he, q', hq', h⟩ := h
    rcases hh with hh | hh <;> rw [hh] at hq' <;> cases hq'
    exact .inl ⟨h₁.1, p, c₁, eth', hp, he, hc₁, h⟩
  · simp only [Option.bind_eq_some] at h
    obtain ⟨p, hp, c₁, hc₁, eth', he, q', hq', h⟩ := h
    rcases hh with hh | hh <;> rw [hh] at hq' <;> cases hq'
    exact .inr ⟨h₂.1, p, c₁, eth', hp, he, hc₁, h⟩
  · simp [xdpStatsRecordAction] at h

/-- A frame answered with `XDP_TX` whose Ethernet header gave IPv4: its IPv4 header fits after
the Ethernet header and its VLAN tags, and the reply is the request with the IPv4 addresses
swapped, then patched at the ICMP header, `4 * ihl` bytes on. -/
theorem xdpIcmpEchoFunc_tx_ipv4 {r : Parsed} (htx : xdpIcmpEchoFunc e c = some (.tx, c'))
    (hr : parseEthhdr e c c.dataPtr c.dataEnd = some r) (h4 : r.ret = ethPIp) :
    r.pos.gen = c.gen ∧ c.data + 14 ≤ r.pos.addr ∧ r.pos.addr + 20 ≤ c.dataEnd ∧
      ∃ c₁, swapSrcDstIpv4 c r.pos = some c₁ ∧
        icmpEchoPatch e c₁ c.dataPtr (r.pos + (c.mem r.pos.addr).toNat % 16 * 4) icmpEchoreply =
          some (.tx, c') := by
  obtain ⟨r', hr', hd⟩ := parseEthhdr_disciplined (e := e) (XdpMd.cursor_dataPtr (c := c))
  obtain rfl : r' = r := Option.some.inj (hr'.symm.trans hr)
  rcases hd with ⟨h₁, -, -⟩ | ⟨-, hhdr, hgen, h14, hend⟩
  · rw [h₁] at h4; simp [ethPIp] at h4
  have hp : c.Cursor r'.pos := ⟨hgen, by simp at h14; omega, hend⟩
  simp only [xdpIcmpEchoFunc, hr, h4, Option.bind_eq_bind, Option.some_bind, if_true,
    parseIphdr_eq hp] at htx
  by_cases hA : c.dataEnd < r'.pos.addr + 20 ∨
      c.dataEnd < r'.pos.addr + (c.mem r'.pos.addr).toNat % 16 * 4
  · rw [if_pos hA] at htx; simp [xdpStatsRecordAction, ipprotoIcmp] at htx
  rw [if_neg hA] at htx
  split_ifs at htx
  · simp [xdpStatsRecordAction] at htx
  rcases icmpEchoReply_tx htx with ⟨-, p, c₁, eth', hp', he, hc₁, h⟩ | ⟨h6, -⟩
  · cases hp'; rw [hhdr] at he; cases he
    exact ⟨hgen, by simpa using h14, by omega, c₁, hc₁, h⟩
  · simp [ethPIp, ethPIpv6] at h6

/-- A frame answered with `XDP_TX` whose Ethernet header gave IPv6: its IPv6 header fits after
the Ethernet header and its VLAN tags, and the reply is the request with the IPv6 addresses
swapped, then patched at the ICMPv6 header right after the IPv6 header. -/
theorem xdpIcmpEchoFunc_tx_ipv6 {r : Parsed} (htx : xdpIcmpEchoFunc e c = some (.tx, c'))
    (hr : parseEthhdr e c c.dataPtr c.dataEnd = some r) (h6 : r.ret = ethPIpv6) :
    r.pos.gen = c.gen ∧ c.data + 14 ≤ r.pos.addr ∧ r.pos.addr + 40 ≤ c.dataEnd ∧
      ∃ c₁, swapSrcDstIpv6 c r.pos = some c₁ ∧
        icmpEchoPatch e c₁ c.dataPtr (r.pos + 40) icmpv6EchoReply = some (.tx, c') := by
  obtain ⟨r', hr', hd⟩ := parseEthhdr_disciplined (e := e) (XdpMd.cursor_dataPtr (c := c))
  obtain rfl : r' = r := Option.some.inj (hr'.symm.trans hr)
  rcases hd with ⟨h₁, -, -⟩ | ⟨-, hhdr, hgen, h14, hend⟩
  · rw [h₁] at h6; simp [ethPIpv6] at h6
  have hp : c.Cursor r'.pos := ⟨hgen, by simp at h14; omega, hend⟩
  have hP : parseIp6hdr c r'.pos c.dataEnd = some (if c.dataEnd < r'.pos.addr + 40 then
      ⟨-1, r'.pos, none⟩ else ⟨(c.mem (r'.pos.addr + 6)).toNat, r'.pos + 40, some r'.pos⟩) :=
    parseHdr_eq (load8_toNat_of_fits hp rfl (by decide))
  simp only [xdpIcmpEchoFunc, hr, h6, Option.bind_eq_bind, Option.some_bind, if_true,
    show ¬((ethPIpv6 : ℤ) = ethPIp) by decide, if_false, hP] at htx
  by_cases hA : c.dataEnd < r'.pos.addr + 40
  · rw [if_pos hA] at htx; simp [xdpStatsRecordAction, ipprotoIcmpv6] at htx
  rw [if_neg hA] at htx
  split_ifs at htx
  · simp [xdpStatsRecordAction] at htx
  rcases icmpEchoReply_tx htx with ⟨h4, -⟩ | ⟨-, p, c₁, eth', hp', he, hc₁, h⟩
  · simp [ethPIp, ethPIpv6] at h4
  · cases hp'; rw [hhdr] at he; cases he
    exact ⟨hgen, by simpa using h14, by omega, c₁, hc₁, h⟩

end Trace

/-- The words of an ICMPv6 pseudo-header, and of anything after it, never sum to zero: its next
header is `58`. -/
theorem wordSum_pseudoHeader_pos {a : List UInt8} (ha : a.length % 2 = 0) (L : ℕ)
    (rest : List UInt8) :
    0 < wordSum (a ++ [UInt8.ofNat (L / 0x1000000), UInt8.ofNat (L / 0x10000),
      UInt8.ofNat (L / 0x100), UInt8.ofNat L, 0, 0, 0, UInt8.ofNat ipprotoIcmpv6] ++ rest) := by
  have h58 : (UInt8.ofNat ipprotoIcmpv6).toNat = 58 := rfl
  rw [List.append_assoc, wordSum_append ha]
  simp only [List.cons_append, List.nil_append, wordSum]
  omega

/-- **The echo reply's checksum.** Let `xdp_icmp_echo_func` answer a frame with `XDP_TX`, having
found the IP header `ip` bytes into it, after the Ethernet header and its VLAN tags. Take the ICMP
message of `L ≥ 4` bytes after a complete IPv4 header (`ihl ≥ 5`): if the request carried its
RFC 1071 checksum, the reply carries the one computed from scratch, unless all the reply's words
but the checksum are zero, where the program writes `0x0000` and not `0xFFFF`. For ICMPv6, with
the pseudo-headers of the request and of the reply, it always does. -/
theorem xdpIcmpEchoFunc_checksum {e : Endian} {ctx c' : XdpMd} {r : Parsed}
    (htx : xdpIcmpEchoFunc e ctx = some (.tx, c'))
    (hr : parseEthhdr e ctx ctx.dataPtr ctx.dataEnd = some r) {ip : ℕ}
    (hip : r.pos.addr = ctx.data + ip) {L : ℕ} (hL : 4 ≤ L) :
    (r.ret = ethPIp → 20 ≤ ipv4HeaderLength ctx.frame ip →
      KeepsChecksumUnlessZero ctx.frame c'.frame (ip + ipv4HeaderLength ctx.frame ip) L) ∧
    (r.ret = ethPIpv6 → KeepsChecksum (icmpv6PseudoHeader ctx.frame ip L)
      (icmpv6PseudoHeader c'.frame ip L) ctx.frame c'.frame (ip + 40) L) := by
  have hlen := XdpMd.length_frame (c := ctx)
  refine ⟨fun h4 hhl hfit hc => ?_, fun h6 hfit hc => ?_⟩
  · obtain ⟨-, h14, h20, c₁, hc₁, hpatch⟩ := xdpIcmpEchoFunc_tx_ipv4 htx hr h4
    obtain ⟨-, c₂, hc₂, hd, he, hmsg, -⟩ := icmpEchoPatch_message hpatch hL
    obtain ⟨hd₁, he₁⟩ := swapFields_bounds hc₁
    have hhl' : ipv4HeaderLength ctx.frame ip = (ctx.mem r.pos.addr).toNat % 16 * 4 := by
      rw [ipv4HeaderLength, XdpMd.getD_frame (by omega), hip]
    rw [hhl'] at hhl hfit hc ⊢
    have hq : (r.pos + (ctx.mem r.pos.addr).toNat % 16 * 4).addr =
        ctx.data + (ip + (ctx.mem r.pos.addr).toNat % 16 * 4) := by
      simp only [Ptr.add_addr, hip]; omega
    rw [icmpMessage_frame (by omega)] at hc
    rw [icmpMessage_frame (by omega), hd, hd₁, ← hq, hmsg, hq,
      swapFields_readMem_of_ge hc₂ (by simp only [XdpMd.dataPtr_addr]; omega)
        (by simp only [XdpMd.dataPtr_addr]; omega),
      swapFields_readMem_of_ge hc₁ (by omega) (by omega)]
    have := echoReplyMessage_checksum e (UInt8.ofNat icmpEchoreply) [] [] (by simp; omega) rfl rfl
      rfl hc
    rwa [List.nil_append] at this
  · obtain ⟨-, h14, h40, c₁, hc₁, hpatch⟩ := xdpIcmpEchoFunc_tx_ipv6 htx hr h6
    obtain ⟨-, c₂, hc₂, hd, he, hmsg, hbefore⟩ := icmpEchoPatch_message hpatch hL
    obtain ⟨hd₁, he₁⟩ := swapFields_bounds hc₁
    have hq : (r.pos + 40).addr = ctx.data + (ip + 40) := by simp only [Ptr.add_addr, hip]; omega
    have ha : ctx.data + (ip + 8) = r.pos.addr + 8 := by omega
    -- the reply's addresses are the request's, swapped
    have hA : readMem c'.mem (r.pos.addr + 8) (16 + 16) =
        readMem ctx.mem (r.pos.addr + 8 + 16) 16 ++ readMem ctx.mem (r.pos.addr + 8) 16 := by
      rw [hbefore (by simp only [Ptr.add_addr]; omega),
        swapFields_readMem_of_ge hc₂ (by simp only [XdpMd.dataPtr_addr]; omega)
        (by simp only [XdpMd.dataPtr_addr]; omega), swapFields_adjacent hc₁]
    rw [icmpMessage_frame (by omega)] at hc
    unfold icmpv6PseudoHeader at hc ⊢
    rw [icmpMessage_frame (by omega), ha, show 32 = 16 + 16 from rfl, readMem_add] at hc
    rw [icmpMessage_frame (by omega), icmpMessage_frame (by omega), hd, hd₁, ha,
      show 32 = 16 + 16 from rfl, hA, ← hq, hmsg, hq,
      swapFields_readMem_of_ge hc₂ (by simp only [XdpMd.dataPtr_addr]; omega)
        (by simp only [XdpMd.dataPtr_addr]; omega),
      swapFields_readMem_of_ge hc₁ (by omega) (by omega)]
    refine (echoReplyMessage_checksum e _ _ _ ?_ ?_ ?_ ?_ hc).1 fun h => ?_
    · simp only [length_readMem]; omega
    · simp
    · simp
    · simp only [wordSum_append, List.length_append, length_readMem]; omega
    · exact Nat.ne_of_gt (wordSum_pseudoHeader_pos (by simp only [List.length_append, length_readMem])
        L _) h

/-- A 42-byte echo request over IPv4, identifier `1` and sequence number `7`, with its correct
checksum `0xF7F7`. -/
def pingEcho : XdpMd :=
  ⟨fun a => ([0, 0, 0, 0, 0, 2, 0, 0, 0, 0, 0, 1, 0x08, 0x00,
      0x45, 0, 0, 28, 0, 0, 0, 0, 64, 1, 0, 0, 10, 0, 0, 1, 10, 0, 0, 2,
      8, 0, 0xF7, 0xF7, 0, 1, 0, 7] : List UInt8).getD a 0, 0, 42, 0, 0, by decide⟩

/-- A 62-byte echo request over IPv6, from `fe80::1` to `fe80::2`, identifier `1` and sequence
number `7`, with its correct checksum `0x82B0`. -/
def ping6Echo : XdpMd :=
  ⟨fun a => ([0, 0, 0, 0, 0, 2, 0, 0, 0, 0, 0, 1, 0x86, 0xDD,
      0x60, 0, 0, 0, 0, 8, 58, 64,
      0xFE, 0x80, 0, 0, 0, 0, 0, 0, 0, 0, 0, 0, 0, 0, 0, 1,
      0xFE, 0x80, 0, 0, 0, 0, 0, 0, 0, 0, 0, 0, 0, 0, 0, 2,
      128, 0, 0x82, 0xB0, 0, 1, 0, 7] : List UInt8).getD a 0, 0, 62, 0, 0, by decide⟩

theorem xdpIcmpEchoFunc_checksum_pingEcho_ping6Echo :
    (∃ c', xdpIcmpEchoFunc .big pingEcho = some (.tx, c') ∧
      ChecksumCorrect [] (icmpMessage c'.frame 34 8)) ∧
    ∃ c', xdpIcmpEchoFunc .big ping6Echo = some (.tx, c') ∧
      ChecksumCorrect (icmpv6PseudoHeader c'.frame 14 8) (icmpMessage c'.frame 54 8) :=
  have hc6 : ChecksumCorrect (icmpv6PseudoHeader ping6Echo.frame 14 8)
      (icmpMessage ping6Echo.frame 54 8) := rfl
  ⟨⟨_, rfl, ((@xdpIcmpEchoFunc_checksum .big pingEcho _ ⟨ethPIp, pingEcho.dataPtr + 14,
      some pingEcho.dataPtr⟩ rfl (by decide) 14 rfl 8 (by decide)).1 rfl (by decide) (by decide)
      (by decide)).1 (by decide)⟩,
    ⟨_, rfl, (@xdpIcmpEchoFunc_checksum .big ping6Echo _ ⟨ethPIpv6, ping6Echo.dataPtr + 14,
      some ping6Echo.dataPtr⟩ rfl (by decide) 14 rfl 8 (by decide)).2 rfl (by decide) hc6⟩⟩

/-- An echo request over IPv4 whose identifier, sequence number and data are zero, with its
correct checksum `0xF7FF`. -/
def zeroEcho : XdpMd :=
  ⟨fun a => ([0, 0, 0, 0, 0, 2, 0, 0, 0, 0, 0, 1, 0x08, 0x00,
      0x45, 0, 0, 28, 0, 0, 0, 0, 64, 1, 0, 0, 10, 0, 0, 1, 10, 0, 0, 2,
      8, 0, 0xF7, 0xFF, 0, 0, 0, 0] : List UInt8).getD a 0, 0, 42, 0, 0, by decide⟩

/-- On a little-endian host, `xdp_icmp_echo_func` answers it with a reply whose words are all
zero and whose checksum field it sets to `0x0000`; computed from scratch, the checksum is
`0xFFFF`. -/
theorem xdpIcmpEchoFunc_zeroEcho :
    parseEthhdr .little zeroEcho zeroEcho.dataPtr zeroEcho.dataEnd =
        some ⟨ethPIp, zeroEcho.dataPtr + 14, some zeroEcho.dataPtr⟩ ∧
      ipv4HeaderLength zeroEcho.frame 14 = 20 ∧
      ∃ c', xdpIcmpEchoFunc .little zeroEcho = some (.tx, c') ∧
        ¬KeepsChecksum [] [] zeroEcho.frame c'.frame 34 8 ∧
        checksumField (icmpMessage c'.frame 34 8) = 0 ∧
        rfc1071Checksum (clearChecksum (icmpMessage c'.frame 34 8)) = 0xFFFF :=
  ⟨by decide, by decide, _, rfl, by decide, by decide, by decide⟩

end XdpTutorial.Solutions
