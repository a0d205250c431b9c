import XdpTutorial.Spec.EchoParser
import XdpTutorial.Packet01.Parser

/-!
# What packet01's parser drops

`xdp_parser_func` of packet01 only reads the packet and drops or passes it. On a big-endian host
it passes every frame (`xdpParserFunc_bigEndian_pass`); this module says over the frame's bytes
which frames it drops on a little-endian host, and proves that the program decides exactly that.

## The contract

The program takes the IPv6 header to start right after the Ethernet header of an IPv6 frame, and
right after the one tag of an 802.1Q or 802.1ad frame, whatever that tag encapsulates
(`ip6Offset`). There it wants a whole IPv6 header whose next header is ICMPv6 (on a little-endian
host `bpf_ntohs` of the one-byte `nexthdr` is `0x3A00` exactly for `58`), then a whole ICMPv6
header whose sequence number, read in network order, is odd (`OddIcmp6`). The ICMPv6 type is not
looked at.
-/

namespace XdpTutorial.Packet01

/-! ### The contract -/

/-- Where packet01's parser takes the IPv6 header of the frame `f` to start, if it goes on to one:
after the Ethernet header of an IPv6 frame, after the tag of an 802.1Q or 802.1ad frame. -/
def ip6Offset (f : List UInt8) : Option ℕ :=
  if etherType f = UInt16.ofNat ethPIpv6 then some 14
  else if isVlanType (etherType f) then some 18
  else none

/-- At offset `ip` of the frame `f`, a whole IPv6 header with next header ICMPv6, then a whole
ICMPv6 header whose sequence number (bytes 6–7) is odd. -/
def OddIcmp6 (f : List UInt8) (ip : ℕ) : Prop :=
  ip + 40 ≤ f.length ∧ (f.getD (ip + 6) 0).toNat = ipprotoIcmpv6 ∧ ip + 48 ≤ f.length ∧
    (be16 (f.getD (ip + 46) 0) (f.getD (ip + 47) 0)).toNat % 2 = 1

instance (f : List UInt8) (ip : ℕ) : Decidable (OddIcmp6 f ip) :=
  inferInstanceAs (Decidable (_ ∧ _))

/-- packet01's verdict on the frame `f` on a little-endian host. -/
def parserVerdict (f : List UInt8) : XdpAction :=
  match ip6Offset f with
  | some ip => if OddIcmp6 f ip then .drop else .pass
  | none => .pass

theorem not_oddIcmp6_of_short {f : List UInt8} {ip : ℕ} (h : f.length < ip + 48) :
    ¬OddIcmp6 f ip :=
  fun h' => by have := h'.2.2.1; omega

/-- A frame too short for an Ethernet, an IPv6 and an ICMPv6 header is passed. -/
theorem parserVerdict_short {f : List UInt8} (h : f.length < 62) : parserVerdict f = .pass := by
  unfold parserVerdict ip6Offset
  split_ifs
  · exact if_neg (not_oddIcmp6_of_short (by omega))
  · exact if_neg (not_oddIcmp6_of_short (by omega))
  · rfl

/-! ### The program against the contract -/

section Verdict

variable {ctx : XdpMd}

/-- On a little-endian host `parse_ip6hdr` returns `0x3A00` exactly for next header ICMPv6. -/
theorem bpfNtohs_little_nexthdr (v : UInt8) :
    ((bpfNtohs .little (UInt16.ofNat v.toNat)).toNat : ℤ) = 0x3A00 ↔ v.toNat = ipprotoIcmpv6 := by
  have := u8_toNat_lt v
  rw [bpfNtohs, bswap16_toNat, u16_toNat_ofNat, ipprotoIcmpv6]
  omega

/-- The `case ETH_P_8021Q: case ETH_P_8021AD:` of the switch on the ethertype `t`. -/
theorem toNat_eq_vlan_iff (t : UInt16) :
    ((t.toNat : ℤ) = ethP8021Q ∨ (t.toNat : ℤ) = ethP8021AD) ↔ isVlanType t = true := by
  rw [Packet02.toNat_eq_ofNat_iff _ (by decide), Packet02.toNat_eq_ofNat_iff _ (by decide),
    isVlanType, Bool.or_eq_true, beq_iff_eq, beq_iff_eq]

/-- From a cursor `ip` bytes into the packet, lines 141–152 drop the packet on a little-endian
host exactly when an ICMPv6 header with an odd sequence number follows an IPv6 header there. -/
theorem xdpParserFuncIp6_little {nh : Ptr} (hnh : ctx.Cursor nh) {ip : ℕ}
    (hip : nh.addr = ctx.data + ip) :
    xdpParserFuncIp6 .little ctx nh = some (if OddIcmp6 ctx.frame ip then .drop else .pass, ctx) := by
  have hlen := XdpMd.length_frame (c := ctx)
  have hr : parseIp6hdr .little ctx nh ctx.dataEnd = some (if ctx.dataEnd < nh.addr + 40
      then ⟨-1, nh, none⟩
      else ⟨((bpfNtohs .little (UInt16.ofNat (ctx.mem (nh.addr + 6)).toNat)).toNat : ℤ), nh + 40,
        some nh⟩) :=
    parseHdr_eq fun h => by rw [XdpMd.load8_eq (hnh.canAccess (by omega))]; rfl
  by_cases h40 : ctx.dataEnd < nh.addr + 40
  · rw [if_pos h40] at hr
    simp only [xdpParserFuncIp6, hr, Option.bind_eq_bind, Option.some_bind]
    rw [if_pos (by decide), if_neg (not_oddIcmp6_of_short (by omega))]
    rfl
  rw [if_neg h40] at hr
  have hframe : ∀ {i}, i < 48 → nh.addr + 48 ≤ ctx.dataEnd ∨ i < 40 →
      ctx.frame.getD (ip + i) 0 = ctx.mem (nh.addr + i) := fun _ h => by
    rw [XdpMd.getD_frame (by omega), hip, Nat.add_assoc]
  simp only [xdpParserFuncIp6, hr, Option.bind_eq_bind, Option.some_bind, ne_eq,
    bpfNtohs_little_nexthdr, OddIcmp6, hlen, hframe (i := 6) (by decide) (.inr (by decide)),
    show ip + 40 ≤ ctx.dataEnd - ctx.data by omega, true_and]
  by_cases h58 : (ctx.mem (nh.addr + 6)).toNat = ipprotoIcmpv6
  swap
  · simp only [h58, false_and, not_false_eq_true, if_true, if_false]
    rfl
  have hq : parseIcmp6hdr (nh + 40) ctx.dataEnd = some (if ctx.dataEnd < nh.addr + 40 + 8
      then ⟨-1, nh + 40, none⟩ else ⟨0, nh + 40 + 8, some (nh + 40)⟩) :=
    parseHdr_eq fun _ => rfl
  by_cases h48 : ctx.dataEnd < nh.addr + 40 + 8
  · simp only [h58, hq, if_pos h48, Option.some_bind, not_true_eq_false, if_false,
      show ¬ip + 48 ≤ ctx.dataEnd - ctx.data by omega, false_and, and_false]
    rfl
  simp only [h58, hq, if_neg h48, Option.some_bind, not_true_eq_false, if_false, Ptr.add_add,
    Nat.reduceAdd, XdpMd.load16_eq (hnh.canAccess (k := 46) (by omega)), bpfNtohs_load16,
    show ip + 48 ≤ ctx.dataEnd - ctx.data by omega, true_and, Ptr.add_addr, Nat.add_assoc,
    hframe (i := 46) (by decide) (.inl (by omega)), hframe (i := 47) (by decide) (.inl (by omega))]
  rfl

/-- **What packet01's parser decides on a little-endian host.** For every frame it returns the
packet unchanged, dropped exactly when the frame carries, where `ip6Offset` puts it, an IPv6
header with next header ICMPv6 followed by an ICMPv6 header with an odd sequence number. A tagged
frame is judged by the bytes after its tag whatever the tag encapsulates. -/
theorem xdpParserFunc_littleEndian_verdict (ctx : XdpMd) :
    xdpParserFunc .little ctx = some (parserVerdict ctx.frame, ctx) := by
  have hlen := XdpMd.length_frame (c := ctx)
  have he : parseEthhdr .little ctx ctx.dataPtr ctx.dataEnd = some (if ctx.dataEnd < ctx.data + 14
      then ⟨-1, ctx.dataPtr, none⟩
      else ⟨((etherType ctx.frame).toNat : ℤ), ctx.dataPtr + 14, some ctx.dataPtr⟩) := by
    refine (parseHdr_eq fun h => ?_).trans (by rw [XdpMd.dataPtr_addr])
    rw [XdpMd.load16_dataPtr (by simpa using h), XdpMd.etherType_frame (by simpa using h)]
    simp only [Option.map_eq_map, Option.map_some', bpfNtohs_load16]
  by_cases h14 : ctx.dataEnd < ctx.data + 14
  · simp only [xdpParserFunc, he, if_pos h14, Option.bind_eq_bind, Option.some_bind,
      parserVerdict_short (show ctx.frame.length < 62 by omega)]
    rfl
  simp only [xdpParserFunc, he, if_neg h14, Option.bind_eq_bind, Option.some_bind]
  have hip : ctx.Cursor (ctx.dataPtr + 14) := XdpMd.cursor_dataPtr.add (by simp; omega)
  by_cases h6 : etherType ctx.frame = UInt16.ofNat ethPIpv6
  · rw [if_pos ((Packet02.toNat_eq_ofNat_iff _ (by decide)).2 h6), xdpParserFuncIp6_little hip
      (show (ctx.dataPtr + 14).addr = ctx.data + 14 by simp)]
    simp only [parserVerdict, ip6Offset, if_pos h6]
  rw [if_neg (mt (Packet02.toNat_eq_ofNat_iff _ (by decide)).1 h6)]
  by_cases hv : isVlanType (etherType ctx.frame)
  swap
  · rw [if_neg (mt (toNat_eq_vlan_iff _).1 hv)]
    simp only [parserVerdict, ip6Offset, if_neg h6, if_neg hv]
    rfl
  rw [if_pos ((toNat_eq_vlan_iff _).2 hv)]
  obtain ⟨v, hvlan⟩ : ∃ v, parseVlanhdr .little ctx (ctx.dataPtr + 14) ctx.dataEnd =
      some (if ctx.dataEnd < ctx.data + 18 then ⟨-1, ctx.dataPtr + 14, none⟩
        else ⟨v, ctx.dataPtr + 14 + 4, some (ctx.dataPtr + 14)⟩) :=
    ⟨_, (parseHdr_eq fun h => by rw [XdpMd.load16_eq (hip.canAccess (by omega))]; rfl).trans
      (by rw [Ptr.add_addr, XdpMd.dataPtr_addr, Nat.add_assoc])⟩
  simp only [parserVerdict, ip6Offset, if_neg h6, if_pos hv, hvlan, Option.some_bind]
  by_cases h18 : ctx.dataEnd < ctx.data + 18
  · rw [if_pos h18, xdpParserFuncIp6_little hip
      (show (ctx.dataPtr + 14).addr = ctx.data + 14 by simp),
      if_neg (not_oddIcmp6_of_short (by omega)), if_neg (not_oddIcmp6_of_short (by omega))]
  rw [if_neg h18, xdpParserFuncIp6_little (hip.add (by simp; omega))
    (show (ctx.dataPtr + 14 + 4).addr = ctx.data + 18 by simp)]

end Verdict

end XdpTutorial.Packet01
