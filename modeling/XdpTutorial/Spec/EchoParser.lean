import XdpTutorial.Spec.Ethhdr
import XdpTutorial.Packet02.Parser

/-!
# What packet02's parser drops

`xdp_parser_func` of packet02 drops an ICMP or ICMPv6 echo request whose
sequence number is even and passes every other frame. This module says over
the packet's bytes which frames those are, and proves that the program
decides exactly that, for every frame and either byte order.

## The contract

The parser looks past the VLAN tags `parse_ethhdr` steps over: up to the
first stop `k` of the VLAN loop (`FirstVlanStop`), so the IP header starts at
`data + 14 + 4 k` and its protocol is `encapType` at `k`. `EvenEcho6 ctx ip`
says that at `ip` a whole IPv6 header with next header ICMPv6 is followed by a
whole ICMPv6 echo request with an even sequence number. `EvenEcho4 ctx ip`
says the same of an IPv4 header with protocol ICMP, whose ICMP header is taken
`4 * ihl` bytes on, where `parse_iphdr` leaves the cursor, whatever `ihl` is.
Both list the checks in the order the program makes them.

## What is proved

`xdpParserFuncEcho_eq` says what a branch of the program decides from the
result of its IP header parser; `xdpParserFunc_verdict` puts the two branches
together with `parseEthhdr_first`.
-/

namespace XdpTutorial.Packet02

/-! ### The contract -/

/-- The sequence number (bytes 6–7) of the ICMP or ICMPv6 echo header at `icmp` is even. -/
def EvenSequence (ctx : XdpMd) (icmp : ℕ) : Prop :=
  (be16 (ctx.mem (icmp + 6)) (ctx.mem (icmp + 7))).toNat % 2 = 0

/-- At `ip`, a whole IPv6 header whose next header is ICMPv6, then a whole ICMPv6 header of type
echo request with an even sequence number. -/
def EvenEcho6 (ctx : XdpMd) (ip : ℕ) : Prop :=
  ip + 40 ≤ ctx.dataEnd ∧ (ctx.mem (ip + 6)).toNat = ipprotoIcmpv6 ∧ ip + 40 + 8 ≤ ctx.dataEnd ∧
    (ctx.mem (ip + 40)).toNat = icmpv6EchoRequest ∧ EvenSequence ctx (ip + 40)

/-- At `ip`, the 20 bytes of an IPv4 header and the `4 * ihl` it claims, with protocol ICMP, then
`4 * ihl` bytes on a whole ICMP header of type echo request with an even sequence number. -/
def EvenEcho4 (ctx : XdpMd) (ip : ℕ) : Prop :=
  ip + 20 ≤ ctx.dataEnd ∧ ip + (ctx.mem ip).toNat % 16 * 4 ≤ ctx.dataEnd ∧
    (ctx.mem (ip + 9)).toNat = ipprotoIcmp ∧
    ip + (ctx.mem ip).toNat % 16 * 4 + 8 ≤ ctx.dataEnd ∧
    (ctx.mem (ip + (ctx.mem ip).toNat % 16 * 4)).toNat = icmpEcho ∧
    EvenSequence ctx (ip + (ctx.mem ip).toNat % 16 * 4)

/-- What the parser drops when the VLAN loop first stops at `k`: an IPv6 or an IPv4 frame
carrying an echo request with an even sequence number. -/
def EvenEchoRequest (ctx : XdpMd) (k : ℕ) : Prop :=
  (encapType ctx.mem ctx.data k = UInt16.ofNat ethPIpv6 ∧ EvenEcho6 ctx (ctx.data + 14 + 4 * k)) ∨
    (encapType ctx.mem ctx.data k = UInt16.ofNat ethPIp ∧ EvenEcho4 ctx (ctx.data + 14 + 4 * k))

instance (ctx : XdpMd) (icmp : ℕ) : Decidable (EvenSequence ctx icmp) :=
  inferInstanceAs (Decidable (_ = _))

instance (ctx : XdpMd) (ip : ℕ) : Decidable (EvenEcho6 ctx ip) :=
  inferInstanceAs (Decidable (_ ∧ _))

instance (ctx : XdpMd) (ip : ℕ) : Decidable (EvenEcho4 ctx ip) :=
  inferInstanceAs (Decidable (_ ∧ _))

instance (ctx : XdpMd) (k : ℕ) : Decidable (EvenEchoRequest ctx k) :=
  inferInstanceAs (Decidable (_ ∨ _))

/-! ### The program against the contract -/

section Verdict

variable {e : Endian} {ctx : XdpMd}

/-- A protocol returned as an `int` equals a 16-bit constant exactly when the protocol is it. -/
theorem toNat_eq_ofNat_iff (t : UInt16) {c : ℕ} (hc : c < 65536) :
    (t.toNat : ℤ) = c ↔ t = UInt16.ofNat c := by
  rw [u16_eq_iff, u16_toNat_ofNat, Nat.mod_eq_of_lt hc, Int.ofNat_inj]

/-- A branch of the parser, on the result `r` of its IP header parser and an ICMP header parser
of the usual shape, drops the packet exactly when `r` has the branch's protocol and is followed by
a whole ICMP header of the branch's echo request type with an even sequence number. -/
theorem xdpParserFuncEcho_eq {parseIp parseIcmp : Ptr → ℕ → Option Parsed} {proto echoRequest : ℕ}
    {nh : Ptr} {r : Parsed} (hr : parseIp nh ctx.dataEnd = some r) (hq : ctx.Cursor r.pos)
    (hIcmp : parseIcmp r.pos ctx.dataEnd = some (if ctx.dataEnd < r.pos.addr + 8 then
      ⟨-1, r.pos, none⟩ else ⟨(ctx.mem r.pos.addr).toNat, r.pos + 8, some r.pos⟩)) :
    xdpParserFuncEcho e ctx parseIp proto parseIcmp echoRequest nh =
      some (if r.ret = proto ∧ r.pos.addr + 8 ≤ ctx.dataEnd ∧
          (ctx.mem r.pos.addr).toNat = echoRequest ∧ EvenSequence ctx r.pos.addr
        then .drop else .pass, ctx) := by
  unfold xdpParserFuncEcho
  simp only [hr, Option.bind_eq_bind, Option.some_bind]
  by_cases h₁ : r.ret = proto
  swap
  · rw [if_pos h₁, if_neg fun h => h₁ h.1]; rfl
  rw [if_neg (not_not.2 h₁), hIcmp, Option.some_bind]
  by_cases h₂ : ctx.dataEnd < r.pos.addr + 8
  · rw [if_pos h₂, if_pos (by simp), if_neg fun h => absurd h.2.1 (by omega)]; rfl
  rw [if_neg h₂]
  simp only [ne_eq, Int.ofNat_inj]
  by_cases h₃ : (ctx.mem r.pos.addr).toNat = echoRequest
  · rw [if_neg (not_not.2 h₃), Option.some_bind,
      XdpMd.load16_eq (hq.canAccess (k := 6) (by omega)), Option.some_bind, bpfNtohs_load16]
    simp only [Ptr.add_addr, Nat.add_assoc, Nat.reduceAdd, xdpStatsRecordAction, EvenSequence, h₁,
      h₃, true_and, show r.pos.addr + 8 ≤ ctx.dataEnd by omega]
    split_ifs <;> rfl
  · rw [if_pos h₃, if_neg fun h => h₃ h.2.2.1]; rfl

/-- The IPv6 branch, from a cursor at the IPv6 header. -/
theorem xdpParserFuncEcho_ipv6 {ip : Ptr} (hip : ctx.Cursor ip) :
    xdpParserFuncEcho e ctx (parseIp6hdr ctx) ipprotoIcmpv6 (parseIcmp6hdr ctx) icmpv6EchoRequest ip =
      some (if EvenEcho6 ctx ip.addr then .drop else .pass, ctx) := by
  have hr := parseIp6hdr_eq hip
  by_cases h40 : ctx.dataEnd < ip.addr + 40
  · rw [if_pos h40] at hr
    rw [xdpParserFuncEcho_eq hr hip (parseIcmp6hdr_eq hip), if_neg (by simp), if_neg fun h => by
      have := h.1; omega]
  · rw [if_neg h40] at hr
    have hq : ctx.Cursor (ip + 40) := hip.add (by omega)
    rw [xdpParserFuncEcho_eq hr hq (parseIcmp6hdr_eq hq)]
    refine congrArg (fun a => some (a, ctx)) (if_congr ?_ rfl rfl)
    simp only [Ptr.add_addr, Int.ofNat_inj, EvenEcho6, show ip.addr + 40 ≤ ctx.dataEnd by omega,
      true_and]

/-- The IPv4 branch, from a cursor at the IPv4 header: the ICMP header is where `parse_iphdr`
leaves the cursor, `4 * ihl` bytes on. -/
theorem xdpParserFuncEcho_ipv4 {ip : Ptr} (hip : ctx.Cursor ip) :
    xdpParserFuncEcho e ctx (parseIphdr ctx) ipprotoIcmp (parseIcmphdr ctx) icmpEcho ip =
      some (if EvenEcho4 ctx ip.addr then .drop else .pass, ctx) := by
  have hr := parseIphdr_eq hip
  by_cases hfit : ctx.dataEnd < ip.addr + 20 ∨
      ctx.dataEnd < ip.addr + (ctx.mem ip.addr).toNat % 16 * 4
  · rw [if_pos hfit] at hr
    rw [xdpParserFuncEcho_eq hr hip (parseIcmphdr_eq hip), if_neg (by simp), if_neg fun h => by
      have := h.1; have := h.2.1; omega]
  · rw [if_neg hfit] at hr
    have hq : ctx.Cursor (ip + (ctx.mem ip.addr).toNat % 16 * 4) := hip.add (by omega)
    rw [xdpParserFuncEcho_eq hr hq (parseIcmphdr_eq hq)]
    refine congrArg (fun a => some (a, ctx)) (if_congr ?_ rfl rfl)
    simp only [Ptr.add_addr, Int.ofNat_inj, EvenEcho4, show ip.addr + 20 ≤ ctx.dataEnd by omega,
      show ip.addr + (ctx.mem ip.addr).toNat % 16 * 4 ≤ ctx.dataEnd by omega, true_and]

/-- On an Ethernet header that fits, with the VLAN loop first stopping at `k`, the parser drops
the packet exactly when the contract says so, and changes nothing. -/
theorem xdpParserFunc_eq_of_first (hfit : ctx.data + 14 ≤ ctx.dataEnd) {k : ℕ}
    (hk : FirstVlanStop ctx.mem ctx.dataEnd ctx.data k) :
    xdpParserFunc e ctx = some (if EvenEchoRequest ctx k then .drop else .pass, ctx) := by
  have hip : ctx.Cursor (ctx.dataPtr + (14 + 4 * k)) :=
    XdpMd.cursor_dataPtr.add (by have := hk.fits hfit; simp only [XdpMd.dataPtr_addr]; omega)
  have haddr : (ctx.dataPtr + (14 + 4 * k)).addr = ctx.data + 14 + 4 * k := by
    simp only [Ptr.add_addr, XdpMd.dataPtr_addr, Nat.add_assoc]
  unfold xdpParserFunc
  rw [parseEthhdr_first XdpMd.cursor_dataPtr hfit hk, Option.bind_eq_bind, Option.some_bind]
  simp only [XdpMd.dataPtr_addr, toNat_eq_ofNat_iff _ (by decide : ethPIpv6 < 65536),
    toNat_eq_ofNat_iff _ (by decide : ethPIp < 65536)]
  have h46 : UInt16.ofNat ethPIpv6 ≠ UInt16.ofNat ethPIp := by decide
  by_cases h6 : encapType ctx.mem ctx.data k = UInt16.ofNat ethPIpv6
  · have h4 : encapType ctx.mem ctx.data k ≠ UInt16.ofNat ethPIp := h6 ▸ h46
    rw [if_pos h6, xdpParserFuncEcho_ipv6 hip, haddr]
    exact congrArg (fun a => some (a, ctx)) (if_congr (by simp [EvenEchoRequest, h6, h4, h46, h46.symm]) rfl rfl)
  · rw [if_neg h6]
    by_cases h4 : encapType ctx.mem ctx.data k = UInt16.ofNat ethPIp
    · rw [if_pos h4, xdpParserFuncEcho_ipv4 hip, haddr]
      exact congrArg (fun a => some (a, ctx)) (if_congr (by simp [EvenEchoRequest, h6, h4, h46, h46.symm]) rfl rfl)
    · rw [if_neg h4, if_neg (by simp [EvenEchoRequest, h6, h4])]; rfl

/-- **What packet02's parser drops.** For every frame and either byte order, `xdp_parser_func`
of packet02 changes nothing and drops or passes the packet; it drops it exactly when the
Ethernet header fits and, past the VLAN tags `parse_ethhdr` steps over, the frame carries an
IPv6 or an IPv4 echo request with an even sequence number (`EvenEchoRequest`). -/
theorem xdpParserFunc_verdict (e : Endian) (ctx : XdpMd) :
    ∃ a, xdpParserFunc e ctx = some (a, ctx) ∧ (a = .drop ∨ a = .pass) ∧
      (a = .drop ↔ ctx.data + 14 ≤ ctx.dataEnd ∧
        ∃ k, FirstVlanStop ctx.mem ctx.dataEnd ctx.data k ∧ EvenEchoRequest ctx k) := by
  by_cases hfit : ctx.data + 14 ≤ ctx.dataEnd
  · obtain ⟨k, hk⟩ := firstVlanStop_exists ctx.mem ctx.dataEnd ctx.data
    refine ⟨_, xdpParserFunc_eq_of_first hfit hk, by split_ifs <;> simp, ?_⟩
    have hiff : (∃ k', FirstVlanStop ctx.mem ctx.dataEnd ctx.data k' ∧ EvenEchoRequest ctx k') ↔
        EvenEchoRequest ctx k :=
      ⟨fun ⟨k', hk', h⟩ => hk.unique hk' ▸ h, fun h => ⟨k, hk, h⟩⟩
    rw [hiff]
    split_ifs with h <;> simp [h, hfit]
  · refine ⟨.pass, ?_, .inr rfl, by simp [hfit]⟩
    unfold xdpParserFunc parseEthhdr
    rw [if_pos (by simpa using hfit)]
    rfl

end Verdict

end XdpTutorial.Packet02
