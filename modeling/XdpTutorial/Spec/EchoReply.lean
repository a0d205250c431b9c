import XdpTutorial.Spec.IcmpEcho
import XdpTutorial.Spec.EchoParser
import XdpTutorial.Spec.Safety

/-!
# What the echo responder answers, and that it does not answer a reply

`xdp_icmp_echo_func` turns an echo request into a reply in place and sends it back out of the
interface it came in on. This module says over the packet's bytes which frames it answers, and
proves that a frame it transmits is never answered in turn.

## The contract

The program decides from few bytes: the Ethernet protocol and the VLAN tags up to the first stop
`k` of the VLAN loop (`FirstVlanStop`), the IP header's protocol (and for IPv4 its `ihl`), and the
ICMP type where the parsers leave the cursor. `EchoRequest ctx k` lists these checks in the order
the program makes them; for IPv4 the ICMP header is taken `4 * ihl` bytes into the IP header,
whatever `ihl` is. `xdpIcmpEchoFunc_verdict`: the program transmits exactly such a frame and
passes every other frame unchanged.

## A reply is not answered

If the host at the other end runs the same program, the reply reaches it; were it answered in
turn, the two hosts would bounce one frame between them for ever. The reply differs from the
request only in the MAC addresses, the IP addresses, and the ICMP type and checksum
(`icmpEchoPatch_mem`, `swapFields_mem`), so the VLAN loop stops at the same `k` with the same
protocol (`FirstVlanStop.congr`), the ICMP header is found at the same place (for IPv4 this needs
care: with `ihl = 0` the ICMP type *is* the byte holding `ihl`), and its type is now an echo
reply. `xdpIcmpEchoFunc_reply_pass`: whatever byte order either host has, a frame the program
transmits is passed, unchanged, by the program.
-/

namespace XdpTutorial

/-! ### The VLAN loop reads only the tags before its first stop -/

section Congr

variable {mem mem' : ℕ → UInt8} {dataEnd a k : ℕ}

theorem encapType_congr (h : ∀ x, a + 12 ≤ x → x < a + 14 + 4 * k → mem' x = mem x) {i : ℕ}
    (hi : i ≤ k) : encapType mem' a i = encapType mem a i := by
  have h₁ : a + 12 ≤ encapAddr a i ∧ encapAddr a i + 1 < a + 14 + 4 * k := by
    cases i <;> simp only [encapAddr] <;> omega
  rw [encapType, encapType, h _ h₁.1 (by omega), h _ (by omega) h₁.2]

/-- Two memories that agree from the Ethernet protocol up to the first stop `k` of the VLAN loop
on one stop there on the other as well. -/
theorem FirstVlanStop.congr (hk : FirstVlanStop mem dataEnd a k)
    (h : ∀ x, a + 12 ≤ x → x < a + 14 + 4 * k → mem' x = mem x) :
    FirstVlanStop mem' dataEnd a k := by
  have hv : ∀ i ≤ k, VlanStop mem' dataEnd a i ↔ VlanStop mem dataEnd a i := fun i hi => by
    rw [VlanStop, VlanStop, encapType_congr h hi]
  exact ⟨(hv k le_rfl).2 hk.1, fun i hi => by rw [hv i (Nat.le_of_lt hi)]; exact hk.2 i hi⟩

end Congr

theorem writeMem_of_not_mem {m : ℕ → UInt8} {a x : ℕ} {bs : List UInt8}
    (h : x < a ∨ a + bs.length ≤ x) : writeMem m a bs x = m x :=
  h.elim writeMem_of_lt writeMem_of_le

namespace Solutions

/-! ### The bytes a reply changes -/

section Writes

variable {e : Endian} {c c' : XdpMd}

/-- A swap changes no byte outside the two fields. -/
theorem swapFields_mem {p : Ptr} {a b n : ℕ} (h : swapFields c p a b n = some c') {x : ℕ}
    (ha : x < p.addr + a ∨ p.addr + a + n ≤ x) (hb : x < p.addr + b ∨ p.addr + b + n ≤ x) :
    c'.mem x = c.mem x := by
  rw [swapFields_some h, XdpMd.write_mem, XdpMd.write_mem, writeMem_of_not_mem,
    writeMem_of_not_mem]
  · simpa using ha
  · simpa using hb

/-- `icmpEchoPatch` keeps the packet's bounds, writes the new type at `q`, and changes no byte
after the MAC addresses but the type and the checksum. -/
theorem icmpEchoPatch_mem {eth q : Ptr} {t : ℕ} {a : XdpAction}
    (h : icmpEchoPatch e c eth q t = some (a, c')) :
    c'.data = c.data ∧ c'.dataEnd = c.dataEnd ∧ c'.mem q.addr = UInt8.ofNat t ∧
      ∀ x, eth.addr + 12 ≤ x → x ≠ q.addr → x ≠ q.addr + 2 → x ≠ q.addr + 3 →
        c'.mem x = c.mem x := by
  simp only [icmpEchoPatch, Option.bind_eq_bind, Option.bind_eq_some] at h
  obtain ⟨c₂, h₁, m0, -, c₃, h₃, m1, -, ck, -, c₄, h₆, h₇⟩ := h
  obtain rfl := XdpMd.eq_of_store8 h₃
  obtain rfl := XdpMd.eq_of_store16 h₆
  simp only [Option.pure_def, Option.some.injEq, Prod.mk.injEq] at h₇
  obtain ⟨-, rfl⟩ := h₇
  obtain ⟨hd, he⟩ := swapFields_bounds h₁
  refine ⟨hd, he, ?_, fun x hx h₀ h₂ h₃ => ?_⟩
  · simp only [XdpMd.write_mem, Ptr.add_addr]
    rw [writeMem_of_lt (by omega), writeMem_self (by simp)]
    rfl
  · simp only [XdpMd.write_mem, Ptr.add_addr]
    rw [writeMem_of_not_mem, writeMem_of_not_mem, swapFields_mem h₁]
    all_goals first | omega | (simp only [List.length_singleton, length_store16, Ptr.add_addr]; omega)

end Writes

/-! ### What the program answers -/

/-- At `ip`, the 20 bytes of an IPv4 header and the `4 * ihl` it claims, with protocol ICMP, then
`4 * ihl` bytes on a whole ICMP header of type echo request. -/
def EchoRequest4 (ctx : XdpMd) (ip : ℕ) : Prop :=
  ip + 20 ≤ ctx.dataEnd ∧ ip + (ctx.mem ip).toNat % 16 * 4 ≤ ctx.dataEnd ∧
    (ctx.mem (ip + 9)).toNat = ipprotoIcmp ∧
    ip + (ctx.mem ip).toNat % 16 * 4 + 8 ≤ ctx.dataEnd ∧
    (ctx.mem (ip + (ctx.mem ip).toNat % 16 * 4)).toNat = icmpEcho

/-- At `ip`, a whole IPv6 header whose next header is ICMPv6, then a whole ICMPv6 header of type
echo request. -/
def EchoRequest6 (ctx : XdpMd) (ip : ℕ) : Prop :=
  ip + 40 ≤ ctx.dataEnd ∧ (ctx.mem (ip + 6)).toNat = ipprotoIcmpv6 ∧ ip + 40 + 8 ≤ ctx.dataEnd ∧
    (ctx.mem (ip + 40)).toNat = icmpv6EchoRequest

/-- What the program answers when the VLAN loop first stops at `k`: an IPv4 or an IPv6 frame
carrying an echo request where its parsers find the ICMP header. -/
def EchoRequest (ctx : XdpMd) (k : ℕ) : Prop :=
  (encapType ctx.mem ctx.data k = UInt16.ofNat ethPIp ∧ EchoRequest4 ctx (ctx.data + 14 + 4 * k)) ∨
    (encapType ctx.mem ctx.data k = UInt16.ofNat ethPIpv6 ∧
      EchoRequest6 ctx (ctx.data + 14 + 4 * k))

instance (ctx : XdpMd) (ip : ℕ) : Decidable (EchoRequest4 ctx ip) :=
  inferInstanceAs (Decidable (_ ∧ _))

instance (ctx : XdpMd) (ip : ℕ) : Decidable (EchoRequest6 ctx ip) :=
  inferInstanceAs (Decidable (_ ∧ _))

instance (ctx : XdpMd) (k : ℕ) : Decidable (EchoRequest ctx k) :=
  inferInstanceAs (Decidable (_ ∨ _))

section Answer

variable {e : Endian} {c : XdpMd} {nh : Ptr} {k : ℕ}

/-- `icmpEchoReply`, from a cursor, passes unless a whole ICMP header there carries the echo
request type of the frame's family. -/
theorem icmpEchoReply_pass (hnh : c.Cursor nh) {ethType : ℤ} {eth iphdr ipv6hdr : Option Ptr}
    (h : ¬(nh.addr + 8 ≤ c.dataEnd ∧ (ethType = ethPIp ∧ (c.mem nh.addr).toNat = icmpEcho ∨
      ethType = ethPIpv6 ∧ (c.mem nh.addr).toNat = icmpv6EchoRequest))) :
    icmpEchoReply e c ethType nh eth iphdr ipv6hdr = some (.pass, c) := by
  obtain ⟨r, hr, hret⟩ : ∃ r, parseIcmphdr c nh c.dataEnd = some r ∧
      (r.ret = -1 ∨ nh.addr + 8 ≤ c.dataEnd ∧ r.ret = (c.mem nh.addr).toNat) :=
    ⟨_, parseIcmphdr_eq hnh, by split_ifs; exacts [.inl rfl, .inr ⟨by omega, rfl⟩]⟩
  simp only [icmpEchoReply, hr, Option.bind_eq_bind, Option.some_bind]
  rw [if_neg, if_neg]
  · rfl
  all_goals
    rintro ⟨he, ht⟩
    rcases hret with h₁ | ⟨hb, h₁⟩
    · omega
    · exact h ⟨hb, by omega⟩

/-- `icmpEchoReply`, from a cursor and with the header pointers the parsers stored, answers a
whole ICMP header carrying the echo request type of the frame's family. -/
theorem icmpEchoReply_answers (hnh : c.Cursor nh) (hfit : c.data + 14 ≤ c.dataEnd) {ethType : ℤ}
    {iphdr ipv6hdr : Option Ptr}
    (hip : ethType = ethPIp → ∃ p, iphdr = some p ∧ c.Cursor p ∧ p.addr + 20 ≤ c.dataEnd)
    (hip6 : ethType = ethPIpv6 → ∃ p, ipv6hdr = some p ∧ c.Cursor p ∧ p.addr + 40 ≤ c.dataEnd)
    (h : nh.addr + 8 ≤ c.dataEnd ∧ (ethType = ethPIp ∧ (c.mem nh.addr).toNat = icmpEcho ∨
      ethType = ethPIpv6 ∧ (c.mem nh.addr).toNat = icmpv6EchoRequest)) :
    ∃ c', icmpEchoReply e c ethType nh (some c.dataPtr) iphdr ipv6hdr = some (.tx, c') := by
  obtain ⟨r, hr⟩ := icmpEchoReply_safe (e := e) hnh hfit hip hip6
  refine ⟨r.2, hr.trans (congrArg some (Prod.ext ?_ rfl))⟩
  simp only [icmpEchoReply, parseIcmphdr_eq hnh, if_neg (show ¬c.dataEnd < nh.addr + 8 by omega),
    Option.bind_eq_bind, Option.some_bind] at hr
  obtain ⟨-, ⟨he, ht⟩ | ⟨he, ht⟩⟩ := h
  · rw [if_pos ⟨he, by omega⟩] at hr
    simp only [Option.bind_eq_some] at hr
    obtain ⟨_, -, _, -, hp⟩ := hr
    exact (icmpEchoPatch_message hp le_rfl).1
  · rw [if_neg fun h' => (by decide : (ethPIp : ℤ) ≠ ethPIpv6) (h'.1.symm.trans he),
      if_pos ⟨he, by omega⟩] at hr
    simp only [Option.bind_eq_some] at hr
    obtain ⟨_, -, _, -, hp⟩ := hr
    exact (icmpEchoPatch_message hp le_rfl).1

/-- A frame too short for an Ethernet header is passed. -/
theorem xdpIcmpEchoFunc_short (h : c.dataEnd < c.data + 14) : xdpIcmpEchoFunc e c = some (.pass, c) := by
  simp only [xdpIcmpEchoFunc, (parseEthhdr_vlanStop e c XdpMd.cursor_dataPtr).1 h,
    Option.bind_eq_bind, Option.some_bind, show ¬((-1 : ℤ) = ethPIp) by decide,
    show ¬((-1 : ℤ) = ethPIpv6) by decide, if_false]
  rfl

/-- A frame whose VLAN loop first stops at a protocol other than IPv4 and IPv6 is passed. -/
theorem xdpIcmpEchoFunc_other (hfit : c.data + 14 ≤ c.dataEnd)
    (hk : FirstVlanStop c.mem c.dataEnd c.data k) (h4 : encapType c.mem c.data k ≠ UInt16.ofNat ethPIp)
    (h6 : encapType c.mem c.data k ≠ UInt16.ofNat ethPIpv6) :
    xdpIcmpEchoFunc e c = some (.pass, c) := by
  rw [ne_eq, ← Packet02.toNat_eq_ofNat_iff _ (show ethPIp < 65536 by decide)] at h4
  rw [ne_eq, ← Packet02.toNat_eq_ofNat_iff _ (show ethPIpv6 < 65536 by decide)] at h6
  simp only [xdpIcmpEchoFunc, parseEthhdr_first XdpMd.cursor_dataPtr hfit hk, XdpMd.dataPtr_addr,
    if_neg h4, if_neg h6, Option.bind_eq_bind, Option.some_bind]
  rfl

/-- The IPv4 branch: the program answers exactly an `EchoRequest4` at the IP header, and passes
every other IPv4 frame unchanged. -/
theorem xdpIcmpEchoFunc_ipv4 (hfit : c.data + 14 ≤ c.dataEnd)
    (hk : FirstVlanStop c.mem c.dataEnd c.data k)
    (h4 : encapType c.mem c.data k = UInt16.ofNat ethPIp) :
    (EchoRequest4 c (c.data + 14 + 4 * k) → ∃ c', xdpIcmpEchoFunc e c = some (.tx, c')) ∧
      (¬EchoRequest4 c (c.data + 14 + 4 * k) → xdpIcmpEchoFunc e c = some (.pass, c)) := by
  have hip : c.Cursor (c.dataPtr + (14 + 4 * k)) :=
    XdpMd.cursor_dataPtr.add (by simpa [Nat.add_assoc] using hk.fits hfit)
  have hret : ((encapType c.mem c.data k).toNat : ℤ) = ethPIp := by rw [h4]; rfl
  rw [EchoRequest4]
  simp only [xdpIcmpEchoFunc, parseEthhdr_first XdpMd.cursor_dataPtr hfit hk, XdpMd.dataPtr_addr,
    hret, Option.bind_eq_bind, Option.some_bind, if_true, parseIphdr_eq hip, Ptr.add_addr,
    ← Nat.add_assoc]
  split_ifs with hA hP hP
  · exact ⟨fun h => absurd h (by omega), fun _ => rfl⟩
  · simp only [ne_eq, not_not] at hP; omega
  · exact ⟨fun h => absurd h.2.2.1 (by simpa only [ne_eq, Int.ofNat_inj] using hP), fun _ => rfl⟩
  · simp only [ne_eq, not_not, Int.ofNat_inj] at hP
    have hq : c.Cursor (c.dataPtr + (14 + 4 * k) + (c.mem (c.data + 14 + 4 * k)).toNat % 16 * 4) :=
      hip.add (by simp only [Ptr.add_addr, XdpMd.dataPtr_addr]; omega)
    refine ⟨fun h => icmpEchoReply_answers hq hfit
      (fun _ => ⟨_, rfl, hip, by simp only [Ptr.add_addr, XdpMd.dataPtr_addr]; omega⟩)
      (fun h' => absurd h' (by decide)) ⟨?_, .inl ⟨rfl, ?_⟩⟩, fun h => icmpEchoReply_pass hq ?_⟩
    · simp only [Ptr.add_addr, XdpMd.dataPtr_addr]; omega
    · simpa only [Ptr.add_addr, XdpMd.dataPtr_addr, ← Nat.add_assoc] using h.2.2.2.2
    · rintro ⟨h8, ⟨-, ht⟩ | ⟨he, -⟩⟩
      · simp only [Ptr.add_addr, XdpMd.dataPtr_addr, ← Nat.add_assoc] at h8 ht
        exact h ⟨by omega, by omega, hP, h8, ht⟩
      · exact absurd he (by decide)

/-- The IPv6 branch: the program answers exactly an `EchoRequest6` at the IP header, and passes
every other IPv6 frame unchanged. -/
theorem xdpIcmpEchoFunc_ipv6 (hfit : c.data + 14 ≤ c.dataEnd)
    (hk : FirstVlanStop c.mem c.dataEnd c.data k)
    (h6 : encapType c.mem c.data k = UInt16.ofNat ethPIpv6) :
    (EchoRequest6 c (c.data + 14 + 4 * k) → ∃ c', xdpIcmpEchoFunc e c = some (.tx, c')) ∧
      (¬EchoRequest6 c (c.data + 14 + 4 * k) → xdpIcmpEchoFunc e c = some (.pass, c)) := by
  have hip : c.Cursor (c.dataPtr + (14 + 4 * k)) :=
    XdpMd.cursor_dataPtr.add (by simpa [Nat.add_assoc] using hk.fits hfit)
  have hret : ((encapType c.mem c.data k).toNat : ℤ) = ethPIpv6 := by rw [h6]; rfl
  rw [EchoRequest6]
  simp only [xdpIcmpEchoFunc, parseEthhdr_first XdpMd.cursor_dataPtr hfit hk, XdpMd.dataPtr_addr,
    hret, show ¬((ethPIpv6 : ℤ) = ethPIp) by decide, Option.bind_eq_bind, Option.some_bind,
    if_true, if_false, parseIp6hdr_eq hip, Ptr.add_addr, ← Nat.add_assoc]
  split_ifs with hA hP hP
  · exact ⟨fun h => absurd h.1 (by omega), fun _ => rfl⟩
  · simp only [ne_eq, not_not] at hP; omega
  · exact ⟨fun h => absurd h.2.1 (by simpa only [ne_eq, Int.ofNat_inj] using hP), fun _ => rfl⟩
  · simp only [ne_eq, not_not, Int.ofNat_inj] at hP
    have hq : c.Cursor (c.dataPtr + (14 + 4 * k) + 40) :=
      hip.add (by simp only [Ptr.add_addr, XdpMd.dataPtr_addr]; omega)
    refine ⟨fun h => icmpEchoReply_answers hq hfit (fun h' => absurd h' (by decide))
      (fun _ => ⟨_, rfl, hip, by simp only [Ptr.add_addr, XdpMd.dataPtr_addr]; omega⟩)
      ⟨?_, .inr ⟨rfl, ?_⟩⟩, fun h => icmpEchoReply_pass hq ?_⟩
    · simp only [Ptr.add_addr, XdpMd.dataPtr_addr]; omega
    · simpa only [Ptr.add_addr, XdpMd.dataPtr_addr, ← Nat.add_assoc] using h.2.2.2
    · rintro ⟨h8, ⟨he, -⟩ | ⟨-, ht⟩⟩
      · exact absurd he (by decide)
      · simp only [Ptr.add_addr, XdpMd.dataPtr_addr, ← Nat.add_assoc] at h8 ht
        exact h ⟨by omega, hP, h8, ht⟩

/-- **What `xdp_icmp_echo_func` answers.** For every frame and either byte order, the program
transmits or passes, and passes only the frame it was given; it transmits exactly when the
Ethernet header fits and, past the VLAN tags `parse_ethhdr` steps over, the frame carries an
IPv4 or an IPv6 echo request where its parsers find the ICMP header (`EchoRequest`): for IPv4,
`4 * ihl` bytes into the IP header, however small `ihl` is. -/
theorem xdpIcmpEchoFunc_verdict (e : Endian) (ctx : XdpMd) :
    ∃ a c', xdpIcmpEchoFunc e ctx = some (a, c') ∧ (a = .tx ∨ a = .pass ∧ c' = ctx) ∧
      (a = .tx ↔ ctx.data + 14 ≤ ctx.dataEnd ∧
        ∃ k, FirstVlanStop ctx.mem ctx.dataEnd ctx.data k ∧ EchoRequest ctx k) := by
  by_cases hfit : ctx.data + 14 ≤ ctx.dataEnd
  · obtain ⟨k, hk⟩ := firstVlanStop_exists ctx.mem ctx.dataEnd ctx.data
    have hiff : (∃ k', FirstVlanStop ctx.mem ctx.dataEnd ctx.data k' ∧ EchoRequest ctx k') ↔
        EchoRequest ctx k :=
      ⟨fun ⟨k', hk', h⟩ => hk.unique hk' ▸ h, fun h => ⟨k, hk, h⟩⟩
    simp only [hfit, true_and, hiff]
    by_cases hreq : EchoRequest ctx k
    · obtain ⟨c', hc'⟩ : ∃ c', xdpIcmpEchoFunc e ctx = some (.tx, c') := by
        rcases hreq with ⟨h4, h⟩ | ⟨h6, h⟩
        · exact (xdpIcmpEchoFunc_ipv4 hfit hk h4).1 h
        · exact (xdpIcmpEchoFunc_ipv6 hfit hk h6).1 h
      exact ⟨.tx, c', hc', .inl rfl, iff_of_true rfl hreq⟩
    · have hpass : xdpIcmpEchoFunc e ctx = some (.pass, ctx) := by
        by_cases h4 : encapType ctx.mem ctx.data k = UInt16.ofNat ethPIp
        · exact (xdpIcmpEchoFunc_ipv4 hfit hk h4).2 fun h => hreq (.inl ⟨h4, h⟩)
        by_cases h6 : encapType ctx.mem ctx.data k = UInt16.ofNat ethPIpv6
        · exact (xdpIcmpEchoFunc_ipv6 hfit hk h6).2 fun h => hreq (.inr ⟨h6, h⟩)
        exact xdpIcmpEchoFunc_other hfit hk h4 h6
      exact ⟨.pass, ctx, hpass, .inr ⟨rfl, rfl⟩, iff_of_false (by decide) hreq⟩
  · exact ⟨.pass, ctx, xdpIcmpEchoFunc_short (by omega), .inr ⟨rfl, rfl⟩,
      iff_of_false (by decide) fun h => hfit h.1⟩

end Answer

/-! ### The reply -/

section Reply

variable {e₁ e₂ : Endian} {c c' : XdpMd}

/-- `xdp_icmp_echo_func` transmits only a frame whose Ethernet header fits and whose VLAN loop
first stops at IPv4 or IPv6. -/
theorem xdpIcmpEchoFunc_tx_encap (htx : xdpIcmpEchoFunc e₁ c = some (.tx, c')) :
    c.data + 14 ≤ c.dataEnd ∧ ∃ k, FirstVlanStop c.mem c.dataEnd c.data k ∧
      (encapType c.mem c.data k = UInt16.ofNat ethPIp ∨
        encapType c.mem c.data k = UInt16.ofNat ethPIpv6) := by
  by_cases hfit : c.data + 14 ≤ c.dataEnd
  · obtain ⟨k, hk⟩ := firstVlanStop_exists c.mem c.dataEnd c.data
    refine ⟨hfit, k, hk, ?_⟩
    by_contra hT
    rw [not_or] at hT
    rw [xdpIcmpEchoFunc_other hfit hk hT.1 hT.2] at htx
    cases htx
  · rw [xdpIcmpEchoFunc_short (by omega)] at htx
    cases htx

/-- **A reply is not answered.** A frame that `xdp_icmp_echo_func` transmits, on a host of
either byte order, is passed unchanged by `xdp_icmp_echo_func` on a host of either byte order:
two hosts running the program never send one echo back and forth. -/
theorem xdpIcmpEchoFunc_reply_pass (e₁ e₂ : Endian) {c c' : XdpMd}
    (htx : xdpIcmpEchoFunc e₁ c = some (.tx, c')) : xdpIcmpEchoFunc e₂ c' = some (.pass, c') := by
  obtain ⟨hfit, k, hk, hT⟩ := xdpIcmpEchoFunc_tx_encap htx
  have hr := parseEthhdr_first (e := e₁) XdpMd.cursor_dataPtr hfit hk
  rcases hT with h4 | h6
  · obtain ⟨-, -, -, c₁, h₁, h₂⟩ := xdpIcmpEchoFunc_tx_ipv4 htx hr
      (show ((encapType c.mem c.data k).toNat : ℤ) = ethPIp by rw [h4]; rfl)
    obtain ⟨hd, he, hq, hm⟩ := icmpEchoPatch_mem h₂
    obtain ⟨hd₁, he₁⟩ := swapFields_bounds h₁
    simp only [Ptr.add_addr, XdpMd.dataPtr_addr, ← Nat.add_assoc] at hq hm
    -- the IPv4 address swap writes from `12` bytes into the IP header on
    have hm₁ : ∀ x, x < c.data + 14 + 4 * k + 12 → c₁.mem x = c.mem x := fun x hx =>
      swapFields_mem h₁ (.inl (by simpa [Nat.add_assoc] using hx)) (.inl (by simp; omega))
    have hagree : ∀ x, c.data + 12 ≤ x → x < c.data + 14 + 4 * k → c'.mem x = c.mem x :=
      fun x hx hx' => by rw [hm x hx (by omega) (by omega) (by omega), hm₁ x (by omega)]
    -- `4 * ihl` is unchanged: either the type was written elsewhere, or `ihl = 0` and the type
    -- written over it, an echo reply, is `0` too
    have hs : (c'.mem (c.data + 14 + 4 * k)).toNat % 16 * 4 =
        (c.mem (c.data + 14 + 4 * k)).toNat % 16 * 4 := by
      by_cases h0 : (c.mem (c.data + 14 + 4 * k)).toNat % 16 * 4 = 0
      · rw [h0, Nat.add_zero] at hq
        rw [h0, hq]
        rfl
      · rw [hm _ (by omega) (by omega) (by omega) (by omega), hm₁ _ (by omega)]
    have hk' : FirstVlanStop c'.mem c'.dataEnd c'.data k := by
      rw [hd, hd₁, he, he₁]; exact hk.congr hagree
    refine (xdpIcmpEchoFunc_ipv4 (by omega) hk'
      (by rw [hd, hd₁, encapType_congr hagree le_rfl, h4])).2 fun h => absurd h.2.2.2.2 ?_
    rw [hd, hd₁, hs, hq]
    decide
  · obtain ⟨-, -, -, c₁, h₁, h₂⟩ := xdpIcmpEchoFunc_tx_ipv6 htx hr
      (show ((encapType c.mem c.data k).toNat : ℤ) = ethPIpv6 by rw [h6]; rfl)
    obtain ⟨hd, he, hq, hm⟩ := icmpEchoPatch_mem h₂
    obtain ⟨hd₁, he₁⟩ := swapFields_bounds h₁
    simp only [Ptr.add_addr, XdpMd.dataPtr_addr, ← Nat.add_assoc] at hq hm
    have hagree : ∀ x, c.data + 12 ≤ x → x < c.data + 14 + 4 * k → c'.mem x = c.mem x :=
      fun x hx hx' => by
        rw [hm x hx (by omega) (by omega) (by omega),
          swapFields_mem h₁ (.inl (by simp; omega)) (.inl (by simp; omega))]
    have hk' : FirstVlanStop c'.mem c'.dataEnd c'.data k := by
      rw [hd, hd₁, he, he₁]; exact hk.congr hagree
    refine (xdpIcmpEchoFunc_ipv6 (by omega) hk'
      (by rw [hd, hd₁, encapType_congr hagree le_rfl, h6])).2 fun h => absurd h.2.2.2 ?_
    rw [hd, hd₁, hq]
    decide

theorem xdpIcmpEchoFunc_reply_pass_pingEcho :
    ∃ c', xdpIcmpEchoFunc .big pingEcho = some (.tx, c') ∧
      xdpIcmpEchoFunc .little c' = some (.pass, c') :=
  ⟨_, rfl, xdpIcmpEchoFunc_reply_pass .big .little (c := pingEcho) rfl⟩

end Reply

end Solutions

end XdpTutorial
