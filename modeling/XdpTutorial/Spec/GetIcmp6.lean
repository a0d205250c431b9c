import XdpTutorial.Spec.Ethhdr

/-!
# The `get_*` and `parse_*` paths to the ICMPv6 header

`parsing_helpers.h` offers two ways to reach an ICMPv6 header. The `parse_*` helpers return the
type of what follows and leave the test to the caller, as packet02's `xdp_parser_func` does:
`parse_ethhdr`, then on `ETH_P_IPV6` `parse_ip6hdr`, then on `IPPROTO_ICMPV6` `parse_icmp6hdr`
(`parseEthIcmp6hdr`). The `get_*` helpers make the test themselves and return `NULL` when it
fails: `get_ethhdr`, `get_ip6hdr`, `get_icmp6hdr` (`getEthIcmp6hdr`). This module proves that the
two paths find the same header, from any cursor and on either host, and leave the cursor after it.
-/

namespace XdpTutorial

/-- The `get_*` path to the ICMPv6 header, as a caller takes it: `get_icmp6hdr` after the `get_*`
path to the IPv6 header, if that found one. Returns the ICMPv6 header, or `NULL`, and the
cursor. -/
def getEthIcmp6hdr (e : Endian) (ctx : XdpMd) (nh : Ptr) : Option (Option Ptr × Ptr) := do
  match ← getEthIp6hdr e ctx nh with
  | (some ip6h, nh) => getIcmp6hdr ctx ip6h nh ctx.dataEnd
  | (none, nh) => pure (none, nh)

/-- The `parse_*` path to the ICMPv6 header, as packet02's `xdp_parser_func` takes it: the header
`parse_icmp6hdr` stores, or `NULL` when a type test fails, and the cursor. -/
def parseEthIcmp6hdr (e : Endian) (ctx : XdpMd) (nh : Ptr) : Option (Option Ptr × Ptr) := do
  let r ← parseEthhdr e ctx nh ctx.dataEnd
  if r.ret ≠ ethPIpv6 then pure (none, r.pos)
  else do
    let r ← parseIp6hdr ctx r.pos ctx.dataEnd
    if r.ret ≠ ipprotoIcmpv6 then pure (none, r.pos)
    else do
      let r ← parseIcmp6hdr ctx r.pos ctx.dataEnd
      pure (r.hdr, r.pos)

section Paths

variable {e : Endian} {ctx : XdpMd} {p : Ptr}

/-- From the IPv6 header at `q`, with the cursor after it, `get_icmp6hdr` finds the header at the
cursor exactly when the next header is ICMPv6 and the header fits. -/
theorem getIcmp6hdr_eq {q : Ptr} (hq : ctx.Cursor q) (h40 : q.addr + 40 ≤ ctx.dataEnd) :
    getIcmp6hdr ctx q (q + 40) ctx.dataEnd =
      some (if (ctx.mem (q.addr + 6)).toNat = ipprotoIcmpv6 ∧ q.addr + 48 ≤ ctx.dataEnd
        then (some (q + 40), q + 40 + 8) else (none, q + 40)) := by
  simp only [getIcmp6hdr, XdpMd.load8_eq (hq.canAccess (k := 6) (by omega)), Option.bind_eq_bind,
    Option.some_bind, Ptr.add_addr, ne_eq, gt_iff_lt]
  by_cases h58 : (ctx.mem (q.addr + 6)).toNat = ipprotoIcmpv6
  · by_cases h48 : q.addr + 48 ≤ ctx.dataEnd
    · rw [if_neg (not_not.2 h58), if_neg (by omega), if_pos ⟨h58, h48⟩]
      rfl
    · rw [if_neg (not_not.2 h58), if_pos (by omega), if_neg fun h => h48 h.2]
      rfl
  · rw [if_pos h58, if_neg fun h => h58 h.1]
    rfl

/-- From the IPv6 header at `q`, the `parse_*` path's last two steps find the header after it
exactly when `get_icmp6hdr` does, and then leave the cursor after it. -/
theorem parseIcmp6hdr_after_ip6 {q : Ptr} (hq : ctx.Cursor q) (h40 : q.addr + 40 ≤ ctx.dataEnd) :
    ((parseIp6hdr ctx q ctx.dataEnd).bind fun r =>
      if ¬r.ret = ipprotoIcmpv6 then pure (none, r.pos)
      else (parseIcmp6hdr ctx r.pos ctx.dataEnd).bind fun r => pure (r.hdr, r.pos)) =
      some (if (ctx.mem (q.addr + 6)).toNat = ipprotoIcmpv6 ∧ q.addr + 48 ≤ ctx.dataEnd
        then (some (q + 40), q + 40 + 8) else (none, q + 40)) := by
  rw [parseIp6hdr_eq hq, if_neg (by omega), Option.some_bind]
  dsimp only
  by_cases h58 : (ctx.mem (q.addr + 6)).toNat = ipprotoIcmpv6
  · rw [if_neg (not_not.2 (congrArg _ h58)), parseIcmp6hdr_eq (hq.add h40), Option.some_bind, Ptr.add_addr]
    by_cases h48 : q.addr + 48 ≤ ctx.dataEnd
    · rw [if_neg (by omega), if_pos ⟨h58, h48⟩]
      rfl
    · rw [if_pos (by omega), if_neg fun h => h48 h.2]
      rfl
  · rw [if_pos (mt Int.ofNat_inj.1 h58), if_neg fun h => h58 h.1]
    rfl

end Paths

/-- **The two paths to the ICMPv6 header agree.** From any cursor and on either host, the
`get_*` path finds an ICMPv6 header exactly when the `parse_*` path does, the same one, and then
both leave the cursor right after it. -/
theorem getIcmp6hdr_parse_agree (e : Endian) (ctx : XdpMd) {p : Ptr} (hp : ctx.Cursor p) :
    ∃ g r, getEthIcmp6hdr e ctx p = some g ∧ parseEthIcmp6hdr e ctx p = some r ∧ g.1 = r.1 ∧
      ∀ q, g.1 = some q → g.2 = q + 8 ∧ r.2 = q + 8 := by
  by_cases hfit : p.addr + 14 ≤ ctx.dataEnd
  · obtain ⟨k, hk⟩ := firstVlanStop_exists ctx.mem ctx.dataEnd p.addr
    have hq : ctx.Cursor (p + (14 + 4 * k)) := hp.add (by have := hk.fits hfit; omega)
    simp only [getEthIcmp6hdr, parseEthIcmp6hdr, getEthIp6hdr_first hp hfit hk,
      parseEthhdr_first hp hfit hk, Option.bind_eq_bind, Option.some_bind, ne_eq,
      toNat_eq_ethPIpv6]
    by_cases h6 : encapType ctx.mem p.addr k = UInt16.ofNat ethPIpv6
    · by_cases h40 : p.addr + 14 + 4 * k + 40 ≤ ctx.dataEnd
      · have h40' : (p + (14 + 4 * k)).addr + 40 ≤ ctx.dataEnd := by simp; omega
        rw [if_pos ⟨h6, h40⟩, if_neg (not_not.2 h6)]
        dsimp only
        rw [getIcmp6hdr_eq hq h40', parseIcmp6hdr_after_ip6 hq h40']
        refine ⟨_, _, rfl, rfl, rfl, fun q hq' => ?_⟩
        split_ifs at hq' ⊢
        cases hq'
        exact ⟨rfl, rfl⟩
      · rw [if_neg fun h => h40 h.2, if_neg (not_not.2 h6), parseIp6hdr_eq hq,
          if_pos (by simp; omega), Option.some_bind]
        dsimp only
        rw [if_pos (by decide)]
        exact ⟨_, _, rfl, rfl, rfl, fun q hq' => by cases hq'⟩
    · rw [if_neg fun h => h6 h.1, if_pos h6]
      exact ⟨_, _, rfl, rfl, rfl, fun q hq' => by cases hq'⟩
  · have hg : getEthIcmp6hdr e ctx p = some (none, p) := by
      simp only [getEthIcmp6hdr, getEthIp6hdr, getEthhdr, if_pos (show p.addr + 14 > ctx.dataEnd by
        omega)]
      rfl
    refine ⟨_, _, hg, ?_, rfl, fun q hq' => by cases hq'⟩
    simp only [parseEthIcmp6hdr, parseEthhdr, if_pos (show p.addr + 14 > ctx.dataEnd by omega)]
    rfl

theorem getIcmp6hdr_parse_agree_qinqIpv6Frame :
    ∃ g r, getEthIcmp6hdr .big qinqIpv6Frame qinqIpv6Frame.dataPtr = some g ∧
      parseEthIcmp6hdr .big qinqIpv6Frame qinqIpv6Frame.dataPtr = some r ∧ g.1 = r.1 ∧
      ∀ q, g.1 = some q → g.2 = q + 8 ∧ r.2 = q + 8 :=
  getIcmp6hdr_parse_agree .big qinqIpv6Frame XdpMd.cursor_dataPtr

end XdpTutorial
