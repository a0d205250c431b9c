import XdpTutorial.Spec.Router
import XdpTutorial.Spec.TtlChecksum
import Mathlib.Logic.Function.Iterate

/-!
# A path of routers

A frame that `xdp_router_func` redirects leaves through another device and
may reach another host running the same program. This module follows a frame
along any such path and proves what a router owes the network: it does not
forward a frame forever, and it does not break the IPv4 header.

## The model

`RouterPath f g n` says that `n` hosts, each running `xdp_router_func` on the
frame the one before it sent and each redirecting it, take the frame `f` to
the frame `g`. Every hop has its own byte order, route lookup and `tx_port`.

## What is proved

`routerVerdict_redirect` says once what a redirect is: the success branch of
the lookup, on an IPv4 or IPv6 frame that was looked up. The facts about one
hop follow from it, and from those, by induction on the path,
`routerPath_hopBound`: the TTL of an IPv4 frame, or the hop limit of an IPv6
frame, drops by exactly one per hop and never wraps, so a frame that starts
with `t` is redirected at most `t - 1` times; and `routerPath_ipv4Header`: an
IPv4 header that is complete and carries a correct checksum reaches every
hop as the header with its TTL decremented and its checksum computed from
scratch once per hop before it, so its checksum is still correct.
-/

namespace XdpTutorial.Solutions

/-! ### The bytes a redirect writes -/

section Frame

variable {e : Endian} {f : List UInt8} {i : ℕ}

theorem length_ipv4DecreaseTtl (h : 26 ≤ f.length) : (ipv4DecreaseTtl e f).length = f.length := by
  rw [ipv4DecreaseTtl, length_patch (by simp [patch]; omega), length_patch (by simp; omega)]

theorem getD_ipv4DecreaseTtl_of_lt (h : 26 ≤ f.length) (hi : i < 22) :
    (ipv4DecreaseTtl e f).getD i 0 = f.getD i 0 := by
  rw [ipv4DecreaseTtl, getD_patch_of_lt (by simp [patch]; omega) hi,
    getD_patch_of_lt (by simp; omega) (by omega)]

theorem getD_ipv4DecreaseTtl_ttl (h : 26 ≤ f.length) :
    (ipv4DecreaseTtl e f).getD 22 0 = f.getD 22 0 - 1 :=
  getD_patch_self (i := 0) (by simp [patch]; omega) (by simp)

theorem length_ipv6DecreaseHopLimit (h : 22 ≤ f.length) :
    (ipv6DecreaseHopLimit f).length = f.length :=
  length_patch (by simp; omega)

theorem getD_ipv6DecreaseHopLimit_of_lt (h : 22 ≤ f.length) (hi : i < 21) :
    (ipv6DecreaseHopLimit f).getD i 0 = f.getD i 0 :=
  getD_patch_of_lt (by simp; omega) hi

theorem getD_ipv6DecreaseHopLimit_hopLimit (h : 22 ≤ f.length) :
    (ipv6DecreaseHopLimit f).getD 21 0 = f.getD 21 0 - 1 :=
  getD_patch_self (i := 0) (by simp; omega) (by simp)

theorem length_forward {g : List UInt8} (ps : BpfFibLookup) (hg : 12 ≤ g.length) :
    (patch (patch g 0 ps.dmac.bytes) 6 ps.smac.bytes).length = g.length := by
  rw [length_patch (by simp [patch]; omega), length_patch (by simp; omega)]

end Frame

/-! ### One hop -/

section Hop

variable {e : Endian} {txPort : UInt32 → XdpAction} {f g : List UInt8} {lookup : ℤ × BpfFibLookup}

/-- The verdict decided before the lookup is a drop or a pass, never a redirect. -/
theorem routerEarlyVerdict_ne_redirect (f : List UInt8) : routerEarlyVerdict f ≠ some .redirect := by
  unfold routerEarlyVerdict
  split_ifs <;> simp

/-- **What a redirect is.** The router redirects only on the success branch of the lookup, for
an IPv4 frame holding its header with a TTL above `1` or an IPv6 frame holding its header with a
hop limit above `1`; it decrements that byte and writes the next hop's addresses. -/
theorem routerVerdict_redirect (h : routerVerdict e txPort f lookup = (.redirect, g)) :
    (etherType f = UInt16.ofNat ethPIp ∧ 34 ≤ f.length ∧ 1 < (f.getD 22 0).toNat ∧
        g = patch (patch (ipv4DecreaseTtl e f) 0 lookup.2.dmac.bytes) 6 lookup.2.smac.bytes) ∨
      (etherType f = UInt16.ofNat ethPIpv6 ∧ 54 ≤ f.length ∧ 1 < (f.getD 21 0).toNat ∧
        g = patch (patch (ipv6DecreaseHopLimit f) 0 lookup.2.dmac.bytes) 6 lookup.2.smac.bytes) := by
  cases hv : routerEarlyVerdict f with
  | some a =>
    rw [routerVerdict_of_early hv, Prod.mk.injEq] at h
    exact absurd (h.1 ▸ hv) (routerEarlyVerdict_ne_redirect f)
  | none =>
    rw [routerVerdict_of_lookup hv] at h
    unfold forwardVerdict at h
    by_cases h₀ : lookup.1 = bpfFibLkupRetSuccess
    swap
    · split_ifs at h <;> simp only [Prod.mk.injEq, reduceCtorEq, false_and] at h
    rw [if_pos h₀, Prod.mk.injEq] at h
    obtain ⟨-, rfl⟩ := h
    rcases routerEarlyVerdict_eq_none hv with ⟨h4, hlen, httl⟩ | ⟨h4, h6, hlen, hhop⟩
    · exact .inl ⟨h4, hlen, httl, by rw [if_pos h4]⟩
    · exact .inr ⟨h6, hlen, hhop, by rw [if_neg h4]⟩

/-- A redirect by `xdp_router_func` is one by the contract, for the lookup's answer. -/
theorem xdpRouterFunc_redirect {fib : FibLookup} {ctx ctx' : XdpMd}
    (h : xdpRouterFunc e ctx fib txPort = some (.redirect, ctx')) :
    ∃ lookup, routerVerdict e txPort ctx.frame lookup = (.redirect, ctx'.frame) := by
  obtain ⟨ps, hps⟩ := xdpRouterFunc_yields e txPort ctx
  obtain ⟨c', hc', -, -, hf⟩ := hps fib
  rw [h, Option.some.injEq, Prod.mk.injEq] at hc'
  obtain ⟨h₁, rfl⟩ := hc'
  exact ⟨fib ctx ps, Prod.ext h₁.symm hf.symm⟩

variable (h : routerVerdict e txPort f lookup = (.redirect, g))
include h

/-- A redirect changes no byte from the ethertype up to the hop limit. -/
theorem getD_of_redirect (h12 : 12 ≤ i) (hi : i < 21) : g.getD i 0 = f.getD i 0 := by
  rcases routerVerdict_redirect h with ⟨-, hlen, -, rfl⟩ | ⟨-, hlen, -, rfl⟩
  · rw [getD_forward _ (by rw [length_ipv4DecreaseTtl (by omega)]; omega) h12,
      getD_ipv4DecreaseTtl_of_lt (by omega) (by omega)]
  · rw [getD_forward _ (by rw [length_ipv6DecreaseHopLimit (by omega)]; omega) h12,
      getD_ipv6DecreaseHopLimit_of_lt (by omega) hi]

theorem etherType_of_redirect : etherType g = etherType f := by
  rw [etherType, etherType, getD_of_redirect h le_rfl (by omega),
    getD_of_redirect h (by omega) (by omega)]

theorem length_of_redirect : g.length = f.length := by
  rcases routerVerdict_redirect h with ⟨-, hlen, -, rfl⟩ | ⟨-, hlen, -, rfl⟩
  · rw [length_forward _ (by rw [length_ipv4DecreaseTtl (by omega)]; omega),
      length_ipv4DecreaseTtl (by omega)]
  · rw [length_forward _ (by rw [length_ipv6DecreaseHopLimit (by omega)]; omega),
      length_ipv6DecreaseHopLimit (by omega)]

/-- A redirect takes one off the TTL of an IPv4 frame, which was above `1`. -/
theorem ttl_of_redirect (h4 : etherType f = UInt16.ofNat ethPIp) :
    1 < (f.getD 22 0).toNat ∧ (g.getD 22 0).toNat + 1 = (f.getD 22 0).toNat := by
  rcases routerVerdict_redirect h with ⟨-, hlen, httl, rfl⟩ | ⟨h6, -⟩
  · rw [getD_forward _ (by rw [length_ipv4DecreaseTtl (by omega)]; omega) (by omega),
      getD_ipv4DecreaseTtl_ttl (by omega), u8_toNat_sub_one (by omega)]
    omega
  · exact absurd (h4.symm.trans h6) (by decide)

/-- A redirect takes one off the hop limit of an IPv6 frame, which was above `1`. -/
theorem hopLimit_of_redirect (h6 : etherType f = UInt16.ofNat ethPIpv6) :
    1 < (f.getD 21 0).toNat ∧ (g.getD 21 0).toNat + 1 = (f.getD 21 0).toNat := by
  rcases routerVerdict_redirect h with ⟨h4, -⟩ | ⟨-, hlen, hhop, rfl⟩
  · exact absurd (h4.symm.trans h6) (by decide)
  · rw [getD_forward _ (by rw [length_ipv6DecreaseHopLimit (by omega)]; omega) (by omega),
      getD_ipv6DecreaseHopLimit_hopLimit (by omega), u8_toNat_sub_one (by omega)]
    omega

end Hop

/-! ### The IPv4 header along the way -/

/-- The IPv4 header of an Ethernet frame without VLAN tags, where `xdp_router_func` reads it:
the `4 * ihl` bytes after the Ethernet header. -/
def ipv4Header (f : List UInt8) : List UInt8 := (f.drop 14).take (ipv4HeaderLength f 14)

section Header

variable {e : Endian} {f : List UInt8} {i : ℕ}

theorem length_ipv4Header (hfit : 14 + ipv4HeaderLength f 14 ≤ f.length) :
    (ipv4Header f).length = ipv4HeaderLength f 14 := by
  simp only [ipv4Header, List.length_take, List.length_drop]; omega

theorem getD_ipv4Header (hi : i < ipv4HeaderLength f 14) :
    (ipv4Header f).getD i 0 = f.getD (14 + i) 0 := by
  simp only [ipv4Header, List.getD_eq_getElem?_getD, List.getElem?_take_of_lt hi,
    List.getElem?_drop]

/-- Writing the next hop's addresses leaves the IPv4 header. -/
theorem ipv4Header_forward {d : List UInt8} (ps : BpfFibLookup) (hd : 12 ≤ d.length) :
    ipv4Header (patch (patch d 0 ps.dmac.bytes) 6 ps.smac.bytes) = ipv4Header d := by
  rw [ipv4Header, ipv4Header, ipv4HeaderLength, ipv4HeaderLength, getD_forward ps hd (by omega),
    drop_patch_of_le (by simp [patch]; omega) (by simp), drop_patch_of_le (by simp; omega) (by simp)]

/-- `ip_decrease_ttl` on the frame makes its two stores on the header. -/
theorem ipv4Header_ipv4DecreaseTtl (hL : 12 ≤ ipv4HeaderLength f 14)
    (hfit : 14 + ipv4HeaderLength f 14 ≤ f.length) :
    ipv4Header (ipv4DecreaseTtl e f) =
      patch (patch (ipv4Header f) 10 (e.store16 (ipDecreaseTtlCheck e
        (e.load16 ((ipv4Header f).getD 10 0) ((ipv4Header f).getD 11 0)))))
        8 [(ipv4Header f).getD 8 0 - 1] := by
  have hlen : 26 ≤ f.length := by omega
  have hL' : ipv4HeaderLength (ipv4DecreaseTtl e f) 14 = ipv4HeaderLength f 14 := by
    rw [ipv4HeaderLength, ipv4HeaderLength, getD_ipv4DecreaseTtl_of_lt hlen (by omega)]
  rw [getD_ipv4Header (i := 8) (by omega), getD_ipv4Header (i := 10) (by omega),
    getD_ipv4Header (i := 11) (by omega), ipv4Header, ipv4Header, hL', ipv4DecreaseTtl,
    drop_patch (by simp [patch]; omega) (by omega), drop_patch (by simp; omega) (by omega),
    take_patch (by simp [patch]; omega) (by simp; omega), take_patch (by simp; omega) (by simp; omega)]

/-- **One hop on the header.** A redirect of an IPv4 frame whose header is complete and carries
a correct checksum leaves the header with the TTL decremented and the checksum computed from
scratch. -/
theorem ipv4Header_of_redirect {txPort : UInt32 → XdpAction} {g : List UInt8}
    {lookup : ℤ × BpfFibLookup} (h : routerVerdict e txPort f lookup = (.redirect, g))
    (h4 : etherType f = UInt16.ofNat ethPIp) (hihl : 20 ≤ ipv4HeaderLength f 14)
    (hfit : 14 + ipv4HeaderLength f 14 ≤ f.length) (hc : Ipv4ChecksumCorrect (ipv4Header f)) :
    ipv4Header g = decreaseTtlRecompute (ipv4Header f) := by
  have httl := (ttl_of_redirect h h4).1
  rcases routerVerdict_redirect h with ⟨-, hlen, -, rfl⟩ | ⟨h6, -⟩
  · have h0 : 1 ≤ ((ipv4Header f).getD 0 0).toNat := by
      rw [getD_ipv4Header (i := 0) (by omega), Nat.add_zero]; unfold ipv4HeaderLength at hihl; omega
    rw [ipv4Header_forward _ (by rw [length_ipv4DecreaseTtl (by omega)]; omega),
      ipv4Header_ipv4DecreaseTtl (by omega) hfit]
    exact decreaseTtl_patch e (by rw [length_ipv4Header hfit]; omega) h0
      (by rw [getD_ipv4Header (i := 8) (by omega)]; exact Nat.le_of_lt httl) hc
  · exact absurd (h4.symm.trans h6) (by decide)

end Header

/-! ### Paths -/

/-- `RouterPath f g n`: `n` hosts running `xdp_router_func`, each on the frame the one before it
sent and each redirecting it, take the frame `f` to the frame `g`. Every hop has its own byte
order, route lookup and `tx_port`. -/
inductive RouterPath : List UInt8 → List UInt8 → ℕ → Prop
  /-- No hop: the frame as it was sent. -/
  | nil (f : List UInt8) : RouterPath f f 0
  /-- A host receives `f` as the packet of `ctx` and redirects it as `ctx'`; the rest of the
  path takes the frame of `ctx'` on. -/
  | hop {f g : List UInt8} {n : ℕ} (e : Endian) (fib : FibLookup) (txPort : UInt32 → XdpAction)
      {ctx ctx' : XdpMd} (hf : ctx.frame = f)
      (hr : xdpRouterFunc e ctx fib txPort = some (.redirect, ctx')) :
      RouterPath ctx'.frame g n → RouterPath f g (n + 1)

/-- The first hop of a path, over the frames. -/
theorem RouterPath.first {e : Endian} {fib : FibLookup} {txPort : UInt32 → XdpAction}
    {ctx ctx' : XdpMd} {f : List UInt8} (hf : ctx.frame = f)
    (hr : xdpRouterFunc e ctx fib txPort = some (.redirect, ctx')) :
    ∃ lookup, routerVerdict e txPort f lookup = (.redirect, ctx'.frame) :=
  hf ▸ xdpRouterFunc_redirect hr

/-- **A frame is redirected fewer times than its TTL.** Along every path of routers running
`xdp_router_func`, whatever their byte orders, route lookups and `tx_port` maps, the frame keeps
its ethertype and its length; an IPv4 frame loses exactly one from its TTL, and an IPv6 frame
from its hop limit, at each hop, without wrapping, so a frame that starts with `t` is redirected
at most `t - 1` times. -/
theorem routerPath_hopBound {f g : List UInt8} {n : ℕ} (h : RouterPath f g n) :
    etherType g = etherType f ∧ g.length = f.length ∧
      (etherType f = UInt16.ofNat ethPIp →
        (g.getD 22 0).toNat + n = (f.getD 22 0).toNat ∧ n ≤ (f.getD 22 0).toNat - 1) ∧
      (etherType f = UInt16.ofNat ethPIpv6 →
        (g.getD 21 0).toNat + n = (f.getD 21 0).toNat ∧ n ≤ (f.getD 21 0).toNat - 1) := by
  induction h with
  | nil f => exact ⟨rfl, rfl, fun _ => ⟨rfl, Nat.zero_le _⟩, fun _ => ⟨rfl, Nat.zero_le _⟩⟩
  | hop e fib txPort hf hr _ ih =>
    obtain ⟨lookup, hv⟩ := RouterPath.first hf hr
    obtain ⟨hE, hL, h4, h6⟩ := ih
    have hE₁ := etherType_of_redirect hv
    refine ⟨hE.trans hE₁, hL.trans (length_of_redirect hv), fun h4' => ?_, fun h6' => ?_⟩
    · have := ttl_of_redirect hv h4'
      have := h4 (hE₁.trans h4')
      omega
    · have := hopLimit_of_redirect hv h6'
      have := h6 (hE₁.trans h6')
      omega

/-- A frame carrying `carryHeader` from `02:00:00:00:00:02` to `02:00:00:00:00:01`: IPv4 with
TTL `64` and the checksum `0xFEFF`. -/
def routedFrame : XdpMd :=
  ⟨fun a => ([2, 0, 0, 0, 0, 1, 2, 0, 0, 0, 0, 2, 0x08, 0x00] ++ carryHeader).getD a 0, 0, 34, 0, 0,
    by decide⟩

/-- A route lookup that sends every packet to the next hop `02:00:00:00:00:03` through device
`2`. -/
def nextHopLookup : FibLookup := fun _ ps =>
  (bpfFibLkupRetSuccess,
    { ps with ifindex := 2, smac := ⟨[2, 0, 0, 0, 0, 4], rfl⟩, dmac := ⟨[2, 0, 0, 0, 0, 3], rfl⟩ })

/-- A big-endian router with that lookup redirects `routedFrame`: a path of one hop. -/
theorem routedFrame_path : ∃ g, RouterPath routedFrame.frame g 1 := by
  have h : (xdpRouterFunc .big routedFrame nextHopLookup fun _ => .redirect).map Prod.fst =
      some .redirect := by decide
  obtain ⟨⟨a, ctx'⟩, hr, rfl⟩ := Option.map_eq_some'.1 h
  exact ⟨_, .hop .big nextHopLookup _ rfl hr (.nil _)⟩

theorem routerPath_hopBound_routedFrame :
    ∃ g, RouterPath routedFrame.frame g 1 ∧ (g.getD 22 0).toNat = 63 := by
  obtain ⟨g, hg⟩ := routedFrame_path
  have h64 : (routedFrame.frame.getD 22 0).toNat = 64 := by decide
  have := ((routerPath_hopBound hg).2.2.1 (by decide)).1
  exact ⟨g, hg, by omega⟩

/-- **Every hop receives a correct IPv4 header.** Along every path of routers running
`xdp_router_func`, an IPv4 frame whose header of `4 * ihl ≥ 20` bytes is complete and carries a
correct checksum arrives with the header it was sent with, its TTL decremented and its checksum
computed from scratch once per hop: the checksum is still correct at every hop. -/
theorem routerPath_ipv4Header {f g : List UInt8} {n : ℕ} (h : RouterPath f g n)
    (h4 : etherType f = UInt16.ofNat ethPIp) (hihl : 20 ≤ ipv4HeaderLength f 14)
    (hfit : 14 + ipv4HeaderLength f 14 ≤ f.length) (hc : Ipv4ChecksumCorrect (ipv4Header f)) :
    ipv4Header g = decreaseTtlRecompute^[n] (ipv4Header f) ∧ Ipv4ChecksumCorrect (ipv4Header g) := by
  induction h with
  | nil f => exact ⟨rfl, hc⟩
  | @hop f g n e fib txPort ctx ctx' hf hr _ ih =>
    obtain ⟨lookup, hv⟩ := RouterPath.first hf hr
    have hL : ipv4HeaderLength ctx'.frame 14 = ipv4HeaderLength f 14 := by
      rw [ipv4HeaderLength, ipv4HeaderLength, getD_of_redirect hv (by omega) (by omega)]
    have hH := ipv4Header_of_redirect hv h4 hihl hfit hc
    have hlen := length_of_redirect hv
    obtain ⟨ih₁, ih₂⟩ := ih ((etherType_of_redirect hv).trans h4) (by omega) (by omega)
      (by rw [hH]; exact ipv4ChecksumCorrect_decreaseTtlRecompute (by rw [length_ipv4Header hfit]; omega))
    exact ⟨by rw [ih₁, hH, Function.iterate_succ_apply], ih₂⟩

/-- After one hop the checksum of `routedFrame`'s header is `0x0000`: the carry case of
`ip_decrease_ttl`, computed from scratch. -/
theorem routerPath_ipv4Header_routedFrame :
    ∃ g, RouterPath routedFrame.frame g 1 ∧ Ipv4ChecksumCorrect (ipv4Header g) ∧
      ipv4Check (ipv4Header g) = 0 := by
  obtain ⟨g, hg⟩ := routedFrame_path
  obtain ⟨h₁, h₂⟩ := routerPath_ipv4Header hg (by decide) (by decide) (by decide) (by decide)
  exact ⟨g, hg, h₂, by rw [h₁]; decide⟩

end XdpTutorial.Solutions
