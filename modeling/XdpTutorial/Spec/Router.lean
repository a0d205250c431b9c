import XdpTutorial.Solutions.Router

/-!
# The router's contract

`xdp_router_func` forwards a packet when the kernel's routing table knows the
next hop, and drops or passes it otherwise. This module says over the frame's
bytes what that means (`routerVerdict`) and proves that the program computes
it, for every frame, every outcome of `bpf_fib_lookup` and every redirect
through `tx_port`.

## The contract

`routerEarlyVerdict` is what is decided before the route lookup: a frame too
short for its Ethernet header, or for the 20-byte IPv4 or 40-byte IPv6 header
its ethertype announces, is dropped; a frame of another ethertype, or with a
TTL or hop limit of at most `1`, is passed; the rest is looked up.
`forwardVerdict` is the switch on the lookup's return code: on success the
frame with its TTL or hop limit decremented (`ipv4DecreaseTtl`,
`ipv6DecreaseHopLimit`) gets the next hop's addresses and goes to
`tx_port[ifindex]`; the codes of an unroutable destination drop the frame and
every other code passes it, unchanged.

## What is proved

`routerFibParams_early`, `routerFibParams_lookup` and the `routerForward_*`
lemmas say what the code before and after the helper's call does.
`xdpRouterFunc_spec` puts them together: the program's verdict and frame are
`routerVerdict`'s, with the lookup asked once, on parameters that do not
depend on its answer; and a redirected packet's TTL or hop limit never wraps
around.
-/

namespace XdpTutorial.Solutions

/-! ### The contract over the frame's bytes -/

/-- `ip_decrease_ttl` on an Ethernet frame carrying IPv4: the checksum at bytes 24–25 patched,
then the TTL at byte 22 decremented. -/
def ipv4DecreaseTtl (e : Endian) (f : List UInt8) : List UInt8 :=
  patch (patch f 24 (e.store16 (ipDecreaseTtlCheck e (e.load16 (f.getD 24 0) (f.getD 25 0)))))
    22 [f.getD 22 0 - 1]

/-- An Ethernet frame carrying IPv6 with its hop limit, byte 21, decremented. -/
def ipv6DecreaseHopLimit (f : List UInt8) : List UInt8 := patch f 21 [f.getD 21 0 - 1]

/-- The router's verdict before the route lookup, or `none` if the frame is to be looked up. -/
def routerEarlyVerdict (f : List UInt8) : Option XdpAction :=
  if f.length < 14 then some .drop
  else if etherType f = UInt16.ofNat ethPIp then
    if f.length < 34 then some .drop else if f.getD 22 0 ≤ 1 then some .pass else none
  else if etherType f = UInt16.ofNat ethPIpv6 then
    if f.length < 54 then some .drop else if f.getD 21 0 ≤ 1 then some .pass else none
  else some .pass

/-- The router's verdict on the lookup's outcome `(rc, ps)`, for the frame `f` and the frame `g`
with its TTL or hop limit decremented. -/
def forwardVerdict (txPort : UInt32 → XdpAction) (f g : List UInt8)
    (lookup : ℤ × BpfFibLookup) : XdpAction × List UInt8 :=
  if lookup.1 = bpfFibLkupRetSuccess then
    (txPort lookup.2.ifindex, patch (patch g 0 lookup.2.dmac.bytes) 6 lookup.2.smac.bytes)
  else if lookup.1 = bpfFibLkupRetBlackhole ∨ lookup.1 = bpfFibLkupRetUnreachable ∨
      lookup.1 = bpfFibLkupRetProhibit then (.drop, f)
  else (.pass, f)

/-- What the router does to the frame `f` when the route lookup answers `lookup`: the verdict
and the frame it leaves. -/
def routerVerdict (e : Endian) (txPort : UInt32 → XdpAction) (f : List UInt8)
    (lookup : ℤ × BpfFibLookup) : XdpAction × List UInt8 :=
  match routerEarlyVerdict f with
  | some action => (action, f)
  | none => forwardVerdict txPort f
      (if etherType f = UInt16.ofNat ethPIp then ipv4DecreaseTtl e f else ipv6DecreaseHopLimit f)
      lookup

/-- The byte at `k` of `g` is that of `f`, or one less as a number: it did not wrap around. -/
def DecrementsWithoutWrap (f g : List UInt8) (k : ℕ) : Prop :=
  g.getD k 0 = f.getD k 0 ∨ (g.getD k 0).toNat + 1 = (f.getD k 0).toNat

/-- A frame is looked up only if it is IPv4 or IPv6, holds its IP header, and has a TTL or hop
limit above `1`. -/
theorem routerEarlyVerdict_eq_none {f : List UInt8} (h : routerEarlyVerdict f = none) :
    (etherType f = UInt16.ofNat ethPIp ∧ 34 ≤ f.length ∧ 1 < f.getD 22 0) ∨
      (etherType f ≠ UInt16.ofNat ethPIp ∧ etherType f = UInt16.ofNat ethPIpv6 ∧
        54 ≤ f.length ∧ 1 < f.getD 21 0) := by
  unfold routerEarlyVerdict at h
  split_ifs at h with h14 h4 h34 httl h6 h54 hhop
  · exact .inl ⟨h4, by omega, UInt8.not_le.1 httl⟩
  · exact .inr ⟨h4, h6, by omega, UInt8.not_le.1 hhop⟩

theorem routerVerdict_of_early {e : Endian} {txPort : UInt32 → XdpAction} {f : List UInt8}
    {lookup : ℤ × BpfFibLookup} {a : XdpAction} (hv : routerEarlyVerdict f = some a) :
    routerVerdict e txPort f lookup = (a, f) := by
  rw [routerVerdict, hv]

theorem routerVerdict_of_lookup {e : Endian} {txPort : UInt32 → XdpAction} {f : List UInt8}
    {lookup : ℤ × BpfFibLookup} (hv : routerEarlyVerdict f = none) :
    routerVerdict e txPort f lookup = forwardVerdict txPort f
      (if etherType f = UInt16.ofNat ethPIp then ipv4DecreaseTtl e f else ipv6DecreaseHopLimit f)
      lookup := by
  rw [routerVerdict, hv]

/-- The switch leaves the frame, or redirects it with the next hop's addresses. -/
theorem forwardVerdict_frame (txPort : UInt32 → XdpAction) (f g : List UInt8)
    (lookup : ℤ × BpfFibLookup) :
    (forwardVerdict txPort f g lookup).2 = f ∨
      (forwardVerdict txPort f g lookup).2 =
        patch (patch g 0 lookup.2.dmac.bytes) 6 lookup.2.smac.bytes := by
  unfold forwardVerdict
  split_ifs <;> simp

/-- Writing the next hop's addresses leaves every byte from `12` on. -/
theorem getD_forward {g : List UInt8} (ps : BpfFibLookup) {i : ℕ} (hg : 12 ≤ g.length)
    (hi : 12 ≤ i) : (patch (patch g 0 ps.dmac.bytes) 6 ps.smac.bytes).getD i 0 = g.getD i 0 := by
  rw [getD_patch_of_ge (by simp [patch]; omega) (by simp; omega),
    getD_patch_of_ge (by simp; omega) (by simp; omega)]

/-- Whatever the lookup answers, the router leaves the TTL byte of an IPv4 frame, and the hop
limit byte of an IPv6 frame, as it was or one less without wrapping. -/
theorem routerVerdict_decrementsWithoutWrap (e : Endian) (txPort : UInt32 → XdpAction)
    (f : List UInt8) (lookup : ℤ × BpfFibLookup) :
    (etherType f = UInt16.ofNat ethPIp →
        DecrementsWithoutWrap f (routerVerdict e txPort f lookup).2 22) ∧
      (etherType f = UInt16.ofNat ethPIpv6 →
        DecrementsWithoutWrap f (routerVerdict e txPort f lookup).2 21) := by
  have h46 : UInt16.ofNat ethPIpv6 ≠ UInt16.ofNat ethPIp := by decide
  cases hv : routerEarlyVerdict f with
  | some a => rw [routerVerdict_of_early hv]; exact ⟨fun _ => .inl rfl, fun _ => .inl rfl⟩
  | none =>
    rw [routerVerdict_of_lookup hv]
    rcases forwardVerdict_frame txPort f _ lookup with h | h <;> rw [h]
    · exact ⟨fun _ => .inl rfl, fun _ => .inl rfl⟩
    rcases routerEarlyVerdict_eq_none hv with ⟨h4, hlen, httl⟩ | ⟨h4, h6, hlen, hhop⟩
    · refine ⟨fun _ => .inr ?_, fun h6 => absurd (h6.symm.trans h4) h46⟩
      have httl' : 1 < (f.getD 22 0).toNat := httl
      rw [if_pos h4, getD_forward _ (by simp [ipv4DecreaseTtl, patch]; omega) (by omega),
        ipv4DecreaseTtl, getD_patch_self (i := 0) (by simp [patch]; omega) (by simp),
        List.getD_cons_zero, u8_toNat_sub_one (by omega)]
      omega
    · refine ⟨fun h => absurd h h4, fun _ => .inr ?_⟩
      have hhop' : 1 < (f.getD 21 0).toNat := hhop
      rw [if_neg h4, getD_forward _ (by simp [ipv6DecreaseHopLimit, patch]; omega) (by omega),
        ipv6DecreaseHopLimit, getD_patch_self (i := 0) (by simp; omega) (by simp),
        List.getD_cons_zero, u8_toNat_sub_one (by omega)]
      omega

/-! ### The program against the contract -/

/-- The program's result `r` on `ctx` is the verdict `v` over its frame: the same action, and a
context with the same bounds whose frame is `v`'s. -/
def Yields (ctx : XdpMd) (r : Option (XdpAction × XdpMd)) (v : XdpAction × List UInt8) : Prop :=
  ∃ c', r = some (v.1, c') ∧ c'.data = ctx.data ∧ c'.dataEnd = ctx.dataEnd ∧ c'.frame = v.2

theorem yields_self (ctx : XdpMd) (a : XdpAction) : Yields ctx (some (a, ctx)) (a, ctx.frame) :=
  ⟨ctx, rfl, rfl, rfl, rfl⟩

section Program

variable {e : Endian} {ctx : XdpMd} {txPort : UInt32 → XdpAction} {hProto : UInt16} {rc : ℤ}
  {ps : BpfFibLookup}

/-- `h_proto`, read where the Ethernet header fits, is the frame's ethertype in network order. -/
theorem load16_etherType (h : ctx.data + 14 ≤ ctx.dataEnd) :
    ctx.load16 e (ctx.dataPtr + 12) = some (bpfHtons e (etherType ctx.frame)) := by
  rw [XdpMd.load16_dataPtr (by omega), XdpMd.etherType_frame h]
  exact congrArg some ((load16_eq_bpfHtons_iff e _ _ _).2 rfl)

/-- Where the contract decides before the lookup, the code before the helper's call ends at
`out` with the same action. -/
theorem routerFibParams_early {a : XdpAction} (h : routerEarlyVerdict ctx.frame = some a) :
    routerFibParams e ctx = some (.inl a) := by
  have hlen := XdpMd.length_frame (c := ctx)
  unfold routerEarlyVerdict at h
  unfold routerFibParams
  simp only [gt_iff_lt, Ptr.add_addr, XdpMd.dataPtr_addr, Ptr.add_add, Nat.add_assoc, Nat.reduceAdd]
  by_cases h14 : ctx.dataEnd < ctx.data + 14
  · rw [if_pos (by omega)] at h; cases h; rw [if_pos h14]; rfl
  rw [if_neg (by omega)] at h
  rw [if_neg h14, load16_etherType (by omega)]
  simp only [Option.bind_eq_bind, Option.some_bind, bpfHtons_inj]
  split_ifs at h with h4 h34 httl h6 h54 hhop <;> cases h
  · simp only [h4, show ctx.dataEnd < ctx.data + 34 by omega, ↓reduceIte]; rfl
  · rw [XdpMd.getD_frame (by omega)] at httl
    simp (disch := omega) only [h4, show ¬ctx.dataEnd < ctx.data + 34 by omega, httl, ↓reduceIte,
      XdpMd.load8_dataPtr, Option.some_bind]; rfl
  · simp only [h4, h6, show ctx.dataEnd < ctx.data + 54 by omega, ↓reduceIte]; rfl
  · rw [XdpMd.getD_frame (by omega)] at hhop
    simp (disch := omega) only [h4, h6, show ¬ctx.dataEnd < ctx.data + 54 by omega, hhop,
      ↓reduceIte, XdpMd.load8_dataPtr, Option.some_bind]; rfl
  · simp only [h4, h6, ↓reduceIte]; rfl

/-- The parameters of an IPv4 packet are filled once its header fits. -/
theorem ipv4FibParams_isSome (h : ctx.data + 34 ≤ ctx.dataEnd) :
    ∃ ps, ipv4FibParams e ctx (ctx.dataPtr + 14) = some ps := by
  simp (disch := omega) only [ipv4FibParams, Ptr.add_add, Nat.reduceAdd, XdpMd.load8_dataPtr,
    XdpMd.load16_dataPtr, XdpMd.loadBytes_dataPtr, Option.bind_eq_bind, Option.some_bind]
  exact ⟨_, rfl⟩

/-- The parameters of an IPv6 packet are filled once its header fits. -/
theorem ipv6FibParams_isSome (h : ctx.data + 54 ≤ ctx.dataEnd) :
    ∃ ps, ipv6FibParams e ctx (ctx.dataPtr + 14) = some ps := by
  simp (disch := omega) only [ipv6FibParams, Ptr.add_add, Nat.reduceAdd, XdpMd.load8_dataPtr,
    XdpMd.load16_dataPtr, XdpMd.loadBytes_dataPtr, Option.bind_eq_bind, Option.some_bind]
  exact ⟨_, rfl⟩

/-- Where the contract looks the frame up, the code before the helper's call hands over
`h_proto` and parameters of its own, whatever the lookup will answer. -/
theorem routerFibParams_lookup (h : routerEarlyVerdict ctx.frame = none) :
    ∃ ps, routerFibParams e ctx = some (.inr (bpfHtons e (etherType ctx.frame), ps)) := by
  have hlen := XdpMd.length_frame (c := ctx)
  unfold routerFibParams
  simp only [gt_iff_lt, Ptr.add_addr, XdpMd.dataPtr_addr, Nat.add_assoc, Nat.reduceAdd]
  rcases routerEarlyVerdict_eq_none h with ⟨h4, h34, httl⟩ | ⟨h4, h6, h54, hhop⟩
  · rw [XdpMd.getD_frame (by omega)] at httl
    obtain ⟨ps, hps⟩ : ∃ ps, ipv4FibParams e ctx (ctx.dataPtr + 14) = some ps :=
      ipv4FibParams_isSome (by omega)
    simp (disch := omega) only [show ¬ ctx.dataEnd < ctx.data + 14 by omega,
      show ¬ ctx.dataEnd < ctx.data + 34 by omega, UInt8.not_le.2 httl, ↓reduceIte,
      load16_etherType, Option.bind_eq_bind, Option.some_bind, bpfHtons_inj, h4, Ptr.add_add,
      Nat.reduceAdd, XdpMd.load8_dataPtr, hps]
    exact ⟨_, rfl⟩
  · rw [XdpMd.getD_frame (by omega)] at hhop
    obtain ⟨ps, hps⟩ : ∃ ps, ipv6FibParams e ctx (ctx.dataPtr + 14) = some ps :=
      ipv6FibParams_isSome (by omega)
    simp (disch := omega) only [show ¬ ctx.dataEnd < ctx.data + 14 by omega,
      show ¬ ctx.dataEnd < ctx.data + 54 by omega, UInt8.not_le.2 hhop, ↓reduceIte,
      load16_etherType, Option.bind_eq_bind, Option.some_bind, bpfHtons_inj, h4, h6, Ptr.add_add,
      Nat.reduceAdd, XdpMd.load8_dataPtr, hps]
    exact ⟨_, rfl⟩

theorem routerForward_drop
    (h : rc = bpfFibLkupRetBlackhole ∨ rc = bpfFibLkupRetUnreachable ∨ rc = bpfFibLkupRetProhibit) :
    routerForward e ctx txPort hProto rc ps = some (.drop, ctx) := by
  have : rc ≠ bpfFibLkupRetSuccess := by
    simp only [bpfFibLkupRetBlackhole, bpfFibLkupRetUnreachable, bpfFibLkupRetProhibit] at h
    simp only [bpfFibLkupRetSuccess]; omega
  simp only [routerForward, this, h, if_false, if_true]; rfl

theorem routerForward_pass (h₀ : rc ≠ bpfFibLkupRetSuccess)
    (h : ¬(rc = bpfFibLkupRetBlackhole ∨ rc = bpfFibLkupRetUnreachable ∨ rc = bpfFibLkupRetProhibit)) :
    routerForward e ctx txPort hProto rc ps = some (.pass, ctx) := by
  simp only [routerForward, h₀, h, if_false]; rfl

/-- On success for an IPv4 packet, `xdp_router_func` patches the checksum, decrements the TTL,
writes the next hop's addresses and redirects; no other byte changes. -/
theorem routerForward_ipv4 (h : ctx.data + 34 ≤ ctx.dataEnd) :
    Yields ctx (routerForward e ctx txPort (bpfHtons e (UInt16.ofNat ethPIp)) 0 ps)
      (txPort ps.ifindex, patch (patch (ipv4DecreaseTtl e ctx.frame) 0 ps.dmac.bytes) 6
        ps.smac.bytes) := by
  unfold routerForward ipDecreaseTtl
  simp only [bpfFibLkupRetSuccess, eq_self_iff_true, ↓reduceIte, Ptr.add_add, Nat.reduceAdd]
  rw [XdpMd.load16_eq (ctx.canAccess_dataPtr (by omega))]
  simp only [Option.bind_eq_bind, Option.some_bind]
  rw [XdpMd.store16_eq (ctx.canAccess_dataPtr (by omega))]
  simp only [Option.some_bind]
  rw [XdpMd.load8_eq (c := ctx.write _ _) (ctx.canAccess_dataPtr (by omega))]
  simp only [Option.some_bind]
  rw [XdpMd.store8_eq (c := ctx.write _ _) (ctx.canAccess_dataPtr (by omega))]
  simp only [Option.some_bind, Option.pure_def]
  rw [XdpMd.store_eq (c := (ctx.write _ _).write _ _) (ctx.canAccess_head (by simp; omega))]
  simp only [Option.some_bind]
  rw [XdpMd.store_eq (c := ((ctx.write _ _).write _ _).write _ _)
    (ctx.canAccess_dataPtr (by simp; omega))]
  refine ⟨_, rfl, rfl, rfl, ?_⟩
  simp only [XdpMd.dataPtr_addr, Ptr.add_addr, XdpMd.write_mem, ipv4DecreaseTtl]
  rw [XdpMd.frame_write (k := 6) (by simp) (by simp; omega),
    XdpMd.frame_write (k := 0) (by simp) (by simp; omega),
    XdpMd.frame_write (k := 22) (by simp) (by simp; omega),
    XdpMd.frame_write (k := 24) rfl (by simp; omega),
    writeMem_of_lt (by omega), XdpMd.getD_frame (by omega), XdpMd.getD_frame (by omega),
    XdpMd.getD_frame (by omega)]

/-- On success for an IPv6 packet, `xdp_router_func` decrements the hop limit, writes the next
hop's addresses and redirects; no other byte changes. -/
theorem routerForward_ipv6 (h : ctx.data + 54 ≤ ctx.dataEnd) :
    Yields ctx (routerForward e ctx txPort (bpfHtons e (UInt16.ofNat ethPIpv6)) 0 ps)
      (txPort ps.ifindex, patch (patch (ipv6DecreaseHopLimit ctx.frame) 0 ps.dmac.bytes) 6
        ps.smac.bytes) := by
  have h46 : UInt16.ofNat ethPIpv6 ≠ UInt16.ofNat ethPIp := by decide
  unfold routerForward
  simp only [bpfFibLkupRetSuccess, eq_self_iff_true, ↓reduceIte, bpfHtons_inj, h46, Ptr.add_add,
    Nat.reduceAdd]
  rw [XdpMd.load8_eq (ctx.canAccess_dataPtr (by omega))]
  simp only [Option.bind_eq_bind, Option.some_bind]
  rw [XdpMd.store8_eq (ctx.canAccess_dataPtr (by omega))]
  simp only [Option.some_bind]
  rw [XdpMd.store_eq (c := ctx.write _ _) (ctx.canAccess_head (by simp; omega))]
  simp only [Option.some_bind]
  rw [XdpMd.store_eq (c := (ctx.write _ _).write _ _) (ctx.canAccess_dataPtr (by simp; omega))]
  refine ⟨_, rfl, rfl, rfl, ?_⟩
  simp only [XdpMd.dataPtr_addr, Ptr.add_addr, ipv6DecreaseHopLimit]
  rw [XdpMd.frame_write (k := 6) (by simp) (by simp; omega),
    XdpMd.frame_write (k := 0) (by simp) (by simp; omega),
    XdpMd.frame_write (k := 21) rfl (by simp; omega), XdpMd.getD_frame (by omega)]

/-- On success the code after the helper's call does what the contract says for an IPv4 or
IPv6 frame that is looked up. -/
theorem routerForward_success (hv : routerEarlyVerdict ctx.frame = none) (ps : BpfFibLookup) :
    Yields ctx (routerForward e ctx txPort (bpfHtons e (etherType ctx.frame)) 0 ps)
      (txPort ps.ifindex, patch (patch (if etherType ctx.frame = UInt16.ofNat ethPIp then
        ipv4DecreaseTtl e ctx.frame else ipv6DecreaseHopLimit ctx.frame) 0 ps.dmac.bytes) 6
        ps.smac.bytes) := by
  have hlen := XdpMd.length_frame (c := ctx)
  rcases routerEarlyVerdict_eq_none hv with ⟨h4, h34, -⟩ | ⟨h4, h6, h54, -⟩
  · rw [if_pos h4, h4]; exact routerForward_ipv4 (by omega)
  · rw [if_neg h4, h6]; exact routerForward_ipv6 (by omega)

/-- The switch on the lookup's return code does what the contract says, given what it does on
success. -/
theorem routerForward_verdict {g : List UInt8}
    (hs : ∀ ps, Yields ctx (routerForward e ctx txPort hProto 0 ps)
      (txPort ps.ifindex, patch (patch g 0 ps.dmac.bytes) 6 ps.smac.bytes))
    (lookup : ℤ × BpfFibLookup) :
    Yields ctx (routerForward e ctx txPort hProto lookup.1 lookup.2)
      (forwardVerdict txPort ctx.frame g lookup) := by
  unfold forwardVerdict
  split_ifs with h₀ h₁
  · rw [h₀]; exact hs _
  · rw [routerForward_drop h₁]; exact yields_self ctx .drop
  · rw [routerForward_pass h₀ h₁]; exact yields_self ctx .pass

theorem xdpRouterFunc_of_early {fib : FibLookup} {a : XdpAction}
    (h : routerFibParams e ctx = some (.inl a)) : xdpRouterFunc e ctx fib txPort = some (a, ctx) := by
  simp only [xdpRouterFunc, h, Option.bind_eq_bind, Option.some_bind]; rfl

theorem xdpRouterFunc_of_lookup {fib : FibLookup}
    (h : routerFibParams e ctx = some (.inr (hProto, ps))) :
    xdpRouterFunc e ctx fib txPort = routerForward e ctx txPort hProto (fib ctx ps).1 (fib ctx ps).2 := by
  simp only [xdpRouterFunc, h, Option.bind_eq_bind, Option.some_bind]

/-- For every frame the code builds the lookup's parameters from the frame alone, and whatever
the lookup answers, the verdict and the frame are the contract's. -/
theorem xdpRouterFunc_yields (e : Endian) (txPort : UInt32 → XdpAction) (ctx : XdpMd) :
    ∃ ps, ∀ fib : FibLookup,
      Yields ctx (xdpRouterFunc e ctx fib txPort) (routerVerdict e txPort ctx.frame (fib ctx ps)) := by
  cases hv : routerEarlyVerdict ctx.frame with
  | some a =>
    refine ⟨.zero, fun fib => ?_⟩
    rw [xdpRouterFunc_of_early (routerFibParams_early hv), routerVerdict_of_early hv]
    exact yields_self ctx a
  | none =>
    obtain ⟨ps, hps⟩ := routerFibParams_lookup (e := e) hv
    refine ⟨ps, fun fib => ?_⟩
    rw [xdpRouterFunc_of_lookup hps, routerVerdict_of_lookup hv]
    exact routerForward_verdict (routerForward_success hv) (fib ctx ps)

end Program

/-- **The router meets its contract.** For every frame, `xdp_router_func` builds the lookup's
parameters `ps` from the frame alone; whatever `bpf_fib_lookup` then answers, the verdict and the
frame are `routerVerdict`'s for that answer, with the bounds of the packet unchanged. And no
answer makes the router wrap a TTL or hop limit around. -/
theorem xdpRouterFunc_spec (e : Endian) (txPort : UInt32 → XdpAction) :
    (∀ ctx : XdpMd, ∃ ps, ∀ fib : FibLookup,
      Yields ctx (xdpRouterFunc e ctx fib txPort) (routerVerdict e txPort ctx.frame (fib ctx ps))) ∧
    ∀ f lookup, (etherType f = UInt16.ofNat ethPIp →
        DecrementsWithoutWrap f (routerVerdict e txPort f lookup).2 22) ∧
      (etherType f = UInt16.ofNat ethPIpv6 →
        DecrementsWithoutWrap f (routerVerdict e txPort f lookup).2 21) :=
  ⟨xdpRouterFunc_yields e txPort, routerVerdict_decrementsWithoutWrap e txPort⟩


/-! ### `xdp_redirect_map_func` -/

/-- What `xdp_redirect_map_func` does to the frame `f`: a frame too short for its Ethernet
header, or whose source address (bytes 6–11) `redirect_params` does not hold, is passed
unchanged; otherwise the address found is written as the destination (bytes 0–5) and the frame
goes where `bpf_redirect_map(&tx_port, 0, 0)` sends it. -/
def redirectMapVerdict (redirectParams : List UInt8 → Option EthAddr) (txPort : UInt32 → XdpAction)
    (f : List UInt8) : XdpAction × List UInt8 :=
  if f.length < 14 then (.pass, f)
  else match redirectParams ((f.drop 6).take 6) with
    | none => (.pass, f)
    | some dst => (txPort 0, patch f 0 dst.bytes)

section RedirectMap

variable {redirectParams : List UInt8 → Option EthAddr} {txPort : UInt32 → XdpAction}

/-- Writing the destination again with the address it already holds changes nothing. -/
theorem patch_patch_head {f bs : List UInt8} (h : bs.length ≤ f.length) :
    patch (patch f 0 bs) 0 bs = patch f 0 bs := by
  rw [patch, drop_patch_of_le (by simpa using h) (by simp)]; rfl

/-- The contract, run on the frame it leaves, gives the same verdict and frame: the address it
writes is not the key it looks up. -/
theorem redirectMapVerdict_idem (f : List UInt8) :
    redirectMapVerdict redirectParams txPort (redirectMapVerdict redirectParams txPort f).2 =
      redirectMapVerdict redirectParams txPort f := by
  unfold redirectMapVerdict
  by_cases h : f.length < 14
  · simp only [h, ↓reduceIte]
  simp only [h, ↓reduceIte]
  cases hd : redirectParams ((f.drop 6).take 6) with
  | none => simp only [h, hd, ↓reduceIte]
  | some dst =>
    have hlen : (patch f 0 dst.bytes).length = f.length := length_patch (by simp; omega)
    have hkey : (patch f 0 dst.bytes).drop 6 = f.drop 6 := drop_patch_of_le (by simp; omega) (by simp)
    simp only [hlen, h, ↓reduceIte, hkey, hd, patch_patch_head (by simp; omega : dst.bytes.length ≤ f.length)]

/-- `xdp_redirect_map_func` meets the contract, for every frame. -/
theorem xdpRedirectMapFunc_yields (e : Endian) (ctx : XdpMd) :
    Yields ctx (xdpRedirectMapFunc e ctx redirectParams txPort)
      (redirectMapVerdict redirectParams txPort ctx.frame) := by
  have hlen := XdpMd.length_frame (c := ctx)
  unfold redirectMapVerdict
  by_cases hfit : ctx.data + 14 ≤ ctx.dataEnd
  swap
  · rw [if_pos (by omega)]
    have : xdpRedirectMapFunc e ctx redirectParams txPort = some (.pass, ctx) := by
      unfold xdpRedirectMapFunc parseEthhdr; rw [if_pos (by simp; omega)]; rfl
    rw [this]; exact yields_self ctx .pass
  obtain ⟨h', k, hr, -⟩ := parseEthhdr_of_fits (e := e) XdpMd.cursor_dataPtr hfit
  have hkey : (ctx.frame.drop 6).take 6 = readMem ctx.mem (ctx.data + 6) 6 := by
    rw [XdpMd.frame, drop_readMem, take_readMem, Nat.min_eq_left (by omega)]
  rw [if_neg (by omega), hkey]
  unfold xdpRedirectMapFunc
  simp only [hr, Option.bind_eq_bind, Option.some_bind, Option.some_bind,
    XdpMd.loadBytes_dataPtr (by omega : ctx.data + 6 + 6 ≤ ctx.dataEnd)]
  rw [if_neg (by omega)]
  cases redirectParams (readMem ctx.mem (ctx.data + 6) 6) with
  | none => exact yields_self ctx .pass
  | some dst =>
    dsimp only
    rw [XdpMd.store_eq (ctx.canAccess_head (by simp; omega))]
    exact ⟨_, rfl, rfl, rfl, XdpMd.frame_write (k := 0) rfl (by simp; omega)⟩

end RedirectMap

/-- **What `xdp_redirect_map_func` does.** For every frame, every content of `redirect_params`
and every `tx_port`, the verdict and the frame are `redirectMapVerdict`'s, with the bounds of the
packet unchanged: a frame too short for its Ethernet header or from an unknown source is passed
unchanged, any other gets the destination the map holds for its source and goes to
`tx_port[0]`. The program is idempotent: on the frame it leaves, it gives the same verdict and
frame again. -/
theorem xdpRedirectMapFunc_spec (e : Endian) (redirectParams : List UInt8 → Option EthAddr)
    (txPort : UInt32 → XdpAction) :
    (∀ ctx : XdpMd, Yields ctx (xdpRedirectMapFunc e ctx redirectParams txPort)
      (redirectMapVerdict redirectParams txPort ctx.frame)) ∧
    ∀ f, redirectMapVerdict redirectParams txPort (redirectMapVerdict redirectParams txPort f).2 =
      redirectMapVerdict redirectParams txPort f :=
  ⟨xdpRedirectMapFunc_yields e, redirectMapVerdict_idem⟩

end XdpTutorial.Solutions
