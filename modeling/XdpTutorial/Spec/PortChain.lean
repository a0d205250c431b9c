import XdpTutorial.Spec.PortRewrite
import XdpTutorial.Spec.EchoReply

/-!
# A chain of port rewriters

`xdp_port_rewrite_func` passes every packet, so a packet may cross several hosts that run it, one
after the other. This module follows a packet along such a chain and proves that every host
rewrites the same header: the destination port the first host decrements is decremented once per
host, modulo `2 ^ 16`, and nothing else changes.

## The model

`portTarget` is where the header is whose port the rewriter decrements, if it does, and
`decrementPortBy` decrements that port by any amount. `rewriteChain es` runs the program once for
each byte order in `es`, each time on the packet the run before passed.

## What is proved

The header the rewriter picks is read from bytes its own write leaves alone
(`portHeader_congr`): the VLAN tags before the IP header, the IPv6 next header, the IPv4 `ihl`
and protocol. So one run keeps `portTarget` (`portTarget_decrementPortBy`), two decrements add
up (`decrementPortBy_decrementPortBy`), and by induction on the chain
`rewriteChain_decrementPortBy` says what the whole chain does.
-/

namespace XdpTutorial.Packet02

/-! ### The model -/

/-- Where the header is whose destination port `xdp_port_rewrite_func` decrements, if it does. -/
def portTarget (ctx : XdpMd) : Option ℕ :=
  if ctx.dataEnd < ctx.data + 14 then none
  else match portHeader ctx (vlanStop ctx.mem ctx.dataEnd ctx.data) with
    | some (pos, size) => if ctx.dataEnd < pos + size then none else some pos
    | none => none

/-- The destination port (bytes 2–3, network order) of the header at `pos` decremented by `n`. -/
def decrementPortBy (ctx : XdpMd) (pos : ℕ) (n : UInt16) : XdpMd :=
  ctx.write (pos + 2) (Endian.big.store16 (be16 (ctx.mem (pos + 2)) (ctx.mem (pos + 3)) - n))

/-- Hosts of the byte orders `es`, in a row, each running `xdp_port_rewrite_func` on the packet
the one before passed; `none` if one of them does not pass it. -/
def rewriteChain : List Endian → XdpMd → Option XdpMd
  | [], ctx => some ctx
  | e :: es, ctx => do
    let (a, ctx) ← xdpPortRewriteFunc e ctx
    if a = .pass then rewriteChain es ctx else none

/-! ### One run -/

section Step

variable {c c' ctx : XdpMd} {k pos size : ℕ}

theorem l4Header_pos {proto p : ℕ} (h : l4Header proto p = some (pos, size)) : pos = p := by
  unfold l4Header at h
  split_ifs at h <;> cases h <;> rfl

/-- The header `portHeader` names starts after the VLAN tags. -/
theorem portHeader_le (h : portHeader c k = some (pos, size)) : c.data + 14 + 4 * k ≤ pos := by
  unfold portHeader at h
  dsimp only at h
  split_ifs at h
  · rw [l4Header_pos h]; omega
  · rw [l4Header_pos h]; omega
  · cases h; omega

/-- `portHeader` reads no byte of the port of the header it names. -/
theorem portHeader_congr (hd : c'.data = c.data) (he : c'.dataEnd = c.dataEnd)
    (hm : ∀ x, x < pos + 2 ∨ pos + 4 ≤ x → c'.mem x = c.mem x)
    (h : portHeader c k = some (pos, size)) : portHeader c' k = some (pos, size) := by
  have hip := portHeader_le h
  have henc : encapType c'.mem c.data k = encapType c.mem c.data k :=
    encapType_congr (fun x _ hx => hm x (.inl (by omega))) le_rfl
  unfold portHeader at h ⊢
  dsimp only at h ⊢
  rw [hd, he, henc, hm _ (.inl (by omega : c.data + 14 + 4 * k < pos + 2))]
  split_ifs at h ⊢ with h6 h40 h4 hA
  · have hpos := l4Header_pos h
    rwa [hm (c.data + 14 + 4 * k + 6) (.inl (by omega))]
  · have hpos := l4Header_pos h
    rwa [hm (c.data + 14 + 4 * k + 9) (by omega)]
  · exact h

/-- The packet after a decrement keeps `data`, `data_end` and every byte but the port's two. -/
theorem decrementPortBy_mem (n : UInt16) {x : ℕ} (hx : x < pos + 2 ∨ pos + 4 ≤ x) :
    (decrementPortBy ctx pos n).mem x = ctx.mem x := by
  rcases hx with hx | hx
  · exact writeMem_of_lt hx
  · exact writeMem_of_le (by simp [length_store16]; omega)

@[simp] theorem decrementPortBy_data (n : UInt16) : (decrementPortBy ctx pos n).data = ctx.data :=
  rfl

@[simp] theorem decrementPortBy_dataEnd (n : UInt16) :
    (decrementPortBy ctx pos n).dataEnd = ctx.dataEnd :=
  rfl

/-- A run picks again the header it rewrote. -/
theorem portTarget_decrementPortBy (h : portTarget ctx = some pos) (n : UInt16) :
    portTarget (decrementPortBy ctx pos n) = some pos := by
  unfold portTarget at h ⊢
  rw [decrementPortBy_data, decrementPortBy_dataEnd]
  by_cases hfit : ctx.dataEnd < ctx.data + 14
  · rw [if_pos hfit] at h; cases h
  rw [if_neg hfit] at h ⊢
  have hk := firstVlanStop_vlanStop ctx.mem ctx.dataEnd ctx.data
  generalize vlanStop ctx.mem ctx.dataEnd ctx.data = k at hk h
  cases hp : portHeader ctx k with
  | none => rw [hp] at h; cases h
  | some ps =>
    obtain ⟨p, size⟩ := ps
    rw [hp] at h
    dsimp only at h
    split_ifs at h with hs
    cases h
    have hip := portHeader_le hp
    have hm : ∀ x, x < pos + 2 ∨ pos + 4 ≤ x → (decrementPortBy ctx pos n).mem x = ctx.mem x :=
      fun x hx => decrementPortBy_mem n hx
    have hk' : vlanStop (decrementPortBy ctx pos n).mem ctx.dataEnd ctx.data = k :=
      (firstVlanStop_vlanStop _ _ _).unique (hk.congr fun x _ hx => hm x (.inl (by omega)))
    rw [hk', portHeader_congr (decrementPortBy_data n) (decrementPortBy_dataEnd n) hm hp]
    exact if_neg hs

theorem u16_sub_sub (a m n : UInt16) : a - m - n = a - (m + n) := by
  have := u16_toNat_lt a; have := u16_toNat_lt m; have := u16_toNat_lt n
  rw [u16_eq_iff, u16_toNat_sub, u16_toNat_sub, u16_toNat_sub, u16_toNat_add]
  omega

/-- The bytes a decrement leaves hold the decremented port. -/
theorem be16_decrementPortBy (n : UInt16) :
    be16 ((decrementPortBy ctx pos n).mem (pos + 2)) ((decrementPortBy ctx pos n).mem (pos + 3)) =
      be16 (ctx.mem (pos + 2)) (ctx.mem (pos + 3)) - n := by
  rw [decrementPortBy, XdpMd.write_mem, writeMem_self (by simp),
    writeMem_add (a := pos + 2) (i := 1) (by simp), be16, load16_store16]

/-- Two decrements of the same port add up. -/
theorem decrementPortBy_decrementPortBy (m n : UInt16) :
    decrementPortBy (decrementPortBy ctx pos m) pos n = decrementPortBy ctx pos (m + n) := by
  rw [decrementPortBy, be16_decrementPortBy, u16_sub_sub]
  unfold decrementPortBy XdpMd.write
  rw [writeMem_writeMem_of_length_le]
  simp

/-- A decrement by nothing changes nothing. -/
theorem decrementPortBy_zero : decrementPortBy ctx pos 0 = ctx := by
  have hz : be16 (ctx.mem (pos + 2)) (ctx.mem (pos + 3)) - 0 =
      be16 (ctx.mem (pos + 2)) (ctx.mem (pos + 3)) := by
    rw [u16_eq_iff, u16_toNat_sub]; have := u16_toNat_lt (be16 (ctx.mem (pos + 2)) (ctx.mem (pos + 3)))
    simp only [UInt16.toNat_zero]; omega
  rw [decrementPortBy, hz, be16, store16_load16, ← readMem_two, XdpMd.write, writeMem_readMem]

/-- One run of the rewriter decrements the port of the header `portTarget` names by one. -/
theorem portRewrite_eq_portTarget :
    portRewrite ctx = match portTarget ctx with
      | some pos => decrementPortBy ctx pos 1
      | none => ctx := by
  unfold portRewrite portTarget
  split_ifs
  · rfl
  cases portHeader ctx (vlanStop ctx.mem ctx.dataEnd ctx.data) with
  | none => rfl
  | some ps =>
    obtain ⟨p, size⟩ := ps
    dsimp only
    unfold decrementPort
    split_ifs <;> rfl

end Step

/-! ### The chain -/

theorem u16_ofNat_succ (n : ℕ) : UInt16.ofNat (n + 1) = 1 + UInt16.ofNat n := by
  rw [u16_eq_iff, u16_toNat_add, u16_toNat_one, u16_toNat_ofNat, u16_toNat_ofNat]
  omega

/-- **A chain of port rewriters.** For every packet and every chain of hosts running
`xdp_port_rewrite_func`, of any byte orders, each host passes the packet on, and the packet that
leaves the last one is the first packet with the destination port of the header `portTarget`
names decremented once per host, modulo `2 ^ 16`; if there is no such header, it is unchanged. -/
theorem rewriteChain_decrementPortBy (es : List Endian) (ctx : XdpMd) :
    rewriteChain es ctx = some (match portTarget ctx with
      | some pos => decrementPortBy ctx pos (UInt16.ofNat es.length)
      | none => ctx) := by
  induction es generalizing ctx with
  | nil =>
    cases portTarget ctx with
    | none => rfl
    | some pos => exact congrArg some decrementPortBy_zero.symm
  | cons e es ih =>
    rw [rewriteChain, xdpPortRewriteFunc_eq_portRewrite, Option.bind_eq_bind, Option.some_bind]
    dsimp only
    rw [if_pos rfl, ih, portRewrite_eq_portTarget]
    cases ht : portTarget ctx with
    | none => simp only [ht]
    | some pos =>
      simp only [portTarget_decrementPortBy ht, decrementPortBy_decrementPortBy, List.length_cons,
        u16_ofNat_succ]

end XdpTutorial.Packet02
