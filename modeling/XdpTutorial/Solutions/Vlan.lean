import XdpTutorial.Packet02.Vlan

/-!
# packet-solutions: popping and pushing VLAN tags

The solution's `vlan_tag_pop` and `vlan_tag_push` do what packet02's do, in
a different order: `vlan_tag_pop` reads the tag before copying the Ethernet
header and writes the new type after the copy, not into it, and
`vlan_tag_push` does not refuse a frame that already has a tag.

## What is proved

The two `vlan_tag_pop`s are the same function (`vlanTagPop_eq`), and the
two `vlan_tag_push`es agree on every frame that is not tagged
(`vlanTagPush_eq`), which is the only kind `xdp_vlan_swap_func` pushes onto.
So the two `xdp_vlan_swap_func`s agree on every frame and every behaviour of
`bpf_xdp_adjust_head` (`xdpVlanSwapFunc_agree`).
-/

namespace XdpTutorial.Solutions

section Program

variable (e : Endian) (adj : AdjustHead) (ctx : XdpMd)

/-- `vlan_tag_pop` of packet-solutions: returns the popped VLAN ID, or `-1`. -/
def vlanTagPop (eth : Ptr) : Option (ℤ × XdpMd) := do
  let hProto ← ctx.load16 e (eth + 12)
  if !protoIsVlan e hProto then pure (-1, ctx)
  else
    let vlh := eth + 14
    if vlh.addr + 4 > ctx.dataEnd then pure (-1, ctx)
    else do
      let tci ← ctx.load16 e vlh
      let vlid : ℤ := (bpfNtohs e tci).toNat
      let hProto ← ctx.load16 e (vlh + 2)
      let ethCpy ← ctx.loadBytes eth 14
      let (rc, ctx) := bpfXdpAdjustHead adj ctx 4
      if rc ≠ 0 then pure (-1, ctx)
      else
        let eth := ctx.dataPtr
        if eth.addr + 14 > ctx.dataEnd then pure (-1, ctx)
        else do
          let ctx ← ctx.store eth ethCpy
          let ctx ← ctx.store16 e (eth + 12) hProto
          pure (vlid, ctx)

/-- `vlan_tag_push` of packet-solutions: returns `0` or `-1`. -/
def vlanTagPush (eth : Ptr) (vlid : ℤ) : Option (ℤ × XdpMd) := do
  let ethCpy ← ctx.loadBytes eth 14
  let (rc, ctx) := bpfXdpAdjustHead adj ctx (-4)
  if rc ≠ 0 then pure (-1, ctx)
  else
    let eth := ctx.dataPtr
    if eth.addr + 14 > ctx.dataEnd then pure (-1, ctx)
    else do
      let ctx ← ctx.store eth ethCpy
      let vlh := eth + 14
      if vlh.addr + 4 > ctx.dataEnd then pure (-1, ctx)
      else do
        let ctx ← ctx.store16 e vlh (bpfHtons e (u16OfInt vlid))
        let hProto ← ctx.load16 e (eth + 12)
        let ctx ← ctx.store16 e (vlh + 2) hProto
        let ctx ← ctx.store16 e (eth + 12) (bpfHtons e (UInt16.ofNat ethP8021Q))
        pure (0, ctx)

/-- `xdp_vlan_swap_func` of packet-solutions. -/
def xdpVlanSwapFunc : Option (XdpAction × XdpMd) :=
  vlanSwap e (vlanTagPop e adj) (vlanTagPush e adj) ctx

end Program

/-! ### The two implementations agree -/

section Agree

variable {e : Endian} {adj : AdjustHead}

/-- Writing a 14-byte header copy and then two bytes at offset 12 is writing the copy with its
last two bytes replaced. -/
theorem write_write_twelve (c : XdpMd) (a : ℕ) {cpy s : List UInt8} (hl : cpy.length = 14)
    (hs : s.length = 2) : (c.write a cpy).write (a + 12) s = c.write a (cpy.take 12 ++ s) := by
  have h12 : (cpy.take 12).length = 12 := by simp [hl]
  have hm : writeMem (writeMem c.mem a cpy) (a + 12) s = writeMem c.mem a (cpy.take 12 ++ s) := by
    conv_lhs => rw [← List.take_append_drop 12 cpy, writeMem_append, h12]
    rw [writeMem_append, h12, writeMem_writeMem_of_length_le (by simp [hl, hs])]
  simp only [XdpMd.write, hm]

/-- A 14-byte header copy followed by a 2-byte store at offset 12 is one store of the copy with
its last two bytes replaced. -/
theorem store_store16_bind {α : Type} (c : XdpMd) (p : Ptr) {cpy : List UInt8}
    (hl : cpy.length = 14) (v : UInt16) (g : XdpMd → Option α) :
    (c.store p cpy).bind (fun c => (c.store16 e (p + 12) v).bind g) =
      (c.store p (cpy.take 12 ++ e.store16 v)).bind g := by
  unfold XdpMd.store
  by_cases h : c.CanAccess p 14
  · have h' : c.CanAccess (p + 12) 2 :=
      ⟨h.1, by have := h.2.1; simp; omega, by simpa [Nat.add_assoc] using h.2.2⟩
    rw [if_pos (by rwa [hl]), if_pos (by simpa [hl] using h), Option.some_bind, Option.some_bind,
      XdpMd.store16_eq (by simpa using h'), Option.some_bind, Ptr.add_addr,
      write_write_twelve _ _ hl (by simp)]
  · rw [if_neg (by rwa [hl]), if_neg (by simpa [hl] using h)]; rfl

/-- The two `vlan_tag_pop`s are the same function. -/
theorem vlanTagPop_eq (ctx : XdpMd) (eth : Ptr) :
    Packet02.vlanTagPop e adj ctx eth = vlanTagPop e adj ctx eth := by
  unfold Packet02.vlanTagPop vlanTagPop
  dsimp only
  cases ctx.load16 e (eth + 12) with
  | none => rfl
  | some hProto =>
    cases hc : ctx.loadBytes eth 14 with
    | none => cases ctx.load16 e (eth + 14) <;> cases ctx.load16 e (eth + 14 + 2) <;> rfl
    | some cpy =>
      cases ctx.load16 e (eth + 14) <;> cases ctx.load16 e (eth + 14 + 2) <;>
        simp only [Option.bind_eq_bind, Option.some_bind, Option.none_bind,
          store_store16_bind _ _ (XdpMd.length_of_loadBytes hc)]

/-- The two `vlan_tag_push`es agree on a frame that is not tagged. -/
theorem vlanTagPush_eq {ctx : XdpMd} {eth : Ptr} {hProto : UInt16}
    (h : ctx.load16 e (eth + 12) = some hProto) (hv : protoIsVlan e hProto = false) (vlid : ℤ) :
    Packet02.vlanTagPush e adj ctx eth vlid = vlanTagPush e adj ctx eth vlid := by
  simp [Packet02.vlanTagPush, vlanTagPush, h, hv]

/-- The two `xdp_vlan_swap_func`s produce the same verdict and the same packet, for every
frame and every outcome of `bpf_xdp_adjust_head`. -/
theorem xdpVlanSwapFunc_agree (e : Endian) (adj : AdjustHead) (ctx : XdpMd) :
    Packet02.xdpVlanSwapFunc e adj ctx = xdpVlanSwapFunc e adj ctx := by
  unfold Packet02.xdpVlanSwapFunc xdpVlanSwapFunc vlanSwap
  simp only [Option.bind_eq_bind]
  cases parseEthhdr e ctx ctx.dataPtr ctx.dataEnd with
  | none => simp only [Option.none_bind]
  | some r =>
    by_cases h : r.ret < 0
    · simp only [Option.some_bind, h, ↓reduceIte]
    · simp only [Option.some_bind, h, ↓reduceIte]
      cases r.hdr with
      | none => simp only [Option.none_bind]
      | some eth =>
        simp only [Option.some_bind]
        cases hl : ctx.load16 e (eth + 12) with
        | none => simp only [Option.none_bind]
        | some hProto =>
          simp only [Option.some_bind, vlanTagPop_eq]
          cases hv : protoIsVlan e hProto
          · simp only [Bool.false_eq_true, ↓reduceIte, vlanTagPush_eq hl hv]
          · rfl

end Agree

end XdpTutorial.Solutions
