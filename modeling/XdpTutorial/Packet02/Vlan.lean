import XdpTutorial.Common.ParsingHelpers

/-!
# Lesson packet02: popping and pushing VLAN tags

`vlan_tag_pop` removes the outer VLAN tag of a frame: it copies the Ethernet
header, moves the head of the packet four bytes forward with
`bpf_xdp_adjust_head`, and writes the copy back at the new head with the
tag's encapsulated protocol as its type. `vlan_tag_push` does the converse:
it moves the head four bytes back, writes the Ethernet header there, fills
the four bytes after it with the new tag, and sets the type to 802.1Q.
After the head moves, both re-read `data` and `data_end` and check the
bounds again. `xdp_vlan_swap_func` pops the outer tag of a tagged frame and
pushes tag `1` onto any other.

## The model

`bpfXdpAdjustHead` is the helper call; its outcome is a parameter `adj`. The
pointers computed before it have an older generation, so any use of them
afterwards would end the run in `none`. The struct copy `eth_cpy` is its 14
bytes; `eth_cpy.h_proto = x` replaces the last two. `vlanSwap` is the shape
of `xdp_vlan_swap_func`, which is the same in packet02 and packet-solutions
given each one's `vlan_tag_pop` and `vlan_tag_push`.
-/

namespace XdpTutorial

/-- The shape of `xdp_vlan_swap_func`, given a `vlan_tag_pop` and a `vlan_tag_push`: after the
Ethernet header parses, pop the outer tag of a tagged frame and push tag `1` onto any other;
the verdict is always `XDP_PASS`. -/
def vlanSwap (e : Endian) (pop : XdpMd → Ptr → Option (ℤ × XdpMd))
    (push : XdpMd → Ptr → ℤ → Option (ℤ × XdpMd)) (ctx : XdpMd) : Option (XdpAction × XdpMd) := do
  let r ← parseEthhdr e ctx ctx.dataPtr ctx.dataEnd
  if r.ret < 0 then pure (.pass, ctx)
  else do
    let eth ← r.hdr
    let hProto ← ctx.load16 e (eth + 12)
    if protoIsVlan e hProto then do
      let (_, ctx) ← pop ctx eth
      pure (.pass, ctx)
    else do
      let (_, ctx) ← push ctx eth 1
      pure (.pass, ctx)

namespace Packet02

section Program

variable (e : Endian) (adj : AdjustHead) (ctx : XdpMd)

/-- `vlan_tag_pop` of packet02: returns the popped VLAN ID, or `-1`. -/
def vlanTagPop (eth : Ptr) : Option (ℤ × XdpMd) := do
  let vlh := eth + 14
  let hProto ← ctx.load16 e (eth + 12)
  if !protoIsVlan e hProto then pure (-1, ctx)
  else if vlh.addr + 4 > ctx.dataEnd then pure (-1, ctx)
  else do
    let ethCpy ← ctx.loadBytes eth 14
    let tci ← ctx.load16 e vlh
    let vlid : ℤ := (bpfNtohs e tci).toNat
    let encap ← ctx.load16 e (vlh + 2)
    let ethCpy := ethCpy.take 12 ++ e.store16 encap
    let (rc, ctx) := bpfXdpAdjustHead adj ctx 4
    if rc ≠ 0 then pure (-1, ctx)
    else
      let eth := ctx.dataPtr
      if eth.addr + 14 > ctx.dataEnd then pure (-1, ctx)
      else do
        let ctx ← ctx.store eth ethCpy
        pure (vlid, ctx)

/-- `vlan_tag_push` of packet02: refuses a frame that already has a tag; returns `0` or `-1`. -/
def vlanTagPush (eth : Ptr) (vlid : ℤ) : Option (ℤ × XdpMd) := do
  let hProto ← ctx.load16 e (eth + 12)
  if protoIsVlan e hProto then pure (-1, ctx)
  else do
    let ethCpy ← ctx.loadBytes eth 14
    let (rc, ctx) := bpfXdpAdjustHead adj ctx (-4)
    if rc ≠ 0 then pure (-1, ctx)
    else
      let eth := ctx.dataPtr
      if eth.addr + 14 > ctx.dataEnd then pure (-1, ctx)
      else do
        let ctx ← ctx.store eth ethCpy
        let vlh := eth + 14
        if vlh.addr + 4 > ctx.dataEnd then pure (-1, ctx)
        else do
          let ctx ← ctx.store16 e vlh (bpfHtons e (u16OfInt vlid))
          let hProto ← ctx.load16 e (eth + 12)
          let ctx ← ctx.store16 e (vlh + 2) hProto
          let ctx ← ctx.store16 e (eth + 12) (bpfHtons e (UInt16.ofNat ethP8021Q))
          pure (0, ctx)

/-- `xdp_vlan_swap_func` of packet02. -/
def xdpVlanSwapFunc : Option (XdpAction × XdpMd) :=
  vlanSwap e (vlanTagPop e adj) (vlanTagPush e adj) ctx

end Program

end Packet02

end XdpTutorial
