import XdpTutorial.Spec.VlanTag

/-!
# What `xdp_vlan_swap_func` does to a frame

`xdp_vlan_swap_func`, in both lessons, pops the outer VLAN tag of a tagged frame and pushes the
tag `1` onto any other, and always passes the packet. This module says over the frame what that
leaves, and proves that both programs leave exactly that, for every frame, given a
`bpf_xdp_adjust_head` that keeps its contract when it succeeds and fails cleanly otherwise.

## The contract

`vlanSwapFrame` is the frame a successful swap leaves: `popTag` of a tagged frame whose tag fits,
`pushTag 0x8100 1` of an untagged one whose Ethernet header fits, and the frame itself when it is
too short for either. The one head adjustment the program makes moves the head by
`swapDelta`, `4` to pop and `-4` to push; if it fails the packet is left as it was.
-/

namespace XdpTutorial

/-! ### The contract -/

/-- The frame `f` with its outer VLAN tag popped, or the tag `1` pushed, as far as it is long
enough. -/
def vlanSwapFrame (f : List UInt8) : List UInt8 :=
  if f.length < 14 then f
  else if isVlanType (etherType f) then (if f.length < 18 then f else popTag f)
  else pushTag (UInt16.ofNat ethP8021Q) 1 f

/-- How far `xdp_vlan_swap_func` asks `bpf_xdp_adjust_head` to move the head of `f`. -/
def swapDelta (f : List UInt8) : ℤ := if isVlanType (etherType f) then 4 else -4

/-- A run of `xdp_vlan_swap_func` on `ctx` that passes the packet, with the frame swapped if the
head adjustment succeeded and as it was otherwise, and `data_end` kept. -/
def SwapResult (adj : AdjustHead) (ctx : XdpMd) (r : Option (XdpAction × XdpMd)) : Prop :=
  ∃ c', r = some (.pass, c') ∧ c'.dataEnd = ctx.dataEnd ∧
    c'.frame = if (adj ctx (swapDelta ctx.frame)).1 = 0 then vlanSwapFrame ctx.frame else ctx.frame

/-- What a call of `vlan_tag_pop` or `vlan_tag_push` at the head of `ctx` that moves the head by
`d` leaves, as `xdp_vlan_swap_func` needs it: the same as the whole swap. -/
def SwapStep (adj : AdjustHead) (ctx : XdpMd) (d : ℤ) (r : Option (ℤ × XdpMd)) : Prop :=
  ∃ v c', r = some (v, c') ∧ c'.dataEnd = ctx.dataEnd ∧
    c'.frame = if (adj ctx d).1 = 0 then vlanSwapFrame ctx.frame else ctx.frame

section Swap

variable {e : Endian} {adj : AdjustHead} {ctx : XdpMd}

theorem vlanSwapFrame_of_short {f : List UInt8} (h : f.length < 14) : vlanSwapFrame f = f :=
  if_pos h

theorem vlanSwapFrame_of_tagged {f : List UInt8} (h14 : 14 ≤ f.length)
    (hv : isVlanType (etherType f)) : vlanSwapFrame f = if f.length < 18 then f else popTag f := by
  rw [vlanSwapFrame, if_neg (by omega), if_pos hv]

theorem vlanSwapFrame_of_untagged {f : List UInt8} (h14 : 14 ≤ f.length)
    (hv : isVlanType (etherType f) = false) :
    vlanSwapFrame f = pushTag (UInt16.ofNat ethP8021Q) 1 f := by
  rw [vlanSwapFrame, if_neg (by omega), if_neg (by simp [hv])]

/-- The swap on frames whose Ethernet header fits is the step its `proto_is_vlan` test picks. -/
theorem vlanSwap_result {pop : XdpMd → Ptr → Option (ℤ × XdpMd)}
    {push : XdpMd → Ptr → ℤ → Option (ℤ × XdpMd)}
    (hpop : ctx.data + 14 ≤ ctx.dataEnd → isVlanType (etherType ctx.frame) →
      SwapStep adj ctx 4 (pop ctx ctx.dataPtr))
    (hpush : ctx.data + 14 ≤ ctx.dataEnd → isVlanType (etherType ctx.frame) = false →
      SwapStep adj ctx (-4) (push ctx ctx.dataPtr 1)) :
    SwapResult adj ctx (vlanSwap e pop push ctx) := by
  have hlen := XdpMd.length_frame (c := ctx)
  by_cases hfit : ctx.data + 14 ≤ ctx.dataEnd
  · rw [SwapResult, vlanSwap_eq hfit]
    cases hv : isVlanType (etherType ctx.frame)
    · obtain ⟨v, c', hr, he, hf⟩ := hpush hfit hv
      have hd : swapDelta ctx.frame = -4 := by simp [swapDelta, hv]
      exact ⟨c', by rw [if_neg Bool.false_ne_true, hr]; rfl, he, by rwa [hd]⟩
    · obtain ⟨v, c', hr, he, hf⟩ := hpop hfit hv
      have hd : swapDelta ctx.frame = 4 := by simp [swapDelta, hv]
      exact ⟨c', by rw [if_pos rfl, hr]; rfl, he, by rwa [hd]⟩
  · refine ⟨ctx, ?_, rfl, by rw [vlanSwapFrame_of_short (by omega), ite_self]⟩
    unfold vlanSwap parseEthhdr
    rw [if_pos (by simp; omega)]
    rfl

/-- packet02's `vlan_tag_pop` on a tagged frame is a swap step. -/
theorem vlanTagPop_swapStep (hadj : adj.Sound) (hfail : adj.FailsClean)
    (hfit : ctx.data + 14 ≤ ctx.dataEnd) (hv : isVlanType (etherType ctx.frame)) :
    SwapStep adj ctx 4 (Packet02.vlanTagPop e adj ctx ctx.dataPtr) := by
  have hlen := XdpMd.length_frame (c := ctx)
  rw [SwapStep, vlanSwapFrame_of_tagged (by omega) hv]
  by_cases hok : ctx.data + 18 ≤ ctx.dataEnd ∧ (adj ctx 4).1 = 0
  · obtain ⟨c', hc', -, he, hf⟩ := vlanTagPop_frame (e := e) hadj hok.1 hv hok.2
    exact ⟨_, c', hc', he, by rw [hf, if_pos hok.2, if_neg (by omega)]⟩
  · obtain ⟨c', hc', hs⟩ := Packet02.vlanTagPop_fail (e := e) hfail hfit fun h => hok h.2
    refine ⟨_, c', hc', hs.dataEnd_eq, ?_⟩
    by_cases h₀ : (adj ctx 4).1 = 0
    · rw [hs.frame_eq, if_pos h₀, if_pos (by omega)]
    · rw [hs.frame_eq, if_neg h₀]

/-- packet-solutions' `vlan_tag_push` with ID `1` on an untagged frame is a swap step. -/
theorem vlanTagPush_swapStep (hadj : adj.Sound) (hfail : adj.FailsClean)
    (hfit : ctx.data + 14 ≤ ctx.dataEnd) (hv : isVlanType (etherType ctx.frame) = false) :
    SwapStep adj ctx (-4) (Solutions.vlanTagPush e adj ctx ctx.dataPtr 1) := by
  have hlen := XdpMd.length_frame (c := ctx)
  rw [SwapStep, vlanSwapFrame_of_untagged (by omega) hv]
  by_cases h₀ : (adj ctx (-4)).1 = 0
  · obtain ⟨c', hc', -, he, hf⟩ := vlanTagPush_frame (e := e) hadj hfit h₀ 1
    exact ⟨_, c', hc', he, by rw [hf, if_pos h₀]; rfl⟩
  · obtain ⟨c', hc', hs⟩ := Solutions.vlanTagPush_fail (e := e) hfail hfit h₀ 1
    exact ⟨_, c', hc', hs.dataEnd_eq, by rw [hs.frame_eq, if_neg h₀]⟩

/-- packet02's swap is a pop and a push: its `vlan_tag_push`, called on untagged frames only,
pushes as packet-solutions' does. -/
theorem Packet02.swapResult_xdpVlanSwapFunc (hadj : adj.Sound) (hfail : adj.FailsClean) :
    SwapResult adj ctx (Packet02.xdpVlanSwapFunc e adj ctx) := by
  refine vlanSwap_result (fun hfit hv => vlanTagPop_swapStep hadj hfail hfit hv) fun hfit hv => ?_
  obtain ⟨h, hl, hp⟩ := load16_ethType (e := e) hfit
  rw [Solutions.vlanTagPush_eq hl (hp.trans hv)]
  exact vlanTagPush_swapStep hadj hfail hfit hv

/-- packet-solutions' swap: its `vlan_tag_pop` is packet02's. -/
theorem Solutions.swapResult_xdpVlanSwapFunc (hadj : adj.Sound) (hfail : adj.FailsClean) :
    SwapResult adj ctx (Solutions.xdpVlanSwapFunc e adj ctx) := by
  refine vlanSwap_result (fun hfit hv => ?_) fun hfit hv => vlanTagPush_swapStep hadj hfail hfit hv
  rw [← Solutions.vlanTagPop_eq]
  exact vlanTagPop_swapStep hadj hfail hfit hv

end Swap

/-- **What the VLAN swap does.** Let `bpf_xdp_adjust_head` keep its contract when it succeeds and
fail cleanly. Then on every frame `xdp_vlan_swap_func`, in both lessons, passes the packet with
`data_end` kept and the frame `vlanSwapFrame` gives (the outer tag popped, or the tag `1` pushed)
if its head adjustment succeeds, and the frame as it was if it fails. -/
theorem xdpVlanSwapFunc_swapResult (e : Endian) (adj : AdjustHead) (hadj : adj.Sound)
    (hfail : adj.FailsClean) (ctx : XdpMd) :
    SwapResult adj ctx (Packet02.xdpVlanSwapFunc e adj ctx) ∧
      SwapResult adj ctx (Solutions.xdpVlanSwapFunc e adj ctx) :=
  ⟨Packet02.swapResult_xdpVlanSwapFunc hadj hfail,
    Solutions.swapResult_xdpVlanSwapFunc hadj hfail⟩

theorem xdpVlanSwapFunc_swapResult_dot1qFrame :
    SwapResult moveHead dot1qFrame (Packet02.xdpVlanSwapFunc .little moveHead dot1qFrame) ∧
      SwapResult moveHead dot1qFrame (Solutions.xdpVlanSwapFunc .little moveHead dot1qFrame) :=
  xdpVlanSwapFunc_swapResult .little moveHead moveHead_sound moveHead_failsClean dot1qFrame

end XdpTutorial
