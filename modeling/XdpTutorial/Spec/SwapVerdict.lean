import XdpTutorial.Spec.FrameVerdict
import XdpTutorial.Spec.VlanSwap

/-!
# The VLAN swap is invisible to packet02's parser

`xdp_vlan_swap_func` pops the outer VLAN tag of a frame or pushes one, and packet02's
`xdp_parser_func` looks past the VLAN tags. So a packet that crosses a host running the swap and
then a host running the parser is judged as if the swap had not been there, as long as the parser
sees past all of its tags, that is, as long as the frame's VLAN loop stops before
`VLAN_MAX_DEPTH`. This module proves that for every frame and either lesson's swap.

## One tag more

A frame `g` that starts with a whole VLAN tag agrees, from the protocol the tag encapsulates on,
with `popTag g` from its Ethernet protocol on (`sameFrom_popTag`). The VLAN loop of `g` then
stops one step after that of `popTag g` (`SameFrom.firstVlanStop_succ`,
`SameFrom.firstVlanStop_pred`), where it finds the same protocol and the same echo request
(`echoVerdict_popTag`). At the depth limit this breaks: the loop of `g` stops at the limit one tag
short of where the loop of `popTag g` stops.
-/

namespace XdpTutorial

/-! ### One tag more -/

section Tagged

variable {A B : XdpMd} {a b k : ℕ}

/-- Past the tag, the loop of the tagged packet is a step behind. -/
theorem SameFrom.vlanStop_succ (h : SameFrom A B (encapAddr a 1) (encapAddr b 0)) {i : ℕ}
    (hi : i + 1 < vlanMaxDepth) :
    VlanStop A.mem A.dataEnd a (i + 1) ↔ VlanStop B.mem B.dataEnd b i :=
  SameFrom.vlanStop_iff (h.shift (4 * i) (by simp only [encapAddr_eq]; omega)
    (by simp only [encapAddr_eq])) (by unfold vlanMaxDepth at hi ⊢; omega)

/-- A packet whose Ethernet protocol is a VLAN type, with a whole tag, does not stop there. -/
theorem not_vlanStop_zero (hv : isVlanType (encapType A.mem a 0)) (hfit : a + 18 ≤ A.dataEnd) :
    ¬VlanStop A.mem A.dataEnd a 0 := by
  rintro (h0 | h0 | h0)
  · exact absurd h0 (by decide)
  · rw [hv] at h0; cases h0
  · omega

/-- Below the limit, a step after the untagged packet's loop first stops, the tagged one's does. -/
theorem SameFrom.firstVlanStop_succ (h : SameFrom A B (encapAddr a 1) (encapAddr b 0))
    (hv : isVlanType (encapType A.mem a 0)) (hfit : a + 18 ≤ A.dataEnd)
    (hk : FirstVlanStop B.mem B.dataEnd b k) (hk5 : k < vlanMaxDepth) :
    FirstVlanStop A.mem A.dataEnd a (k + 1) := by
  refine ⟨?_, fun i hi => ?_⟩
  · by_cases hk4 : k + 1 < vlanMaxDepth
    · exact (h.vlanStop_succ hk4).2 hk.1
    · exact .inl (by unfold vlanMaxDepth at hk5 hk4 ⊢; omega)
  · cases i with
    | zero => exact not_vlanStop_zero hv hfit
    | succ i => exact fun hs => hk.2 i (by omega) ((h.vlanStop_succ (by omega)).1 hs)

/-- Below the limit, a step before the tagged packet's loop first stops, the untagged one's
does. -/
theorem SameFrom.firstVlanStop_pred (h : SameFrom A B (encapAddr a 1) (encapAddr b 0))
    (hk : FirstVlanStop A.mem A.dataEnd a (k + 1)) (hk5 : k + 1 < vlanMaxDepth) :
    FirstVlanStop B.mem B.dataEnd b k :=
  ⟨(h.vlanStop_succ hk5).1 hk.1,
    fun i hi hs => hk.2 (i + 1) (by omega) ((h.vlanStop_succ (by omega)).2 hs)⟩

end Tagged

/-! ### Frames -/

section Frames

variable {f g : List UInt8}

theorem getD_popTag (h : 12 ≤ f.length) (j : ℕ) :
    (popTag f).getD (12 + j) 0 = f.getD (16 + j) 0 := by
  rw [popTag, getD_append_of_length (by simp; omega)]
  simp only [List.getD_eq_getElem?_getD, List.getElem?_drop]

/-- A frame with a whole tag agrees, from the protocol the tag encapsulates on, with the frame
popped of the tag from its Ethernet protocol on. -/
theorem sameFrom_popTag (h16 : 16 ≤ g.length) :
    SameFrom (XdpMd.ofFrame g) (XdpMd.ofFrame (popTag g)) (encapAddr 0 1) (encapAddr 0 0) :=
  ⟨by simp only [XdpMd.ofFrame_dataEnd, length_popTag h16, encapAddr]; omega,
    fun j _ => (getD_popTag (by omega) j).symm⟩

/-- A frame with a whole tag is judged as the frame popped of it, when their loops stop a step
apart. -/
theorem Packet02.echoVerdict_popTag (h18 : 18 ≤ g.length)
    (hg : FirstVlanStop (XdpMd.ofFrame g).mem g.length 0 (k + 1))
    (hf : FirstVlanStop (XdpMd.ofFrame (popTag g)).mem (popTag g).length 0 k) :
    Packet02.echoVerdict g = Packet02.echoVerdict (popTag g) := by
  rw [Packet02.echoVerdict_eq hg, Packet02.echoVerdict_eq hf,
    if_congr (Packet02.SameFrom.evenEchoRequest_iff (i := k + 1) (j := k)
      ((sameFrom_popTag (by omega)).shift (4 * k)
        (by simp only [encapAddr_eq, XdpMd.ofFrame_data]; omega)
        (by simp only [encapAddr_eq, XdpMd.ofFrame_data]))) rfl rfl]

/-- On a frame whose VLAN loop stops before the limit, the frame a successful swap leaves is
judged as the frame. -/
theorem Packet02.echoVerdict_vlanSwapFrame
    (hk : vlanStop (XdpMd.ofFrame f).mem f.length 0 < vlanMaxDepth) :
    Packet02.echoVerdict (vlanSwapFrame f) = Packet02.echoVerdict f := by
  have hf := firstVlanStop_vlanStop (XdpMd.ofFrame f).mem f.length 0
  generalize vlanStop (XdpMd.ofFrame f).mem f.length 0 = k at hk hf
  by_cases h14 : f.length < 14
  · rw [vlanSwapFrame_of_short h14]
  cases hv : isVlanType (etherType f)
  · -- an untagged frame gets a tag pushed
    rw [vlanSwapFrame_of_untagged (by omega) hv]
    have hp : popTag (pushTag (UInt16.ofNat ethP8021Q) 1 f) = f := popTag_pushTag (by omega)
    have hl : (pushTag (UInt16.ofNat ethP8021Q) 1 f).length = f.length + 4 :=
      length_pushTag (by omega)
    have hs := sameFrom_popTag (g := pushTag (UInt16.ofNat ethP8021Q) 1 f) (by omega)
    rw [hp] at hs
    refine (Packet02.echoVerdict_popTag (by omega) ?_ (hp ▸ hf)).trans (congrArg _ hp)
    exact hs.firstVlanStop_succ (by rw [encapType_ofFrame, etherType_pushTag (by omega)]; decide)
      (by simp only [XdpMd.ofFrame_dataEnd]; omega) hf hk
  · -- a tagged frame gets its tag popped, if it is whole
    rw [vlanSwapFrame_of_tagged (by omega) hv]
    split_ifs with h18
    · rfl
    obtain ⟨k, rfl⟩ : ∃ k', k = k' + 1 := Nat.exists_eq_succ_of_ne_zero fun h0 =>
      not_vlanStop_zero (A := XdpMd.ofFrame f) hv (by simp only [XdpMd.ofFrame_dataEnd]; omega)
        (h0 ▸ hf.1)
    exact (Packet02.echoVerdict_popTag (by omega) hf
      ((sameFrom_popTag (by omega)).firstVlanStop_pred hf hk)).symm

end Frames

/-! ### The programs -/

/-- `r` passes a packet that packet02's parser, on a host of byte order `e`, judges as it judges
`ctx`. -/
def JudgedAlike (e : Endian) (ctx : XdpMd) (r : Option (XdpAction × XdpMd)) : Prop :=
  ∃ c' a, r = some (.pass, c') ∧ Packet02.xdpParserFunc e ctx = some (a, ctx) ∧
    Packet02.xdpParserFunc e c' = some (a, c')

/-- A run of a swap as `SwapResult` says, on a frame whose VLAN loop stops before the limit, passes
a packet the parser judges as the frame it started from. -/
theorem SwapResult.judgedAlike {adj : AdjustHead} {ctx : XdpMd} {r : Option (XdpAction × XdpMd)}
    (hr : SwapResult adj ctx r) (hk : vlanStop ctx.mem ctx.dataEnd ctx.data < vlanMaxDepth)
    (e : Endian) : JudgedAlike e ctx r := by
  obtain ⟨c', hr, -, hf⟩ := hr
  refine ⟨c', _, hr, Packet02.xdpParserFunc_echoVerdict e ctx, ?_⟩
  rw [Packet02.xdpParserFunc_echoVerdict, hf]
  split_ifs
  · rw [Packet02.echoVerdict_vlanSwapFrame (by rwa [vlanStop_ofFrame])]
  · rfl

/-- **The VLAN swap is invisible to packet02's parser.** Let `bpf_xdp_adjust_head` keep its
contract when it succeeds and fail cleanly. On every frame whose VLAN loop stops before
`VLAN_MAX_DEPTH`, `xdp_vlan_swap_func` of either lesson, on either host, passes a packet that
`xdp_parser_func` of packet02, on either host, judges as it judges the frame before the swap:
whether the swap popped a tag, pushed one, or failed and left the frame. -/
theorem xdpParserFunc_after_vlanSwap (e e' : Endian) (adj : AdjustHead) (hadj : adj.Sound)
    (hfail : adj.FailsClean) (ctx : XdpMd)
    (hk : vlanStop ctx.mem ctx.dataEnd ctx.data < vlanMaxDepth) :
    JudgedAlike e' ctx (Packet02.xdpVlanSwapFunc e adj ctx) ∧
      JudgedAlike e' ctx (Solutions.xdpVlanSwapFunc e adj ctx) :=
  ⟨(Packet02.swapResult_xdpVlanSwapFunc hadj hfail).judgedAlike hk e',
    (Solutions.swapResult_xdpVlanSwapFunc hadj hfail).judgedAlike hk e'⟩

theorem xdpParserFunc_after_vlanSwap_dot1qFrame :
    vlanStop dot1qFrame.mem dot1qFrame.dataEnd dot1qFrame.data < vlanMaxDepth ∧
      JudgedAlike .big dot1qFrame (Packet02.xdpVlanSwapFunc .little moveHead dot1qFrame) ∧
      JudgedAlike .big dot1qFrame (Solutions.xdpVlanSwapFunc .little moveHead dot1qFrame) :=
  have hk : vlanStop dot1qFrame.mem dot1qFrame.dataEnd dot1qFrame.data < vlanMaxDepth := by
    rw [(firstVlanStop_vlanStop _ _ _).unique
      (show FirstVlanStop dot1qFrame.mem dot1qFrame.dataEnd dot1qFrame.data 1 by decide)]
    decide
  ⟨hk, xdpParserFunc_after_vlanSwap .little .big moveHead moveHead_sound moveHead_failsClean
    dot1qFrame hk⟩

end XdpTutorial
