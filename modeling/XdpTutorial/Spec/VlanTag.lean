import XdpTutorial.Solutions.Vlan

/-!
# What popping and pushing a VLAN tag do to a frame

An 802.1Q tag is four bytes between the source address and the ethertype of an
Ethernet frame: the tag protocol identifier (TPID) `0x8100` or `0x88A8` where
the ethertype was, then the tag control information (TCI). The encapsulated
ethertype follows. Pushing a tag inserts four bytes at offset 12; popping one
removes the four bytes at offset 12 and keeps the encapsulated ethertype.

## The model

`pushTag` and `popTag` are those two operations on the frame as a list of
bytes. They are the abstract model: they say what `vlan_tag_push` and
`vlan_tag_pop` are for, and nothing here is translated from the source.

## What is proved

On frames, `popTag` undoes `pushTag` (`popTag_pushTag`), and `pushTag` with
the frame's own TPID and TCI undoes `popTag` (`pushTag_popTag`).

The programs refine the model. When `bpf_xdp_adjust_head` keeps its contract
and succeeds, `vlan_tag_push` on a frame whose Ethernet header fits succeeds
and leaves `pushTag 0x8100 vlid` of the frame (`vlanTagPush_frame`), and
`vlan_tag_pop` on a tagged frame whose tag fits returns the TCI and leaves
`popTag` of the frame (`vlanTagPop_frame`), in both lessons.

From these: push then pop gives back an untagged frame byte for byte, and two
runs of `xdp_vlan_swap_func` leave it as it was (`vlanTagPush_pop`). Pop then
push does not quite: `vlan_tag_push` always writes the TPID `0x8100`, so an
802.1ad tag comes back as 802.1Q, and packet02's `vlan_tag_push` refuses a
frame whose popped tag encapsulated another tag (`vlanTagPop_push`,
`vlanTagPop_push_adFrame`).

When the helper also fails cleanly (`AdjustHead.FailsClean`), each of the four
functions is all or nothing (`vlanTag_allOrNothing`): it succeeds as above, or
it returns `-1` with `data`, `data_end` and the packet's bytes as they were. The
bounds checks after a successful head adjustment never fail.
-/

namespace XdpTutorial

/-! ### Tagged frames -/

section Frame

variable {tpid tci : UInt16} {f : List UInt8}

/-- The TCI of a frame's outer VLAN tag, bytes 14–15, in network order. -/
def vlanTci (f : List UInt8) : UInt16 := be16 (f.getD 14 0) (f.getD 15 0)

/-- The encapsulated ethertype of a frame's outer VLAN tag, bytes 16–17, in network order. -/
def vlanEncapProto (f : List UInt8) : UInt16 := be16 (f.getD 16 0) (f.getD 17 0)

/-- The frame `f` with a VLAN tag of type `tpid` and control information `tci` inserted after
its two addresses. -/
def pushTag (tpid tci : UInt16) (f : List UInt8) : List UInt8 :=
  f.take 12 ++ Endian.big.store16 tpid ++ Endian.big.store16 tci ++ f.drop 12

/-- The frame `f` with the four bytes of its outer VLAN tag taken out. -/
def popTag (f : List UInt8) : List UInt8 := f.take 12 ++ f.drop 16

@[simp] theorem length_pushTag (h : 12 ≤ f.length) : (pushTag tpid tci f).length = f.length + 4 := by
  simp [pushTag]; omega

@[simp] theorem length_popTag (h : 16 ≤ f.length) : (popTag f).length = f.length - 4 := by
  simp [popTag]; omega

theorem popTag_pushTag (h : 12 ≤ f.length) : popTag (pushTag tpid tci f) = f := by
  have h12 : (f.take 12).length = 12 := by simp; omega
  simp [popTag, pushTag, List.take_append_eq_append_take, List.drop_append_eq_append_drop, h12,
    List.drop_of_length_le]

theorem drop_eq_getD_cons {n : ℕ} (h : n < f.length) : f.drop n = f.getD n 0 :: f.drop (n + 1) := by
  rw [List.drop_eq_getElem_cons h, List.getD_eq_getElem?_getD, List.getElem?_eq_getElem h,
    Option.getD_some]

/-- Pushing a tag of type `tpid` with the frame's own TCI onto the popped frame gives the frame
back with `tpid` as its ethertype. -/
theorem pushTag_vlanTci_popTag (h : 16 ≤ f.length) :
    pushTag tpid (vlanTci f) (popTag f) = f.take 12 ++ Endian.big.store16 tpid ++ f.drop 14 := by
  have h12 : (f.take 12).length = 12 := by simp; omega
  rw [drop_eq_getD_cons (n := 14) (by omega), drop_eq_getD_cons (n := 15) (by omega)]
  simp [pushTag, popTag, vlanTci, be16, store16_load16, List.take_append_eq_append_take,
    List.drop_append_eq_append_drop, h12, List.drop_of_length_le]

theorem pushTag_popTag (h : 16 ≤ f.length) : pushTag (etherType f) (vlanTci f) (popTag f) = f := by
  rw [pushTag_vlanTci_popTag h, etherType, be16, store16_load16]
  conv_rhs => rw [← List.take_append_drop 12 f, drop_eq_getD_cons (n := 12) (by omega),
    drop_eq_getD_cons (n := 13) (by omega)]
  simp

theorem getD_append_of_length {l l' : List UInt8} {n : ℕ} (hl : l.length = n) (i : ℕ) :
    (l ++ l').getD (n + i) 0 = l'.getD i 0 := by
  rw [List.getD_append_right _ _ _ _ (by omega), hl, Nat.add_sub_cancel_left]

@[simp] theorem etherType_pushTag (h : 12 ≤ f.length) : etherType (pushTag tpid tci f) = tpid := by
  have h12 : (f.take 12).length = 12 := by simp; omega
  rw [etherType, pushTag, List.append_assoc, List.append_assoc, show 13 = 12 + 1 from rfl,
    getD_append_of_length h12, ← Nat.add_zero 12, getD_append_of_length h12,
    List.getD_append _ _ _ _ (by simp), List.getD_append _ _ _ _ (by simp)]
  exact load16_store16 .big tpid

@[simp] theorem vlanTci_pushTag (h : 12 ≤ f.length) : vlanTci (pushTag tpid tci f) = tci := by
  have h14 : (f.take 12 ++ Endian.big.store16 tpid).length = 14 := by simp; omega
  rw [vlanTci, pushTag, List.append_assoc, show 15 = 14 + 1 from rfl, getD_append_of_length h14,
    ← Nat.add_zero 14, getD_append_of_length h14,
    List.getD_append _ _ _ _ (by simp), List.getD_append _ _ _ _ (by simp)]
  exact load16_store16 .big tci

theorem etherType_popTag (h : 12 ≤ f.length) : etherType (popTag f) = vlanEncapProto f := by
  have h12 : (f.take 12).length = 12 := by simp; omega
  rw [etherType, popTag, show 13 = 12 + 1 from rfl, getD_append_of_length h12, ← Nat.add_zero 12,
    getD_append_of_length h12]
  simp [vlanEncapProto]

end Frame

/-! ### The programs refine the model -/

section Refinement

variable {e : Endian} {adj : AdjustHead} {ctx : XdpMd}

/-- The packet's bytes read through the frame. -/
theorem XdpMd.mem_eq_getD_frame {i : ℕ} (h : ctx.data + i < ctx.dataEnd) :
    ctx.mem (ctx.data + i) = ctx.frame.getD i 0 :=
  (XdpMd.getD_frame (by omega)).symm

/-- `vlan_tag_push` of packet-solutions, on a frame whose Ethernet header fits and after a
successful head move, succeeds and leaves the frame with an 802.1Q tag carrying `vlid` pushed. -/
theorem vlanTagPush_frame (hadj : adj.Sound) (hfit : ctx.data + 14 ≤ ctx.dataEnd)
    (h₀ : (adj ctx (-4)).1 = 0) (vlid : ℤ) :
    ∃ c', Solutions.vlanTagPush e adj ctx ctx.dataPtr vlid = some (0, c') ∧
      c'.data + 4 = ctx.data ∧ c'.dataEnd = ctx.dataEnd ∧
      c'.frame = pushTag (UInt16.ofNat ethP8021Q) (u16OfInt vlid) ctx.frame := by
  have hm := hadj ctx (-4) h₀
  set c₀ := (bpfXdpAdjustHead adj ctx (-4)).2
  have hA : bpfXdpAdjustHead adj ctx (-4) = (0, c₀) := Prod.ext h₀ rfl
  have hd : c₀.data + 4 = ctx.data := by have := hm.data_eq; simp [c₀, bpfXdpAdjustHead]; omega
  have he : c₀.dataEnd = ctx.dataEnd := hm.dataEnd_eq
  have hr : ∀ a n, ctx.data ≤ a → a + n ≤ ctx.dataEnd → readMem c₀.mem a n = readMem ctx.mem a n :=
    fun a n h₁ h₂ => hm.readMem_eq h₁ (by have := hm.data_eq; omega) h₂
  clear_value c₀
  unfold Solutions.vlanTagPush
  simp only [Ptr.add_add, Nat.reduceAdd, XdpMd.dataPtr_addr, Ptr.add_addr]
  rw [XdpMd.loadBytes_eq (ctx.canAccess_head hfit)]
  simp only [Option.bind_eq_bind, Option.some_bind, hA]
  rw [if_neg (by decide), if_neg (by omega),
    XdpMd.store_eq (c₀.canAccess_head (by simp; omega))]
  simp only [Option.some_bind, XdpMd.write_dataEnd]
  rw [if_neg (by omega), XdpMd.store16_eq (c := c₀.write _ _) (c₀.canAccess_dataPtr (by omega))]
  simp only [Option.some_bind]
  rw [XdpMd.load16_eq (c := (c₀.write _ _).write _ _) (c₀.canAccess_dataPtr (by omega))]
  simp only [Option.some_bind]
  rw [XdpMd.store16_eq (c := (c₀.write _ _).write _ _) (c₀.canAccess_dataPtr (by omega))]
  simp only [Option.some_bind]
  rw [XdpMd.store16_eq (c := ((c₀.write _ _).write _ _).write _ _) (c₀.canAccess_dataPtr (by omega))]
  refine ⟨_, rfl, hd, he, ?_⟩
  have hx : ∀ i < 14, writeMem (writeMem c₀.mem c₀.data (readMem ctx.mem ctx.data 14)) (c₀.data + 14)
      (Endian.big.store16 (u16OfInt vlid)) (c₀.data + i) = ctx.mem (ctx.data + i) := fun i hi => by
    rw [writeMem_of_lt (by omega), writeMem_add (by simpa), getD_readMem hi]
  simp only [XdpMd.frame, XdpMd.write_mem, XdpMd.write_data, XdpMd.write_dataEnd, store16_bpfHtons,
    XdpMd.dataPtr_addr, Ptr.add_addr, Nat.add_assoc, Nat.reduceAdd, hx 12 (by decide),
    hx 13 (by decide), store16_load16, pushTag, take_readMem, drop_readMem]
  rw [show c₀.dataEnd - c₀.data = 12 + (2 + (2 + (2 + (ctx.dataEnd - ctx.data - 14)))) by omega,
    show ctx.dataEnd - ctx.data - 12 = 2 + (ctx.dataEnd - ctx.data - 14) by omega,
    show min 12 (ctx.dataEnd - ctx.data) = 12 by omega]
  simp only [readMem_add, List.append_assoc, Nat.add_assoc, Nat.reduceAdd]
  simp (disch := first
    | omega
    | (simp only [length_store16, length_readMem, List.length_cons, List.length_nil]; omega)) only
    [readMem_writeMem_of_le, readMem_writeMem_of_ge, readMem_writeMem_self, List.take_of_length_le,
    take_readMem]
  rw [hr _ _ (by omega) (by omega), show c₀.data + 18 = ctx.data + 14 by omega]
  rfl

/-- `vlan_tag_pop` of packet02, on a tagged frame whose tag fits and after a successful head
move, returns the tag's TCI and leaves the frame with the tag popped. -/
theorem vlanTagPop_frame (hadj : adj.Sound) (hfit : ctx.data + 18 ≤ ctx.dataEnd)
    (hv : isVlanType (etherType ctx.frame)) (h₀ : (adj ctx 4).1 = 0) :
    ∃ c', Packet02.vlanTagPop e adj ctx ctx.dataPtr = some (((vlanTci ctx.frame).toNat : ℤ), c') ∧
      c'.data = ctx.data + 4 ∧ c'.dataEnd = ctx.dataEnd ∧ c'.frame = popTag ctx.frame := by
  have hm := hadj ctx 4 h₀
  set c₀ := (bpfXdpAdjustHead adj ctx 4).2
  have hA : bpfXdpAdjustHead adj ctx 4 = (0, c₀) := Prod.ext h₀ rfl
  have hd : c₀.data = ctx.data + 4 := by have := hm.data_eq; simp [c₀, bpfXdpAdjustHead]; omega
  have he : c₀.dataEnd = ctx.dataEnd := hm.dataEnd_eq
  have hr : ∀ a n, c₀.data ≤ a → a + n ≤ ctx.dataEnd → readMem c₀.mem a n = readMem ctx.mem a n :=
    fun a n h₁ h₂ => hm.readMem_eq (by omega) h₁ h₂
  clear_value c₀
  rw [etherType, ← XdpMd.mem_eq_getD_frame (by omega), ← XdpMd.mem_eq_getD_frame (by omega)] at hv
  rw [vlanTci, ← XdpMd.mem_eq_getD_frame (by omega), ← XdpMd.mem_eq_getD_frame (by omega)]
  unfold Packet02.vlanTagPop
  simp only [Ptr.add_add, Nat.reduceAdd]
  rw [XdpMd.load16_eq (ctx.canAccess_dataPtr (by omega))]
  simp only [Option.bind_eq_bind, Option.some_bind, XdpMd.dataPtr_addr, Ptr.add_addr, Nat.add_assoc,
    Nat.reduceAdd, protoIsVlan_load16, hv, Bool.not_true]
  rw [if_neg (by decide), if_neg (by omega), XdpMd.loadBytes_eq (ctx.canAccess_head (by omega)),
    XdpMd.load16_eq (ctx.canAccess_dataPtr (by omega)), XdpMd.load16_eq (ctx.canAccess_dataPtr (by omega))]
  simp only [Option.some_bind, hA, bpfNtohs_load16]
  rw [if_neg (by decide), if_neg (by simp; omega), XdpMd.store_eq (c₀.canAccess_head (by simp; omega))]
  refine ⟨_, rfl, hd, he, ?_⟩
  simp only [XdpMd.frame, XdpMd.write_mem, XdpMd.write_data, XdpMd.write_dataEnd, popTag,
    XdpMd.dataPtr_addr, Ptr.add_addr, Nat.add_assoc, Nat.reduceAdd, take_readMem, drop_readMem,
    store16_load16]
  rw [show c₀.dataEnd - c₀.data = 14 + (ctx.dataEnd - ctx.data - 18) by omega,
    show ctx.dataEnd - ctx.data - 16 = 2 + (ctx.dataEnd - ctx.data - 18) by omega,
    show min 12 (ctx.dataEnd - ctx.data) = 12 by omega, readMem_add, readMem_add,
    readMem_writeMem_self (by simp), readMem_writeMem_of_ge (by simp), hr _ _ (by omega) (by omega),
    show c₀.data + 14 = ctx.data + 16 + 2 by omega]
  simp [List.take_of_length_le, readMem_two]

/-- The same for packet-solutions' `vlan_tag_pop`, which is the same function. -/
theorem vlanTagPop_frame' (hadj : adj.Sound) (hfit : ctx.data + 18 ≤ ctx.dataEnd)
    (hv : isVlanType (etherType ctx.frame)) (h₀ : (adj ctx 4).1 = 0) :
    ∃ c', Solutions.vlanTagPop e adj ctx ctx.dataPtr = some (((vlanTci ctx.frame).toNat : ℤ), c') ∧
      c'.data = ctx.data + 4 ∧ c'.dataEnd = ctx.dataEnd ∧ c'.frame = popTag ctx.frame :=
  @Solutions.vlanTagPop_eq e adj ctx ctx.dataPtr ▸ vlanTagPop_frame hadj hfit hv h₀

/-- The Ethernet type field as `proto_is_vlan` sees it. -/
theorem load16_ethType (hfit : ctx.data + 14 ≤ ctx.dataEnd) :
    ∃ h, ctx.load16 e (ctx.dataPtr + 12) = some h ∧
      protoIsVlan e h = isVlanType (etherType ctx.frame) := by
  refine ⟨_, XdpMd.load16_eq ((XdpMd.cursor_dataPtr (c := ctx)).canAccess (by simp; omega)), ?_⟩
  rw [protoIsVlan_load16, etherType, ← XdpMd.mem_eq_getD_frame (by omega),
    ← XdpMd.mem_eq_getD_frame (by omega)]
  rfl

/-- packet02's `vlan_tag_push` refines the model on untagged frames, where it agrees with
packet-solutions'. -/
theorem vlanTagPush_frame' (hadj : adj.Sound) (hfit : ctx.data + 14 ≤ ctx.dataEnd)
    (hnv : isVlanType (etherType ctx.frame) = false) (h₀ : (adj ctx (-4)).1 = 0) (vlid : ℤ) :
    ∃ c', Packet02.vlanTagPush e adj ctx ctx.dataPtr vlid = some (0, c') ∧
      c'.data + 4 = ctx.data ∧ c'.dataEnd = ctx.dataEnd ∧
      c'.frame = pushTag (UInt16.ofNat ethP8021Q) (u16OfInt vlid) ctx.frame := by
  obtain ⟨h, hl, hp⟩ := load16_ethType (e := e) hfit
  rw [Solutions.vlanTagPush_eq hl (hp.trans hnv)]
  exact vlanTagPush_frame hadj hfit h₀ vlid

/-- packet02's `vlan_tag_push` refuses a tagged frame and changes nothing. -/
theorem vlanTagPush_of_tagged (hfit : ctx.data + 14 ≤ ctx.dataEnd)
    (hv : isVlanType (etherType ctx.frame)) (vlid : ℤ) :
    Packet02.vlanTagPush e adj ctx ctx.dataPtr vlid = some (-1, ctx) := by
  obtain ⟨h, hl, hp⟩ := load16_ethType (e := e) hfit
  simp [Packet02.vlanTagPush, hl, hp, hv]

/-- `xdp_vlan_swap_func`, in both lessons, on a frame whose Ethernet header fits: it pops the
outer tag of a tagged frame, pushes tag `1` onto any other, and passes the packet. -/
theorem vlanSwap_eq {pop : XdpMd → Ptr → Option (ℤ × XdpMd)}
    {push : XdpMd → Ptr → ℤ → Option (ℤ × XdpMd)} (hfit : ctx.data + 14 ≤ ctx.dataEnd) :
    vlanSwap e pop push ctx =
      (if isVlanType (etherType ctx.frame) then pop ctx ctx.dataPtr else push ctx ctx.dataPtr 1).map
        fun r => (.pass, r.2) := by
  obtain ⟨h', k, heq, -⟩ := parseEthhdr_of_fits (e := e) (XdpMd.cursor_dataPtr (c := ctx)) hfit
  obtain ⟨h, hl, hp⟩ := load16_ethType (e := e) hfit
  unfold vlanSwap
  simp only [heq, hl, hp, Option.bind_eq_bind, Option.some_bind]
  rw [if_neg (by omega)]
  split <;> simp only [Option.map_eq_bind] <;> rfl

end Refinement

/-! ### Round trips -/

section RoundTrip

variable {e : Endian} {adj : AdjustHead} {ctx : XdpMd}

/-- `push` with `vlid`, then `pop`, both at the head of the packet: the push succeeds, and if the
second head adjustment succeeds too, the pop returns `vlid` and leaves the packet of `ctx`, with
the same `data`, `data_end` and bytes. -/
def PushPopRestores (adj : AdjustHead) (push : XdpMd → Ptr → ℤ → Option (ℤ × XdpMd))
    (pop : XdpMd → Ptr → Option (ℤ × XdpMd)) (ctx : XdpMd) (vlid : ℤ) : Prop :=
  ∃ c₁, push ctx ctx.dataPtr vlid = some (0, c₁) ∧
    ((adj c₁ 4).1 = 0 → ∃ c₂, pop c₁ c₁.dataPtr = some (vlid, c₂) ∧
      c₂.data = ctx.data ∧ c₂.dataEnd = ctx.dataEnd ∧ c₂.frame = ctx.frame)

/-- Two runs of an XDP program `swap`: the first passes the packet, and if the second's head
adjustment succeeds, the second passes it too and leaves the packet of `ctx`. -/
def SwapTwiceRestores (adj : AdjustHead) (swap : XdpMd → Option (XdpAction × XdpMd))
    (ctx : XdpMd) : Prop :=
  ∃ c₁, swap ctx = some (.pass, c₁) ∧
    ((adj c₁ 4).1 = 0 → ∃ c₂, swap c₁ = some (.pass, c₂) ∧
      c₂.data = ctx.data ∧ c₂.dataEnd = ctx.dataEnd ∧ c₂.frame = ctx.frame)

/-- What a push and a pop that refine `pushTag` and `popTag` do in sequence: the push leaves a
tagged frame whose tag fits, from which the pop gives back `vlid` and the packet. -/
theorem push_then_pop {push : XdpMd → Ptr → ℤ → Option (ℤ × XdpMd)}
    {pop : XdpMd → Ptr → Option (ℤ × XdpMd)} {vlid : ℤ} (hlen : 14 ≤ ctx.frame.length)
    (hid : 0 ≤ vlid ∧ vlid ≤ 0xFFFF)
    (hpush : ∃ c', push ctx ctx.dataPtr vlid = some (0, c') ∧ c'.data + 4 = ctx.data ∧
      c'.dataEnd = ctx.dataEnd ∧ c'.frame = pushTag (UInt16.ofNat ethP8021Q) (u16OfInt vlid) ctx.frame)
    (hpop : ∀ c : XdpMd, c.data + 18 ≤ c.dataEnd → isVlanType (etherType c.frame) →
      (adj c 4).1 = 0 → ∃ c', pop c c.dataPtr = some (((vlanTci c.frame).toNat : ℤ), c') ∧
        c'.data = c.data + 4 ∧ c'.dataEnd = c.dataEnd ∧ c'.frame = popTag c.frame) :
    ∃ c₁, push ctx ctx.dataPtr vlid = some (0, c₁) ∧ c₁.data + 14 ≤ c₁.dataEnd ∧
      isVlanType (etherType c₁.frame) ∧
      ((adj c₁ 4).1 = 0 → ∃ c₂, pop c₁ c₁.dataPtr = some (vlid, c₂) ∧
        c₂.data = ctx.data ∧ c₂.dataEnd = ctx.dataEnd ∧ c₂.frame = ctx.frame) := by
  obtain ⟨c₁, hc₁, hd₁, he₁, hf₁⟩ := hpush
  have hL : 12 ≤ ctx.frame.length := by omega
  have hv : isVlanType (etherType c₁.frame) := by rw [hf₁, etherType_pushTag hL]; decide
  simp only [XdpMd.length_frame] at hlen
  refine ⟨c₁, hc₁, by omega, hv, fun h₂ => ?_⟩
  obtain ⟨c₂, hc₂, hd₂, he₂, hf₂⟩ := hpop c₁ (by omega) hv h₂
  rw [hf₁, vlanTci_pushTag hL, u16OfInt_toNat hid.1 (by omega)] at hc₂
  exact ⟨c₂, hc₂, by omega, he₂.trans he₁, by rw [hf₂, hf₁, popTag_pushTag hL]⟩

section

variable {push : XdpMd → Ptr → ℤ → Option (ℤ × XdpMd)} {pop : XdpMd → Ptr → Option (ℤ × XdpMd)}
  (hpush : ∀ vlid, ∃ c', push ctx ctx.dataPtr vlid = some (0, c') ∧ c'.data + 4 = ctx.data ∧
    c'.dataEnd = ctx.dataEnd ∧ c'.frame = pushTag (UInt16.ofNat ethP8021Q) (u16OfInt vlid) ctx.frame)
  (hpop : ∀ c : XdpMd, c.data + 18 ≤ c.dataEnd → isVlanType (etherType c.frame) →
    (adj c 4).1 = 0 → ∃ c', pop c c.dataPtr = some (((vlanTci c.frame).toNat : ℤ), c') ∧
      c'.data = c.data + 4 ∧ c'.dataEnd = c.dataEnd ∧ c'.frame = popTag c.frame)
include hpush hpop

theorem pushPopRestores_of {vlid : ℤ} (hlen : 14 ≤ ctx.frame.length) (hid : 0 ≤ vlid ∧ vlid ≤ 0xFFFF) :
    PushPopRestores adj push pop ctx vlid :=
  let ⟨c₁, hc₁, _, _, h⟩ := push_then_pop hlen hid (hpush vlid) hpop
  ⟨c₁, hc₁, h⟩

theorem swapTwiceRestores_of (hlen : 14 ≤ ctx.frame.length)
    (hnv : isVlanType (etherType ctx.frame) = false) :
    SwapTwiceRestores adj (vlanSwap e pop push) ctx := by
  have hfit : ctx.data + 14 ≤ ctx.dataEnd := by simp at hlen; omega
  obtain ⟨c₁, hc₁, hfit₁, hv₁, h⟩ := push_then_pop hlen (by decide) (hpush 1) hpop
  refine ⟨c₁, by rw [vlanSwap_eq hfit, hnv, if_neg Bool.false_ne_true, hc₁]; rfl, fun h₂ => ?_⟩
  obtain ⟨c₂, hc₂, h₂⟩ := h h₂
  exact ⟨c₂, by rw [vlanSwap_eq hfit₁, if_pos hv₁, hc₂]; rfl, h₂⟩

end

/-- **Push then pop restores the frame.** On an Ethernet frame that is not tagged, with head
adjustments that keep their contract and succeed, `vlan_tag_push` with an ID in `[0, 0xFFFF]`
followed by `vlan_tag_pop` returns the ID and gives back the packet byte for byte, in both
lessons; so two runs of either `xdp_vlan_swap_func` leave the packet as it was. -/
theorem vlanTagPush_pop (hadj : adj.Sound) (hlen : 14 ≤ ctx.frame.length)
    (hnv : isVlanType (etherType ctx.frame) = false) {vlid : ℤ} (hid : 0 ≤ vlid ∧ vlid ≤ 0xFFFF)
    (h₁ : (adj ctx (-4)).1 = 0) :
    PushPopRestores adj (Solutions.vlanTagPush e adj) (Solutions.vlanTagPop e adj) ctx vlid ∧
      PushPopRestores adj (Packet02.vlanTagPush e adj) (Packet02.vlanTagPop e adj) ctx vlid ∧
      SwapTwiceRestores adj (Solutions.xdpVlanSwapFunc e adj) ctx ∧
      SwapTwiceRestores adj (Packet02.xdpVlanSwapFunc e adj) ctx := by
  have hfit : ctx.data + 14 ≤ ctx.dataEnd := by simp at hlen; omega
  have hpush₁ := vlanTagPush_frame (e := e) hadj hfit h₁
  have hpush₂ := vlanTagPush_frame' (e := e) hadj hfit hnv h₁
  exact ⟨pushPopRestores_of hpush₁ (fun _ => vlanTagPop_frame' hadj) hlen hid,
    pushPopRestores_of hpush₂ (fun _ => vlanTagPop_frame hadj) hlen hid,
    swapTwiceRestores_of hpush₁ (fun _ => vlanTagPop_frame' hadj) hlen hnv,
    swapTwiceRestores_of hpush₂ (fun _ => vlanTagPop_frame hadj) hlen hnv⟩

/-- A bare Ethernet header of type IPv4, with four bytes of headroom before it. -/
def untaggedFrame : XdpMd :=
  ⟨fun a => ([0, 0, 0, 0, 0, 1, 0, 0, 0, 0, 0, 2, 0x08, 0x00] : List UInt8).getD (a - 4) 0,
    4, 18, 0, 0, by decide⟩

theorem vlanTagPush_pop_untaggedFrame :
    (moveHead untaggedFrame (-4)).1 = 0 ∧ 14 ≤ untaggedFrame.frame.length ∧
      isVlanType (etherType untaggedFrame.frame) = false ∧
      (PushPopRestores moveHead (Solutions.vlanTagPush .little moveHead)
          (Solutions.vlanTagPop .little moveHead) untaggedFrame 7 ∧
        PushPopRestores moveHead (Packet02.vlanTagPush .little moveHead)
          (Packet02.vlanTagPop .little moveHead) untaggedFrame 7 ∧
        SwapTwiceRestores moveHead (Solutions.xdpVlanSwapFunc .little moveHead) untaggedFrame ∧
        SwapTwiceRestores moveHead (Packet02.xdpVlanSwapFunc .little moveHead) untaggedFrame) :=
  ⟨by decide, by decide, by decide,
    vlanTagPush_pop moveHead_sound (by decide) (by decide) ⟨by decide, by decide⟩ (by decide)⟩

/-- Pop then push, as the code does it. On a tagged frame of at least 18 bytes, with head
adjustments that keep their contract, a successful `vlan_tag_pop` returns the outer TCI in both
lessons. After it, a successful `vlan_tag_push` of packet-solutions with that TCI gives back the
frame with `0x8100` as its outer ethertype, so the frame itself when its tag was 802.1Q;
packet02's does the same unless the encapsulated ethertype is a VLAN type, where it refuses and
leaves the popped frame. -/
theorem vlanTagPop_push (hadj : adj.Sound) (hlen : 18 ≤ ctx.frame.length)
    (hv : isVlanType (etherType ctx.frame)) (h₁ : (adj ctx 4).1 = 0) :
    ∃ c₁, Solutions.vlanTagPop e adj ctx ctx.dataPtr = some (((vlanTci ctx.frame).toNat : ℤ), c₁) ∧
      Packet02.vlanTagPop e adj ctx ctx.dataPtr = some (((vlanTci ctx.frame).toNat : ℤ), c₁) ∧
      ((adj c₁ (-4)).1 = 0 → ∃ c₂,
        Solutions.vlanTagPush e adj c₁ c₁.dataPtr (vlanTci ctx.frame).toNat = some (0, c₂) ∧
        c₂.data = ctx.data ∧ c₂.dataEnd = ctx.dataEnd ∧
        c₂.frame = ctx.frame.take 12 ++ Endian.big.store16 (UInt16.ofNat ethP8021Q) ++
          ctx.frame.drop 14 ∧
        (etherType ctx.frame = UInt16.ofNat ethP8021Q → c₂.frame = ctx.frame) ∧
        Packet02.vlanTagPush e adj c₁ c₁.dataPtr (vlanTci ctx.frame).toNat =
          if isVlanType (vlanEncapProto ctx.frame) then some (-1, c₁) else some (0, c₂)) := by
  have hfit : ctx.data + 18 ≤ ctx.dataEnd := by simp at hlen; omega
  obtain ⟨c₁, hc₁, hd₁, he₁, hf₁⟩ := vlanTagPop_frame (e := e) hadj hfit hv h₁
  have hfit₁ : c₁.data + 14 ≤ c₁.dataEnd := by omega
  refine ⟨c₁, @Solutions.vlanTagPop_eq e adj ctx ctx.dataPtr ▸ hc₁, hc₁, fun h₂ => ?_⟩
  obtain ⟨c₂, hc₂, hd₂, he₂, hf₂⟩ := vlanTagPush_frame (e := e) hadj hfit₁ h₂ (vlanTci ctx.frame).toNat
  rw [u16OfInt_cast_toNat, hf₁] at hf₂
  have hframe := hf₂.trans (pushTag_vlanTci_popTag (by omega))
  refine ⟨c₂, hc₂, by omega, he₂.trans he₁, hframe, fun h8 => ?_, ?_⟩
  · rw [hf₂, ← h8, pushTag_popTag (by omega)]
  · have he : etherType c₁.frame = vlanEncapProto ctx.frame := by
      rw [hf₁, etherType_popTag (by omega)]
    split_ifs with hev
    · exact vlanTagPush_of_tagged hfit₁ (he ▸ hev) _
    · obtain ⟨h, hl, hp⟩ := load16_ethType (e := e) hfit₁
      rw [Solutions.vlanTagPush_eq hl (by rw [hp, he]; simpa using hev), hc₂]

/-- An 802.1Q frame with TCI `5` around IPv4. -/
def dot1qFrame : XdpMd :=
  ⟨fun a => ([0, 0, 0, 0, 0, 1, 0, 0, 0, 0, 0, 2, 0x81, 0x00, 0, 5, 0x08, 0x00] : List UInt8).getD a 0,
    0, 18, 0, 0, by decide⟩

theorem vlanTagPop_push_dot1qFrame :
    18 ≤ dot1qFrame.frame.length ∧ isVlanType (etherType dot1qFrame.frame) ∧
      (moveHead dot1qFrame 4).1 = 0 ∧
      ∃ c₁, Solutions.vlanTagPop .little moveHead dot1qFrame dot1qFrame.dataPtr =
          some (((vlanTci dot1qFrame.frame).toNat : ℤ), c₁) ∧
        Packet02.vlanTagPop .little moveHead dot1qFrame dot1qFrame.dataPtr =
          some (((vlanTci dot1qFrame.frame).toNat : ℤ), c₁) ∧
        ((moveHead c₁ (-4)).1 = 0 → ∃ c₂,
          Solutions.vlanTagPush .little moveHead c₁ c₁.dataPtr (vlanTci dot1qFrame.frame).toNat =
            some (0, c₂) ∧
          c₂.data = dot1qFrame.data ∧ c₂.dataEnd = dot1qFrame.dataEnd ∧
          c₂.frame = dot1qFrame.frame.take 12 ++ Endian.big.store16 (UInt16.ofNat ethP8021Q) ++
            dot1qFrame.frame.drop 14 ∧
          (etherType dot1qFrame.frame = UInt16.ofNat ethP8021Q → c₂.frame = dot1qFrame.frame) ∧
          Packet02.vlanTagPush .little moveHead c₁ c₁.dataPtr (vlanTci dot1qFrame.frame).toNat =
            if isVlanType (vlanEncapProto dot1qFrame.frame) then some (-1, c₁) else some (0, c₂)) :=
  ⟨by decide, by decide, by decide, vlanTagPop_push moveHead_sound (by decide) (by decide) (by decide)⟩

/-- An 802.1ad frame: outer tag `0x88A8` with TCI `5`, around IPv4. -/
def adFrame : XdpMd :=
  ⟨fun a => ([0, 0, 0, 0, 0, 1, 0, 0, 0, 0, 0, 2, 0x88, 0xA8, 0, 5, 0x08, 0x00] : List UInt8).getD a 0,
    0, 18, 0, 0, by decide⟩

/-- A double-tagged frame: an 802.1Q tag with TCI `5` around an 802.1Q tag with TCI `7`. -/
def qinqFrame : XdpMd :=
  ⟨fun a => ([0, 0, 0, 0, 0, 1, 0, 0, 0, 0, 0, 2, 0x81, 0x00, 0, 5, 0x81, 0x00, 0, 7, 0x08, 0x00] :
    List UInt8).getD a 0, 0, 22, 0, 0, by decide⟩

/-- Pop then push does not restore every tagged frame. Both head adjustments succeed, but
packet-solutions turns the 802.1ad tag of `adFrame` into an 802.1Q tag, and packet02's
`vlan_tag_push` refuses the popped `qinqFrame`, which still has a tag. -/
theorem vlanTagPop_push_adFrame :
    (Solutions.vlanTagPop .little moveHead adFrame adFrame.dataPtr).bind
        (fun r => (Solutions.vlanTagPush .little moveHead r.2 r.2.dataPtr r.1).map
          fun s => (r.1, s.1, s.2.frame)) =
      some (5, 0, (adFrame.frame.set 12 0x81).set 13 0x00) ∧
    (adFrame.frame.set 12 0x81).set 13 0x00 ≠ adFrame.frame ∧
    (Packet02.vlanTagPop .little moveHead qinqFrame qinqFrame.dataPtr).bind
        (fun r => (Packet02.vlanTagPush .little moveHead r.2 r.2.dataPtr r.1).map
          fun s => (r.1, s.1)) =
      some (5, -1) := by
  decide

end RoundTrip

/-! ### All or nothing -/

/-- `c'` has the packet of `c`: the same `data`, `data_end` and bytes. -/
structure SamePacket (c c' : XdpMd) : Prop where
  data_eq : c'.data = c.data
  dataEnd_eq : c'.dataEnd = c.dataEnd
  frame_eq : c'.frame = c.frame

theorem SamePacket.refl (c : XdpMd) : SamePacket c c := ⟨rfl, rfl, rfl⟩

/-- The helper fails cleanly: whenever it does not return `0`, it leaves the packet as it was. -/
def AdjustHead.FailsClean (adj : AdjustHead) : Prop := ∀ c d, (adj c d).1 ≠ 0 → SamePacket c (adj c d).2

theorem moveHead_failsClean : moveHead.FailsClean := fun c d h => by
  unfold moveHead at h ⊢
  split_ifs at h ⊢
  · exact absurd rfl h
  · exact .refl c

/-- The verifier's view of the context after a clean failure has the same packet. -/
theorem SamePacket.adjustHead {adj : AdjustHead} {c : XdpMd} {d : ℤ} (h : SamePacket c (adj c d).2) :
    SamePacket c (bpfXdpAdjustHead adj c d).2 :=
  ⟨h.data_eq, h.dataEnd_eq, h.frame_eq⟩

/-- A call of a VLAN function on `ctx` is all or nothing: it returns, either with a result
`done` describes or with `-1` and the packet of `ctx`. -/
def AllOrNothing (ctx : XdpMd) (done : ℤ × XdpMd → Prop) (r : Option (ℤ × XdpMd)) : Prop :=
  ∃ res, r = some res ∧ (done res ∨ (res.1 = -1 ∧ SamePacket ctx res.2))

/-- A pop that succeeded: the frame was tagged, and the result is its TCI and `popTag` of it. -/
def PopDone (ctx : XdpMd) (res : ℤ × XdpMd) : Prop :=
  isVlanType (etherType ctx.frame) ∧ res.1 = (vlanTci ctx.frame).toNat ∧
    res.2.data = ctx.data + 4 ∧ res.2.dataEnd = ctx.dataEnd ∧ res.2.frame = popTag ctx.frame

/-- A push that succeeded: the result is `0` and `pushTag 0x8100 vlid` of the frame. -/
def PushDone (ctx : XdpMd) (vlid : ℤ) (res : ℤ × XdpMd) : Prop :=
  res.1 = 0 ∧ res.2.data + 4 = ctx.data ∧ res.2.dataEnd = ctx.dataEnd ∧
    res.2.frame = pushTag (UInt16.ofNat ethP8021Q) (u16OfInt vlid) ctx.frame

section Failure

variable {e : Endian} {adj : AdjustHead} {ctx : XdpMd}

/-- packet02's `vlan_tag_pop` fails cleanly unless the frame is tagged, its tag fits and the
head moves: it returns `-1` before the head adjustment, or after one that failed. -/
theorem Packet02.vlanTagPop_fail (hfail : adj.FailsClean) (hfit : ctx.data + 14 ≤ ctx.dataEnd)
    (h : ¬(isVlanType (etherType ctx.frame) ∧ ctx.data + 18 ≤ ctx.dataEnd ∧ (adj ctx 4).1 = 0)) :
    ∃ c', Packet02.vlanTagPop e adj ctx ctx.dataPtr = some (-1, c') ∧ SamePacket ctx c' := by
  obtain ⟨hp, hl, hv⟩ := load16_ethType (e := e) hfit
  unfold Packet02.vlanTagPop
  simp only [Ptr.add_add, Nat.reduceAdd, hl, Option.bind_eq_bind, Option.some_bind, hv]
  by_cases ht : isVlanType (etherType ctx.frame)
  swap
  · rw [if_pos (by simpa using ht)]; exact ⟨ctx, rfl, .refl ctx⟩
  by_cases h₂ : ctx.dataEnd < ctx.data + 18
  · rw [if_neg (by simp [ht]), if_pos (by simpa using h₂)]; exact ⟨ctx, rfl, .refl ctx⟩
  have h₁ : (adj ctx 4).1 ≠ 0 := fun h₀ => h ⟨ht, by omega, h₀⟩
  rw [if_neg (by simp [ht]), if_neg (by simpa using h₂), XdpMd.loadBytes_eq (ctx.canAccess_head hfit),
    XdpMd.load16_dataPtr (by omega), XdpMd.load16_dataPtr (by omega)]
  simp only [Option.some_bind, bpfXdpAdjustHead]
  rw [if_pos h₁]
  exact ⟨_, rfl, (hfail ctx 4 h₁).adjustHead⟩

/-- packet-solutions' `vlan_tag_push` fails cleanly when the head adjustment fails. -/
theorem Solutions.vlanTagPush_fail (hfail : adj.FailsClean) (hfit : ctx.data + 14 ≤ ctx.dataEnd)
    (h₁ : (adj ctx (-4)).1 ≠ 0) (vlid : ℤ) :
    ∃ c', Solutions.vlanTagPush e adj ctx ctx.dataPtr vlid = some (-1, c') ∧ SamePacket ctx c' := by
  unfold Solutions.vlanTagPush
  rw [XdpMd.loadBytes_eq (ctx.canAccess_head hfit)]
  simp only [Option.bind_eq_bind, Option.some_bind, bpfXdpAdjustHead]
  rw [if_pos h₁]
  exact ⟨_, rfl, (hfail ctx (-4) h₁).adjustHead⟩

/-- **VLAN pop and push are all or nothing.** Let `bpf_xdp_adjust_head` keep its contract when it
succeeds and fail cleanly. Then on every frame whose Ethernet header fits, `vlan_tag_pop` and
`vlan_tag_push` of both lessons either succeed with the result the model gives or return `-1`
with the packet as it was: no run leaves a moved head with the Ethernet header not restored or
the tag not written. -/
theorem vlanTag_allOrNothing (e : Endian) (adj : AdjustHead) (hadj : adj.Sound)
    (hfail : adj.FailsClean) (ctx : XdpMd) (hfit : ctx.data + 14 ≤ ctx.dataEnd) (vlid : ℤ) :
    AllOrNothing ctx (PopDone ctx) (Packet02.vlanTagPop e adj ctx ctx.dataPtr) ∧
      AllOrNothing ctx (PopDone ctx) (Solutions.vlanTagPop e adj ctx ctx.dataPtr) ∧
      AllOrNothing ctx (PushDone ctx vlid) (Packet02.vlanTagPush e adj ctx ctx.dataPtr vlid) ∧
      AllOrNothing ctx (PushDone ctx vlid) (Solutions.vlanTagPush e adj ctx ctx.dataPtr vlid) := by
  have hpop : AllOrNothing ctx (PopDone ctx) (Packet02.vlanTagPop e adj ctx ctx.dataPtr) := by
    by_cases hok : isVlanType (etherType ctx.frame) ∧ ctx.data + 18 ≤ ctx.dataEnd ∧ (adj ctx 4).1 = 0
    · obtain ⟨c', hc', hd, he, hf⟩ := vlanTagPop_frame (e := e) hadj hok.2.1 hok.1 hok.2.2
      exact ⟨_, hc', .inl ⟨hok.1, rfl, hd, he, hf⟩⟩
    · obtain ⟨c', hc', hs⟩ := Packet02.vlanTagPop_fail (e := e) hfail hfit hok
      exact ⟨_, hc', .inr ⟨rfl, hs⟩⟩
  have hpush : AllOrNothing ctx (PushDone ctx vlid) (Solutions.vlanTagPush e adj ctx ctx.dataPtr vlid) := by
    by_cases h₀ : (adj ctx (-4)).1 = 0
    · obtain ⟨c', hc', hd, he, hf⟩ := vlanTagPush_frame (e := e) hadj hfit h₀ vlid
      exact ⟨_, hc', .inl ⟨rfl, hd, he, hf⟩⟩
    · obtain ⟨c', hc', hs⟩ := Solutions.vlanTagPush_fail (e := e) hfail hfit h₀ vlid
      exact ⟨_, hc', .inr ⟨rfl, hs⟩⟩
  refine ⟨hpop, @Solutions.vlanTagPop_eq e adj ctx ctx.dataPtr ▸ hpop, ?_, hpush⟩
  obtain ⟨h, hl, hp⟩ := load16_ethType (e := e) hfit
  cases hv : isVlanType (etherType ctx.frame)
  · rw [Solutions.vlanTagPush_eq hl (hp.trans hv)]; exact hpush
  · exact ⟨_, vlanTagPush_of_tagged hfit hv vlid, .inr ⟨rfl, .refl ctx⟩⟩

/-- `dot1qFrame` starts its buffer, so `moveHead` cannot make room for a push there. -/
theorem vlanTag_allOrNothing_dot1qFrame :
    AllOrNothing dot1qFrame (PopDone dot1qFrame)
        (Packet02.vlanTagPop .little moveHead dot1qFrame dot1qFrame.dataPtr) ∧
      AllOrNothing dot1qFrame (PopDone dot1qFrame)
        (Solutions.vlanTagPop .little moveHead dot1qFrame dot1qFrame.dataPtr) ∧
      AllOrNothing dot1qFrame (PushDone dot1qFrame 7)
        (Packet02.vlanTagPush .little moveHead dot1qFrame dot1qFrame.dataPtr 7) ∧
      AllOrNothing dot1qFrame (PushDone dot1qFrame 7)
        (Solutions.vlanTagPush .little moveHead dot1qFrame dot1qFrame.dataPtr 7) :=
  vlanTag_allOrNothing .little moveHead moveHead_sound moveHead_failsClean dot1qFrame (by decide) 7

end Failure

end XdpTutorial
