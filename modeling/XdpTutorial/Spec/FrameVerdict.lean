import XdpTutorial.Spec.PortRewrite

/-!
# packet02's parser decides on the frame alone

`xdp_parser_func` of packet02 reads the packet through checked loads, so what it decides can
depend only on the bytes between `data` and `data_end`. This module proves it: the program's
verdict is `echoVerdict` of the frame, the contract of `EchoParser` read over the frame laid at
address `0` (`XdpMd.ofFrame`), wherever the packet lies and whatever lies around it.

## Agreement from an offset

`SameFrom A B a b` says that the packet `A` from address `a` on and the packet `B` from `b` on
hold the same bytes, up to their ends. Each predicate of the contract reads forward from one
address and checks every read against `data_end` first, so each carries over such an agreement:
`SameFrom.evenEcho6_iff`, `SameFrom.evenEcho4_iff`, `SameFrom.vlanStop_iff` and, built from them,
`SameFrom.evenEchoRequest_iff`. A packet agrees with its own frame at `0` from `data` on
(`sameFrom_ofFrame`), which gives `xdpParserFunc_echoVerdict`. Two frames one VLAN tag apart
agree past the tag, which `SwapVerdict` uses.
-/

namespace XdpTutorial

/-- The frame `f` as a packet of its own, laid at address `0`, with zeros around it. -/
def XdpMd.ofFrame (f : List UInt8) : XdpMd :=
  ⟨fun i => f.getD i 0, 0, f.length, 0, 0, Nat.zero_le _⟩

@[simp] theorem XdpMd.ofFrame_data (f : List UInt8) : (XdpMd.ofFrame f).data = 0 := rfl

@[simp] theorem XdpMd.ofFrame_dataEnd (f : List UInt8) : (XdpMd.ofFrame f).dataEnd = f.length :=
  rfl

@[simp] theorem XdpMd.ofFrame_mem (f : List UInt8) (i : ℕ) :
    (XdpMd.ofFrame f).mem i = f.getD i 0 :=
  rfl

/-- The Ethernet protocol of a frame at `0` is its ethertype. -/
theorem encapType_ofFrame (g : List UInt8) : encapType (XdpMd.ofFrame g).mem 0 0 = etherType g :=
  rfl

/-- From address `a` of `A` and address `b` of `B` on, the two packets hold the same bytes, up to
their ends. -/
structure SameFrom (A B : XdpMd) (a b : ℕ) : Prop where
  dataEnd_eq : A.dataEnd + b = B.dataEnd + a
  mem_eq : ∀ j, a + j < A.dataEnd → A.mem (a + j) = B.mem (b + j)

theorem encapAddr_eq (a i : ℕ) : encapAddr a i = a + 12 + 4 * i := by
  cases i with
  | zero => rfl
  | succ i => simp only [encapAddr]; omega

/-! ### Agreement -/

section SameFrom

variable {A B : XdpMd} {a b : ℕ}

theorem SameFrom.symm (h : SameFrom A B a b) : SameFrom B A b a :=
  ⟨h.dataEnd_eq.symm, fun j hj => (h.mem_eq j (by have := h.dataEnd_eq; omega)).symm⟩

/-- Agreement from `a` and `b` on is agreement from any `d` bytes further on. -/
theorem SameFrom.shift (h : SameFrom A B a b) (d : ℕ) {a' b' : ℕ} (ha : a + d = a')
    (hb : b + d = b') : SameFrom A B a' b' := by
  subst ha hb
  exact ⟨by have := h.dataEnd_eq; omega, fun j hj => by
    rw [Nat.add_assoc, Nat.add_assoc]; exact h.mem_eq (d + j) (by omega)⟩

theorem SameFrom.mem_self (h : SameFrom A B a b) (ha : a < A.dataEnd) : A.mem a = B.mem b :=
  h.mem_eq 0 ha

/-- A bound check reads alike on both packets. -/
theorem SameFrom.le_iff (h : SameFrom A B a b) (n : ℕ) :
    a + n ≤ A.dataEnd ↔ b + n ≤ B.dataEnd := by
  have := h.dataEnd_eq; omega

/-- The protocol at an address both packets hold reads alike. -/
theorem SameFrom.encapType_eq {a' b' i j : ℕ} (h : SameFrom A B (encapAddr a' i) (encapAddr b' j))
    (h2 : encapAddr a' i + 2 ≤ A.dataEnd) : encapType A.mem a' i = encapType B.mem b' j := by
  rw [XdpTutorial.encapType, XdpTutorial.encapType, h.mem_self (by omega), h.mem_eq 1 (by omega)]

/-- Packets that agree from their `i`-th and their `j`-th protocol on stop their VLAN loops there
alike, but for the depth limit. -/
theorem SameFrom.vlanStop_iff {a' b' i j : ℕ} (h : SameFrom A B (encapAddr a' i) (encapAddr b' j))
    (hd : i = vlanMaxDepth ↔ j = vlanMaxDepth) :
    VlanStop A.mem A.dataEnd a' i ↔ VlanStop B.mem B.dataEnd b' j := by
  have hl := h.dataEnd_eq
  rw [encapAddr_eq, encapAddr_eq] at hl
  by_cases hf : A.dataEnd < a' + 14 + 4 * i + 4
  · exact iff_of_true (.inr (.inr hf)) (.inr (.inr (by omega)))
  rw [VlanStop, VlanStop, h.encapType_eq (by rw [encapAddr_eq]; omega), hd]
  exact or_congr_right (or_congr_right (by omega))

/-- Packets that agree from their Ethernet protocol on first stop their VLAN loops alike. -/
theorem SameFrom.firstVlanStop_iff (h : SameFrom A B (a + 12) (b + 12)) {k : ℕ} :
    FirstVlanStop A.mem A.dataEnd a k ↔ FirstVlanStop B.mem B.dataEnd b k := by
  have hv : ∀ i, VlanStop A.mem A.dataEnd a i ↔ VlanStop B.mem B.dataEnd b i := fun i =>
    SameFrom.vlanStop_iff (h.shift (4 * i) (encapAddr_eq a i).symm (encapAddr_eq b i).symm) Iff.rfl
  simp only [FirstVlanStop, hv]

/-- A packet agrees with its frame at `0` from `data` on. -/
theorem sameFrom_ofFrame (c : XdpMd) : SameFrom c (XdpMd.ofFrame c.frame) c.data 0 :=
  ⟨by simp only [XdpMd.ofFrame_dataEnd, XdpMd.length_frame]; have := c.data_le_dataEnd; omega,
    fun j hj => by rw [XdpMd.ofFrame_mem, Nat.zero_add, XdpMd.getD_frame (by omega)]⟩

/-- A packet's VLAN loop stops where its frame's does. -/
theorem vlanStop_ofFrame (c : XdpMd) :
    vlanStop (XdpMd.ofFrame c.frame).mem c.frame.length 0 = vlanStop c.mem c.dataEnd c.data :=
  (firstVlanStop_vlanStop _ _ _).unique
    (((sameFrom_ofFrame c).shift 12 rfl rfl).firstVlanStop_iff.1 (firstVlanStop_vlanStop _ _ _))

end SameFrom

namespace Packet02

/-! ### The contract over agreeing packets -/

section Contract

variable {A B : XdpMd} {a b : ℕ}

theorem SameFrom.evenSequence_iff (h : SameFrom A B a b) (h8 : a + 8 ≤ A.dataEnd) :
    EvenSequence A a ↔ EvenSequence B b := by
  rw [EvenSequence, EvenSequence, h.mem_eq 6 (by omega), h.mem_eq 7 (by omega)]

theorem SameFrom.evenEcho6_iff (h : SameFrom A B a b) : EvenEcho6 A a ↔ EvenEcho6 B b := by
  by_cases h48 : a + 40 + 8 ≤ A.dataEnd
  · rw [EvenEcho6, EvenEcho6, h.mem_eq 6 (by omega), h.mem_eq 40 (by omega),
      SameFrom.evenSequence_iff (h.shift 40 rfl rfl) h48, h.le_iff, (h.shift 40 rfl rfl).le_iff]
  · exact iff_of_false (fun h' => h48 h'.2.2.1)
      fun h' => h48 (((h.shift 40 rfl rfl).le_iff 8).2 h'.2.2.1)

theorem SameFrom.evenEcho4_iff (h : SameFrom A B a b) : EvenEcho4 A a ↔ EvenEcho4 B b := by
  by_cases h20 : a + 20 ≤ A.dataEnd
  swap
  · exact iff_of_false (fun h' => h20 h'.1) fun h' => h20 ((h.le_iff 20).2 h'.1)
  rw [EvenEcho4, EvenEcho4, h.mem_self (by omega), h.mem_eq 9 (by omega)]
  have hs := h.shift ((B.mem b).toNat % 16 * 4) rfl rfl
  by_cases h8 : a + (B.mem b).toNat % 16 * 4 + 8 ≤ A.dataEnd
  · rw [hs.mem_self (by omega), SameFrom.evenSequence_iff hs h8, h.le_iff, h.le_iff, hs.le_iff]
  · exact iff_of_false (fun h' => h8 h'.2.2.2.1) fun h' => h8 ((hs.le_iff 8).2 h'.2.2.2.1)

theorem not_evenEchoRequest {ctx : XdpMd} {k : ℕ} (h : ctx.dataEnd < ctx.data + 14 + 4 * k + 20) :
    ¬EvenEchoRequest ctx k := by
  rintro (⟨-, h6, -⟩ | ⟨-, h4, -⟩) <;> omega

/-- Packets that agree from their `i`-th and their `j`-th protocol on carry an even echo request
past them alike. -/
theorem SameFrom.evenEchoRequest_iff {i j : ℕ}
    (h : SameFrom A B (encapAddr A.data i) (encapAddr B.data j)) :
    EvenEchoRequest A i ↔ EvenEchoRequest B j := by
  have hl := h.dataEnd_eq
  rw [encapAddr_eq, encapAddr_eq] at hl
  by_cases h20 : A.data + 14 + 4 * i + 20 ≤ A.dataEnd
  · have hip : SameFrom A B (A.data + 14 + 4 * i) (B.data + 14 + 4 * j) :=
      h.shift 2 (by rw [encapAddr_eq]; omega) (by rw [encapAddr_eq]; omega)
    rw [EvenEchoRequest, EvenEchoRequest, h.encapType_eq (by rw [encapAddr_eq]; omega),
      SameFrom.evenEcho6_iff hip, SameFrom.evenEcho4_iff hip]
  · exact iff_of_false (not_evenEchoRequest (by omega)) (not_evenEchoRequest (by omega))

end Contract

/-! ### The verdict on a frame -/

/-- packet02's verdict on the frame `f`: the contract read over `f` laid at address `0`. -/
def echoVerdict (f : List UInt8) : XdpAction :=
  if EvenEchoRequest (XdpMd.ofFrame f) (vlanStop (XdpMd.ofFrame f).mem f.length 0) then .drop
  else .pass

theorem echoVerdict_eq {f : List UInt8} {k : ℕ}
    (hk : FirstVlanStop (XdpMd.ofFrame f).mem f.length 0 k) :
    echoVerdict f = if EvenEchoRequest (XdpMd.ofFrame f) k then .drop else .pass := by
  rw [echoVerdict, hk.unique (firstVlanStop_vlanStop _ _ _)]

/-- **packet02's parser decides on the frame alone.** For every packet and either byte order,
`xdp_parser_func` of packet02 changes nothing and returns `echoVerdict` of the frame: where the
packet lies in memory and what lies around it make no difference. -/
theorem xdpParserFunc_echoVerdict (e : Endian) (ctx : XdpMd) :
    xdpParserFunc e ctx = some (echoVerdict ctx.frame, ctx) := by
  have h := sameFrom_ofFrame ctx
  obtain ⟨k, hk⟩ := firstVlanStop_exists ctx.mem ctx.dataEnd ctx.data
  rw [echoVerdict_eq ((h.shift 12 rfl rfl).firstVlanStop_iff.1 hk)]
  by_cases hfit : ctx.data + 14 ≤ ctx.dataEnd
  · rw [xdpParserFunc_eq_of_first hfit hk, if_congr (SameFrom.evenEchoRequest_iff (i := k) (j := k)
      (h.shift (12 + 4 * k) (by rw [encapAddr_eq]; omega) (by simp [encapAddr_eq]))) rfl rfl]
  · rw [if_neg (not_evenEchoRequest (by simp; omega))]
    unfold xdpParserFunc parseEthhdr
    rw [if_pos (by simpa using hfit)]
    rfl

end Packet02

end XdpTutorial
