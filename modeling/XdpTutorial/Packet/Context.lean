import XdpTutorial.Packet.Bytes
import Mathlib.Data.List.GetD

/-!
# The XDP context and the packet memory

An XDP program sees its packet through `struct xdp_md`: `ctx->data` and
`ctx->data_end` delimit the packet in a page of memory that also holds
headroom before it. The in-kernel verifier accepts a program only if every
packet access falls inside `[data, data_end)` on every path, and it forgets
every packet pointer when a helper such as `bpf_xdp_adjust_head` may have
moved the packet.

## The model

The page is a function `ℕ → UInt8`. A pointer `Ptr` is an address together
with the *generation* of the packet it was computed from; `XdpMd.gen` counts
the head adjustments so far. `XdpMd.CanAccess c p n` is the verifier's
condition for an access of `n` bytes at `p`: inside `[data, data_end)` and
through a pointer of the current generation. The checked accesses
`load8`, `load16`, `loadBytes` and `store` return `none` when it fails, so a
program that could make a forbidden access has a run that ends in `none`;
"every access is safe" is "no run ends in `none`".

The external helpers are parameters. `AdjustHead` is any outcome of
`bpf_xdp_adjust_head`: a return value and a new context. `HeadMoved` says
what a successful call does: `data` moves by the requested amount, and
`data_end` and every byte that stays in the packet are kept.
-/

namespace XdpTutorial

/-! ### Memory -/

/-- The memory `m` with the bytes `bs` written from address `a` on. -/
def writeMem (m : ℕ → UInt8) (a : ℕ) (bs : List UInt8) (x : ℕ) : UInt8 :=
  if a ≤ x ∧ x < a + bs.length then bs.getD (x - a) 0 else m x

/-- The `n` bytes of `m` from address `a` on. -/
def readMem (m : ℕ → UInt8) (a n : ℕ) : List UInt8 := (List.range n).map fun i => m (a + i)

section Mem

variable {m : ℕ → UInt8} {a x i n : ℕ} {bs : List UInt8}

@[simp] theorem length_readMem : (readMem m a n).length = n := by simp [readMem]

theorem getD_readMem (h : i < n) : (readMem m a n).getD i 0 = m (a + i) := by
  simp [readMem, List.getD_eq_getElem?_getD, h]

theorem writeMem_of_lt (h : x < a) : writeMem m a bs x = m x := by
  simp [writeMem]; omega

theorem writeMem_of_le (h : a + bs.length ≤ x) : writeMem m a bs x = m x := by
  simp [writeMem]; omega

theorem writeMem_add (h : i < bs.length) : writeMem m a bs (a + i) = bs.getD i 0 := by
  simp [writeMem, h]

theorem writeMem_self (h : 0 < bs.length) : writeMem m a bs a = bs.getD 0 0 := writeMem_add h

/-- A list is what `readMem` gives when it has the right length and the right bytes. -/
theorem readMem_eq_of {l : List UInt8} (hl : l.length = n) (h : ∀ i < n, m (a + i) = l.getD i 0) :
    readMem m a n = l := by
  apply List.ext_getElem (by simp [hl])
  intro i h₁ h₂
  simp only [readMem, List.getElem_map, List.getElem_range]
  rw [h i (by simpa using h₁), List.getD_eq_getElem?_getD, List.getElem?_eq_getElem h₂,
    Option.getD_some]

theorem readMem_congr {m' : ℕ → UInt8} {a' : ℕ} (h : ∀ i < n, m (a + i) = m' (a' + i)) :
    readMem m a n = readMem m' a' n :=
  readMem_eq_of (by simp) fun i hi => by rw [h i hi, getD_readMem hi]

/-- Reading `k + n` bytes is reading `k`, then `n` more. -/
theorem readMem_add (k : ℕ) : readMem m a (k + n) = readMem m a k ++ readMem m (a + k) n := by
  simp [readMem, List.range_add, Nat.add_assoc]

theorem readMem_two : readMem m a 2 = [m a, m (a + 1)] := rfl

theorem take_readMem (k : ℕ) : (readMem m a n).take k = readMem m a (min k n) := by
  rw [readMem, readMem, ← List.map_take, List.take_range]

theorem drop_readMem (k : ℕ) : (readMem m a n).drop k = readMem m (a + k) (n - k) := by
  rcases Nat.le_total k n with h | h
  · conv_lhs => rw [← Nat.add_sub_cancel' h, readMem_add]
    exact List.drop_left' (by simp)
  · simp [readMem, h, Nat.sub_eq_zero_of_le h]

theorem readMem_writeMem_of_le (h : x + n ≤ a) : readMem (writeMem m a bs) x n = readMem m x n :=
  readMem_congr fun _ _ => writeMem_of_lt (by omega)

theorem readMem_writeMem_of_ge (h : a + bs.length ≤ x) :
    readMem (writeMem m a bs) x n = readMem m x n :=
  readMem_congr fun _ _ => writeMem_of_le (by omega)

/-- Reading back the first `n` bytes just written. -/
theorem readMem_writeMem_self (h : n ≤ bs.length) : readMem (writeMem m a bs) a n = bs.take n :=
  readMem_eq_of (by simp [h]) fun i hi => by
    rw [writeMem_add (by omega), List.getD_eq_getElem?_getD, List.getD_eq_getElem?_getD,
      List.getElem?_take_of_lt hi]

/-- Writing `bs ++ cs` is writing `bs`, then `cs` right after it. -/
theorem writeMem_append {cs : List UInt8} :
    writeMem m a (bs ++ cs) = writeMem (writeMem m a bs) (a + bs.length) cs := by
  funext x
  simp only [writeMem, List.length_append]
  split_ifs <;> first
    | omega
    | rfl
    | rw [List.getD_append _ _ _ _ (by omega)]
    | rw [List.getD_append_right _ _ _ _ (by omega)]; congr 1; omega

/-- A write is lost under a later write of at least as many bytes at the same place. -/
theorem writeMem_writeMem_of_length_le {cs : List UInt8} (h : bs.length ≤ cs.length) :
    writeMem (writeMem m a bs) a cs = writeMem m a cs := by
  funext x
  simp only [writeMem]
  split_ifs <;> first | omega | rfl

/-- Writing back bytes just read changes nothing. -/
theorem writeMem_readMem : writeMem m a (readMem m a n) = m := by
  funext x
  unfold writeMem
  split_ifs with h
  · rw [getD_readMem (by simp at h; omega)]; congr 1; omega
  · rfl

/-- The bytes `f` with `bs` written over them from offset `k` on. -/
def patch (f : List UInt8) (k : ℕ) (bs : List UInt8) : List UInt8 :=
  f.take k ++ bs ++ f.drop (k + bs.length)

section Patch

variable {f : List UInt8} {k : ℕ}

theorem length_patch (hk : k + bs.length ≤ f.length) : (patch f k bs).length = f.length := by
  simp [patch]; omega

theorem getD_patch_of_lt (hk : k + bs.length ≤ f.length) (h : i < k) :
    (patch f k bs).getD i 0 = f.getD i 0 := by
  simp only [patch, List.getD_eq_getElem?_getD, List.append_assoc]
  rw [List.getElem?_append_left (by simp only [List.length_append, List.length_take, List.length_drop]; omega), List.getElem?_take_of_lt h]

theorem getD_patch_of_ge (hk : k + bs.length ≤ f.length) (h : k + bs.length ≤ i) :
    (patch f k bs).getD i 0 = f.getD i 0 := by
  simp only [patch, List.getD_eq_getElem?_getD]
  rw [List.getElem?_append_right (by simp only [List.length_append, List.length_take, List.length_drop]; omega), List.getElem?_drop]
  congr 2; simp only [List.length_append, List.length_take, List.length_drop]; omega

theorem getD_patch_self (hk : k + bs.length ≤ f.length) (h : i < bs.length) :
    (patch f k bs).getD (k + i) 0 = bs.getD i 0 := by
  simp only [patch, List.getD_eq_getElem?_getD]
  rw [List.getElem?_append_left (by simp only [List.length_append, List.length_take, List.length_drop]; omega), List.getElem?_append_right (by simp only [List.length_append, List.length_take, List.length_drop]; omega)]
  congr 2; simp only [List.length_append, List.length_take, List.length_drop]; omega

/-! A window of the bytes sees a patch inside it as a patch of the window, and does not see one
before it. -/

theorem drop_patch_of_le (hk : k + bs.length ≤ f.length) (h : k + bs.length ≤ n) :
    (patch f k bs).drop n = f.drop n := by
  rw [patch, List.drop_append_eq_append_drop, List.drop_eq_nil_of_le (by simp; omega),
    List.nil_append, List.drop_drop]
  congr 1; simp; omega

theorem drop_patch (hk : k + bs.length ≤ f.length) (h : n ≤ k) :
    (patch f k bs).drop n = patch (f.drop n) (k - n) bs := by
  rw [patch, patch, List.append_assoc, List.drop_append_of_le_length (by simp; omega),
    List.drop_take, List.drop_drop, List.append_assoc]
  congr 3; omega

theorem take_patch (hk : k + bs.length ≤ f.length) (h : k + bs.length ≤ n) :
    (patch f k bs).take n = patch (f.take n) k bs := by
  rw [patch, patch, List.take_append_eq_append_take, List.take_of_length_le (by simp; omega),
    List.take_take, Nat.min_eq_left (by omega), List.drop_take]
  congr 2; simp; omega

end Patch

/-- Writing into memory is patching what a read of it gives. -/
theorem readMem_writeMem {b k : ℕ} (h : k + bs.length ≤ n) :
    readMem (writeMem m (b + k) bs) b n = patch (readMem m b n) k bs := by
  rw [patch, take_readMem, drop_readMem, Nat.min_eq_left (by omega),
    show n = k + (bs.length + (n - (k + bs.length))) by omega, readMem_add, readMem_add,
    readMem_writeMem_of_le le_rfl, readMem_writeMem_self le_rfl, List.take_length,
    readMem_writeMem_of_ge (by omega), ← Nat.add_assoc, ← Nat.add_assoc, List.append_assoc]
  congr 3; omega

theorem readMem_writeMem_head {b : ℕ} (h : bs.length ≤ n) :
    readMem (writeMem m b bs) b n = patch (readMem m b n) 0 bs :=
  readMem_writeMem (k := 0) (by simpa using h)

/-- The ethertype field of an Ethernet frame, bytes 12–13, in network order. -/
def etherType (f : List UInt8) : UInt16 := be16 (f.getD 12 0) (f.getD 13 0)

end Mem

/-! ### Pointers and the context -/

/-- A packet pointer: an address, and the generation of the packet it was computed from. -/
@[ext] structure Ptr where
  /-- The address. -/
  addr : ℕ
  /-- The number of head adjustments made before the pointer was computed. -/
  gen : ℕ
  deriving DecidableEq, Repr

/-- Pointer arithmetic in bytes keeps the generation. -/
instance : HAdd Ptr ℕ Ptr := ⟨fun p n => ⟨p.addr + n, p.gen⟩⟩

@[simp] theorem Ptr.add_addr (p : Ptr) (n : ℕ) : (p + n).addr = p.addr + n := rfl

@[simp] theorem Ptr.add_gen (p : Ptr) (n : ℕ) : (p + n).gen = p.gen := rfl

@[simp] theorem Ptr.add_zero (p : Ptr) : p + 0 = p := rfl

theorem Ptr.add_add (p : Ptr) (k n : ℕ) : p + k + n = p + (k + n) := by
  show Ptr.mk _ _ = Ptr.mk _ _; simp [Nat.add_assoc]

/-- `struct xdp_md` and the page behind it. -/
structure XdpMd where
  /-- The page: headroom, packet and tailroom. -/
  mem : ℕ → UInt8
  /-- `ctx->data`, the first byte of the packet. -/
  data : ℕ
  /-- `ctx->data_end`, one past the last byte of the packet. -/
  dataEnd : ℕ
  /-- `ctx->ingress_ifindex`. -/
  ingressIfindex : UInt32
  /-- How many head adjustments have been made; pointers of older generations are stale. -/
  gen : ℕ
  /-- The packet is a range of the page. -/
  data_le_dataEnd : data ≤ dataEnd

namespace XdpMd

variable (e : Endian) (c : XdpMd) (p : Ptr) (n : ℕ)

/-- `(void *)(long)ctx->data`. -/
def dataPtr : Ptr := ⟨c.data, c.gen⟩

/-- The packet's bytes, from `data` to `data_end`. -/
def frame : List UInt8 := readMem c.mem c.data (c.dataEnd - c.data)

/-- The verifier's condition for an access of `n` bytes at `p`. -/
def CanAccess : Prop := p.gen = c.gen ∧ c.data ≤ p.addr ∧ p.addr + n ≤ c.dataEnd

instance : Decidable (c.CanAccess p n) := inferInstanceAs (Decidable (_ ∧ _ ∧ _))

/-- A cursor into the packet: a current pointer between `data` and `data_end`. -/
def Cursor : Prop := p.gen = c.gen ∧ c.data ≤ p.addr ∧ p.addr ≤ c.dataEnd

/-- A one-byte load, `*(__u8 *)p`. -/
def load8 : Option UInt8 := if c.CanAccess p 1 then some (c.mem p.addr) else none

/-- A two-byte load, `*(__u16 *)p`, in host byte order. -/
def load16 : Option UInt16 :=
  if c.CanAccess p 2 then some (e.load16 (c.mem p.addr) (c.mem (p.addr + 1))) else none

/-- A copy of `n` bytes out of the packet (`memcpy`, a struct copy). -/
def loadBytes : Option (List UInt8) := if c.CanAccess p n then some (readMem c.mem p.addr n) else none

/-- The context with `bs` written at address `a`, unchecked. -/
def write (a : ℕ) (bs : List UInt8) : XdpMd := { c with mem := writeMem c.mem a bs }

/-- A checked store of the bytes `bs` at `p`. -/
def store (bs : List UInt8) : Option XdpMd :=
  if c.CanAccess p bs.length then some (c.write p.addr bs) else none

/-- A one-byte store. -/
def store8 (v : UInt8) : Option XdpMd := c.store p [v]

/-- A two-byte store in host byte order. -/
def store16 (v : UInt16) : Option XdpMd := c.store p (e.store16 v)

variable {e c p n}

theorem load8_eq (h : c.CanAccess p 1) : c.load8 p = some (c.mem p.addr) := if_pos h

theorem load16_eq (h : c.CanAccess p 2) :
    c.load16 e p = some (e.load16 (c.mem p.addr) (c.mem (p.addr + 1))) := if_pos h

theorem loadBytes_eq (h : c.CanAccess p n) : c.loadBytes p n = some (readMem c.mem p.addr n) :=
  if_pos h

theorem length_of_loadBytes {l : List UInt8} (h : c.loadBytes p n = some l) : l.length = n := by
  unfold loadBytes at h; split_ifs at h; cases h; simp

theorem store_eq {bs : List UInt8} (h : c.CanAccess p bs.length) :
    c.store p bs = some (c.write p.addr bs) := if_pos h

theorem store16_eq {v : UInt16} (h : c.CanAccess p 2) :
    c.store16 e p v = some (c.write p.addr (e.store16 v)) := if_pos (by simpa using h)

theorem store8_eq {v : UInt8} (h : c.CanAccess p 1) : c.store8 p v = some (c.write p.addr [v]) :=
  if_pos h

/-! A load or a store that succeeded reads or writes the memory. -/

theorem eq_of_load8 {v : UInt8} (h : c.load8 p = some v) : v = c.mem p.addr := by
  unfold load8 at h; split_ifs at h; cases h; rfl

theorem eq_of_load16 {v : UInt16} (h : c.load16 e p = some v) :
    v = e.load16 (c.mem p.addr) (c.mem (p.addr + 1)) := by
  unfold load16 at h; split_ifs at h; cases h; rfl

theorem eq_of_loadBytes {l : List UInt8} (h : c.loadBytes p n = some l) :
    l = readMem c.mem p.addr n := by
  unfold loadBytes at h; split_ifs at h; cases h; rfl

theorem eq_of_store {bs : List UInt8} {c' : XdpMd} (h : c.store p bs = some c') :
    c' = c.write p.addr bs := by
  unfold store at h; split_ifs at h; cases h; rfl

theorem eq_of_store8 {v : UInt8} {c' : XdpMd} (h : c.store8 p v = some c') :
    c' = c.write p.addr [v] :=
  eq_of_store h

theorem eq_of_store16 {v : UInt16} {c' : XdpMd} (h : c.store16 e p v = some c') :
    c' = c.write p.addr (e.store16 v) :=
  eq_of_store h

@[simp] theorem write_mem (a : ℕ) (bs : List UInt8) : (c.write a bs).mem = writeMem c.mem a bs := rfl
@[simp] theorem write_data (a : ℕ) (bs : List UInt8) : (c.write a bs).data = c.data := rfl
@[simp] theorem write_dataEnd (a : ℕ) (bs : List UInt8) : (c.write a bs).dataEnd = c.dataEnd := rfl
@[simp] theorem write_gen (a : ℕ) (bs : List UInt8) : (c.write a bs).gen = c.gen := rfl
@[simp] theorem write_ingressIfindex (a : ℕ) (bs : List UInt8) :
    (c.write a bs).ingressIfindex = c.ingressIfindex := rfl
@[simp] theorem write_dataPtr (a : ℕ) (bs : List UInt8) : (c.write a bs).dataPtr = c.dataPtr := rfl

@[simp] theorem canAccess_write (a : ℕ) (bs : List UInt8) :
    (c.write a bs).CanAccess p n ↔ c.CanAccess p n := Iff.rfl

@[simp] theorem length_frame : c.frame.length = c.dataEnd - c.data := by simp [frame]

theorem getD_frame {i : ℕ} (h : i < c.dataEnd - c.data) : c.frame.getD i 0 = c.mem (c.data + i) :=
  getD_readMem h

/-- A slice of the frame is the packet's memory at the same offset from `data`. -/
theorem slice_frame {o L : ℕ} (h : c.data + o + L ≤ c.dataEnd) :
    (c.frame.drop o).take L = readMem c.mem (c.data + o) L := by
  rw [frame, drop_readMem, take_readMem, Nat.min_eq_left (by omega)]

/-- A write inside the packet patches the frame. -/
theorem frame_write {a k : ℕ} {bs : List UInt8} (ha : a = c.data + k)
    (h : k + bs.length ≤ c.dataEnd - c.data) : (c.write a bs).frame = patch c.frame k bs := by
  subst ha; exact readMem_writeMem h

/-- The ethertype of a frame whose Ethernet header fits, read from memory. -/
theorem etherType_frame (h : c.data + 14 ≤ c.dataEnd) :
    etherType c.frame = be16 (c.mem (c.data + 12)) (c.mem (c.data + 13)) := by
  rw [etherType, getD_frame (by omega), getD_frame (by omega)]

@[simp] theorem dataPtr_addr : c.dataPtr.addr = c.data := rfl
@[simp] theorem dataPtr_gen : c.dataPtr.gen = c.gen := rfl

theorem cursor_dataPtr : c.Cursor c.dataPtr := ⟨rfl, le_rfl, c.data_le_dataEnd⟩

/-- Every access of `n` bytes at `k` bytes past a cursor is allowed if it ends before `data_end`. -/
theorem Cursor.canAccess (h : c.Cursor p) {k : ℕ} (hn : p.addr + k + n ≤ c.dataEnd) :
    c.CanAccess (p + k) n :=
  ⟨h.1, by have := h.2.1; simp; omega, by simpa using hn⟩

/-- An access at a cursor that ends before `data_end` is allowed. -/
theorem Cursor.canAccess_self (h : c.Cursor p) (hn : p.addr + n ≤ c.dataEnd) : c.CanAccess p n :=
  ⟨h.1, h.2.1, hn⟩

/-- An access at the head that ends before `data_end` is allowed. -/
theorem canAccess_head (h : c.data + n ≤ c.dataEnd) : c.CanAccess c.dataPtr n := ⟨rfl, le_rfl, h⟩

/-- An access `k` bytes past the head that ends before `data_end` is allowed. -/
theorem canAccess_dataPtr {k : ℕ} (h : c.data + k + n ≤ c.dataEnd) : c.CanAccess (c.dataPtr + k) n :=
  cursor_dataPtr.canAccess h

theorem load8_dataPtr {k : ℕ} (h : c.data + k + 1 ≤ c.dataEnd) :
    c.load8 (c.dataPtr + k) = some (c.mem (c.data + k)) :=
  load8_eq (canAccess_dataPtr h)

theorem load16_dataPtr {k : ℕ} (h : c.data + k + 2 ≤ c.dataEnd) :
    c.load16 e (c.dataPtr + k) = some (e.load16 (c.mem (c.data + k)) (c.mem (c.data + k + 1))) :=
  load16_eq (canAccess_dataPtr h)

theorem loadBytes_dataPtr {k : ℕ} (h : c.data + k + n ≤ c.dataEnd) :
    c.loadBytes (c.dataPtr + k) n = some (readMem c.mem (c.data + k) n) :=
  loadBytes_eq (canAccess_dataPtr h)

theorem Cursor.add (h : c.Cursor p) {k : ℕ} (hk : p.addr + k ≤ c.dataEnd) : c.Cursor (p + k) :=
  ⟨h.1, by have := h.2.1; simp; omega, by simpa using hk⟩

end XdpMd

/-! ### The verdict and the external helpers -/

/-- `enum xdp_action`. -/
inductive XdpAction where
  /-- `XDP_ABORTED`. -/
  | aborted
  /-- `XDP_DROP`. -/
  | drop
  /-- `XDP_PASS`. -/
  | pass
  /-- `XDP_TX`. -/
  | tx
  /-- `XDP_REDIRECT`. -/
  | redirect
  deriving DecidableEq, Repr

/-- Modelled from the spec: `xdp_stats_record_action` (common/xdp_stats_kern.h, not in src/).
"Statistics collector: `record(verdict) -> void`, called exactly once per packet": it counts
the action in the external statistics map and the program returns the action it was given. -/
def xdpStatsRecordAction (action : XdpAction) : XdpAction := action

/-- A six-byte link-layer address, `unsigned char [ETH_ALEN]`. -/
structure EthAddr where
  /-- The bytes, in wire order. -/
  bytes : List UInt8
  /-- `ETH_ALEN` bytes. -/
  length_eq : bytes.length = 6

attribute [simp] EthAddr.length_eq

/-- An outcome of `bpf_xdp_adjust_head(ctx, delta)`, for every context and `delta`: the return
value and the context the helper leaves. -/
abbrev AdjustHead := XdpMd → ℤ → ℤ × XdpMd

/-- The call `bpf_xdp_adjust_head(ctx, delta)`: the helper's outcome, after which the verifier
holds every earlier packet pointer stale. -/
def bpfXdpAdjustHead (adj : AdjustHead) (ctx : XdpMd) (delta : ℤ) : ℤ × XdpMd :=
  ((adj ctx delta).1, { (adj ctx delta).2 with gen := ctx.gen + 1 })

/-- What a successful `bpf_xdp_adjust_head(c, delta)` leaves: `data` moved by `delta`, and
`data_end` and every byte that is in the packet both before and after kept. -/
structure HeadMoved (c : XdpMd) (delta : ℤ) (c' : XdpMd) : Prop where
  data_eq : (c'.data : ℤ) = c.data + delta
  dataEnd_eq : c'.dataEnd = c.dataEnd
  mem_eq : ∀ a, c.data ≤ a → c'.data ≤ a → a < c.dataEnd → c'.mem a = c.mem a

/-- The helper keeps its contract: whenever it returns `0`, it has moved the head. -/
def AdjustHead.Sound (adj : AdjustHead) : Prop := ∀ c d, (adj c d).1 = 0 → HeadMoved c d (adj c d).2

/-- The bytes that stay in the packet read the same after the head moved. -/
theorem HeadMoved.readMem_eq {c c' : XdpMd} {d : ℤ} (h : HeadMoved c d c') {a n : ℕ}
    (h₁ : c.data ≤ a) (h₂ : c'.data ≤ a) (h₃ : a + n ≤ c.dataEnd) :
    readMem c'.mem a n = readMem c.mem a n :=
  readMem_congr fun _ _ => h.mem_eq _ (by omega) (by omega) (by omega)

/-- A `bpf_xdp_adjust_head` that moves `data` by `delta` whenever the new head stays between the
start of the page and `data_end`, and otherwise fails with `-EINVAL` and changes nothing; it
never touches memory. -/
def moveHead : AdjustHead := fun c d =>
  if h : 0 ≤ (c.data : ℤ) + d ∧ (c.data : ℤ) + d ≤ c.dataEnd then
    (0, { c with data := ((c.data : ℤ) + d).toNat, data_le_dataEnd := by omega })
  else (-22, c)

theorem moveHead_sound : moveHead.Sound := fun c d h => by
  unfold moveHead at h ⊢
  split_ifs at h ⊢ with hd
  · exact ⟨by simp; omega, rfl, fun _ _ _ _ => rfl⟩
  · cases h

end XdpTutorial
