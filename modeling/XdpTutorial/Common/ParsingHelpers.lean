import XdpTutorial.Packet.Context

/-!
# The parsing helpers of `common/parsing_helpers.h`

"Each helper parses a packet header, including doing bounds checking, and
returns the type of its contents if successful, and -1 otherwise." A helper
takes the cursor `struct hdr_cursor *nh`, the end of the packet, and an
out-parameter for the header pointer; on success it advances `nh->pos` past
the header and stores the header pointer.

## The model

A helper is a function of the context, the cursor position and `data_end`,
returning a `Parsed`: the return value, the new cursor position, and the
pointer stored through the out-parameter (`none` when nothing is stored). It
returns `none` only if it makes an access the verifier forbids.

`parse_ip6hdr`, `parse_icmp6hdr` and `parse_icmphdr` differ only in the size
of their header and the field they return: they are `parseHdr` applied to
those. `parse_ethhdr` walks up to `VLAN_MAX_DEPTH` VLAN tags with an unrolled
loop, `parseEthhdrVlans`, whose count of remaining iterations is the
recursion. `parse_iphdr` takes the header length from the `ihl` field.

## What is proved

`Parsed.Disciplined size p dataEnd r` is the cursor discipline: `r` is a
failure that leaves the cursor at `p`, or a success that hands back `p` and
moves the cursor at least `size` bytes and at most to `data_end`. Every
helper keeps it for its header size from every cursor (`parseHdr_disciplined`,
`parseEthhdr_disciplined`), except `parse_iphdr`, which keeps it only for the
`4 * ihl` bytes it was told, down to zero (`parseIphdr_eq`).
-/

namespace XdpTutorial

/-! ### Protocol numbers -/

/-- `ETH_P_IP` (`linux/if_ether.h`). -/
def ethPIp : ℕ := 0x0800

/-- `ETH_P_IPV6`. -/
def ethPIpv6 : ℕ := 0x86DD

/-- `ETH_P_8021Q`, the 802.1Q VLAN tag type. -/
def ethP8021Q : ℕ := 0x8100

/-- `ETH_P_8021AD`, the 802.1ad VLAN tag type. -/
def ethP8021AD : ℕ := 0x88A8

/-- `IPPROTO_ICMP` (`linux/in.h`). -/
def ipprotoIcmp : ℕ := 1

/-- `IPPROTO_TCP`. -/
def ipprotoTcp : ℕ := 6

/-- `IPPROTO_UDP`. -/
def ipprotoUdp : ℕ := 17

/-- `IPPROTO_ICMPV6`. -/
def ipprotoIcmpv6 : ℕ := 58

/-- `ICMP_ECHOREPLY` (`linux/icmp.h`). -/
def icmpEchoreply : ℕ := 0

/-- `ICMP_ECHO`. -/
def icmpEcho : ℕ := 8

/-- `ICMPV6_ECHO_REQUEST` (`linux/icmpv6.h`). -/
def icmpv6EchoRequest : ℕ := 128

/-- `ICMPV6_ECHO_REPLY`. -/
def icmpv6EchoReply : ℕ := 129

/-- `VLAN_MAX_DEPTH`: how many VLAN tags `parse_ethhdr` looks through. -/
def vlanMaxDepth : ℕ := 5

/-! ### What a helper gives back -/

/-- What a `parse_*` helper gives back. -/
structure Parsed where
  /-- The return value: the type of the contents, or `-1`. -/
  ret : ℤ
  /-- `nh->pos` after the call. -/
  pos : Ptr
  /-- The pointer stored through the out-parameter; `none` if nothing was stored. -/
  hdr : Option Ptr
  deriving DecidableEq, Repr

/-- The cursor discipline of a parser for a header of at least `size` bytes at cursor `p`, in a
packet ending at `dataEnd`: it fails with `-1`, leaving the cursor and storing nothing, or it
returns a non-negative value, hands back `p`, and moves the cursor at least `size` bytes
forward but not past `dataEnd`. -/
def Parsed.Disciplined (size : ℕ) (p : Ptr) (dataEnd : ℕ) (r : Parsed) : Prop :=
  (r.ret = -1 ∧ r.pos = p ∧ r.hdr = none) ∨
    (0 ≤ r.ret ∧ r.hdr = some p ∧ r.pos.gen = p.gen ∧ p.addr + size ≤ r.pos.addr ∧
      r.pos.addr ≤ dataEnd)

instance (size : ℕ) (p : Ptr) (dataEnd : ℕ) (r : Parsed) : Decidable (r.Disciplined size p dataEnd) :=
  inferInstanceAs (Decidable (_ ∨ _))

/-! ### The fixed-size helpers -/

/-- The shape of the fixed-size `parse_*` helpers: if a header of `size` bytes fits before
`data_end`, advance the cursor past it, hand it back, and return what `field` reads from it;
otherwise return `-1`. -/
def parseHdr (size : ℕ) (field : Ptr → Option ℤ) (nh : Ptr) (dataEnd : ℕ) : Option Parsed :=
  if nh.addr + size > dataEnd then pure ⟨-1, nh, none⟩
  else do
    let v ← field nh
    pure ⟨v, nh + size, some nh⟩

section Helpers

variable (e : Endian) (ctx : XdpMd)

/-- `parse_ip6hdr`: a 40-byte `struct ipv6hdr`, returning `nexthdr` (byte 6). -/
def parseIp6hdr (nh : Ptr) (dataEnd : ℕ) : Option Parsed :=
  parseHdr 40 (fun ip6h => (fun v : UInt8 => (v.toNat : ℤ)) <$> ctx.load8 (ip6h + 6)) nh dataEnd

/-- `parse_icmp6hdr`: an 8-byte `struct icmp6hdr`, returning `icmp6_type` (byte 0). -/
def parseIcmp6hdr (nh : Ptr) (dataEnd : ℕ) : Option Parsed :=
  parseHdr 8 (fun icmp6h => (fun v : UInt8 => (v.toNat : ℤ)) <$> ctx.load8 icmp6h) nh dataEnd

/-- `parse_icmphdr`: an 8-byte `struct icmphdr`, returning `type` (byte 0). -/
def parseIcmphdr (nh : Ptr) (dataEnd : ℕ) : Option Parsed :=
  parseHdr 8 (fun icmph => (fun v : UInt8 => (v.toNat : ℤ)) <$> ctx.load8 icmph) nh dataEnd

/-! ### `parse_ethhdr` and `parse_iphdr` -/

/-- `proto_is_vlan`: whether `h_proto`, as loaded from the packet, is one of the two VLAN tag
types. -/
def protoIsVlan (hProto : UInt16) : Bool :=
  hProto == bpfHtons e (UInt16.ofNat ethP8021Q) || hProto == bpfHtons e (UInt16.ofNat ethP8021AD)

/-- The two VLAN tag types, tested on a value in network order. -/
def isVlanType (t : UInt16) : Bool := t == UInt16.ofNat ethP8021Q || t == UInt16.ofNat ethP8021AD

/-- `proto_is_vlan` of a loaded field tests the field's network-order value. -/
theorem protoIsVlan_load16 (b₀ b₁ : UInt8) :
    protoIsVlan e (e.load16 b₀ b₁) = isVlanType (be16 b₀ b₁) := by
  unfold protoIsVlan isVlanType
  congr 1 <;> exact Bool.eq_iff_iff.2 (by rw [beq_iff_eq, beq_iff_eq, load16_eq_bpfHtons_iff])

/-- The unrolled loop of `parse_ethhdr` with `n` iterations left: while `h_proto` is a VLAN
type and the tag at `vlh` fits, take the tag's encapsulated protocol and step past it. -/
def parseEthhdrVlans (dataEnd : ℕ) : ℕ → UInt16 → Ptr → Option (UInt16 × Ptr)
  | 0, hProto, vlh => pure (hProto, vlh)
  | n + 1, hProto, vlh =>
    if !protoIsVlan e hProto then pure (hProto, vlh)
    else if vlh.addr + 4 > dataEnd then pure (hProto, vlh)
    else do
      let hProto ← ctx.load16 e (vlh + 2)
      parseEthhdrVlans dataEnd n hProto (vlh + 4)

/-- `parse_ethhdr`: the 14-byte Ethernet header, then up to `VLAN_MAX_DEPTH` VLAN tags;
returns the last protocol read, in host byte order. -/
def parseEthhdr (nh : Ptr) (dataEnd : ℕ) : Option Parsed :=
  if nh.addr + 14 > dataEnd then pure ⟨-1, nh, none⟩
  else do
    let hProto ← ctx.load16 e (nh + 12)
    let (hProto, vlh) ← parseEthhdrVlans e ctx dataEnd vlanMaxDepth hProto (nh + 14)
    pure ⟨(bpfNtohs e hProto).toNat, vlh, some nh⟩

/-- `parse_iphdr`: the IPv4 header, whose length is `4 * ihl`; `ihl` is the low nibble of the
first byte under both bitfield layouts of `struct iphdr`. Returns `protocol` (byte 9). -/
def parseIphdr (nh : Ptr) (dataEnd : ℕ) : Option Parsed :=
  if nh.addr + 20 > dataEnd then pure ⟨-1, nh, none⟩
  else do
    let b ← ctx.load8 nh
    let hdrsize := b.toNat % 16 * 4
    if nh.addr + hdrsize > dataEnd then pure ⟨-1, nh, none⟩
    else do
      let protocol ← ctx.load8 (nh + 9)
      pure ⟨protocol.toNat, nh + hdrsize, some nh⟩

/-! ### The `get_*` helpers -/

/-- `get_ethhdr`: the Ethernet header at the cursor and the cursor past it, or `NULL`. -/
def getEthhdr (nh : Ptr) (dataEnd : ℕ) : Option Ptr × Ptr :=
  if nh.addr + 14 > dataEnd then (none, nh) else (some nh, nh + 14)

/-- The unrolled loop of `get_ip6hdr`: as `parse_ethhdr`'s, except that a VLAN tag that does
not fit makes the whole call return `NULL` (the inner `none`). -/
def getIp6hdrVlans (dataEnd : ℕ) : ℕ → UInt16 → Ptr → Option (Option (UInt16 × Ptr))
  | 0, hProto, vlh => pure (some (hProto, vlh))
  | n + 1, hProto, vlh =>
    if !protoIsVlan e hProto then pure (some (hProto, vlh))
    else if vlh.addr + 4 > dataEnd then pure none
    else do
      let hProto ← ctx.load16 e (vlh + 2)
      getIp6hdrVlans dataEnd n hProto (vlh + 4)

/-- `get_ip6hdr`: past the VLAN tags after `eth`, the IPv6 header and the cursor past it, or
`NULL` (and the cursor unchanged). -/
def getIp6hdr (eth nh : Ptr) (dataEnd : ℕ) : Option (Option Ptr × Ptr) := do
  let hProto ← ctx.load16 e (eth + 12)
  match ← getIp6hdrVlans e ctx dataEnd vlanMaxDepth hProto nh with
  | none => pure (none, nh)
  | some (hProto, vlh) =>
    if hProto ≠ bpfHtons e (UInt16.ofNat ethPIpv6) then pure (none, nh)
    else if vlh.addr + 40 > dataEnd then pure (none, nh)
    else pure (some vlh, vlh + 40)

/-- `get_icmp6hdr`: the ICMPv6 header at the cursor, if `ip6h->nexthdr` is ICMPv6 and it fits. -/
def getIcmp6hdr (ip6h nh : Ptr) (dataEnd : ℕ) : Option (Option Ptr × Ptr) := do
  let nexthdr ← ctx.load8 (ip6h + 6)
  if nexthdr.toNat ≠ ipprotoIcmpv6 then pure (none, nh)
  else if nh.addr + 8 > dataEnd then pure (none, nh)
  else pure (some nh, nh + 8)

end Helpers

/-! ### The cursor discipline -/

section Discipline

variable {e : Endian} {ctx : XdpMd} {p : Ptr}

theorem parseHdr_eq {size : ℕ} {field : Ptr → Option ℤ} {v : ℤ}
    (hv : p.addr + size ≤ ctx.dataEnd → field p = some v) :
    parseHdr size field p ctx.dataEnd =
      some (if ctx.dataEnd < p.addr + size then ⟨-1, p, none⟩ else ⟨v, p + size, some p⟩) := by
  unfold parseHdr
  split_ifs with h
  · rfl
  · simp [hv (by omega)]

/-- The fixed-size helpers keep the cursor discipline for their header size. -/
theorem parseHdr_disciplined {size : ℕ} {field : Ptr → Option ℤ} {v : ℤ}
    (hv : p.addr + size ≤ ctx.dataEnd → field p = some v) (hv0 : 0 ≤ v) :
    ∃ r, parseHdr size field p ctx.dataEnd = some r ∧ r.Disciplined size p ctx.dataEnd := by
  refine ⟨_, parseHdr_eq hv, ?_⟩
  split_ifs with h
  · exact .inl ⟨rfl, rfl, rfl⟩
  · exact .inr ⟨hv0, rfl, rfl, by simp, by simp; omega⟩

theorem load8_toNat_of_fits {q : Ptr} (hp : ctx.Cursor p) {k : ℕ} (hq : q = p + k) {size : ℕ}
    (hk : k < size) (h : p.addr + size ≤ ctx.dataEnd) :
    (fun v : UInt8 => (v.toNat : ℤ)) <$> ctx.load8 q = some (ctx.mem (p.addr + k)).toNat := by
  subst hq
  rw [XdpMd.load8_eq (hp.canAccess (by omega))]; rfl

/-- What `parse_ip6hdr` does from a cursor. -/
theorem parseIp6hdr_eq (hp : ctx.Cursor p) :
    parseIp6hdr ctx p ctx.dataEnd = some (if ctx.dataEnd < p.addr + 40 then ⟨-1, p, none⟩
      else ⟨(ctx.mem (p.addr + 6)).toNat, p + 40, some p⟩) :=
  parseHdr_eq (load8_toNat_of_fits hp rfl (by decide))

/-- What `parse_icmp6hdr` does from a cursor. -/
theorem parseIcmp6hdr_eq (hp : ctx.Cursor p) :
    parseIcmp6hdr ctx p ctx.dataEnd = some (if ctx.dataEnd < p.addr + 8 then ⟨-1, p, none⟩
      else ⟨(ctx.mem p.addr).toNat, p + 8, some p⟩) :=
  parseHdr_eq (load8_toNat_of_fits hp (Ptr.add_zero p).symm (by decide))

/-- What `parse_icmphdr` does from a cursor. -/
theorem parseIcmphdr_eq (hp : ctx.Cursor p) :
    parseIcmphdr ctx p ctx.dataEnd = some (if ctx.dataEnd < p.addr + 8 then ⟨-1, p, none⟩
      else ⟨(ctx.mem p.addr).toNat, p + 8, some p⟩) :=
  parseHdr_eq (load8_toNat_of_fits hp (Ptr.add_zero p).symm (by decide))

theorem parseIp6hdr_disciplined (hp : ctx.Cursor p) :
    ∃ r, parseIp6hdr ctx p ctx.dataEnd = some r ∧ r.Disciplined 40 p ctx.dataEnd :=
  parseHdr_disciplined (load8_toNat_of_fits hp rfl (by decide)) (Int.ofNat_nonneg _)

theorem parseIcmp6hdr_disciplined (hp : ctx.Cursor p) :
    ∃ r, parseIcmp6hdr ctx p ctx.dataEnd = some r ∧ r.Disciplined 8 p ctx.dataEnd :=
  parseHdr_disciplined (load8_toNat_of_fits hp (Ptr.add_zero p).symm (by decide))
    (Int.ofNat_nonneg _)

theorem parseIcmphdr_disciplined (hp : ctx.Cursor p) :
    ∃ r, parseIcmphdr ctx p ctx.dataEnd = some r ∧ r.Disciplined 8 p ctx.dataEnd :=
  parseHdr_disciplined (load8_toNat_of_fits hp (Ptr.add_zero p).symm (by decide))
    (Int.ofNat_nonneg _)

/-- The VLAN loop, run from a cursor, makes only allowed accesses and stops `k ≤ n` tags
further on, still inside the packet. -/
theorem parseEthhdrVlans_spec (n : ℕ) (h : UInt16) {vlh : Ptr} (hv : ctx.Cursor vlh) :
    ∃ h' k, k ≤ n ∧ parseEthhdrVlans e ctx ctx.dataEnd n h vlh = some (h', vlh + 4 * k) ∧
      vlh.addr + 4 * k ≤ ctx.dataEnd := by
  induction n generalizing h vlh with
  | zero => exact ⟨h, 0, le_rfl, rfl, by simpa using hv.2.2⟩
  | succ n ih =>
    simp only [parseEthhdrVlans]
    split_ifs with h₁ h₂
    · exact ⟨h, 0, by omega, rfl, by simpa using hv.2.2⟩
    · exact ⟨h, 0, by omega, rfl, by simpa using hv.2.2⟩
    · obtain ⟨h', k, hk, heq, hle⟩ := ih (ctx.mem (vlh.addr + 2 + 1) |> e.load16 (ctx.mem (vlh.addr + 2)))
        (hv.add (k := 4) (by omega))
      refine ⟨h', k + 1, by omega, ?_, by simp at hle; omega⟩
      rw [XdpMd.load16_eq (hv.canAccess (by omega))]
      simp only [Ptr.add_addr, Option.bind_eq_bind, Option.some_bind, heq, Ptr.add_add]
      congr 3; omega

/-- From a cursor, an Ethernet header that fits always parses: `parse_ethhdr` hands it back and
returns the protocol it stopped at, at most `VLAN_MAX_DEPTH` tags further on. -/
theorem parseEthhdr_of_fits (hp : ctx.Cursor p) (h : p.addr + 14 ≤ ctx.dataEnd) :
    ∃ h' k, parseEthhdr e ctx p ctx.dataEnd = some ⟨(bpfNtohs e h').toNat, p + 14 + 4 * k, some p⟩ ∧
      p.addr + 14 + 4 * k ≤ ctx.dataEnd := by
  obtain ⟨h', k, -, heq, hle⟩ := parseEthhdrVlans_spec (e := e) vlanMaxDepth
    (e.load16 (ctx.mem (p.addr + 12)) (ctx.mem (p.addr + 12 + 1))) (hp.add (k := 14) h)
  refine ⟨h', k, ?_, by simpa using hle⟩
  unfold parseEthhdr
  rw [if_neg (by omega), XdpMd.load16_eq (hp.canAccess (by omega))]
  simp only [Ptr.add_addr, Option.bind_eq_bind, Option.some_bind, heq]
  rfl

/-- `parse_ethhdr` keeps the cursor discipline for the 14-byte Ethernet header. -/
theorem parseEthhdr_disciplined (hp : ctx.Cursor p) :
    ∃ r, parseEthhdr e ctx p ctx.dataEnd = some r ∧ r.Disciplined 14 p ctx.dataEnd := by
  by_cases h : p.addr + 14 ≤ ctx.dataEnd
  · obtain ⟨h', k, heq, hle⟩ := parseEthhdr_of_fits hp h
    exact ⟨_, heq, .inr ⟨Int.ofNat_nonneg _, rfl, rfl, by simp, by simpa using hle⟩⟩
  · exact ⟨_, if_pos (by omega), .inl ⟨rfl, rfl, rfl⟩⟩

/-- What `parse_iphdr` does from a cursor: it needs the 20 bytes of a minimal header and the
`4 * ihl` bytes the header claims, and it moves the cursor by `4 * ihl`, however small. -/
theorem parseIphdr_eq (hp : ctx.Cursor p) :
    parseIphdr ctx p ctx.dataEnd = some
      (if ctx.dataEnd < p.addr + 20 ∨ ctx.dataEnd < p.addr + (ctx.mem p.addr).toNat % 16 * 4 then
        ⟨-1, p, none⟩
      else ⟨(ctx.mem (p.addr + 9)).toNat, p + (ctx.mem p.addr).toNat % 16 * 4, some p⟩) := by
  unfold parseIphdr
  by_cases h₁ : ctx.dataEnd < p.addr + 20
  · rw [if_pos h₁, if_pos (.inl h₁)]; rfl
  rw [if_neg h₁, XdpMd.load8_eq (by simpa using hp.canAccess (k := 0) (n := 1) (by omega))]
  simp only [Option.bind_eq_bind, Option.some_bind]
  by_cases h₂ : ctx.dataEnd < p.addr + (ctx.mem p.addr).toNat % 16 * 4
  · rw [if_pos h₂, if_pos (.inr h₂)]; rfl
  · rw [if_neg h₂, if_neg (by omega), XdpMd.load8_eq (hp.canAccess (by omega))]; rfl

/-! ### What a caller may rely on -/

/-- What a caller may rely on after a `parse_*` helper called at the cursor `p`, for a header
of `size` bytes: the cursor it leaves is still one, and unless it returned `-1` it stored `p`,
with the whole header before `data_end`. This is all the programs need to stay inside the
packet; `parse_iphdr` keeps it for `20` bytes although it breaks `Disciplined`. -/
def Parsed.Usable (ctx : XdpMd) (size : ℕ) (p : Ptr) (r : Parsed) : Prop :=
  ctx.Cursor r.pos ∧ (r.ret ≠ -1 → r.hdr = some p ∧ p.addr + size ≤ ctx.dataEnd)

/-- A helper that, called at any cursor, returns a result the caller may use. -/
def ParserUsable (ctx : XdpMd) (size : ℕ) (parse : Ptr → ℕ → Option Parsed) : Prop :=
  ∀ p, ctx.Cursor p → ∃ r, parse p ctx.dataEnd = some r ∧ r.Usable ctx size p

theorem Parsed.Disciplined.usable {size : ℕ} {r : Parsed} (hp : ctx.Cursor p)
    (h : r.Disciplined size p ctx.dataEnd) : r.Usable ctx size p := by
  rcases h with ⟨h₁, h₂, -⟩ | ⟨-, h₁, h₂, h₃, h₄⟩
  · exact ⟨h₂ ▸ hp, fun h => absurd h₁ h⟩
  · exact ⟨⟨h₂.trans hp.1, by have := hp.2.1; omega, h₄⟩, fun _ => ⟨h₁, by omega⟩⟩

theorem ParserUsable.of_disciplined {size : ℕ} {parse : Ptr → ℕ → Option Parsed}
    (h : ∀ {p}, ctx.Cursor p → ∃ r, parse p ctx.dataEnd = some r ∧ r.Disciplined size p ctx.dataEnd) :
    ParserUsable ctx size parse := fun _ hp =>
  let ⟨r, hr, hd⟩ := h hp
  ⟨r, hr, hd.usable hp⟩

/-- A fixed-size helper is usable when its field can be read from every header that fits. -/
theorem parseHdr_usable {size : ℕ} {field : Ptr → Option ℤ}
    (hf : ∀ {p}, ctx.Cursor p → p.addr + size ≤ ctx.dataEnd → ∃ v, 0 ≤ v ∧ field p = some v) :
    ParserUsable ctx size (parseHdr size field) := by
  refine .of_disciplined fun {p} hp => ?_
  by_cases h : p.addr + size ≤ ctx.dataEnd
  · obtain ⟨v, hv0, hv⟩ := hf hp h
    exact parseHdr_disciplined (fun _ => hv) hv0
  · exact ⟨_, if_pos (by omega), .inl ⟨rfl, rfl, rfl⟩⟩

theorem parseEthhdr_usable : ParserUsable ctx 14 (parseEthhdr e ctx) :=
  .of_disciplined parseEthhdr_disciplined

theorem parseIp6hdr_usable : ParserUsable ctx 40 (parseIp6hdr ctx) :=
  .of_disciplined parseIp6hdr_disciplined

theorem parseIcmp6hdr_usable : ParserUsable ctx 8 (parseIcmp6hdr ctx) :=
  .of_disciplined parseIcmp6hdr_disciplined

theorem parseIcmphdr_usable : ParserUsable ctx 8 (parseIcmphdr ctx) :=
  .of_disciplined parseIcmphdr_disciplined

/-- `parse_iphdr` is usable for the 20 bytes it checks, whatever `ihl` claims. -/
theorem parseIphdr_usable : ParserUsable ctx 20 (parseIphdr ctx) := fun _ hp => by
  refine ⟨_, parseIphdr_eq hp, ?_⟩
  split_ifs with h
  · exact ⟨hp, fun h => absurd rfl h⟩
  · exact ⟨hp.add (by omega), fun _ => ⟨rfl, by omega⟩⟩

/-- A 20-byte packet holding an IPv4 header whose first byte `0x41` claims `ihl = 1`, with
protocol TCP. -/
def shortIhlPacket : XdpMd :=
  ⟨fun a => [0x41, 0, 0, 20, 0, 0, 0, 0, 64, 6, 0, 0, 10, 0, 0, 1, 10, 0, 0, 2].getD a 0,
    0, 20, 0, 0, by decide⟩

/-- On it `parse_iphdr` succeeds with TCP and hands the header back, but moves the cursor by
four bytes only: a 20-byte IPv4 header that the next parser starts inside of. -/
theorem parseIphdr_shortIhlPacket :
    parseIphdr shortIhlPacket shortIhlPacket.dataPtr shortIhlPacket.dataEnd =
      some ⟨6, shortIhlPacket.dataPtr + 4, some shortIhlPacket.dataPtr⟩ ∧
    ¬ Parsed.Disciplined 20 shortIhlPacket.dataPtr shortIhlPacket.dataEnd
      ⟨6, shortIhlPacket.dataPtr + 4, some shortIhlPacket.dataPtr⟩ := by
  decide

end Discipline

end XdpTutorial
