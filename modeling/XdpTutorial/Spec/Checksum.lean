import XdpTutorial.Solutions.IcmpEcho

/-!
# The Internet checksum and its incremental update

RFC 1071: "Adjacent octets to be checksummed are paired to form 16-bit
integers, and the 1's complement sum of these 16-bit integers is formed. To
generate a checksum, the checksum field itself is cleared, the 16-bit 1's
complement sum is computed over the octets concerned, and the 1's complement
of this sum is placed in the checksum field."

`xdp_icmp_echo_func` does not recompute the checksum of the reply: it patches
the request's with `~csum16_add(csum16_add(~checksum, ~m0), m1)`, the update
of RFC 1624 for a 16-bit word changed from `m0` to `m1`, on values loaded in
host byte order.

## The model

`onesAdd` adds two 16-bit numbers in one's complement: add, and add the carry
out of 16 bits back in. `onesSum` is the one's complement sum of the 16-bit
words of a byte string in network order, an odd last byte padded with a zero,
and `rfc1071Checksum` its complement. `wordSum` is the plain sum of the same
words, and `onesNorm s` the value a one's complement sum of numbers summing to
`s` takes: `0` for `s = 0` only, else the residue of `s` modulo `0xFFFF`
taken in `1 … 0xFFFF`.

## What is proved

`onesSum_eq`: the one's complement sum is `onesNorm` of the plain sum, so it
does not depend on how the words are grouped. `csum16Add_toNat`: the code's
`csum16_add` is `onesAdd`. `bpfNtohs_csum16Add` and `bpfNtohs_not`: one's
complement arithmetic commutes with the byte swap, so the update computed in
host byte order is the one computed in network order. `csumUpdate_toNat`:
the update of a correct checksum is the checksum computed from scratch,
except when the new words all sum to zero, where the update gives `0x0000`
and the checksum from scratch is `0xFFFF`. `checksumField_echoReplyMessage`
carries this to the ICMP message the code makes: its checksum field is
exactly one of the two.
-/

namespace XdpTutorial

/-! ### RFC 1071 -/

/-- One's complement addition of two 16-bit numbers: add, and add the carry back in. -/
def onesAdd (a b : ℕ) : ℕ := if a + b < 0x10000 then a + b else a + b - 0xFFFF

/-- The one's complement sum of the 16-bit words of `bs` in network order, an odd last byte
padded with a zero. -/
def onesSum : List UInt8 → ℕ
  | [] => 0
  | [a] => 256 * a.toNat
  | a :: b :: rest => onesAdd (256 * a.toNat + b.toNat) (onesSum rest)

/-- The RFC 1071 checksum of `bs`: the complement of the one's complement sum of its words. -/
def rfc1071Checksum (bs : List UInt8) : UInt16 := UInt16.ofNat (0xFFFF - onesSum bs)

/-- The plain sum of the 16-bit words of `bs` in network order. -/
def wordSum : List UInt8 → ℕ
  | [] => 0
  | [a] => 256 * a.toNat
  | a :: b :: rest => 256 * a.toNat + b.toNat + wordSum rest

/-- The one's complement value of numbers summing to `s`: `0` only if `s` is, else the residue
of `s` modulo `0xFFFF` in `1 … 0xFFFF`. -/
def onesNorm (s : ℕ) : ℕ := if s = 0 then 0 else (s - 1) % 0xFFFF + 1

/-! ### One's complement values -/

section Norm

variable {a b s : ℕ}

theorem onesNorm_le (s : ℕ) : onesNorm s ≤ 0xFFFF := by
  unfold onesNorm; split_ifs <;> omega

@[simp] theorem onesNorm_eq_zero : onesNorm s = 0 ↔ s = 0 := by
  unfold onesNorm; split_ifs with h <;> simp [h]

/-- Two sums have the same one's complement value if they are zero together and agree modulo
`0xFFFF`. -/
theorem onesNorm_congr (h₀ : a = 0 ↔ b = 0) (h : a % 0xFFFF = b % 0xFFFF) :
    onesNorm a = onesNorm b := by
  by_cases ha : a = 0
  · rw [onesNorm, onesNorm, if_pos ha, if_pos (h₀.1 ha)]
  · rw [onesNorm, onesNorm, if_neg ha, if_neg (mt h₀.2 ha)]; omega

theorem onesNorm_of_le (h : s ≤ 0xFFFF) : onesNorm s = s := by
  unfold onesNorm; split_ifs <;> omega

theorem onesNorm_mod (s : ℕ) : onesNorm s % 0xFFFF = s % 0xFFFF := by
  unfold onesNorm; split_ifs <;> omega

/-- One's complement addition of 16-bit numbers is their sum's one's complement value. -/
theorem onesAdd_eq (ha : a ≤ 0xFFFF) (hb : b ≤ 0xFFFF) : onesAdd a b = onesNorm (a + b) := by
  unfold onesAdd onesNorm; split_ifs <;> omega

/-- A one's complement value may stand for the sum it comes from. -/
theorem onesNorm_add_onesNorm (a b : ℕ) : onesNorm (onesNorm a + b) = onesNorm (a + b) :=
  onesNorm_congr (by rw [Nat.add_eq_zero, Nat.add_eq_zero, onesNorm_eq_zero])
    (by have := onesNorm_mod a; omega)

theorem wordSum_append {p q : List UInt8} (h : p.length % 2 = 0) :
    wordSum (p ++ q) = wordSum p + wordSum q := by
  induction p using wordSum.induct with
  | case1 => simp [wordSum]
  | case2 a => simp at h
  | case3 a b rest ih =>
    simp only [List.length_cons] at h
    rw [List.cons_append, List.cons_append, wordSum, wordSum, ih (by omega)]
    omega

/-- The one's complement sum of a byte string is the one's complement value of the plain sum
of its words. -/
theorem onesSum_eq (bs : List UInt8) : onesSum bs = onesNorm (wordSum bs) := by
  induction bs using onesSum.induct with
  | case1 => rfl
  | case2 a => have := u8_toNat_lt a; rw [onesSum, wordSum, onesNorm_of_le (by omega)]
  | case3 a b rest ih =>
    have := u8_toNat_lt a; have := u8_toNat_lt b
    rw [onesSum, wordSum, ih, onesAdd_eq (by omega) (onesNorm_le _), Nat.add_comm,
      onesNorm_add_onesNorm, Nat.add_comm]

end Norm

/-! ### `csum16_add` and the byte order -/

/-- `csum16_add` is one's complement addition. -/
theorem csum16Add_toNat (a b : UInt16) :
    (Solutions.csum16Add a b).toNat = onesAdd a.toNat b.toNat := by
  have := u16_toNat_lt a; have := u16_toNat_lt b
  unfold Solutions.csum16Add onesAdd
  simp only [u16_lt_iff, u16_toNat_add]
  split_ifs <;> simp <;> omega

theorem bswap16_csum16Add (a b : UInt16) :
    bswap16 (Solutions.csum16Add a b) = Solutions.csum16Add (bswap16 a) (bswap16 b) := by
  have := u16_toNat_lt a; have := u16_toNat_lt b
  rw [u16_eq_iff, bswap16_toNat, csum16Add_toNat, csum16Add_toNat, bswap16_toNat, bswap16_toNat]
  unfold onesAdd; split_ifs <;> omega

theorem bswap16_not (a : UInt16) : bswap16 (~~~a) = ~~~(bswap16 a) := by
  have := u16_toNat_lt a
  rw [u16_eq_iff, bswap16_toNat, u16_toNat_not, u16_toNat_not, bswap16_toNat]; omega

/-- One's complement addition gives the same bytes in either byte order. -/
theorem bpfNtohs_csum16Add (e : Endian) (a b : UInt16) :
    bpfNtohs e (Solutions.csum16Add a b) =
      Solutions.csum16Add (bpfNtohs e a) (bpfNtohs e b) := by
  cases e
  · exact bswap16_csum16Add a b
  · rfl

theorem bpfNtohs_not (e : Endian) (a : UInt16) : bpfNtohs e (~~~a) = ~~~(bpfNtohs e a) := by
  cases e
  · exact bswap16_not a
  · rfl

/-! ### The incremental update -/

/-- **RFC 1624's update of a correct checksum.** Let the words of a message, with its checksum
field cleared, be `w₀` and others summing to `t`, and let `check` be its correct checksum. The
update for `w₀` changed to `w₁`, `~csum16_add(csum16_add(~check, ~w₀), w₁)`, is the checksum
computed from scratch for the new words, unless these sum to zero: then the update gives
`0x0000`, where the checksum from scratch is `0xFFFF`. -/
theorem csumUpdate_toNat (w₀ w₁ t : ℕ) (h₀ : w₀ ≤ 0xFFFF) (h₁ : w₁ ≤ 0xFFFF) :
    (~~~(Solutions.csum16Add (Solutions.csum16Add (~~~(UInt16.ofNat (0xFFFF - onesNorm (w₀ + t))))
      (~~~(UInt16.ofNat w₀))) (UInt16.ofNat w₁))).toNat =
      if w₁ + t = 0 then 0 else 0xFFFF - onesNorm (w₁ + t) := by
  have hn := onesNorm_le (w₀ + t)
  have hpos : onesNorm (w₀ + t) + (0xFFFF - w₀) ≠ 0 := by
    intro h; rw [Nat.add_eq_zero, onesNorm_eq_zero] at h; omega
  have hm := onesNorm_mod (w₀ + t)
  simp (disch := omega) only [u16_toNat_not, csum16Add_toNat, u16_toNat_ofNat, Nat.mod_eq_of_lt]
  rw [Nat.sub_sub_self hn, onesAdd_eq hn (Nat.sub_le _ _), onesAdd_eq (onesNorm_le _) h₁,
    onesNorm_add_onesNorm]
  split_ifs with h
  · rw [onesNorm_congr (b := 0xFFFF) (by omega) (by omega), onesNorm_of_le le_rfl]
  · rw [onesNorm_congr (b := w₁ + t) (by omega) (by omega)]

/-! ### ICMP messages -/

/-- The checksum field of an ICMP message, bytes 2–3, in network order. -/
def checksumField (msg : List UInt8) : UInt16 := be16 (msg.getD 2 0) (msg.getD 3 0)

/-- An ICMP message with its checksum field cleared. -/
def clearChecksum (msg : List UInt8) : List UInt8 := msg.take 2 ++ [0, 0] ++ msg.drop 4

/-- The message `msg` carries the RFC 1071 checksum of the pseudo-header `pseudo` (empty for
ICMP over IPv4) followed by the message with its checksum field cleared. -/
def ChecksumCorrect (pseudo msg : List UInt8) : Prop :=
  checksumField msg = rfc1071Checksum (pseudo ++ clearChecksum msg)

instance (pseudo msg : List UInt8) : Decidable (ChecksumCorrect pseudo msg) :=
  inferInstanceAs (Decidable (_ = _))

/-- What `xdp_icmp_echo_func` makes of the ICMP message `msg` in host byte order `e`: the type,
byte 0, set to `t'`, and the checksum field patched by `~csum16_add(csum16_add(~checksum, ~m0),
m1)`, with `m0` and `m1` the first word before and after. -/
def echoReplyMessage (e : Endian) (t' : UInt8) (msg : List UInt8) : List UInt8 :=
  patch (patch msg 0 [t']) 2 (e.store16 (~~~(Solutions.csum16Add
    (Solutions.csum16Add (~~~(e.load16 (msg.getD 2 0) (msg.getD 3 0)))
      (~~~(e.load16 (msg.getD 0 0) (msg.getD 1 0)))) (e.load16 t' (msg.getD 1 0)))))

/-- A 16-bit value stored in either byte order is two bytes whose network-order value is the
value's. -/
theorem store16_eq_be16 (e : Endian) (v : UInt16) :
    ∃ s₀ s₁, e.store16 v = [s₀, s₁] ∧ be16 s₀ s₁ = bpfNtohs e v := by
  have h := store16_bpfHtons e (bpfNtohs e v)
  rw [show bpfHtons e (bpfNtohs e v) = v from bpfNtohs_bpfNtohs e v] at h
  exact ⟨_, _, h, load16_store16 .big _⟩

theorem wordSum_clearChecksum (a b c d : UInt8) (rest : List UInt8) :
    wordSum (clearChecksum (a :: b :: c :: d :: rest)) = 256 * a.toNat + b.toNat + wordSum rest := by
  simp [clearChecksum, wordSum]

/-- The first word of the reply's words with the checksum cleared is the new one; the rest are
the request's. -/
theorem echoReplyMessage_cons (e : Endian) (t' a b c d : UInt8) (rest : List UInt8) :
    ∃ s₀ s₁, echoReplyMessage e t' (a :: b :: c :: d :: rest) = t' :: b :: s₀ :: s₁ :: rest ∧
      be16 s₀ s₁ = ~~~(Solutions.csum16Add (Solutions.csum16Add (~~~(be16 c d)) (~~~(be16 a b)))
        (be16 t' b)) := by
  obtain ⟨s₀, s₁, hs, hv⟩ := store16_eq_be16 e
    (~~~(Solutions.csum16Add (Solutions.csum16Add (~~~(e.load16 c d)) (~~~(e.load16 a b)))
      (e.load16 t' b)))
  refine ⟨s₀, s₁, ?_, ?_⟩
  · simp only [echoReplyMessage, List.getD_cons_succ, List.getD_cons_zero, hs]; rfl
  · rw [hv, bpfNtohs_not, bpfNtohs_csum16Add, bpfNtohs_csum16Add, bpfNtohs_not, bpfNtohs_not,
      bpfNtohs_load16, bpfNtohs_load16, bpfNtohs_load16]

/-- **The reply's checksum field.** If the request carries a correct checksum, the reply the
code makes of it carries the checksum computed from scratch, with a pseudo-header whose words sum
as the request's do; except when the reply's words with the checksum cleared all sum to zero,
where the code writes `0x0000`. -/
theorem checksumField_echoReplyMessage (e : Endian) (t' : UInt8) (pseudo pseudo' : List UInt8)
    {msg : List UInt8}
    (hlen : 4 ≤ msg.length) (hp : pseudo.length % 2 = 0) (hp' : pseudo'.length % 2 = 0)
    (hs : wordSum pseudo' = wordSum pseudo) (hc : ChecksumCorrect pseudo msg) :
    checksumField (echoReplyMessage e t' msg) =
      if wordSum (pseudo' ++ clearChecksum (echoReplyMessage e t' msg)) = 0 then 0
      else rfc1071Checksum (pseudo' ++ clearChecksum (echoReplyMessage e t' msg)) := by
  match msg, hlen with
  | a :: b :: c :: d :: rest, _ =>
    obtain ⟨s₀, s₁, hm, hv⟩ := echoReplyMessage_cons e t' a b c d rest
    have := u8_toNat_lt a; have := u8_toNat_lt b; have := u8_toNat_lt t'
    have ha : be16 a b = UInt16.ofNat (256 * a.toNat + b.toNat) := by
      rw [u16_eq_iff, be16_toNat, u16_toNat_ofNat, Nat.mod_eq_of_lt (by omega)]
    have ht : be16 t' b = UInt16.ofNat (256 * t'.toNat + b.toNat) := by
      rw [u16_eq_iff, be16_toNat, u16_toNat_ofNat, Nat.mod_eq_of_lt (by omega)]
    unfold ChecksumCorrect rfc1071Checksum checksumField at hc
    simp only [List.getD_cons_succ, List.getD_cons_zero, onesSum_eq, wordSum_append hp,
      wordSum_clearChecksum] at hc
    rw [hm]
    unfold rfc1071Checksum checksumField
    simp only [List.getD_cons_succ, List.getD_cons_zero, onesSum_eq, wordSum_append hp',
      wordSum_clearChecksum, hv, hc, ha, ht, hs]
    have hn := onesNorm_le (wordSum pseudo + (256 * t'.toNat + b.toNat + wordSum rest))
    have key := csumUpdate_toNat (256 * a.toNat + b.toNat) (256 * t'.toNat + b.toNat)
      (wordSum pseudo + wordSum rest) (by omega) (by omega)
    rw [show 256 * a.toNat + b.toNat + (wordSum pseudo + wordSum rest) =
        wordSum pseudo + (256 * a.toNat + b.toNat + wordSum rest) by omega,
      show 256 * t'.toNat + b.toNat + (wordSum pseudo + wordSum rest) =
        wordSum pseudo + (256 * t'.toNat + b.toNat + wordSum rest) by omega] at key
    split_ifs at key ⊢
    · exact u16_eq_iff.2 key
    · rw [u16_eq_iff, key, u16_toNat_ofNat, Nat.mod_eq_of_lt (by omega)]

/-- The reply's checksum, read as `ChecksumCorrect`: correct where the reply's words with the
checksum cleared do not all sum to zero, and `0x0000` where they do. -/
theorem echoReplyMessage_checksum (e : Endian) (t' : UInt8) (pseudo pseudo' : List UInt8)
    {msg : List UInt8}
    (hlen : 4 ≤ msg.length) (hp : pseudo.length % 2 = 0) (hp' : pseudo'.length % 2 = 0)
    (hs : wordSum pseudo' = wordSum pseudo) (hc : ChecksumCorrect pseudo msg) :
    (wordSum (pseudo' ++ clearChecksum (echoReplyMessage e t' msg)) ≠ 0 →
        ChecksumCorrect pseudo' (echoReplyMessage e t' msg)) ∧
      (wordSum (pseudo' ++ clearChecksum (echoReplyMessage e t' msg)) = 0 →
        checksumField (echoReplyMessage e t' msg) = 0) := by
  have h := checksumField_echoReplyMessage e t' pseudo pseudo' hlen hp hp' hs hc
  exact ⟨fun h0 => by rw [ChecksumCorrect, h, if_neg h0], fun h0 => by rw [h, if_pos h0]⟩

end XdpTutorial
