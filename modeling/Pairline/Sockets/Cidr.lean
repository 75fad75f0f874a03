/-
**The addresses of the trusted proxies.**

The socket believes the forwarding headers of a peer whose address lies in one of the ranges of the list
of trusted proxies.  An entry of the list is a network, a slash and the length of the prefix; the length
is compared in whole bytes, which are taken off both addresses, and in the bits of the next byte that are
left.  The length is not checked: a binary of a negative size matches nothing, nor does a next byte after
the last one, and both raise.  A length between -7 and -1 takes no byte off, and its mask is zero.

What `:inet.parse_address` reads is a parameter.

Main definitions:

* `Sockets.Address` — what it reads: four bytes or eight groups of sixteen bits;
* `Sockets.cidrMatch?`, `Sockets.matchCidr?` — **the comparison**;
* `Sockets.Entry` — what an entry of the list says;
* `Sockets.Contained` — the entry is a range of the peer's family that contains the peer;
* `Sockets.CidrLaw` — the comparison is true for such an entry, and false for all others.

Main results:

* `Sockets.ofBytes_ipToBinary` — a binary holds the bits of the address;
* `Sockets.matchCidr?_of_le`, `Sockets.matchCidr?_of_lt`, `Sockets.matchCidr?_of_le_neg`,
  `Sockets.matchCidr?_of_small` — the comparison, for the lengths of each kind;
* `Sockets.cidrLaw_iff` — **the law holds exactly when the length of the prefix is one of the family**;
* `Sockets.cidrLaw_fails_past_width` — the entry 10.0.0.0/33 raises.
-/

import Pairline.Bits
import Pairline.Sessions.Routes

set_option relaxedAutoImplicit false
set_option autoImplicit false

namespace Sockets

open Bits (ofNat ofBytes mask)
open Sessions.RedisKeys (parseInteger)

/-! ### Addresses -/

/-- An address as `:inet` has it: a tuple of four bytes, or of eight groups of sixteen bits. -/
inductive Address
  | v4 (a b c d : UInt8)
  | v6 (a b c d e f g h : UInt16)
  deriving DecidableEq

namespace Address

/-- The width of the family. -/
def width : Address → ℕ
  | v4 .. => 32
  | v6 .. => 128

/-- The bits of an address, the highest first. -/
def bits : Address → List Bool
  | v4 a b c d => [a, b, c, d].flatMap fun byte => ofNat 8 byte.toNat
  | v6 a b c d e f g h => [a, b, c, d, e, f, g, h].flatMap fun group => ofNat 16 group.toNat

end Address

/-! ### The comparison -/

/-- What the process raises. -/
inductive Raised
  | matchError
  deriving DecidableEq

/-- `<<group::16>>`. -/
def groupToBinary (group : UInt16) : List UInt8 := [(group >>> 8).toUInt8, group.toUInt8]

def ipToBinary : Address → List UInt8
  | .v4 a b c d => [a, b, c, d]
  | .v6 a b c d e f g h => [a, b, c, d, e, f, g, h].flatMap groupToBinary

/-- Matching a binary with `<<_::binary-size(bytes), _::binary>>`. -/
def splitBinary (bytes : ℤ) (binary : List UInt8) : Except Raised (List UInt8 × List UInt8) :=
  if 0 ≤ bytes ∧ bytes ≤ binary.length then
    .ok (binary.take bytes.toNat, binary.drop bytes.toNat)
  else .error .matchError

/-- Matching a binary with `<<next, _::binary>>`. -/
def nextByte : List UInt8 → Except Raised UInt8
  | [] => .error .matchError
  | next :: _ => .ok next

/-- `0xFF <<< (8 - bits) &&& 0xFF`; what is left of a length is below eight, so the shift is to the
left. -/
def bitMask (bits : ℤ) : ℕ := 0xFF <<< (8 - bits).toNat &&& 0xFF

/-- The bits that are left of the length, compared in the next byte. -/
def bitMatch (bits : ℤ) (proxyRest networkRest : List UInt8) : Except Raised Bool :=
  if bits = 0 then .ok true
  else do
    let proxyNext ← nextByte proxyRest
    let networkNext ← nextByte networkRest
    return proxyNext.toNat &&& bitMask bits == networkNext.toNat &&& bitMask bits

def matchCidr? (proxy network : Address) (prefixLength : ℤ) : Except Raised Bool :=
  let proxyBin := ipToBinary proxy
  let networkBin := ipToBinary network
  let bytes := prefixLength.tdiv 8
  let bits := prefixLength.tmod 8
  if proxyBin.length = networkBin.length then do
    let (proxyPrefix, proxyRest) ← splitBinary bytes proxyBin
    let (networkPrefix, networkRest) ← splitBinary bytes networkBin
    let bitMatch ← bitMatch bits proxyRest networkRest
    return proxyPrefix == networkPrefix && bitMatch
  else .ok false

section Parser

variable (parseAddress : List Char → Option Address)

def cidrMatch? (peerIp cidr : List Char) : Except Raised Bool :=
  match parseAddress peerIp with
  | none => .ok false
  | some proxy =>
      match cidr.splitOn '/' with
      | [network, bits] =>
          match parseAddress network with
          | none => .ok false
          | some networkAddr =>
              match parseInteger bits with
              | some (prefixLength, []) => matchCidr? proxy networkAddr prefixLength
              | _ => .ok false
      | _ => .ok false

/-! ### What it is for -/

/-- **What an entry of the list says**: a network, and the length of the prefix. -/
def Entry (cidr : List Char) (network : Address) (n : ℤ) : Prop :=
  ∃ address bits, cidr = address ++ '/' :: bits ∧ '/' ∉ address ∧ '/' ∉ bits ∧
    parseAddress address = some network ∧ parseInteger bits = some (n, [])

/-- **The entry is a range of the peer's family, and contains the peer.** -/
def Contained (peerIp cidr : List Char) : Prop :=
  ∃ proxy network n, parseAddress peerIp = some proxy ∧ Entry parseAddress cidr network n ∧
    proxy.width = network.width ∧ 0 ≤ n ∧ n ≤ proxy.width ∧
    proxy.bits.take n.toNat = network.bits.take n.toNat

/-- **The comparison is true for an entry that contains the peer, and false for every other.** -/
def CidrLaw (peerIp cidr : List Char) : Prop :=
  (cidrMatch? parseAddress peerIp cidr = .ok true ↔ Contained parseAddress peerIp cidr) ∧
    (¬ Contained parseAddress peerIp cidr → cidrMatch? parseAddress peerIp cidr = .ok false)

end Parser

/-! ### Binaries -/

theorem ofBytes_groupToBinary (group : UInt16) :
    ofBytes (groupToBinary group) = ofNat 16 group.toNat := by
  have hhigh : (group >>> 8).toUInt8.toNat = group.toNat >>> 8 := by
    have hlt := group.toNat_lt
    have hshift : (8 : UInt16).toNat % 16 = 8 := rfl
    rw [UInt16.toNat_toUInt8, UInt16.toNat_shiftRight, hshift, Nat.shiftRight_eq_div_pow]
    omega
  have hlow : group.toUInt8.toNat = group.toNat % 2 ^ 8 := UInt16.toNat_toUInt8 group
  rw [groupToBinary, Bits.ofBytes_cons, Bits.ofBytes_cons, Bits.ofBytes_nil, List.append_nil, hhigh,
    hlow, Bits.ofNat_mod, Bits.ofNat_add 8 8]

/-- **A binary holds the bits of the address.** -/
theorem ofBytes_ipToBinary (address : Address) : ofBytes (ipToBinary address) = address.bits := by
  cases address with
  | v4 a b c d => rfl
  | v6 a b c d e f g h =>
      simp only [ipToBinary, Address.bits, ofBytes, List.flatMap_assoc]
      congr 1
      funext group
      exact ofBytes_groupToBinary group

theorem width_eq (address : Address) : address.width = 8 * (ipToBinary address).length := by
  cases address <;> rfl

/-- Two families are one when their binaries are of one size. -/
theorem width_eq_width_iff (proxy network : Address) :
    proxy.width = network.width ↔ (ipToBinary proxy).length = (ipToBinary network).length := by
  rw [width_eq, width_eq]
  omega

/-! ### The lengths -/

section Lengths

variable {proxy network : Address}

/-- A length that is no negative number is taken apart as a natural number is. -/
theorem tdiv_natCast (n : ℕ) : (n : ℤ).tdiv 8 = (n / 8 : ℕ) ∧ (n : ℤ).tmod 8 = (n % 8 : ℕ) := by
  constructor
  · rw [Int.tdiv_eq_ediv_of_nonneg (by omega)]
    omega
  · rw [Int.tmod_eq_emod_of_nonneg (by omega)]
    omega

theorem bitMask_natCast {r : ℕ} (hr : r ≤ 8) : bitMask (r : ℤ) = mask r := by
  rw [bitMask, mask, show (8 - (r : ℤ)).toNat = 8 - r by omega]

/-- Addresses of two families match under no length. -/
theorem matchCidr?_of_ne (h : proxy.width ≠ network.width) (n : ℤ) :
    matchCidr? proxy network n = .ok false := by
  rw [ne_eq, width_eq_width_iff] at h
  simp only [matchCidr?, if_neg h]

theorem splitBinary_natCast {k : ℕ} {binary : List UInt8} (h : k ≤ binary.length) :
    splitBinary k binary = .ok (binary.take k, binary.drop k) := by
  rw [splitBinary, if_pos (by omega), Int.toNat_natCast]

/-- The whole bytes of the length are taken off both addresses, and the rest of it is compared. -/
theorem matchCidr?_of_split (hw : proxy.width = network.width) {n : ℤ} {k : ℕ} (hdiv : n.tdiv 8 = k)
    (hk : k ≤ (ipToBinary proxy).length) :
    matchCidr? proxy network n =
      (bitMatch (n.tmod 8) ((ipToBinary proxy).drop k) ((ipToBinary network).drop k)).map fun rest =>
        (ipToBinary proxy).take k == (ipToBinary network).take k && rest := by
  have hlen := (width_eq_width_iff proxy network).1 hw
  simp only [matchCidr?, if_pos hlen, hdiv, splitBinary_natCast hk, splitBinary_natCast (hlen ▸ hk)]
  show (bitMatch (n.tmod 8) ((ipToBinary proxy).drop k) ((ipToBinary network).drop k)).bind _ = _
  cases hrest : bitMatch (n.tmod 8) ((ipToBinary proxy).drop k) ((ipToBinary network).drop k) <;> rfl

/-- The bits that are left of a length, when a byte is there to compare. -/
theorem bitMatch_cons {r : ℕ} (hpos : 0 < r) (hr : r ≤ 8) (x y : UInt8) (a b : List UInt8) :
    bitMatch r (x :: a) (y :: b) = .ok (x.toNat &&& mask r == y.toNat &&& mask r) := by
  have hne : (r : ℤ) ≠ 0 := by omega
  rw [bitMatch, if_neg hne, bitMask_natCast hr]
  rfl

/-- **A length of the family compares as many bits.** -/
theorem matchCidr?_of_le (hw : proxy.width = network.width) {n : ℕ} (hn : n ≤ proxy.width) :
    matchCidr? proxy network n = .ok (decide (proxy.bits.take n = network.bits.take n)) := by
  have hlen := (width_eq_width_iff proxy network).1 hw
  have hwidth := width_eq proxy
  obtain ⟨hdiv, hmod⟩ := tdiv_natCast n
  obtain ⟨k, r, rfl, hr, hk, hrest⟩ : ∃ k r, n = 8 * k + r ∧ r < 8 ∧ n / 8 = k ∧ n % 8 = r :=
    ⟨n / 8, n % 8, by omega, by omega, rfl, rfl⟩
  rw [hk] at hdiv
  rw [hrest] at hmod
  have hproxy : k ≤ (ipToBinary proxy).length := by omega
  have hnetwork : k ≤ (ipToBinary network).length := by omega
  rw [matchCidr?_of_split hw hdiv hproxy, hmod, ← ofBytes_ipToBinary, ← ofBytes_ipToBinary]
  rcases Nat.eq_zero_or_pos r with rfl | hpos
  · -- whole bytes only
    have hiff := Bits.take_ofBytes_whole_iff hproxy hnetwork
    refine congrArg Except.ok (Bool.eq_iff_iff.2 ?_)
    rw [Nat.add_zero, decide_eq_true_iff, hiff]
    simp
  · -- some bits are left, and so is a byte of each address
    obtain ⟨x, a', ha⟩ : ∃ x a', (ipToBinary proxy).drop k = x :: a' :=
      List.exists_cons_of_length_pos (by rw [List.length_drop]; omega)
    obtain ⟨y, b', hb⟩ : ∃ y b', (ipToBinary network).drop k = y :: b' :=
      List.exists_cons_of_length_pos (by rw [List.length_drop]; omega)
    have hiff := Bits.take_ofBytes_iff (Nat.le_of_lt hr) ha hb
    rw [ha, hb, bitMatch_cons hpos (by omega)]
    refine congrArg Except.ok (Bool.eq_iff_iff.2 ?_)
    rw [decide_eq_true_iff, hiff]
    simp

/-- **A length beyond the family raises.** -/
theorem matchCidr?_of_lt (hw : proxy.width = network.width) {n : ℕ} (hn : proxy.width < n) :
    matchCidr? proxy network n = .error .matchError := by
  have hlen := (width_eq_width_iff proxy network).1 hw
  have hwidth := width_eq proxy
  obtain ⟨hdiv, hmod⟩ := tdiv_natCast n
  rcases Nat.lt_or_ge (ipToBinary proxy).length (n / 8) with hk | hk
  · simp only [matchCidr?, if_pos hlen, hdiv]
    rw [splitBinary, if_neg (by omega)]
    rfl
  · -- all the bytes are taken off, and bits are left of the length
    have hdrop : (ipToBinary proxy).drop (n / 8) = [] := List.drop_eq_nil_of_le (by omega)
    have hne : ((n % 8 : ℕ) : ℤ) ≠ 0 := by omega
    rw [matchCidr?_of_split hw hdiv hk, hmod, hdrop, bitMatch, if_neg hne]
    rfl

/-- **A length of -8 or less raises.** -/
theorem matchCidr?_of_le_neg (hw : proxy.width = network.width) {n : ℤ} (hn : n ≤ -8) :
    matchCidr? proxy network n = .error .matchError := by
  have hlen := (width_eq_width_iff proxy network).1 hw
  have hdiv : n.tdiv 8 < 0 := by
    obtain ⟨m, rfl⟩ : ∃ m : ℕ, n = -(m : ℤ) := ⟨n.natAbs, by omega⟩
    rw [Int.neg_tdiv, (tdiv_natCast m).1]
    omega
  simp only [matchCidr?, if_pos hlen]
  rw [splitBinary, if_neg (by omega)]
  rfl

/-- **A length between -7 and -1 matches any address of the family.** -/
theorem matchCidr?_of_small (hw : proxy.width = network.width) {n : ℤ} (hlt : -8 < n) (hn : n < 0) :
    matchCidr? proxy network n = .ok true := by
  have hlen := (width_eq_width_iff proxy network).1 hw
  have hwidth := width_eq proxy
  have hpos : 0 < (ipToBinary proxy).length := by cases proxy <;> exact Nat.zero_lt_succ _
  obtain ⟨x, a, ha⟩ := List.exists_cons_of_length_pos hpos
  obtain ⟨y, b, hb⟩ := List.exists_cons_of_length_pos (hlen ▸ hpos)
  obtain ⟨hdiv, hbits⟩ : n.tdiv 8 = 0 ∧ n.tmod 8 = n := by
    obtain ⟨m, rfl⟩ : ∃ m : ℕ, n = -(m : ℤ) := ⟨n.natAbs, by omega⟩
    rw [Int.neg_tdiv, Int.neg_tmod, (tdiv_natCast m).1, (tdiv_natCast m).2]
    omega
  have hmask : bitMask n = 0 := by
    obtain ⟨j, hj⟩ : ∃ j : ℕ, (8 - n).toNat = 8 + j := ⟨(8 - n).toNat - 8, by omega⟩
    apply Nat.eq_of_testBit_eq
    intro i
    rw [bitMask, hj, Nat.testBit_and, Nat.testBit_shiftLeft, show 0xFF = 2 ^ 8 - 1 by rfl,
      Nat.testBit_two_pow_sub_one, Nat.testBit_two_pow_sub_one, Nat.zero_testBit]
    simp
    omega
  rw [matchCidr?_of_split hw (k := 0) hdiv (Nat.zero_le _), hbits, List.drop_zero, List.drop_zero, ha,
    hb, bitMatch, if_neg (by omega), hmask]
  simp [nextByte, bind, Except.bind, pure, Except.pure, Except.map]

end Lengths

/-! ### The law -/

section Law

variable {parseAddress : List Char → Option Address} {peerIp cidr : List Char}

/-- What an entry says is known. -/
theorem Entry.unique {network network' : Address} {n n' : ℤ}
    (h : Entry parseAddress cidr network n) (h' : Entry parseAddress cidr network' n') :
    network = network' ∧ n = n' := by
  obtain ⟨address, bits, hcidr, ha, hb, hnetwork, hn⟩ := h
  obtain ⟨address', bits', hcidr', ha', hb', hnetwork', hn'⟩ := h'
  have hsplit := Numerals.splitOn_eq_pair_iff.2 ⟨hcidr, ha, hb⟩
  rw [Numerals.splitOn_eq_pair_iff.2 ⟨hcidr', ha', hb'⟩] at hsplit
  simp only [List.cons.injEq, and_true] at hsplit
  obtain ⟨rfl, rfl⟩ := hsplit
  rw [hnetwork] at hnetwork'
  rw [hn] at hn'
  exact ⟨by simpa using hnetwork', by simpa using hn'⟩

/-- A peer and an entry that are read are compared. -/
theorem cidrMatch?_of_entry {proxy network : Address} {n : ℤ}
    (hpeer : parseAddress peerIp = some proxy) (h : Entry parseAddress cidr network n) :
    cidrMatch? parseAddress peerIp cidr = matchCidr? proxy network n := by
  obtain ⟨address, bits, hcidr, ha, hb, hnetwork, hn⟩ := h
  simp only [cidrMatch?, hpeer, Numerals.splitOn_eq_pair_iff.2 ⟨hcidr, ha, hb⟩, hnetwork, hn]

/-- **Everything else is false.** -/
theorem cidrMatch?_of_no_entry
    (h : ∀ proxy network n, parseAddress peerIp = some proxy →
      ¬ Entry parseAddress cidr network n) :
    cidrMatch? parseAddress peerIp cidr = .ok false := by
  unfold cidrMatch?
  split
  · rfl
  · rename_i proxy hpeer
    split
    · rename_i address bits hsplit
      obtain ⟨hcidr, ha, hb⟩ := Numerals.splitOn_eq_pair_iff.1 hsplit
      split
      · rfl
      · rename_i network hnetwork
        split
        · rename_i n hn
          exact absurd ⟨address, bits, hcidr, ha, hb, hnetwork, hn⟩ (h proxy network n hpeer)
        · rfl
    · rfl

/-- An entry whose length is not one of the family raises, or matches without being a range. -/
theorem not_cidrLaw {proxy network : Address} {n : ℤ} (hpeer : parseAddress peerIp = some proxy)
    (hentry : Entry parseAddress cidr network n) (hw : proxy.width = network.width)
    (hn : ¬ (0 ≤ n ∧ n ≤ proxy.width)) : ¬ CidrLaw parseAddress peerIp cidr := by
  rintro ⟨-, hfalse⟩
  have hnot : ¬ Contained parseAddress peerIp cidr := by
    rintro ⟨proxy', network', n', hpeer', hentry', -, h0, hle, -⟩
    obtain ⟨-, rfl⟩ := hentry.unique hentry'
    rw [hpeer] at hpeer'
    cases hpeer'
    exact hn ⟨h0, hle⟩
  have hres := hfalse hnot
  rw [cidrMatch?_of_entry hpeer hentry] at hres
  rcases Int.lt_or_le n 0 with hneg | hnonneg
  · rcases Int.lt_or_le (-8) n with hgt | hle
    · rw [matchCidr?_of_small hw hgt hneg] at hres
      cases hres
    · rw [matchCidr?_of_le_neg hw hle] at hres
      cases hres
  · obtain ⟨m, rfl⟩ := Int.eq_ofNat_of_zero_le hnonneg
    rw [matchCidr?_of_lt hw (by omega)] at hres
    cases hres

/-- A range of the peer's family is compared bit by bit. -/
theorem cidrLaw_of_range {proxy network : Address} {n : ℕ} (hpeer : parseAddress peerIp = some proxy)
    (hentry : Entry parseAddress cidr network n) (hw : proxy.width = network.width)
    (hn : n ≤ proxy.width) : CidrLaw parseAddress peerIp cidr := by
  have hmatch := cidrMatch?_of_entry hpeer hentry
  rw [matchCidr?_of_le hw hn] at hmatch
  have hiff : Contained parseAddress peerIp cidr ↔ proxy.bits.take n = network.bits.take n := by
    constructor
    · rintro ⟨proxy', network', n', hpeer', hentry', -, -, -, hbits⟩
      obtain ⟨rfl, rfl⟩ := hentry.unique hentry'
      rw [hpeer] at hpeer'
      cases hpeer'
      exact hbits
    · intro hbits
      exact ⟨proxy, network, n, hpeer, hentry, hw, by omega, by omega, hbits⟩
  rw [CidrLaw, hmatch, hiff]
  simp

/-- Where the peer or the entry is not read, or they are of two families, nothing is contained. -/
theorem cidrLaw_of_unread (h : ∀ proxy network n, parseAddress peerIp = some proxy →
    Entry parseAddress cidr network n → proxy.width ≠ network.width) :
    CidrLaw parseAddress peerIp cidr := by
  have hnot : ¬ Contained parseAddress peerIp cidr := by
    rintro ⟨proxy, network, n, hpeer, hentry, hw, -⟩
    exact h proxy network n hpeer hentry hw
  have hfalse : cidrMatch? parseAddress peerIp cidr = .ok false := by
    by_cases hentry : ∃ proxy network n, parseAddress peerIp = some proxy ∧
        Entry parseAddress cidr network n
    · obtain ⟨proxy, network, n, hpeer, hentry⟩ := hentry
      rw [cidrMatch?_of_entry hpeer hentry, matchCidr?_of_ne (h proxy network n hpeer hentry)]
    · refine cidrMatch?_of_no_entry fun proxy network n hpeer hn => ?_
      exact hentry ⟨proxy, network, n, hpeer, hn⟩
  simp [CidrLaw, hfalse, hnot]

/-- **The comparison does what it is for exactly when the length of the prefix is one of the family.** -/
theorem cidrLaw_iff : CidrLaw parseAddress peerIp cidr ↔
    ∀ proxy network n, parseAddress peerIp = some proxy → Entry parseAddress cidr network n →
      proxy.width = network.width → 0 ≤ n ∧ n ≤ proxy.width := by
  constructor
  · intro hlaw proxy network n hpeer hentry hw
    by_contra hn
    exact not_cidrLaw hpeer hentry hw hn hlaw
  · intro hrange
    by_cases hread : ∃ proxy network n, parseAddress peerIp = some proxy ∧
        Entry parseAddress cidr network n ∧ proxy.width = network.width
    · obtain ⟨proxy, network, n, hpeer, hentry, hw⟩ := hread
      obtain ⟨h0, hle⟩ := hrange proxy network n hpeer hentry hw
      obtain ⟨m, rfl⟩ := Int.eq_ofNat_of_zero_le h0
      exact cidrLaw_of_range hpeer hentry hw (by omega)
    · refine cidrLaw_of_unread fun proxy network n hpeer hentry hw => ?_
      exact hread ⟨proxy, network, n, hpeer, hentry, hw⟩

end Law

/-- Four bytes in decimal, with dots between them. -/
def dottedQuad (text : List Char) : Option Address :=
  match (text.splitOn '.').map Numerals.digits? with
  | [some a, some b, some c, some d] =>
      if a < 256 ∧ b < 256 ∧ c < 256 ∧ d < 256 then
        some (.v4 (UInt8.ofNat a) (UInt8.ofNat b) (UInt8.ofNat c) (UInt8.ofNat d))
      else none
  | _ => none

/-- **The law fails**: the length 33 raises, where the entry is only no range. -/
theorem cidrLaw_fails_past_width :
    ¬ CidrLaw dottedQuad "10.0.0.1".toList "10.0.0.0/33".toList := by
  have hpeer : dottedQuad "10.0.0.1".toList = some (.v4 10 0 0 1) := by decide
  have hentry : Entry dottedQuad "10.0.0.0/33".toList (.v4 10 0 0 0) 33 :=
    ⟨"10.0.0.0".toList, "33".toList, by decide, by decide, by decide, by decide, by decide⟩
  exact not_cidrLaw hpeer hentry rfl (by decide)

end Sockets
