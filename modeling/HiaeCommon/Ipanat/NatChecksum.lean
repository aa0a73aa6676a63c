/-
The checksum deltas of a rule (`ipa_nati_calc_ip_cksum` and
`ipa_nati_calc_tcp_udp_cksum` of `ipanat/src/ipa_nat_drvi.c`): one's-complement
sums of the public words and the complements of the private ones, so that a
packet's checksum stays right when its private address and port are replaced.
-/
import HiaeCommon.Ipanat.NatDrvi
import HiaeCommon.Lib.OnesComplement
import Mathlib.Data.List.Induction

namespace HiaeCommon

open Lib (ChecksumRight checksumAdd compl_toNat endAround endAround_lt endAround_modEq)

/-- The words of an address, the low one first. -/
def addrWords (addr : BitVec 32) : List (BitVec 16) := [addr.setWidth 16, (addr >>> 16).setWidth 16]

def wordSum (ws : List (BitVec 16)) : Nat := (ws.map BitVec.toNat).sum

/-- The words a delta is the sum of. -/
def ipDeltaWords (pubIpAddr privIpAddr : BitVec 32) : List (BitVec 16) := addrWords pubIpAddr ++ addrWords (~~~privIpAddr)

def tcpUdpDeltaWords (pubIpAddr : BitVec 32) (pubPort : BitVec 16) (privIpAddr : BitVec 32) (privPort : BitVec 16) : List (BitVec 16) :=
  addrWords pubIpAddr ++ [pubPort] ++ addrWords (~~~privIpAddr) ++ [~~~privPort]

/-- `cksum` after some words were added to it, each with its check for a carry. -/
def cksumOf (ws : List (BitVec 16)) : Nat := ws.foldl (fun cksum w => foldCarry (cksum + w.toNat)) 0

/-- The words of an IPv4 header around its checksum and its source address. One at least is not zero: the first has the version. -/
structure Ipv4Header where
  before : List (BitVec 16)
  after : List (BitVec 16)
  nonzero : ∃ w ∈ before ++ after, w.toNat ≠ 0

def Ipv4Header.words (p : Ipv4Header) (srcAddr : BitVec 32) (cksum : BitVec 16) : List (BitVec 16) :=
  p.before ++ cksum :: addrWords srcAddr ++ p.after

/-- The words of a TCP or UDP segment and its pseudo header, between the source address, the source port and the checksum.
One at least is not zero: that of the protocol. -/
structure Segment where
  pseudo : List (BitVec 16)
  header : List (BitVec 16)
  payload : List (BitVec 16)
  nonzero : ∃ w ∈ pseudo ++ header ++ payload, w.toNat ≠ 0

def Segment.words (p : Segment) (srcAddr : BitVec 32) (srcPort cksum : BitVec 16) : List (BitVec 16) :=
  addrWords srcAddr ++ p.pseudo ++ srcPort :: p.header ++ cksum :: p.payload

/-! ## The folding -/

theorem foldCarry_eq {n : Nat} (h : n < 2 ^ 17) : foldCarry n = endAround n := by
  unfold foldCarry endAround
  split <;> omega

theorem cksumOf_concat (ws : List (BitVec 16)) (w : BitVec 16) : cksumOf (ws ++ [w]) = foldCarry (cksumOf ws + w.toNat) := by
  rw [cksumOf, List.foldl_append]
  rfl

/-- Every sum is back in sixteen bits after its check, and is the words' sum modulo 65535. -/
theorem cksumOf_spec (ws : List (BitVec 16)) : cksumOf ws < 2 ^ 16 ∧ cksumOf ws ≡ wordSum ws [MOD 65535] := by
  induction ws using List.reverseRecOn with
  | nil => exact ⟨by decide, rfl⟩
  | append_singleton ws w ih =>
    obtain ⟨hlt, hmod⟩ := ih
    have hw := w.isLt
    have hsum : wordSum (ws ++ [w]) = wordSum ws + w.toNat := by simp [wordSum]
    rw [cksumOf_concat, foldCarry_eq (by omega), hsum]
    exact ⟨endAround_lt (by omega), (endAround_modEq _).trans (Nat.ModEq.add_right _ hmod)⟩

theorem foldCarry_of_lt {n : Nat} (h : n < 2 ^ 16) : foldCarry n = n := by
  unfold foldCarry
  rw [Nat.div_eq_of_lt h, if_neg (by decide)]

theorem addrWords_toNat (addr : BitVec 32) :
    (addrWords addr).map BitVec.toNat = [addr.toNat % 2 ^ 16, addr.toNat / 2 ^ 16] := by
  have h := addr.isLt
  simp only [addrWords, List.map_cons, List.map_nil, BitVec.toNat_setWidth, BitVec.toNat_ushiftRight, Nat.shiftRight_eq_div_pow]
  rw [Nat.mod_eq_of_lt (a := addr.toNat / 2 ^ 16) (by omega)]

theorem cksumOf_map (ws : List (BitVec 16)) :
    cksumOf ws = (ws.map BitVec.toNat).foldl (fun cksum w => foldCarry (cksum + w)) 0 := by
  rw [cksumOf, List.foldl_map]

/-- **The functions add these words**, and the cast of the result to sixteen bits loses nothing. -/
theorem calcIpCksum_toNat (pub priv : BitVec 32) : (calcIpCksum pub priv).toNat = cksumOf (ipDeltaWords pub priv) := by
  have hlt := (cksumOf_spec (ipDeltaWords pub priv)).1
  have hmap : (ipDeltaWords pub priv).map BitVec.toNat =
      [pub.toNat % 2 ^ 16, pub.toNat / 2 ^ 16, (~~~priv).toNat % 2 ^ 16, (~~~priv).toNat / 2 ^ 16] := by
    rw [ipDeltaWords, List.map_append, addrWords_toNat, addrWords_toNat]
    rfl
  have hfirst : foldCarry (0 + pub.toNat % 2 ^ 16) = pub.toNat % 2 ^ 16 := by
    rw [Nat.zero_add, foldCarry_of_lt (Nat.mod_lt _ (by decide))]
  have heq : calcIpCksum pub priv = BitVec.ofNat 16 (cksumOf (ipDeltaWords pub priv)) := by
    rw [cksumOf_map, hmap]
    simp only [List.foldl_cons, List.foldl_nil]
    rw [hfirst]
    rfl
  rw [heq, BitVec.toNat_ofNat, Nat.mod_eq_of_lt hlt]

theorem calcTcpUdpCksum_toNat (pub : BitVec 32) (pubPort : BitVec 16) (priv : BitVec 32) (privPort : BitVec 16) :
    (calcTcpUdpCksum pub pubPort priv privPort).toNat = cksumOf (tcpUdpDeltaWords pub pubPort priv privPort) := by
  have hlt := (cksumOf_spec (tcpUdpDeltaWords pub pubPort priv privPort)).1
  have hmap : (tcpUdpDeltaWords pub pubPort priv privPort).map BitVec.toNat =
      [pub.toNat % 2 ^ 16, pub.toNat / 2 ^ 16, pubPort.toNat, (~~~priv).toNat % 2 ^ 16, (~~~priv).toNat / 2 ^ 16,
        (~~~privPort).toNat] := by
    simp only [tcpUdpDeltaWords, List.map_append, addrWords_toNat]
    rfl
  have hfirst : foldCarry (0 + pub.toNat % 2 ^ 16) = pub.toNat % 2 ^ 16 := by
    rw [Nat.zero_add, foldCarry_of_lt (Nat.mod_lt _ (by decide))]
  have heq : calcTcpUdpCksum pub pubPort priv privPort = BitVec.ofNat 16 (cksumOf (tcpUdpDeltaWords pub pubPort priv privPort)) := by
    rw [cksumOf_map, hmap]
    simp only [List.foldl_cons, List.foldl_nil]
    rw [hfirst]
    rfl
  rw [heq, BitVec.toNat_ofNat, Nat.mod_eq_of_lt hlt]

/-! ## The differences -/

/-- The complement of an address takes its words away. -/
theorem wordSum_compl (addr : BitVec 32) : wordSum (addrWords (~~~addr)) + wordSum (addrWords addr) = 2 * 65535 := by
  have h := addr.isLt
  have hcompl : (~~~addr).toNat = 2 ^ 32 - 1 - addr.toNat := BitVec.toNat_not
  rw [wordSum, wordSum, addrWords_toNat, addrWords_toNat, hcompl]
  simp only [List.sum_cons, List.sum_nil]
  omega

theorem wordSum_append (l l' : List (BitVec 16)) : wordSum (l ++ l') = wordSum l + wordSum l' := by
  rw [wordSum, List.map_append, List.sum_append]
  rfl

theorem calcIpCksum_modEq (pub priv : BitVec 32) :
    (calcIpCksum pub priv).toNat + wordSum (addrWords priv) ≡ wordSum (addrWords pub) [MOD 65535] := by
  have hmod := (cksumOf_spec (ipDeltaWords pub priv)).2
  have hcompl := wordSum_compl priv
  rw [ipDeltaWords, wordSum_append] at hmod
  rw [calcIpCksum_toNat, ipDeltaWords]
  unfold Nat.ModEq at hmod ⊢
  omega

theorem calcTcpUdpCksum_modEq (pub : BitVec 32) (pubPort : BitVec 16) (priv : BitVec 32) (privPort : BitVec 16) :
    (calcTcpUdpCksum pub pubPort priv privPort).toNat + wordSum (addrWords priv ++ [privPort]) ≡
      wordSum (addrWords pub ++ [pubPort]) [MOD 65535] := by
  have hmod := (cksumOf_spec (tcpUdpDeltaWords pub pubPort priv privPort)).2
  have hcompl := wordSum_compl priv
  have hport := compl_toNat privPort
  have hlt := privPort.isLt
  have hone : ∀ w : BitVec 16, wordSum [w] = w.toNat := fun w => by simp [wordSum]
  simp only [tcpUdpDeltaWords, wordSum_append, hone] at hmod
  rw [calcTcpUdpCksum_toNat, tcpUdpDeltaWords, wordSum_append, wordSum_append, hone, hone]
  unfold Nat.ModEq at hmod ⊢
  omega

theorem int_modEq_sub {d a b : Nat} (h : d + a ≡ b [MOD 65535]) : (d : ℤ) ≡ b - a [ZMOD 65535] := by
  unfold Nat.ModEq at h
  unfold Int.ModEq
  omega

/-! ## Packets -/

/-- A checksum stays right when the delta of the words that change is added to it, beside words that stay. -/
theorem checksumRight_translate {ws ws' old new kept : List (BitVec 16)} {cksum d : BitVec 16}
    (hold : ws.Perm (cksum :: (old ++ kept))) (hnew : ws'.Perm (checksumAdd cksum d :: (new ++ kept)))
    (hdelta : d.toNat + wordSum old ≡ wordSum new [MOD 65535]) (hnz : ∃ w ∈ kept, w.toNat ≠ 0) (h : ChecksumRight ws) :
    ChecksumRight ws' := by
  refine ChecksumRight.replace hold hnew ?_ ?_ h
  · have hsum : ∀ l, ((l ++ kept).map BitVec.toNat).sum = wordSum l + wordSum kept := fun l => wordSum_append l kept
    rw [hsum, hsum, ← Nat.add_assoc]
    exact Nat.ModEq.add_right _ hdelta
  · obtain ⟨w, hw, h0⟩ := hnz
    exact ⟨w, List.mem_append_right _ hw, h0⟩

theorem Ipv4Header.right_of_right (p : Ipv4Header) {pub priv : BitVec 32} {cksum : BitVec 16}
    (h : ChecksumRight (p.words priv cksum)) :
    ChecksumRight (p.words pub (checksumAdd cksum (calcIpCksum pub priv))) := by
  have hperm : ∀ addr cksum, (p.words addr cksum).Perm (cksum :: (addrWords addr ++ (p.before ++ p.after))) := by
    intro addr cksum
    rw [words, List.append_assoc, List.cons_append]
    refine List.perm_middle.trans (.cons _ ?_)
    rw [← List.append_assoc, ← List.append_assoc]
    exact List.perm_append_comm.append_right _
  exact checksumRight_translate (hperm priv cksum) (hperm pub _) (calcIpCksum_modEq pub priv) p.nonzero h

theorem Segment.right_of_right (p : Segment) {pub priv : BitVec 32} {pubPort privPort cksum : BitVec 16}
    (h : ChecksumRight (p.words priv privPort cksum)) :
    ChecksumRight (p.words pub pubPort (checksumAdd cksum (calcTcpUdpCksum pub pubPort priv privPort))) := by
  have hperm : ∀ addr port cksum, (p.words addr port cksum).Perm
      (cksum :: (addrWords addr ++ [port] ++ (p.pseudo ++ p.header ++ p.payload))) := by
    intro addr port cksum
    unfold words
    refine List.perm_middle.trans (.cons _ ?_)
    rw [show addrWords addr ++ p.pseudo ++ port :: p.header ++ p.payload =
      (addrWords addr ++ p.pseudo) ++ port :: (p.header ++ p.payload) by simp,
      show addrWords addr ++ [port] ++ (p.pseudo ++ p.header ++ p.payload) =
      addrWords addr ++ port :: (p.pseudo ++ (p.header ++ p.payload)) by simp]
    refine List.perm_middle.trans (.trans ?_ List.perm_middle.symm)
    rw [List.append_assoc]
  exact checksumRight_translate (hperm priv privPort cksum) (hperm pub pubPort _) (calcTcpUdpCksum_modEq pub pubPort priv privPort) p.nonzero h

/-- **The deltas of a rule.** They are the differences of the words modulo 65535; `cksum` fits sixteen bits after each check;
and with the delta added to it a right checksum is right after the translation. -/
theorem calc_cksum_deltas (pub priv : BitVec 32) (pubPort privPort : BitVec 16) :
    (((calcIpCksum pub priv).toNat : ℤ) ≡ wordSum (addrWords pub) - wordSum (addrWords priv) [ZMOD 65535] ∧
      ((calcTcpUdpCksum pub pubPort priv privPort).toNat : ℤ) ≡
        wordSum (addrWords pub ++ [pubPort]) - wordSum (addrWords priv ++ [privPort]) [ZMOD 65535]) ∧
    (((calcIpCksum pub priv).toNat = cksumOf (ipDeltaWords pub priv) ∧ ∀ k, cksumOf ((ipDeltaWords pub priv).take k) < 2 ^ 16) ∧
      (calcTcpUdpCksum pub pubPort priv privPort).toNat = cksumOf (tcpUdpDeltaWords pub pubPort priv privPort) ∧
        ∀ k, cksumOf ((tcpUdpDeltaWords pub pubPort priv privPort).take k) < 2 ^ 16) ∧
    (∀ (p : Ipv4Header) (cksum : BitVec 16), ChecksumRight (p.words priv cksum) →
      ChecksumRight (p.words pub (checksumAdd cksum (calcIpCksum pub priv)))) ∧
    ∀ (p : Segment) (cksum : BitVec 16), ChecksumRight (p.words priv privPort cksum) →
      ChecksumRight (p.words pub pubPort (checksumAdd cksum (calcTcpUdpCksum pub pubPort priv privPort))) := by
  refine ⟨⟨?_, ?_⟩, ⟨⟨calcIpCksum_toNat pub priv, fun k => (cksumOf_spec _).1⟩,
    calcTcpUdpCksum_toNat pub pubPort priv privPort, fun k => (cksumOf_spec _).1⟩, fun p cksum h => p.right_of_right h,
    fun p cksum h => p.right_of_right h⟩
  · exact int_modEq_sub (calcIpCksum_modEq pub priv)
  · exact int_modEq_sub (calcTcpUdpCksum_modEq pub pubPort priv privPort)

/-- The header of a TCP packet to 8.8.8.8. -/
def sampleHeader : Ipv4Header := ⟨[0x4500, 0x0028, 0x0000, 0x4000, 0x4006], [0x0808, 0x0808], 0x4500, by decide, by decide⟩

theorem calc_cksum_deltas_sample : ChecksumRight (sampleHeader.words 0xC0A80002 0x6A16) ∧
    ChecksumRight (sampleHeader.words 0x0A000001 (checksumAdd 0x6A16 (calcIpCksum 0x0A000001 0xC0A80002))) := by
  have h : ChecksumRight (sampleHeader.words 0xC0A80002 0x6A16) := by decide
  exact ⟨h, (calc_cksum_deltas 0x0A000001 0xC0A80002 1024 5000).2.2.1 sampleHeader 0x6A16 h⟩

end HiaeCommon
