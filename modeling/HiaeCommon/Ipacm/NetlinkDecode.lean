/-
What `ipa_nl_decode_nlmsg` posts for a buffer of several messages, against
what it posts for each of them alone.

Every decoder reads the buffer from its start, so a message behind the first
is decoded from the bytes of the first; and a `return` for one message drops
the ones behind it. What is left is the buffer whose messages behind the first
are of no type that is decoded. There the walk over the attributes of the
first message goes on over the messages behind it, where each header reads as
an attribute of type 0, and up to the size of the family header beyond the
bytes received.
-/
import HiaeCommon.Ipacm.Netlink
import Mathlib.Data.List.Basic

namespace HiaeCommon

/-! ## Bytes in the buffer -/

/-- The buffer that holds `l` and, behind it, `behind`. -/
def bufferOf (l : List (BitVec 8)) (behind : Bytes) : Bytes := fun i =>
  if h : i < l.length then l[i] else behind (i - l.length)

/-- The bytes `l` stand at `p`. -/
def Bytes.Holds (b : Bytes) (p : Nat) (l : List (BitVec 8)) : Prop :=
  ∀ i (h : i < l.length), b (p + i) = l[i]

namespace Bytes

variable {b b' : Bytes} {p q n : Nat} {l l' : List (BitVec 8)}

theorem bufferOf_holds (l : List (BitVec 8)) (behind : Bytes) : (bufferOf l behind).Holds 0 l := by
  intro i h
  simp [bufferOf, h]

theorem bufferOf_behind (l : List (BitVec 8)) (behind : Bytes) (i : Nat) :
    bufferOf l behind (l.length + i) = behind i := by
  simp [bufferOf]

theorem Holds.left (h : b.Holds p (l ++ l')) : b.Holds p l := by
  intro i hi
  have := h i (by simp; omega)
  rwa [List.getElem_append_left hi] at this

theorem Holds.right (h : b.Holds p (l ++ l')) : b.Holds (p + l.length) l' := by
  intro i hi
  have := h (l.length + i) (by simp; omega)
  rw [List.getElem_append_right (by omega)] at this
  simpa [Nat.add_assoc] using this

/-- Within the bytes it holds, a buffer reads as the one that holds nothing else. -/
theorem Holds.byte (h : b.Holds p l) (hq : q < l.length) : b (p + q) = bufferOf l (fun _ => 0) q := by
  rw [h q hq]
  simp [bufferOf, hq]

theorem Holds.u16 (h : b.Holds p l) (q : Nat) (hq : q + 2 ≤ l.length) :
    b.u16 (p + q) = (bufferOf l fun _ => 0).u16 q := by
  simp only [Bytes.u16, Nat.add_assoc]
  rw [h.byte (by omega), h.byte (by omega)]

theorem Holds.u32 (h : b.Holds p l) (q : Nat) (hq : q + 4 ≤ l.length) :
    b.u32 (p + q) = (bufferOf l fun _ => 0).u32 q := by
  simp only [Bytes.u32, Nat.add_assoc]
  rw [h.byte (by omega), h.byte (by omega), h.byte (by omega), h.byte (by omega)]

theorem u16_congr (p : Nat) (h : ∀ i < n, b i = b' i) (hp : p + 2 ≤ n) : b.u16 p = b'.u16 p := by
  simp only [Bytes.u16]
  rw [h _ (by omega), h _ (by omega)]

theorem u32_congr (p : Nat) (h : ∀ i < n, b i = b' i) (hp : p + 4 ≤ n) : b.u32 p = b'.u32 p := by
  simp only [Bytes.u32]
  rw [h _ (by omega), h _ (by omega), h _ (by omega), h _ (by omega)]

theorem toNat_append {v w : Nat} (x : BitVec v) (y : BitVec w) :
    (x ++ y).toNat = x.toNat * 2 ^ w + y.toNat := by
  rw [BitVec.toNat_append, ← Nat.shiftLeft_add_eq_or_of_lt y.isLt, Nat.shiftLeft_eq]

/-- A word is its low half and its high half. -/
theorem u32_toNat (b : Bytes) (p : Nat) :
    (b.u32 p).toNat = (b.u16 p).toNat + 2 ^ 16 * (b.u16 (p + 2)).toNat := by
  have h3 : p + 2 + 1 = p + 3 := rfl
  simp only [Bytes.u32, Bytes.u16, toNat_append, h3]
  omega

end Bytes

theorem nlmsgAlign_of_mod (h : n % 4 = 0) (hn : n < 2 ^ 32) : nlmsgAlign n = n := by
  unfold nlmsgAlign
  omega

theorem lenSub_of_le {len n : Nat} (h : n ≤ len) (hlen : len < 2 ^ 32) : lenSub len n = len - n := by
  unfold lenSub
  omega

/-! ## Well-formed messages -/

/-- The types `ipa_nl_decode_nlmsg` has a decoder for. -/
def handledTypes : List (BitVec 16) :=
  [rtmNewlink, rtmDellink, rtmNewaddr, rtmNewroute, rtmDelroute, rtmNewneigh, rtmDelneigh]

/-- A message as it stands in a buffer: `nlmsg_len` is its length, a multiple of four. -/
structure NlMessage where
  bytes : List (BitVec 8)
  hdr : nlmsghdrSize ≤ bytes.length
  aligned : bytes.length % 4 = 0
  len : nlmsgLen (bufferOf bytes fun _ => 0) 0 = bytes.length

namespace NlMessage

/-- The message, with nothing but zeros behind it. -/
def buffer (m : NlMessage) : Bytes := bufferOf m.bytes fun _ => 0

def type (m : NlMessage) : BitVec 16 := nlmsgType m.buffer 0

def Handled (m : NlMessage) : Prop := m.type ∈ handledTypes

/-- The bytes of a buffer of messages. -/
def concat (ms : List NlMessage) : List (BitVec 8) := ms.flatMap bytes

@[simp] theorem concat_nil : concat [] = [] := rfl

@[simp] theorem concat_cons (m : NlMessage) (ms : List NlMessage) : concat (m :: ms) = m.bytes ++ concat ms := rfl

variable {b : Bytes} {p : Nat} {m : NlMessage} {ms : List NlMessage}

theorem four_le_length (ms : List NlMessage) : 4 * ms.length ≤ (concat ms).length := by
  induction ms with
  | nil => simp
  | cons m ms ih =>
    have := m.hdr
    simp only [nlmsghdrSize] at this
    simp only [List.length_cons, concat_cons, List.length_append]
    omega

/-- Where a message stands, its header is read. -/
theorem nlmsgLen_at (h : b.Holds p m.bytes) : nlmsgLen b p = m.bytes.length := by
  have hh := m.hdr
  simp only [nlmsghdrSize] at hh
  rw [← m.len]
  have := h.u32 0 (by omega)
  simpa [nlmsgLen] using congrArg BitVec.toNat this

theorem nlmsgType_at (h : b.Holds p m.bytes) : nlmsgType b p = m.type := by
  have hh := m.hdr
  simp only [nlmsghdrSize] at hh
  have := h.u16 4 (by omega)
  simpa [type, nlmsgType, buffer] using this

/-- The header of a message reads as an attribute of type 0, as long as the message. -/
theorem rta_at (h : b.Holds p m.bytes) (hlen : m.bytes.length < 2 ^ 16) :
    rtaLen b p = m.bytes.length ∧ rtaType b p = 0 := by
  have h32 := Bytes.u32_toNat b p
  have hl := nlmsgLen_at h
  simp only [nlmsgLen] at hl
  have hlo := (b.u16 p).isLt
  have hhi : (b.u16 (p + 2)).toNat = 0 := by omega
  exact ⟨by simp only [rtaLen]; omega, BitVec.eq_of_toNat_eq hhi⟩

end NlMessage

/-! ## The walk over the attributes -/

section AttrLoop

variable {α : Type} {b b' : Bytes} {take take' : BitVec 16 → Nat → α → α}

theorem attrLoop_stop {fuel p n : Nat} (h : ¬rtaOk b p n) (a : α) :
    attrLoop b take (fuel + 1) p n a = some a := by
  simp [attrLoop, h]

theorem attrLoop_next {fuel p n : Nat} (h : rtaOk b p n) (hn : n < 2 ^ 32)
    (hfit : nlmsgAlign (rtaLen b p) ≤ n) (a : α) :
    attrLoop b take (fuel + 1) p n a =
      attrLoop b take fuel (p + nlmsgAlign (rtaLen b p)) (n - nlmsgAlign (rtaLen b p))
        (take (rtaType b p) (p + rtattrSize) a) := by
  rw [attrLoop, if_pos h, lenSub_of_le hfit hn]

/-- Behind the first message the walk takes nothing: it passes over the messages there and
stops at the end of the buffer. -/
theorem attrLoop_behind (h0 : ∀ p a, take 0 p a = a) {rest : Nat} (ms : List NlMessage) :
    ∀ {fuel p : Nat} (a : α), b.Holds p (NlMessage.concat ms) → (NlMessage.concat ms).length < 2 ^ 16 →
      rest < 2 ^ 16 → ¬rtaOk b (p + (NlMessage.concat ms).length) rest → ms.length < fuel →
      attrLoop b take fuel p ((NlMessage.concat ms).length + rest) a = some a := by
  induction ms with
  | nil =>
    intro fuel p a _ _ _ hend hf
    obtain ⟨fuel, rfl⟩ : ∃ k, fuel = k + 1 := ⟨fuel - 1, by simp at hf; omega⟩
    exact attrLoop_stop (by simpa using hend) a
  | cons m ms ih =>
    intro fuel p a hb hlen hover hend hf
    obtain ⟨fuel, rfl⟩ : ∃ k, fuel = k + 1 := ⟨fuel - 1, by simp at hf; omega⟩
    simp only [NlMessage.concat_cons, List.length_append] at hlen hend hb ⊢
    have hh := m.hdr
    simp only [nlmsghdrSize] at hh
    obtain ⟨hl, ht⟩ := NlMessage.rta_at hb.left (by omega)
    have halign : nlmsgAlign (rtaLen b p) = m.bytes.length := by
      rw [hl, nlmsgAlign_of_mod m.aligned (by omega)]
    have hok : rtaOk b p (m.bytes.length + (NlMessage.concat ms).length + rest) := by
      simp only [rtaOk, rtattrSize, hl]
      omega
    rw [attrLoop_next hok (by omega) (by omega), halign, ht, h0]
    have : m.bytes.length + (NlMessage.concat ms).length + rest - m.bytes.length =
        (NlMessage.concat ms).length + rest := by omega
    rw [this]
    exact ih a hb.right (by omega) hover (by rwa [Nat.add_assoc]) (by simpa using hf)

/-- The attributes from `p` to the end `L` of a message: one behind the other, each with data
that fits its type, up to the end or to one of length 0. -/
inductive AttrsWithin (b : Bytes) (L : Nat) (fits : BitVec 16 → Nat → Prop) : Nat → Prop
  | done : AttrsWithin b L fits L
  | zero {p : Nat} (hp : p + rtattrSize ≤ L) (hlen : rtaLen b p < rtattrSize) : AttrsWithin b L fits p
  | attr {p : Nat} (hlen : rtattrSize ≤ rtaLen b p) (hp : p + rtaLen b p ≤ L)
      (hfits : fits (rtaType b p) (rtaLen b p - rtattrSize))
      (next : AttrsWithin b L fits (p + nlmsgAlign (rtaLen b p))) : AttrsWithin b L fits p

theorem AttrsWithin.congr {L : Nat} {fits : BitVec 16 → Nat → Prop} (hb : ∀ i < L, b i = b' i) {p : Nat}
    (h : AttrsWithin b L fits p) : AttrsWithin b' L fits p := by
  induction h with
  | done => exact .done
  | @zero p hp hlen =>
    refine .zero hp ?_
    simp only [rtaLen, rtattrSize] at hp hlen ⊢
    rwa [← Bytes.u16_congr _ hb (by omega)]
  | @attr p hlen hp hfits _ ih =>
    simp only [rtattrSize] at hlen
    have heq : rtaLen b p = rtaLen b' p := by
      simp only [rtaLen]
      rw [Bytes.u16_congr _ hb (by omega)]
    have hty : rtaType b p = rtaType b' p := by
      simp only [rtaType]
      rw [Bytes.u16_congr _ hb (by omega)]
    rw [heq] at hlen hp hfits ih
    exact .attr hlen hp (hty ▸ hfits) ih

/-- Two walks over one message, in buffers that go on differently behind it, end in related
results when the attributes of the message are taken in a related way. -/
theorem attrLoop_related (R : α → α → Prop) {L : Nat} {fits : BitVec 16 → Nat → Prop}
    (hb : ∀ i < L, b i = b' i) (hL : L % 4 = 0) {k k' rest rest' : Nat}
    (hrest : L + rest < 2 ^ 32) (hrest' : L + rest' < 2 ^ 32)
    (htake : ∀ t q n a a', fits t n → q + n ≤ L → R a a' → R (take t q a) (take' t q a'))
    (tail : ∀ fuel a, k < fuel → attrLoop b take fuel L rest a = some a)
    (tail' : ∀ fuel a, k' < fuel → attrLoop b' take' fuel L rest' a = some a) {p : Nat}
    (h : AttrsWithin b L fits p) :
    ∀ {fuel fuel' n n' : Nat} {a a' : α}, p % 4 = 0 → L + 4 * k < p + 4 * fuel → L + 4 * k' < p + 4 * fuel' →
      n + p = L + rest → n' + p = L + rest' → R a a' →
      ∃ r r', attrLoop b take fuel p n a = some r ∧ attrLoop b' take' fuel' p n' a' = some r' ∧ R r r' := by
  induction h with
  | done =>
    intro fuel fuel' n n' a a' _ hf hf' hn hn' hR
    obtain rfl : n = rest := by omega
    obtain rfl : n' = rest' := by omega
    exact ⟨a, a', tail fuel a (by omega), tail' fuel' a' (by omega), hR⟩
  | @zero p hp hlen =>
    intro fuel fuel' n n' a a' _ hf hf' hn hn' hR
    simp only [rtattrSize] at hp hlen
    obtain ⟨fuel, rfl⟩ : ∃ j, fuel = j + 1 := ⟨fuel - 1, by omega⟩
    obtain ⟨fuel', rfl⟩ : ∃ j, fuel' = j + 1 := ⟨fuel' - 1, by omega⟩
    have heq : rtaLen b' p = rtaLen b p := by
      simp only [rtaLen]
      rw [Bytes.u16_congr _ hb (by omega)]
    refine ⟨a, a', attrLoop_stop ?_ a, attrLoop_stop ?_ a', hR⟩ <;>
      simp only [rtaOk, rtattrSize] <;> omega
  | @attr p hlen hp hfits _ ih =>
    intro fuel fuel' n n' a a' hp4 hf hf' hn hn' hR
    simp only [rtattrSize] at hlen
    obtain ⟨fuel, rfl⟩ : ∃ j, fuel = j + 1 := ⟨fuel - 1, by omega⟩
    obtain ⟨fuel', rfl⟩ : ∃ j, fuel' = j + 1 := ⟨fuel' - 1, by omega⟩
    have heq : rtaLen b' p = rtaLen b p := by
      simp only [rtaLen]
      rw [Bytes.u16_congr _ hb (by omega)]
    have hty : rtaType b' p = rtaType b p := by
      simp only [rtaType]
      rw [Bytes.u16_congr _ hb (by omega)]
    -- the message is aligned, so an attribute and its padding end inside it
    have halign : rtaLen b p ≤ nlmsgAlign (rtaLen b p) ∧ p + nlmsgAlign (rtaLen b p) ≤ L ∧
        nlmsgAlign (rtaLen b p) % 4 = 0 := by
      unfold nlmsgAlign
      omega
    obtain ⟨hle, hin, hmod⟩ := halign
    have hok : rtaOk b p n := by simp only [rtaOk, rtattrSize]; omega
    have hok' : rtaOk b' p n' := by simp only [rtaOk, rtattrSize, heq]; omega
    rw [attrLoop_next hok (by omega) (by omega), attrLoop_next hok' (by omega) (by rw [heq]; omega), heq, hty]
    exact ih (by omega) (by omega) (by omega) (by omega) (by omega)
      (htake _ _ _ _ _ hfits (by simp only [rtattrSize]; omega) hR)

end AttrLoop

/-! ## What an event reads of what is decoded -/

/-- An address attribute has the bytes that an event of its family reads. -/
def AddrFits (family : BitVec 8) (n : Nat) : Prop := 4 ≤ n ∧ (family = afInet6 → 16 ≤ n)

def addrAttrFits (family : BitVec 8) (type : BitVec 16) (n : Nat) : Prop :=
  type = ifaAddress → AddrFits family n

def neighAttrFits (family : BitVec 8) (type : BitVec 16) (n : Nat) : Prop :=
  (type = ndaDst → AddrFits family n) ∧ (type = ndaLladdr → 6 ≤ n)

def routeAttrFits (family : BitVec 8) (type : BitVec 16) (n : Nat) : Prop :=
  (type = rtaDst ∨ type = rtaGateway → AddrFits family n) ∧ (type = rtaOif → 4 ≤ n)

/-- The same in all that an event of the family reads. -/
structure SameAddr (family : BitVec 8) (a a' : SockaddrStorage) : Prop where
  ssFamily : a.ssFamily = a'.ssFamily
  ofFamily : a.ssFamily = 0 ∨ a.ssFamily = family
  v4 : ∀ i < 4, a.data i = a'.data i
  v6 : family = afInet6 → ∀ i < 16, a.data i = a'.data i

namespace SameAddr

variable {b b' : Bytes} {family : BitVec 8} {a a' : SockaddrStorage}

theorem init (family : BitVec 8) : SameAddr family {} {} := ⟨rfl, .inl rfl, by simp, by simp⟩

theorem v4_eq (h : SameAddr family a a') : a.v4 = a'.v4 := Bytes.u32_congr _ h.v4 (by omega)

theorem v6Word_eq (h : SameAddr family a a') (hf : family = afInet6) {i : Nat} (hi : i < 4) :
    a.v6Word i = a'.v6Word i := by
  simp only [SockaddrStorage.v6Word]
  rw [Bytes.u32_congr _ (h.v6 hf) (by omega)]

theorem v6_eq (h : SameAddr family a a') (hf : family = afInet6) : a.v6 = a'.v6 := by
  simp only [SockaddrStorage.v6]
  rw [h.v6Word_eq hf (by omega), h.v6Word_eq hf (by omega), h.v6Word_eq hf (by omega),
    h.v6Word_eq hf (by omega)]

theorem v6Mask_eq (h : SameAddr family a a') (hf : family = afInet6) : a.v6Mask = a'.v6Mask := by
  funext i
  simp only [SockaddrStorage.v6Mask]
  rw [h.v6Word_eq hf i.isLt]

/-- An attribute with the bytes for its family is copied to the same address. -/
theorem copy {L p n : Nat} (hb : ∀ i < L, b i = b' i) (hp : p + n ≤ L) (hn : AddrFits family n)
    (a a' : SockaddrStorage) : SameAddr family (copyAddr b family p a) (copyAddr b' family p a') := by
  obtain ⟨h4, h16⟩ := hn
  refine ⟨rfl, .inr rfl, fun i hi => ?_, fun hf i hi => ?_⟩
  · simp only [copyAddr, if_pos (show i < 126 by omega)]
    exact hb _ (by omega)
  · have := h16 hf
    simp only [copyAddr, if_pos (show i < 126 by omega)]
    exact hb _ (by omega)

end SameAddr

structure SameAddrInfo (family : BitVec 8) (i i' : IpaNlAddrInfo) : Prop where
  metainfo : i.metainfo = i'.metainfo
  ofFamily : i.metainfo.ifaFamily = family
  prefixAddr : SameAddr family i.prefixAddr i'.prefixAddr

structure SameNeighInfo (family : BitVec 8) (i i' : IpaNlNeighInfo) : Prop where
  metainfo : i.metainfo = i'.metainfo
  ofFamily : i.metainfo.ndmFamily = family
  localAddr : SameAddr family i.localAddr i'.localAddr
  lladdr : ∀ j < 6, i.lladdrHwaddr j = i'.lladdrHwaddr j

structure SameRouteInfo (family : BitVec 8) (i i' : IpaNlRouteInfo) : Prop where
  metainfo : i.metainfo = i'.metainfo
  ofFamily : i.metainfo.rtmFamily = family
  paramMask : i.paramMask = i'.paramMask
  dstAddr : SameAddr family i.dstAddr i'.dstAddr
  gatewayAddr : SameAddr family i.gatewayAddr i'.gatewayAddr
  oifIndex : i.oifIndex = i'.oifIndex

section Take

variable {b b' : Bytes} {family : BitVec 8} {L p n : Nat} {type : BitVec 16}

theorem takeAddr_same {i i' : IpaNlAddrInfo} (hb : ∀ i < L, b i = b' i)
    (hfits : addrAttrFits family type n) (hp : p + n ≤ L) (h : SameAddrInfo family i i') :
    SameAddrInfo family (takeAddr b type p i) (takeAddr b' type p i') := by
  by_cases ht : type = ifaAddress
  · simp only [takeAddr, if_pos ht]
    refine ⟨h.metainfo, h.ofFamily, ?_⟩
    rw [← h.metainfo, h.ofFamily]
    exact .copy hb hp (hfits ht) _ _
  · simpa only [takeAddr, if_neg ht] using h

theorem takeNeigh_same {i i' : IpaNlNeighInfo} (hb : ∀ i < L, b i = b' i)
    (hfits : neighAttrFits family type n) (hp : p + n ≤ L) (h : SameNeighInfo family i i') :
    SameNeighInfo family (takeNeigh b type p i) (takeNeigh b' type p i') := by
  by_cases hd : type = ndaDst
  · simp only [takeNeigh, if_pos hd]
    refine ⟨h.metainfo, h.ofFamily, ?_, h.lladdr⟩
    rw [← h.metainfo, h.ofFamily]
    exact .copy hb hp (hfits.1 hd) _ _
  · by_cases hl : type = ndaLladdr
    · simp only [takeNeigh, if_neg hd, if_pos hl]
      refine ⟨h.metainfo, h.ofFamily, h.localAddr, fun j hj => ?_⟩
      have := hfits.2 hl
      simp only [if_pos (show j < 14 by omega)]
      exact hb _ (by omega)
    · simpa only [takeNeigh, if_neg hd, if_neg hl] using h

theorem takeRoute_same {i i' : IpaNlRouteInfo} (hb : ∀ i < L, b i = b' i)
    (hfits : routeAttrFits family type n) (hp : p + n ≤ L) (h : SameRouteInfo family i i') :
    SameRouteInfo family (takeRoute b type p i) (takeRoute b' type p i') := by
  have hm := h.paramMask
  have hfam : i'.metainfo.rtmFamily = family := by rw [← h.metainfo, h.ofFamily]
  simp only [takeRoute, h.ofFamily, hfam]
  split_ifs with h1 h2 h3 h4 h5 h6
  · exact ⟨h.metainfo, h.ofFamily, by rw [hm], .copy hb hp (hfits.1 (.inl h1)) _ _, h.gatewayAddr, h.oifIndex⟩
  · exact ⟨h.metainfo, h.ofFamily, by rw [hm], h.dstAddr, h.gatewayAddr, h.oifIndex⟩
  · exact ⟨h.metainfo, h.ofFamily, by rw [hm], h.dstAddr, .copy hb hp (hfits.1 (.inr h3)) _ _, h.oifIndex⟩
  · exact ⟨h.metainfo, h.ofFamily, by rw [hm], h.dstAddr, h.gatewayAddr, h.oifIndex⟩
  · have := hfits.2 h5
    exact ⟨h.metainfo, h.ofFamily, by rw [hm], h.dstAddr, h.gatewayAddr, Bytes.u32_congr _ hb (by omega)⟩
  · exact ⟨h.metainfo, h.ofFamily, by rw [hm], h.dstAddr, h.gatewayAddr, h.oifIndex⟩
  · exact h

end Take

section Events

variable (ifName : BitVec 32 → Bool) {family : BitVec 8}

theorem newAddr_same {i i' : IpaNlAddrInfo} (h : SameAddrInfo family i i') : newAddr i = newAddr i' := by
  simp only [newAddr, ← h.metainfo, ← h.prefixAddr.ssFamily, ← h.prefixAddr.v4_eq]
  by_cases h6 : i.prefixAddr.ssFamily = afInet6
  · have hf : family = afInet6 := by
      cases h.prefixAddr.ofFamily with
      | inl h0 => exact absurd (h0.symm.trans h6) (by decide)
      | inr h1 => rw [← h1, h6]
    simp only [if_pos h6, h.prefixAddr.v6_eq hf]
  · simp only [if_neg h6]

theorem neighData_same {i i' : IpaNlNeighInfo} (h : SameNeighInfo family i i') : neighData i = neighData i' := by
  simp only [neighData, ← h.metainfo, ← h.localAddr.ssFamily, ← h.localAddr.v4_eq]
  simp only [← h.lladdr _ (show 0 < 6 by omega), ← h.lladdr _ (show 1 < 6 by omega),
    ← h.lladdr _ (show 2 < 6 by omega), ← h.lladdr _ (show 3 < 6 by omega),
    ← h.lladdr _ (show 4 < 6 by omega), ← h.lladdr _ (show 5 < 6 by omega)]
  by_cases h6 : i.localAddr.ssFamily = afInet6
  · have hf : family = afInet6 := by
      cases h.localAddr.ofFamily with
      | inl h0 => exact absurd (h0.symm.trans h6) (by decide)
      | inr h1 => rw [← h1, h6]
    simp only [if_pos h6, h.localAddr.v6_eq hf]
  · simp only [if_neg h6]

theorem newNeigh_same {i i' : IpaNlNeighInfo} (h : SameNeighInfo family i i') :
    newNeigh ifName i = newNeigh ifName i' := by
  simp only [newNeigh, neighData_same h, h.metainfo]

theorem delNeigh_same {i i' : IpaNlNeighInfo} (h : SameNeighInfo family i i') :
    delNeigh ifName i = delNeigh ifName i' := by
  simp only [delNeigh, neighData_same h, h.metainfo]

theorem v6Default_same {i i' : IpaNlRouteInfo} (h : SameRouteInfo family i i') (hf : family = afInet6) :
    v6Default i = v6Default i' := by
  simp only [v6Default, h.oifIndex, h.dstAddr.v6_eq hf, h.dstAddr.v6Mask_eq hf, h.gatewayAddr.v6_eq hf]

theorem newRoute_same {i i' : IpaNlRouteInfo} (h : SameRouteInfo family i i') (l : NlLocals) :
    newRoute ifName i l = newRoute ifName i' l := by
  have hmain : newMainRoute ifName i l = newMainRoute ifName i' l := by
    simp only [newMainRoute, ← h.metainfo, ← h.paramMask, ← h.oifIndex, ← h.dstAddr.v4_eq,
      ← h.gatewayAddr.v4_eq]
    by_cases h6 : i.metainfo.rtmFamily = afInet6
    · simp only [if_pos h6, v6Default_same h (h.ofFamily ▸ h6)]
    · simp only [if_neg h6]
  simp only [newRoute, hmain, ← h.metainfo]
  by_cases hk : i.metainfo.isKernelV6
  · have h6 : family = afInet6 := h.ofFamily ▸ hk.1
    simp only [if_pos hk, newKernelRoute, ← h.metainfo, ← h.paramMask, ← h.oifIndex,
      ← h.dstAddr.v6_eq h6, ← h.dstAddr.v6Mask_eq h6]
  · simp only [if_neg hk]

theorem delRoute_same {i i' : IpaNlRouteInfo} (h : SameRouteInfo family i i') (l : NlLocals) :
    delRoute ifName i l = delRoute ifName i' l := by
  have hmain : delMainRoute ifName i l = delMainRoute ifName i' l := by
    simp only [delMainRoute, ← h.metainfo, ← h.paramMask, ← h.oifIndex, ← h.dstAddr.v4_eq]
    by_cases h6 : i.metainfo.rtmFamily = afInet6
    · simp only [if_pos h6, v6Default_same h (h.ofFamily ▸ h6)]
    · simp only [if_neg h6]
  simp only [delRoute, hmain, ← h.metainfo]
  by_cases hk : i.metainfo.isKernelV6
  · have h6 : family = afInet6 := h.ofFamily ▸ hk.1
    simp only [if_pos hk, delKernelRoute, ← h.metainfo, ← h.paramMask, ← h.oifIndex, ← h.dstAddr.v6_eq h6]
  · simp only [if_neg hk]

end Events

end HiaeCommon
