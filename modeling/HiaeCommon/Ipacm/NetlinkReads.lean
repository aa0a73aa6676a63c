/-
What `ipa_nl_decode_nlmsg` and the decoders it calls read of the buffer, and
when that stays inside the message being decoded.

The decoders count on from the bytes received, less one `nlmsghdr`, at the
first attribute of the first message: the count goes on over the end of the
message, and for as many bytes as the family header has beyond the bytes
received. Only an end mark inside the message, a length that is no attribute's,
stops them before. Each copy has the size of its field.
-/
import HiaeCommon.Ipacm.NetlinkDecode
import HiaeCommon.Lib.Footprint

namespace HiaeCommon

open Lib (Access Span Agree)

/-! ## The reads of each decoder -/

/-- The attributes of `ipa_nl_decode_rtm_addr` that are copied, with the size of the field. -/
def addrField (type : BitVec 16) : Option Nat := if type = ifaAddress then some 126 else none

/-- The same of `ipa_nl_decode_rtm_neigh`: `__data` and `sa_data`. -/
def neighField (type : BitVec 16) : Option Nat :=
  if type = ndaDst then some 126 else if type = ndaLladdr then some 14 else none

/-- The same of `ipa_nl_decode_rtm_route`. -/
def routeField (type : BitVec 16) : Option Nat :=
  if type = rtaDst then some 126
  else if type = rtaSrc then some 126
  else if type = rtaGateway then some 126
  else if type = rtaIif then some 4
  else if type = rtaOif then some 4
  else if type = rtaPriority then some 4
  else none

/-- `memcpy(&field, RTA_DATA(rtah), sizeof(field))`. -/
def copyField (b : Bytes) (rtah : Nat) : Option Nat → List Access
  | none => []
  | some room => [.copy ⟨rtah + rtattrSize, room⟩ ⟨rtah + rtattrSize, rtaLen b rtah - rtattrSize⟩ room]

/-- `RTA_OK` of an attribute that is not one: its length is looked at when there is room for a header. -/
def rtaRefused (rtah : Nat) : Nat → List Access
  | 0 | 1 | 2 | 3 => []
  | _ => [.read ⟨rtah, 2⟩]

/-- What `attrLoop` reads. -/
def attrReads (b : Bytes) (field : BitVec 16 → Option Nat) : Nat → Nat → Nat → Option (List Access)
  | 0, _, _ => none
  | fuel + 1, rtah, buflen =>
    if rtaOk b rtah buflen then
      (attrReads b field fuel (rtah + nlmsgAlign (rtaLen b rtah)) (lenSub buflen (nlmsgAlign (rtaLen b rtah)))).map
        fun rest => .read ⟨rtah, rtattrSize⟩ :: (copyField b rtah (field (rtaType b rtah)) ++ rest)
    else some (rtaRefused rtah buflen)

/-- A family header of `famHdr` bytes, and the attributes behind it. -/
def famReads (b : Bytes) (famHdr : Nat) (field : BitVec 16 → Option Nat) (fuel buflen : Nat) : Option (List Access) :=
  (attrReads b field fuel (nlmsgData + famHdr) (lenSub buflen nlmsghdrSize)).map (.read ⟨nlmsgData, famHdr⟩ :: ·)

/-- `ipa_nl_decode_rtm_link`; an `ifinfomsg` takes sixteen bytes. -/
def ipaNlDecodeRtmLinkReads : Option (List Access) := some [.read ⟨nlmsgData, 16⟩]

/-- `ipa_nl_decode_rtm_addr`. -/
def ipaNlDecodeRtmAddrReads (b : Bytes) (fuel buflen : Nat) : Option (List Access) :=
  famReads b 8 addrField fuel buflen

/-- `ipa_nl_decode_rtm_neigh`. -/
def ipaNlDecodeRtmNeighReads (b : Bytes) (fuel buflen : Nat) : Option (List Access) :=
  famReads b 12 neighField fuel buflen

/-- `ipa_nl_decode_rtm_route`. -/
def ipaNlDecodeRtmRouteReads (b : Bytes) (fuel buflen : Nat) : Option (List Access) :=
  famReads b 12 routeField fuel buflen

/-- The decoder of the `case`. -/
def decodeReads (b : Bytes) (type : BitVec 16) (fuel buflen : Nat) : Option (List Access) :=
  if type = rtmNewlink then ipaNlDecodeRtmLinkReads
  else if type = rtmDellink then ipaNlDecodeRtmLinkReads
  else if type = rtmNewaddr then ipaNlDecodeRtmAddrReads b fuel buflen
  else if type = rtmNewroute then ipaNlDecodeRtmRouteReads b fuel buflen
  else if type = rtmDelroute then ipaNlDecodeRtmRouteReads b fuel buflen
  else if type = rtmNewneigh then ipaNlDecodeRtmNeighReads b fuel buflen
  else if type = rtmDelneigh then ipaNlDecodeRtmNeighReads b fuel buflen
  else some []

/-- `NLMSG_OK`: the length is looked at when there is room for a header. -/
def nlmsgOkReads (nlh buflen : Nat) : List Access :=
  if nlmsghdrSize ≤ buflen then [.read ⟨nlh, 4⟩] else []

/-- A round of the loop: the `switch`, its decoder, and `NLMSG_NEXT`. -/
def roundReads (b : Bytes) (nlh fuel buflen : Nat) : Option (List Access) :=
  (decodeReads b (nlmsgType b nlh) fuel buflen).map fun reads =>
    .read ⟨nlh + 4, 2⟩ :: (reads ++ [.read ⟨nlh, 4⟩])

/-! ## The reads are all that is decoded from -/

section Adequate

variable {b b' : Bytes} {p : Nat}

theorem Lib.Agree.u16_eq {s : Span} {a : Access} (h : Agree b b' [a]) (hs : a.source = s) {k : Nat}
    (hk : k + 2 ≤ s.size) : b.u16 (s.start + k) = b'.u16 (s.start + k) := by
  simp only [Bytes.u16, Nat.add_assoc]
  rw [h.byte hs (show k < s.size by omega), h.byte hs (show k + 1 < s.size by omega)]

theorem Lib.Agree.u32_eq {s : Span} {a : Access} (h : Agree b b' [a]) (hs : a.source = s) {k : Nat}
    (hk : k + 4 ≤ s.size) : b.u32 (s.start + k) = b'.u32 (s.start + k) := by
  simp only [Bytes.u32, Nat.add_assoc]
  rw [h.byte hs (show k < s.size by omega), h.byte hs (show k + 1 < s.size by omega),
    h.byte hs (show k + 2 < s.size by omega), h.byte hs (show k + 3 < s.size by omega)]

theorem copyAddr_of_agree {rtah : Nat} (h : Agree b b' (copyField b rtah (some 126))) (family : BitVec 8)
    (a : SockaddrStorage) :
    copyAddr b family (rtah + rtattrSize) a = copyAddr b' family (rtah + rtattrSize) a := by
  simp only [copyAddr, SockaddrStorage.mk.injEq, true_and]
  funext i
  by_cases hi : i < 126
  · rw [if_pos hi, if_pos hi]
    exact h.byte rfl hi
  · rw [if_neg hi, if_neg hi]

theorem u32_of_agree {rtah : Nat} (h : Agree b b' (copyField b rtah (some 4))) :
    b.u32 (rtah + rtattrSize) = b'.u32 (rtah + rtattrSize) :=
  h.u32_eq (s := ⟨rtah + rtattrSize, 4⟩) (k := 0) rfl (Nat.le_refl 4)

theorem rtaLen_of_agree {rtah n : Nat} (h : Agree b b' [.read ⟨rtah, n⟩]) (hn : 2 ≤ n) :
    rtaLen b rtah = rtaLen b' rtah :=
  congrArg BitVec.toNat (h.u16_eq (s := ⟨rtah, n⟩) (k := 0) rfl hn)

/-- What a switch takes of an attribute is what the copy of its type reads. -/
def TakesOnly {α : Type} (take : Bytes → BitVec 16 → Nat → α → α) (field : BitVec 16 → Option Nat) : Prop :=
  ∀ b b' rtah type a, Agree b b' (copyField b rtah (field type)) →
    take b type (rtah + rtattrSize) a = take b' type (rtah + rtattrSize) a

theorem takeAddr_takesOnly : TakesOnly takeAddr addrField := by
  intro b b' rtah type info h
  simp only [takeAddr]
  by_cases ht : type = ifaAddress
  · simp only [addrField, if_pos ht] at h
    rw [if_pos ht, if_pos ht, copyAddr_of_agree h]
  · rw [if_neg ht, if_neg ht]

theorem takeNeigh_takesOnly : TakesOnly takeNeigh neighField := by
  intro b b' rtah type info h
  simp only [takeNeigh]
  by_cases hd : type = ndaDst
  · simp only [neighField, if_pos hd] at h
    rw [if_pos hd, if_pos hd, copyAddr_of_agree h]
  · by_cases hl : type = ndaLladdr
    · simp only [neighField, if_neg hd, if_pos hl] at h
      rw [if_neg hd, if_neg hd, if_pos hl, if_pos hl]
      congr 1
      funext i
      by_cases hi : i < 14
      · rw [if_pos hi, if_pos hi]
        exact h.byte rfl hi
      · rw [if_neg hi, if_neg hi]
    · rw [if_neg hd, if_neg hd, if_neg hl, if_neg hl]

theorem takeRoute_takesOnly : TakesOnly takeRoute routeField := by
  intro b b' rtah type info h
  simp only [takeRoute]
  simp only [routeField] at h
  split_ifs at h ⊢
  · rw [copyAddr_of_agree h]
  · rw [copyAddr_of_agree h]
  · rw [copyAddr_of_agree h]
  · rw [u32_of_agree h]
  · rw [u32_of_agree h]
  · rw [u32_of_agree h]
  · rfl

theorem rtaRefused_of_le {rtah n : Nat} (h : 4 ≤ n) : rtaRefused rtah n = [.read ⟨rtah, 2⟩] := by
  obtain ⟨n, rfl⟩ : ∃ k, n = k + 4 := ⟨n - 4, by omega⟩
  rfl

theorem rtaRefused_of_lt {rtah n : Nat} (h : n < 4) : rtaRefused rtah n = [] := by
  match n, h with
  | 0, _ | 1, _ | 2, _ | 3, _ => rfl

variable {α : Type} {take : Bytes → BitVec 16 → Nat → α → α} {field : BitVec 16 → Option Nat}

theorem attrLoop_of_agree (htake : TakesOnly take field) {fuel : Nat} :
    ∀ {rtah n : Nat} {accs : List Access} (a : α), attrReads b field fuel rtah n = some accs →
      Agree b b' accs →
      attrLoop b (take b) fuel rtah n a = attrLoop b' (take b') fuel rtah n a := by
  induction fuel with
  | zero => intro rtah n accs a h; simp [attrReads] at h
  | succ fuel ih =>
    intro rtah n accs a h hb
    rw [attrReads] at h
    by_cases hok : rtaOk b rtah n
    · rw [if_pos hok, Option.map_eq_some_iff] at h
      obtain ⟨rest, hrest, rfl⟩ := h
      obtain ⟨hhdr, hb⟩ := Agree.cons_iff.1 hb
      obtain ⟨hcopy, hb⟩ := Agree.append_iff.1 hb
      have hlen := rtaLen_of_agree hhdr (by simp [rtattrSize])
      have htype : rtaType b rtah = rtaType b' rtah :=
        hhdr.u16_eq (s := ⟨rtah, rtattrSize⟩) (k := 2) rfl (by simp [rtattrSize])
      have hok' : rtaOk b' rtah n := by simpa only [rtaOk, hlen] using hok
      rw [attrLoop, attrLoop, if_pos hok, if_pos hok', htake b b' rtah _ a hcopy, ih _ hrest hb, hlen, htype]
    · rw [if_neg hok, Option.some_inj] at h
      subst h
      have hok' : ¬rtaOk b' rtah n := by
        by_cases hn : n < 4
        · simp only [rtaOk, rtattrSize]
          omega
        · rw [rtaRefused_of_le (by omega)] at hb
          have hlen := rtaLen_of_agree hb (Nat.le_refl 2)
          simpa only [rtaOk, hlen] using hok
      rw [attrLoop, attrLoop, if_neg hok, if_neg hok']

/-- The walk ends in the model of what it decodes exactly when it does in the model of what it reads. -/
theorem attrLoop_isSome (field : BitVec 16 → Option Nat) {take : BitVec 16 → Nat → α → α} {fuel : Nat} :
    ∀ {rtah n : Nat} (a : α), (attrLoop b take fuel rtah n a).isSome = (attrReads b field fuel rtah n).isSome := by
  induction fuel with
  | zero => intro rtah n a; rfl
  | succ fuel ih =>
    intro rtah n a
    rw [attrLoop, attrReads]
    by_cases hok : rtaOk b rtah n
    · rw [if_pos hok, if_pos hok, ih, Option.isSome_map]
    · rw [if_neg hok, if_neg hok]
      rfl

/-- A decoder that walks over attributes gives the same on buffers that agree where it reads. -/
theorem famReads_attrLoop (htake : TakesOnly take field) {famHdr fuel n : Nat} {accs : List Access}
    (h : famReads b famHdr field fuel n = some accs) (hb : Agree b b' accs) (a : α) :
    attrLoop b (take b) fuel (nlmsgData + famHdr) (lenSub n nlmsghdrSize) a =
      attrLoop b' (take b') fuel (nlmsgData + famHdr) (lenSub n nlmsghdrSize) a := by
  rw [famReads, Option.map_eq_some_iff] at h
  obtain ⟨rest, hrest, rfl⟩ := h
  exact attrLoop_of_agree htake a hrest (Agree.cons_iff.1 hb).2

/-- And the family header before them reads the same. -/
theorem famReads_header {famHdr fuel n : Nat} {accs : List Access}
    (h : famReads b famHdr field fuel n = some accs) (hb : Agree b b' accs) :
    Agree b b' [.read ⟨nlmsgData, famHdr⟩] := by
  rw [famReads, Option.map_eq_some_iff] at h
  obtain ⟨rest, -, rfl⟩ := h
  exact (Agree.cons_iff.1 hb).1

theorem ipaNlDecodeRtmLink_of_agree {accs : List Access} (h : ipaNlDecodeRtmLinkReads = some accs)
    (hb : Agree b b' accs) : ipaNlDecodeRtmLink b = ipaNlDecodeRtmLink b' := by
  obtain rfl := Option.some_inj.1 h
  simp only [ipaNlDecodeRtmLink]
  rw [hb.u32_eq (s := ⟨nlmsgData, 16⟩) (k := 4) rfl (by simp),
    hb.u32_eq (s := ⟨nlmsgData, 16⟩) (k := 8) rfl (by simp),
    hb.u32_eq (s := ⟨nlmsgData, 16⟩) (k := 12) rfl (by simp),
    show b nlmsgData = b' nlmsgData from hb.byte (s := ⟨nlmsgData, 16⟩) (k := 0) rfl (by simp)]

theorem ipaNlDecodeRtmAddr_of_agree {n : Nat} {accs : List Access}
    (h : ipaNlDecodeRtmAddrReads b (n + 1) n = some accs) (hb : Agree b b' accs) (info : IpaNlAddrInfo) :
    ipaNlDecodeRtmAddr b n info = ipaNlDecodeRtmAddr b' n info := by
  have hf := famReads_header h hb
  simp only [ipaNlDecodeRtmAddr]
  rw [hf.u32_eq (s := ⟨nlmsgData, 8⟩) (k := 4) rfl (by simp),
    show b nlmsgData = b' nlmsgData from hf.byte (s := ⟨nlmsgData, 8⟩) (k := 0) rfl (by simp)]
  exact famReads_attrLoop takeAddr_takesOnly h hb _

theorem ipaNlDecodeRtmNeigh_of_agree {n : Nat} {accs : List Access}
    (h : ipaNlDecodeRtmNeighReads b (n + 1) n = some accs) (hb : Agree b b' accs) (info : IpaNlNeighInfo) :
    ipaNlDecodeRtmNeigh b n info = ipaNlDecodeRtmNeigh b' n info := by
  have hf := famReads_header h hb
  simp only [ipaNlDecodeRtmNeigh]
  rw [hf.u32_eq (s := ⟨nlmsgData, 12⟩) (k := 4) rfl (by simp),
    hf.u16_eq (s := ⟨nlmsgData, 12⟩) (k := 8) rfl (by simp),
    show b nlmsgData = b' nlmsgData from hf.byte (s := ⟨nlmsgData, 12⟩) (k := 0) rfl (by simp)]
  exact famReads_attrLoop takeNeigh_takesOnly h hb _

theorem ipaNlDecodeRtmRoute_of_agree {n : Nat} {accs : List Access}
    (h : ipaNlDecodeRtmRouteReads b (n + 1) n = some accs) (hb : Agree b b' accs) (info : IpaNlRouteInfo) :
    ipaNlDecodeRtmRoute b n info = ipaNlDecodeRtmRoute b' n info := by
  have hf := famReads_header h hb
  have hbyte : ∀ k < 12, b (nlmsgData + k) = b' (nlmsgData + k) := fun k hk =>
    hf.byte (s := ⟨nlmsgData, 12⟩) rfl hk
  simp only [ipaNlDecodeRtmRoute]
  rw [hbyte 1 (by omega), hbyte 4 (by omega), hbyte 5 (by omega), hbyte 6 (by omega), hbyte 7 (by omega),
    show b nlmsgData = b' nlmsgData from hbyte 0 (by omega)]
  exact famReads_attrLoop takeRoute_takesOnly h hb _

/-- What a message is decoded to depends on nothing but what is read. -/
theorem decodeCase_of_agree (ifName : BitVec 32 → Bool) {type : BitVec 16} {n : Nat} {accs : List Access}
    (h : decodeReads b type (n + 1) n = some accs) (hb : Agree b b' accs) (s : NlState) :
    decodeCase ifName b type n s = decodeCase ifName b' type n s := by
  rw [decodeCase, decodeCase]
  rw [decodeReads] at h
  split_ifs at h ⊢
  · rw [ipaNlDecodeRtmLink_of_agree h hb]
  · rw [ipaNlDecodeRtmLink_of_agree h hb]
  · rw [ipaNlDecodeRtmAddr_of_agree h hb]
  · rw [ipaNlDecodeRtmRoute_of_agree h hb]
  · rw [ipaNlDecodeRtmRoute_of_agree h hb]
  · rw [ipaNlDecodeRtmNeigh_of_agree h hb]
  · rw [ipaNlDecodeRtmNeigh_of_agree h hb]
  · rfl

end Adequate

end HiaeCommon
