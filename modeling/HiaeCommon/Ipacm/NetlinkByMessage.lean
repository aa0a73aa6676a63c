/-
When the events posted for a buffer are those of its messages, each decoded
alone: when no message behind the first is of a type that is decoded. Of
every choice of types that has one there, some buffer fails.
-/
import HiaeCommon.Ipacm.NetlinkDecode

namespace HiaeCommon

namespace NlMessage

/-- The size of the family header. -/
def famHdr (m : NlMessage) : Nat := if m.type = rtmNewaddr then 8 else 12

/-- The types decoded with attributes. -/
def HasAttrs (m : NlMessage) : Prop :=
  m.type ∈ [rtmNewaddr, rtmNewroute, rtmDelroute, rtmNewneigh, rtmDelneigh]

/-- What the attributes of the type need for the events. -/
def attrFits (m : NlMessage) : BitVec 16 → Nat → Prop :=
  let family := m.buffer nlmsgData
  if m.type = rtmNewaddr then addrAttrFits family
  else if m.type = rtmNewneigh ∨ m.type = rtmDelneigh then neighAttrFits family
  else routeAttrFits family

/-- The message has all that its decoding reads of it: its family header, and whole attributes. -/
structure SelfContained (m : NlMessage) : Prop where
  link : m.type = rtmNewlink ∨ m.type = rtmDellink → 32 ≤ m.bytes.length
  attrs : m.HasAttrs → nlmsgData + m.famHdr ≤ m.bytes.length ∧
    AttrsWithin m.buffer m.bytes.length m.attrFits (nlmsgData + m.famHdr)

/-- What stands behind the bytes received does not read as one more attribute. -/
def Quiet (m : NlMessage) (behind : Bytes) : Prop := m.HasAttrs → ¬rtaOk behind 0 m.famHdr

end NlMessage

open NlMessage (concat concat_cons)

/-- `b` was received as `m`, then `ms`, and nothing behind them reads as an attribute. -/
structure Receives (b : Bytes) (m : NlMessage) (ms : List NlMessage) : Prop where
  holds : b.Holds 0 (m.bytes ++ concat ms)
  len : m.bytes.length + (concat ms).length ≤ ipaNlMsgMaxLen
  quiet : m.HasAttrs → ¬rtaOk b (m.bytes.length + (concat ms).length) m.famHdr

theorem receives_bufferOf {m : NlMessage} {ms : List NlMessage} {behind : Bytes}
    (hlen : (m.bytes ++ concat ms).length ≤ ipaNlMsgMaxLen) (hq : m.Quiet behind) :
    Receives (bufferOf (m.bytes ++ concat ms) behind) m ms := by
  refine ⟨Bytes.bufferOf_holds _ _, by simpa using hlen, fun ha => ?_⟩
  have h0 := Bytes.bufferOf_behind (m.bytes ++ concat ms) behind 0
  have h1 := Bytes.bufferOf_behind (m.bytes ++ concat ms) behind 1
  simp only [List.length_append, Nat.add_zero] at h0 h1
  have := hq ha
  simpa only [rtaOk, rtaLen, Bytes.u16, h0, h1, Nat.zero_add] using this

namespace Receives

variable {b b' : Bytes} {m : NlMessage} {ms ms' : List NlMessage}

theorem agree (h : Receives b m ms) (h' : Receives b' m ms') : ∀ i < m.bytes.length, b i = b' i := by
  intro i hi
  have e := h.holds.left i hi
  have e' := h'.holds.left i hi
  simp only [Nat.zero_add] at e e'
  rw [e, e']

theorem agree_buffer (h : Receives b m ms) : ∀ i < m.bytes.length, m.buffer i = b i := by
  intro i hi
  have e := h.holds.left.byte hi
  simp only [Nat.zero_add] at e
  exact e.symm

/-- Behind `m` the walk over its attributes takes nothing. -/
theorem tail (h : Receives b m ms) (ha : m.HasAttrs) {α : Type} {take : BitVec 16 → Nat → α → α}
    (h0 : ∀ p a, take 0 p a = a) (fuel : Nat) (a : α) (hf : ms.length < fuel) :
    attrLoop b take fuel m.bytes.length ((concat ms).length + m.famHdr) a = some a := by
  have hlen := h.len
  simp only [ipaNlMsgMaxLen] at hlen
  have hhdr : m.famHdr ≤ 12 := by unfold NlMessage.famHdr; split <;> omega
  have hold := h.holds.right
  rw [Nat.zero_add] at hold
  exact attrLoop_behind h0 ms a hold (by omega) (by omega) (h.quiet ha) hf

/-- The attributes of a message are decoded alike, whatever follows it. -/
theorem attrLoop_same (h : Receives b m ms) (h' : Receives b' m ms') (hs : m.SelfContained)
    (ha : m.HasAttrs) {α : Type} (take take' : BitVec 16 → Nat → α → α) (R : α → α → Prop)
    (h0 : ∀ p a, take 0 p a = a) (h0' : ∀ p a, take' 0 p a = a)
    (htake : ∀ t q n a a', m.attrFits t n → q + n ≤ m.bytes.length → R a a' → R (take t q a) (take' t q a'))
    (a a' : α) : R a a' →
    ∃ r r',
      attrLoop b take (m.bytes.length + (concat ms).length + 1) (nlmsgData + m.famHdr)
        (lenSub (m.bytes.length + (concat ms).length) nlmsghdrSize) a = some r ∧
      attrLoop b' take' (m.bytes.length + (concat ms').length + 1) (nlmsgData + m.famHdr)
        (lenSub (m.bytes.length + (concat ms').length) nlmsghdrSize) a' = some r' ∧ R r r' := by
  intro hR
  obtain ⟨hle, hw⟩ := hs.attrs ha
  have hlen := h.len
  have hlen' := h'.len
  have hk := NlMessage.four_le_length ms
  have hk' := NlMessage.four_le_length ms'
  have hm := m.aligned
  have hhdr : m.famHdr = 8 ∨ m.famHdr = 12 := by unfold NlMessage.famHdr; split <;> simp
  simp only [ipaNlMsgMaxLen, nlmsgData, nlmsghdrSize] at hlen hlen' hle hw ⊢
  rw [lenSub_of_le (by omega) (by omega), lenSub_of_le (by omega) (by omega)]
  exact attrLoop_related R (h.agree h') hm (by omega) (by omega) htake
    (h.tail ha h0) (h'.tail ha h0') (hw.congr h.agree_buffer) (by omega) (by omega) (by omega) (by omega)
    (by omega) hR

theorem addr_same (h : Receives b m ms) (h' : Receives b' m ms') (hs : m.SelfContained)
    (ht : m.type = rtmNewaddr) :
    ∃ r r', ipaNlDecodeRtmAddr b (m.bytes.length + (concat ms).length) {} = some r ∧
      ipaNlDecodeRtmAddr b' (m.bytes.length + (concat ms').length) {} = some r' ∧
      SameAddrInfo (m.buffer nlmsgData) r r' := by
  have ha : m.HasAttrs := by simp [NlMessage.HasAttrs, ht]
  have hhdr : m.famHdr = 8 := by simp [NlMessage.famHdr, ht]
  have hfits : m.attrFits = addrAttrFits (m.buffer nlmsgData) := by simp [NlMessage.attrFits, ht]
  have hb := h.agree h'
  obtain ⟨hle, -⟩ := hs.attrs ha
  have hrel := attrLoop_same h h' hs ha (takeAddr b) (takeAddr b') (SameAddrInfo (m.buffer nlmsgData))
    (fun _ _ => rfl) (fun _ _ => rfl) (fun t q n a a' hf hq hR => takeAddr_same hb (hfits ▸ hf) hq hR)
  rw [hhdr] at hle hrel
  simp only [nlmsgData, nlmsghdrSize] at hle
  refine hrel _ _ ⟨?_, ?_, .init _⟩
  · simp only [nlmsgData, nlmsghdrSize, hb 16 (by omega), Bytes.u32_congr 20 hb (by omega)]
  · exact (h.agree_buffer _ (by simp only [nlmsgData, nlmsghdrSize]; omega)).symm

theorem neigh_same (h : Receives b m ms) (h' : Receives b' m ms') (hs : m.SelfContained)
    (ht : m.type = rtmNewneigh ∨ m.type = rtmDelneigh) :
    ∃ r r', ipaNlDecodeRtmNeigh b (m.bytes.length + (concat ms).length) {} = some r ∧
      ipaNlDecodeRtmNeigh b' (m.bytes.length + (concat ms').length) {} = some r' ∧
      SameNeighInfo (m.buffer nlmsgData) r r' := by
  have ha : m.HasAttrs := by cases ht with | _ ht => simp [NlMessage.HasAttrs, ht]
  have hne : m.type ≠ rtmNewaddr := by cases ht with | _ ht => rw [ht]; decide
  have hhdr : m.famHdr = 12 := if_neg hne
  have hfits : m.attrFits = neighAttrFits (m.buffer nlmsgData) := by
    simp only [NlMessage.attrFits, if_neg hne, if_pos ht]
  have hb := h.agree h'
  obtain ⟨hle, -⟩ := hs.attrs ha
  have hrel := attrLoop_same h h' hs ha (takeNeigh b) (takeNeigh b') (SameNeighInfo (m.buffer nlmsgData))
    (fun _ _ => rfl) (fun _ _ => rfl) (fun t q n a a' hf hq hR => takeNeigh_same hb (hfits ▸ hf) hq hR)
  rw [hhdr] at hle hrel
  simp only [nlmsgData, nlmsghdrSize] at hle
  refine hrel _ _ ⟨?_, ?_, .init _, fun _ _ => rfl⟩
  · simp only [nlmsgData, nlmsghdrSize, hb 16 (by omega), Bytes.u32_congr 20 hb (by omega),
      Bytes.u16_congr 24 hb (by omega)]
  · exact (h.agree_buffer _ (by simp only [nlmsgData, nlmsghdrSize]; omega)).symm

theorem route_same (h : Receives b m ms) (h' : Receives b' m ms') (hs : m.SelfContained)
    (ht : m.type = rtmNewroute ∨ m.type = rtmDelroute) :
    ∃ r r', ipaNlDecodeRtmRoute b (m.bytes.length + (concat ms).length) {} = some r ∧
      ipaNlDecodeRtmRoute b' (m.bytes.length + (concat ms').length) {} = some r' ∧
      SameRouteInfo (m.buffer nlmsgData) r r' := by
  have ha : m.HasAttrs := by cases ht with | _ ht => simp [NlMessage.HasAttrs, ht]
  have hne : m.type ≠ rtmNewaddr := by cases ht with | _ ht => rw [ht]; decide
  have hnn : ¬(m.type = rtmNewneigh ∨ m.type = rtmDelneigh) := by cases ht with | _ ht => rw [ht]; decide
  have hhdr : m.famHdr = 12 := if_neg hne
  have hfits : m.attrFits = routeAttrFits (m.buffer nlmsgData) := by
    simp only [NlMessage.attrFits, if_neg hne, if_neg hnn]
  have hb := h.agree h'
  obtain ⟨hle, -⟩ := hs.attrs ha
  have hrel := attrLoop_same h h' hs ha (takeRoute b) (takeRoute b') (SameRouteInfo (m.buffer nlmsgData))
    (fun _ _ => rfl) (fun _ _ => rfl) (fun t q n a a' hf hq hR => takeRoute_same hb (hfits ▸ hf) hq hR)
  rw [hhdr] at hle hrel
  simp only [nlmsgData, nlmsghdrSize] at hle
  refine hrel _ _ ⟨?_, ?_, rfl, .init _, .init _, rfl⟩
  · simp only [nlmsgData, nlmsghdrSize, hb 16 (by omega), hb (16 + 1) (by omega), hb (16 + 4) (by omega),
      hb (16 + 5) (by omega), hb (16 + 6) (by omega), hb (16 + 7) (by omega)]
  · exact (h.agree_buffer _ (by simp only [nlmsgData, nlmsghdrSize]; omega)).symm

theorem link_same (h : Receives b m ms) (h' : Receives b' m ms') (hs : m.SelfContained)
    (ht : m.type = rtmNewlink ∨ m.type = rtmDellink) : ipaNlDecodeRtmLink b = ipaNlDecodeRtmLink b' := by
  have hle := hs.link ht
  have hb := h.agree h'
  simp only [ipaNlDecodeRtmLink, nlmsgData, nlmsghdrSize, hb 16 (by omega), Bytes.u32_congr 20 hb (by omega),
    Bytes.u32_congr 24 hb (by omega), Bytes.u32_congr 28 hb (by omega)]

/-- The case of the first message does the same whatever follows it. -/
theorem decodeCase_same (h : Receives b m ms) (h' : Receives b' m ms') (hs : m.SelfContained)
    (ifName : BitVec 32 → Bool) :
    ∃ c s s', decodeCase ifName b m.type (m.bytes.length + (concat ms).length) {} = some (c, s) ∧
      decodeCase ifName b' m.type (m.bytes.length + (concat ms').length) {} = some (c, s') := by
  simp only [decodeCase]
  split_ifs with h1 h2 h3 h4 h5 h6 h7
  · rw [h.link_same h' hs (.inl h1)]
    exact ⟨_, _, _, rfl, rfl⟩
  · rw [h.link_same h' hs (.inr h2)]
    exact ⟨_, _, _, rfl, rfl⟩
  · obtain ⟨r, r', hr, hr', hsame⟩ := h.addr_same h' hs h3
    simp only [hr, hr', Option.bind_eq_bind, Option.bind_some, newAddr_same hsame]
    exact ⟨_, _, _, rfl, rfl⟩
  · obtain ⟨r, r', hr, hr', hsame⟩ := h.route_same h' hs (.inl h4)
    simp only [hr, hr', Option.bind_eq_bind, Option.bind_some, newRoute_same ifName hsame]
    exact ⟨_, _, _, rfl, rfl⟩
  · obtain ⟨r, r', hr, hr', hsame⟩ := h.route_same h' hs (.inr h5)
    simp only [hr, hr', Option.bind_eq_bind, Option.bind_some, delRoute_same ifName hsame]
    exact ⟨_, _, _, rfl, rfl⟩
  · obtain ⟨r, r', hr, hr', hsame⟩ := h.neigh_same h' hs (.inl h6)
    simp only [hr, hr', Option.bind_eq_bind, Option.bind_some, newNeigh_same ifName hsame]
    exact ⟨_, _, _, rfl, rfl⟩
  · obtain ⟨r, r', hr, hr', hsame⟩ := h.neigh_same h' hs (.inr h7)
    simp only [hr, hr', Option.bind_eq_bind, Option.bind_some, delNeigh_same ifName hsame]
    exact ⟨_, _, _, rfl, rfl⟩
  · exact ⟨_, _, _, rfl, rfl⟩

end Receives

/-! ## The loop over the messages -/

section Loop

variable {ifName : BitVec 32 → Bool} {b : Bytes} {p n fuel : Nat} {m : NlMessage}

theorem decodeCase_unhandled (h : ¬m.Handled) (s : NlState) : decodeCase ifName b m.type n s = some ({}, s) := by
  simp only [NlMessage.Handled, handledTypes, List.mem_cons, List.not_mem_nil, or_false, not_or] at h
  obtain ⟨h1, h2, h3, h4, h5, h6, h7⟩ := h
  simp only [decodeCase, if_neg h1, if_neg h2, if_neg h3, if_neg h4, if_neg h5, if_neg h6, if_neg h7]

/-- One pass over a message. -/
theorem nlmsgLoop_message (h : b.Holds p m.bytes) (hn : m.bytes.length ≤ n) (hlt : n < 2 ^ 32) (s : NlState) :
    nlmsgLoop ifName b (fuel + 1) p n s = do
      let (c, s) ← decodeCase ifName b m.type n s
      match c.ret with
      | some r => return (c.posted, r)
      | none =>
        let (evs, r) ← nlmsgLoop ifName b fuel (p + m.bytes.length) (n - m.bytes.length) s
        return (c.posted ++ evs, r) := by
  have hlen := NlMessage.nlmsgLen_at h
  have hh := m.hdr
  have hok : nlmsgOk b p n := ⟨by omega, by omega, by omega⟩
  have halign : nlmsgAlign m.bytes.length = m.bytes.length := nlmsgAlign_of_mod m.aligned (by omega)
  rw [nlmsgLoop, if_pos hok, NlMessage.nlmsgType_at h]
  simp only [hlen, halign, lenSub_of_le hn hlt]
  all_goals rfl

theorem nlmsgLoop_end (s : NlState) : nlmsgLoop ifName b (fuel + 1) p 0 s = some ([], .success) := by
  have : ¬nlmsgOk b p 0 := by simp [nlmsgOk, nlmsghdrSize]
  rw [nlmsgLoop, if_neg this]

/-- Messages of other types post nothing. -/
theorem nlmsgLoop_unhandled (ms : List NlMessage) :
    ∀ {fuel p : Nat} (s : NlState), b.Holds p (concat ms) → (concat ms).length < 2 ^ 32 → ms.length < fuel →
      (∀ m ∈ ms, ¬m.Handled) → nlmsgLoop ifName b fuel p (concat ms).length s = some ([], .success) := by
  induction ms with
  | nil =>
    intro fuel p s _ _ hf _
    obtain ⟨fuel, rfl⟩ : ∃ k, fuel = k + 1 := ⟨fuel - 1, by simp at hf; omega⟩
    exact nlmsgLoop_end s
  | cons m ms ih =>
    intro fuel p s hb hlt hf hun
    obtain ⟨fuel, rfl⟩ : ∃ k, fuel = k + 1 := ⟨fuel - 1, by simp at hf; omega⟩
    simp only [concat_cons, List.length_append] at hb hlt ⊢
    rw [nlmsgLoop_message hb.left (by omega) hlt, decodeCase_unhandled (hun m (by simp))]
    have : m.bytes.length + (concat ms).length - m.bytes.length = (concat ms).length := by omega
    have hrest := ih s hb.right (by omega) (by simpa using hf) (fun m' hm' => hun m' (by simp [hm']))
    simp only [this, Option.bind_eq_bind, Option.bind_some, hrest]
    rfl

end Loop

/-- The events posted for the bytes `l`, received with `behind` behind them. -/
def posted (ifName : BitVec 32 → Bool) (l : List (BitVec 8)) (behind : Bytes) : Option (List NlEvent) :=
  (ipaNlDecodeNlmsg ifName (bufferOf l behind) l.length).map Prod.fst

/-- A message, and what stands behind it when it is received alone. -/
abbrev Received := NlMessage × Bytes

/-- The bytes of the whole buffer. -/
def Received.whole (msgs : List Received) : List (BitVec 8) := concat (msgs.map Prod.fst)

/-- The events posted for the buffer are those posted for each message alone, in order. -/
def ByMessage (ifName : BitVec 32 → Bool) (behind : Bytes) (msgs : List Received) : Prop :=
  ∃ evs, msgs.mapM (fun m => posted ifName m.1.bytes m.2) = some evs ∧
    posted ifName (Received.whole msgs) behind = some evs.flatten

/-- The first message has all that its decoding reads, in the buffer and alone. -/
def FirstAlone (behind : Bytes) (msgs : List Received) : Prop :=
  ∀ m ∈ msgs.head?, m.1.SelfContained ∧ m.1.Quiet behind ∧ m.1.Quiet m.2

/-- No message behind the first is of a type that is decoded. -/
def OneHandled (msgs : List Received) : Prop := ∀ m ∈ msgs.tail, ¬m.1.Handled

section Posted

variable {ifName : BitVec 32 → Bool}

/-- What is posted for a buffer in which only the first message is of a type that is decoded. -/
theorem posted_first {b : Bytes} {m : NlMessage} {ms : List NlMessage} (h : Receives b m ms)
    (hun : ∀ m' ∈ ms, ¬m'.Handled) {c : Case} {s : NlState}
    (hc : decodeCase ifName b m.type (m.bytes.length + (concat ms).length) {} = some (c, s)) :
    (ipaNlDecodeNlmsg ifName b (m.bytes.length + (concat ms).length)).map Prod.fst = some c.posted := by
  have hlen := h.len
  have hk := NlMessage.four_le_length ms
  simp only [ipaNlMsgMaxLen] at hlen
  rw [ipaNlDecodeNlmsg, nlmsgLoop_message h.holds.left (by omega) (by omega), hc]
  have : m.bytes.length + (concat ms).length - m.bytes.length = (concat ms).length := by omega
  have hright := h.holds.right
  rw [Nat.zero_add] at hright
  have hrest : nlmsgLoop ifName b (m.bytes.length + (concat ms).length) m.bytes.length (concat ms).length s =
      some ([], .success) :=
    nlmsgLoop_unhandled ms s hright (by omega) (by have := m.hdr; simp only [nlmsghdrSize] at this; omega) hun
  cases hr : c.ret with
  | some r => simp [hr]
  | none => simp [hr, this, hrest]

theorem posted_unhandled {m : NlMessage} (hun : ¬m.Handled) (hlen : m.bytes.length ≤ ipaNlMsgMaxLen)
    (behind : Bytes) : posted ifName m.bytes behind = some [] := by
  have hattrs : ¬m.HasAttrs := fun h => hun (by
    simp only [NlMessage.HasAttrs, NlMessage.Handled, handledTypes, List.mem_cons, List.not_mem_nil, or_false] at h ⊢
    tauto)
  have hr : Receives (bufferOf (m.bytes ++ concat []) behind) m [] :=
    receives_bufferOf (by simpa using hlen) (fun h => absurd h hattrs)
  have hposted : (ipaNlDecodeNlmsg ifName (bufferOf (m.bytes ++ concat []) behind) (m.bytes.length + (concat []).length)).map
      Prod.fst = some ({} : Case).posted := posted_first hr (by simp) (decodeCase_unhandled hun {})
  simpa [posted] using hposted

theorem posted_allUnhandled (ifName : BitVec 32 → Bool) (msgs : List Received) (hun : ∀ m ∈ msgs, ¬m.1.Handled)
    (hlen : (Received.whole msgs).length ≤ ipaNlMsgMaxLen) :
    ∃ evs, msgs.mapM (fun m => posted ifName m.1.bytes m.2) = some evs ∧ evs.flatten = [] := by
  induction msgs with
  | nil => exact ⟨[], rfl, rfl⟩
  | cons m msgs ih =>
    simp only [Received.whole, List.map_cons, concat_cons, List.length_append] at hlen ih
    obtain ⟨evs, he, hflat⟩ := ih (fun m' hm' => hun m' (by simp [hm'])) (by omega)
    refine ⟨[] :: evs, ?_, by simpa using hflat⟩
    rw [List.mapM_cons, posted_unhandled (hun m (by simp)) (by omega), he]
    rfl

/-- A buffer in which only the first message is of a type that is decoded, and has all that its
decoding reads, is decoded message by message. -/
theorem byMessage_of_oneHandled {behind : Bytes} {msgs : List Received}
    (hlen : (Received.whole msgs).length ≤ ipaNlMsgMaxLen) (hone : OneHandled msgs)
    (hfirst : FirstAlone behind msgs) : ByMessage ifName behind msgs := by
  cases msgs with
  | nil =>
    refine ⟨[], rfl, ?_⟩
    simp [posted, Received.whole, ipaNlDecodeNlmsg, nlmsgLoop_end]
  | cons m msgs =>
    obtain ⟨hs, hq, hq'⟩ := hfirst m (by simp)
    simp only [Received.whole, List.map_cons, concat_cons] at hlen
    have hun : ∀ m' ∈ msgs.map Prod.fst, ¬m'.Handled := by
      intro m' hm'
      obtain ⟨r, hr, rfl⟩ := List.mem_map.1 hm'
      exact hone r hr
    have hr := receives_bufferOf hlen hq
    have hr' : Receives (bufferOf (m.1.bytes ++ concat []) m.2) m.1 [] :=
      receives_bufferOf (by simp only [List.length_append] at hlen; simp; omega) hq'
    obtain ⟨c, s, s', hc, hc'⟩ := hr.decodeCase_same hr' hs ifName
    have hw := posted_first hr hun hc
    have ha := posted_first hr' (by simp) hc'
    obtain ⟨evs, he, hflat⟩ := posted_allUnhandled ifName msgs hone
      (by simp only [Received.whole, List.length_append] at hlen ⊢; omega)
    refine ⟨c.posted :: evs, ?_, ?_⟩
    · have ha' : posted ifName m.1.bytes m.2 = some c.posted := by simpa [posted] using ha
      rw [List.mapM_cons, ha', he]
      rfl
    · rw [List.flatten_cons, hflat, List.append_nil]
      simpa [posted, Received.whole] using hw

end Posted

/-! ## Buffers that fail -/

/-- The bytes of a word, as the host stores it. -/
def le32 (x : BitVec 32) : List (BitVec 8) :=
  [x.extractLsb' 0 8, x.extractLsb' 8 8, x.extractLsb' 16 8, x.extractLsb' 24 8]

/-- `nlmsghdr` and a body. -/
def msgBytes (type : BitVec 16) (body : List (BitVec 8)) : List (BitVec 8) :=
  le32 (BitVec.ofNat 32 (16 + body.length)) ++
    [type.extractLsb' 0 8, type.extractLsb' 8 8, 0, 0, 0, 0, 0, 0, 0, 0, 0, 0] ++ body

theorem msgBytes_length (type : BitVec 16) (body : List (BitVec 8)) :
    (msgBytes type body).length = 16 + body.length := by
  simp [msgBytes, le32]
  omega

theorem le32_toNat (x : BitVec 32) :
    (x.extractLsb' 24 8 ++ x.extractLsb' 16 8 ++ x.extractLsb' 8 8 ++ x.extractLsb' 0 8).toNat = x.toNat := by
  have := x.isLt
  simp only [Bytes.toNat_append, BitVec.extractLsb'_toNat, Nat.shiftRight_eq_div_pow]
  omega

/-- A message of that type and body. -/
def nlMessage (type : BitVec 16) (body : List (BitVec 8)) (h4 : body.length % 4 = 0)
    (hlen : body.length < 2 ^ 16) : NlMessage where
  bytes := msgBytes type body
  hdr := by rw [msgBytes_length]; exact Nat.le_add_right _ _
  aligned := by rw [msgBytes_length]; omega
  len := by
    have h := le32_toNat (BitVec.ofNat 32 (16 + body.length))
    rw [BitVec.toNat_ofNat, Nat.mod_eq_of_lt (by omega)] at h
    rw [msgBytes_length]
    simpa [nlmsgLen, Bytes.u32, bufferOf, msgBytes, le32] using h

theorem nlMessage_type (type : BitVec 16) (body : List (BitVec 8)) (h4 hlen) :
    (nlMessage type body h4 hlen).type = type := by
  have h : (type.extractLsb' 8 8 ++ type.extractLsb' 0 8).toNat = type.toNat := by
    have := type.isLt
    simp only [Bytes.toNat_append, BitVec.extractLsb'_toNat, Nat.shiftRight_eq_div_pow]
    omega
  have := BitVec.eq_of_toNat_eq h
  simpa [NlMessage.type, NlMessage.buffer, nlMessage, nlmsgType, Bytes.u16, bufferOf, msgBytes, le32] using this

/-- A message with nothing in it: a header, and a family header of zeros for the first one. -/
def blank (type : BitVec 16) : NlMessage := nlMessage type [] rfl (by decide)

def blankFirst (type : BitVec 16) : NlMessage := nlMessage type (List.replicate 16 0) rfl (by decide)

/-- A body about the interface with index 2, for each type: as a route, the default one. -/
def bodyOf2 (type : BitVec 16) : List (BitVec 8) :=
  if type = rtmNewroute ∨ type = rtmDelroute then
    [2, 0, 0, 0, 254, 3, 0, 1, 0, 0, 0, 0, 8, 0, 4, 0, 2, 0, 0, 0]
  else [0, 0, 0, 0, 2, 0, 0, 0, 0, 0, 0, 0, 0, 0, 0, 0]

theorem bodyOf2_length (type : BitVec 16) : (bodyOf2 type).length % 4 = 0 ∧ (bodyOf2 type).length ≤ 20 := by
  unfold bodyOf2
  split <;> decide

def about2 (type : BitVec 16) : NlMessage :=
  nlMessage type (bodyOf2 type) (bodyOf2_length type).1 (by have := (bodyOf2_length type).2; omega)

/-- Alone, such a message posts an event of interface 2. -/
theorem about2_posts : ∀ type ∈ handledTypes,
    ((posted (fun _ => true) (about2 type).bytes fun _ => 0).any fun evs =>
      evs.any fun e => decide (e.evtData.ifIndex = 2)) = true := by
  simp only [handledTypes, List.forall_mem_cons]
  refine ⟨?_, ?_, ?_, ?_, ?_, ?_, ?_, by simp⟩ <;> decide +kernel

section Index

variable {ifName : BitVec 32 → Bool} {b : Bytes}

theorem attrLoop_keeps {α β : Type} {take : BitVec 16 → Nat → α → α} (f : α → β)
    (hf : ∀ t p a, f (take t p a) = f a) :
    ∀ {fuel p n : Nat} {a r : α}, attrLoop b take fuel p n a = some r → f r = f a := by
  intro fuel
  induction fuel with
  | zero => intro p n a r h; simp [attrLoop] at h
  | succ fuel ih =>
    intro p n a r h
    rw [attrLoop] at h
    split_ifs at h with hok
    · rw [ih h, hf]
    · rw [Option.some.inj h]

/-- Every event posted is about interface `i`. -/
def Case.About (i : Int) (c : Case) : Prop := ∀ e ∈ c.posted, e.evtData.ifIndex = i

namespace Case.About

variable {i : Int} {c d : Case}

theorem none (ret : Option NlStatus) : About i ⟨[], ret⟩ := by simp [About]

theorem post {event : IpaCmEventId} {data : NlEventData} (h : data.ifIndex = i) :
    About i (Case.post event data) := by
  simpa [About, Case.post] using h

theorem named {index : BitVec 32} (h : About i c) : About i (Case.named ifName index c) := by
  unfold Case.named
  split
  · exact h
  · exact none _

theorem andThen (hc : About i c) (hd : About i d) : About i (c.andThen d) := by
  unfold Case.andThen
  split
  · exact hc
  · intro e he
    exact (List.mem_append.1 he).elim (hc e) (hd e)

end Case.About

theorem newLink_about (info : IfInfoMsg) : (newLink ifName info).About info.ifiIndex.toInt := by
  simp only [newLink]
  split_ifs
  · exact .none _
  · exact .andThen (.named (.post rfl)) (.named (.post rfl))
  · exact .andThen (.named (.post rfl)) (.named (.post rfl))
  · exact .andThen (.named (.post rfl)) (.none _)
  · exact .andThen (.named (.post rfl)) (.named (.post rfl))
  · exact .andThen (.named (.post rfl)) (.named (.post rfl))
  · exact .andThen (.named (.post rfl)) (.none _)
  · exact .andThen (.none _) (.named (.post rfl))
  · exact .andThen (.none _) (.named (.post rfl))
  · exact .andThen (.none _) (.none _)

theorem delLink_about (info : IfInfoMsg) : (delLink ifName info).About info.ifiIndex.toInt := by
  unfold delLink
  split
  · exact .none _
  · exact .named (.post rfl)

theorem newAddr_about (info : IpaNlAddrInfo) : (newAddr info).About info.metainfo.ifaIndex.toInt := by
  simp only [newAddr]
  split
  · exact .post rfl
  · exact .post rfl

/-- A route of another type posts nothing. -/
theorem newRoute_none {info : IpaNlRouteInfo} (h : info.metainfo.rtmType ≠ rtnUnicast) (l : NlLocals) (i : Int) :
    (newRoute ifName info l).1.About i := by
  have hm : ¬info.metainfo.isMainRoute := fun hm => h hm.1
  have hk : ¬info.metainfo.isKernelV6 := fun hk => h hk.2.1
  simp only [newRoute, if_neg hm, if_neg hk]
  exact .andThen (.none _) (.none _)

theorem delRoute_none {info : IpaNlRouteInfo} (h : info.metainfo.rtmType ≠ rtnUnicast) (l : NlLocals) (i : Int) :
    (delRoute ifName info l).1.About i := by
  have hm : ¬info.metainfo.isMainRoute := fun hm => h hm.1
  have hk : ¬info.metainfo.isKernelV6 := fun hk => h hk.2.1
  simp only [delRoute, if_neg hm, if_neg hk]
  exact .andThen (.none _) (.none _)

/-- Read as a family header, the 16 bytes of zeros behind the first header are about interface 0. -/
def ZeroBody (b : Bytes) : Prop := ∀ i, nlmsgData ≤ i → i < 32 → b i = 0

theorem ZeroBody.index (h : ZeroBody b) : (b.u32 (nlmsgData + 4)).toInt = 0 := by
  simp only [Bytes.u32, nlmsgData, nlmsghdrSize] at h ⊢
  rw [h _ (by simp [nlmsgData, nlmsghdrSize]) (by omega), h _ (by simp [nlmsgData, nlmsghdrSize]) (by omega),
    h _ (by simp [nlmsgData, nlmsghdrSize]) (by omega), h _ (by simp [nlmsgData, nlmsghdrSize]) (by omega)]
  decide

/-- Whatever the type and wherever the message stands, it is decoded from those zeros. -/
theorem decodeCase_about (h : ZeroBody b) {type : BitVec 16} {n : Nat} {s s' : NlState} {c : Case}
    (hc : decodeCase ifName b type n s = some (c, s')) : c.About 0 := by
  have h0 := h.index
  have hroute : ∀ {info r : IpaNlRouteInfo}, ipaNlDecodeRtmRoute b n info = some r →
      r.metainfo.rtmType ≠ rtnUnicast := by
    intro info r hr
    rw [attrLoop_keeps (·.metainfo) (fun t p a => by simp only [takeRoute]; split_ifs <;> rfl) hr]
    simp only [h (nlmsgData + 7) (by omega) (by simp [nlmsgData, nlmsghdrSize])]
    decide
  have hneigh : ∀ {info r : IpaNlNeighInfo}, ipaNlDecodeRtmNeigh b n info = some r →
      (Case.post .newNeigh (.all (neighData r))).About 0 := by
    intro info r hr
    refine .post ?_
    simp only [NlEventData.ifIndex, neighData]
    rw [attrLoop_keeps (·.metainfo) (fun t p a => by simp only [takeNeigh]; split_ifs <;> rfl) hr]
    exact h0
  simp only [decodeCase, Option.bind_eq_bind, Option.pure_def] at hc
  split_ifs at hc
  · obtain ⟨rfl, -⟩ := Prod.mk.inj (Option.some.inj hc)
    exact h0 ▸ newLink_about _
  · obtain ⟨rfl, -⟩ := Prod.mk.inj (Option.some.inj hc)
    exact h0 ▸ delLink_about _
  · obtain ⟨r, hr, hc⟩ := Option.bind_eq_some_iff.1 hc
    obtain ⟨rfl, -⟩ := Prod.mk.inj (Option.some.inj hc)
    have hk : r.metainfo = _ :=
      attrLoop_keeps (·.metainfo) (fun t p a => by simp only [takeAddr]; split_ifs <;> rfl) hr
    have := newAddr_about r
    rw [hk] at this
    exact h0 ▸ this
  · obtain ⟨r, hr, hc⟩ := Option.bind_eq_some_iff.1 hc
    obtain ⟨rfl, -⟩ := Prod.mk.inj (Option.some.inj hc)
    exact newRoute_none (hroute hr) _ 0
  · obtain ⟨r, hr, hc⟩ := Option.bind_eq_some_iff.1 hc
    obtain ⟨rfl, -⟩ := Prod.mk.inj (Option.some.inj hc)
    exact delRoute_none (hroute hr) _ 0
  · obtain ⟨r, hr, hc⟩ := Option.bind_eq_some_iff.1 hc
    obtain ⟨rfl, -⟩ := Prod.mk.inj (Option.some.inj hc)
    exact .named (.post (by simpa [Case.About, Case.post] using hneigh hr))
  · obtain ⟨r, hr, hc⟩ := Option.bind_eq_some_iff.1 hc
    obtain ⟨rfl, -⟩ := Prod.mk.inj (Option.some.inj hc)
    exact .named (.post (by simpa [Case.About, Case.post] using hneigh hr))
  · obtain ⟨rfl, -⟩ := Prod.mk.inj (Option.some.inj hc)
    exact .none _

/-- So every event of the buffer is about interface 0. -/
theorem nlmsgLoop_about (h : ZeroBody b) :
    ∀ {fuel p n : Nat} {s : NlState} {evs : List NlEvent} {r : NlStatus},
      nlmsgLoop ifName b fuel p n s = some (evs, r) → ∀ e ∈ evs, e.evtData.ifIndex = 0 := by
  intro fuel
  induction fuel with
  | zero => intro p n s evs r hl; simp [nlmsgLoop] at hl
  | succ fuel ih =>
    intro p n s evs r hl
    rw [nlmsgLoop] at hl
    split_ifs at hl
    · obtain ⟨⟨c, s'⟩, hc, hl⟩ := Option.bind_eq_some_iff.1 hl
      have habout := decodeCase_about h hc
      cases hr : c.ret with
      | some q =>
        simp only [hr, Option.pure_def, Option.some.injEq, Prod.mk.injEq] at hl
        exact hl.1 ▸ habout
      | none =>
        simp only [hr] at hl
        obtain ⟨⟨evs', r'⟩, hl', hl⟩ := Option.bind_eq_some_iff.1 hl
        simp only [Option.pure_def, Option.some.injEq, Prod.mk.injEq] at hl
        intro e he
        rw [← hl.1] at he
        exact (List.mem_append.1 he).elim (habout e) (ih hl' e)
    · simp only [Option.some.injEq, Prod.mk.injEq] at hl
      simp [← hl.1]

end Index

theorem mem_of_mapM {α β : Type} {f : α → Option β} {l : List α} {r : List β} {a : α}
    (h : l.mapM f = some r) (ha : a ∈ l) : ∃ c ∈ r, f a = some c := by
  induction l generalizing r with
  | nil => simp at ha
  | cons x l ih =>
    rw [List.mapM_cons] at h
    obtain ⟨c, hc, h⟩ := Option.bind_eq_some_iff.1 h
    obtain ⟨cs, hcs, h⟩ := Option.bind_eq_some_iff.1 h
    obtain rfl := Option.some.inj h
    cases List.mem_cons.1 ha with
    | inl he => exact ⟨c, by simp, he ▸ hc⟩
    | inr hm =>
      obtain ⟨d, hd, hf⟩ := ih hcs hm
      exact ⟨d, by simp [hd], hf⟩

theorem blankFirst_zeroBody (type : BitVec 16) (ms : List NlMessage) (behind : Bytes) :
    ZeroBody (bufferOf (concat (blankFirst type :: ms)) behind) := by
  intro i hlo hhi
  simp only [nlmsgData, nlmsghdrSize] at hlo
  have hlen : (blankFirst type).bytes.length = 32 := by simp [blankFirst, nlMessage, msgBytes_length]
  have hb := (Bytes.bufferOf_holds (concat (blankFirst type :: ms)) behind).left i (by omega)
  rw [Nat.zero_add] at hb
  rw [hb]
  have : ∀ j (hj : j < (blankFirst type).bytes.length), 16 ≤ j → (blankFirst type).bytes[j] = 0 := by
    intro j hj h16
    simp only [blankFirst, nlMessage, msgBytes]
    rw [List.getElem_append_right (by simp [le32]; omega)]
    exact List.eq_of_mem_replicate (List.getElem_mem _)
  exact this i (by omega) hlo

theorem blankFirst_selfContained (type : BitVec 16) : (blankFirst type).SelfContained := by
  have hlen : (blankFirst type).bytes.length = 32 := by simp [blankFirst, nlMessage, msgBytes_length]
  have hz : ZeroBody (blankFirst type).buffer := by
    have := blankFirst_zeroBody type [] (fun _ => 0)
    simpa [NlMessage.buffer] using this
  refine ⟨fun _ => by omega, fun _ => ?_⟩
  have hhdr : (blankFirst type).famHdr = 8 ∨ (blankFirst type).famHdr = 12 := by
    unfold NlMessage.famHdr; split <;> simp
  simp only [nlmsgData, nlmsghdrSize]
  refine ⟨by omega, .zero (by simp only [rtattrSize]; omega) ?_⟩
  simp only [ZeroBody, nlmsgData, nlmsghdrSize] at hz
  simp only [rtaLen, Bytes.u16, rtattrSize]
  rw [hz _ (by omega) (by omega), hz _ (by omega) (by omega)]
  decide

/-- With a type that is decoded behind the first message, and room for an attribute, some buffer
of just these types fails. -/
theorem exists_not_byMessage (t : BitVec 16) (ts : List (BitVec 16))
    (hfit : 52 + 16 * ts.length ≤ ipaNlMsgMaxLen) (hk : ∃ t' ∈ ts, t' ∈ handledTypes) :
    ∃ msgs : List Received, msgs.map (fun m => m.1.type) = t :: ts ∧
      (Received.whole msgs).length ≤ ipaNlMsgMaxLen ∧ FirstAlone (fun _ => 0) msgs ∧
      ¬ByMessage (fun _ => true) (fun _ => 0) msgs := by
  obtain ⟨t', hmem, hhandled⟩ := hk
  obtain ⟨pre, post, rfl⟩ := List.append_of_mem hmem
  let alone : NlMessage → Received := fun m => (m, fun _ => 0)
  let ms := blankFirst t :: (pre.map blank ++ about2 t' :: post.map blank)
  have htype : ∀ l : List (BitVec 16), (l.map blank).map NlMessage.type = l := by
    intro l
    rw [List.map_map]
    exact (List.map_congr_left fun t _ => nlMessage_type t _ _ _).trans (List.map_id _)
  have hsize : ∀ l : List (BitVec 16), (concat (l.map blank)).length = 16 * l.length := by
    intro l
    induction l with
    | nil => rfl
    | cons t l ih =>
      simp only [List.map_cons, concat_cons, List.length_append, ih, List.length_cons, blank, nlMessage,
        msgBytes_length, List.length_nil]
      omega
  have hwhole : Received.whole (ms.map alone) = concat ms := by
    simp [Received.whole, alone, Function.comp_def]
  refine ⟨ms.map alone, ?_, ?_, ?_, ?_⟩
  · have := nlMessage_type t (List.replicate 16 0) rfl (by decide)
    have h2 := nlMessage_type t' (bodyOf2 t') (bodyOf2_length t').1 (by have := (bodyOf2_length t').2; omega)
    simp only [ms, alone, List.map_cons, List.map_append, List.map_map, Function.comp_def]
    have hpre := htype pre
    have hpost := htype post
    simp only [List.map_map, Function.comp_def] at hpre hpost
    rw [hpre, hpost]
    simp only [blankFirst, about2, this, h2]
  · have h20 := (bodyOf2_length t').2
    have happ : ∀ l l' : List NlMessage, concat (l ++ l') = concat l ++ concat l' := fun l l' =>
      List.flatMap_append
    rw [hwhole]
    simp only [ms, concat_cons, happ, List.length_append, hsize, blankFirst, about2, nlMessage, msgBytes_length,
      List.length_replicate, List.length_cons] at hfit ⊢
    omega
  · intro m hm
    simp only [ms, List.map_cons, List.head?_cons, Option.mem_def, Option.some.injEq] at hm
    subst hm
    have hq : ∀ m : NlMessage, m.Quiet fun _ => 0 := by
      intro m _
      simp [rtaOk, rtaLen, Bytes.u16, rtattrSize]
    exact ⟨blankFirst_selfContained t, hq _, hq _⟩
  · rintro ⟨evs, hm, hp⟩
    have hin : alone (about2 t') ∈ ms.map alone := List.mem_map_of_mem (by simp [ms])
    obtain ⟨c, hc, hpost⟩ := mem_of_mapM hm hin
    have h2 := about2_posts t' hhandled
    simp only [alone] at hpost
    rw [hpost] at h2
    simp only [Option.any_some, List.any_eq_true, decide_eq_true_eq] at h2
    obtain ⟨e, he, h2⟩ := h2
    rw [posted, hwhole, Option.map_eq_some_iff] at hp
    obtain ⟨⟨evs', r⟩, hl, rfl⟩ := hp
    have h0 := nlmsgLoop_about (blankFirst_zeroBody _ _ fun _ => 0) hl e (List.mem_flatten.2 ⟨c, hc, he⟩)
    omega

/-- A buffer is decoded message by message when its first message has all that its decoding reads
and no message behind it is of a type that is decoded; and, for the types of the messages, only
then: of any choice with one of these types behind the first, some buffer fails. -/
theorem ipaNlDecodeNlmsg_byMessage (ifName : BitVec 32 → Bool) (behind : Bytes) (msgs : List Received)
    (hlen : (Received.whole msgs).length ≤ ipaNlMsgMaxLen) (hfirst : FirstAlone behind msgs) :
    (OneHandled msgs → ByMessage ifName behind msgs) ∧
    ∀ (t : BitVec 16) (ts : List (BitVec 16)), 52 + 16 * ts.length ≤ ipaNlMsgMaxLen →
      ((∀ (ifName : BitVec 32 → Bool) (behind : Bytes) (msgs : List Received),
        msgs.map (fun m => m.1.type) = t :: ts → (Received.whole msgs).length ≤ ipaNlMsgMaxLen →
        FirstAlone behind msgs → ByMessage ifName behind msgs) ↔ ∀ t' ∈ ts, t' ∉ handledTypes) := by
  refine ⟨fun hone => byMessage_of_oneHandled hlen hone hfirst, fun t ts hfit => ⟨?_, ?_⟩⟩
  · intro h t' ht' hh
    obtain ⟨msgs, htypes, hlen, hfirst, hnot⟩ := exists_not_byMessage t ts hfit ⟨t', ht', hh⟩
    exact hnot (h _ _ msgs htypes hlen hfirst)
  · intro h _ behind msgs htypes hlen hfirst
    refine byMessage_of_oneHandled hlen (fun m hm => h _ ?_) hfirst
    have htail := congrArg List.tail htypes
    rw [List.tail_cons, ← List.map_tail] at htail
    rw [← htail]
    exact List.mem_map_of_mem hm

/-- `RTM_NEWADDR` of an IPv4 address. -/
def addrMessage (index a b c d : BitVec 8) : NlMessage :=
  nlMessage rtmNewaddr [2, 24, 0, 0, index, 0, 0, 0, 8, 0, 1, 0, a, b, c, d] (by simp) (by simp)

/-- `NLMSG_DONE`. -/
def doneMessage : NlMessage := nlMessage 3 [0, 0, 0, 0] rfl (by decide)

/-- An address and the end of the dump. -/
theorem byMessage_address_done :
    ByMessage (fun _ => true) (fun _ => 0) [(addrMessage 1 192 168 0 1, fun _ => 0), (doneMessage, fun _ => 0)] := by
  refine (ipaNlDecodeNlmsg_byMessage _ _ _ (by decide) ?_).1 ?_
  · have ht : (addrMessage 1 192 168 0 1).type = rtmNewaddr := nlMessage_type _ _ _ _
    have hhdr : (addrMessage 1 192 168 0 1).famHdr = 8 := if_pos ht
    have hq : (addrMessage 1 192 168 0 1).Quiet fun _ => 0 := by
      intro _
      simp [rtaOk, rtaLen, Bytes.u16, rtattrSize]
    intro m hm
    obtain rfl := Option.some.inj hm
    refine ⟨⟨fun h => ?_, fun _ => ⟨by rw [hhdr]; decide, ?_⟩⟩, hq, hq⟩
    · rw [ht] at h
      exact absurd h (by decide)
    · rw [hhdr]
      refine .attr (by decide) (by decide) ?_ .done
      simp only [NlMessage.attrFits, if_pos ht]
      exact fun _ => ⟨by decide, fun h => absurd h (by decide)⟩
  · intro m hm
    obtain rfl := List.mem_singleton.1 hm
    have ht : doneMessage.type = 3 := nlMessage_type _ _ _ _
    simp only [NlMessage.Handled, ht]
    decide

/-- Two addresses in one buffer are posted as the first one, twice. -/
theorem address_dump_repeats_first :
    ¬∀ (ifName : BitVec 32 → Bool) (behind : Bytes) (msgs : List Received),
      (Received.whole msgs).length ≤ ipaNlMsgMaxLen → ByMessage ifName behind msgs := by
  intro h
  obtain ⟨evs, hm, hp⟩ := h (fun _ => true) (fun _ => 0)
    [(addrMessage 1 192 168 0 1, fun _ => 0), (addrMessage 2 10 0 0 1, fun _ => 0)] (by decide)
  have hm' : List.mapM (fun m : Received => posted (fun _ => true) m.1.bytes m.2)
      [(addrMessage 1 192 168 0 1, fun _ => 0), (addrMessage 2 10 0 0 1, fun _ => 0)] =
      some [[⟨.addrAdd, .addr { iptype := .v4, ifIndex := 1, ipv4Addr := some 0xC0A80001 }⟩],
        [⟨.addrAdd, .addr { iptype := .v4, ifIndex := 2, ipv4Addr := some 0x0A000001 }⟩]] := by
    decide +kernel
  have hp' : posted (fun _ => true) (Received.whole
      [(addrMessage 1 192 168 0 1, fun _ => 0), (addrMessage 2 10 0 0 1, fun _ => 0)]) (fun _ => 0) =
      some [⟨.addrAdd, .addr { iptype := .v4, ifIndex := 1, ipv4Addr := some 0xC0A80001 }⟩,
        ⟨.addrAdd, .addr { iptype := .v4, ifIndex := 1, ipv4Addr := some 0xC0A80001 }⟩] := by
    decide +kernel
  obtain rfl := Option.some.inj (hm'.symm.trans hm)
  exact absurd (Option.some.inj (hp'.symm.trans hp)) (by decide)

end HiaeCommon
