/-
When `ipa_nl_decode_nlmsg` reads nothing outside the message it decodes: when
an end mark stands inside the message, behind attributes that have all that is
copied of them. A message that ends where its attributes end has none, and is
read beyond.
-/
import HiaeCommon.Ipacm.NetlinkReads

namespace HiaeCommon

open Lib (Access Span Agree)

/-- What `recvmsg` gives: an `int` of bytes, and what stands behind them. -/
structure Datagram where
  bytes : Bytes
  len : Nat
  len_lt : len < 2 ^ 31

section Walk

variable {b : Bytes} {field : BitVec 16 → Option Nat}

/-- An attribute has what is copied of it, inside the message. -/
def FieldFits (b : Bytes) (hi rtah : Nat) : Option Nat → Prop
  | none => True
  | some room => room ≤ rtaLen b rtah - rtattrSize ∧ rtah + rtattrSize + room ≤ hi

/-- From `rtah`, with `buflen` bytes counted, attributes with all that is copied of them, and behind
them an end mark inside the message (or nothing left of the count). -/
inductive EndMarked (b : Bytes) (field : BitVec 16 → Option Nat) (hi : Nat) : Nat → Nat → Prop
  | spent {rtah buflen : Nat} (h : buflen < rtattrSize) : EndMarked b field hi rtah buflen
  | mark {rtah buflen : Nat} (hin : rtah + 2 ≤ hi) (h : ¬rtaOk b rtah buflen) : EndMarked b field hi rtah buflen
  | attr {rtah buflen : Nat} (hok : rtaOk b rtah buflen) (hin : rtah + rtattrSize ≤ hi)
      (hfits : FieldFits b hi rtah (field (rtaType b rtah)))
      (next : EndMarked b field hi (rtah + nlmsgAlign (rtaLen b rtah)) (lenSub buflen (nlmsgAlign (rtaLen b rtah)))) :
      EndMarked b field hi rtah buflen

theorem rtattrSize_le_align {rtah : Nat} (h : rtattrSize ≤ rtaLen b rtah) : rtattrSize ≤ nlmsgAlign (rtaLen b rtah) := by
  have := (b.u16 rtah).isLt
  simp only [rtattrSize, rtaLen, nlmsgAlign] at h ⊢
  omega

theorem copyField_within_iff {lo hi rtah : Nat} (hlo : lo ≤ rtah) (room : Option Nat) :
    (∀ a ∈ copyField b rtah room, a.Within lo hi) ↔ FieldFits b hi rtah room := by
  cases room with
  | none => simp [copyField, FieldFits]
  | some room =>
    simp only [copyField, List.mem_singleton, forall_eq, Access.Within, Span.Within, FieldFits]
    omega

theorem rtaRefused_within_iff {lo hi rtah buflen : Nat} (hlo : lo ≤ rtah) :
    (∀ a ∈ rtaRefused rtah buflen, a.Within lo hi) ↔ buflen < rtattrSize ∨ rtah + 2 ≤ hi := by
  by_cases hn : buflen < 4
  · simp [rtaRefused_of_lt hn, rtattrSize, hn]
  · simp only [rtaRefused_of_le (Nat.le_of_not_lt hn), List.mem_singleton, forall_eq, Access.Within, Span.Within, rtattrSize]
    omega

theorem endMarked_of_reads {lo hi : Nat} {fuel : Nat} :
    ∀ {rtah buflen : Nat} {accs : List Access}, lo ≤ rtah → attrReads b field fuel rtah buflen = some accs →
      (∀ a ∈ accs, a.Within lo hi) → EndMarked b field hi rtah buflen := by
  induction fuel with
  | zero => intro rtah buflen accs _ h; simp [attrReads] at h
  | succ fuel ih =>
    intro rtah buflen accs hlo h hin
    rw [attrReads] at h
    by_cases hok : rtaOk b rtah buflen
    · rw [if_pos hok, Option.map_eq_some_iff] at h
      obtain ⟨rest, hrest, rfl⟩ := h
      simp only [List.mem_cons, List.mem_append, or_imp, forall_and, forall_eq] at hin
      obtain ⟨hhdr, hcopy, htail⟩ := hin
      exact .attr hok hhdr.2 ((copyField_within_iff hlo _).1 hcopy) (ih (by omega) hrest htail)
    · rw [if_neg hok, Option.some_inj] at h
      subst h
      rcases (rtaRefused_within_iff hlo).1 hin with hn | hp
      · exact .spent hn
      · exact .mark hp hok

/-- The walk ends in as many rounds as the message has room for headers. -/
theorem EndMarked.reads {lo hi rtah buflen : Nat} (h : EndMarked b field hi rtah buflen) :
    ∀ {k : Nat}, lo ≤ rtah → hi ≤ rtah + 4 * k →
      ∃ accs, attrReads b field (k + 1) rtah buflen = some accs ∧ ∀ a ∈ accs, a.Within lo hi := by
  induction h with
  | @spent rtah buflen h =>
    intro k hlo _
    have hok : ¬rtaOk b rtah buflen := fun hok => absurd hok.1 (by omega)
    exact ⟨_, by rw [attrReads, if_neg hok], (rtaRefused_within_iff hlo).2 (.inl h)⟩
  | @mark rtah buflen hin h =>
    intro k hlo _
    exact ⟨_, by rw [attrReads, if_neg h], (rtaRefused_within_iff hlo).2 (.inr hin)⟩
  | @attr rtah buflen hok hin hfits _ ih =>
    intro k hlo hk
    have halign := rtattrSize_le_align hok.2.1
    simp only [rtattrSize] at hin halign
    obtain ⟨k, rfl⟩ : ∃ j, k = j + 1 := ⟨k - 1, by omega⟩
    obtain ⟨accs, haccs, hw⟩ := ih (k := k) (by omega) (by omega)
    refine ⟨_, by rw [attrReads, if_pos hok, haccs, Option.map_some], ?_⟩
    simp only [List.mem_cons, List.mem_append, or_imp, forall_and, forall_eq]
    exact ⟨⟨hlo, hin⟩, (copyField_within_iff hlo _).2 hfits, hw⟩

end Walk

/-! ## One message -/

section Message

variable {b : Bytes} {nlh n : Nat}

/-- The whole family header is read inside the message: of the first one, or of one at its offset. -/
def HdrFits (b : Bytes) (nlh famHdr : Nat) : Prop :=
  nlh ≤ nlmsgData ∧ nlmsgData + famHdr ≤ nlh + nlmsgLen b nlh

/-- And so are its attributes. -/
def FamFits (b : Bytes) (nlh buflen famHdr : Nat) (field : BitVec 16 → Option Nat) : Prop :=
  HdrFits b nlh famHdr ∧
    EndMarked b field (nlh + nlmsgLen b nlh) (nlmsgData + famHdr) (lenSub buflen nlmsghdrSize)

/-- A message of `type` has all that is read of it. -/
def TypeFits (b : Bytes) (nlh buflen : Nat) (type : BitVec 16) : Prop :=
  if type = rtmNewlink then HdrFits b nlh 16
  else if type = rtmDellink then HdrFits b nlh 16
  else if type = rtmNewaddr then FamFits b nlh buflen 8 addrField
  else if type = rtmNewroute then FamFits b nlh buflen 12 routeField
  else if type = rtmDelroute then FamFits b nlh buflen 12 routeField
  else if type = rtmNewneigh then FamFits b nlh buflen 12 neighField
  else if type = rtmDelneigh then FamFits b nlh buflen 12 neighField
  else True

def MessageFits (b : Bytes) (nlh buflen : Nat) : Prop := TypeFits b nlh buflen (nlmsgType b nlh)

/-- The round of the loop for the message at `nlh` ends, reads nothing outside the message, and
copies nothing that is not in the attribute or has no room in its field. -/
def RoundWithin (b : Bytes) (nlh buflen : Nat) : Prop :=
  ∃ fuel accs, roundReads b nlh fuel buflen = some accs ∧
    ∀ a ∈ accs, a.Within nlh (nlh + nlmsgLen b nlh)

/-- The same of the decoder alone, with the fuel it has in the model. -/
def DecodeWithin (b : Bytes) (nlh fuel buflen : Nat) (type : BitVec 16) : Prop :=
  ∃ accs, decodeReads b type fuel buflen = some accs ∧ ∀ a ∈ accs, a.Within nlh (nlh + nlmsgLen b nlh)

theorem roundWithin_iff_decode (hok : nlmsgOk b nlh n) :
    RoundWithin b nlh n ↔ ∃ fuel, DecodeWithin b nlh fuel n (nlmsgType b nlh) := by
  obtain ⟨-, hlen, -⟩ := hok
  simp only [nlmsghdrSize] at hlen
  constructor
  · rintro ⟨fuel, accs, haccs, hw⟩
    rw [roundReads, Option.map_eq_some_iff] at haccs
    obtain ⟨reads, hreads, rfl⟩ := haccs
    exact ⟨fuel, reads, hreads, fun a ha => hw a (by simp [ha])⟩
  · rintro ⟨fuel, reads, hreads, hw⟩
    refine ⟨fuel, _, by rw [roundReads, hreads, Option.map_some], ?_⟩
    simp only [List.mem_cons, List.mem_append, List.not_mem_nil, or_false, or_imp, forall_and, forall_eq, Access.Within, Span.Within]
    exact ⟨⟨by omega, by omega⟩, hw, ⟨by omega, by omega⟩⟩

theorem hdrFits_of_within {famHdr : Nat}
    (h : (Access.read ⟨nlmsgData, famHdr⟩).Within nlh (nlh + nlmsgLen b nlh)) : HdrFits b nlh famHdr := h

theorem famFits_of_reads {famHdr fuel : Nat} {field : BitVec 16 → Option Nat} {accs : List Access}
    (h : famReads b famHdr field fuel n = some accs) (hw : ∀ a ∈ accs, a.Within nlh (nlh + nlmsgLen b nlh)) :
    FamFits b nlh n famHdr field := by
  rw [famReads, Option.map_eq_some_iff] at h
  obtain ⟨rest, hrest, rfl⟩ := h
  simp only [List.mem_cons, or_imp, forall_and, forall_eq] at hw
  have hhdr := hdrFits_of_within hw.1
  have hle : nlh ≤ nlmsgData + famHdr := Nat.le_add_right_of_le hhdr.1
  exact ⟨hhdr, endMarked_of_reads hle hrest hw.2⟩

theorem FamFits.reads {famHdr : Nat} {field : BitVec 16 → Option Nat} (h : FamFits b nlh n famHdr field)
    (hok : nlmsgOk b nlh n) :
    ∃ accs, famReads b famHdr field (n + 1) n = some accs ∧ ∀ a ∈ accs, a.Within nlh (nlh + nlmsgLen b nlh) := by
  obtain ⟨hhdr, hend⟩ := h
  obtain ⟨-, -, hlen⟩ := hok
  have hstart : nlh ≤ nlmsgData + famHdr := Nat.le_add_right_of_le hhdr.1
  have hle := hhdr.1
  simp only [nlmsgData, nlmsghdrSize] at hle
  obtain ⟨accs, haccs, hw⟩ := hend.reads (k := n) hstart (by simp only [nlmsgData, nlmsghdrSize]; omega)
  refine ⟨_, by rw [famReads, haccs, Option.map_some], ?_⟩
  simp only [List.mem_cons, or_imp, forall_and, forall_eq]
  exact ⟨hhdr, hw⟩

theorem typeFits_of_decode {fuel : Nat} {type : BitVec 16} (h : DecodeWithin b nlh fuel n type) :
    TypeFits b nlh n type := by
  obtain ⟨accs, haccs, hw⟩ := h
  rw [decodeReads] at haccs
  unfold TypeFits
  split_ifs at haccs ⊢
  · obtain rfl := Option.some_inj.1 haccs
    exact hw _ (List.mem_singleton_self _)
  · obtain rfl := Option.some_inj.1 haccs
    exact hw _ (List.mem_singleton_self _)
  · exact famFits_of_reads haccs hw
  · exact famFits_of_reads haccs hw
  · exact famFits_of_reads haccs hw
  · exact famFits_of_reads haccs hw
  · exact famFits_of_reads haccs hw

theorem TypeFits.decode {type : BitVec 16} (h : TypeFits b nlh n type) (hok : nlmsgOk b nlh n) :
    DecodeWithin b nlh (n + 1) n type := by
  have hlink : HdrFits b nlh 16 →
      ∃ accs, ipaNlDecodeRtmLinkReads = some accs ∧ ∀ a ∈ accs, a.Within nlh (nlh + nlmsgLen b nlh) := by
    intro hfits
    refine ⟨_, rfl, ?_⟩
    simp only [List.mem_singleton, forall_eq]
    exact hfits
  rw [TypeFits] at h
  unfold DecodeWithin decodeReads
  split_ifs at h ⊢
  · exact hlink h
  · exact hlink h
  · exact h.reads hok
  · exact h.reads hok
  · exact h.reads hok
  · exact h.reads hok
  · exact h.reads hok
  · exact ⟨[], rfl, by simp⟩

theorem roundWithin_iff (hok : nlmsgOk b nlh n) : RoundWithin b nlh n ↔ MessageFits b nlh n := by
  rw [roundWithin_iff_decode hok]
  constructor
  · rintro ⟨fuel, h⟩
    exact typeFits_of_decode h
  · intro h
    exact ⟨n + 1, h.decode hok⟩

end Message

/-! ## The loop over the messages -/

section Run

variable (ifName : BitVec 32 → Bool)

/-- `nlh`, `buflen` and the state, where the loop of `ipa_nl_decode_nlmsg` tests `NLMSG_OK`. -/
inductive LoopAt (d : Datagram) : Nat → Nat → NlState → Prop
  | start : LoopAt d 0 d.len {}
  | next {nlh buflen : Nat} {s s' : NlState} {c : Case} (h : LoopAt d nlh buflen s)
      (hok : nlmsgOk d.bytes nlh buflen)
      (hcase : decodeCase ifName d.bytes (nlmsgType d.bytes nlh) buflen s = some (c, s')) (hret : c.ret = none) :
      LoopAt d (nlh + nlmsgAlign (nlmsgLen d.bytes nlh)) (lenSub buflen (nlmsgAlign (nlmsgLen d.bytes nlh))) s'

/-- `ipa_nl_decode_nlmsg` returns; it looks for headers in the bytes received only, and in every
round it stays inside the message accepted. -/
structure StaysWithin (d : Datagram) : Prop where
  returns : (ipaNlDecodeNlmsg ifName d.bytes d.len).isSome
  header : ∀ {nlh buflen s}, LoopAt ifName d nlh buflen s → ∀ a ∈ nlmsgOkReads nlh buflen, a.Within 0 d.len
  round : ∀ {nlh buflen s}, LoopAt ifName d nlh buflen s → nlmsgOk d.bytes nlh buflen →
    RoundWithin d.bytes nlh buflen

/-- At every message the bytes counted are those left, and the message has all that is read of it. -/
def MessagesFit (d : Datagram) : Prop :=
  ∀ nlh buflen s, LoopAt ifName d nlh buflen s →
    nlh + buflen = d.len ∧ (nlmsgOk d.bytes nlh buflen → MessageFits d.bytes nlh buflen)

variable {ifName} {d : Datagram} {nlh n : Nat} {s : NlState}

theorem nlmsgOk.align (h : nlmsgOk d.bytes nlh n) (hn : n < 2 ^ 31) :
    nlmsghdrSize ≤ nlmsgAlign (nlmsgLen d.bytes nlh) ∧ nlmsgAlign (nlmsgLen d.bytes nlh) ≤ n + 3 := by
  obtain ⟨-, h1, h2⟩ := h
  simp only [nlmsghdrSize, nlmsgAlign] at h1 ⊢
  omega

/-- A count that has wrapped has the loop look for a header behind the bytes received. -/
theorem LoopAt.count (header : ∀ {nlh n s}, LoopAt ifName d nlh n s → ∀ a ∈ nlmsgOkReads nlh n, a.Within 0 d.len)
    (h : LoopAt ifName d nlh n s) : nlh + n = d.len := by
  induction h with
  | start => exact Nat.zero_add _
  | @next nlh n s s' c hat hok hcase hret ih =>
    have hlen := d.len_lt
    have halign := hok.align (by omega)
    have hread := header (.next hat hok hcase hret)
    simp only [nlmsghdrSize] at halign
    by_cases hfit : nlmsgAlign (nlmsgLen d.bytes nlh) ≤ n
    · rw [lenSub_of_le hfit (by omega)]
      omega
    · have hwrap : nlmsghdrSize ≤ lenSub n (nlmsgAlign (nlmsgLen d.bytes nlh)) := by
        simp only [lenSub, nlmsghdrSize]
        omega
      rw [nlmsgOkReads, if_pos hwrap] at hread
      have := (hread _ (List.mem_singleton_self _)).2
      simp only at this
      omega

theorem isSome_bind_some {α β : Type} (x : Option α) (g : α → β) : (x.bind fun a => some (g a)).isSome = x.isSome := by
  cases x <;> rfl

theorem decodeCase_isSome (b : Bytes) (type : BitVec 16) (n : Nat) (s : NlState) :
    (decodeCase ifName b type n s).isSome = (decodeReads b type (n + 1) n).isSome := by
  have haddr : ∀ info, (ipaNlDecodeRtmAddr b n info).isSome = (ipaNlDecodeRtmAddrReads b (n + 1) n).isSome := by
    intro info
    rw [ipaNlDecodeRtmAddr, attrLoop_isSome addrField, ipaNlDecodeRtmAddrReads, famReads, Option.isSome_map]
  have hneigh : ∀ info, (ipaNlDecodeRtmNeigh b n info).isSome = (ipaNlDecodeRtmNeighReads b (n + 1) n).isSome := by
    intro info
    rw [ipaNlDecodeRtmNeigh, attrLoop_isSome neighField, ipaNlDecodeRtmNeighReads, famReads, Option.isSome_map]
  have hroute : ∀ info, (ipaNlDecodeRtmRoute b n info).isSome = (ipaNlDecodeRtmRouteReads b (n + 1) n).isSome := by
    intro info
    rw [ipaNlDecodeRtmRoute, attrLoop_isSome routeField, ipaNlDecodeRtmRouteReads, famReads, Option.isSome_map]
  rw [decodeCase, decodeReads]
  split_ifs
  · rfl
  · rfl
  · exact (isSome_bind_some _ _).trans (haddr _)
  · exact (isSome_bind_some _ _).trans (hroute _)
  · exact (isSome_bind_some _ _).trans (hroute _)
  · exact (isSome_bind_some _ _).trans (hneigh _)
  · exact (isSome_bind_some _ _).trans (hneigh _)
  · rfl

theorem MessagesFit.header (h : MessagesFit ifName d) (hat : LoopAt ifName d nlh n s) :
    ∀ a ∈ nlmsgOkReads nlh n, a.Within 0 d.len := by
  have hcount := (h nlh n s hat).1
  rw [nlmsgOkReads]
  split_ifs with hn
  · simp only [List.mem_singleton, forall_eq, Access.Within, Span.Within]
    simp only [nlmsghdrSize] at hn
    omega
  · simp

/-- Every round takes a header's length off the count, at least. -/
theorem MessagesFit.returns (h : MessagesFit ifName d) (fuel : Nat) :
    ∀ {nlh n : Nat} {s : NlState}, LoopAt ifName d nlh n s → n < fuel →
      (nlmsgLoop ifName d.bytes fuel nlh n s).isSome := by
  induction fuel with
  | zero => intro nlh n s _ hn; omega
  | succ fuel ih =>
    intro nlh n s hat hn
    obtain ⟨hcount, hfits⟩ := h nlh n s hat
    rw [nlmsgLoop]
    by_cases hok : nlmsgOk d.bytes nlh n
    · rw [if_pos hok]
      have hdec : (decodeCase ifName d.bytes (nlmsgType d.bytes nlh) n s).isSome := by
        obtain ⟨accs, haccs, -⟩ := TypeFits.decode (hfits hok) hok
        rw [decodeCase_isSome, haccs]
        rfl
      obtain ⟨⟨c, s'⟩, hcase⟩ := Option.isSome_iff_exists.1 hdec
      simp only [hcase, Option.bind_eq_bind, Option.bind_some]
      cases hret : c.ret with
      | some r => rfl
      | none =>
        have hnext := LoopAt.next hat hok hcase hret
        have hcount' := (h _ _ _ hnext).1
        have hlen := d.len_lt
        have halign := (hok.align (by omega)).1
        simp only [nlmsghdrSize] at halign
        obtain ⟨r, hr⟩ := Option.isSome_iff_exists.1 (ih hnext (by omega))
        simp [hr]
    · rw [if_neg hok]
      rfl

/-- Netlink walks stay inside their messages exactly when every message has, inside it, what is
read of it. -/
theorem staysWithin_iff (ifName : BitVec 32 → Bool) (d : Datagram) :
    StaysWithin ifName d ↔ MessagesFit ifName d := by
  constructor
  · intro h nlh n s hat
    exact ⟨hat.count h.header, fun hok => (roundWithin_iff hok).1 (h.round hat hok)⟩
  · intro h
    exact {
      returns := h.returns (d.len + 1) .start (Nat.lt_succ_self _)
      header := fun hat => h.header hat
      round := fun hat hok => (roundWithin_iff hok).2 ((h _ _ _ hat).2 hok)
    }

/-! ## What follows where it stays inside -/

/-- What stands behind the bytes received does not matter. -/
theorem StaysWithin.nlmsgLoop_eq (h : StaysWithin ifName d) {b' : Bytes} (hb : ∀ i < d.len, d.bytes i = b' i)
    (fuel : Nat) : ∀ {nlh n : Nat} {s : NlState}, LoopAt ifName d nlh n s →
      nlmsgLoop ifName d.bytes fuel nlh n s = nlmsgLoop ifName b' fuel nlh n s := by
  induction fuel with
  | zero => intro nlh n s _; rfl
  | succ fuel ih =>
    intro nlh n s hat
    have hcount := hat.count h.header
    have hlen : nlmsghdrSize ≤ n → nlmsgLen d.bytes nlh = nlmsgLen b' nlh := by
      intro hn
      simp only [nlmsghdrSize] at hn
      simp only [nlmsgLen]
      rw [Bytes.u32_congr nlh hb (by omega)]
    rw [nlmsgLoop, nlmsgLoop]
    by_cases hok : nlmsgOk d.bytes nlh n
    · have heq := hlen hok.1
      have hok' : nlmsgOk b' nlh n := by simpa only [nlmsgOk, ← heq] using hok
      have hn := hok.1
      have hle := hok.2.2
      simp only [nlmsghdrSize] at hn
      have htype : nlmsgType d.bytes nlh = nlmsgType b' nlh := by
        simp only [nlmsgType]
        rw [Bytes.u16_congr (nlh + 4) hb (by omega)]
      obtain ⟨accs, haccs, hw⟩ := TypeFits.decode ((roundWithin_iff hok).1 (h.round hat hok)) hok
      have hcase : decodeCase ifName d.bytes (nlmsgType d.bytes nlh) n s = decodeCase ifName b' (nlmsgType d.bytes nlh) n s :=
        decodeCase_of_agree ifName haccs (.of_within hw fun i _ hi => hb i (by omega)) s
      rw [if_pos hok, if_pos hok', ← htype, ← hcase, ← heq]
      cases hdec : decodeCase ifName d.bytes (nlmsgType d.bytes nlh) n s with
      | none => rfl
      | some r =>
        obtain ⟨c, s'⟩ := r
        simp only [Option.bind_eq_bind, Option.bind_some]
        cases hret : c.ret with
        | some r => rfl
        | none => simp only [ih (LoopAt.next hat hok hdec hret)]
    · have hok' : ¬nlmsgOk b' nlh n := by
        intro hok'
        exact hok (by simpa only [nlmsgOk, hlen hok'.1] using hok')
      rw [if_neg hok, if_neg hok']

theorem StaysWithin.decode_eq (h : StaysWithin ifName d) {b' : Bytes} (hb : ∀ i < d.len, d.bytes i = b' i) :
    ipaNlDecodeNlmsg ifName d.bytes d.len = ipaNlDecodeNlmsg ifName b' d.len :=
  h.nlmsgLoop_eq hb _ .start

end Run

/-! ## Messages that end where their attributes end -/

section Whole

variable {b : Bytes} {hi p n : Nat} {field : BitVec 16 → Option Nat}

/-- Whole attributes, up to the end of the message: what the kernel sends. -/
inductive WholeAttrs (b : Bytes) (hi : Nat) : Nat → Prop
  | done : WholeAttrs b hi hi
  | attr {p : Nat} (hlen : rtattrSize ≤ rtaLen b p) (hp : p + nlmsgAlign (rtaLen b p) ≤ hi)
      (next : WholeAttrs b hi (p + nlmsgAlign (rtaLen b p))) : WholeAttrs b hi p

/-- A count that goes on for a header behind them is not stopped inside the message. -/
theorem WholeAttrs.not_endMarked (h : WholeAttrs b hi p) :
    ∀ {n : Nat}, hi + rtattrSize ≤ p + n → n < 2 ^ 32 → ¬EndMarked b field hi p n := by
  induction h with
  | done =>
    intro n hn _ hend
    simp only [rtattrSize] at hn
    cases hend with
    | spent h => simp only [rtattrSize] at h; omega
    | mark hin h => omega
    | attr hok hin => simp only [rtattrSize] at hin; omega
  | @attr p hlen hp _ ih =>
    intro n hn hlt hend
    have halign := rtattrSize_le_align hlen
    have hle : rtaLen b p ≤ nlmsgAlign (rtaLen b p) := by
      have := (b.u16 p).isLt
      simp only [rtaLen, nlmsgAlign]
      omega
    simp only [rtattrSize] at hn halign ih hlen
    cases hend with
    | spent h => simp only [rtattrSize] at h; omega
    | mark hin h => exact h ⟨by simp only [rtattrSize]; omega, hlen, by omega⟩
    | attr hok hin hfits next =>
      rw [lenSub_of_le (by omega) hlt] at next
      exact ih (by omega) (by omega) next

/-- The first message, with nothing but whole attributes, is read beyond its end. -/
theorem WholeAttrs.not_famFits {famHdr : Nat} (h : WholeAttrs b (nlmsgLen b 0) (nlmsgData + famHdr))
    (hok : nlmsgOk b 0 n) (hn : n < 2 ^ 31) (hfam : rtattrSize ≤ famHdr) : ¬FamFits b 0 n famHdr field := by
  intro hfits
  obtain ⟨hle, -, hlen⟩ := hok
  simp only [nlmsghdrSize] at hle
  have hsub : lenSub n nlmsghdrSize = n - 16 := lenSub_of_le hle (by omega)
  have hend := hfits.2
  rw [Nat.zero_add, hsub] at hend
  exact h.not_endMarked (by simp only [nlmsgData, nlmsghdrSize]; omega) (by omega) hend

end Whole

/-- One `RTM_NEWADDR`: 192.168.0.1 on interface 1. -/
def addressDatagram : Datagram where
  bytes := bufferOf [32, 0, 0, 0, 20, 0, 0, 0, 0, 0, 0, 0, 0, 0, 0, 0, 2, 24, 0, 0, 1, 0, 0, 0,
    8, 0, 1, 0, 192, 168, 0, 1] fun _ => 0
  len := 32
  len_lt := by decide

/-- The walk goes on behind the only attribute, and the address is copied from 126 bytes. -/
theorem not_staysWithin_address : ¬StaysWithin (fun _ => true) addressDatagram := by
  intro h
  have hok : nlmsgOk addressDatagram.bytes 0 32 := by decide
  have hfits := (roundWithin_iff hok).1 (h.round .start hok)
  have hfam : FamFits addressDatagram.bytes 0 32 8 addrField := hfits
  have hwhole : WholeAttrs addressDatagram.bytes (nlmsgLen addressDatagram.bytes 0) (nlmsgData + 8) :=
    .attr (by decide) (by decide) .done
  exact hwhole.not_famFits hok (by decide) (by decide) hfam

end HiaeCommon
