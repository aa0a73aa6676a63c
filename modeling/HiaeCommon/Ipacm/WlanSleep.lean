/-
Who sleeps at an access point, by its records (`ipacm/src/IPACM_Wlan.cpp`).
`asleep` says of each MAC whether its latest power event is a power save.
`InStep`: the record a MAC is found under has its `power_save_set` accordingly,
and while that is set no rules; the records behind it that an add repeated has
made are as they were made. `KeepsAsleep` is what an event has to meet for that
to stay so.
-/
import HiaeCommon.Ipacm.ClientOthers
import HiaeCommon.Ipacm.WlanTells
import Mathlib.Data.List.Find

namespace HiaeCommon

open Outside (AllSucceed)

variable {D : IpaDriver} {tx : List TxProp}

/-- The record of a client that has just joined. -/
structure Client.Blank (c : Client WlanOwn) : Prop where
  awake : c.own.powerSaveSet = false
  noAddr : c.ipv4Set = false
  off : c.routeRuleSetV4 = false ∧ c.routeRuleSetV6 = 0

/-- The record of a client that sleeps, or does not. -/
structure Client.Fits (sleeps : Bool) (c : Client WlanOwn) : Prop where
  flag : c.own.powerSaveSet = sleeps
  off : sleeps = true → c.routeRuleSetV4 = false ∧ c.routeRuleSetV6 = 0
  addr : c.ipv4Set = true → c.v4Addr ≠ 0

namespace Client

variable {c c' : Client WlanOwn} {b : Bool}

theorem Blank.fits (h : c.Blank) : c.Fits false := ⟨h.awake, fun h => (nomatch h), fun h4 => absurd h4 (by simp [h.noAddr])⟩

theorem Blank.same (h : c.Blank) (hs : c.SameRecord tx c') : c'.Blank :=
  ⟨by rw [hs.own, h.awake], by rw [hs.ipSet.1, h.noAddr], by rw [hs.routeRuleSet.1, hs.routeRuleSet.2]; exact h.off⟩

theorem Fits.same (h : c.Fits b) (hs : c.SameRecord tx c') : c'.Fits b where
  flag := by rw [hs.own, h.flag]
  off hb := by
    rw [hs.routeRuleSet.1, hs.routeRuleSet.2]
    exact h.off hb
  addr h4 := by
    rw [hs.v4Addr]
    exact h.addr (hs.ipSet.1 ▸ h4)

theorem rtHdls_off (h : c.routeRuleSetV4 = false ∧ c.routeRuleSetV6 = 0) : c.rtHdls tx = [] := by
  rw [rtHdls, rtHdlsV4, rtHdlsV6]
  simp [h.1, h.2]

end Client

namespace ClientTable

section
variable {σ : Type} {t : ClientTable σ} {mac : MacAddr} {i : Nat}

theorem index_eq_some : t.index mac = some i ↔ i < t.num ∧ (t.slot i).mac = mac ∧ ∀ j < i, (t.slot j).mac ≠ mac := by
  rw [index, List.find?_range_eq_some]
  simp only [decide_eq_true_eq, List.mem_range, Bool.not_eq_true', decide_eq_false_iff_not]
  exact ⟨fun h => ⟨h.2.1, h.1, h.2.2⟩, fun h => ⟨h.2.1, h.1, h.2.2⟩⟩

/-- A record that is not the one its MAC is found under stands behind it. -/
theorem index_ne_iff (hi : i < t.num) : t.index (t.slot i).mac ≠ some i ↔ ∃ j < i, (t.slot j).mac = (t.slot i).mac := by
  rw [ne_eq, index_eq_some]
  constructor
  · intro h
    by_contra hno
    exact h ⟨hi, rfl, fun j hj heq => hno ⟨j, hj, heq⟩⟩
  · rintro ⟨j, hj, heq⟩ h
    exact h.2.2 j hj heq

theorem index_push (c : Client σ) : ({ t.set t.num c with num := t.num + 1 } : ClientTable σ).index mac =
    (t.index mac).or (if c.mac = mac then some t.num else none) := by
  have hslot : ∀ k ∈ List.range t.num, decide (((t.set t.num c).slot k).mac = mac) = decide ((t.slot k).mac = mac) := fun k hk => by
    rw [set_slot_ne t (Nat.ne_of_lt (List.mem_range.1 hk))]
  rw [index, List.range_succ, List.find?_append]
  congr 1
  · exact List.find?_congr hslot
  · simp only [List.find?_cons, List.find?_nil, set_slot_self]
    by_cases hm : c.mac = mac <;> simp [hm]

end

variable {t t' : ClientTable WlanOwn} {asleep asleep' : MacAddr → Bool} {mac : MacAddr} {i : Nat}

/-- The records agree about who sleeps. -/
structure InStep (asleep : MacAddr → Bool) (t : ClientTable WlanOwn) : Prop where
  fits : ∀ mac i, t.index mac = some i → (t.slot i).Fits (asleep mac)
  behind : ∀ i < t.num, (∃ j < i, (t.slot j).mac = (t.slot i).mac) → (t.slot i).Blank

/-- A client sleeps and has this IPv4 address. -/
def Sleeper (t : ClientTable WlanOwn) (mac : MacAddr) (addr : BitVec 32) : Prop :=
  ∃ i, t.index mac = some i ∧ (t.slot i).own.powerSaveSet = true ∧ (t.slot i).ipv4Set = true ∧ (t.slot i).v4Addr = addr

/-- A handler after which the records agree, and nobody sleeps who did not, or under another address. -/
structure Rests (asleep : MacAddr → Bool) (t t' : ClientTable WlanOwn) : Prop where
  inStep : t'.InStep asleep
  sleeper : ∀ mac addr, t'.Sleeper mac addr → t.Sleeper mac addr

theorem InStep.rests (h : t.InStep asleep) : Rests asleep t t := ⟨h, fun _ _ h => h⟩

theorem Rests.trans {t'' : ClientTable WlanOwn} (h : Rests asleep' t t') (h' : Rests asleep t' t'') : Rests asleep t t'' :=
  ⟨h'.inStep, fun mac addr hs => h.sleeper mac addr (h'.sleeper mac addr hs)⟩

theorem Sleeper.ne_zero (h : t.InStep asleep) {addr : BitVec 32} (hs : t.Sleeper mac addr) : addr ≠ 0 := by
  obtain ⟨i, hi, -, h4, rfl⟩ := hs
  exact (h.fits mac i hi).addr h4

theorem Sleeper.sleeps (h : t.InStep asleep) {addr : BitVec 32} (hs : t.Sleeper mac addr) : asleep mac = true := by
  obtain ⟨i, hi, hps, -⟩ := hs
  exact (h.fits mac i hi).flag ▸ hps

/-- The records of other clients stay, and those behind the one that changes. -/
theorem slot_set_of_index {c : Client WlanOwn} {mac' : MacAddr} {j : Nat} (hi : t.index mac = some i) (hj : t.index mac' = some j)
    (hne : mac' ≠ mac) : (t.set i c).slot j = t.slot j := by
  refine set_slot_ne t (fun heq => hne ?_) c
  rw [← (index_some hj).2, ← (index_some hi).2, heq]

theorem InStep.set (h : t.InStep asleep) (hi : t.index mac = some i) {c : Client WlanOwn} (hmac : c.mac = (t.slot i).mac)
    (hfit : c.Fits (asleep' mac)) (hsame : ∀ mac', mac' ≠ mac → asleep' mac' = asleep mac') : (t.set i c).InStep asleep' where
  fits mac' j hj := by
    rw [index_set hmac] at hj
    by_cases hm : mac' = mac
    · subst hm
      rw [hi, Option.some.injEq] at hj
      rw [← hj, set_slot_self]
      exact hfit
    · rw [slot_set_of_index hi hj hm, hsame mac' hm]
      exact h.fits mac' j hj
  behind := by
    have hmacs : ∀ k, ((t.set i c).slot k).mac = (t.slot k).mac := fun k => by
      by_cases hk : k = i
      · rw [hk, set_slot_self, hmac]
      · rw [set_slot_ne t hk]
    rintro j hj ⟨k, hk, heq⟩
    rw [hmacs, hmacs] at heq
    have hji : j ≠ i := fun he => by
      subst he
      exact (index_eq_some.1 hi).2.2 k hk (heq.trans (index_some hi).2)
    rw [set_slot_ne t hji]
    exact h.behind j hj ⟨k, hk, heq⟩

theorem sleeper_set (hi : t.index mac = some i) {c : Client WlanOwn} (hmac : c.mac = (t.slot i).mac) {mac' : MacAddr} {addr : BitVec 32}
    (hs : (t.set i c).Sleeper mac' addr) :
    t.Sleeper mac' addr ∨ mac' = mac ∧ c.own.powerSaveSet = true ∧ c.ipv4Set = true ∧ c.v4Addr = addr := by
  obtain ⟨j, hj, h⟩ := hs
  rw [index_set hmac] at hj
  by_cases hm : mac' = mac
  · subst hm
    rw [hi, Option.some.injEq] at hj
    rw [← hj, set_slot_self] at h
    exact .inr ⟨rfl, h⟩
  · rw [slot_set_of_index hi hj hm] at h
    exact .inl ⟨j, hj, h⟩

/-- The record of a client that does not sleep afterwards changes. -/
theorem InStep.set_awake (h : t.InStep asleep) (hi : t.index mac = some i) {c : Client WlanOwn} (hmac : c.mac = (t.slot i).mac)
    (hfit : c.Fits false) (hfalse : asleep' mac = false) (hsame : ∀ mac', mac' ≠ mac → asleep' mac' = asleep mac') :
    Rests asleep' t (t.set i c) := by
  refine ⟨h.set hi hmac (hfalse.symm ▸ hfit) hsame, fun mac' addr hs => (sleeper_set hi hmac hs).resolve_right fun hnew => ?_⟩
  rw [hfit.flag] at hnew
  exact absurd hnew.2.1 Bool.false_ne_true

/-- A record changes, but neither its flag nor its IPv4 address, and its rules only go. -/
theorem InStep.set_slot (h : t.InStep asleep) (i : Nat) {c : Client WlanOwn} (hmac : c.mac = (t.slot i).mac)
    (hown : c.own = (t.slot i).own) (hset : c.ipv4Set = (t.slot i).ipv4Set) (haddr : c.v4Addr = (t.slot i).v4Addr)
    (hoff : (t.slot i).routeRuleSetV4 = false ∧ (t.slot i).routeRuleSetV6 = 0 → c.routeRuleSetV4 = false ∧ c.routeRuleSetV6 = 0) :
    Rests asleep t (t.set i c) := by
  have hcases : ∀ k, (t.set i c).slot k = t.slot k ∨ k = i ∧ (t.set i c).slot k = c := fun k => by
    by_cases hk : k = i
    · exact .inr ⟨hk, by rw [hk, set_slot_self]⟩
    · exact .inl (set_slot_ne t hk c)
  have hmacs : ∀ k, ((t.set i c).slot k).mac = (t.slot k).mac := fun k => by
    rcases hcases k with hk | ⟨rfl, hk⟩
    · rw [hk]
    · rw [hk, hmac]
  refine ⟨⟨fun mac j hj => ?_, fun j hj hbehind => ?_⟩, fun mac addr ⟨j, hj, h1, h2, h3⟩ => ?_⟩
  · rw [index_set hmac] at hj
    have hf := h.fits mac j hj
    rcases hcases j with hk | ⟨rfl, hk⟩
    · exact hk ▸ hf
    · rw [hk]
      exact ⟨hown ▸ hf.flag, fun hb => hoff (hf.off hb), by rw [hset, haddr]; exact hf.addr⟩
  · obtain ⟨k, hk, heq⟩ := hbehind
    rw [hmacs, hmacs] at heq
    have hb := h.behind j hj ⟨k, hk, heq⟩
    rcases hcases j with hk | ⟨rfl, hk⟩
    · exact hk ▸ hb
    · rw [hk]
      exact ⟨hown ▸ hb.awake, hset ▸ hb.noAddr, hoff hb.off⟩
  · rw [index_set hmac] at hj
    rcases hcases j with hk | ⟨rfl, hk⟩
    · exact ⟨j, hj, hk ▸ h1, hk ▸ h2, hk ▸ h3⟩
    · rw [hk] at h1 h2 h3
      exact ⟨j, hj, hown ▸ h1, hset ▸ h2, haddr ▸ h3⟩

/-- Only what is said of the MACs that are there counts. -/
theorem InStep.congr (h : t.InStep asleep) (hsame : ∀ mac i, t.index mac = some i → asleep' mac = asleep mac) : t.InStep asleep' where
  fits mac i hi := by
    rw [hsame mac i hi]
    exact h.fits mac i hi
  behind := h.behind

/-- A client joins, or joins again. -/
theorem InStep.push (h : t.InStep asleep) {c : Client WlanOwn} (hc : c.Blank) (hnew : t.index c.mac = none → asleep c.mac = false) :
    Rests asleep t { t.set t.num c with num := t.num + 1 } := by
  have hold : ∀ {k}, k < t.num → (t.set t.num c).slot k = t.slot k := fun hk => set_slot_ne t (Nat.ne_of_lt hk) c
  -- a MAC that was there is found where it was, and the new one at the end
  have hcases : ∀ {mac i}, ({ t.set t.num c with num := t.num + 1 } : ClientTable WlanOwn).index mac = some i →
      t.index mac = some i ∧ (t.set t.num c).slot i = t.slot i ∨
        t.index mac = none ∧ c.mac = mac ∧ (t.set t.num c).slot i = c := fun {mac i} hi => by
    rw [index_push] at hi
    cases hidx : t.index mac with
    | some j =>
      rw [hidx, Option.some_or, Option.some.injEq] at hi
      subst hi
      exact .inl ⟨rfl, hold (index_some hidx).1⟩
    | none =>
      rw [hidx, Option.none_or] at hi
      split at hi
      next hm =>
        rw [Option.some.injEq] at hi
        rw [← hi]
        exact .inr ⟨rfl, hm, set_slot_self ..⟩
      · cases hi
  refine ⟨⟨fun mac i hi => ?_, fun i hi => ?_⟩, fun mac addr hs => ?_⟩
  · rcases hcases hi with ⟨hidx, hsl⟩ | ⟨hidx, rfl, hsl⟩
    · exact hsl ▸ h.fits mac i hidx
    · dsimp only
      rw [hnew hidx, hsl]
      exact hc.fits
  · rintro ⟨j, hj, heq⟩
    have hi : i < t.num + 1 := hi
    dsimp only at heq ⊢
    by_cases hin : i = t.num
    · rw [hin, set_slot_self]
      exact hc
    · rw [hold (by omega), hold (by omega)] at heq
      rw [hold (by omega)]
      exact h.behind i (by omega) ⟨j, hj, heq⟩
  · obtain ⟨i, hi, hps, h4⟩ := hs
    dsimp only at hps h4
    rcases hcases hi with ⟨hidx, hsl⟩ | ⟨-, -, hsl⟩
    · rw [hsl] at hps h4
      exact ⟨i, hidx, hps, h4⟩
    · rw [hsl, hc.awake] at hps
      exact absurd hps Bool.false_ne_true

/-- **A client leaves**: the others' records move up with their flags where these agree from it on. -/
theorem InStep.removed (h : t.InStep asleep) (hi : t.index mac = some i) {c : Client WlanOwn} (hown : c.own = (t.slot i).own)
    (hflags : ∀ k, i ≤ k → k + 1 < t.num → (t.slot k).own = (t.slot (k + 1)).own) (hfalse : asleep' mac = false)
    (hsame : ∀ mac', mac' ≠ mac → asleep' mac' = asleep mac') :
    Rests asleep' t { (t.set i c).compact tx i with num := t.num - 1 } := by
  obtain ⟨hlt, hmac, hfirst⟩ := index_eq_some.1 hi
  -- where a record was before the gap was closed
  let src : Nat → Nat := fun k => if i ≤ k then k + 1 else k
  have hsrc_lt : ∀ {k}, k < t.num - 1 → src k < t.num := fun hk => by
    simp only [src]
    split <;> omega
  have hsrc_ne : ∀ k, src k ≠ i := fun k => by
    simp only [src]
    split <;> omega
  have hsrc_mono : ∀ {j k}, j < k → src j < src k := fun hjk => by
    simp only [src]
    split <;> split <;> omega
  have hsrc_surj : ∀ {j k}, j < src k → j ≠ i → ∃ j' < k, src j' = j := fun {j k} hj hne => by
    simp only [src] at hj ⊢
    by_cases hij : i ≤ j
    · exact ⟨j - 1, by split at hj <;> omega, by rw [if_pos (by omega)]; omega⟩
    · exact ⟨j, by split at hj <;> omega, by rw [if_neg hij]⟩
  have hsame_rec : ∀ {k}, k < t.num - 1 → (t.slot (src k)).SameRecord tx (((t.set i c).compact tx i).slot k) := fun {k} hk => by
    rw [removed_slot t c hk hlt]
    by_cases hik : i ≤ k
    · simp only [src, if_pos hik]
      refine Client.copyFrom_same ?_
      rw [← hflags k hik (by omega)]
      by_cases hki : k = i
      · rw [hki, set_slot_self, hown]
      · rw [set_slot_ne t hki]
    · simp only [src, if_neg hik]
      exact Client.SameRecord.refl _
  -- a MAC other than the one that left is found where it was; that one only if it was there twice
  have hcases : ∀ {mac' k}, ({ (t.set i c).compact tx i with num := t.num - 1 } : ClientTable WlanOwn).index mac' = some k →
      k < t.num - 1 ∧ (mac' ≠ mac ∧ t.index mac' = some (src k) ∨ mac' = mac ∧ (t.slot (src k)).Blank) := fun {mac' k} hk => by
    obtain ⟨hklt, hkm, hkfirst⟩ := index_eq_some.1 hk
    have hklt : k < t.num - 1 := hklt
    have hm : (t.slot (src k)).mac = mac' := (hsame_rec hklt).mac.symm.trans hkm
    refine ⟨hklt, ?_⟩
    by_cases hmm : mac' = mac
    · refine .inr ⟨hmm, h.behind _ (hsrc_lt hklt) ⟨i, ?_, by rw [hmac, hm, hmm]⟩⟩
      rcases Nat.lt_trichotomy i (src k) with hlt' | heq | hgt
      · exact hlt'
      · exact absurd heq.symm (hsrc_ne k)
      · exact absurd (hm.trans hmm) (hfirst _ hgt)
    · refine .inl ⟨hmm, index_eq_some.2 ⟨hsrc_lt hklt, hm, fun j hj heq => ?_⟩⟩
      have hji : j ≠ i := fun he => hmm (by rw [← heq, he, hmac])
      obtain ⟨j', hj', rfl⟩ := hsrc_surj hj hji
      exact hkfirst j' hj' ((hsame_rec (by omega)).mac.trans heq)
  refine ⟨⟨fun mac' k hk => ?_, fun k hk => ?_⟩, fun mac' addr hs => ?_⟩
  · obtain ⟨hklt, ⟨hne, hidx⟩ | ⟨rfl, hblank⟩⟩ := hcases hk
    · rw [hsame mac' hne]
      exact (h.fits mac' _ hidx).same (hsame_rec hklt)
    · rw [hfalse]
      exact (hblank.same (hsame_rec hklt)).fits
  · rintro ⟨j, hj, heq⟩
    have hk : k < t.num - 1 := hk
    have hjk : (t.slot (src j)).mac = (t.slot (src k)).mac :=
      (hsame_rec (by omega)).mac.symm.trans (heq.trans (hsame_rec hk).mac)
    exact (h.behind _ (hsrc_lt hk) ⟨src j, hsrc_mono hj, hjk⟩).same (hsame_rec hk)
  · obtain ⟨k, hk, hps, h4, ha⟩ := hs
    obtain ⟨hklt, ⟨hne, hidx⟩ | ⟨rfl, hblank⟩⟩ := hcases hk
    · have hs := hsame_rec hklt
      exact ⟨src k, hidx, hs.own ▸ hps, hs.ipSet.1 ▸ h4, hs.v4Addr ▸ ha⟩
    · rw [(hblank.same (hsame_rec hklt)).awake] at hps
      exact absurd hps Bool.false_ne_true

theorem InStep.absent (h : t.InStep asleep) (hidx : t.index mac = none) (hsame : ∀ mac', mac' ≠ mac → asleep' mac' = asleep mac') :
    t.InStep asleep' := by
  refine h.congr fun mac' i hi => hsame mac' fun hm => ?_
  rw [hm, hidx] at hi
  cases hi

end ClientTable

namespace Wlan

open ClientTable (InStep Rests)

variable {w : Wlan} {o : Outside} {s u : Multiset Nat} {asleep asleep' : MacAddr → Bool}

theorem handleWlanClientRouteRule_rests (hD : AllSucceed D) (macAddr : MacAddr) (iptype : IpType) (h : w.Held s u o)
    (hin : w.wlanClient.InStep asleep) : Rests asleep w.wlanClient (w.handleWlanClientRouteRule D macAddr iptype o).2.1.wlanClient := by
  unfold handleWlanClientRouteRule
  split
  · exact hin.rests
  split
  · exact hin.rests
  next i hi =>
    split
    · exact hin.rests
    next hps =>
      obtain ⟨a, b, r, o', hadd, -⟩ := Client.addRules_held (R := w.rules) hD iptype (ClientTable.Held.slot h (ClientTable.index_some hi).1)
      have hf := hin.fits macAddr i hi
      have hawake : asleep macAddr = false := by rw [← hf.flag]; simpa using hps
      rw [addRules_eq, hadd]
      exact hin.set_awake hi rfl ⟨hf.flag.trans hawake, fun hb => (nomatch hb), hf.addr⟩ hawake fun _ _ => rfl

/-- A client that sleeps gets no IPv4 address it does not have. -/
def KeepsAddr (w : Wlan) (data : EventDataAll) : Prop :=
  data.iptype = .v4 → data.ipv4Addr ≠ 0 → ∀ i, w.wlanClient.index data.macAddr = some i →
    (w.wlanClient.slot i).own.powerSaveSet = true → (w.wlanClient.slot i).ipv4Set = true ∧ (w.wlanClient.slot i).v4Addr = data.ipv4Addr

theorem handleWlanClientIpaddr_rests {data : EventDataAll} (haddr : w.KeepsAddr data) (hin : w.wlanClient.InStep asleep) :
    Rests asleep w.wlanClient (w.handleWlanClientIpaddr D data o).2.1.wlanClient := by
  unfold handleWlanClientIpaddr
  cases hidx : w.wlanClient.index data.macAddr with
  | none => exact hin.rests
  | some i =>
    have hf := hin.fits _ i hidx
    dsimp only
    by_cases h4 : data.iptype = .v4
    · rw [if_pos h4]
      by_cases h0 : data.ipv4Addr ≠ 0
      · rw [if_pos h0]
        have haddr := haddr h4 h0 i hidx
        -- the client is awake wherever its address is written
        have hset : ∀ {c : Client WlanOwn}, (w.wlanClient.slot i).own.powerSaveSet = false → c.mac = (w.wlanClient.slot i).mac →
            c.own = (w.wlanClient.slot i).own → c.v4Addr = data.ipv4Addr → Rests asleep w.wlanClient (w.wlanClient.set i c) :=
          fun hps hmac hown hc => by
            have hawake : asleep data.macAddr = false := hf.flag.symm.trans hps
            refine hin.set_awake hidx hmac ⟨hown ▸ hps, fun hb => (nomatch hb), fun _ => hc ▸ h0⟩ hawake fun _ _ => rfl
        cases h4s : (w.wlanClient.slot i).ipv4Set with
        | false =>
          rw [if_pos rfl]
          refine hset (Bool.eq_false_iff.2 fun hps => ?_) rfl rfl rfl
          rw [h4s] at haddr
          exact Bool.false_ne_true (haddr hps).1
        | true =>
          rw [if_neg (by simp)]
          by_cases heq : data.ipv4Addr = (w.wlanClient.slot i).v4Addr
          · rw [if_pos heq]
            exact hin.rests
          · rw [if_neg heq, Client.deleteRtRules_v4]
            exact hset (Bool.eq_false_iff.2 fun hps => heq (haddr hps).2.symm) rfl rfl rfl
      · rw [if_neg h0]
        exact hin.rests
    · rw [if_neg h4]
      repeat' split
      all_goals first | exact hin.rests | exact hin.set_slot i rfl rfl rfl rfl id

theorem neighClientIpAddrAdd_rests (hD : AllSucceed D) {data : EventDataAll} (natIface : Option Bool) (haddr : w.KeepsAddr data)
    (h : w.Held s u o) (hin : w.wlanClient.InStep asleep) :
    Rests asleep w.wlanClient (w.neighClientIpAddrAdd D data natIface o).1.wlanClient := by
  have h1 := handleWlanClientIpaddr_rests (D := D) (o := o) haddr hin
  have hc := handleWlanClientIpaddr_conserves hD data h
  unfold neighClientIpAddrAdd
  rcases hr : w.handleWlanClientIpaddr D data o with ⟨ok, w', o'⟩
  rw [hr] at h1 hc
  cases ok with
  | false => exact h1
  | true => exact h1.trans (handleWlanClientRouteRule_rests hD data.macAddr data.iptype hc.held h1.inStep)

/-- **A client falls asleep**, under the address it has. -/
theorem handleWlanClientPwrsave_sleeps (macAddr : MacAddr) (asleep' : MacAddr → Bool) (hin : w.wlanClient.InStep asleep) (htrue : asleep' macAddr = true)
    (hsame : ∀ mac, mac ≠ macAddr → asleep' mac = asleep mac) :
    (w.handleWlanClientPwrsave D macAddr o).1.wlanClient.InStep asleep' ∧
      ∀ mac addr, (w.handleWlanClientPwrsave D macAddr o).1.wlanClient.Sleeper mac addr → w.wlanClient.Sleeper mac addr ∨
        ∃ i, w.wlanClient.index macAddr = some i ∧ (w.wlanClient.slot i).own.powerSaveSet = false ∧
          (w.wlanClient.slot i).ipv4Set = true ∧ (w.wlanClient.slot i).v4Addr = addr := by
  unfold handleWlanClientPwrsave
  cases hidx : w.wlanClient.index macAddr with
  | none => exact ⟨hin.absent hidx hsame, fun _ _ hs => .inl hs⟩
  | some i =>
    have hf := hin.fits _ i hidx
    dsimp only
    cases hps : (w.wlanClient.slot i).own.powerSaveSet with
    | true =>
      refine ⟨hin.congr fun mac _ _ => ?_, fun _ _ hs => .inl hs⟩
      by_cases hm : mac = macAddr
      · rw [hm, htrue, ← hf.flag, hps]
      · exact hsame mac hm
    | false =>
      rw [if_neg Bool.false_ne_true, Client.deleteRtRules_v4]
      dsimp only
      rw [Client.deleteRtRules_v6]
      refine ⟨hin.set hidx rfl ⟨htrue.symm, fun _ => ⟨rfl, rfl⟩, hf.addr⟩ hsame, fun mac addr hs => ?_⟩
      exact (ClientTable.sleeper_set hidx (by rfl) hs).imp id fun ⟨_, _, h4, ha⟩ => ⟨i, rfl, hps, h4, ha⟩

theorem clientRecover_rests (hD : AllSucceed D) (macAddr : MacAddr) (h : w.Held s u o) (hin : w.wlanClient.InStep asleep)
    (hfalse : asleep' macAddr = false) (hsame : ∀ mac, mac ≠ macAddr → asleep' mac = asleep mac) :
    Rests asleep' w.wlanClient (w.clientRecover D macAddr o).1.wlanClient := by
  unfold clientRecover
  cases hidx : w.wlanClient.index macAddr with
  | none => exact (hin.absent hidx hsame).rests
  | some i =>
    have hf := hin.fits _ i hidx
    dsimp only
    cases hps : (w.wlanClient.slot i).own.powerSaveSet with
    | false =>
      refine (hin.congr fun mac _ _ => ?_).rests
      by_cases hm : mac = macAddr
      · rw [hm, hfalse, ← hf.flag, hps]
      · exact hsame mac hm
    | true =>
      rw [if_neg (by simp)]
      have h1 : Rests asleep' w.wlanClient (w.wlanClient.set i { w.wlanClient.slot i with own := ⟨false⟩ }) :=
        hin.set_awake hidx rfl ⟨rfl, fun hb => (nomatch hb), hf.addr⟩ hfalse hsame
      have hc : Conserves s u w { w with wlanClient := w.wlanClient.set i { w.wlanClient.slot i with own := ⟨false⟩ } } o :=
        conserves_set h (ClientTable.index_some hidx).1 rfl rfl rfl fun _ _ h => h
      by_cases h4 : (w.wlanClient.slot i).ipv4Set = true
      · have h2 := handleWlanClientRouteRule_rests hD macAddr .v4 hc.held h1.inStep
        have hc2 := (handleWlanClientRouteRule_conserves hD macAddr .v4 hc.held).tell
          (.natCall (.resetPwrSaveIf (w.wlanClient.slot i).v4Addr))
        rw [if_pos h4]
        split
        · exact (h1.trans h2).trans (handleWlanClientRouteRule_rests hD macAddr .v6 hc2.held h2.inStep)
        · exact h1.trans h2
      · rw [if_neg h4]
        split
        · exact h1.trans (handleWlanClientRouteRule_rests hD macAddr .v6 hc.held h1.inStep)
        · exact h1

theorem handleWlanClientResetRtV6_rests (hin : w.wlanClient.InStep asleep) :
    Rests asleep w.wlanClient (w.handleWlanClientResetRtV6 D o).1.wlanClient := by
  refine (Lib.untilFailure_inv (fun p : ClientTable WlanOwn × Outside => Rests asleep w.wlanClient p.1) (fun i _ p hp => ?_)
    (s := (w.wlanClient, o)) hin.rests).2
  rw [Client.deleteRtRules_v6]
  exact ⟨rfl, hp.trans (hp.inStep.set_slot i rfl rfl rfl rfl fun hoff => ⟨hoff.1, rfl⟩)⟩

end Wlan

/-- What an event says of a client's sleep. -/
def WlanEvt.power (mac : MacAddr) : WlanEvt → Option Bool
  | .clientPowerSave m => if m = mac then some true else none
  | .clientRecover m | .clientDel m => if m = mac then some false else none
  | _ => none

/-- Who sleeps after an event. -/
def WlanEvt.asleep (e : WlanEvt) (asleep : MacAddr → Bool) (mac : MacAddr) : Bool := (e.power mac).getD (asleep mac)

namespace Wlan

open ClientTable (Rests)

variable {w : Wlan} {o : Outside} {s u : Multiset Nat} {asleep : MacAddr → Bool}

/-- Nobody joins asleep, no flag moves to another client, and nobody asleep gets a new IPv4 address. -/
def KeepsAsleep (w : Wlan) (total : Int) (asleep : MacAddr → Bool) : WlanEvt → Prop
  | .clientAddEx attribs => w.Adds total → w.wlanClient.index (w.addedMac attribs) = none → asleep (w.addedMac attribs) = false
  | .clientDel mac => ∀ i, w.wlanClient.index mac = some i → ∀ k, i ≤ k → k + 1 < w.wlanClient.num →
      (w.wlanClient.slot k).own.powerSaveSet = (w.wlanClient.slot (k + 1)).own.powerSaveSet
  | .neighClientIpAddrAdd data _ => w.KeepsAddr data
  | _ => True

/-- **One event at an access point**: the records go on agreeing about who sleeps, and whoever sleeps slept before under the
same address, or has just been listed. -/
theorem eventCallback_sleepers (hD : AllSucceed D) {e : WlanEvt} {total : Int} (hact : w.isActive = true)
    (hk : w.KeepsAsleep total asleep e) (hflags : ∀ i, FlagsOk w.txProp (w.wlanClient.slot i)) (h : w.Held s u o)
    (hin : w.wlanClient.InStep asleep) (hact' : (w.eventCallback D e total o).1.isActive = true) :
    (w.eventCallback D e total o).1.wlanClient.InStep (e.asleep asleep) ∧
      ∀ mac addr, (w.eventCallback D e total o).1.wlanClient.Sleeper mac addr →
        w.wlanClient.Sleeper mac addr ∨ w.tells e = [.natCall (.updatePwrSaveIf addr)] := by
  have hrests : ∀ {t : ClientTable WlanOwn}, Rests (e.asleep asleep) w.wlanClient t → t.InStep (e.asleep asleep) ∧
      ∀ mac addr, t.Sleeper mac addr → w.wlanClient.Sleeper mac addr ∨ w.tells e = [.natCall (.updatePwrSaveIf addr)] :=
    fun hr => ⟨hr.inStep, fun mac addr hs => .inl (hr.sleeper mac addr hs)⟩
  unfold eventCallback at hact' ⊢
  rw [if_neg (by simp [hact])] at hact' ⊢
  cases e with
  | clientAdd mac => exact hrests hin.rests
  | clientAddEx attribs =>
    by_cases hadd : w.Adds total
    · obtain ⟨c, o', hr, hmac, -, -⟩ := @handleWlanClientInitEx_adds _ _ _ _ _ hD attribs _ hadd (hflags _) h
      simp only [hr]
      refine hrests (hin.push (c := freshRecord c) ⟨rfl, rfl, rfl, rfl⟩ fun hnone => ?_)
      have hm : (freshRecord c).mac = w.addedMac attribs := hmac
      rw [hm] at hnone ⊢
      exact hk hadd hnone
    · simp only [handleWlanClientInitEx_refuses hadd]
      exact hrests hin.rests
  | clientDel mac =>
    have hfalse : WlanEvt.asleep (.clientDel mac) asleep mac = false := by simp [WlanEvt.asleep, WlanEvt.power]
    have hsame : ∀ mac', mac' ≠ mac → WlanEvt.asleep (.clientDel mac) asleep mac' = asleep mac' := fun mac' hne => by
      simp [WlanEvt.asleep, WlanEvt.power, Ne.symm hne]
    simp only [handleWlanClientDownEvt]
    cases hidx : w.wlanClient.index mac with
    | none =>
      simp only [ClientTable.clientDown_none hidx]
      exact hrests (hin.absent hidx hsame).rests
    | some i =>
      obtain ⟨c, o', hr, hown, -, -⟩ := ClientTable.clientDown_deletes hD hidx h
      simp only [hr]
      refine hrests (hin.removed hidx hown (fun k hik hlt => ?_) hfalse hsame)
      have hflag := hk i hidx k hik hlt
      rcases h1 : (w.wlanClient.slot k).own with ⟨b⟩
      rcases h2 : (w.wlanClient.slot (k + 1)).own with ⟨b'⟩
      rw [h1, h2] at hflag
      rw [show b = b' from hflag]
  | clientPowerSave mac =>
    obtain ⟨hin', hs⟩ := handleWlanClientPwrsave_sleeps (D := D) (o := o) mac (WlanEvt.asleep (.clientPowerSave mac) asleep) hin
      (by simp [WlanEvt.asleep, WlanEvt.power]) (fun mac' hne => by simp [WlanEvt.asleep, WlanEvt.power, Ne.symm hne])
    refine ⟨hin', fun mac' addr hs' => (hs mac' addr hs').imp id ?_⟩
    rintro ⟨i, hidx, hps, h4, rfl⟩
    rw [tells, if_neg (by simp [hact])]
    dsimp only
    rw [hidx]
    exact if_pos ⟨hps, h4⟩
  | clientRecover mac =>
    exact hrests (clientRecover_rests hD mac h hin (by simp [WlanEvt.asleep, WlanEvt.power])
      fun mac' hne => by simp [WlanEvt.asleep, WlanEvt.power, Ne.symm hne])
  | neighClientIpAddrAdd data natIface => exact hrests (neighClientIpAddrAdd_rests hD natIface hk h hin)
  | wanUpV6Tether prefix6 => exact hrests hin.rests
  | wanDownV6Tether => exact hrests (handleWlanClientResetRtV6_rests hin)
  | linkDown => exact absurd hact' Bool.false_ne_true

end Wlan
end HiaeCommon
