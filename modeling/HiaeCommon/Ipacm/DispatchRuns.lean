/-
Dispatch while listeners delete themselves. The node in hand was copied, so a
callback may free it; what the walk goes on to is the node behind it, which
a deletion must leave alone. It does where the event an instance deletes
itself on is the last it is registered for.
-/
import HiaeCommon.Ipacm.IfaceManager
import HiaeCommon.Lib.Run

namespace HiaeCommon

open Function (update)
open EvtDispatcher (Reg)
open Lib (Run)

/-- The event an instance deletes itself on and is last registered for. -/
def Listener.deletingEvent : Listener → Option IpaCmEventId
  | .lan .. | .wlan .. => some .lanDeleteSelf
  | .wan _ _ .wlanWan => some .wlanLinkDown
  | .wan _ _ _ => some .linkDown
  | _ => none

/-- The events the interface manager creates instances on. -/
def IpaCmEventId.opens : IpaCmEventId → Bool
  | .linkUp | .usbLinkUp | .wlanApLinkUp | .wlanStaLinkUp | .wanEmbmsLinkUp => true
  | _ => false

/-- Each event once, and `last` in front of none. -/
def Ordered (last : Option IpaCmEventId) (events : List IpaCmEventId) : Prop :=
  events.Nodup ∧ events.Pairwise fun e _ => last ≠ some e

/-- The registrations of an instance: ordered, and for no event instances are created on. -/
def Opened (last : Option IpaCmEventId) (events : List IpaCmEventId) : Prop :=
  Ordered last events ∧ ∀ e ∈ events, e.opens = false

instance (last : Option IpaCmEventId) (events : List IpaCmEventId) : Decidable (Ordered last events) :=
  inferInstanceAs (Decidable (_ ∧ _))

instance (last : Option IpaCmEventId) (events : List IpaCmEventId) : Decidable (Opened last events) :=
  inferInstanceAs (Decidable (_ ∧ _))

theorem lanEvents_opened : Opened (some .lanDeleteSelf) lanEvents := by decide
theorem ethEvents_opened : Opened (some .lanDeleteSelf) ethEvents := by decide
theorem oduRouterEvents_opened : Opened (some .lanDeleteSelf) oduRouterEvents := by decide
theorem oduBridgeEvents_opened : Opened (some .lanDeleteSelf) oduBridgeEvents := by decide
theorem wlanEvents_opened : Opened (some .lanDeleteSelf) wlanEvents := by decide

theorem wanEvents_opened (i : Nat) (cat : IfaceType) (staMode : WanIfaceType) :
    Opened (Listener.wan i cat staMode).deletingEvent (wanEvents staMode) := by
  cases staMode <;> (simp only [Listener.deletingEvent]; decide)

theorem embmsEvents_opened (last : Option IpaCmEventId) : Opened last embmsEvents := by
  simp [Opened, Ordered, embmsEvents, IpaCmEventId.opens]

theorem MainListener.events_ordered (m : MainListener) : Ordered none m.events := by
  cases m <;> decide

namespace Ipacm

/-- The deleting event of an object that is alive. -/
def deletes (s : Ipacm) (obj : Nat) : Option (Option IpaCmEventId) := (s.objs obj).map Listener.deletingEvent

/-- `l` are the registrations: of objects alive, once for each event, and no node of an
object behind the one of its deleting event. -/
structure Inv (s : Ipacm) (l : List Reg) : Prop where
  holds : s.dispatcher.Holds l
  alive : ∀ r ∈ l, s.deletes r.obj ≠ none
  lt : ∀ obj, s.deletes obj ≠ none → obj < s.newObj
  once : l.Pairwise fun r r' => r.obj = r'.obj → r.event ≠ r'.event ∧ s.deletes r.obj ≠ some (some r.event)

theorem init_inv (cfg : IfaceConfig) : (init cfg).Inv [] :=
  ⟨EvtDispatcher.Holds.init_holds, fun _ hr => (nomatch hr), fun _ h => absurd rfl h, .nil⟩

namespace Inv

variable {s t : Ipacm} {l : List Reg} {obj : Nat}

theorem exists_obj (h : s.Inv l) {r : Reg} (hr : r ∈ l) : ∃ li, s.objs r.obj = some li := by
  have halive := h.alive r hr
  cases hobj : s.objs r.obj with
  | none => simp [deletes, hobj] at halive
  | some li => exact ⟨li, rfl⟩

/-- What keeps the dispatcher and which object deletes itself on what. -/
theorem congr (h : s.Inv l) (hdisp : t.dispatcher = s.dispatcher) (hdel : ∀ obj, t.deletes obj = s.deletes obj)
    (hnew : t.newObj = s.newObj) : t.Inv l := by
  refine ⟨hdisp ▸ h.holds, ?_, ?_, ?_⟩
  · simpa only [hdel] using h.alive
  · simpa only [hdel, hnew] using h.lt
  · simpa only [hdel] using h.once

/-- An object constructed, with nothing registered for it. -/
theorem alloc (h : s.Inv l) (li : Listener) : (s.alloc li).1.Inv l ∧
    (s.alloc li).1.deletes s.newObj = some li.deletingEvent ∧ ∀ r ∈ l, r.obj ≠ s.newObj := by
  have hne : ∀ o, s.deletes o ≠ none → o ≠ s.newObj := fun o ho => Nat.ne_of_lt (h.lt o ho)
  have hold : ∀ o, o ≠ s.newObj → (s.alloc li).1.deletes o = s.deletes o := by
    intro o ho
    simp [deletes, Ipacm.alloc, ho]
  refine ⟨⟨h.holds, ?_, ?_, ?_⟩, by simp [deletes, Ipacm.alloc], fun r hr => hne _ (h.alive r hr)⟩
  · intro r hr
    rw [hold _ (hne _ (h.alive r hr))]
    exact h.alive r hr
  · intro o ho
    by_cases heq : o = s.newObj
    · exact heq ▸ Nat.lt_succ_self _
    · rw [hold o heq] at ho
      exact Nat.lt_succ_of_lt (h.lt o ho)
  · refine h.once.imp_of_mem ?_
    intro r r' hr _ hrr
    rw [hold _ (hne _ (h.alive r hr))]
    exact hrr

/-- Registrations of one object, for each event once and for the deleting one last. -/
theorem registrAll (h : s.Inv l) {events : List IpaCmEventId} (halive : s.deletes obj ≠ none)
    (hnodup : events.Nodup) (hlast : events.Pairwise fun e _ => s.deletes obj ≠ some (some e))
    (hearlier : ∀ e ∈ events, ∀ r ∈ l, r.obj = obj → r.event ≠ e ∧ s.deletes obj ≠ some (some r.event)) :
    ∃ d new, s.registrAll obj events = some { s with dispatcher := d } ∧
      Inv { s with dispatcher := d } (l ++ new) ∧ ∀ r ∈ new, r.obj = obj ∧ r.event ∈ events := by
  induction events generalizing s l with
  | nil => exact ⟨s.dispatcher, [], rfl, by simpa using h, fun _ hr => (nomatch hr)⟩
  | cons e events ih =>
    obtain ⟨hne, hnodup⟩ := List.nodup_cons.1 hnodup
    obtain ⟨hle, hlast⟩ := List.pairwise_cons.1 hlast
    obtain ⟨d, hd, hholds⟩ := EvtDispatcher.registr_holds h.holds e obj
    have h₁ : Inv { s with dispatcher := d } (l ++ [⟨s.dispatcher.brk, e, obj⟩]) := by
      refine ⟨hholds, ?_, h.lt, ?_⟩
      · intro r hr
        cases List.mem_append.1 hr with
        | inl hr => exact h.alive r hr
        | inr hr => exact List.mem_singleton.1 hr ▸ halive
      · refine List.pairwise_append.2 ⟨h.once, List.pairwise_singleton _ _, ?_⟩
        intro r hr r' hr' hobj
        obtain rfl := List.mem_singleton.1 hr'
        rw [hobj]
        exact hearlier e List.mem_cons_self r hr hobj
    obtain ⟨d', new, hall, hinv, hnew⟩ := ih h₁ halive hnodup hlast (by
      intro e' he' r hr hobj
      cases List.mem_append.1 hr with
      | inl hr => exact hearlier e' (List.mem_cons_of_mem _ he') r hr hobj
      | inr hr =>
        obtain rfl := List.mem_singleton.1 hr
        refine ⟨?_, hle e' he'⟩
        rintro rfl
        exact hne he')
    refine ⟨d', ⟨s.dispatcher.brk, e, obj⟩ :: new, ?_, by simpa using hinv, ?_⟩
    · simp [Ipacm.registrAll, hd, hall]
    · intro r hr
      cases List.mem_cons.1 hr with
      | inl hr => simp [hr]
      | inr hr => exact ⟨(hnew r hr).1, List.mem_cons_of_mem _ (hnew r hr).2⟩

/-- **An instance deleted**: its registrations are gone with it. -/
theorem delete (h : s.Inv l) (obj : Nat) : ∃ t, s.delete obj = some t ∧ t.Inv (l.filter fun r => r.obj ≠ obj) ∧
    t.newObj = s.newObj := by
  obtain ⟨d, hd, hholds⟩ := EvtDispatcher.deregistr_holds h.holds obj
  refine ⟨{ s with
    dispatcher := d
    instances := s.instances.filter fun p => p.2 ≠ obj
    objs := update s.objs obj none }, by simp [Ipacm.delete, hd], ⟨hholds, ?_, ?_, ?_⟩, rfl⟩
  · intro r hr
    have hne : r.obj ≠ obj := by simpa using (List.mem_filter.1 hr).2
    have halive := h.alive r (List.mem_filter.1 hr).1
    simpa [deletes, hne] using halive
  · intro o ho
    refine h.lt o fun hnone => ho ?_
    by_cases heq : o = obj
    · simp [deletes, heq]
    · simpa [deletes, heq] using hnone
  · refine List.Pairwise.imp_of_mem ?_ (h.once.sublist List.filter_sublist)
    intro r r' hr _ hrr hobj
    have hne : r.obj ≠ obj := by simpa using (List.mem_filter.1 hr).2
    have := hrr hobj
    simpa [deletes, hne] using this

/-- **Registrations of a new object**, for each event once and the deleting one last. -/
theorem register (h : s.Inv l) {li : Listener} {events : List IpaCmEventId} (hord : Ordered li.deletingEvent events)
    (hdel : s.deletes obj = some li.deletingEvent) (hfresh : ∀ r ∈ l, r.obj ≠ obj) :
    ∃ d new, s.registrAll obj events = some { s with dispatcher := d } ∧
      Inv { s with dispatcher := d } (l ++ new) ∧ ∀ r ∈ new, r.obj = obj ∧ r.event ∈ events := by
  refine h.registrAll (by rw [hdel]; simp) hord.1 ?_ ?_
  · simpa [hdel] using hord.2
  · exact fun _ _ r hr hobj => absurd hobj (hfresh r hr)

end Inv

theorem construct_inv {s : Ipacm} {l : List Reg} (h : s.Inv l) (m : MainListener) :
    ∃ t new, s.construct m = some t ∧ t.Inv (l ++ new) := by
  have hopen : ∀ li, Listener.deletingEvent li = none →
      ∃ t new, (s.alloc li).1.registrAll s.newObj m.events = some t ∧ t.Inv (l ++ new) := by
    intro li hli
    obtain ⟨halloc, hdel, hfresh⟩ := h.alloc li
    obtain ⟨d, new, hall, hinv, -⟩ := halloc.register (by rw [hli]; exact m.events_ordered) hdel hfresh
    exact ⟨_, new, hall, hinv⟩
  cases m with
  | neighbor => exact hopen .neighbor rfl
  | ifaceManager => exact hopen .ifaceManager rfl
  | lanToLan => exact hopen .lanToLan rfl
  | conntrackListener => exact hopen .conntrackListener rfl

/-- What a creation leaves: the registrations there were, and behind them those of new
objects, none of them for `event`. -/
def Grows (s : Ipacm) (l : List Reg) (event : IpaCmEventId) (t : Ipacm) : Prop :=
  ∃ new, t.Inv (l ++ new) ∧ (∀ r ∈ new, s.newObj ≤ r.obj ∧ r.event ≠ event) ∧ s.newObj ≤ t.newObj

theorem Inv.grows {s t : Ipacm} {l : List Reg} {event : IpaCmEventId} (h : t.Inv l) (hnew : s.newObj ≤ t.newObj) :
    s.Grows l event t :=
  ⟨[], by simpa using h, fun _ hr => (nomatch hr), hnew⟩

/-- `t` is `s` with an instance constructed, and perhaps statics set. -/
theorem openInstance_grows {s t : Ipacm} {l : List Reg} {event : IpaCmEventId} (h : s.Inv l) (li : Listener)
    {events : List IpaCmEventId} (hopened : Opened li.deletingEvent events) (hevent : event.opens = true)
    (hdisp : t.dispatcher = s.dispatcher) (hobjs : t.objs = (s.alloc li).1.objs) (hnew : t.newObj = s.newObj + 1)
    (i : Nat) : ∃ u, t.openInstance i s.newObj events = some u ∧ s.Grows l event u := by
  obtain ⟨halloc, hdel, hfresh⟩ := h.alloc li
  have hdels : ∀ obj, t.deletes obj = (s.alloc li).1.deletes obj := by
    intro obj
    simp only [deletes, hobjs]
  have ht : t.Inv l := halloc.congr hdisp hdels hnew
  obtain ⟨d, new, hall, hinv, hregs⟩ := ht.register hopened.1 ((hdels _).trans hdel) hfresh
  refine ⟨{ t with dispatcher := d, instances := t.instances ++ [(i, s.newObj)] }, ?_, new, ?_, ?_, ?_⟩
  · simp [openInstance, hall]
  · exact hinv.congr rfl (fun _ => rfl) rfl
  · intro r hr
    obtain ⟨hobj, hmem⟩ := hregs r hr
    refine ⟨Nat.le_of_eq hobj.symm, ?_⟩
    rintro rfl
    exact absurd hevent (by simp [hopened.2 _ hmem])
  · simp [hnew]

theorem newLan_eq (s : Ipacm) (i : Nat) : (s.newLan i).2 = s.newObj ∧ (s.newLan i).1.dispatcher = s.dispatcher ∧
    (s.newLan i).1.objs = (s.alloc (.lan i (s.cfg.ifCat i) true)).1.objs ∧ (s.newLan i).1.newObj = s.newObj + 1 := by
  simp only [newLan]
  split <;> exact ⟨rfl, rfl, rfl, rfl⟩

/-- **An instance created**, the third access point apart. -/
theorem createIfaceInstance_grows {s : Ipacm} {l : List Reg} {event : IpaCmEventId} (h : s.Inv l)
    (hevent : event.opens = true) (i : Nat) (staMode : WanIfaceType)
    (hwlan : s.searchInstance i = false → s.cfg.ifCat i = .wlanIf → 0 ≤ s.numWlanApIface ∧ s.numWlanApIface ≤ 1) :
    ∃ t, s.createIfaceInstance i staMode = some t ∧ s.Grows l event t := by
  have hnone : ∃ t, some s = some t ∧ s.Grows l event t := ⟨s, rfl, h.grows (Nat.le_refl _)⟩
  have hlan : ∀ events, Opened (some .lanDeleteSelf) events →
      ∃ t, (s.newLan i).1.openInstance i (s.newLan i).2 events = some t ∧ s.Grows l event t := by
    intro events hopened
    obtain ⟨hobj, hdisp, hobjs, hnew⟩ := s.newLan_eq i
    rw [hobj]
    exact openInstance_grows h (.lan i (s.cfg.ifCat i) true) hopened hevent hdisp hobjs hnew i
  have hwan : ∀ events, Opened (Listener.wan i (s.cfg.ifCat i) staMode).deletingEvent events →
      ∃ t, (s.newWan i staMode).1.openInstance i (s.newWan i staMode).2 events = some t ∧ s.Grows l event t :=
    fun _ hopened => openInstance_grows (t := (s.newWan i staMode).1) h _ hopened hevent rfl rfl rfl i
  simp only [createIfaceInstance]
  by_cases hfound : s.searchInstance i = true
  · rw [if_pos hfound]
    exact hnone
  rw [if_neg hfound]
  cases hcat : s.cfg.ifCat i with
  | lanIf => exact hlan _ lanEvents_opened
  | ethIf => exact hlan _ ethEvents_opened
  | oduIf =>
    simp only
    split
    · exact hlan _ oduRouterEvents_opened
    · exact hlan _ oduBridgeEvents_opened
  | wlanIf =>
    have hnum := hwlan (by simpa using hfound) hcat
    have hnew : s.newWlan i = some ({ (s.alloc (.wlan i true)).1 with numWlanApIface := s.numWlanApIface + 1 }, s.newObj) :=
      if_neg (by show ¬(s.numWlanApIface < 0 ∨ 1 < s.numWlanApIface); omega)
    obtain ⟨t, ht, hgrows⟩ := openInstance_grows
      (t := { (s.alloc (.wlan i true)).1 with numWlanApIface := s.numWlanApIface + 1 }) h (.wlan i true) wlanEvents_opened
      hevent rfl rfl rfl i
    exact ⟨t, by simpa [hnew] using ht, hgrows⟩
  | wanIf =>
    simp only
    split
    · exact hwan _ (wanEvents_opened i _ staMode)
    · exact hnone
  | embmsIf => exact hwan _ (embmsEvents_opened _)
  | virtualIf => exact hnone
  | unknownIf => exact hnone

theorem registrAll_holds {s : Ipacm} {l : List Reg} (h : s.dispatcher.Holds l) (obj : Nat) (events : List IpaCmEventId) :
    ∃ d new, s.registrAll obj events = some { s with dispatcher := d } ∧ d.Holds (l ++ new) ∧
      new.map (fun r => (r.event, r.obj)) = events.map fun e => (e, obj) := by
  induction events generalizing s l with
  | nil => exact ⟨s.dispatcher, [], rfl, by simpa using h, rfl⟩
  | cons e events ih =>
    obtain ⟨d, hd, hholds⟩ := EvtDispatcher.registr_holds h e obj
    obtain ⟨d', new, hall, hholds', hnew⟩ := @ih { s with dispatcher := d } _ hholds
    refine ⟨d', ⟨s.dispatcher.brk, e, obj⟩ :: new, ?_, by simpa using hholds', by simp [hnew]⟩
    simp [Ipacm.registrAll, hd, hall]

/-- **The third access point**: its constructor deletes the object, and the registrations
are made for what is no longer alive. -/
theorem createIfaceInstance_third {s : Ipacm} {l : List Reg} (h : s.Inv l) {i : Nat} (staMode : WanIfaceType)
    (hfound : s.searchInstance i = false) (hcat : s.cfg.ifCat i = .wlanIf) (hnum : 1 < s.numWlanApIface) :
    ∃ t new, s.createIfaceInstance i staMode = some t ∧ t.dispatcher.Holds (l ++ new) ∧
      new.map (fun r => (r.event, r.obj)) = wlanEvents.map (fun e => (e, s.newObj)) ∧ t.objs s.newObj = none := by
  obtain ⟨halloc, -, hfresh⟩ := h.alloc (.wlan i true)
  obtain ⟨u, hu, hinv, -⟩ := halloc.delete s.newObj
  rw [List.filter_eq_self.2 (by simpa using hfresh)] at hinv
  obtain ⟨d, new, hall, hholds, hnew⟩ := registrAll_holds hinv.holds s.newObj wlanEvents
  have hdead : u.objs s.newObj = none := by
    simp only [delete, bind, Option.bind_eq_some_iff] at hu
    obtain ⟨_, -, heq⟩ := hu
    cases heq
    exact Function.update_self _ _ _
  have hwlan : s.newWlan i = some (u, s.newObj) := by
    simp only [newWlan]
    rw [if_pos (.inr hnum)]
    simp only [alloc] at hu ⊢
    simp [hu]
  refine ⟨{ u with dispatcher := d, instances := u.instances ++ [(i, s.newObj)] }, new, ?_, hholds, hnew, hdead⟩
  simp [createIfaceInstance, hfound, hcat, hwlan, openInstance, hall]

/-! ## One callback -/

/-- An access point is to be created. -/
def OpensWlan (s : Ipacm) (data : EvtData) : Prop := ∃ i, data.ifIndex = some i ∧ s.searchInstance i = false ∧
  (data.event = .usbLinkUp ∧ s.cfg.ifCat i = .wlanIf ∨ data.event = .wlanApLinkUp ∧ s.cfg.ifCat i = .unknownIf)

/-- A callback creates no access point beyond the second, and an ECM instance finds the
category of its interface as it was. -/
def CallFits (s : Ipacm) (data : EvtData) : Listener → Prop
  | .ifaceManager => s.OpensWlan data → 0 ≤ s.numWlanApIface ∧ s.numWlanApIface ≤ 1
  | .wan i cate .ecmWan => data.event = .cfgChange → s.cfg.ifCat i = cate
  | _ => True

instance (s : Ipacm) (data : EvtData) : Decidable (s.OpensWlan data) :=
  match h : data.ifIndex with
  | none => isFalse fun hopens => by
      obtain ⟨i, hi, -⟩ := hopens
      exact absurd (hi.symm.trans h) (by simp)
  | some i => decidable_of_iff (s.searchInstance i = false ∧ (data.event = .usbLinkUp ∧ s.cfg.ifCat i = .wlanIf ∨
      data.event = .wlanApLinkUp ∧ s.cfg.ifCat i = .unknownIf)) (by simp [OpensWlan, h])

instance (s : Ipacm) (data : EvtData) (li : Listener) : Decidable (s.CallFits data li) :=
  match li with
  | .ifaceManager => inferInstanceAs (Decidable (s.OpensWlan data → _))
  | .wan i cate .ecmWan => inferInstanceAs (Decidable (data.event = .cfgChange → s.cfg.ifCat i = cate))
  | .wan _ _ .q6Wan | .wan _ _ .wlanWan => isTrue trivial
  | .neighbor | .lanToLan | .conntrackListener | .lan .. | .wlan .. => isTrue trivial

/-- What a callback leaves: all registrations and perhaps new ones, or those of the others. -/
def Turns (s : Ipacm) (l : List Reg) (obj : Nat) (event : IpaCmEventId) (t : Ipacm) : Prop :=
  s.Grows l event t ∨ t.Inv (l.filter fun r => r.obj ≠ obj) ∧ t.newObj = s.newObj ∧ s.deletes obj = some (some event)

section Callback

variable {s : Ipacm} {l : List Reg} {obj : Nat} {data : EvtData}

theorem Inv.unchanged (h : s.Inv l) : ∃ t, some s = some t ∧ s.Turns l obj data.event t :=
  ⟨s, rfl, .inl (h.grows (Nat.le_refl _))⟩

/-- Statics set, or an object marked. -/
theorem Inv.marked (h : s.Inv l) (t : Ipacm) (hdisp : t.dispatcher = s.dispatcher)
    (hdel : ∀ obj, t.deletes obj = s.deletes obj) (hnew : t.newObj = s.newObj) :
    ∃ u, some t = some u ∧ s.Turns l obj data.event u :=
  ⟨t, rfl, .inl ((h.congr hdisp hdel hnew).grows (Nat.le_of_eq hnew.symm))⟩

theorem deletes_update {li : Listener} (li' : Listener) (hobj : s.objs obj = some li) (h : li'.deletingEvent = li.deletingEvent)
    (o : Nat) : ({ s with objs := update s.objs obj (some li') } : Ipacm).deletes o = s.deletes o := by
  by_cases heq : o = obj
  · simp [deletes, heq, hobj, h]
  · simp [deletes, heq]

/-- `t` is `s` but for statics, and deletes the object. -/
theorem Inv.deleted (h : s.Inv l) {t : Ipacm} (hdisp : t.dispatcher = s.dispatcher) (hobjs : t.objs = s.objs)
    (hnew : t.newObj = s.newObj) (hdel : s.deletes obj = some (some data.event)) :
    ∃ u, t.delete obj = some u ∧ s.Turns l obj data.event u := by
  have ht : t.Inv l := h.congr hdisp (fun _ => by simp only [deletes, hobjs]) hnew
  obtain ⟨u, hu, hinv, hn⟩ := ht.delete obj
  exact ⟨u, hu, .inr ⟨hinv, hn.trans hnew, hdel⟩⟩

theorem lanCallback_turns (h : s.Inv l) {i : Nat} {cate : IfaceType} {active : Bool}
    (hobj : s.objs obj = some (.lan i cate active)) :
    ∃ t, s.lanCallback obj i cate active data = some t ∧ s.Turns l obj data.event t := by
  have hinactive : ∃ t, some { s with objs := update s.objs obj (some (.lan i cate false)) } = some t ∧
      s.Turns l obj data.event t := h.marked _ rfl (deletes_update (.lan i cate false) hobj rfl) rfl
  have hself : data.event = .lanDeleteSelf → ∃ t, s.delete obj = some t ∧ s.Turns l obj data.event t := fun he =>
    h.deleted rfl rfl rfl (by simp [deletes, hobj, Listener.deletingEvent, he])
  simp only [lanCallback]
  split
  · split
    · exact hinactive
    · exact h.unchanged
  · split
    · exact hinactive
    · exact h.unchanged
  · rename_i he
    split
    · exact hself he
    · exact h.unchanged
  · exact h.unchanged

theorem wlanCallback_turns (h : s.Inv l) {i : Nat} {active : Bool} (hobj : s.objs obj = some (.wlan i active)) :
    ∃ t, s.wlanCallback obj i active data = some t ∧ s.Turns l obj data.event t := by
  simp only [wlanCallback]
  split
  · split
    · exact h.marked _ rfl (deletes_update (.wlan i false) hobj rfl) rfl
    · exact h.unchanged
  · rename_i he
    split
    · exact h.deleted rfl rfl rfl (by simp [deletes, hobj, Listener.deletingEvent, he])
    · exact h.unchanged
  · exact h.unchanged

theorem wanCallback_turns (h : s.Inv l) {i : Nat} {cate : IfaceType} {staMode : WanIfaceType}
    (hobj : s.objs obj = some (.wan i cate staMode)) (hfits : s.CallFits data (.wan i cate staMode)) :
    ∃ t, s.wanCallback obj i cate staMode data = some t ∧ s.Turns l obj data.event t := by
  simp only [wanCallback]
  split
  · rename_i he
    split
    · rename_i hmode
      exact h.deleted rfl rfl rfl (by simp [deletes, hobj, Listener.deletingEvent, he, hmode.1])
    · exact h.unchanged
  · rename_i he
    split
    · -- an ECM instance whose category changed
      rename_i hcat
      obtain ⟨hcat, rfl⟩ := hcat
      exact absurd (hfits he) hcat
    · exact h.unchanged
  · rename_i he
    split
    · rename_i hmode
      refine h.deleted rfl rfl rfl ?_
      cases hmode.2 <;> simp_all [deletes, Listener.deletingEvent]
    · exact h.unchanged
  · exact h.unchanged

theorem ifaceManagerCallback_turns (h : s.Inv l) (hfits : s.CallFits data .ifaceManager) :
    ∃ t, s.ifaceManagerCallback data = some t ∧ s.Turns l obj data.event t := by
  have hcreate : ∀ (t : Ipacm) i staMode, t.Inv l → t.newObj = s.newObj → data.event.opens = true →
      (t.searchInstance i = false → t.cfg.ifCat i = .wlanIf → 0 ≤ t.numWlanApIface ∧ t.numWlanApIface ≤ 1) →
      ∃ u, t.createIfaceInstance i staMode = some u ∧ s.Turns l obj data.event u := by
    intro t i staMode ht hnew hevent hwlan
    obtain ⟨u, hu, new, hinv, hregs, hle⟩ := createIfaceInstance_grows ht hevent i staMode hwlan
    rw [hnew] at hregs hle
    exact ⟨u, hu, .inl ⟨new, hinv, hregs, hle⟩⟩
  have hset : ∀ i cat, (s.setIfCat i cat).Inv l := fun i cat => h.congr rfl (fun _ => rfl) rfl
  simp only [ifaceManagerCallback]
  split
  · exact h.marked _ rfl (fun _ => rfl) rfl
  · -- `IPA_LINK_UP_EVENT`
    rename_i he _
    split
    · rename_i hcat
      exact hcreate s _ _ h rfl (by rw [he]; rfl) fun _ hc => absurd (hc.symm.trans hcat) (by decide)
    · exact h.unchanged
  · -- `IPA_USB_LINK_UP_EVENT`
    rename_i i he hi
    split <;> exact hcreate s _ _ h rfl (by rw [he]; rfl) fun hnew hc => hfits ⟨i, hi, hnew, .inl ⟨he, hc⟩⟩
  · -- `IPA_WLAN_AP_LINK_UP_EVENT`
    rename_i i he hi
    split
    · rename_i hcat
      exact hcreate _ i _ (hset i .wlanIf) rfl (by rw [he]; rfl) fun hnew _ => hfits ⟨i, hi, hnew, .inr ⟨he, hcat⟩⟩
    · exact h.unchanged
  · -- `IPA_WLAN_STA_LINK_UP_EVENT`
    rename_i he _
    split
    · refine hcreate _ _ _ (hset _ .wanIf) rfl (by rw [he]; rfl) fun _ hc => ?_
      simp [setIfCat] at hc
    · exact h.unchanged
  · -- `IPA_WAN_EMBMS_LINK_UP_EVENT`
    rename_i he _
    split
    · refine hcreate _ _ _ (hset _ .embmsIf) rfl (by rw [he]; rfl) fun _ hc => ?_
      simp [setIfCat] at hc
    · exact h.unchanged
  · exact h.unchanged

/-- **A callback that fits.** -/
theorem eventCallback_turns (h : s.Inv l) {li : Listener} (hobj : s.objs obj = some li) (hfits : s.CallFits data li) :
    ∃ t, s.eventCallback obj data = some t ∧ s.Turns l obj data.event t := by
  simp only [eventCallback, hobj, bind, Option.bind_some]
  cases li with
  | neighbor => exact h.unchanged
  | ifaceManager => exact ifaceManagerCallback_turns h hfits
  | lanToLan => exact h.unchanged
  | conntrackListener => exact h.unchanged
  | lan i cate active => exact lanCallback_turns h hobj
  | wlan i active => exact wlanCallback_turns h hobj
  | wan i cate staMode => exact wanCallback_turns h hobj hfits

end Callback
end Ipacm

/-! ## The walk -/

/-- The nodes read off memory are those of the list. -/
theorem EvtDispatcher.Holds.regs_eq {d : EvtDispatcher} (l₁ : List Reg) {l₂ : List Reg} (h : d.Holds (l₁ ++ l₂)) (fuel : Nat)
    (hfuel : l₂.length ≤ fuel) : d.regs fuel ((l₂.map Reg.addr).headD 0) = l₂ := by
  induction l₂ generalizing l₁ fuel with
  | nil => cases fuel <;> rfl
  | cons r l₂ ih =>
    cases fuel with
    | zero => simp at hfuel
    | succ fuel =>
      have hne := h.addr_ne_zero (r := r) (by simp)
      have hnode := h.nodes (r := r) (by simp)
      have hrest := ih (l₁ ++ [r]) (by simpa using h) fuel (by simpa using hfuel)
      rw [List.map_cons, List.headD_cons, EvtDispatcher.regs, if_neg hne, hnode, h.next_eq]
      exact congrArg (r :: ·) hrest

theorem EvtDispatcher.Holds.mem_listeners {d : EvtDispatcher} {l : List Reg} (h : d.Holds l) {event : IpaCmEventId} {obj : Nat} :
    obj ∈ d.listeners event ↔ ∃ r ∈ l, r.event = event ∧ r.obj = obj := by
  have hregs : d.regs d.brk d.head = l := by
    rw [h.head_eq]
    exact EvtDispatcher.Holds.regs_eq [] h d.brk (Nat.le_of_lt h.length_lt)
  simp [EvtDispatcher.listeners, hregs, and_assoc]

/-- The walk has `ahead` before it: `tmp` points there, and each listener it began with is
still to be called there, or has been called and is not met again. -/
structure EvtWalk.Tracks (w : EvtWalk) (s : Ipacm) (ahead : List Reg) : Prop where
  tmp : w.tmp = (ahead.map Reg.addr).headD 0
  lt : ∀ obj ∈ w.began, obj < s.newObj
  calls : ∀ obj ∈ w.began,
    w.called.count obj = 0 ∧ (∃ r ∈ ahead, r.event = w.data.event ∧ r.obj = obj) ∨
      w.called.count obj = 1 ∧ ∀ r ∈ ahead, r.event = w.data.event → r.obj ≠ obj

/-- The registrations, and where in them the walk is. What a callback adds behind the last
node is not walked to. -/
def Daemon.Inv (m : Daemon) : Prop :=
  ∃ l, m.ipacm.Inv l ∧ ∀ w, m.walk = some w →
    ∃ behind ahead missed, l = behind ++ ahead ++ missed ∧ (ahead ≠ [] → missed = []) ∧ w.Tracks m.ipacm ahead

/-- The callback of a round fits. -/
def Daemon.Fits (m : Daemon) : Move → Prop
  | .visit => ∀ w n li, m.walk = some w → m.ipacm.dispatcher.nodes w.tmp = some n → n.event = w.data.event →
      m.ipacm.objs n.obj = some li → m.ipacm.CallFits w.data li
  | _ => True

section Visit

variable {w : EvtWalk} {s t : Ipacm} {r : Reg} {behind rest new : List Reg}

/-- What is ahead after a round in which the node was not for the event. -/
theorem EvtWalk.Tracks.skip (h : w.Tracks s (r :: rest)) (hne : r.event ≠ w.data.event) {next : Nat}
    (hnext : next = (rest.map Reg.addr).headD 0) : ({ w with tmp := next } : EvtWalk).Tracks s rest := by
  refine ⟨hnext, h.lt, ?_⟩
  intro obj hobj
  cases h.calls obj hobj with
  | inl hcall =>
    obtain ⟨hcount, r', hr', hevent, ho⟩ := hcall
    cases List.mem_cons.1 hr' with
    | inl heq => exact absurd (heq ▸ hevent) hne
    | inr hr' => exact .inl ⟨hcount, r', hr', hevent, ho⟩
  | inr hcall => exact .inr ⟨hcall.1, fun r' hr' => hcall.2 r' (List.mem_cons_of_mem _ hr')⟩

/-- What is ahead after a round in which the listener was called. -/
theorem EvtWalk.Tracks.call (h : w.Tracks s (r :: rest)) (hevent : r.event = w.data.event) {next : Nat} {ahead : List Reg}
    (hnext : next = (ahead.map Reg.addr).headD 0) (hle : s.newObj ≤ t.newObj)
    (hrest : ∀ r' ∈ rest, r'.event = w.data.event → r' ∈ ahead)
    (hahead : ∀ r' ∈ ahead, r'.event = w.data.event → r' ∈ rest ∧ r'.obj ≠ r.obj) :
    ({ w with tmp := next, called := w.called ++ [r.obj] } : EvtWalk).Tracks t ahead := by
  refine ⟨hnext, fun obj hobj => Nat.lt_of_lt_of_le (h.lt obj hobj) hle, ?_⟩
  intro obj hobj
  by_cases heq : r.obj = obj
  · subst heq
    cases h.calls r.obj hobj with
    | inl hcall => exact .inr ⟨by simp [hcall.1], fun r' hr' he => (hahead r' hr' he).2⟩
    | inr hcall => exact absurd rfl (hcall.2 r List.mem_cons_self hevent)
  · have hcount : (w.called ++ [r.obj]).count obj = w.called.count obj := by simp [List.count_append, heq]
    simp only [hcount]
    cases h.calls obj hobj with
    | inl hcall =>
      obtain ⟨hzero, r', hr', he, ho⟩ := hcall
      cases List.mem_cons.1 hr' with
      | inl hrr => exact absurd (hrr ▸ ho) heq
      | inr hr' => exact .inl ⟨hzero, r', hrest r' hr' he, he, ho⟩
    | inr hcall =>
      exact .inr ⟨hcall.1, fun r' hr' he => hcall.2 r' (List.mem_cons_of_mem _ (hahead r' hr' he).1) he⟩

end Visit

/-- What is left of a walk: the nodes for its event ahead, and all nodes ahead. -/
def EvtWalk.left (w : EvtWalk) (ahead : List Reg) : Nat × Nat :=
  (ahead.countP fun r => r.event = w.data.event, ahead.length)

/-- **A round that fits.** -/
theorem Daemon.visit_inv {s : Ipacm} {w : EvtWalk} {behind ahead missed : List Reg} (h : s.Inv (behind ++ ahead ++ missed))
    (hmissed : ahead ≠ [] → missed = []) (htracks : w.Tracks s ahead) (htmp : w.tmp ≠ 0)
    (hfits : Daemon.Fits ⟨s, some w⟩ .visit) :
    ∃ t w' behind' ahead' missed', w.visit s = some (t, w') ∧ t.Inv (behind' ++ ahead' ++ missed') ∧
      (ahead' ≠ [] → missed' = []) ∧ w'.Tracks t ahead' ∧ w'.data = w.data ∧
      Prod.Lex (· < ·) (· < ·) (w'.left ahead') (w.left ahead) := by
  cases ahead with
  | nil => exact absurd htracks.tmp htmp
  | cons r rest =>
    obtain rfl := hmissed (by simp)
    have hinv : s.Inv (behind ++ r :: rest) := by simpa using h
    have htmp' : w.tmp = r.addr := htracks.tmp
    have hnode := hinv.holds.nodes (r := r) (by simp)
    have hnext := hinv.holds.next_eq
    by_cases hevent : w.data.event = r.event
    · obtain ⟨li, hli⟩ := hinv.exists_obj (r := r) (by simp)
      obtain ⟨t, ht, hturn⟩ := Ipacm.eventCallback_turns hinv hli (hfits w _ li rfl (htmp' ▸ hnode) hevent.symm hli)
      -- nobody ahead is the listener again
      have hother : ∀ r' ∈ rest, r'.obj = r.obj → r'.event ≠ w.data.event ∧ s.deletes r.obj ≠ some (some r.event) := by
        intro r' hr' hobj
        have honce := List.pairwise_cons.1 (List.pairwise_append.1 hinv.once).2.1
        have hpair := honce.1 r' hr' hobj.symm
        exact ⟨fun he => hpair.1 (hevent.symm.trans he.symm), hpair.2⟩
      have hcount : (r :: rest).countP (fun r => r.event = w.data.event) =
          rest.countP (fun r => r.event = w.data.event) + 1 := List.countP_cons_of_pos (by simp [hevent])
      have hround : w.visit s =
          some (t, { w with tmp := s.dispatcher.next r.addr, called := w.called ++ [r.obj] }) := by
        simp [EvtWalk.visit, htmp', hnode, hevent, ht]
      cases hturn with
      | inl hgrows =>
        obtain ⟨new, hnew, hregs, hle⟩ := hgrows
        have hcountNew : (rest ++ new).countP (fun r => r.event = w.data.event) =
            rest.countP fun r => r.event = w.data.event := by
          have hnone : new.countP (fun r => r.event = w.data.event) = 0 :=
            List.countP_eq_zero.2 fun r' hr' => by simpa using (hregs r' hr').2
          rw [List.countP_append, hnone, Nat.add_zero]
        cases rest with
        | nil =>
          refine ⟨t, _, behind ++ [r], [], new, hround, by simpa using hnew, fun hne => absurd rfl hne,
            htracks.call hevent.symm hnext hle (fun _ hr' => (nomatch hr')) fun _ hr' => (nomatch hr'), rfl, ?_⟩
          exact Prod.Lex.left _ _ (hcount ▸ Nat.lt_succ_self _)
        | cons r₂ rest =>
          refine ⟨t, _, behind ++ [r], r₂ :: rest ++ new, [], hround, by simpa using hnew, fun _ => rfl,
            htracks.call hevent.symm (by simpa using hnext) hle (fun r' hr' _ => List.mem_append_left _ hr') ?_, rfl, ?_⟩
          · intro r' hr' he
            cases List.mem_append.1 hr' with
            | inl hr' => exact ⟨hr', fun hobj => (hother r' hr' hobj).1 he⟩
            | inr hr' => exact absurd he (hregs r' hr').2
          · exact Prod.Lex.left _ _ (hcountNew ▸ hcount ▸ Nat.lt_succ_self _)
      | inr hdel =>
        obtain ⟨hinv', hnew, hdeletes⟩ := hdel
        have hkept : ∀ r' ∈ rest, r'.obj ≠ r.obj := by
          intro r' hr' hobj
          exact (hother r' hr' hobj).2 (hevent ▸ hdeletes)
        have hfilter : (behind ++ r :: rest).filter (fun r' => r'.obj ≠ r.obj) =
            behind.filter (fun r' => r'.obj ≠ r.obj) ++ rest ++ [] := by
          have hrest : rest.filter (fun r' => r'.obj ≠ r.obj) = rest := List.filter_eq_self.2 (by simpa using hkept)
          rw [List.filter_append, List.filter_cons_of_neg (by simp), hrest, List.append_nil]
        rw [hfilter] at hinv'
        refine ⟨t, _, _, rest, [], hround, hinv', fun _ => rfl,
          htracks.call hevent.symm hnext (Nat.le_of_eq hnew.symm) (fun _ hr' _ => hr') fun r' hr' _ => ⟨hr', hkept r' hr'⟩,
          rfl, ?_⟩
        exact Prod.Lex.left _ _ (hcount ▸ Nat.lt_succ_self _)
    · refine ⟨s, { w with tmp := s.dispatcher.next r.addr }, behind ++ [r], rest, [], ?_, by simpa using hinv, fun _ => rfl,
        htracks.skip (Ne.symm hevent) hnext, rfl, ?_⟩
      · simp [EvtWalk.visit, htmp', hnode, hevent]
      · have hcount : (r :: rest).countP (fun r => r.event = w.data.event) = rest.countP fun r => r.event = w.data.event :=
          List.countP_cons_of_neg (by simpa using Ne.symm hevent)
        exact Prod.Lex.right' _ (Nat.le_of_eq hcount.symm) (Nat.lt_succ_self _)

namespace Daemon

/-- The daemon as it starts. -/
def init (cfg : IfaceConfig) : Daemon := ⟨.init cfg, none⟩

/-- A move that is made. -/
def Step (m : Daemon) (move : Move) (m' : Daemon) : Prop := m.move move = some m'

/-- A move that is made and fits. -/
def FitStep (m : Daemon) (move : Move) (m' : Daemon) : Prop := m.Fits move ∧ m.move move = some m'

/-- The node the walk is at is in memory, and its listener alive if it is to be called;
nobody is called twice; and at the end whoever was registered and is alive was called. -/
def Safe (m : Daemon) : Prop := ∀ w, m.walk = some w →
  (w.tmp ≠ 0 → ∃ n, m.ipacm.dispatcher.nodes w.tmp = some n ∧ (n.event = w.data.event → m.ipacm.objs n.obj ≠ none)) ∧
  (∀ obj ∈ w.began, w.called.count obj ≤ 1) ∧
  (w.tmp = 0 → ∀ obj ∈ w.began, m.ipacm.objs obj ≠ none → w.called.count obj = 1)

/-- From here only finitely many rounds are gone, all of them fitting. -/
def Ends : Daemon → Prop := Acc fun m' m => m.FitStep .visit m'

theorem init_inv (cfg : IfaceConfig) : (init cfg).Inv := ⟨[], Ipacm.init_inv cfg, fun _ hw => (nomatch hw)⟩

theorem Inv.safe {m : Daemon} (h : m.Inv) : m.Safe := by
  intro w hw
  obtain ⟨l, hinv, hwalk⟩ := h
  obtain ⟨behind, ahead, missed, rfl, hmissed, htracks⟩ := hwalk w hw
  refine ⟨?_, ?_, ?_⟩
  · intro htmp
    cases ahead with
    | nil => exact absurd htracks.tmp htmp
    | cons r rest =>
      obtain ⟨li, hli⟩ := hinv.exists_obj (r := r) (by simp)
      have hnode := hinv.holds.nodes (r := r) (by simp)
      refine ⟨_, (show w.tmp = r.addr from htracks.tmp) ▸ hnode, fun _ => ?_⟩
      simp [hli]
  · intro obj hobj
    cases htracks.calls obj hobj with
    | inl hcall => omega
    | inr hcall => omega
  · intro htmp obj hobj _
    cases htracks.calls obj hobj with
    | inr hcall => exact hcall.1
    | inl hcall =>
      -- with nothing ahead, nobody is left to be called
      obtain ⟨-, r, hr, -⟩ := hcall
      cases ahead with
      | nil => cases hr
      | cons r₀ rest =>
        have hne := hinv.holds.addr_ne_zero (r := r₀) (by simp)
        exact absurd (htracks.tmp.symm.trans htmp) hne

/-- **A round can be gone**, and the walk is nearer its end. -/
theorem Inv.visit {m : Daemon} (h : m.Inv) {w : EvtWalk} (hw : m.walk = some w) (htmp : w.tmp ≠ 0) (hfits : m.Fits .visit) :
    ∃ m', m.move .visit = some m' ∧ m'.Inv := by
  obtain ⟨l, hinv, hwalk⟩ := h
  obtain ⟨behind, ahead, missed, rfl, hmissed, htracks⟩ := hwalk w hw
  have hm : m = ⟨m.ipacm, some w⟩ := by
    rw [← hw]
  obtain ⟨t, w', behind', ahead', missed', hvisit, hinv', hmissed', htracks', -⟩ :=
    visit_inv hinv hmissed htracks htmp (hm ▸ hfits)
  refine ⟨⟨t, some w'⟩, ?_, _, hinv', ?_⟩
  · simp [move, hw, htmp, hvisit]
  · intro w₂ hw₂
    cases hw₂
    exact ⟨behind', ahead', missed', rfl, hmissed', htracks'⟩

/-- With nothing under way, or nothing ahead, no round is gone. -/
theorem ends_of_idle {m : Daemon} (h : ∀ w, m.walk = some w → w.tmp = 0) : m.Ends := by
  refine Acc.intro _ fun m' hstep => ?_
  obtain ⟨-, hmove⟩ := hstep
  cases hw : m.walk with
  | none => simp [move, hw] at hmove
  | some w => simp [move, hw, h w hw] at hmove

/-- **The rounds come to an end**: each takes a node for the event off what is ahead, or
one that is not and adds none. -/
theorem walk_ends (left : Nat × Nat) : ∀ (s : Ipacm) (w : EvtWalk) (behind ahead missed : List Reg), w.left ahead = left →
    s.Inv (behind ++ ahead ++ missed) → (ahead ≠ [] → missed = []) → w.Tracks s ahead → Ends ⟨s, some w⟩ := by
  have hwf : WellFounded (Prod.Lex (α := Nat) (β := Nat) (· < ·) (· < ·)) := (Prod.lex Nat.lt_wfRel Nat.lt_wfRel).wf
  induction left using hwf.induction with
  | _ left ih =>
    intro s w behind ahead missed hleft hinv hmissed htracks
    by_cases htmp : w.tmp = 0
    · refine ends_of_idle fun w' hw' => ?_
      cases hw'
      exact htmp
    refine Acc.intro _ fun m' hstep => ?_
    obtain ⟨hfits, hmove⟩ := hstep
    obtain ⟨t, w', behind', ahead', missed', hvisit, hinv', hmissed', htracks', -, hlt⟩ :=
      visit_inv hinv hmissed htracks htmp hfits
    have hm' : m' = ⟨t, some w'⟩ := by simpa [move, htmp, hvisit] using hmove.symm
    subst hm'
    exact ih _ (hleft ▸ hlt) t w' behind' ahead' missed' rfl hinv' hmissed' htracks'

theorem Inv.ends {m : Daemon} (h : m.Inv) : m.Ends := by
  obtain ⟨s, walk⟩ := m
  obtain ⟨l, hinv, hwalk⟩ := h
  cases walk with
  | none => exact ends_of_idle fun _ hw => (nomatch hw)
  | some w =>
    obtain ⟨behind, ahead, missed, hl, hmissed, htracks⟩ := hwalk w rfl
    exact walk_ends _ s w behind ahead missed rfl (hl ▸ hinv) hmissed htracks

/-- **The step lemma.** -/
theorem Inv.step {m m' : Daemon} {move : Move} (h : m.Inv) (hstep : m.FitStep move m') : m'.Inv := by
  obtain ⟨hfits, hmove⟩ := hstep
  cases hw : m.walk with
  | none =>
    obtain ⟨l, hinv, -⟩ := h
    cases move with
    | construct k =>
      obtain ⟨t, new, ht, hnew⟩ := Ipacm.construct_inv hinv k
      simp only [Daemon.move, hw, ht, Option.map_some, Option.some.injEq] at hmove
      subst hmove
      exact ⟨_, hnew, fun _ hw' => (nomatch hw')⟩
    | dispatch data =>
      simp only [Daemon.move, hw, Option.some.injEq] at hmove
      subst hmove
      refine ⟨l, hinv, ?_⟩
      intro w hw'
      cases hw'
      refine ⟨[], l, [], by simp, fun _ => rfl, hinv.holds.head_eq, ?_, ?_⟩
      · intro obj hobj
        obtain ⟨r, hr, -, rfl⟩ := hinv.holds.mem_listeners.1 hobj
        exact hinv.lt r.obj (hinv.alive r hr)
      · exact fun obj hobj => .inl ⟨rfl, hinv.holds.mem_listeners.1 hobj⟩
    | visit => simp [Daemon.move, hw] at hmove
    | finish => simp [Daemon.move, hw] at hmove
  | some w =>
    cases move with
    | construct k => simp [Daemon.move, hw] at hmove
    | dispatch data => simp [Daemon.move, hw] at hmove
    | visit =>
      have htmp : w.tmp ≠ 0 := by
        intro h0
        simp [Daemon.move, hw, h0] at hmove
      obtain ⟨m₂, hm₂, hinv⟩ := h.visit hw htmp hfits
      obtain rfl := Option.some.inj (hm₂.symm.trans hmove)
      exact hinv
    | finish =>
      have htmp : w.tmp = 0 := by
        by_contra h0
        simp [Daemon.move, hw, h0] at hmove
      simp only [Daemon.move, hw, htmp, if_true, Option.some.injEq] at hmove
      subst hmove
      obtain ⟨l, hinv, -⟩ := h
      exact ⟨l, hinv, fun _ hw' => (nomatch hw')⟩

/-- **Dispatch with self-deleting listeners**, over every run whose callbacks fit: the walk
is safe, the next round of it can be gone, and the rounds come to an end. -/
theorem dispatch_run {cfg : IfaceConfig} {moves : List Move} {m : Daemon} (h : Run FitStep (init cfg) moves m) :
    m.Safe ∧ (∀ w, m.walk = some w → w.tmp ≠ 0 → m.Fits .visit → ∃ m', m.move .visit = some m') ∧ m.Ends := by
  have hinv : m.Inv := h.invariant Daemon.Inv (fun _ _ _ hstep hi => hi.step hstep) (init_inv cfg)
  refine ⟨hinv.safe, ?_, ?_⟩
  · intro w hw htmp hfits
    obtain ⟨m', hm', -⟩ := hinv.visit hw htmp hfits
    exact ⟨m', hm'⟩
  · exact hinv.ends

/-- Interface 0 is a WAN interface, the others are not known. -/
def sampleConfig : IfaceConfig := ⟨fun i => if i = 0 then .wanIf else .unknownIf, false, false, false⟩

/-- The same with interface 0 in the LAN. -/
def changedConfig : IfaceConfig := ⟨fun i => if i = 0 then .lanIf else .unknownIf, false, false, false⟩

/-- The callback of a round, looked at before it is made. -/
def fitsCheck (m : Daemon) : Move → Bool
  | .visit => m.walk.all fun w => (m.ipacm.dispatcher.nodes w.tmp).all fun n =>
      n.event != w.data.event || (m.ipacm.objs n.obj).all fun li => decide (m.ipacm.CallFits w.data li)
  | _ => true

theorem fits_of_check {m : Daemon} {move : Move} (h : m.fitsCheck move = true) : m.Fits move := by
  cases move with
  | visit =>
    intro w n li hw hn he hobj
    simp [fitsCheck, hw, hn, he, hobj] at h
    exact h
  | _ => trivial

/-- Moves made one after the other, with and without the check. -/
def moves (m : Daemon) : List Move → Option Daemon
  | [] => some m
  | move :: ms => (m.move move).bind fun m' => m'.moves ms

def fitMoves (m : Daemon) : List Move → Option Daemon
  | [] => some m
  | move :: ms => if m.fitsCheck move then (m.move move).bind fun m' => m'.fitMoves ms else none

theorem run_of_moves {m m' : Daemon} {ms : List Move} (h : m.moves ms = some m') : Run Step m ms m' := by
  induction ms generalizing m with
  | nil =>
    cases h
    exact .nil _
  | cons move ms ih =>
    obtain ⟨m₁, hmove, hrest⟩ := Option.bind_eq_some_iff.1 h
    exact .cons hmove (ih hrest)

theorem run_of_fitMoves {m m' : Daemon} {ms : List Move} (h : m.fitMoves ms = some m') : Run FitStep m ms m' := by
  induction ms generalizing m with
  | nil =>
    cases h
    exact .nil _
  | cons move ms ih =>
    rw [fitMoves] at h
    split at h
    · rename_i hcheck
      obtain ⟨m₁, hmove, hrest⟩ := Option.bind_eq_some_iff.1 h
      exact .cons ⟨fits_of_check hcheck, hmove⟩ (ih hrest)
    · cases h

/-- An event walked through in `n` rounds. -/
def processed (data : EvtData) (n : Nat) : List Move := .dispatch data :: List.replicate n .visit ++ [.finish]

/-- A backhaul comes up as a modem, and goes down at its last node. -/
def modemUpDown : List Move :=
  .construct .ifaceManager :: processed ⟨.linkUp, some 0, sampleConfig⟩ 17 ++ processed ⟨.linkDown, some 0, sampleConfig⟩ 17

theorem dispatch_run_modem : ∃ m, Run FitStep (init sampleConfig) modemUpDown m ∧
    m.Safe ∧ (∀ w, m.walk = some w → w.tmp ≠ 0 → m.Fits .visit → ∃ m', m.move .visit = some m') ∧ m.Ends := by
  have hrun : ((init sampleConfig).fitMoves modemUpDown).isSome = true := by decide +kernel
  obtain ⟨m, hm⟩ := Option.isSome_iff_exists.1 hrun
  exact ⟨m, run_of_fitMoves hm, dispatch_run (run_of_fitMoves hm)⟩

/-- The walk is at a node that is not in memory. -/
def atFreed (m : Daemon) : Bool := m.walk.any fun w => w.tmp != 0 && (m.ipacm.dispatcher.nodes w.tmp).isNone

/-- An ECM backhaul comes up and its category is configured away. -/
def ecmReconfigured : List Move :=
  .construct .ifaceManager :: processed ⟨.usbLinkUp, some 0, sampleConfig⟩ 16 ++
    .dispatch ⟨.cfgChange, none, changedConfig⟩ :: List.replicate 14 .visit

/-- **The walk reads a freed node**: the ECM instance deletes itself at the last node but
two, and the node behind it with it. -/
theorem dispatch_reads_freed : ∃ m, Run Step (init sampleConfig) ecmReconfigured m ∧ ¬m.Safe := by
  have hfreed : ((init sampleConfig).moves ecmReconfigured).any atFreed = true := by decide +kernel
  obtain ⟨m, hm, hat⟩ := (Option.any_eq_true _ _).1 hfreed
  refine ⟨m, run_of_moves hm, ?_⟩
  intro hsafe
  obtain ⟨w, hw, htmp⟩ := (Option.any_eq_true _ _).1 hat
  simp only [Bool.and_eq_true, bne_iff_ne, Option.isNone_iff_eq_none] at htmp
  obtain ⟨n, hn, -⟩ := (hsafe w hw).1 htmp.1
  exact absurd (hn.symm.trans htmp.2) (by simp)

end Daemon
end HiaeCommon
