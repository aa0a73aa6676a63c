/-
The list of the event dispatcher (`IPACM_EvtDispatcher.cpp`): a node for each
event a listener is registered for, linked by pointers; 0 is NULL. A node
that was freed is no longer in memory, and no address is handed out twice.
-/
import HiaeCommon.Lib.Chains
import Mathlib.Data.List.Perm.Subperm

namespace HiaeCommon

open Function (update)
open Lib (Linked lastFrom lastFrom_mem)

/-- `ipa_cm_event_id`, by the events that are registered for or deleted on. -/
inductive IpaCmEventId
  | cfgChange | privateSubnetChange | firewallChange | linkUp | linkDown | usbLinkUp | bridgeLinkUp
  | wanEmbmsLinkUp | addrAdd | routeAdd | routeDel | wanUpstreamRouteAdd | wanUpstreamRouteDel
  | wlanApLinkUp | wlanStaLinkUp | wlanLinkDown | wlanClientAdd | wlanClientAddEx | wlanClientDel
  | wlanClientPowerSave | wlanClientRecover | newNeigh | delNeigh | neighClientIpAddrAdd
  | neighClientIpAddrDel | swRoutingEnable | swRoutingDisable | processCtMessage | processCtMessageV6
  | cradleWanModeSwitch | wanXlatConnect | tetheringStatsUpdate | networkStatsUpdate
  | handleWanUp | handleWanDown | handleWanUpV6 | handleWanDownV6 | handleWanUpTether
  | handleWanDownTether | handleWanUpV6Tether | handleWanDownV6Tether | handleWlanUp | handleLanUp
  | ethBridgeIfaceUp | ethBridgeIfaceDown | ethBridgeClientAdd | ethBridgeClientDel
  | ethBridgeWlanSccMccSwitch | lanDeleteSelf
  deriving DecidableEq, Repr

/-- `cmd_evts`: a node. -/
structure CmdEvts where
  event : IpaCmEventId
  obj : Nat
  next : Nat
  deriving DecidableEq, Repr

/-- `IPACM_EvtDispatcher`: the nodes in memory, the first address not handed out yet, and
`head`. -/
structure EvtDispatcher where
  nodes : Nat → Option CmdEvts
  brk : Nat
  head : Nat

namespace EvtDispatcher

/-- No node yet. -/
def init : EvtDispatcher := ⟨fun _ => none, 1, 0⟩

/-- `while (tmp->next) tmp = tmp->next;`, or a read of a node that is not in memory. -/
def lastNode (d : EvtDispatcher) : Nat → Nat → Option Nat
  | 0, _ => none
  | fuel + 1, tmp => do
    let n ← d.nodes tmp
    if n.next = 0 then return tmp else d.lastNode fuel n.next

/-- `registr`. -/
def registr (d : EvtDispatcher) (event : IpaCmEventId) (obj : Nat) : Option EvtDispatcher :=
  let nw := d.brk
  let d := { d with nodes := update d.nodes nw (some ⟨event, obj, 0⟩), brk := nw + 1 }
  if d.head = 0 then some { d with head := nw }
  else do
    let tmp ← d.lastNode d.brk d.head
    let n ← d.nodes tmp
    return { d with nodes := update d.nodes tmp (some { n with next := nw }) }

/-- The three branches of `deregistr`, of which the one for the last node stores `next`
as NULL. -/
def relink (d : EvtDispatcher) (tmp prev next : Nat) : Option EvtDispatcher :=
  if tmp = d.head then some { d with head := next }
  else (d.nodes prev).map fun p => { d with nodes := update d.nodes prev (some { p with next }) }

/-- The loop of `deregistr`. -/
def deregistrLoop (param : Nat) : Nat → EvtDispatcher → Nat → Nat → Option EvtDispatcher
  | 0, d, tmp, _ => if tmp = 0 then some d else none
  | fuel + 1, d, tmp, prev =>
    if tmp = 0 then some d
    else do
      let n ← d.nodes tmp
      if n.obj = param then
        let d ← d.relink tmp prev n.next
        deregistrLoop param fuel { d with nodes := update d.nodes tmp none } n.next prev
      else deregistrLoop param fuel d n.next tmp

/-- `deregistr`. -/
def deregistr (d : EvtDispatcher) (param : Nat) : Option EvtDispatcher :=
  deregistrLoop param d.brk d d.head d.head

/-! ## The list as a list -/

/-- A node by its address, without the pointer. -/
structure Reg where
  addr : Nat
  event : IpaCmEventId
  obj : Nat
  deriving DecidableEq, Repr

/-- The pointer out of a node, `head` out of none. -/
def next (d : EvtDispatcher) (p : Nat) : Nat :=
  if p = 0 then d.head else (d.nodes p).elim 0 CmdEvts.next

/-- The event and the listener of a node. -/
def key (d : EvtDispatcher) (p : Nat) : Option (IpaCmEventId × Nat) := (d.nodes p).map fun n => (n.event, n.obj)

theorem nodes_eq {d : EvtDispatcher} {p : Nat} (hp : p ≠ 0) {event : IpaCmEventId} {obj : Nat}
    (h : d.key p = some (event, obj)) : d.nodes p = some ⟨event, obj, d.next p⟩ := by
  obtain ⟨n, hn, hkey⟩ := Option.map_eq_some_iff.1 h
  cases hkey
  simp [next, hp, hn]

/-- The pointer out of `p` set: what both edits come down to. -/
def link (d : EvtDispatcher) (p v : Nat) : EvtDispatcher :=
  if p = 0 then { d with head := v }
  else { d with nodes := update d.nodes p ((d.nodes p).map fun n => { n with next := v }) }

@[simp] theorem link_brk (d : EvtDispatcher) (p v : Nat) : (d.link p v).brk = d.brk := by
  simp only [link]
  split <;> rfl

@[simp] theorem link_key (d : EvtDispatcher) (p v a : Nat) : (d.link p v).key a = d.key a := by
  simp only [link]
  split
  · rfl
  · by_cases ha : a = p
    · simp only [key, ha, Function.update_self]
      cases d.nodes p <;> rfl
    · simp [key, ha]

theorem link_next_self {d : EvtDispatcher} {p : Nat} (v : Nat) (h : p ≠ 0 → d.key p ≠ none) : (d.link p v).next p = v := by
  by_cases hp : p = 0
  · simp [link, next, hp]
  · obtain ⟨n, hn⟩ := Option.ne_none_iff_exists'.1 (show d.nodes p ≠ none by simpa [key] using h hp)
    simp [link, next, hp, hn]

theorem link_next_of_ne {d : EvtDispatcher} {p a : Nat} (v : Nat) (h : a ≠ p) : (d.link p v).next a = d.next a := by
  by_cases hp : p = 0
  · have ha : a ≠ 0 := hp ▸ h
    simp [link, next, hp, ha]
  · by_cases ha : a = 0
    · simp [link, next, hp, ha]
    · simp [link, next, hp, ha, h]

/-- The nodes from `head` on are those of `l`. -/
structure Holds (d : EvtDispatcher) (l : List Reg) : Prop where
  linked : Linked 0 d.next 0 (l.map Reg.addr)
  key : ∀ r ∈ l, d.key r.addr = some (r.event, r.obj)
  fresh : ∀ a, d.key a ≠ none → a < d.brk
  brk_pos : 0 < d.brk

namespace Holds

variable {d : EvtDispatcher} {l l₁ l₂ : List Reg} {r : Reg}

theorem addr_ne_zero (h : d.Holds l) (hr : r ∈ l) : r.addr ≠ 0 :=
  h.linked.ne_null r.addr (List.mem_map_of_mem hr)

theorem addr_lt (h : d.Holds l) (hr : r ∈ l) : r.addr < d.brk :=
  h.fresh r.addr (by simp [h.key r hr])

theorem nodup (h : d.Holds l) : (l.map Reg.addr).Nodup := (List.nodup_cons.1 h.linked.nodup).2

theorem nodes (h : d.Holds l) (hr : r ∈ l) : d.nodes r.addr = some ⟨r.event, r.obj, d.next r.addr⟩ :=
  nodes_eq (h.addr_ne_zero hr) (h.key r hr)

/-- The last node is on the list, or it is `head` and there is none. -/
theorem last_cases (h : d.Holds l) : lastFrom 0 (l.map Reg.addr) = 0 ∨
    ∃ r ∈ l, lastFrom 0 (l.map Reg.addr) = r.addr ∧ d.key r.addr = some (r.event, r.obj) := by
  cases List.mem_cons.1 (lastFrom_mem 0 (l.map Reg.addr)) with
  | inl h0 => exact .inl h0
  | inr hmem =>
    obtain ⟨r, hr, heq⟩ := List.mem_map.1 hmem
    exact .inr ⟨r, hr, heq.symm, h.key r hr⟩

theorem head_eq (h : d.Holds l) : d.head = (l.map Reg.addr).headD 0 := h.linked.next_lastFrom (l := [])

/-- The pointer into what follows `l₁`. -/
theorem next_last (h : d.Holds (l₁ ++ l₂)) :
    d.next (lastFrom 0 (l₁.map Reg.addr)) = (l₂.map Reg.addr).headD 0 := by
  have hl := h.linked
  rw [List.map_append] at hl
  exact hl.next_lastFrom

theorem next_eq (h : d.Holds (l₁ ++ r :: l₂)) : d.next r.addr = (l₂.map Reg.addr).headD 0 := by
  have h' : d.Holds ((l₁ ++ [r]) ++ l₂) := by simpa using h
  simpa using h'.next_last

theorem length_lt (h : d.Holds l) : l.length < d.brk := by
  have hsub : l.map Reg.addr ⊆ (List.range d.brk).erase 0 := by
    intro a ha
    obtain ⟨r, hr, rfl⟩ := List.mem_map.1 ha
    exact (List.mem_erase_of_ne (h.addr_ne_zero hr)).2 (List.mem_range.2 (h.addr_lt hr))
  have hle := (h.nodup.subperm hsub).length_le
  rw [List.length_map, List.length_erase_of_mem (List.mem_range.2 h.brk_pos), List.length_range] at hle
  have := h.brk_pos
  omega

theorem init_holds : init.Holds [] := ⟨rfl, fun _ hr => (nomatch hr), fun _ ha => absurd rfl ha, Nat.one_pos⟩

/-- The loop of `registr` ends at the last node. -/
theorem lastNode_eq (l₁ : List Reg) (h : d.Holds (l₁ ++ r :: l₂)) (fuel : Nat) (hfuel : l₂.length < fuel) :
    d.lastNode fuel r.addr = some (lastFrom r.addr (l₂.map Reg.addr)) := by
  induction fuel generalizing l₁ r l₂ with
  | zero => omega
  | succ fuel ih =>
    have hnode := h.nodes (r := r) (by simp)
    cases l₂ with
    | nil =>
      have hz : d.next r.addr = 0 := by simpa using h.next_eq
      simp [lastNode, hnode, hz, lastFrom]
    | cons r' l₂ =>
      have hr' : d.next r.addr = r'.addr := by simpa using h.next_eq
      have h' : d.Holds ((l₁ ++ [r]) ++ r' :: l₂) := by simpa using h
      have hne : r'.addr ≠ 0 := h.addr_ne_zero (by simp)
      have hlast := ih (l₁ ++ [r]) h' (by simpa using hfuel)
      simp [lastNode, hnode, hr', hne, hlast, lastFrom]

end Holds

/-- The node `registr` writes, before it is linked to. -/
def alloc (d : EvtDispatcher) (event : IpaCmEventId) (obj : Nat) : EvtDispatcher :=
  { d with nodes := update d.nodes d.brk (some ⟨event, obj, 0⟩), brk := d.brk + 1 }

theorem alloc_holds {d : EvtDispatcher} {l : List Reg} (h : d.Holds l) (event : IpaCmEventId) (obj : Nat) :
    (d.alloc event obj).Holds l := by
  have hold : ∀ a, a ≠ d.brk → (d.alloc event obj).nodes a = d.nodes a := fun a ha => Function.update_of_ne ha _ _
  have hne : ∀ r ∈ l, r.addr ≠ d.brk := fun r hr => Nat.ne_of_lt (h.addr_lt hr)
  refine ⟨h.linked.congr ?_, ?_, ?_, Nat.succ_pos _⟩
  · intro a ha
    cases List.mem_cons.1 ha with
    | inl h0 => subst h0; rfl
    | inr hmem =>
      obtain ⟨r, hr, rfl⟩ := List.mem_map.1 hmem
      simp only [next, hold r.addr (hne r hr)]
      rfl
  · intro r hr
    rw [key, hold r.addr (hne r hr)]
    exact h.key r hr
  · intro a ha
    by_cases hab : a = d.brk
    · exact hab ▸ Nat.lt_succ_self _
    · rw [key, hold a hab] at ha
      exact Nat.lt_succ_of_lt (h.fresh a ha)

/-- `registr` links the new node to the last, or to `head`. -/
theorem registr_eq {d : EvtDispatcher} {l : List Reg} (h : d.Holds l) (event : IpaCmEventId) (obj : Nat) :
    d.registr event obj = some ((d.alloc event obj).link (lastFrom 0 (l.map Reg.addr)) d.brk) := by
  have h₁ := alloc_holds h event obj
  cases l with
  | nil =>
    have hhead : d.head = 0 := h.linked
    simp [registr, hhead, link, alloc, lastFrom]
  | cons r l =>
    have hhead : d.head = r.addr := h.head_eq
    have hne : d.head ≠ 0 := hhead ▸ h.addr_ne_zero (by simp)
    have hlast := Holds.lastNode_eq [] h₁ (d.alloc event obj).brk (by
      have := h₁.length_lt
      simp only [List.length_cons] at this
      omega)
    obtain ⟨r', hr', heq⟩ := List.mem_map.1 (show lastFrom r.addr (l.map Reg.addr) ∈ (r :: l).map Reg.addr from
      lastFrom_mem r.addr (l.map Reg.addr))
    have hn := h₁.nodes hr'
    have hne' := h₁.addr_ne_zero hr'
    rw [heq] at hn hne'
    have hwalk : d.registr event obj = ((d.alloc event obj).lastNode (d.alloc event obj).brk d.head).bind fun tmp =>
        ((d.alloc event obj).nodes tmp).bind fun n => some { d.alloc event obj with
          nodes := update (d.alloc event obj).nodes tmp (some { n with next := d.brk }) } := if_neg hne
    rw [hwalk, hhead, hlast, Option.bind_some, hn, Option.bind_some]
    simp [link, lastFrom, hne', hn]

/-- **Registering** appends a node behind the last. -/
theorem registr_holds {d : EvtDispatcher} {l : List Reg} (h : d.Holds l) (event : IpaCmEventId) (obj : Nat) :
    ∃ d', d.registr event obj = some d' ∧ d'.Holds (l ++ [⟨d.brk, event, obj⟩]) := by
  have h₁ := alloc_holds h event obj
  have hbrk : d.brk ≠ 0 := Nat.pos_iff_ne_zero.1 h.brk_pos
  have hlast : lastFrom 0 (l.map Reg.addr) ≠ d.brk := by
    obtain h0 | ⟨r, hr, heq, -⟩ := h.last_cases
    · rw [h0]
      exact hbrk.symm
    · rw [heq]
      exact Nat.ne_of_lt (h.addr_lt hr)
  have hkey : lastFrom 0 (l.map Reg.addr) ≠ 0 → (d.alloc event obj).key (lastFrom 0 (l.map Reg.addr)) ≠ none := by
    intro hne
    obtain h0 | ⟨r, -, heq, hkey⟩ := h₁.last_cases
    · exact absurd h0 hne
    · simp [heq, hkey]
  refine ⟨_, registr_eq h event obj, ?_, ?_, ?_, ?_⟩
  · rw [List.map_append]
    refine h₁.linked.append hbrk (link_next_self _ hkey) ?_ ?_
    · rw [link_next_of_ne _ hlast.symm]
      simp [next, alloc, hbrk]
    · exact fun a _ ha => link_next_of_ne _ ha
  · intro r hr
    rw [link_key]
    cases List.mem_append.1 hr with
    | inl hr => exact h₁.key r hr
    | inr hr =>
      obtain rfl := List.mem_singleton.1 hr
      simp [key, alloc]
  · intro a ha
    rw [link_key] at ha
    rw [link_brk]
    exact h₁.fresh a ha
  · rw [link_brk]
    exact h₁.brk_pos

/-- A node unlinked and freed. -/
def unlinked (d : EvtDispatcher) (p : Nat) (r : Reg) : EvtDispatcher :=
  { d.link p (d.next r.addr) with nodes := update (d.link p (d.next r.addr)).nodes r.addr none }

theorem unlinked_holds {d : EvtDispatcher} {l₁ l₂ : List Reg} {r : Reg} (h : d.Holds (l₁ ++ r :: l₂)) :
    (d.unlinked (lastFrom 0 (l₁.map Reg.addr)) r).Holds (l₁ ++ l₂) := by
  have hr0 : r.addr ≠ 0 := h.addr_ne_zero (by simp)
  have hnd : r.addr ∉ (l₁ ++ l₂).map Reg.addr := by
    have hnd := h.nodup
    simp only [List.map_append, List.map_cons] at hnd ⊢
    exact (List.nodup_cons.1 (List.nodup_middle.1 hnd)).1
  have hlast : lastFrom 0 (l₁.map Reg.addr) ≠ r.addr := by
    cases List.mem_cons.1 (lastFrom_mem 0 (l₁.map Reg.addr)) with
    | inl h0 =>
      rw [h0]
      exact hr0.symm
    | inr hmem =>
      intro heq
      rw [heq] at hmem
      exact hnd (by simp only [List.map_append, List.mem_append, hmem, true_or])
  have hkeylast : lastFrom 0 (l₁.map Reg.addr) ≠ 0 → d.key (lastFrom 0 (l₁.map Reg.addr)) ≠ none := by
    intro hne
    obtain ⟨r', hr', heq⟩ := List.mem_map.1 ((List.mem_cons.1 (lastFrom_mem 0 (l₁.map Reg.addr))).resolve_left hne)
    simp [← heq, h.key r' (by simp [hr'])]
  -- what is not the freed node reads as after the link
  have hnext : ∀ a, a ≠ r.addr → (d.unlinked (lastFrom 0 (l₁.map Reg.addr)) r).next a =
      (d.link (lastFrom 0 (l₁.map Reg.addr)) (d.next r.addr)).next a := by
    intro a ha
    simp [next, unlinked, ha]
  have hkey : ∀ a, a ≠ r.addr → (d.unlinked (lastFrom 0 (l₁.map Reg.addr)) r).key a = d.key a := by
    intro a ha
    rw [← link_key d (lastFrom 0 (l₁.map Reg.addr)) (d.next r.addr) a]
    simp [key, unlinked, ha]
  refine ⟨?_, ?_, ?_, ?_⟩
  · have hl := h.linked
    rw [List.map_append, List.map_cons] at hl
    rw [List.map_append]
    refine hl.unlink (by rw [hnext _ hlast, link_next_self _ hkeylast]) ?_
    intro a ha hne
    have har : a ≠ r.addr := by
      intro heq
      subst heq
      cases List.mem_cons.1 ha with
      | inl h0 => exact hr0 h0
      | inr hmem => exact hnd (by rwa [List.map_append])
    rw [hnext a har, link_next_of_ne _ hne]
  · intro r' hr'
    have hne : r'.addr ≠ r.addr := fun heq => hnd (heq ▸ List.mem_map_of_mem hr')
    rw [hkey _ hne]
    refine h.key r' ?_
    cases List.mem_append.1 hr' <;> simp [*]
  · intro a ha
    by_cases har : a = r.addr
    · subst har
      exact absurd (by simp [key, unlinked]) ha
    · rw [hkey a har] at ha
      simpa [unlinked] using h.fresh a ha
  · simpa [unlinked] using h.brk_pos

/-- The branches come to one: the pointer in front of the node is set. -/
theorem relink_eq {d : EvtDispatcher} {l₁ l₂ : List Reg} {r : Reg} {prev : Nat} (h : d.Holds (l₁ ++ r :: l₂))
    (hprev : l₁ ≠ [] → prev = lastFrom 0 (l₁.map Reg.addr)) :
    d.relink r.addr prev (d.next r.addr) = some (d.link (lastFrom 0 (l₁.map Reg.addr)) (d.next r.addr)) := by
  cases l₁ with
  | nil =>
    have hhead : d.head = r.addr := h.head_eq
    rw [relink, if_pos hhead.symm]
    rfl
  | cons r₀ l₁ =>
    have hhead : d.head = r₀.addr := h.head_eq
    have hne : r.addr ≠ r₀.addr := by
      have hnd := h.nodup
      simp only [List.cons_append, List.map_cons, List.map_append, List.nodup_cons, List.mem_append, List.mem_cons,
        not_or] at hnd
      exact fun heq => hnd.1.2.1 heq.symm
    obtain ⟨p, hp, heq⟩ := List.mem_map.1 (show lastFrom r₀.addr (l₁.map Reg.addr) ∈ (r₀ :: l₁).map Reg.addr from
      lastFrom_mem r₀.addr (l₁.map Reg.addr))
    have hp' : p ∈ (r₀ :: l₁) ++ r :: l₂ := List.mem_append_left _ hp
    have hnode := h.nodes hp'
    have hp0 := h.addr_ne_zero hp'
    rw [heq] at hnode hp0
    rw [relink, if_neg (hhead ▸ hne), hprev (by simp)]
    simp only [List.map_cons, lastFrom] at hnode hp0 ⊢
    simp [link, hp0, hnode]

/-- The loop, from where `l₁` is kept and `l₂` is still to be looked at. -/
theorem deregistrLoop_holds {d : EvtDispatcher} (l₁ : List Reg) {l₂ : List Reg} (h : d.Holds (l₁ ++ l₂)) (param prev fuel : Nat)
    (hkept : ∀ r ∈ l₁, r.obj ≠ param) (hprev : l₁ ≠ [] → prev = lastFrom 0 (l₁.map Reg.addr)) (hfuel : l₂.length ≤ fuel) :
    ∃ d', deregistrLoop param fuel d ((l₂.map Reg.addr).headD 0) prev = some d' ∧
      d'.Holds (l₁ ++ l₂.filter fun r => r.obj ≠ param) := by
  induction l₂ generalizing d l₁ prev fuel with
  | nil =>
    refine ⟨d, ?_, by simpa using h⟩
    cases fuel <;> rfl
  | cons r l₂ ih =>
    cases fuel with
    | zero => simp at hfuel
    | succ fuel =>
      have hr0 : r.addr ≠ 0 := h.addr_ne_zero (by simp)
      have hnode := h.nodes (r := r) (by simp)
      have hfuel' : l₂.length ≤ fuel := by simpa using hfuel
      by_cases hobj : r.obj = param
      · obtain ⟨d', hd', hholds⟩ := ih l₁ (unlinked_holds h) prev fuel hkept hprev hfuel'
        refine ⟨d', ?_, by simpa [hobj] using hholds⟩
        rw [← hd', ← h.next_eq]
        rw [List.map_cons, List.headD_cons, deregistrLoop, if_neg hr0, hnode]
        simp only [bind, Option.bind_some, hobj, if_true, relink_eq h hprev]
        rfl
      · have h' : d.Holds ((l₁ ++ [r]) ++ l₂) := by simpa using h
        obtain ⟨d', hd', hholds⟩ := ih (l₁ ++ [r]) h' r.addr fuel (by
          intro r' hr'
          cases List.mem_append.1 hr' with
          | inl hr' => exact hkept r' hr'
          | inr hr' => exact List.mem_singleton.1 hr' ▸ hobj) (by simp) hfuel'
        refine ⟨d', ?_, by simpa [hobj] using hholds⟩
        rw [← hd', ← h.next_eq]
        simp [deregistrLoop, hr0, hnode, hobj]

/-- **Deregistering** takes every node of the listener out. -/
theorem deregistr_holds {d : EvtDispatcher} {l : List Reg} (h : d.Holds l) (param : Nat) :
    ∃ d', d.deregistr param = some d' ∧ d'.Holds (l.filter fun r => r.obj ≠ param) := by
  have hloop := deregistrLoop_holds [] h param d.head d.brk (fun _ hr => (nomatch hr)) (fun hne => absurd rfl hne)
    (Nat.le_of_lt h.length_lt)
  rw [← h.head_eq] at hloop
  exact hloop

/-! ## Runs -/

/-- A call. -/
inductive RegistrCall
  | registr (event : IpaCmEventId) (obj : Nat)
  | deregistr (param : Nat)
  deriving DecidableEq, Repr

def call (d : EvtDispatcher) : RegistrCall → Option EvtDispatcher
  | .registr event obj => d.registr event obj
  | .deregistr param => d.deregistr param

/-- Calls, one after the other. -/
def calls (d : EvtDispatcher) : List RegistrCall → Option EvtDispatcher
  | [] => some d
  | c :: cs => (d.call c).bind fun d' => calls d' cs

/-- The pairs registered since their listener was last taken out: those no deregistration of it follows. -/
def registered : List RegistrCall → List (IpaCmEventId × Nat)
  | [] => []
  | .registr event obj :: cs => if .deregistr obj ∈ cs then registered cs else (event, obj) :: registered cs
  | .deregistr _ :: cs => registered cs

/-- What a node registers. -/
def Reg.pair (r : Reg) : IpaCmEventId × Nat := (r.event, r.obj)

/-- From a list on, the nodes of the listeners that are not taken out stay, and those of `registered` follow them. -/
theorem calls_holds {d : EvtDispatcher} {l : List Reg} (h : d.Holds l) (cs : List RegistrCall) : ∃ d' new,
    d.calls cs = some d' ∧ d'.Holds (l.filter (fun r => .deregistr r.obj ∉ cs) ++ new) ∧ new.map Reg.pair = registered cs := by
  induction cs generalizing d l with
  | nil => exact ⟨d, [], rfl, by simpa using h, rfl⟩
  | cons c cs ih =>
    cases c with
    | registr event obj =>
      obtain ⟨d₁, hd₁, h₁⟩ := registr_holds h event obj
      obtain ⟨d', new, hd', hholds, hnew⟩ := ih h₁
      have hcalls : d.calls (.registr event obj :: cs) = some d' := by rw [calls, call, hd₁, Option.bind_some, hd']
      have hold : (l.filter fun r => .deregistr r.obj ∉ RegistrCall.registr event obj :: cs) =
          l.filter fun r => .deregistr r.obj ∉ cs := List.filter_congr fun r _ => by simp
      rw [List.filter_append, List.append_assoc] at hholds
      rw [registered]
      by_cases hgone : .deregistr obj ∈ cs
      · refine ⟨d', new, hcalls, ?_, by rw [if_pos hgone, hnew]⟩
        rw [hold]
        simpa [hgone] using hholds
      · refine ⟨d', ⟨d.brk, event, obj⟩ :: new, hcalls, ?_, by rw [if_neg hgone, List.map_cons, hnew]; rfl⟩
        rw [hold]
        simpa [hgone] using hholds
    | deregistr param =>
      obtain ⟨d₁, hd₁, h₁⟩ := deregistr_holds h param
      obtain ⟨d', new, hd', hholds, hnew⟩ := ih h₁
      have hcalls : d.calls (.deregistr param :: cs) = some d' := by rw [calls, call, hd₁, Option.bind_some, hd']
      have hold : (l.filter fun r => .deregistr r.obj ∉ RegistrCall.deregistr param :: cs) =
          (l.filter fun r => r.obj ≠ param).filter fun r => .deregistr r.obj ∉ cs := by
        rw [List.filter_filter]
        refine List.filter_congr fun r _ => ?_
        simp [Bool.and_comm]
      exact ⟨d', new, hcalls, by rwa [hold], by rw [registered, hnew]⟩

/-- **The list** holds the pairs registered since their listener was last taken out, in that order and as often, and taking
a listener out unlinks its nodes and no others, which stay linked in order. -/
theorem calls_registered (cs : List RegistrCall) : ∃ d l, init.calls cs = some d ∧ d.Holds l ∧ l.map Reg.pair = registered cs ∧
    ∀ param, ∃ d', d.deregistr param = some d' ∧ d'.Holds (l.filter fun r => r.obj ≠ param) := by
  obtain ⟨d, l, hd, hholds, hl⟩ := calls_holds Holds.init_holds cs
  rw [List.filter_nil, List.nil_append] at hholds
  exact ⟨d, l, hd, hholds, hl, deregistr_holds hholds⟩

end EvtDispatcher
end HiaeCommon
