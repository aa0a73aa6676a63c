/-
The NATed interfaces of `IPACM_Config`: an array of names and their count.
`AddNatIfaces` counts a name before it asks whether there is room for it, and
then leaves the last entry of the array unused; `DelNatIfaces` moves the names
behind the deleted one down by one.
-/
import HiaeCommon.Ipacm.Xml
import HiaeCommon.Lib.Run
import Mathlib.Data.List.Nodup

namespace HiaeCommon

/-- `pNatIfaces`, of `ipa_num_ipa_interfaces` entries, and `ipa_nat_iface_entries`. -/
structure NatIfaces where
  pNatIfaces : List CStr
  ipaNatIfaceEntries : Nat
  deriving DecidableEq, Repr

/-- The name of an interface, of any length. -/
structure DevName where
  name : CStr
  ne_nil : name ≠ []
  deriving DecidableEq

namespace NatIfaces

/-- As `calloc` leaves them. -/
def init (ipaNumIpaInterfaces : Nat) : NatIfaces := ⟨List.replicate ipaNumIpaInterfaces [], 0⟩

/-- The loop both begin with: the first entry in use that matches; outside, `none` where it reads behind the array. -/
def lookup (s : NatIfaces) (eq : CStr → Bool) : Option (Option Nat) :=
  match (s.pNatIfaces.take s.ipaNatIfaceEntries).findIdx? eq with
  | some i => some (some i)
  | none => if s.ipaNatIfaceEntries ≤ s.pNatIfaces.length then some none else none

/-- `AddNatIfaces`, which returns 0. `strncmp` compares and `strlcpy` writes at most an entry. -/
def addNatIfaces (s : NatIfaces) (devName : CStr) : Option NatIfaces :=
  (s.lookup fun name => devName.take ipaIfaceNameLen == name.take ipaIfaceNameLen).map fun
    | some _ => s
    | none =>
      let entries := s.ipaNatIfaceEntries + 1
      if entries < s.pNatIfaces.length then ⟨s.pNatIfaces.set (entries - 1) (devName.take (ipaIfaceNameLen - 1)), entries⟩
      else { s with ipaNatIfaceEntries := entries }

/-- The inner loop of `DelNatIfaces`, for so many entries from `i` on. -/
def moveDown : Nat → Nat → List CStr → Option (List CStr)
  | 0, _, pNatIfaces => some pNatIfaces
  | n + 1, i, pNatIfaces => pNatIfaces[i + 1]?.bind fun next => moveDown n (i + 1) ((pNatIfaces.set i next).set (i + 1) [])

/-- `DelNatIfaces`, which returns 0. -/
def delNatIfaces (s : NatIfaces) (devName : CStr) : Option NatIfaces :=
  (s.lookup (devName == ·)).bind fun
    | none => some s
    | some i => (moveDown (s.ipaNatIfaceEntries - 1 - i) i (s.pNatIfaces.set i [])).map fun pNatIfaces =>
      ⟨pNatIfaces, s.ipaNatIfaceEntries - 1⟩

/-- A call. -/
inductive Call
  | add (devName : DevName)
  | del (devName : DevName)
  deriving DecidableEq

def call (s : NatIfaces) : Call → Option NatIfaces
  | .add devName => s.addNatIfaces devName.name
  | .del devName => s.delNatIfaces devName.name

/-- A call in a run, which ends where one leaves the array. -/
def step (s : Option NatIfaces) (c : Call) : Option NatIfaces := s.bind fun s => s.call c

/-- The entries in use. -/
def names (s : NatIfaces) : List CStr := s.pNatIfaces.take s.ipaNatIfaceEntries

/-- What a call makes of a list of names. -/
def edit (l : List CStr) : Call → List CStr
  | .add devName => if devName.name ∈ l then l else l ++ [devName.name]
  | .del devName => l.erase devName.name

def edited (cs : List Call) : List CStr := cs.foldl edit []

@[simp] theorem edited_concat (cs : List Call) (c : Call) : edited (cs ++ [c]) = edit (edited cs) c := by
  rw [edited, List.foldl_append]
  rfl

/-- The names are those the calls leave, each once, and the count is in the array. -/
structure Lists (n : Nat) (cs : List Call) (s : NatIfaces) : Prop where
  bound : s.ipaNatIfaceEntries ≤ n
  distinct : s.names.Nodup
  names : s.names = edited cs

/-- When a call does what it is for: a name that is not there yet fits an entry, and it is not the last of the array. -/
def Fits (s : NatIfaces) : Call → Prop
  | .add devName =>
    devName.name ∈ s.names ∨ s.ipaNatIfaceEntries + 1 < s.pNatIfaces.length ∧ devName.name.length < ipaIfaceNameLen
  | .del _ => True

/-- The array filled from the front on with names that fit. -/
structure Filled (n : Nat) (l : List CStr) (s : NatIfaces) : Prop where
  entries : s.ipaNatIfaceEntries = l.length
  array : s.pNatIfaces = l ++ List.replicate (n - l.length) []
  length_le : l.length ≤ n
  nodup : l.Nodup
  fits : ∀ name ∈ l, name.length < ipaIfaceNameLen

/-- The loop closes the gap at `i`. -/
theorem moveDown_eq (front moved rest : List CStr) :
    moveDown moved.length front.length (front ++ [] :: moved ++ rest) = some (front ++ moved ++ [] :: rest) := by
  induction moved generalizing front with
  | nil => simp [moveDown]
  | cons name moved ih =>
    have hnext : (front ++ [] :: name :: moved ++ rest)[front.length + 1]? = some name := by
      rw [List.append_assoc, List.getElem?_append_right (Nat.le_add_right _ 1), Nat.add_sub_cancel_left]
      rfl
    have hset : ((front ++ [] :: name :: moved ++ rest).set front.length name).set (front.length + 1) [] =
        (front ++ [name]) ++ [] :: moved ++ rest := by
      rw [List.append_assoc, List.set_append_right _ _ (Nat.le_refl _), Nat.sub_self,
        List.set_append_right _ _ (Nat.le_add_right _ 1), Nat.add_sub_cancel_left]
      simp
    rw [List.length_cons, moveDown, hnext, Option.bind_some, hset]
    have hrest := ih (front ++ [name])
    rw [List.length_append, List.length_singleton] at hrest
    rw [hrest]
    simp

namespace Filled

variable {n : Nat} {l : List CStr} {s t : NatIfaces} {devName : DevName}

theorem init_filled (n : Nat) : Filled n [] (init n) := ⟨rfl, rfl, Nat.zero_le _, .nil, fun _ hn => absurd hn List.not_mem_nil⟩

theorem names_eq (h : Filled n l s) : s.names = l := by
  rw [names, h.entries, h.array]
  exact List.take_left' rfl

theorem length_eq (h : Filled n l s) : s.pNatIfaces.length = n := by
  have := h.length_le
  rw [h.array, List.length_append, List.length_replicate]
  omega

theorem lookup_eq (h : Filled n l s) (eq : CStr → Bool) : s.lookup eq = some (l.findIdx? eq) := by
  have hle : s.ipaNatIfaceEntries ≤ s.pNatIfaces.length := by
    rw [h.entries, h.length_eq]
    exact h.length_le
  have htake : s.pNatIfaces.take s.ipaNatIfaceEntries = l := h.names_eq
  rw [lookup, htake]
  cases l.findIdx? eq with
  | none => exact if_pos hle
  | some i => rfl

/-- A name is found by `strncmp` exactly when it is there: it is not longer than the entries. -/
theorem find_add (h : Filled n l s) (name : CStr) :
    (l.findIdx? fun x => name.take ipaIfaceNameLen == x.take ipaIfaceNameLen) = none ↔ name ∉ l := by
  rw [List.findIdx?_eq_none_iff]
  constructor
  · intro hno hmem
    simpa using hno name hmem
  · intro hno x hx
    refine beq_eq_false_iff_ne.2 fun heq => ?_
    have hx16 := h.fits x hx
    rw [List.take_of_length_le (Nat.le_of_lt hx16)] at heq
    have hlen : (name.take ipaIfaceNameLen).length < ipaIfaceNameLen := heq ▸ hx16
    have hname : name.take ipaIfaceNameLen = name := by
      rw [List.length_take] at hlen
      exact List.take_of_length_le (by omega)
    exact hno (by rwa [← hname, heq])

theorem lists {cs : List Call} (h : Filled n (edited cs) s) : Lists n cs s :=
  ⟨h.entries ▸ h.length_le, h.names_eq ▸ h.nodup, h.names_eq⟩

/-- A name that is there is not added again. -/
theorem addNatIfaces_known (h : Filled n l s) (hm : devName.name ∈ l) : s.addNatIfaces devName.name = some s := by
  obtain ⟨i, hi⟩ := Option.ne_none_iff_exists'.1 fun hno => (h.find_add devName.name).1 hno hm
  rw [addNatIfaces, h.lookup_eq, hi]
  rfl

theorem addNatIfaces_new (h : Filled n l s) (hm : devName.name ∉ l) : s.addNatIfaces devName.name =
    some (if s.ipaNatIfaceEntries + 1 < s.pNatIfaces.length then
      ⟨s.pNatIfaces.set s.ipaNatIfaceEntries (devName.name.take (ipaIfaceNameLen - 1)), s.ipaNatIfaceEntries + 1⟩
    else { s with ipaNatIfaceEntries := s.ipaNatIfaceEntries + 1 }) := by
  rw [addNatIfaces, h.lookup_eq, (h.find_add devName.name).2 hm]
  rfl

theorem add (h : Filled n l s) (hf : s.Fits (.add devName)) :
    ∃ t, s.addNatIfaces devName.name = some t ∧ Filled n (edit l (.add devName)) t := by
  rw [edit]
  by_cases hm : devName.name ∈ l
  · exact ⟨s, h.addNatIfaces_known hm, by rwa [if_pos hm]⟩
  · have hcut : devName.name.length ≤ ipaIfaceNameLen - 1 → devName.name.take (ipaIfaceNameLen - 1) = devName.name :=
      List.take_of_length_le
    have hnew := hf.resolve_left (by rwa [h.names_eq])
    have hroom : l.length + 1 < n := by rw [← h.entries, ← h.length_eq]; exact hnew.1
    refine ⟨_, by rw [h.addNatIfaces_new hm, if_pos hnew.1], ?_⟩
    rw [if_neg hm]
    refine ⟨?_, ?_, ?_, ?_, ?_⟩
    · rw [h.entries, List.length_append, List.length_singleton]
    · have hgap : n - l.length = n - (l.length + 1) + 1 := by omega
      rw [h.entries, h.array, List.set_append_right _ _ (Nat.le_refl _), Nat.sub_self, hgap, List.replicate_succ,
        List.set_cons_zero, hcut (Nat.le_pred_of_lt hnew.2), List.length_append, List.length_singleton]
      simp
    · rw [List.length_append, List.length_singleton]
      exact Nat.le_of_lt hroom
    · rw [← List.concat_eq_append]
      exact h.nodup.concat hm
    · intro name hname
      cases List.mem_append.1 hname with
      | inl hname => exact h.fits name hname
      | inr hname => exact List.mem_singleton.1 hname ▸ hnew.2

/-- Where it does not fit, the name is not there afterwards. -/
theorem not_add (h : Filled n l s) (hf : ¬ s.Fits (.add devName)) (ht : s.addNatIfaces devName.name = some t) :
    t.ipaNatIfaceEntries ≤ n → devName.name ∉ t.names := by
  obtain ⟨hm, hnew⟩ := not_or.1 hf
  rw [h.names_eq] at hm
  rw [h.addNatIfaces_new hm, Option.some_inj] at ht
  intro hle hmem
  by_cases hroom : s.ipaNatIfaceEntries + 1 < s.pNatIfaces.length
  · -- cut to the length of an entry it is another name
    rw [if_pos hroom] at ht
    have hlong : ¬ devName.name.length < ipaIfaceNameLen := fun hlt => hnew ⟨hroom, hlt⟩
    have hcut : devName.name.take (ipaIfaceNameLen - 1) ≠ devName.name := fun he => by
      have := congrArg List.length he
      rw [List.length_take] at this
      have : 0 < ipaIfaceNameLen := by decide
      omega
    subst ht
    rw [names, h.entries, h.array, List.set_append_right _ _ (Nat.le_refl _), Nat.sub_self] at hmem
    have hgap : n - l.length = n - (l.length + 1) + 1 := by
      rw [h.entries, h.length_eq] at hroom
      omega
    rw [hgap, List.replicate_succ, List.set_cons_zero, List.take_append, List.mem_append] at hmem
    rcases hmem with hmem | hmem
    · exact hm (List.mem_of_mem_take hmem)
    · rw [Nat.add_sub_cancel_left] at hmem
      simp only [List.take_succ_cons, List.take_zero, List.mem_singleton] at hmem
      exact hcut hmem.symm
  · rw [if_neg hroom] at ht
    subst ht
    have hmem : devName.name ∈ s.pNatIfaces := List.mem_of_mem_take hmem
    rw [h.array, List.mem_append] at hmem
    exact hmem.elim hm fun hr => devName.ne_nil (List.eq_of_mem_replicate hr)

theorem del (h : Filled n l s) : ∃ t, s.delNatIfaces devName.name = some t ∧ Filled n (edit l (.del devName)) t := by
  rw [edit, delNatIfaces, h.lookup_eq, Option.bind_some]
  cases hf : l.findIdx? (devName.name == ·) with
  | none =>
    have hm : devName.name ∉ l := fun hm => by simpa using List.findIdx?_eq_none_iff.1 hf _ hm
    exact ⟨s, rfl, by rwa [List.erase_of_not_mem hm]⟩
  | some i =>
    obtain ⟨hlt, hat, hfirst⟩ := List.findIdx?_eq_some_iff_getElem.1 hf
    have hat : l[i] = devName.name := (eq_of_beq hat).symm
    have hlen := h.length_le
    have hsplit : l = l.take i ++ devName.name :: l.drop (i + 1) := by
      rw [← hat, ← List.drop_eq_getElem_cons hlt, List.take_append_drop]
    have hfront : devName.name ∉ l.take i := by
      intro hm
      obtain ⟨j, hj, he⟩ := List.getElem_of_mem hm
      rw [List.length_take] at hj
      rw [List.getElem_take] at he
      exact hfirst j (by omega) (by simp [he])
    have herase : l.erase devName.name = l.take i ++ l.drop (i + 1) := by
      conv_lhs => rw [hsplit]
      rw [List.erase_append_right _ hfront, List.erase_cons_head]
    have hi : (l.take i).length = i := List.length_take_of_le (Nat.le_of_lt hlt)
    have hmoved : (l.drop (i + 1)).length = s.ipaNatIfaceEntries - 1 - i := by
      rw [List.length_drop, h.entries]
      omega
    have hset : s.pNatIfaces.set i [] = l.take i ++ [] :: l.drop (i + 1) ++ List.replicate (n - l.length) [] := by
      rw [h.array, List.set_append_left _ _ hlt]
      conv_lhs => rw [hsplit]
      rw [List.set_append_right _ _ (Nat.le_of_eq hi), hi, Nat.sub_self, List.set_cons_zero, ← hsplit]
    have hmove := moveDown_eq (l.take i) (l.drop (i + 1)) (List.replicate (n - l.length) [])
    rw [hi, hmoved, ← hset] at hmove
    dsimp only
    rw [hmove]
    refine ⟨_, rfl, ?_⟩
    have hcount : (l.erase devName.name).length = l.length - 1 := List.length_erase_of_mem (hat ▸ List.getElem_mem hlt)
    refine ⟨?_, ?_, ?_, h.nodup.erase _, fun name hn => h.fits name (List.mem_of_mem_erase hn)⟩
    · rw [hcount, h.entries]
    · rw [hcount, herase, ← List.replicate_succ, show n - (l.length - 1) = n - l.length + 1 by omega]
    · rw [hcount]
      omega

end Filled

/-- The condition on a call in a run. -/
def FitsStep (s : Option NatIfaces) (c : Call) : Prop := ∃ t, s = some t ∧ t.Fits c

/-- **The list of interfaces** is the one the calls make, within the array and without duplicates, all along a run exactly
when each name that is added is there already, or is shorter than an entry and leaves the last entry of the array free. -/
theorem nat_ifaces_iff (n : Nat) (cs : List Call) :
    (∀ pre, pre <+: cs → ∃ s, pre.foldl step (some (init n)) = some s ∧ Lists n pre s) ↔
      Lib.EachStep step FitsStep (some (init n)) cs := by
  let I (cs : List Call) (s : Option NatIfaces) : Prop := ∃ t, s = some t ∧ Filled n (edited cs) t
  have hkeep : ∀ cs s c, I cs s → FitsStep s c → I (cs ++ [c]) (step s c) := by
    rintro cs _ c ⟨s, rfl, h⟩ ⟨_, hs, hf⟩
    cases hs
    show ∃ t, _ ∧ Filled n (edited (cs ++ [c])) t
    rw [edited_concat]
    cases c with
    | add devName => exact h.add hf
    | del devName => exact h.del
  refine Lib.eachStep_iff (I := I) (J := fun cs s => ∃ t, s = some t ∧ Lists n cs t) ?_ hkeep ?_ ⟨_, rfl, .init_filled n⟩ cs
  · rintro cs _ ⟨s, rfl, h⟩
    exact ⟨s, rfl, h.lists⟩
  · rintro cs _ c ⟨s, rfl, h⟩ ⟨t, ht, hlists⟩
    refine ⟨s, rfl, ?_⟩
    by_contra hf
    cases c with
    | del devName => exact hf trivial
    | add devName =>
      refine h.not_add hf ht hlists.bound ?_
      rw [hlists.names, edited_concat, edit]
      split
      · assumption
      · simp

/-- `wlan0` and `usb0`. -/
def wlan0 : DevName := ⟨[119, 108, 97, 110, 48], List.cons_ne_nil _ _⟩
def usb0 : DevName := ⟨[117, 115, 98, 48], List.cons_ne_nil _ _⟩

/-- The last entry of the array stays empty: the second of two interfaces is counted only. -/
theorem not_nat_ifaces_sample : ¬ ∃ s, [Call.add wlan0, .add usb0].foldl step (some (init 2)) = some s ∧
    Lists 2 [.add wlan0, .add usb0] s := by
  rintro ⟨s, hs, h⟩
  cases hs
  exact absurd h.names (by decide)

end NatIfaces
end HiaeCommon
