/-
`private_subnet_table` over the calls of `AddPrivateSubnet` and
`DelPrivateSubnet`. A deletion moves the subnets behind the deleted one down by
one and leaves the masks: each subnet keeps its own as long as the masks from
there on are the same.
-/
import HiaeCommon.Ipacm.PrivateSubnets

namespace HiaeCommon

namespace PrivateSubnetTable

/-- The entries in use: each subnet with its mask. -/
def entries (t : PrivateSubnetTable) : List (BitVec 32 × BitVec 32) :=
  (List.range t.num).map fun cnt => (t.subnetAddr cnt, t.subnetMask cnt)

variable {t : PrivateSubnetTable} {a : BitVec 32}

@[simp] theorem length_entries (t : PrivateSubnetTable) : t.entries.length = t.num := by simp [entries]

@[simp] theorem getElem_entries (t : PrivateSubnetTable) (k : Nat) (hk : k < t.entries.length) :
    t.entries[k] = (t.subnetAddr k, t.subnetMask k) := by simp [entries]

theorem has_eq (t : PrivateSubnetTable) (a : BitVec 32) : t.has a = t.entries.any fun e => e.1 == a := by
  rw [has, entries, List.any_map]
  rfl

end PrivateSubnetTable

/-- A call of either. -/
inductive SubnetCall
  | add (ipAddr : BitVec 32) (ipaIfIndex : Nat)
  | del (ipAddr : BitVec 32) (ipaIfIndex : Nat)
  deriving DecidableEq, Repr

namespace LanOut

def subnetCall (o : LanOut) : SubnetCall → LanOut
  | .add ipAddr ipaIfIndex => o.addPrivateSubnet ipAddr ipaIfIndex
  | .del ipAddr ipaIfIndex => o.delPrivateSubnet ipAddr ipaIfIndex

/-- What a call makes of a list of subnets with their masks: one that is new and for which there is room goes behind the
others, one that is deleted goes with its mask. -/
def editSubnets (l : List (BitVec 32 × BitVec 32)) : SubnetCall → List (BitVec 32 × BitVec 32)
  | .add ipAddr _ =>
    if (l.any fun e => e.1 == ipAddr) = true ∨ ipaMaxPrivateSubnetEntries ≤ l.length then l else l ++ [(ipAddr, 0xFFFFFF00)]
  | .del ipAddr _ => l.eraseP fun e => e.1 == ipAddr

/-- The table holds the subnets the calls leave of those it began with, each with its mask, and each once if it began so. -/
structure HoldsSubnets (t : PrivateSubnetTable) (cs : List SubnetCall) (o : LanOut) : Prop where
  entries : o.privateSubnet.entries = cs.foldl editSubnets t.entries
  distinct : (t.entries.map Prod.fst).Nodup → (o.privateSubnet.entries.map Prod.fst).Nodup

/-- When a deletion takes no mask from another subnet: those from the deleted one on are the same. -/
def MasksAgree (o : LanOut) : SubnetCall → Prop
  | .add _ _ => True
  | .del ipAddr _ => ∀ cnt k, o.privateSubnet.subnetAddr cnt = ipAddr → cnt ≤ k → k + 1 < o.privateSubnet.num →
      o.privateSubnet.subnetMask k = o.privateSubnet.subnetMask (k + 1)

variable {o : LanOut} {t : PrivateSubnetTable} {cs : List SubnetCall} {c : SubnetCall}

theorem editSubnets_nodup {l : List (BitVec 32 × BitVec 32)} (h : (l.map Prod.fst).Nodup) :
    ((editSubnets l c).map Prod.fst).Nodup := by
  cases c with
  | del ipAddr _ => exact h.sublist ((List.eraseP_sublist).map _)
  | add ipAddr _ =>
    rw [editSubnets]
    split
    · exact h
    next hnew =>
      have hno : ipAddr ∉ l.map Prod.fst := by
        intro hm
        obtain ⟨e, he, rfl⟩ := List.mem_map.1 hm
        exact hnew (.inl (List.any_eq_true.2 ⟨e, he, beq_self_eq_true _⟩))
      rw [List.map_append, List.map_singleton, ← List.concat_eq_append]
      exact h.concat hno

theorem addPrivateSubnet_entries (ipAddr : BitVec 32) (n : Nat) :
    (o.addPrivateSubnet ipAddr n).privateSubnet.entries = editSubnets o.privateSubnet.entries (.add ipAddr n) := by
  have hhas : (o.privateSubnet.entries.any fun e => e.1 == ipAddr) = o.privateSubnet.has ipAddr :=
    (PrivateSubnetTable.has_eq ..).symm
  rw [editSubnets, hhas, PrivateSubnetTable.length_entries, addPrivateSubnet]
  rw [show ((List.range o.privateSubnet.num).any fun cnt => decide (o.privateSubnet.subnetAddr cnt = ipAddr)) =
    o.privateSubnet.has ipAddr from rfl]
  by_cases hh : o.privateSubnet.has ipAddr = true
  · rw [if_pos hh, if_pos (.inl hh)]
  · rw [if_neg hh]
    split
    next hlt =>
      rw [if_neg (not_or.2 ⟨hh, Nat.not_le.2 hlt⟩)]
      refine List.ext_getElem (by simp [post]) fun k hk _ => ?_
      rw [List.getElem_append]
      by_cases hkn : k < o.privateSubnet.num
      · have hne : k ≠ o.privateSubnet.num := Nat.ne_of_lt hkn
        simp [post, hkn, hne]
      · have hlast : k = o.privateSubnet.num := by
          simp [post] at hk
          omega
        simp [post, hlast]
    next hfull => rw [if_pos (.inr (Nat.not_lt.1 hfull))]

/-- **A deletion** leaves every other subnet its own mask exactly when the masks from the deleted one on are the same. -/
theorem delPrivateSubnet_entries_iff (ipAddr : BitVec 32) (n : Nat) :
    (o.delPrivateSubnet ipAddr n).privateSubnet.entries = editSubnets o.privateSubnet.entries (.del ipAddr n) ↔
      o.MasksAgree (.del ipAddr n) := by
  rw [editSubnets, delPrivateSubnet, List.eraseP_eq_eraseIdx]
  cases hf : (List.range o.privateSubnet.num).find? fun cnt => o.privateSubnet.subnetAddr cnt = ipAddr with
  | none =>
    have hno : ∀ cnt, cnt < o.privateSubnet.num → o.privateSubnet.subnetAddr cnt ≠ ipAddr := fun cnt hc => by
      simpa using List.find?_eq_none.1 hf cnt (List.mem_range.2 hc)
    have hnone : (o.privateSubnet.entries.findIdx? fun e => e.1 == ipAddr) = none := by
      refine List.findIdx?_eq_none_iff.2 fun e he => ?_
      obtain ⟨cnt, hc, rfl⟩ := List.mem_map.1 he
      simpa using hno cnt (List.mem_range.1 hc)
    rw [hnone]
    exact iff_of_true rfl fun cnt k ha hk hlt => absurd ha (hno cnt (by omega))
  | some cnt =>
    obtain ⟨hat, hmem, hfirst⟩ := List.find?_range_eq_some.1 hf
    have hat : o.privateSubnet.subnetAddr cnt = ipAddr := by simpa using hat
    have hlt : cnt < o.privateSubnet.num := List.mem_range.1 hmem
    have hfind : (o.privateSubnet.entries.findIdx? fun e => e.1 == ipAddr) = some cnt := by
      refine List.findIdx?_eq_some_iff_getElem.2 ⟨by simpa using hlt, by simp [hat], fun j hj => ?_⟩
      simpa using hfirst j hj
    rw [hfind]
    show PrivateSubnetTable.entries _ = o.privateSubnet.entries.eraseIdx cnt ↔ _
    rw [List.ext_getElem_iff]
    constructor
    · rintro ⟨-, hall⟩ j k hj hjk hk
      have hcj : ¬ k < cnt := fun hkc => absurd hj (by simpa using hfirst j (by omega))
      have hkeep := congrArg Prod.snd (hall k (by simp; omega) (by rw [List.length_eraseIdx_of_lt (by simpa)]; simp; omega))
      simpa [List.getElem_eraseIdx, hcj] using hkeep
    · intro hmasks
      refine ⟨by rw [List.length_eraseIdx_of_lt (by simpa)]; simp, fun k hk _ => ?_⟩
      have hk : k + 1 < o.privateSubnet.num := by
        rw [PrivateSubnetTable.length_entries] at hk
        exact Nat.add_lt_of_lt_sub hk
      rw [List.getElem_eraseIdx]
      by_cases hkc : k < cnt
      · have hnot : ¬ cnt ≤ k := Nat.not_le.2 hkc
        simp [hkc, hnot]
      · have hmask := hmasks cnt k hat (Nat.not_lt.1 hkc) hk
        have hbehind : cnt ≤ k ∧ k < o.privateSubnet.num - 1 := ⟨Nat.not_lt.1 hkc, Nat.lt_sub_of_add_lt hk⟩
        simp [hkc, hbehind, hmask]

/-- **The table** holds the subnets the calls leave, each with its own mask, all along a run exactly when no deletion finds
different masks from the deleted subnet on. -/
theorem private_subnet_table_iff (o : LanOut) (cs : List SubnetCall) :
    (∀ pre, pre <+: cs → HoldsSubnets o.privateSubnet pre (pre.foldl subnetCall o)) ↔ Lib.EachStep subnetCall MasksAgree o cs := by
  let I (cs : List SubnetCall) (o' : LanOut) : Prop := HoldsSubnets o.privateSubnet cs o'
  have hstep : ∀ cs o' c, I cs o' → (I (cs ++ [c]) (o'.subnetCall c) ↔ o'.MasksAgree c) := by
    intro cs o' c h
    have hedit : I (cs ++ [c]) (o'.subnetCall c) ↔
        (o'.subnetCall c).privateSubnet.entries = editSubnets o'.privateSubnet.entries c := by
      have hfold : (cs ++ [c]).foldl editSubnets o.privateSubnet.entries = editSubnets o'.privateSubnet.entries c := by
        rw [List.foldl_append, ← h.entries]
        rfl
      refine ⟨fun h' => h'.entries.trans hfold, fun he => ⟨he.trans hfold.symm, fun hd => ?_⟩⟩
      rw [he]
      exact editSubnets_nodup (h.distinct hd)
    rw [hedit]
    cases c with
    | add ipAddr n => exact iff_of_true (addPrivateSubnet_entries ipAddr n) trivial
    | del ipAddr n => exact delPrivateSubnet_entries_iff ipAddr n
  exact Lib.eachStep_iff (I := I) (fun _ _ => id) (fun cs o' c h => (hstep cs o' c h).2) (fun cs o' c h => (hstep cs o' c h).1)
    ⟨rfl, id⟩ cs

/-- Two subnets of the configuration with different masks. -/
def twoSubnets : LanOut := { privateSubnet :=
  { num := 2
    subnetAddr := fun k => if k = 0 then 0xC0A8E100 else 0x0A000000
    subnetMask := fun k => if k = 0 then 0xFFFFFF00 else 0xFF000000
    fits := Nat.le_succ 2 } }

/-- The second takes over the mask of the first. -/
theorem not_private_subnet_table_sample : ¬ HoldsSubnets twoSubnets.privateSubnet [.del 0xC0A8E100 0]
    ([SubnetCall.del 0xC0A8E100 0].foldl subnetCall twoSubnets) := fun h => absurd h.entries (by decide)

end LanOut
end HiaeCommon
