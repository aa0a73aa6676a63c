/-
The entry under a handle, and series of changes of entries. Where no handle
occurs twice in a series, each entry it names has its one change, and every
other entry is as it was.
-/
import HiaeCommon.Lib.OrderedLedger

namespace HiaeCommon.Lib.Ledger

variable {ρ : Type} {d : Ledger ρ} {h k : Nat} {f : ρ → ρ}

/-- What is installed under a handle. -/
def lookup (d : Ledger ρ) (h : Nat) : Option ρ := (d.live.find? fun x => x.1 = h).map Prod.snd

/-- A series of changes. -/
def modifyAll (l : List (Nat × (ρ → ρ))) (d : Ledger ρ) : Ledger ρ := l.foldl (fun d x => d.modify x.1 x.2) d

theorem lookup_of_mem (hd : d.used.Nodup) {r : ρ} (hm : (h, r) ∈ d.live) : d.lookup h = some r := by
  cases hf : d.live.find? fun x => x.1 = h with
  | none => exact absurd (List.find?_eq_none.1 hf _ hm) (by simp)
  | some x =>
    have hx : x.1 = h := by simpa using List.find?_some hf
    rw [lookup, hf, Option.map_some, live_unique hd (List.mem_of_find?_eq_some hf) hm hx]

theorem lookup_modify_self : (d.modify h f).lookup h = (d.lookup h).map f := by
  rw [lookup, lookup, modify]
  induction d.live with
  | nil => rfl
  | cons x l ih =>
    rw [List.map_cons, List.find?_cons, List.find?_cons]
    by_cases hx : x.1 = h
    · simp [hx]
    · simpa [hx] using ih

theorem lookup_modify_other (hne : k ≠ h) : (d.modify h f).lookup k = d.lookup k := by
  rw [lookup, lookup, modify]
  induction d.live with
  | nil => rfl
  | cons x l ih =>
    rw [List.map_cons, List.find?_cons, List.find?_cons]
    by_cases hx : x.1 = h
    · simpa [hx, Ne.symm hne] using ih
    · by_cases hk : x.1 = k
      · simp [hk, hne]
      · simpa [hx, hk] using ih

variable {l : List (Nat × (ρ → ρ))}

theorem modifyAll_append (l₁ l₂ : List (Nat × (ρ → ρ))) (d : Ledger ρ) : d.modifyAll (l₁ ++ l₂) = (d.modifyAll l₁).modifyAll l₂ :=
  List.foldl_append

theorem lookup_modifyAll_other (hk : k ∉ l.map Prod.fst) : (d.modifyAll l).lookup k = d.lookup k := by
  induction l generalizing d with
  | nil => rfl
  | cons x l ih =>
    rw [List.map_cons, List.mem_cons, not_or] at hk
    exact (ih hk.2).trans (lookup_modify_other hk.1)

theorem lookup_modifyAll_mem (hl : (l.map Prod.fst).Nodup) (hm : (k, f) ∈ l) : (d.modifyAll l).lookup k = (d.lookup k).map f := by
  induction l generalizing d with
  | nil => cases hm
  | cons x l ih =>
    rw [List.map_cons, List.nodup_cons] at hl
    cases List.mem_cons.1 hm with
    | inl hx =>
      cases hx
      exact (lookup_modifyAll_other hl.1).trans lookup_modify_self
    | inr hm =>
      have hne : k ≠ x.1 := fun he => hl.1 (he ▸ List.mem_map.2 ⟨_, hm, rfl⟩)
      exact (ih hl.2 hm).trans (congrArg (Option.map f) (lookup_modify_other hne))

end HiaeCommon.Lib.Ledger
