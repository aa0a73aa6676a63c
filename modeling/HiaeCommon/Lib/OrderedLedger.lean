/-
A ledger whose entries are in the driver's order: what is added goes to the
rear or to the front, several entries may be added by one call, and the driver
may refuse some of them. What is installed of one kind, in order, is a `view`.
-/
import HiaeCommon.Lib.Ledger

namespace HiaeCommon.Lib.Ledger

variable {ρ : Type}

/-- `r` goes to the rear or to the front. -/
def put (H : Handles) (rear : Bool) (r : ρ) (d : Ledger ρ) : Nat × Ledger ρ :=
  (H.pick d.used, { d with live := if rear then d.live ++ [(H.pick d.used, r)] else (H.pick d.used, r) :: d.live })

/-- The entries of one call, one after the other, and their handles: none for one that is refused. -/
def install (H : Handles) (refused : Nat → Bool) : List (Bool × ρ) → Ledger ρ → List (Option Nat) × Ledger ρ
  | [], d => ([], d)
  | (rear, r) :: l, d =>
    if refused 0 then
      let (hs, d) := install H (fun i => refused (i + 1)) l d
      (none :: hs, d)
    else
      let (h, d) := d.put H rear r
      let (hs, d) := install H (fun i => refused (i + 1)) l d
      (some h :: hs, d)

/-- The entry with the handle `h` is changed. -/
def modify (h : Nat) (f : ρ → ρ) (d : Ledger ρ) : Ledger ρ :=
  { d with live := d.live.map fun x => if x.1 = h then (h, f x.2) else x }

/-- What is installed of one kind, in order. -/
def view (p : ρ → Bool) (d : Ledger ρ) : List (Nat × ρ) := d.live.filter fun x => p x.2

section Put

variable {H : Handles} {d : Ledger ρ}

theorem put_not_mem (H : Handles) (rear : Bool) (r : ρ) (d : Ledger ρ) : (d.put H rear r).1 ∉ d.used := H.fresh _

theorem mem_put (rear : Bool) (r : ρ) {x : Nat × ρ} (hx : x ∈ d.live) : x ∈ (d.put H rear r).2.live := by
  cases rear with
  | true => exact List.mem_append_left _ hx
  | false => exact List.mem_cons_of_mem _ hx

theorem put_mem (rear : Bool) (r : ρ) : ((d.put H rear r).1, r) ∈ (d.put H rear r).2.live := by
  cases rear with
  | true => exact List.mem_append_right _ (List.mem_singleton_self _)
  | false => exact List.mem_cons_self ..

theorem mem_of_mem_put (rear : Bool) (r : ρ) {x : Nat × ρ} (hx : x ∈ (d.put H rear r).2.live) :
    x ∈ d.live ∨ x = ((d.put H rear r).1, r) := by
  cases rear with
  | true => exact (List.mem_append.1 hx).imp_right List.mem_singleton.1
  | false => exact (List.mem_cons.1 hx).symm

theorem put_nodup (rear : Bool) (r : ρ) (h : d.used.Nodup) : (d.put H rear r).2.used.Nodup := by
  have hnot : H.pick d.used ∉ d.used := H.fresh _
  cases rear with
  | true =>
    simp only [put, used, if_true, List.map_append, List.map_cons, List.map_nil]
    rw [← List.concat_eq_append]
    exact h.concat hnot
  | false => exact List.nodup_cons.2 ⟨hnot, h⟩

theorem put_view_of_not {p : ρ → Bool} (rear : Bool) {r : ρ} (hp : p r = false) : (d.put H rear r).2.view p = d.view p := by
  cases rear with
  | true => simp [put, view, List.filter_append, hp]
  | false => simp [put, view, hp]

@[simp] theorem put_misses (rear : Bool) (r : ρ) : (d.put H rear r).2.misses = d.misses := rfl

end Put

section Install

variable {H : Handles} {refused : Nat → Bool} {l : List (Bool × ρ)} {d : Ledger ρ}

theorem install_nodup (h : d.used.Nodup) : (d.install H refused l).2.used.Nodup := by
  induction l generalizing refused d with
  | nil => exact h
  | cons x l ih =>
    simp only [install]
    split
    · exact ih h
    · exact ih (put_nodup x.1 x.2 h)

/-- What is not of the kind is not seen. -/
theorem install_view_of_not {p : ρ → Bool} (hp : ∀ x ∈ l, p x.2 = false) : (d.install H refused l).2.view p = d.view p := by
  induction l generalizing refused d with
  | nil => rfl
  | cons x l ih =>
    have hl := fun y (hy : y ∈ l) => hp y (List.mem_cons_of_mem _ hy)
    simp only [install]
    split
    · exact ih hl
    · rw [ih hl]
      exact put_view_of_not x.1 (hp x (by simp))

theorem install_fresh {h : Nat} (hm : some h ∈ (d.install H refused l).1) : h ∉ d.used := by
  induction l generalizing refused d with
  | nil => cases hm
  | cons x l ih =>
    simp only [install] at hm
    split at hm
    · rcases List.mem_cons.1 hm with hm | hm
      · cases hm
      · exact ih hm
    · rcases List.mem_cons.1 hm with hm | hm
      · cases hm
        exact put_not_mem H x.1 x.2 d
      · refine fun hd => ih hm ?_
        obtain ⟨y, hy, rfl⟩ := List.mem_map.1 hd
        exact List.mem_map_of_mem (mem_put x.1 x.2 hy)

/-- What was there stays there. -/
theorem mem_install {x : Nat × ρ} (hx : x ∈ d.live) : x ∈ (d.install H refused l).2.live := by
  induction l generalizing refused d with
  | nil => exact hx
  | cons y l ih =>
    simp only [install]
    split
    · exact ih hx
    · exact ih (mem_put y.1 y.2 hx)

/-- What is there was there, or is one of the entries under one of the handles. -/
theorem mem_of_mem_install {x : Nat × ρ} (hx : x ∈ (d.install H refused l).2.live) :
    x ∈ d.live ∨ some x.1 ∈ (d.install H refused l).1 ∧ ∃ y ∈ l, x.2 = y.2 := by
  induction l generalizing refused d with
  | nil => exact .inl hx
  | cons y l ih =>
    simp only [install] at hx ⊢
    split at hx
    next hr =>
      rw [if_pos hr]
      rcases ih hx with h | ⟨h, z, hz, he⟩
      · exact .inl h
      · exact .inr ⟨List.mem_cons_of_mem _ h, z, List.mem_cons_of_mem _ hz, he⟩
    next hr =>
      rw [if_neg hr]
      rcases ih hx with h | ⟨h, z, hz, he⟩
      · rcases mem_of_mem_put y.1 y.2 h with h | rfl
        · exact .inl h
        · exact .inr ⟨List.mem_cons_self .., y, List.mem_cons_self .., rfl⟩
      · exact .inr ⟨List.mem_cons_of_mem _ h, z, List.mem_cons_of_mem _ hz, he⟩

/-- A handle that comes back is that of one of the entries, which is there. -/
theorem live_of_mem_install {h : Nat} (hm : some h ∈ (d.install H refused l).1) :
    ∃ y ∈ l, (h, y.2) ∈ (d.install H refused l).2.live := by
  induction l generalizing refused d with
  | nil => cases hm
  | cons x l ih =>
    simp only [install] at hm ⊢
    split at hm
    next hr =>
      rw [if_pos hr]
      rcases List.mem_cons.1 hm with hm | hm
      · cases hm
      · obtain ⟨y, hy, hlive⟩ := ih hm
        exact ⟨y, List.mem_cons_of_mem _ hy, hlive⟩
    next hr =>
      rw [if_neg hr]
      rcases List.mem_cons.1 hm with hm | hm
      · cases hm
        exact ⟨x, List.mem_cons_self .., mem_install (put_mem x.1 x.2)⟩
      · obtain ⟨y, hy, hlive⟩ := ih hm
        exact ⟨y, List.mem_cons_of_mem _ hy, hlive⟩

@[simp] theorem install_length : (d.install H refused l).1.length = l.length := by
  induction l generalizing refused d with
  | nil => rfl
  | cons x l ih =>
    simp only [install]
    split <;> simp [ih]

/-- Entries at the rear, none of them refused: they are all there, behind what was there. -/
theorem install_rear {rs : List ρ} (hr : ∀ i, refused i = false) :
    ∃ hs : List Nat, hs.length = rs.length ∧ (d.install H refused (rs.map fun r => (true, r))).1 = hs.map some ∧
      (d.install H refused (rs.map fun r => (true, r))).2.live = d.live ++ hs.zip rs := by
  induction rs generalizing refused d with
  | nil => exact ⟨[], rfl, rfl, by simp [install]⟩
  | cons r rs ih =>
    obtain ⟨hs, hlen, hfst, hlive⟩ := @ih (fun i => refused (i + 1)) (d.put H true r).2 fun i => hr (i + 1)
    refine ⟨(d.put H true r).1 :: hs, by simp [hlen], ?_, ?_⟩
    · simp only [List.map_cons, install, hr 0, Bool.false_eq_true, if_false, hfst]
    · simp only [List.map_cons, install, hr 0, Bool.false_eq_true, if_false, hlive]
      simp [put]

/-- Entries of another kind that came to the rear are not seen. -/
theorem view_append_of_not {d d' : Ledger ρ} {p : ρ → Bool} {hs : List Nat} {rs : List ρ} (h : d'.live = d.live ++ hs.zip rs)
    (hp : ∀ r ∈ rs, p r = false) : d'.view p = d.view p := by
  have hnone : (hs.zip rs).filter (fun x => p x.2) = [] := by
    refine List.filter_eq_nil_iff.2 fun x hx => ?_
    rw [hp _ (List.of_mem_zip (a := x.1) (b := x.2) hx).2]
    simp
  rw [view, h, List.filter_append, hnone, List.append_nil]
  rfl

/-- Entries of the kind that came to the rear are seen at the rear. -/
theorem view_append {d d' : Ledger ρ} {p : ρ → Bool} {hs : List Nat} {rs : List ρ} (h : d'.live = d.live ++ hs.zip rs)
    (hp : ∀ r ∈ rs, p r = true) : d'.view p = d.view p ++ hs.zip rs := by
  rw [view, h, List.filter_append]
  congr 1
  exact List.filter_eq_self.2 fun x hx => hp _ (List.of_mem_zip (a := x.1) (b := x.2) hx).2

end Install

section Del

variable {d : Ledger ρ} {p : ρ → Bool} {h : Nat}

theorem del_live (h : Nat) (d : Ledger ρ) : (d.del h).live = d.live.filter fun x => x.1 ≠ h := by
  unfold del
  split
  next hm => rfl
  next hm =>
    refine (List.filter_eq_self.2 fun x hx => ?_).symm
    have : x.1 ≠ h := fun he => hm (he ▸ List.mem_map_of_mem hx)
    simpa using this

theorem del_nodup (hd : d.used.Nodup) : (d.del h).used.Nodup := by
  rw [used, del_live]
  exact hd.sublist (List.filter_sublist.map _)

theorem del_view : (d.del h).view p = (d.view p).filter fun x => x.1 ≠ h := by
  rw [view, del_live, view, List.filter_filter, List.filter_filter]
  exact List.filter_congr fun x _ => Bool.and_comm _ _

theorem del_view_of_not_mem (hh : ∀ r, (h, r) ∉ d.view p) : (d.del h).view p = d.view p := by
  rw [del_view]
  refine List.filter_eq_self.2 fun x hx => ?_
  have : x.1 ≠ h := fun he => hh x.2 (he ▸ hx)
  simpa using this

/-- Two entries under one handle are one entry. -/
theorem live_unique (hd : d.used.Nodup) {x y : Nat × ρ} (hx : x ∈ d.live) (hy : y ∈ d.live) (he : x.1 = y.1) : x = y :=
  List.inj_on_of_nodup_map hd hx hy he

/-- What was seen of one kind is deleted: nothing of it is left, and what is of another kind is as it was. -/
theorem view_of_deleted {d' : Ledger ρ} (h : d'.live = d.live.filter fun x => x.1 ∉ (d.view p).map Prod.fst) : d'.view p = [] := by
  rw [view, h, List.filter_filter]
  refine List.filter_eq_nil_iff.2 fun x hx => ?_
  by_cases hp : p x.2 = true
  · have hm : x.1 ∈ (d.view p).map Prod.fst := List.mem_map_of_mem (List.mem_filter.2 ⟨hx, hp⟩)
    simp [hm]
  · simp [hp]

theorem view_of_deleted_other {d' : Ledger ρ} {q : ρ → Bool} (hd : d.used.Nodup) (hpq : ∀ r, p r = true → q r = false)
    (h : d'.live = d.live.filter fun x => x.1 ∉ (d.view p).map Prod.fst) : d'.view q = d.view q := by
  have hview : d'.view q = (d.live.filter fun x => x.1 ∉ (d.view p).map Prod.fst).filter fun x => q x.2 :=
    congrArg (List.filter fun x : Nat × ρ => q x.2) h
  rw [hview, List.filter_filter]
  refine List.filter_congr fun x hx => ?_
  by_cases hq : q x.2 = true
  · have hm : x.1 ∉ (d.view p).map Prod.fst := fun hm => by
      obtain ⟨y, hy, he⟩ := List.mem_map.1 hm
      obtain ⟨hy, hp⟩ := List.mem_filter.1 hy
      rw [live_unique hd hy hx he] at hp
      rw [hpq _ hp] at hq
      cases hq
    rw [hq, decide_eq_true hm]
    rfl
  · simp [hq]

theorem mem_del {x : Nat × ρ} : x ∈ (d.del h).live ↔ x ∈ d.live ∧ x.1 ≠ h := by
  rw [del_live, List.mem_filter, decide_eq_true_iff]

end Del

section Modify

variable {d : Ledger ρ} {p : ρ → Bool} {h : Nat} {f : ρ → ρ}

@[simp] theorem modify_used : (d.modify h f).used = d.used := by
  rw [used, modify, List.map_map]
  refine List.map_congr_left fun x _ => ?_
  by_cases hx : x.1 = h
  · simp [hx]
  · simp [hx]

theorem mem_modify {x : Nat × ρ} (hx : x ∈ (d.modify h f).live) :
    ∃ y ∈ d.live, y.1 = x.1 ∧ (x.2 = y.2 ∨ x.1 = h ∧ x.2 = f y.2) := by
  obtain ⟨y, hy, rfl⟩ := List.mem_map.1 hx
  refine ⟨y, hy, ?_⟩
  by_cases he : y.1 = h
  · rw [if_pos he]
    exact ⟨he, .inr ⟨rfl, rfl⟩⟩
  · rw [if_neg he]
    exact ⟨rfl, .inl rfl⟩

theorem mem_modify_of_ne {x : Nat × ρ} (hx : x ∈ d.live) (hne : x.1 ≠ h) : x ∈ (d.modify h f).live :=
  List.mem_map.2 ⟨x, hx, if_neg hne⟩

/-- A change that keeps the kind is seen in its place. -/
theorem modify_view (hp : ∀ r, p (f r) = p r) :
    (d.modify h f).view p = (d.view p).map fun x => if x.1 = h then (h, f x.2) else x := by
  rw [view, view, modify, List.filter_map]
  congr 1
  refine List.filter_congr fun x _ => ?_
  by_cases hx : x.1 = h
  · simp [hx, hp]
  · simp [hx]

/-- A change of an entry that is not of the kind, and does not become so, is not seen. -/
theorem modify_view_of_not (hp : ∀ r, (h, r) ∈ d.live → p r = false ∧ p (f r) = false) : (d.modify h f).view p = d.view p := by
  rw [view, view, modify]
  generalize d.live = l at hp
  induction l with
  | nil => rfl
  | cons x l ih =>
    have hl := ih fun r hr => hp r (List.mem_cons_of_mem _ hr)
    rw [List.map_cons]
    by_cases hx : x.1 = h
    · obtain ⟨h1, h2⟩ := hp x.2 (hx ▸ List.mem_cons_self ..)
      rw [if_pos hx, List.filter_cons_of_neg (by simp [h2]), List.filter_cons_of_neg (by simp [h1]), hl]
    · rw [if_neg hx, List.filter_cons, List.filter_cons, hl]

end Modify

end HiaeCommon.Lib.Ledger
