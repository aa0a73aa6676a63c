/-
Lists sent in pieces: every piece but the last has the full size.
-/

namespace HiaeCommon.Lib

variable {α : Type} {n : Nat} {l c : List α} {cs : List (List α)}

/-- `cs` is `l` in pieces of size `n`, with what is left over last. -/
structure Chunked (n : Nat) (l : List α) (cs : List (List α)) : Prop where
  flatten : cs.flatten = l
  le : ∀ c ∈ cs, c.length ≤ n
  full : ∀ c ∈ cs.dropLast, c.length = n
  nonempty : cs ≠ []
  /-- No piece is empty, unless there is nothing to send. -/
  some : l ≠ [] → ∀ c ∈ cs, c ≠ []

namespace Chunked

theorem last (h : l.length ≤ n) : Chunked n l [l] where
  flatten := List.append_nil l
  le := by simpa using h
  full := by simp
  nonempty := by simp
  some := by simp

theorem cons (hc : c.length = n) (hn : 0 < n) (hl : l ≠ []) (h : Chunked n l cs) : Chunked n (c ++ l) (c :: cs) where
  flatten := by rw [List.flatten_cons, h.flatten]
  le := by
    intro d hd
    rcases List.mem_cons.1 hd with rfl | hd
    · omega
    · exact h.le d hd
  full := by
    intro d hd
    rw [List.dropLast_cons_of_ne_nil h.nonempty] at hd
    rcases List.mem_cons.1 hd with rfl | hd
    · exact hc
    · exact h.full d hd
  nonempty := by simp
  some := by
    rintro - d hd rfl
    rcases List.mem_cons.1 hd with rfl | hd
    · rw [List.length_nil] at hc
      omega
    · exact h.some hl [] hd rfl

/-- What does not fit one piece begins with a full one. -/
theorem exists_full (h : Chunked n l cs) (hl : n < l.length) : ∃ c ∈ cs.dropLast, c.length = n := by
  match cs, h with
  | [], h => exact absurd rfl h.nonempty
  | [c], h =>
    have hle := h.le c (by simp)
    have hflat := h.flatten
    rw [List.flatten_cons, List.flatten_nil, List.append_nil] at hflat
    subst hflat
    omega
  | c :: d :: ds, h =>
    have hmem : c ∈ (c :: d :: ds).dropLast := by simp
    exact ⟨c, hmem, h.full c hmem⟩

/-- What fits one piece is one. -/
theorem dropLast_eq_nil (h : Chunked n l cs) (hn : 0 < n) (hl : l.length ≤ n) : cs.dropLast = [] := by
  match cs, h with
  | [], h => exact absurd rfl h.nonempty
  | [c], h => rfl
  | c :: d :: ds, h =>
    have hc := h.full c (by simp)
    have hflat := congrArg List.length h.flatten
    simp only [List.flatten_cons, List.length_append] at hflat
    have hnil : l ≠ [] := by
      rintro rfl
      rw [List.length_nil] at hflat
      omega
    have hd := List.length_pos_iff.2 (h.some hnil d (by simp))
    omega

/-- What fits one piece is sent as one. -/
theorem eq_singleton (h : Chunked n l cs) (hn : 0 < n) (hl : l.length ≤ n) : cs = [l] := by
  have hlast := List.dropLast_concat_getLast h.nonempty
  rw [h.dropLast_eq_nil hn hl, List.nil_append] at hlast
  have hflat := h.flatten
  rw [← hlast, List.flatten_singleton] at hflat
  rw [← hlast, hflat]

end Chunked

end HiaeCommon.Lib
