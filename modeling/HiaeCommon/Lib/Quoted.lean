/-
Quoted strings in a text, in which a quote is written twice.
-/

namespace HiaeCommon.Lib

variable {α : Type} [DecidableEq α]

/-- What a quoted string says, and what comes behind it, from the first character
behind the quote that opens it. -/
def readQuoted (q : α) : List α → Option (List α × List α)
  | [] => none
  | [c] => if c = q then some ([], []) else none
  | c :: d :: ds =>
    if c = q then
      if d = q then (readQuoted q ds).map fun r => (q :: r.1, r.2) else some ([], d :: ds)
    else (readQuoted q (d :: ds)).map fun r => (c :: r.1, r.2)

variable {q : α} {s rest : List α}

theorem readQuoted_cons_ne {c : α} (h : c ≠ q) (cs : List α) :
    readQuoted q (c :: cs) = (readQuoted q cs).map fun r => (c :: r.1, r.2) := by
  cases cs with
  | nil => simp only [readQuoted, if_neg h, Option.map_none]
  | cons d ds => rw [readQuoted, if_neg h]

/-- A quote that no other one follows ends the string. -/
theorem readQuoted_end (h : rest.head? ≠ some q) : readQuoted q (q :: rest) = some ([], rest) := by
  cases rest with
  | nil => rw [readQuoted, if_pos rfl]
  | cons d ds =>
    rw [List.head?_cons, ne_eq, Option.some.injEq] at h
    rw [readQuoted, if_pos rfl, if_neg h]

/-- A string without a quote is read as it is. -/
theorem readQuoted_plain (hs : q ∉ s) (hrest : rest.head? ≠ some q) : readQuoted q (s ++ q :: rest) = some (s, rest) := by
  induction s with
  | nil => exact readQuoted_end hrest
  | cons c s ih =>
    rw [List.mem_cons, not_or] at hs
    rw [List.cons_append, readQuoted_cons_ne (Ne.symm hs.1), ih hs.2]
    rfl

/-- A string that is not closed cannot be read. -/
theorem readQuoted_open (hs : q ∉ s) : readQuoted q s = none := by
  induction s with
  | nil => rfl
  | cons c s ih =>
    rw [List.mem_cons, not_or] at hs
    rw [readQuoted_cons_ne (Ne.symm hs.1), ih hs.2]
    rfl

end HiaeCommon.Lib
