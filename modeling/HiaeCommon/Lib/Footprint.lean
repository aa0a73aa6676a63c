/-
What a program reads of a buffer: spans of bytes, some of them copied out of
a payload into a field. A result that depends on nothing but what is read is
the same on every buffer that agrees there.
-/
import Mathlib.Data.List.Basic

namespace HiaeCommon.Lib

/-- `size` bytes from `start`. -/
structure Span where
  start : Nat
  size : Nat
  deriving DecidableEq, Repr

namespace Span

def Within (s : Span) (lo hi : Nat) : Prop := lo ≤ s.start ∧ s.start + s.size ≤ hi

def Holds (s : Span) (i : Nat) : Prop := s.start ≤ i ∧ i < s.start + s.size

theorem Holds.of_within {s : Span} {lo hi i : Nat} (h : s.Holds i) (hs : s.Within lo hi) : lo ≤ i ∧ i < hi := by
  obtain ⟨h1, h2⟩ := h
  obtain ⟨h3, h4⟩ := hs
  omega

end Span

/-- A read, or a copy of `source` into a field of `room` bytes; it is meant to take what
stands in `payload`. -/
inductive Access where
  | read (span : Span)
  | copy (source payload : Span) (room : Nat)
  deriving DecidableEq, Repr

namespace Access

def source : Access → Span
  | read s => s
  | copy s _ _ => s

/-- Between `lo` and `hi`; a copy takes no byte behind its payload, and its field has room. -/
def Within (lo hi : Nat) : Access → Prop
  | read s => s.Within lo hi
  | copy s payload room =>
    s.Within lo hi ∧ s.Within payload.start (payload.start + payload.size) ∧ s.size ≤ room

theorem Within.source {lo hi : Nat} {a : Access} (h : a.Within lo hi) : a.source.Within lo hi := by
  cases a with
  | read s => exact h
  | copy s payload room => exact h.1

end Access

/-- The buffers are the same where they are read. -/
def Agree {β : Type} (b b' : Nat → β) (accesses : List Access) : Prop :=
  ∀ a ∈ accesses, ∀ i, a.source.Holds i → b i = b' i

namespace Agree

variable {β : Type} {b b' : Nat → β} {a : Access} {as as' : List Access}

@[simp] theorem append_iff : Agree b b' (as ++ as') ↔ Agree b b' as ∧ Agree b b' as' := by
  simp [Agree, or_imp, forall_and]

theorem cons_iff : Agree b b' (a :: as) ↔ Agree b b' [a] ∧ Agree b b' as := by
  simp [Agree]

/-- The byte `k` of a span that is read. -/
theorem byte {s : Span} (h : Agree b b' [a]) (hs : a.source = s) {k : Nat} (hk : k < s.size) :
    b (s.start + k) = b' (s.start + k) := by
  refine h a (by simp) _ ?_
  rw [hs]
  exact ⟨by omega, by omega⟩

/-- What reads nothing outside `lo` to `hi` reads the same on buffers that agree there. -/
theorem of_within {lo hi : Nat} (h : ∀ a ∈ as, a.Within lo hi) (hb : ∀ i, lo ≤ i → i < hi → b i = b' i) :
    Agree b b' as := by
  intro a ha i hi'
  obtain ⟨h1, h2⟩ := hi'.of_within (h a ha).source
  exact hb i h1 h2

end Agree

end HiaeCommon.Lib
