/-
Splitting a text, and joining its pieces again.

A separator that no piece holds is found where it was put and nowhere else. For all pieces
that is the law of `List.splitOn`, which `splitAll` is.
-/
import MonitorControl.Text.Basic
import Mathlib.Data.List.SplitOn

set_option autoImplicit false

namespace MonitorControl.Text

/-! ## The first separator -/

/-- The first separator is the one after a text that has none. -/
theorem splitFirst?_append {separator : Char} {before : Text} (h : separator ∉ before)
    (after : Text) : splitFirst? separator (before ++ separator :: after) = some (before, after) := by
  induction before with
  | nil => rw [List.nil_append, splitFirst?, if_pos (beq_self_eq_true separator)]
  | cons c before ih =>
    rw [List.mem_cons, not_or] at h
    have hc : ¬ (c == separator) = true := fun heq => h.1 (eq_of_beq heq).symm
    rw [List.cons_append, splitFirst?, if_neg hc, ih h.2]
    rfl

theorem splitFirst?_of_not_mem {separator : Char} {t : Text} (h : separator ∉ t) :
    splitFirst? separator t = none := by
  induction t with
  | nil => rfl
  | cons c t ih =>
    rw [List.mem_cons, not_or] at h
    have hc : ¬ (c == separator) = true := fun heq => h.1 (eq_of_beq heq).symm
    rw [splitFirst?, if_neg hc, ih h.2]
    rfl

/-! ## All separators -/

theorem splitAll_eq_splitOn (separator : Char) (t : Text) :
    splitAll separator t = t.splitOn separator := by
  induction t with
  | nil => rfl
  | cons c t ih =>
    rw [splitAll, List.splitOn, List.splitOnP_cons_eq_if_modifyHead, ← List.splitOn, ih]
    split
    · rfl
    · cases hpieces : t.splitOn separator with
      | nil => exact absurd hpieces (List.splitOnP_ne_nil _ t)
      | cons piece pieces => rfl

/-- **Pieces without the separator are found again** between the separators. -/
theorem splitAll_join {separator : Char} {pieces : List Text} (h : ∀ p ∈ pieces, separator ∉ p)
    (hne : pieces ≠ []) : splitAll separator (join [separator] pieces) = pieces := by
  rw [splitAll_eq_splitOn]
  exact List.splitOn_intercalate separator h hne

/-- A character of a joined text is one of a part, or the separator. -/
theorem mem_join {c separator : Char} {parts : List Text} (h : c ∈ join [separator] parts) :
    c = separator ∨ ∃ p ∈ parts, c ∈ p := by
  induction parts with
  | nil => cases h
  | cons p parts ih =>
    cases parts with
    | nil =>
      rw [join_singleton] at h
      exact .inr ⟨p, List.mem_cons_self, h⟩
    | cons q parts =>
      rw [join_cons_cons, List.mem_append, List.mem_append, List.mem_singleton] at h
      rcases h with (hp | hseparator) | hrest
      · exact .inr ⟨p, List.mem_cons_self, hp⟩
      · exact .inl hseparator
      · exact (ih hrest).imp_right fun ⟨r, hr, hc⟩ => ⟨r, List.mem_cons_of_mem p hr, hc⟩

end MonitorControl.Text
