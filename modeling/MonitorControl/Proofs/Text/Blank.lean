/-
What trimming takes away and what it keeps.

A text is its leading white space, its trimmed text and its trailing white space,
in this order (`takeWhile_append_trimStart`, `exists_trimStart_eq`), which is what
places a trimmed text inside the text it was cut from. A text with nothing to trim
is found again inside any amount of white space (`trim_padded`).
-/
import MonitorControl.Text.Blank
import Mathlib.Data.List.DropRight

set_option autoImplicit false

namespace MonitorControl.Text

/-! ## The parts of a text -/

theorem takeWhile_append_trimStart (t : Text) : t.takeWhile isBlank ++ trimStart t = t :=
  List.takeWhile_append_dropWhile

theorem trimEnd_eq_rdropWhile (t : Text) : trimEnd t = t.rdropWhile isBlank := rfl

/-- Only the end is missing from a trimmed text once the start is gone. -/
theorem exists_trimStart_eq (t : Text) : ∃ trail : Text, trimStart t = trim t ++ trail := by
  obtain ⟨trail, htrail⟩ := List.rdropWhile_prefix isBlank (l := trimStart t)
  exact ⟨trail, htrail.symm⟩

/-- **A text is white space, its trimmed text and white space.** -/
theorem exists_trim_parts (t : Text) :
    ∃ lead trail : Text, t = lead ++ trim t ++ trail ∧ (∀ c ∈ lead, isBlank c = true) ∧
      ∀ c ∈ trail, isBlank c = true := by
  refine ⟨t.takeWhile isBlank, (trimStart t).rtakeWhile isBlank, ?_, fun c hc => ?_, fun c hc => ?_⟩
  · have hend : trim t ++ (trimStart t).rtakeWhile isBlank = trimStart t :=
      List.rdropWhile_append_rtakeWhile
    rw [List.append_assoc, hend, takeWhile_append_trimStart]
  · exact List.mem_takeWhile_imp hc
  · exact List.mem_rtakeWhile_imp hc

/-- Nothing is left of a text of white space, and of no other. -/
theorem trim_eq_nil_iff {t : Text} : trim t = [] ↔ ∀ c ∈ t, isBlank c = true := by
  constructor
  · intro hnil
    obtain ⟨lead, trail, ht, hlead, htrail⟩ := exists_trim_parts t
    rw [ht, hnil, List.append_nil]
    intro c hc
    exact (List.mem_append.1 hc).elim (hlead c) (htrail c)
  · intro hblank
    rw [trim, trimStart, List.dropWhile_eq_nil_iff.2 hblank]
    rfl

/-! ## Runs -/

/-- A run that is followed by something else, or by nothing, is found as it is. -/
theorem span_append {p : Char → Bool} {t rest : Text} (ht : ∀ c ∈ t, p c = true)
    (hrest : ∀ c ∈ rest.head?, p c = false) :
    (t ++ rest).takeWhile p = t ∧ (t ++ rest).dropWhile p = rest := by
  have hstop : rest.takeWhile p = [] ∧ rest.dropWhile p = rest := by
    cases rest with
    | nil => exact ⟨rfl, rfl⟩
    | cons c rest =>
      have hc : ¬ p c = true := by
        rw [hrest c rfl]
        exact Bool.false_ne_true
      exact ⟨List.takeWhile_cons_of_neg hc, List.dropWhile_cons_of_neg hc⟩
  rw [List.takeWhile_append_of_pos ht, List.dropWhile_append_of_pos ht, hstop.1, hstop.2]
  exact ⟨List.append_nil t, rfl⟩

/-! ## White space at an end -/

theorem trimEnd_append_of_blank {trail : Text} (htrail : ∀ c ∈ trail, isBlank c = true) (t : Text) :
    trimEnd (t ++ trail) = trimEnd t := by
  rw [trimEnd, List.reverse_append,
    List.dropWhile_append_of_pos (fun c hc => htrail c (List.mem_reverse.1 hc))]
  rfl

/-- White space after a text makes no difference to trimming. -/
theorem trim_append_of_blank {trail : Text} (htrail : ∀ c ∈ trail, isBlank c = true) (t : Text) :
    trim (t ++ trail) = trim t := by
  rw [trim, trim]
  unfold trimStart
  rw [List.dropWhile_append]
  by_cases hall : (t.dropWhile isBlank).isEmpty = true
  · -- nothing but white space is left, and that goes with the rest
    rw [if_pos hall, List.isEmpty_iff.1 hall, List.dropWhile_eq_nil_iff.2 htrail]
  · rw [if_neg hall]
    exact trimEnd_append_of_blank htrail _

/-- A text is what is left of it without the white space at its end, and that white space. -/
theorem exists_trimEnd_eq (t : Text) :
    ∃ trail : Text, t = trimEnd t ++ trail ∧ ∀ c ∈ trail, isBlank c = true :=
  ⟨t.rtakeWhile isBlank, List.rdropWhile_append_rtakeWhile.symm,
    fun _ hc => List.mem_rtakeWhile_imp hc⟩

/-- It makes no difference to trimming if the end is trimmed before. -/
theorem trim_trimEnd (t : Text) : trim (trimEnd t) = trim t := by
  obtain ⟨trail, htrail, hblank⟩ := exists_trimEnd_eq t
  conv => rhs; rw [htrail]
  exact (trim_append_of_blank hblank _).symm

/-! ## Texts with nothing to trim -/

theorem trimStart_of_head {t : Text} (hfirst : ∀ c ∈ t.head?, isBlank c = false) :
    trimStart t = t := by
  cases t with
  | nil => rfl
  | cons c t =>
    have hc : ¬ isBlank c = true := Bool.not_eq_true _ ▸ hfirst c rfl
    rw [trimStart, List.dropWhile_cons_of_neg hc]

theorem trimEnd_of_getLast {t : Text} (hlast : ∀ c ∈ t.getLast?, isBlank c = false) :
    trimEnd t = t := by
  rw [trimEnd_eq_rdropWhile, List.rdropWhile_eq_self_iff]
  intro hne
  rw [Bool.not_eq_true]
  exact hlast _ (List.getLast?_eq_some_getLast hne)

/-- **A text with nothing to trim** neither begins nor ends with white space. -/
structure IsTrimmed (t : Text) : Prop where
  first : ∀ c ∈ t.head?, isBlank c = false
  last : ∀ c ∈ t.getLast?, isBlank c = false

/-- **The marks around a text** are all that is taken off it, if it has none at its ends. -/
theorem trimWhile_padded {p : Char → Bool} {lead core trail : Text}
    (hlead : ∀ c ∈ lead, p c = true) (htrail : ∀ c ∈ trail, p c = true)
    (hfirst : ∀ c ∈ core.head?, p c = false) (hlast : ∀ c ∈ core.getLast?, p c = false) :
    trimWhile p (lead ++ core ++ trail) = core := by
  cases core with
  | nil =>
    have hall : ∀ c ∈ lead ++ [] ++ trail, p c = true := by
      intro c hc
      rw [List.append_nil] at hc
      exact (List.mem_append.1 hc).elim (hlead c) (htrail c)
    rw [trimWhile, List.dropWhile_eq_nil_iff.2 hall]
    rfl
  | cons c core =>
    have hc : ¬ p c = true := Bool.not_eq_true _ ▸ hfirst c rfl
    have hstart : (lead ++ c :: core ++ trail).dropWhile p = c :: core ++ trail := by
      rw [List.append_assoc, List.dropWhile_append_of_pos hlead, List.cons_append,
        List.dropWhile_cons_of_neg hc]
    have hend : (c :: core).rdropWhile p = c :: core := by
      rw [List.rdropWhile_eq_self_iff]
      intro hne
      rw [Bool.not_eq_true]
      exact hlast _ (List.getLast?_eq_some_getLast hne)
    rw [trimWhile, hstart, List.reverse_append,
      List.dropWhile_append_of_pos (fun d hd => htrail d (List.mem_reverse.1 hd))]
    exact hend

/-- **White space around a text with nothing to trim is all that trimming takes.** -/
theorem trim_padded {lead core trail : Text} (hlead : ∀ c ∈ lead, isBlank c = true)
    (htrail : ∀ c ∈ trail, isBlank c = true) (hcore : IsTrimmed core) :
    trim (lead ++ core ++ trail) = core :=
  trimWhile_padded hlead htrail hcore.first hcore.last

/-- Trimming leaves nothing to trim. -/
theorem isTrimmed_trim (t : Text) : IsTrimmed (trim t) := by
  refine ⟨fun c hc => ?_, fun c hc => ?_⟩
  · obtain ⟨trail, htrail⟩ := exists_trimStart_eq t
    have hhead : (trimStart t).head? = some c := by
      rw [htrail, List.head?_append_of_ne_nil _ (by rintro hnil; simp [hnil] at hc)]
      exact hc
    have hnot := List.head?_dropWhile_not isBlank t
    rw [← trimStart, hhead] at hnot
    exact hnot
  · obtain ⟨hne, hlast⟩ := List.mem_getLast?_eq_getLast hc
    rw [hlast, ← Bool.not_eq_true]
    exact List.rdropWhile_last_not isBlank (trimStart t) hne

/-- White space before a text makes no difference to trimming. -/
theorem trim_cons_of_blank {c : Char} (hc : isBlank c = true) (t : Text) :
    trim (c :: t) = trim t := by
  rw [trim, trim, trimStart, List.dropWhile_cons_of_pos hc]
  rfl

namespace IsTrimmed

theorem trim_eq {t : Text} (h : IsTrimmed t) : trim t = t := by
  rw [trim, trimStart_of_head h.first, trimEnd_of_getLast h.last]

/-- Of two texts with a space between them, the first only has to begin well. -/
theorem spaced {lead core : Text} {c : Char} (hfirst : c ∈ lead.head?) (hc : isBlank c = false)
    (hne : core ≠ []) (hcore : IsTrimmed core) : IsTrimmed (lead ++ ' ' :: core) := by
  refine ⟨fun d hd => ?_, fun d hd => ?_⟩
  · rw [List.head?_append_of_ne_nil _ (by rintro rfl; exact absurd hfirst (by simp))] at hd
    rw [Option.mem_unique hd hfirst]
    exact hc
  · rw [List.getLast?_append_of_ne_nil _ (List.cons_ne_nil _ _), List.getLast?_cons_of_ne_nil hne]
      at hd
    exact hcore.last d hd

end IsTrimmed

/-- **Only white space at the end is taken off** a text that begins with something else and goes on
with a text that is not all white space. -/
theorem trim_append_of_head {front t : Text} {c : Char} (hc : c ∈ front.head?)
    (hfirst : isBlank c = false) (ht : trim t ≠ []) : trim (front ++ t) = front ++ trimEnd t := by
  obtain ⟨trail, htrail, hblank⟩ := exists_trimEnd_eq t
  have hne : trimEnd t ≠ [] := by
    intro hnil
    rw [hnil, List.nil_append] at htrail
    rw [← htrail] at hblank
    exact ht (trim_eq_nil_iff.2 hblank)
  have htrimmed : IsTrimmed (front ++ trimEnd t) := by
    refine ⟨fun d hd => ?_, fun d hd => ?_⟩
    · rw [List.head?_append_of_ne_nil _ (by rintro rfl; cases hc)] at hd
      rw [Option.mem_unique hd hc]
      exact hfirst
    · rw [List.getLast?_append_of_ne_nil _ hne, List.getLast?_eq_some_getLast hne] at hd
      rw [← Option.some.inj hd, ← Bool.not_eq_true]
      exact List.rdropWhile_last_not isBlank t hne
  calc trim (front ++ t) = trim (front ++ trimEnd t ++ trail) := by rw [List.append_assoc, ← htrail]
    _ = trim (front ++ trimEnd t) := trim_append_of_blank hblank _
    _ = front ++ trimEnd t := htrimmed.trim_eq

end MonitorControl.Text
