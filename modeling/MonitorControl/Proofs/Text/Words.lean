/-
The words of a text.

A word begins at a character that is no white space and goes on to the next white space.
That is one equation (`words_cons`), and all else about words follows from it: white space
at the ends of a text belongs to no word (`words_trim`), and a character put right in front
of a text becomes a part of its first word (`words_cons_of_words`).
-/
import MonitorControl.Proofs.Text.Blank

set_option autoImplicit false

namespace MonitorControl.Text

/-- What one character adds to the words of a text. -/
theorem words_cons_eq (c : Char) (t : Text) :
    words (c :: t) =
      if isBlank c then words t
      else
        match t, words t with
        | d :: _, w :: ws => if isBlank d then [c] :: w :: ws else (c :: w) :: ws
        | _, ws => [c] :: ws := rfl

theorem words_cons_of_blank {c : Char} (hc : isBlank c = true) (t : Text) :
    words (c :: t) = words t := by
  rw [words_cons_eq, if_pos hc]

/-- **The first word** goes on to the next white space, and the other words come after it. -/
theorem words_cons {c : Char} (hc : isBlank c = false) (t : Text) :
    words (c :: t) =
      (c :: t.takeWhile (!isBlank ·)) :: words (t.dropWhile (!isBlank ·)) := by
  have hkeep : ¬ isBlank c = true := by simp [hc]
  induction t generalizing c with
  | nil =>
    rw [words_cons_eq, if_neg hkeep]
    rfl
  | cons d t ih =>
    rw [words_cons_eq, if_neg hkeep, List.takeWhile_cons, List.dropWhile_cons]
    by_cases hd : isBlank d = true
    · simp only [hd, Bool.not_true, if_false, Bool.false_eq_true]
      cases words (d :: t) with
      | nil => rfl
      | cons w ws => exact if_pos hd
    · rw [Bool.not_eq_true] at hd
      simp [ih hd (by simp [hd]), hd]

/-- White space has no words. -/
theorem words_of_blank {t : Text} (h : ∀ c ∈ t, isBlank c = true) : words t = [] := by
  induction t with
  | nil => rfl
  | cons c t ih =>
    rw [words_cons_of_blank (h c List.mem_cons_self)]
    exact ih fun d hd => h d (List.mem_cons_of_mem c hd)

theorem words_append_of_blank {trail : Text} (htrail : ∀ c ∈ trail, isBlank c = true) (t : Text) :
    words (t ++ trail) = words t := by
  induction t with
  | nil => exact words_of_blank htrail
  | cons c t ih =>
    rw [List.cons_append, words_cons_eq, words_cons_eq, ih]
    -- a word that ends with the text ends where the white space begins
    cases t with
    | nil =>
      cases trail with
      | nil => rfl
      | cons d trail => rfl
    | cons d t => cases words (d :: t) <;> rfl

/-- **White space at the ends of a text** belongs to no word. -/
theorem words_trim (t : Text) : words (trim t) = words t := by
  obtain ⟨lead, trail, ht, hlead, htrail⟩ := exists_trim_parts t
  have hstart : ∀ u : Text, words (lead ++ u) = words u := by
    intro u
    clear ht
    induction lead with
    | nil => rfl
    | cons c lead ih =>
      rw [List.cons_append, words_cons_of_blank (hlead c List.mem_cons_self)]
      exact ih fun d hd => hlead d (List.mem_cons_of_mem c hd)
  conv_rhs => rw [ht]
  rw [words_append_of_blank htrail, hstart]

variable {t word : Text} {rest : List Text}

/-- **A text that begins with a word** is that word and what the white space after it leads to. -/
theorem exists_tail_of_words (h : words t = word :: rest) (hfirst : ∀ c ∈ t.head?, isBlank c = false) :
    ∃ tail, t = word ++ tail ∧ ∀ c ∈ tail.head?, isBlank c = true := by
  cases t with
  | nil => cases h
  | cons c t =>
    rw [words_cons (hfirst c rfl)] at h
    obtain ⟨rfl, -⟩ := List.cons.inj h
    refine ⟨t.dropWhile (!isBlank ·), ?_, ?_⟩
    · rw [List.cons_append, List.takeWhile_append_dropWhile]
    · intro d hd
      have hnot := List.head?_dropWhile_not (!isBlank ·) t
      rw [hd] at hnot
      simpa using hnot

/-- **A character right in front of a text** becomes a part of its first word. -/
theorem words_cons_of_words {c : Char} (hc : isBlank c = false) (h : words t = word :: rest)
    (hfirst : ∀ d ∈ t.head?, isBlank d = false) : words (c :: t) = (c :: word) :: rest := by
  cases t with
  | nil => cases h
  | cons d t =>
    have hd : isBlank d = false := hfirst d rfl
    rw [words_cons hd] at h
    obtain ⟨rfl, rfl⟩ := List.cons.inj h
    rw [words_cons hc, List.takeWhile_cons, List.dropWhile_cons]
    simp [hd]

end MonitorControl.Text
