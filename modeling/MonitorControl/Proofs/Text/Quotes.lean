/-
Values with quotation marks around them, and without.

The language has two ways to take the marks off a value: one mark at each end, or all of
them. A value that has none at its ends is the same after either (`IsBare.unquote_eq`,
`trimWhile_padded`), and one that begins with neither a mark nor white space comes out of
any marks around it as it was put there, but for white space at its end, which only marks
keep (`exists_trimQuotes_eq`).
-/
import MonitorControl.Proofs.Text.CaseFolding

set_option autoImplicit false

namespace MonitorControl.Text

/-! ## Bare values -/

/-- **A bare value** has neither white space nor a quotation mark at either end. -/
structure IsBare (v : Text) : Prop where
  ne_nil : v ≠ []
  first : ∀ c ∈ v.head?, isBlank c = false ∧ isQuote c = false
  last : ∀ c ∈ v.getLast?, isBlank c = false ∧ isQuote c = false

/-- A bare value is told by its two ends. -/
instance (v : Text) : Decidable (IsBare v) :=
  have hall : ∀ (o : Option Char), (o.all fun c => !isBlank c && !isQuote c) = true ↔
      ∀ c ∈ o, isBlank c = false ∧ isQuote c = false := by
    intro o
    cases o <;> simp
  decidable_of_iff (v ≠ [] ∧ (v.head?.all fun c => !isBlank c && !isQuote c) = true ∧
      (v.getLast?.all fun c => !isBlank c && !isQuote c) = true) <| by
    rw [hall, hall]
    exact ⟨fun ⟨hne, hfirst, hlast⟩ => ⟨hne, hfirst, hlast⟩,
      fun ⟨hne, hfirst, hlast⟩ => ⟨hne, hfirst, hlast⟩⟩

theorem dropOpeningQuote_of_head {t : Text} (h : ∀ c ∈ t.head?, isQuote c = false) :
    dropOpeningQuote t = t := by
  cases t with
  | nil => rfl
  | cons c t =>
    have hc : ¬ isQuote c = true := by simp [h c rfl]
    rw [dropOpeningQuote, if_neg hc]

namespace IsBare

variable {v : Text}

theorem isTrimmed (h : IsBare v) : IsTrimmed v :=
  ⟨fun c hc => (h.first c hc).1, fun c hc => (h.last c hc).1⟩

/-- A bare value has no quotation marks to lose. -/
theorem unquote_eq (h : IsBare v) : unquote v = v := by
  have hfront : dropOpeningQuote v = v := dropOpeningQuote_of_head fun c hc => (h.first c hc).2
  have hback : dropOpeningQuote v.reverse = v.reverse := by
    apply dropOpeningQuote_of_head
    intro c hc
    rw [List.head?_reverse] at hc
    exact (h.last c hc).2
  rw [unquote, h.isTrimmed.trim_eq, hfront, hback, List.reverse_reverse]

end IsBare

/-! ## Values in single quotes -/

theorem inSingleQuotes_ne_nil (v : Text) : inSingleQuotes v ≠ [] := List.cons_ne_nil _ _

theorem isTrimmed_inSingleQuotes (v : Text) : IsTrimmed (inSingleQuotes v) := by
  refine ⟨fun c hc => ?_, fun c hc => ?_⟩
  · obtain rfl := Option.some.inj hc
    rfl
  · rw [inSingleQuotes, List.getLast?_concat] at hc
    obtain rfl := Option.some.inj hc
    rfl

/-- **A quoted value is read back**, even one that begins or ends with a quotation mark. -/
theorem unquote_inSingleQuotes (v : Text) : unquote (inSingleQuotes v) = v := by
  rw [unquote, (isTrimmed_inSingleQuotes v).trim_eq]
  -- the opening mark is gone; the closing one is the opening mark of the reversed rest
  show (dropOpeningQuote (v ++ ['\'']).reverse).reverse = v
  rw [List.reverse_concat]
  exact List.reverse_reverse v

/-! ## Values between marks -/

variable {gap opening closing v : Text}

/-- A text that begins with no white space is its trimmed text and white space. -/
theorem exists_trail_of_head {c : Char} (hfirst : v.head? = some c) (hc : isBlank c = false) :
    ∃ trail, v = trim v ++ trail ∧ (trim v).head? = some c ∧ ∀ d ∈ trail, isBlank d = true := by
  obtain ⟨lead, trail, hv, hlead, htrail⟩ := exists_trim_parts v
  have hnot : ∀ d ∈ lead ++ trail, c ≠ d := by
    rintro d hd rfl
    have hblank := (List.mem_append.1 hd).elim (hlead c) (htrail c)
    rw [hc] at hblank
    cases hblank
  -- the first character stands in neither piece of white space
  cases lead with
  | cons d lead =>
    rw [hv] at hfirst
    exact absurd (Option.some_inj.1 hfirst).symm (hnot d List.mem_cons_self)
  | nil =>
    rw [List.nil_append] at hv hnot
    cases hcore : trim v with
    | nil =>
      rw [hv, hcore, List.nil_append] at hfirst
      exact absurd rfl (hnot c (List.mem_of_mem_head? hfirst))
    | cons d core =>
      refine ⟨trail, hcore ▸ hv, ?_, htrail⟩
      rw [hv, hcore] at hfirst
      exact hfirst

/-- A character in front of a text that begins well. -/
theorem trim_cons_of_head {c d : Char} (hd : isBlank d = false) (hfirst : v.head? = some c)
    (hc : isBlank c = false) : trim (d :: v) = d :: trim v := by
  obtain ⟨trail, hv, hhead, htrail⟩ := exists_trail_of_head hfirst hc
  have htrimmed : IsTrimmed (d :: trim v) := by
    refine ⟨fun x hx => Option.some_inj.1 hx ▸ hd, fun x hx => (isTrimmed_trim v).last x ?_⟩
    rwa [List.getLast?_cons_of_ne_nil (by rintro hnil; simp [hnil] at hhead)] at hx
  have hpadded := trim_padded (show ∀ x ∈ ([] : Text), isBlank x = true by simp) htrail htrimmed
  rwa [List.nil_append, List.cons_append, ← hv] at hpadded

/-- **A value, in quotation marks or not**, is found behind white space with what it had between the
marks, up to white space at its end. -/
theorem exists_trimQuotes_eq (hgap : ∀ c ∈ gap, isBlank c = true)
    (hopening : ∀ c ∈ opening, isQuote c = true) (hclosing : ∀ c ∈ closing, isQuote c = true)
    {c : Char} (hfirst : v.head? = some c) (hc : isBlank c = false)
    (hquotes : ∀ c ∈ v, isQuote c = false) :
    ∃ value trail, trimQuotes (trim (gap ++ (opening ++ v ++ closing))) = value ∧
      v = value ++ trail ∧ value.head? = some c ∧ ∀ d ∈ trail, isBlank d = true := by
  -- what stands in front of a value that begins well is no white space at its start
  have hopen : ∀ u : Text, u.head? = some c → ∀ d ∈ (opening ++ u).head?, isBlank d = false := by
    intro u hu d hd
    cases opening with
    | nil =>
      rw [List.nil_append, hu] at hd
      exact Option.some_inj.1 hd ▸ hc
    | cons q opening =>
      rw [← Option.some_inj.1 hd]
      exact isBlank_of_isQuote (hopening q List.mem_cons_self)
  have hmarks : ∀ u closing : Text, (∀ d ∈ closing, isQuote d = true) →
      (∀ d ∈ u, isQuote d = false) → trimQuotes (opening ++ u ++ closing) = u := by
    intro u closing hclosing hu
    exact trimWhile_padded hopening hclosing (fun d hd => hu d (List.mem_of_mem_head? hd))
      (fun d hd => hu d (List.mem_of_getLast? hd))
  by_cases hnil : closing = []
  · -- nothing ends the value, so white space at its end is not kept
    obtain ⟨trail, hv, hhead, htrail⟩ := exists_trail_of_head hfirst hc
    have htrimmed : IsTrimmed (opening ++ trim v) := by
      refine ⟨hopen (trim v) hhead, fun d hd => (isTrimmed_trim v).last d ?_⟩
      rwa [List.getLast?_append_of_ne_nil _ (by rintro hnil; simp [hnil] at hhead)] at hd
    refine ⟨trim v, trail, ?_, hv, hhead, htrail⟩
    have hsplit : gap ++ (opening ++ v ++ closing) = gap ++ (opening ++ trim v) ++ trail := by
      rw [hnil, List.append_nil, List.append_assoc, List.append_assoc, ← hv]
    rw [hsplit, trim_padded hgap htrail htrimmed, ← List.append_nil (opening ++ trim v)]
    apply hmarks (trim v) [] (by simp)
    intro d hd
    exact hquotes d (hv ▸ List.mem_append_left trail hd)
  · have htrimmed : IsTrimmed (opening ++ v ++ closing) := by
      refine ⟨?_, fun d hd => ?_⟩
      · rw [List.append_assoc]
        apply hopen
        rw [List.head?_append_of_ne_nil _ (by rintro rfl; cases hfirst)]
        exact hfirst
      · rw [List.getLast?_append_of_ne_nil _ hnil] at hd
        exact isBlank_of_isQuote (hclosing d (List.mem_of_getLast? hd))
    have htrim := trim_padded hgap (show ∀ d ∈ ([] : Text), isBlank d = true by simp) htrimmed
    rw [List.append_nil] at htrim
    exact ⟨v, [], by rw [htrim, hmarks v closing hclosing hquotes], by simp, hfirst, by simp⟩

end MonitorControl.Text
