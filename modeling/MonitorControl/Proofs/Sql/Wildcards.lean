/-
Stars in values, and the conditions that stand for them.

A value in which a star occurs is matched as a pattern, and one without a star is
compared as a whole. Both say the same of a text: it fits the value if every star in
the value stands for some text and every other character for itself (`FitsStars`). For
the pattern this rests on the escapes. What a `LIKE` pattern fits is defined by the
rules of SQL (`FitsLike`), in which a percent sign, an underscore and a backslash mean
something else than themselves, and each character of the value becomes what fits it
and nothing else (`fitsLike_likeChar`); the patterns follow by induction on the value.
-/
import MonitorControl.Proofs.Sql.Meaning
import Mathlib.Data.List.Infix

set_option autoImplicit false

namespace MonitorControl.Sql

variable {c : Char} {pattern t : Text}

/-! ## Starred texts -/

/-- **A text fits a starred text** if each star stands for some text, which may be empty, and every
other character for itself. -/
inductive FitsStars : Text → Text → Prop where
  | done : FitsStars [] []
  | star (skipped : Text) {starred rest : Text} (h : FitsStars starred rest) :
    FitsStars ('*' :: starred) (skipped ++ rest)
  | own {c : Char} (hc : c ≠ '*') {starred rest : Text} (h : FitsStars starred rest) :
    FitsStars (c :: starred) (c :: rest)

theorem fitsStars_nil : FitsStars [] t ↔ t = [] := by
  constructor
  · rintro ⟨⟩
    rfl
  · rintro rfl
    exact .done

theorem fitsStars_star {starred : Text} :
    FitsStars ('*' :: starred) t ↔ ∃ rest, rest <:+ t ∧ FitsStars starred rest := by
  constructor
  · rintro (_ | ⟨skipped, h⟩ | ⟨hc, -⟩)
    · exact ⟨_, List.suffix_append skipped _, h⟩
    · exact absurd rfl hc
  · rintro ⟨rest, ⟨skipped, rfl⟩, h⟩
    exact .star skipped h

theorem fitsStars_own {starred : Text} (hc : c ≠ '*') :
    FitsStars (c :: starred) t ↔ t.head? = some c ∧ FitsStars starred t.tail := by
  constructor
  · rintro (_ | ⟨skipped, h⟩ | ⟨-, h⟩)
    · exact absurd rfl hc
    · exact ⟨rfl, h⟩
  · rintro ⟨hhead, h⟩
    rw [← List.cons_head?_tail hhead]
    exact .own hc h

/-- **Without a star only the text itself fits.** -/
theorem fitsStars_of_not_isPattern {starred : Text} (h : isPattern starred = false) :
    FitsStars starred t ↔ t = starred := by
  induction starred generalizing t with
  | nil => exact fitsStars_nil
  | cons c starred ih =>
    rw [isPattern, List.contains_cons, Bool.or_eq_false_iff] at h
    have hc : c ≠ '*' := fun hstar => by simp [hstar] at h
    rw [fitsStars_own hc, ih h.2]
    constructor
    · rintro ⟨hhead, htail⟩
      rw [← htail, List.cons_head?_tail hhead]
    · rintro rfl
      exact ⟨rfl, rfl⟩

/-! ## `LIKE` patterns -/

/-- **A text fits a `LIKE` pattern**: `%` stands for any text, `_` for any one character, and a
backslash makes the character behind it stand for itself, as all others do. -/
inductive FitsLike : Text → Text → Prop where
  | done : FitsLike [] []
  | percent (skipped : Text) {pattern rest : Text} (h : FitsLike pattern rest) :
    FitsLike ('%' :: pattern) (skipped ++ rest)
  | underscore (c : Char) {pattern rest : Text} (h : FitsLike pattern rest) :
    FitsLike ('_' :: pattern) (c :: rest)
  | escaped (c : Char) {pattern rest : Text} (h : FitsLike pattern rest) :
    FitsLike ('\\' :: c :: pattern) (c :: rest)
  | own {c : Char} (hpercent : c ≠ '%') (hunderscore : c ≠ '_') (hbackslash : c ≠ '\\')
    {pattern rest : Text} (h : FitsLike pattern rest) : FitsLike (c :: pattern) (c :: rest)

theorem fitsLike_nil : FitsLike [] t ↔ t = [] := by
  constructor
  · rintro ⟨⟩
    rfl
  · rintro rfl
    exact .done

theorem fitsLike_percent :
    FitsLike ('%' :: pattern) t ↔ ∃ rest, rest <:+ t ∧ FitsLike pattern rest := by
  constructor
  · intro h
    cases h with
    | percent skipped h => exact ⟨_, List.suffix_append skipped _, h⟩
    | own hpercent => exact absurd rfl hpercent
  · rintro ⟨rest, ⟨skipped, rfl⟩, h⟩
    exact .percent skipped h

theorem fitsLike_underscore :
    FitsLike ('_' :: pattern) t ↔ t ≠ [] ∧ FitsLike pattern t.tail := by
  constructor
  · intro h
    cases h with
    | underscore c h => exact ⟨List.cons_ne_nil c _, h⟩
    | own _ hunderscore => exact absurd rfl hunderscore
  · rintro ⟨hne, h⟩
    obtain ⟨c, rest, rfl⟩ := List.exists_cons_of_ne_nil hne
    exact .underscore c h

theorem fitsLike_escaped :
    FitsLike ('\\' :: c :: pattern) t ↔ t.head? = some c ∧ FitsLike pattern t.tail := by
  constructor
  · intro h
    cases h with
    | escaped c h => exact ⟨rfl, h⟩
    | own _ _ hbackslash => exact absurd rfl hbackslash
  · rintro ⟨hhead, h⟩
    rw [← List.cons_head?_tail hhead]
    exact .escaped c h

/-- A backslash at the end of a pattern fits nothing. -/
theorem not_fitsLike_backslash : ¬ FitsLike ['\\'] t := by
  intro h
  cases h with
  | own _ _ hbackslash => exact absurd rfl hbackslash

theorem fitsLike_own (hpercent : c ≠ '%') (hunderscore : c ≠ '_') (hbackslash : c ≠ '\\') :
    FitsLike (c :: pattern) t ↔ t.head? = some c ∧ FitsLike pattern t.tail := by
  constructor
  · intro h
    cases h with
    | percent => exact absurd rfl hpercent
    | underscore => exact absurd rfl hunderscore
    | escaped => exact absurd rfl hbackslash
    | own _ _ _ h => exact ⟨rfl, h⟩
  · rintro ⟨hhead, h⟩
    rw [← List.cons_head?_tail hhead]
    exact .own hpercent hunderscore hbackslash h

/-- Whether a text fits is decided from the left; a percent sign tries every end of the text. -/
instance decidableFitsLike : (pattern t : Text) → Decidable (FitsLike pattern t)
  | [], t => decidable_of_iff (t = []) fitsLike_nil.symm
  | c :: pattern, t =>
    have decide : DecidablePred (FitsLike pattern) := fun rest => decidableFitsLike pattern rest
    if hpercent : c = '%' then
      decidable_of_iff (∃ rest ∈ t.tails, FitsLike pattern rest) (by
        rw [hpercent, fitsLike_percent]
        simp only [List.mem_tails])
    else if hunderscore : c = '_' then
      decidable_of_iff (t ≠ [] ∧ FitsLike pattern t.tail) (by
        rw [hunderscore, fitsLike_underscore])
    else if hbackslash : c = '\\' then
      match pattern with
      | [] => isFalse (by
          rw [hbackslash]
          exact not_fitsLike_backslash)
      | d :: pattern =>
        have : Decidable (FitsLike pattern t.tail) := decidableFitsLike pattern t.tail
        decidable_of_iff (t.head? = some d ∧ FitsLike pattern t.tail) (by
          rw [hbackslash, fitsLike_escaped])
    else
      decidable_of_iff (t.head? = some c ∧ FitsLike pattern t.tail)
        (fitsLike_own hpercent hunderscore hbackslash).symm

/-! ## From stars to patterns -/

theorem likePattern_cons (c : Char) (starred : Text) :
    likePattern (c :: starred) = likeChar c ++ likePattern starred := List.flatMap_cons

/-- **What becomes of a character that is no star fits that character and nothing else**, whatever
it means in a pattern. -/
theorem fitsLike_likeChar (hc : c ≠ '*') :
    FitsLike (likeChar c ++ pattern) t ↔ t.head? = some c ∧ FitsLike pattern t.tail := by
  have hstar : ¬ (c == '*') = true := by rwa [beq_iff_eq]
  rw [likeChar, if_neg hstar]
  by_cases hspecial : (c == '\\' || c == '%' || c == '_') = true
  · rw [if_pos hspecial]
    exact fitsLike_escaped
  · -- the three characters with a meaning of their own are escaped, so this is none of them
    rw [if_neg hspecial]
    simp only [Bool.or_eq_true, beq_iff_eq, not_or] at hspecial
    exact fitsLike_own hspecial.1.2 hspecial.2 hspecial.1.1

/-- **The pattern of a starred text fits what the starred text fits.** The induction is on the
starred text; a star becomes a percent sign, and every other character fits itself on both sides. -/
theorem fitsLike_likePattern (starred t : Text) :
    FitsLike (likePattern starred) t ↔ FitsStars starred t := by
  induction starred generalizing t with
  | nil => exact fitsLike_nil.trans fitsStars_nil.symm
  | cons c starred ih =>
    rw [likePattern_cons]
    by_cases hc : c = '*'
    · -- both skip some text and go on with an end of it
      subst hc
      show FitsLike ('%' :: likePattern starred) t ↔ _
      simp only [fitsLike_percent, fitsStars_star, ih]
    · rw [fitsLike_likeChar hc, fitsStars_own hc, ih]

instance (starred t : Text) : Decidable (FitsStars starred t) :=
  decidable_of_iff _ (fitsLike_likePattern starred t)

/-- A star between characters that mean something in a pattern. -/
example : FitsStars "50%*_\\" "50% off_\\" ∧ ¬ FitsStars "50%*_\\" "500 off_\\" := by decide +kernel

/-! ## Rows that hold a text -/

/-- The truth value of what is certainly true or false. -/
def Truth.ofBool : Bool → Truth
  | true => .yes
  | false => .no

theorem Truth.ofBool_eq_yes {b : Bool} : ofBool b = .yes ↔ b = true := by
  cases b <;> decide

/-- **The row with a text in a column**: the text is equal to itself alone, and matches the patterns
that it fits. How texts are ordered, and what other columns hold, is left to the row. -/
def Row.holding (row : Row Literal Text) (column held : Text) : Row Literal Text where
  compares name operator value :=
    match operator, value with
    | .equal, .text t =>
      if name = column then .ofBool (decide (held = t)) else row.compares name .equal (.text t)
    | .notEqual, .text t =>
      if name = column then .ofBool (decide (held ≠ t)) else row.compares name .notEqual (.text t)
    | operator, value => row.compares name operator value
  fits name pattern :=
    if name = column then .ofBool (decide (FitsLike pattern held)) else row.fits name pattern

@[simp] theorem Row.compares_equal_holding (row : Row Literal Text) (column held t : Text) :
    (row.holding column held).compares column .equal (.text t) =
      .ofBool (decide (held = t)) := if_pos rfl

@[simp] theorem Row.compares_notEqual_holding (row : Row Literal Text) (column held t : Text) :
    (row.holding column held).compares column .notEqual (.text t) =
      .ofBool (decide (held ≠ t)) := if_pos rfl

@[simp] theorem Row.fits_holding (row : Row Literal Text) (column held pattern : Text) :
    (row.holding column held).fits column pattern =
      .ofBool (decide (FitsLike pattern held)) := if_pos rfl

theorem Truth.not_ofBool (b : Bool) : (ofBool b).not = ofBool !b := by
  cases b <;> rfl

/-! ## Conditions on a text -/

/-- **The condition that compares a column with a starred text**: a match, if there is a star in it,
and else a comparison. -/
def starredCondition (column : Text) (operator : Comparison) (starred : Text) : Condition :=
  if isPattern starred then .like column (operator == .notEqual) (likePattern starred)
  else .compare column operator (.text starred)

/-- **An equality says that the column fits**, with a star and without one. -/
theorem truth_starredCondition_equal (row : Row Literal Text) (column starred held : Text) :
    (starredCondition column .equal starred).truth (row.holding column held) =
      .ofBool (decide (FitsStars starred held)) := by
  unfold starredCondition
  by_cases hpattern : isPattern starred = true
  · rw [if_pos hpattern]
    show (row.holding column held).fits column (likePattern starred) = _
    simp only [Row.fits_holding, fitsLike_likePattern]
  · rw [if_neg hpattern]
    show (row.holding column held).compares column .equal (.text starred) = _
    simp only [Row.compares_equal_holding,
      fitsStars_of_not_isPattern (eq_false_of_ne_true hpattern)]

/-- **An inequality says that it does not.** -/
theorem truth_starredCondition_notEqual (row : Row Literal Text) (column starred held : Text) :
    (starredCondition column .notEqual starred).truth (row.holding column held) =
      .ofBool (decide (¬ FitsStars starred held)) := by
  unfold starredCondition
  by_cases hpattern : isPattern starred = true
  · rw [if_pos hpattern]
    show ((row.holding column held).fits column (likePattern starred)).not = _
    simp only [Row.fits_holding, fitsLike_likePattern, Truth.not_ofBool, decide_not]
  · rw [if_neg hpattern]
    show (row.holding column held).compares column .notEqual (.text starred) = _
    simp only [Row.compares_notEqual_holding, ne_eq,
      fitsStars_of_not_isPattern (eq_false_of_ne_true hpattern)]

namespace Compiler

variable {compiler : Compiler} {field column : Text}

theorem predicate_text (now : Moment) (operator : Comparison) (starred : Text)
    (h : compiler.column field = .ok column) :
    compiler.predicate now { field, operator, value := .text starred } =
      .ok (starredCondition column operator starred) := by
  rw [predicate, h, starredCondition, pattern?]
  by_cases hpattern : isPattern starred = true
  · simp only [hpattern, if_true]
    rfl
  · simp only [hpattern]
    rfl

/-- A tree of one leaf is compiled to the condition of that leaf. -/
theorem compile_leaf (now : Moment) (table : Text) {p : Predicate} {condition : Condition}
    (h : compiler.predicate now p = .ok condition) :
    compiler.compile now table ⟨some (.leaf p)⟩ = .ok (⟨table, condition⟩, []) := by
  rw [compile]
  show (compiler.node now (.leaf p) >>= _) = _
  rw [node, h]
  rfl

/-! ## Main result -/

/-- **A value is a starred text, however it is compiled.** An equality of a field with a text is
compiled to a condition that accepts a row exactly if the text in the column of the field fits: each
star in the value stands for some text and every other character for itself, percent signs,
underscores and backslashes among them. An inequality accepts exactly the other texts. -/
theorem compile_starred (now : Moment) (table starred : Text)
    (h : compiler.column field = .ok column) :
    ∃ equality inequality : Condition,
      compiler.compile now table ⟨some (.plain field .equal (.text starred))⟩ =
        .ok (⟨table, equality⟩, []) ∧
      compiler.compile now table ⟨some (.plain field .notEqual (.text starred))⟩ =
        .ok (⟨table, inequality⟩, []) ∧
      ∀ (row : Row Literal Text) (held : Text),
        (equality.truth (row.holding column held) = .yes ↔ FitsStars starred held) ∧
        (inequality.truth (row.holding column held) = .yes ↔ ¬ FitsStars starred held) := by
  refine ⟨_, _, compile_leaf now table (predicate_text now .equal starred h),
    compile_leaf now table (predicate_text now .notEqual starred h), fun row held => ⟨?_, ?_⟩⟩
  · rw [truth_starredCondition_equal, Truth.ofBool_eq_yes, decide_eq_true_iff]
  · rw [truth_starredCondition_notEqual, Truth.ofBool_eq_yes, decide_eq_true_iff]

/-- A value with a star and with everything that means something in a pattern, in strict mode. -/
theorem compile_starred_discount :
    let compiler : Compiler := { columns := [("note", "remark")], strict := true }
    let now : Moment := ⟨20000, 12, 0, 0⟩
    let starred : Text := "50%_\\*!"
    compiler.column "note" = .ok "remark".toList ∧
      ∃ equality inequality : Condition,
        compiler.compile now "orders" ⟨some (.plain "note" .equal (.text starred))⟩ =
          .ok (⟨"orders", equality⟩, []) ∧
        compiler.compile now "orders" ⟨some (.plain "note" .notEqual (.text starred))⟩ =
          .ok (⟨"orders", inequality⟩, []) ∧
        ∀ row : Row Literal Text,
          equality.truth (row.holding "remark" "50%_\\ off!") = .yes ∧
          inequality.truth (row.holding "remark" "500_\\ off!") = .yes := by
  intro compiler now starred
  have hcolumn : compiler.column "note" = .ok "remark".toList := rfl
  obtain ⟨equality, inequality, hequality, hinequality, htruth⟩ :=
    compile_starred now "orders" starred hcolumn
  refine ⟨hcolumn, equality, inequality, hequality, hinequality, fun row => ⟨?_, ?_⟩⟩
  · exact (htruth row _).1.2 (by decide +kernel)
  · exact (htruth row _).2.2 (by decide +kernel)

end Compiler

end MonitorControl.Sql
