/-
A tree written to a URL and read back.

The URL form has no grouping, so what comes back is not the tree but the left comb
of its leaves, with every value read as text. That is all that is lost: the leaves
return in order, with field, operator and the text of the value, and between two
neighbours stands the conjunction that stood there.

Writing is a recursion over the tree and reading a loop over terms. They meet in
the conjoined list of the leaves: writing a node writes that list
(`Node.toUrl_eq`), the terms of the written list are its leaves, each with the
mark after it (`terms_writeLeaves`), and reading such terms hands the leaves to
the tree one by one (`foldl_read`).
-/
import MonitorControl.Proofs.Query.Comb
import MonitorControl.Proofs.Url.Form
import MonitorControl.Url.FilterQuery

set_option autoImplicit false

namespace MonitorControl

open Text

/-! ## What is read back -/

/-- The predicate as it is read from a URL: its value is the text that was shown, and that text is
what it is. -/
def Predicate.asText (p : Predicate) : Predicate :=
  { p with value := .text p.value.display, context := .plain }

/-- The value is a text, and no backend reads it as a time. -/
def Predicate.IsPlainText (p : Predicate) : Prop :=
  (∃ t, p.value = .text t) ∧ p.context = .plain

theorem Predicate.asText_eq_self_iff (p : Predicate) : p.asText = p ↔ p.IsPlainText := by
  obtain ⟨field, operator, value, context⟩ := p
  constructor
  · intro h
    injection h with _ _ hvalue hcontext
    exact ⟨⟨value.display, hvalue.symm⟩, hcontext.symm⟩
  · rintro ⟨⟨t, rfl⟩, rfl⟩
    rfl

/-- **The left-associated form of a node**: the left comb of its leaves, with their values as
text. -/
def Node.leftAssociated (node : Node) : Node := .comb (node.leaves.map fun p => .leaf p.asText)

/-- The left-associated form of a tree. -/
def Tree.leftAssociated (t : Tree) : Tree := ⟨t.root.map Node.leftAssociated⟩

/-- A tree without a root, or whose root is a left comb of plain texts. -/
def Tree.IsPlainComb (t : Tree) : Prop :=
  ∀ root ∈ t.root, root.LeftComb ∧ ∀ p ∈ root.predicates, p.IsPlainText

theorem Node.map_asText_leaf (node : Node) :
    node.leaves.map (fun p => Node.leaf p.asText) =
      (node.leaves.map Predicate.asText).map .leaf := by
  rw [Conjoined.map, Conjoined.map, Conjoined.map, List.map_map]
  rfl

/-- **A node is its own left-associated form exactly if it is a left comb of plain texts.** -/
theorem Node.leftAssociated_eq_self_iff (node : Node) :
    node.leftAssociated = node ↔
      node.LeftComb ∧ ∀ p ∈ node.predicates, p.IsPlainText := by
  rw [leftAssociated, map_asText_leaf]
  constructor
  · intro h
    -- the leaves of the two sides are compared in order
    have hleaves : node.predicates.map Predicate.asText = node.predicates := by
      have hpreds := congrArg predicates h
      rwa [predicates_comb, Conjoined.entries_map, entries_leaves] at hpreds
    refine ⟨h ▸ leftComb_comb (node.leaves.map Predicate.asText), ?_⟩
    intro p hp
    rw [← Predicate.asText_eq_self_iff]
    exact List.map_inj_left.1 (hleaves.trans (List.map_id _).symm) p hp
  · rintro ⟨hcomb, hplain⟩
    have hself : node.leaves.map Predicate.asText = node.leaves := by
      apply Conjoined.map_eq_self
      intro p hp
      rw [entries_leaves] at hp
      exact (p.asText_eq_self_iff).2 (hplain p hp)
    rw [hself, hcomb.comb_leaves]

theorem Tree.leftAssociated_eq_self_iff (t : Tree) : t.leftAssociated = t ↔ t.IsPlainComb := by
  obtain ⟨root⟩ := t
  cases root with
  | none =>
    refine ⟨fun _ root hroot => absurd hroot (by simp), fun _ => rfl⟩
  | some root =>
    have hroot : (⟨some root⟩ : Tree).leftAssociated = ⟨some root⟩ ↔
        root.leftAssociated = root := by
      rw [leftAssociated, Option.map_some, Tree.mk.injEq, Option.some.injEq]
    rw [hroot, root.leftAssociated_eq_self_iff]
    constructor
    · rintro h node ⟨⟩
      exact h
    · intro h
      exact h root rfl

/-! ## Writing, leaf by leaf -/

/-- The leaves of a conjoined list in a URL, each but the first after its mark. -/
def FilterQuery.writeLeaves (leaves : Conjoined Predicate) : Text :=
  leaves.first.toUrl ++ leaves.rest.flatMap fun (k, p) => k.urlMark :: p.toUrl

/-- **Writing a node writes its leaves**, and forgets how they were grouped. -/
theorem Node.toUrl_eq (node : Node) : node.toUrl = FilterQuery.writeLeaves node.leaves := by
  induction node with
  | leaf p => exact (List.append_nil p.toUrl).symm
  | join k left right ihl ihr =>
    rw [toUrl, ihl, ihr, leaves, FilterQuery.writeLeaves, FilterQuery.writeLeaves,
      FilterQuery.writeLeaves, Conjoined.link, List.flatMap_append, List.flatMap_cons,
      List.append_assoc, List.cons_append]

namespace FilterQuery

/-! ## Terms -/

@[simp] theorem conjunctionOfMark?_urlMark (k : Conjunction) :
    conjunctionOfMark? k.urlMark = some k := by
  cases k <;> rfl

/-- A text without marks belongs to one term, whatever comes after it. -/
theorem terms_append {w : Text} (hw : ∀ c ∈ w, conjunctionOfMark? c = none) {rest t : Text}
    {k : Option Conjunction} {ts : List Term} (hrest : terms rest = ⟨t, k⟩ :: ts) :
    terms (w ++ rest) = ⟨w ++ t, k⟩ :: ts := by
  induction w with
  | nil => exact hrest
  | cons c w ih =>
    rw [List.cons_append, terms, hw c List.mem_cons_self,
      ih fun d hd => hw d (List.mem_cons_of_mem c hd)]
    rfl

theorem terms_of_noMark {w : Text} (hw : ∀ c ∈ w, conjunctionOfMark? c = none) :
    terms w = [⟨w, none⟩] := by
  have h := terms_append hw (show terms [] = [⟨[], none⟩] from rfl)
  rwa [List.append_nil] at h

theorem terms_append_urlMark {w : Text} (hw : ∀ c ∈ w, conjunctionOfMark? c = none)
    (k : Conjunction) (rest : Text) :
    terms (w ++ k.urlMark :: rest) = ⟨w, some k⟩ :: terms rest := by
  have hmark : terms (k.urlMark :: rest) = ⟨[], some k⟩ :: terms rest := by
    rw [terms, conjunctionOfMark?_urlMark]
  rw [terms_append hw hmark, List.append_nil]

/-! ## One leaf

What a form holds and what a symbol holds are disjoint, so the first operator of a
written leaf is its own, and a longer one cannot arise from what follows. -/

theorem noMark_of_isFormChar {c : Char} (h : Form.isFormChar c = true) :
    conjunctionOfMark? c = none := by
  have hand : c ≠ '&' := by
    rintro rfl
    exact absurd h (by decide)
  have hor : c ≠ '|' := by
    rintro rfl
    exact absurd h (by decide)
  rw [conjunctionOfMark?, if_neg (by simpa using hand), if_neg (by simpa using hor)]

theorem noMark_of_mem_symbol (operator : Comparison) :
    ∀ c ∈ operator.symbol, conjunctionOfMark? c = none := by
  have hsymbol : operator.symbol.all (conjunctionOfMark? · == none) = true := by
    cases operator <;> decide
  intro c hc
  exact eq_of_beq (List.all_eq_true.1 hsymbol c hc)

/-- No mark stands inside a written leaf. -/
theorem noMark_of_mem_toUrl (p : Predicate) :
    ∀ c ∈ p.toUrl, conjunctionOfMark? c = none := by
  intro c hc
  rw [Predicate.toUrl, List.mem_append, List.mem_append] at hc
  rcases hc with (hc | hc) | hc
  · exact noMark_of_isFormChar (Form.isFormChar_of_mem_encode hc)
  · exact noMark_of_mem_symbol p.operator c hc
  · exact noMark_of_isFormChar (Form.isFormChar_of_mem_encode hc)

/-- No operator begins with a character of a form. -/
theorem operatorAt?_of_isFormChar {c : Char} (h : Form.isFormChar c = true) (rest : Text) :
    operatorAt? (c :: rest) = none := by
  have hne : ∀ d ∈ ['=', '!', '>', '<'], d ≠ c := by
    rintro d hd rfl
    revert hd
    simp only [List.mem_cons, List.not_mem_nil, or_false]
    rintro (rfl | rfl | rfl | rfl) <;> exact absurd h (by decide)
  rw [operatorAt?, List.find?_eq_none]
  intro operator _
  -- the first character of every symbol is one of four, and the form has none of them
  have hhead : ∃ d ∈ ['=', '!', '>', '<'], ∃ tail, operator.symbol = d :: tail := by
    cases operator <;> exact ⟨_, by decide, _, rfl⟩
  obtain ⟨d, hd, tail, hsymbol⟩ := hhead
  rw [hsymbol, List.isPrefixOf_cons_cons, beq_eq_false_iff_ne.2 (hne d hd)]
  exact Bool.false_ne_true

/-- The operator at its own symbol, when no equals sign follows that would make it longer. -/
theorem operatorAt?_symbol (operator : Comparison) {t : Text} (ht : t.head? ≠ some '=') :
    operatorAt? (operator.symbol ++ t) = some operator := by
  cases t with
  | nil => cases operator <;> rfl
  | cons c t =>
    have hc : (('=' : Char) == c) = false := by
      rw [beq_eq_false_iff_ne]
      rintro rfl
      exact ht rfl
    cases operator <;>
      simp [operatorAt?, Comparison.byLength, Comparison.symbol, List.isPrefixOf_cons_cons, hc]

/-- A term with forms around an operator is taken apart at that operator. -/
theorem splitTerm?_forms {field value : Text} (hfield : ∀ c ∈ field, Form.isFormChar c = true)
    (hvalue : ∀ c ∈ value, Form.isFormChar c = true) (operator : Comparison) :
    splitTerm? (field ++ operator.symbol ++ value) = some (field, operator, value) := by
  induction field with
  | nil =>
    -- the operator is next, and what follows it is no part of a longer one
    have hhead : value.head? ≠ some '=' := by
      intro h
      exact absurd (hvalue '=' (List.mem_of_head? h)) (by decide)
    have hop := operatorAt?_symbol operator hhead
    obtain ⟨c, tail, hsymbol⟩ : ∃ c tail, operator.symbol = c :: tail := by
      cases operator <;> exact ⟨_, _, rfl⟩
    rw [List.nil_append]
    rw [hsymbol, List.cons_append] at hop ⊢
    rw [splitTerm?, hop]
    simp only
    rw [hsymbol, ← List.cons_append, List.drop_left]
  | cons c field ih =>
    rw [List.cons_append, List.cons_append, splitTerm?,
      operatorAt?_of_isFormChar (hfield c List.mem_cons_self),
      ih fun d hd => hfield d (List.mem_cons_of_mem c hd)]
    rfl

/-- **A written leaf is read as that leaf**, whatever leaf was read before it. -/
theorem readTerm?_toUrl (previous : Option Subject) (p : Predicate) (hfield : p.field ≠ [])
    (hvalue : p.value.display ≠ []) :
    readTerm? previous p.toUrl = some ((p.field, p.operator), p.value.display) := by
  -- the written leaf falls apart into its two forms, and each form is decoded
  have hsplit := splitTerm?_forms (fun c => Form.isFormChar_of_mem_encode (c := c) (t := p.field))
    (fun c => Form.isFormChar_of_mem_encode (c := c) (t := p.value.display)) p.operator
  rw [readTerm?, Predicate.toUrl, hsplit]
  simp only
  rw [Form.decode_encode, Form.decode_encode, List.isEmpty_eq_false_iff.2 hfield,
    List.isEmpty_eq_false_iff.2 hvalue]
  rfl

/-! ## All leaves -/

/-- The terms of written leaves are the leaves, each with the conjunction after it. -/
theorem terms_writeLeaves (leaves : Conjoined Predicate) :
    terms (writeLeaves leaves) = (leaves.followed none).map fun (p, k) => ⟨p.toUrl, k⟩ := by
  obtain ⟨first, rest⟩ := leaves
  show terms (first.toUrl ++ rest.flatMap fun (k, p) => k.urlMark :: p.toUrl) =
    (Conjoined.followedFrom none first rest).map fun (p, k) => ⟨p.toUrl, k⟩
  induction rest generalizing first with
  | nil =>
    rw [List.flatMap_nil, List.append_nil, terms_of_noMark (noMark_of_mem_toUrl first)]
    rfl
  | cons entry rest ih =>
    obtain ⟨k, p⟩ := entry
    rw [List.flatMap_cons, List.cons_append,
      terms_append_urlMark (noMark_of_mem_toUrl first), ih]
    rfl

/-- **Reading terms of written leaves hands the leaves to the tree**, one by one. -/
theorem foldl_read (entries : List (Predicate × Option Conjunction))
    (hproper : ∀ entry ∈ entries, entry.1.field ≠ [] ∧ entry.1.value.display ≠ [])
    (progress : Progress) :
    ((entries.map fun (p, k) => ⟨p.toUrl, k⟩).foldl Progress.read progress).tree =
      ((entries.map fun (p, k) => (Node.leaf p.asText, k)).foldl Tree.attach
        (progress.tree, progress.pending)).1 := by
  induction entries generalizing progress with
  | nil => rfl
  | cons entry entries ih =>
    obtain ⟨p, k⟩ := entry
    obtain ⟨hfield, hvalue⟩ := hproper (p, k) List.mem_cons_self
    have hread : progress.read ⟨p.toUrl, k⟩ =
        { tree := progress.tree.insert (.leaf p.asText) (progress.pending.getD .and)
          pending := k
          previous := some (p.field, p.operator) } := by
      rw [Progress.read, readTerm?_toUrl progress.previous p hfield hvalue]
      rfl
    rw [List.map_cons, List.foldl_cons, List.map_cons, List.foldl_cons, hread,
      ih (fun entry hentry => hproper entry (List.mem_cons_of_mem _ hentry))]
    rfl

/-- A written node is read back as its left-associated form. -/
theorem parse_node (node : Node)
    (hproper : ∀ p ∈ node.predicates, p.field ≠ [] ∧ p.value.display ≠ []) :
    parse node.toUrl = ⟨some node.leftAssociated⟩ := by
  have hentries : ∀ entry ∈ node.leaves.followed none,
      entry.1.field ≠ [] ∧ entry.1.value.display ≠ [] := by
    intro entry hentry
    apply hproper
    rw [← Node.entries_leaves, ← Conjoined.map_fst_followed none]
    exact List.mem_map_of_mem hentry
  have hmap := Conjoined.followed_map none (fun p : Predicate => Node.leaf p.asText) node.leaves
  rw [parse, node.toUrl_eq, terms_writeLeaves, foldl_read _ hentries, ← hmap, foldl_attach]
  rfl

end FilterQuery

/-! ## Main result -/

/-- **What comes back from a URL** is the left-associated form of the tree that was written: the
same leaves in order with their values as text, and the same conjunctions from left to right. It
is the tree itself exactly when the tree is a left comb of plain texts. No character of a field or
of a value is an exception. -/
theorem FilterQuery.parse_toUrl (t : Tree)
    (hproper : ∀ p ∈ t.predicates, p.field ≠ [] ∧ p.value.display ≠ []) :
    FilterQuery.parse t.toUrl = t.leftAssociated ∧
      (FilterQuery.parse t.toUrl = t ↔ t.IsPlainComb) := by
  have hparse : FilterQuery.parse t.toUrl = t.leftAssociated := by
    obtain ⟨root⟩ := t
    cases root with
    | none => rfl
    | some root => exact parse_node root hproper
  refine ⟨hparse, ?_⟩
  rw [hparse, t.leftAssociated_eq_self_iff]

/-- A join on the right comes back on the left, a number as its digits, and marks inside a field
or a value as themselves. -/
theorem FilterQuery.parse_toUrl_rightNested :
    let t : Tree := ⟨some (.join .or (.plain "a|b=" .greaterEqual (.text "=&+% ü"))
      (.join .and (.plain "n" .less (.integer (-7))) (.time "t" .notEqual "1 day")))⟩
    (∀ p ∈ t.predicates, p.field ≠ [] ∧ p.value.display ≠ []) ∧
      FilterQuery.parse t.toUrl = ⟨some (.join .and (.join .or
        (.plain "a|b=" .greaterEqual (.text "=&+% ü")) (.plain "n" .less (.text "-7")))
        (.plain "t" .notEqual (.text "1 day")))⟩ := by
  intro t
  have hproper : ∀ p ∈ t.predicates, p.field ≠ [] ∧ p.value.display ≠ [] := by decide
  exact ⟨hproper, (FilterQuery.parse_toUrl t hproper).1⟩

end MonitorControl
