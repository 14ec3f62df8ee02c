/-
What is read from a URL does not change when it is written and read again.

Reading is forgiving: terms without a value are dropped, a bare value borrows field
and operator of the leaf before it, and what is no UTF-8 is replaced. Writing is
not: it writes every leaf in full. So the tree is where all of this is settled, and
the trees that reading gives are exactly the ones that writing keeps: empty, or a
left comb of plain texts with nothing empty in them (`Tree.IsNormal`).

Two things carry the proof. Decoding never makes an empty text out of one that is
not (`Form.decode_ne_nil`), since every byte that is no part of a character still
gives a replacement character; only so can a bare value not be empty. And the loop
keeps an invariant (`Progress.IsNormal`): the tree so far is normal, and the
subject that a bare value may borrow has a field.
-/
import MonitorControl.Proofs.Url.RoundTrip
import Mathlib.Tactic.SplitIfs

set_option autoImplicit false

namespace MonitorControl

open Text

/-! ## Decoding keeps something of every text -/

/-- **Lossy reading gives at least one character for at least one byte.** -/
theorem Text.ofBytesLossy_ne_nil {bs : List UInt8} (h : bs ≠ []) : ofBytesLossy bs ≠ [] := by
  obtain ⟨a, rest, rfl⟩ := List.exists_cons_of_ne_nil h
  rw [ofBytesLossy.eq_def]
  simp only
  -- the branches differ in how many bytes go into the first character, and all have one
  repeat' split
  all_goals exact List.cons_ne_nil _ _

namespace Form

theorem decodeBytes_ne_nil {t : Text} (h : t ≠ []) : decodeBytes t ≠ [] := by
  rw [decodeBytes.eq_def]
  split
  · exact absurd rfl h
  · exact List.cons_ne_nil _ _
  · split <;> exact List.cons_ne_nil _ _
  · exact List.append_ne_nil_of_left_ne_nil (charBytes_ne_nil _) _

/-- **What is not empty is not decoded to nothing**, however broken it is. -/
theorem decode_ne_nil {t : Text} (h : t ≠ []) : decode t ≠ [] :=
  ofBytesLossy_ne_nil (decodeBytes_ne_nil h)

end Form

/-! ## Normal trees -/

/-- **A leaf in full**: a plain text, and neither the field nor the value is empty. -/
structure Predicate.IsFull (p : Predicate) : Prop where
  plain : p.IsPlainText
  field_ne_nil : p.field ≠ []
  value_ne_nil : p.value.display ≠ []

/-- **A normal tree** is empty, or a left comb of leaves in full. -/
inductive Tree.IsNormal : Tree → Prop where
  | empty : IsNormal .empty
  | comb {root : Node} (hcomb : root.LeftComb) (hfull : ∀ p ∈ root.predicates, p.IsFull) :
    IsNormal ⟨some root⟩

/-- A leaf in full keeps a tree normal when it is inserted. -/
theorem Tree.IsNormal.insert {t : Tree} (h : t.IsNormal) {p : Predicate} (hp : p.IsFull)
    (k : Conjunction) : (t.insert (.leaf p) k).IsNormal := by
  cases h with
  | empty =>
    refine .comb (.leaf p) fun q hq => ?_
    obtain rfl := List.mem_singleton.1 hq
    exact hp
  | comb hcomb hfull =>
    refine .comb (.join k p hcomb) fun q hq => ?_
    rcases List.mem_append.1 hq with hq | hq
    · exact hfull q hq
    · obtain rfl := List.mem_singleton.1 hq
      exact hp

namespace FilterQuery

/-- **A normal tree is read back as it was written.** -/
theorem parse_of_isNormal {t : Tree} (h : t.IsNormal) : parse t.toUrl = t := by
  cases h with
  | empty => rfl
  | @comb root hcomb hfull =>
    have hread := parse_node root fun p hp => ⟨(hfull p hp).field_ne_nil, (hfull p hp).value_ne_nil⟩
    have hself := (root.leftAssociated_eq_self_iff).2 ⟨hcomb, fun p hp => (hfull p hp).plain⟩
    show parse root.toUrl = ⟨some root⟩
    rw [hread, hself]

/-! ## One term -/

/-- A term that gives a leaf gives it in full, if the subject it may borrow has a field. -/
theorem ne_nil_of_readTerm? {previous : Option Subject} {term value : Text} {subject : Subject}
    (hprevious : ∀ s ∈ previous, s.1 ≠ []) (h : readTerm? previous term = some (subject, value)) :
    subject.1 ≠ [] ∧ value ≠ [] := by
  unfold readTerm? at h
  split at h
  · -- field and value are written out, and both were looked at
    simp only at h
    split_ifs at h with hempty
    rw [Option.some.injEq, Prod.mk.injEq] at h
    obtain ⟨rfl, rfl⟩ := h
    rw [Bool.not_eq_true, Bool.or_eq_false_iff, List.isEmpty_eq_false_iff,
      List.isEmpty_eq_false_iff] at hempty
    exact hempty
  · -- a bare value: the field was looked at before, and decoding leaves something of the value
    split_ifs at h with hempty
    obtain ⟨s, hs, heq⟩ := Option.map_eq_some_iff.1 h
    rw [Prod.mk.injEq] at heq
    obtain ⟨rfl, rfl⟩ := heq
    rw [List.isEmpty_iff] at hempty
    exact ⟨hprevious s hs, Form.decode_ne_nil hempty⟩

/-! ## All terms -/

/-- **What holds between two terms**: the tree so far is normal, and the subject that is at hand has
a field. -/
structure Progress.IsNormal (progress : Progress) : Prop where
  tree : progress.tree.IsNormal
  previous : ∀ s ∈ progress.previous, s.1 ≠ []

/-- **Every term keeps the invariant**, whatever it is. -/
theorem Progress.IsNormal.read {progress : Progress} (h : progress.IsNormal) (term : Term) :
    (progress.read term).IsNormal := by
  unfold Progress.read
  split
  · next field operator value hread =>
    obtain ⟨hfield, hvalue⟩ := ne_nil_of_readTerm? h.previous hread
    have hfull : Predicate.IsFull { field, operator, value := .text value } :=
      ⟨⟨⟨value, rfl⟩, rfl⟩, hfield, hvalue⟩
    refine ⟨h.tree.insert hfull _, ?_⟩
    rintro s ⟨⟩
    exact hfield
  · exact ⟨h.tree, fun s hs => absurd hs (Option.not_mem_none s)⟩

theorem Progress.IsNormal.foldl_read {progress : Progress} (h : progress.IsNormal)
    (ts : List Term) : (ts.foldl Progress.read progress).IsNormal := by
  induction ts generalizing progress with
  | nil => exact h
  | cons term ts ih => exact ih (h.read term)

/-- **What is read from a URL is normal.** -/
theorem isNormal_parse (url : Text) : (parse url).IsNormal := by
  have hstart : Progress.IsNormal ⟨.empty, none, none⟩ :=
    ⟨.empty, fun s hs => absurd hs (Option.not_mem_none s)⟩
  exact (hstart.foldl_read (terms url)).tree

/-! ## Main result -/

/-- **Any text is read to a normal tree, and that tree is written and read back without a change.**
The text need not be a written tree, nor make any sense. -/
theorem parse_toUrl_parse (url : Text) :
    (parse url).IsNormal ∧ parse (parse url).toUrl = parse url :=
  ⟨isNormal_parse url, parse_of_isNormal (isNormal_parse url)⟩

/-- A dropped term, a borrowed subject and a byte that is no character are gone after one
reading. -/
example : (parse "x=&|a=1|%FF&=2|3").toUrl = "a=1|a=%EF%BF%BD".toList := by cbv

end FilterQuery

end MonitorControl
