/-
Where the operator of a text condition ends and its value begins.

Operators are told apart by their letters alone, and only `Is` begins another one. So a
value after an operator and a space is taken as it is, whatever it says, unless the
operator is `Is` and the value begins with the three letters that are missing from
`Is Not` (`TextOperator.startsWith_not_of_isNot`), be they a word of their own or not. A token is
found as it is spelled, with one space between its words; another space there is no part
of it.
-/
import MonitorControl.Filter.Condition.Text
import MonitorControl.Proofs.Filter.Heads
import MonitorControl.Proofs.Text.Quotes

set_option autoImplicit false

namespace MonitorControl

open Text

/-! ## Operators that begin another -/

namespace TextOperator

theorem mem_all (operator : TextOperator) : operator ∈ all := by
  cases operator <;> decide

theorem find?_table (operator : TextOperator) :
    table.find? (·.1 == operator.token) = some (operator.token, operator) := by
  cases operator <;> rfl

/-- **Only `Is` begins another token.** -/
theorem eq_or_of_startsWith {operator other : TextOperator}
    (h : other.token.startsWith operator.token = true) :
    other = operator ∨ operator = .is ∧ other = .isNot := by
  have hall : ∀ operator ∈ all, ∀ other ∈ all,
      other.token.startsWith operator.token = true →
        other = operator ∨ operator = .is ∧ other = .isNot := by
    decide
  exact hall operator operator.mem_all other other.mem_all h

/-- **The longer token is found where its last letters come next**, for a value may begin with
them. -/
theorem startsWith_not_of_isNot {word v : Text} (hword : word.sameLetters is.token = true)
    (h : (word ++ ' ' :: v).startsWith isNot.token = true) : v.startsWith "Not" = true := by
  have hfold : word.fold = is.token.fold := by simpa [sameLetters] using hword
  rw [startsWith_iff, fold_append, hfold, fold_cons] at h
  rw [startsWith_iff]
  have hspace : isNot.token.fold = is.token.fold ++ ' ' :: fold "Not" := by decide
  rw [hspace, List.prefix_append_right_inj] at h
  exact (List.cons_prefix_cons.1 h).2

/-- **An operator in any case, a space and a value**: the operator is found, and the value is the
rest. After `Is` the value must not begin with the letters of `Not`. -/
theorem readToken?_table {operator : TextOperator} {word v : Text}
    (hword : word.sameLetters operator.token = true)
    (hnot : operator = .is → v.startsWith "Not" = false) :
    readToken? table (word ++ ' ' :: v) = some (operator, v.trim) := by
  rw [readToken?_append operator.find?_table hword, trim_cons_of_blank rfl]
  intro u hu hquery hbeyond
  obtain ⟨other, rfl⟩ : ∃ other : TextOperator, u = other.token := by
    simp only [table, List.map_map, List.mem_map] at hu
    obtain ⟨other, -, rfl⟩ := hu
    exact ⟨other, rfl⟩
  rcases eq_or_of_startsWith hbeyond with rfl | ⟨rfl, rfl⟩
  · rfl
  · -- the value would have to begin with what `Is Not` has more
    have hletters := startsWith_not_of_isNot hword hquery
    rw [hnot rfl] at hletters
    cases hletters

end TextOperator

/-! ## Conditions with a bare value -/

namespace TextCondition

/-- **A bare value after an operator** is the value of the condition, and all of it. The operator
may be in any case; after `Is` the value must not begin with the letters of `Not`. -/
theorem node?_bare {operator : TextOperator} {word v : Text}
    (hword : word.sameLetters operator.token = true) (hv : IsBare v)
    (hnot : operator = .is → v.startsWith "Not" = false) (field : Text) :
    node? (word ++ ' ' :: v) field =
      some (.plain field operator.comparison (.text (operator.decorate v))) := by
  have hread : readToken? TextOperator.table (word ++ ' ' :: v) = some (operator, v) := by
    rw [TextOperator.readToken?_table hword hnot, hv.isTrimmed.trim_eq]
  have hne : ¬ v.isEmpty = true := by
    rw [List.isEmpty_iff]
    exact hv.ne_nil
  simp only [node?, read?, hread, Option.map_some, if_neg hne, hv.unquote_eq, Option.bind_eq_bind,
    Option.bind_some, Option.pure_def]

/-- A value that has two letters of the other operator, and not the third. -/
theorem node?_bare_node :
    sameLetters "iS" TextOperator.is.token = true ∧ IsBare "Node 1" ∧
      startsWith "Node 1" "Not" = false ∧
      node? "iS Node 1" "host_name" = some (.plain "host_name" .equal (.text "Node 1")) := by
  have hword : sameLetters "iS" TextOperator.is.token = true := by decide
  have hv : IsBare "Node 1" := by decide
  have hnot : startsWith "Node 1" "Not" = false := by decide
  exact ⟨hword, hv, hnot, node?_bare hword hv (fun _ => hnot) "host_name"⟩

/-- **Tokens are told by their letters, not by words.** The letters of `Not` at the head of a longer
word are taken for a part of the operator; and with another space between its words a token is not
found, so that the shorter one is, or none. -/
theorem node?_is_nothing :
    IsBare "Nothing" ∧ words "Nothing" = ["Nothing".toList] ∧
      node? ("Is".toList ++ ' ' :: "Nothing".toList) "host_name" =
        some (.plain "host_name" .notEqual (.text "hing")) ∧
      words "Is  Not" = words TextOperator.isNot.token ∧ IsBare "web" ∧
      node? ("Is  Not".toList ++ ' ' :: "web".toList) "host_name" =
        some (.plain "host_name" .equal (.text "Not web")) ∧
      words "Starts  With" = words TextOperator.startsWith.token ∧
      node? ("Starts  With".toList ++ ' ' :: "web".toList) "host_name" = none := by
  have hnothing : IsBare "Nothing" := by decide
  have hweb : IsBare "web" := by decide
  exact ⟨hnothing, by decide, by decide, by decide, hweb, by decide, by decide, by decide⟩

end TextCondition

end MonitorControl
