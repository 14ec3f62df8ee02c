/-
Which labels of a table of flags can be asked for.

A query for a flag is an operator and a label, and nothing marks where the one ends and the
other begins. The longest operator is taken that the query begins with, and of the labels the
first in the list that the rest begins with. So a label answers to its name unless something
else takes its letters: a label listed before it that it begins with (`readFirst?_of_front`), or, after
`Is`, the rest of the operator `Is Not`, if its first letters are those of `Not`. Which labels come
after it in the list, and what they are, plays no part (`node?_label`).

Both happen with sensible labels: where `Up` stands before `Up To Date`, the second cannot be
asked for, and `Is Notified` is read as `Is Not` with `ified` behind it (`node?_notified`).
-/
import MonitorControl.Filter.Condition.Flag
import MonitorControl.Proofs.Filter.Condition.Text

set_option autoImplicit false

namespace MonitorControl

open Text

/-! ## The first label -/

/-- **The first entry of a table that a text begins with** is found, whatever comes after it. -/
theorem readFirst?_of_front {α : Type} {front back : List (Text × α)} {head t : Text} {meaning : α}
    (hfront : ∀ entry ∈ front, t.startsWith entry.1 = false) (hhead : t.startsWith head = true) :
    readFirst? (front ++ (head, meaning) :: back) t = some (meaning, trim (t.drop head.length)) := by
  have hnone : front.findSome?
      (fun entry => (t.afterHead? entry.1).map fun rest => (entry.2, rest)) = none := by
    rw [List.findSome?_eq_none_iff]
    intro entry hentry
    rw [afterHead?, hfront entry hentry]
    rfl
  have hfound : t.afterHead? head = some (trim (t.drop head.length)) := if_pos hhead
  rw [readFirst?, List.findSome?_append, hnone, Option.none_or, List.findSome?_cons]
  simp only [hfound, Option.map_some]

namespace FlagTable

/-! ## Operators -/

/-- **After its longest operator** a query has the label, and the operator decides the value. -/
theorem split?_append {table : FlagTable} {token rest : Text} (htoken : token ∈ table.operators)
    (hlongest : ∀ u ∈ table.operators,
      (token ++ rest).startsWith u = true → u.startsWith token = true → u = token) :
    table.split? (token ++ rest) =
      (readFirst? table.columns rest.trim).map fun (column, range) =>
        (column, if token == table.negative then 0 else 1, range) := by
  rw [split?, longestToken?_eq_some htoken (startsWith_append token rest) hlongest]
  simp only [Option.bind_eq_bind, Option.bind_some, afterHead?_append, Option.pure_def,
    Option.map_eq_bind]
  rfl

/-- A label with nothing behind it is a comparison of its column. -/
theorem node?_of_split? {table : FlagTable} {query column : Text} {value : Int}
    (h : table.split? query = some (column, value, [])) (now : Moment) :
    table.node? now query = some (.plain column .equal (.integer value)) := by
  simp only [node?, h, Option.bind_eq_bind, Option.bind_some, List.isEmpty_nil, if_true,
    Option.pure_def]

variable {before after : List (Text × Text)} {column label : Text}

/-- **A label that no label before it begins** is found as it is. -/
theorem readFirst?_columns (hlabel : IsTrimmed label)
    (hfirst : ∀ flag ∈ before, label.startsWith flag.2 = false) (timeColumn : Option Text) :
    let table : FlagTable := { flags := before ++ (column, label) :: after, timeColumn }
    readFirst? table.columns (trim (' ' :: label)) = some (column, []) := by
  intro table
  have hcolumns : table.columns =
      before.map (fun (column, label) => (label, column)) ++
        (label, column) :: after.map fun (column, label) => (label, column) := by
    simp only [columns, table, List.map_append, List.map_cons]
  have hown : label.startsWith label = true := by
    simpa using startsWith_append label []
  have hfront : ∀ entry ∈ before.map fun (column, label) => (label, column),
      label.startsWith entry.1 = false :=
    List.forall_mem_map.2 hfirst
  rw [trim_cons_of_blank rfl, hlabel.trim_eq, hcolumns, readFirst?_of_front hfront hown,
    List.drop_length, trim_nil]

/-! ## Main result -/

/-- **Which labels answer to their names.** In every table of flags with the usual operators, a label
that is not begun by a label listed before it can be denied, and if its first letters are not those
of `Not` it can be affirmed; the node compares the column of that label, whatever the other labels
are. Columns of times make no difference. -/
theorem node?_label (hlabel : IsTrimmed label)
    (hfirst : ∀ flag ∈ before, label.startsWith flag.2 = false) (timeColumn : Option Text)
    (now : Moment) :
    let table : FlagTable := { flags := before ++ (column, label) :: after, timeColumn }
    table.node? now ("Is Not ".toList ++ label) = some (.plain column .equal (.integer 0)) ∧
      (label.startsWith "Not" = false →
        table.node? now ("Is ".toList ++ label) = some (.plain column .equal (.integer 1))) := by
  intro table
  have hread : readFirst? table.columns (trim (' ' :: label)) = some (column, []) :=
    readFirst?_columns hlabel hfirst timeColumn
  have hoperators : table.operators = ["Is".toList, "Is Not".toList] := rfl
  constructor
  · have hlongest : ∀ u ∈ table.operators,
        startsWith ("Is Not".toList ++ ' ' :: label) u = true → u.startsWith "Is Not" = true →
          u = "Is Not".toList := by
      intro u hu _ hbeyond
      rw [hoperators, List.mem_pair] at hu
      rcases hu with rfl | rfl
      · exact absurd hbeyond (by decide)
      · rfl
    refine node?_of_split? ?_ now
    show table.split? ("Is Not".toList ++ ' ' :: label) = _
    rw [split?_append (by rw [hoperators]; decide) hlongest, hread]
    rfl
  · intro hnot
    have hlongest : ∀ u ∈ table.operators,
        startsWith ("Is".toList ++ ' ' :: label) u = true → u.startsWith "Is" = true →
          u = "Is".toList := by
      intro u hu hquery _
      rw [hoperators, List.mem_pair] at hu
      rcases hu with rfl | rfl
      · rfl
      · -- the label would have to begin with what `Is Not` has more
        have his : sameLetters "Is" TextOperator.is.token = true := by decide
        have hletters := TextOperator.startsWith_not_of_isNot his hquery
        rw [hnot] at hletters
        cases hletters
    refine node?_of_split? ?_ now
    show table.split? ("Is".toList ++ ' ' :: label) = _
    rw [split?_append (by rw [hoperators]; decide) hlongest, hread]
    rfl

/-- A label in the middle of a list, with one that begins with it behind it. -/
theorem node?_label_inDowntime :
    let before : List (Text × Text) := [("flapping", "Flapping"), ("host", "In Host Downtime")]
    let after : List (Text × Text) := [("long", "In Downtime For Long")]
    let column : Text := "downtime"
    let label : Text := "In Downtime"
    let table : FlagTable := { flags := before ++ (column, label) :: after }
    let now : Moment := ⟨19858, 10, 30, 0⟩
    IsTrimmed label ∧ (∀ flag ∈ before, label.startsWith flag.2 = false) ∧
      label.startsWith "Not" = false ∧
      table.node? now ("Is Not ".toList ++ label) = some (.plain column .equal (.integer 0)) ∧
      table.node? now ("Is ".toList ++ label) = some (.plain column .equal (.integer 1)) := by
  intro before after column label table now
  have htrim : label.trim = label := by decide
  have hlabel : IsTrimmed label := by
    rw [← htrim]
    exact isTrimmed_trim label
  have hfirst : ∀ flag ∈ before, label.startsWith flag.2 = false := by decide
  have hnot : label.startsWith "Not" = false := by decide
  obtain ⟨hdenied, haffirmed⟩ := node?_label hlabel hfirst none now
  exact ⟨hlabel, hfirst, hnot, hdenied, haffirmed hnot⟩

/-- **Labels that do not answer to their names**, of which none is empty, untrimmed or another one in
other letters, and none has `Not` for its first word. One begins with a label before it, and the
other with the letters of `Not`. -/
theorem node?_notified :
    let table : FlagTable :=
      { flags := [("up", "Up"), ("up_to_date", "Up To Date"), ("notified", "Notified")] }
    let labels : List Text := table.flags.map Prod.snd
    let now : Moment := ⟨19858, 10, 30, 0⟩
    (∀ label ∈ labels, label ≠ [] ∧ label.trim = label ∧
        label.fold.words.head? ≠ some "not".toList) ∧
      labels.Pairwise (fun label other => label.sameLetters other = false) ∧
      table.node? now "Is Up To Date" = none ∧ table.node? now "Is Not Up To Date" = none ∧
      table.node? now "Is Notified" = none := by
  decide

end FlagTable

end MonitorControl
