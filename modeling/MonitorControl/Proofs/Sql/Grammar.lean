/-
How the tokens of a condition are parsed.

A condition is a disjunction of conjunctions of terms; `AND` binds tighter than
`OR`, both join from left to right, and parentheses make a term of a disjunction.
The grammar says which tokens can be read as what. That it never leaves a choice
takes an argument, since the left operand of a conjunction has no mark at its
beginning. So a machine reads the tokens one by one: it keeps, for every open
parenthesis, what stands before the last `OR` and what stands before the last `AND`,
and whatever the grammar derives the machine computes. One list of tokens then has
one reading.
-/
import MonitorControl.Proofs.Sql.Literal

set_option autoImplicit false

namespace MonitorControl.Sql

/-! ## Readings -/

/-- **What a condition is read as.** -/
inductive Reading where
  | compare (column : Text) (operator : Comparison) (value : Operand)
  | like (column : Text) (negated : Bool) (pattern : StringToken)
  | isIn (column : Text) (values : List Operand)
  | join (conjunction : Conjunction) (left right : Reading)
  deriving DecidableEq, Repr

/-- A key word. -/
def keyWord (letters : String) : Token := .word letters.toList

/-- The key word of a conjunction. -/
def conjunctionToken : Conjunction → Token
  | .and => keyWord "and"
  | .or => keyWord "or"

/-- Operands with commas between them. -/
def listTokens : List Operand → List Token
  | [] => []
  | v :: vs => v.tokens ++ vs.flatMap fun v => .mark ',' :: v.tokens

/-! ## The grammar -/

/-- The levels of the grammar, from the tightest. -/
inductive Level where
  | term
  | conjunction
  | disjunction
  deriving DecidableEq, Repr

/-- **The grammar of conditions.** -/
inductive Derives : Level → List Token → Reading → Prop where
  | compare (column : Text) (operator : Comparison) (value : Operand) :
    Derives .term (.name column :: .operator (comparisonSymbol operator) :: value.tokens)
      (.compare column operator value)
  | like (column : Text) (pattern : StringToken) :
    Derives .term [.name column, keyWord "like", .string pattern] (.like column false pattern)
  | notLike (column : Text) (pattern : StringToken) :
    Derives .term [.name column, keyWord "not", keyWord "like", .string pattern]
      (.like column true pattern)
  | isIn (column : Text) (v : Operand) (vs : List Operand) :
    Derives .term (.name column :: keyWord "in" :: .mark '(' :: (listTokens (v :: vs) ++ [.mark ')']))
      (.isIn column (v :: vs))
  | parentheses {tokens : List Token} {r : Reading} (h : Derives .disjunction tokens r) :
    Derives .term (.mark '(' :: (tokens ++ [.mark ')'])) r
  | ofTerm {tokens : List Token} {r : Reading} (h : Derives .term tokens r) :
    Derives .conjunction tokens r
  | and {left right : List Token} {l r : Reading} (hl : Derives .conjunction left l)
    (hr : Derives .term right r) :
    Derives .conjunction (left ++ conjunctionToken .and :: right) (.join .and l r)
  | ofConjunction {tokens : List Token} {r : Reading} (h : Derives .conjunction tokens r) :
    Derives .disjunction tokens r
  | or {left right : List Token} {l r : Reading} (hl : Derives .disjunction left l)
    (hr : Derives .conjunction right r) :
    Derives .disjunction (left ++ conjunctionToken .or :: right) (.join .or l r)

/-! ## The machine -/

/-- What has been read between two parentheses, before the current term. -/
structure Frame where
  /-- What stands before the last `OR`. -/
  alternatives : Option Reading
  /-- What stands before the last `AND` after it. -/
  factors : Option Reading
  deriving DecidableEq, Repr

/-- Nothing has been read. -/
def Frame.empty : Frame := ⟨none, none⟩

/-- A reading with what stands before its conjunction, if anything does. -/
def joinTo (k : Conjunction) (before : Option Reading) (r : Reading) : Reading :=
  match before with
  | none => r
  | some l => .join k l r

/-- The conjunction that ends with a term. -/
def Frame.conjunction (f : Frame) (r : Reading) : Reading := joinTo .and f.factors r

/-- The disjunction that ends with a term. -/
def Frame.disjunction (f : Frame) (r : Reading) : Reading :=
  joinTo .or f.alternatives (f.conjunction r)

/-- What a value is read for. -/
inductive Purpose where
  | compare (column : Text) (operator : Comparison)
  | item (column : Text) (before : List Operand)
  deriving DecidableEq, Repr

/-- What is to be read next. -/
inductive Mode where
  | term
  /-- What follows the name of a column. -/
  | column (column : Text)
  /-- A value; a number only, if a minus stands before it. -/
  | value (purpose : Purpose) (negative : Bool)
  /-- What follows `NOT`. -/
  | negated (column : Text)
  | pattern (column : Text) (negated : Bool)
  /-- The beginning of a list. -/
  | list (column : Text)
  /-- What follows an item of a list. -/
  | listed (column : Text) (values : List Operand)
  /-- What follows a term. -/
  | done (r : Reading)
  deriving DecidableEq, Repr

/-- What follows the value. -/
def Purpose.next (value : Operand) : Purpose → Mode
  | .compare column operator => .done (.compare column operator value)
  | .item column before => .listed column (before ++ [value])

/-- **A state of the machine**: the frames from the innermost on, and what is to be read next. -/
structure State where
  top : Frame
  below : List Frame
  mode : Mode
  deriving DecidableEq, Repr

/-- What follows the name of a column. -/
def afterColumn (column : Text) : Token → Option Mode
  | .operator symbol =>
    (Comparison.byLength.find? (comparisonSymbol · == symbol)).map fun operator =>
      .value (.compare column operator) false
  | .word letters =>
    if letters == "like".toList then some (.pattern column false)
    else if letters == "not".toList then some (.negated column)
    else if letters == "in".toList then some (.list column)
    else none
  | _ => none

/-- **One token is read.** -/
def step (s : State) (token : Token) : Option State :=
  match s.mode, token with
  | .term, .name column => some { s with mode := .column column }
  | .term, .mark c => if c == '(' then some ⟨.empty, s.top :: s.below, .term⟩ else none
  | .column column, token => (afterColumn column token).map fun mode => { s with mode }
  | .value purpose false, .string string => some { s with mode := purpose.next (.string string) }
  | .value purpose negative, .number t => some { s with mode := purpose.next (.number negative t) }
  | .value purpose false, .operator symbol =>
    if symbol == ['-'] then some { s with mode := .value purpose true } else none
  | .negated column, .word letters =>
    if letters == "like".toList then some { s with mode := .pattern column true } else none
  | .pattern column negated, .string string =>
    some { s with mode := .done (.like column negated string) }
  | .list column, .mark c =>
    if c == '(' then some { s with mode := .value (.item column []) false } else none
  | .listed column values, .mark c =>
    if c == ',' then some { s with mode := .value (.item column values) false }
    else if c == ')' then some { s with mode := .done (.isIn column values) }
    else none
  | .done r, .word letters =>
    if letters == "and".toList then
      some { s with top := ⟨s.top.alternatives, some (s.top.conjunction r)⟩, mode := .term }
    else if letters == "or".toList then
      some { s with top := ⟨some (s.top.disjunction r), none⟩, mode := .term }
    else none
  | .done r, .mark c =>
    match s.below with
    | f :: below => if c == ')' then some ⟨f, below, .done (s.top.disjunction r)⟩ else none
    | [] => none
  | _, _ => none

/-- **A list of tokens is read.** -/
def run (s : State) : List Token → Option State
  | [] => some s
  | token :: tokens => (step s token).bind fun s => run s tokens

theorem run_append (s : State) (ts us : List Token) :
    run s (ts ++ us) = (run s ts).bind fun s => run s us := by
  induction ts generalizing s with
  | nil => rfl
  | cons t ts ih =>
    rw [List.cons_append, run, run, Option.bind_assoc]
    congr 1
    funext s
    exact ih s

/-! ## The machine follows the grammar -/

section

variable (top : Frame) (below : List Frame)

theorem run_operand (purpose : Purpose) (v : Operand) :
    run ⟨top, below, .value purpose false⟩ v.tokens = some ⟨top, below, purpose.next v⟩ := by
  cases v with
  | string s => rfl
  | number negative t => cases negative <;> rfl

theorem run_items (column : Text) (before vs : List Operand) :
    run ⟨top, below, .listed column before⟩ (vs.flatMap fun v => .mark ',' :: v.tokens) =
      some ⟨top, below, .listed column (before ++ vs)⟩ := by
  induction vs generalizing before with
  | nil =>
    rw [List.append_nil]
    rfl
  | cons v vs ih =>
    rw [List.flatMap_cons, run_append]
    show (run ⟨top, below, .value (.item column before) false⟩ v.tokens).bind _ = _
    rw [run_operand, Option.bind_some]
    show run ⟨top, below, .listed column (before ++ [v])⟩ _ = _
    rw [ih, List.append_assoc, List.singleton_append]

theorem run_list (column : Text) (v : Operand) (vs : List Operand) :
    run ⟨top, below, .list column⟩ (.mark '(' :: (listTokens (v :: vs) ++ [.mark ')'])) =
      some ⟨top, below, .done (.isIn column (v :: vs))⟩ := by
  show run ⟨top, below, .value (.item column []) false⟩ (listTokens (v :: vs) ++ [.mark ')']) = _
  rw [listTokens, run_append, run_append, run_operand, Option.bind_some]
  show (run ⟨top, below, .listed column [v]⟩ _).bind _ = _
  rw [run_items]
  rfl

end

/-- **What the machine computes of tokens**, at every level: a term ends on top of any frame, a
conjunction adds its factors to a frame that has none yet, and a disjunction fills an empty one. -/
def Computes (tokens : List Token) (r : Reading) : Level → Prop
  | .term => ∀ top below, run ⟨top, below, .term⟩ tokens = some ⟨top, below, .done r⟩
  | .conjunction => ∀ alternatives below, ∃ factors last,
    run ⟨⟨alternatives, none⟩, below, .term⟩ tokens =
      some ⟨⟨alternatives, factors⟩, below, .done last⟩ ∧ joinTo .and factors last = r
  | .disjunction => ∀ below, ∃ f last,
    run ⟨.empty, below, .term⟩ tokens = some ⟨f, below, .done last⟩ ∧ f.disjunction last = r

section

variable {tokens left right : List Token} {r l : Reading}

theorem computes_compare (column : Text) (operator : Comparison) (value : Operand) :
    Computes (.name column :: .operator (comparisonSymbol operator) :: value.tokens)
      (.compare column operator value) .term := by
  intro top below
  have hcolumn : afterColumn column (.operator (comparisonSymbol operator)) =
      some (.value (.compare column operator) false) := by
    cases operator <;> rfl
  show (Option.map _ (afterColumn column (.operator (comparisonSymbol operator)))).bind _ = _
  rw [hcolumn]
  exact run_operand top below (.compare column operator) value

/-- A closing parenthesis leaves the frame it was opened on as it was. -/
theorem Computes.parentheses (h : Computes tokens r .disjunction) :
    Computes (.mark '(' :: (tokens ++ [.mark ')'])) r .term := by
  intro top below
  obtain ⟨f, last, hrun, hr⟩ := h (top :: below)
  show run ⟨.empty, top :: below, .term⟩ (tokens ++ [.mark ')']) = _
  rw [run_append, hrun, ← hr]
  rfl

/-- Behind `AND` all factors so far stand in the frame. -/
theorem Computes.and (hl : Computes left l .conjunction) (hr : Computes right r .term) :
    Computes (left ++ conjunctionToken .and :: right) (.join .and l r) .conjunction := by
  intro alternatives below
  obtain ⟨factors, last, hrun, hl⟩ := hl alternatives below
  refine ⟨some l, r, ?_, rfl⟩
  rw [run_append, hrun, Option.bind_some]
  show run ⟨⟨alternatives, some (joinTo .and factors last)⟩, below, .term⟩ right = _
  rw [hl]
  exact hr ⟨alternatives, some l⟩ below

/-- Behind `OR` all alternatives so far stand in the frame, and no factor does. -/
theorem Computes.or (hl : Computes left l .disjunction) (hr : Computes right r .conjunction) :
    Computes (left ++ conjunctionToken .or :: right) (.join .or l r) .disjunction := by
  intro below
  obtain ⟨f, last, hrun, hl⟩ := hl below
  obtain ⟨factors, last', hrun', hr⟩ := hr (some l) below
  refine ⟨⟨some l, factors⟩, last', ?_, ?_⟩
  · rw [run_append, hrun, Option.bind_some]
    show run ⟨⟨some (f.disjunction last), none⟩, below, .term⟩ right = _
    rw [hl]
    exact hrun'
  · show joinTo .or (some l) (joinTo .and factors last') = _
    rw [hr]
    rfl

end

/-- **Whatever the grammar derives the machine computes.** -/
theorem Derives.computes {level : Level} {tokens : List Token} {r : Reading}
    (h : Derives level tokens r) : Computes tokens r level := by
  induction h with
  | compare column operator value => exact computes_compare column operator value
  | like column pattern => exact fun top below => rfl
  | notLike column pattern => exact fun top below => rfl
  | isIn column v vs => exact fun top below => run_list top below column v vs
  | parentheses _ ih => exact ih.parentheses
  | ofTerm _ ih => exact fun alternatives below => ⟨none, _, ih ⟨alternatives, none⟩ below, rfl⟩
  | and _ _ ihl ihr => exact ihl.and ihr
  | ofConjunction _ ih =>
    -- a disjunction begins on an empty frame, which has no factors
    intro below
    obtain ⟨factors, last, hrun, hr⟩ := ih none below
    exact ⟨⟨none, factors⟩, last, hrun, hr⟩
  | or _ _ ihl ihr => exact ihl.or ihr

/-- **The grammar is unambiguous.** -/
theorem Derives.unique {tokens : List Token} {r r' : Reading}
    (h : Derives .disjunction tokens r) (h' : Derives .disjunction tokens r') : r' = r := by
  -- both readings are what the machine has computed when the tokens are at their end
  obtain ⟨f, last, hrun, hr⟩ := h.computes []
  obtain ⟨f', last', hrun', hr'⟩ := h'.computes []
  rw [hrun, Option.some.injEq, State.mk.injEq, Mode.done.injEq] at hrun'
  obtain ⟨rfl, -, rfl⟩ := hrun'
  rw [← hr, ← hr']

end MonitorControl.Sql
