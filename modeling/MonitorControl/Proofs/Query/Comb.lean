/-
Conjoined lists, and the left combs that insertion grows out of them.

A conjoined list is what stands between the text of a query and its tree: at
least one thing, and a conjunction before each further one. Both readers, that of
queries and that of URLs, hand the tree one entry after the other, each with the
conjunction that stands after it; the conjoined list has the conjunctions where
they belong, between two entries, and `foldl_attach` says that handing over its
entries gives its comb and nothing else.

Read in the other direction, every node has a conjoined list: its leaves from left
to right, with the conjunctions in the order in which they are met. The comb of
that list is the node exactly when the node is a left comb already.
-/
import MonitorControl.Query.Tree

set_option autoImplicit false

namespace MonitorControl

/-! ## Conjoined lists -/

/-- **A conjoined list**: a first entry, and further ones, each with the conjunction before it. -/
structure Conjoined (α : Type) where
  first : α
  rest : List (Conjunction × α)
  deriving DecidableEq, Repr

namespace Conjoined

variable {α β : Type}

/-- The list of one entry. -/
def single (a : α) : Conjoined α := ⟨a, []⟩

/-- The entries from left to right. -/
def entries (c : Conjoined α) : List α := c.first :: c.rest.map Prod.snd

/-- The list with every entry changed by `f`. -/
def map (f : α → β) (c : Conjoined α) : Conjoined β :=
  ⟨f c.first, c.rest.map fun (k, a) => (k, f a)⟩

/-- Two lists with a conjunction between them. -/
def link (c : Conjoined α) (k : Conjunction) (d : Conjoined α) : Conjoined α :=
  ⟨c.first, c.rest ++ (k, d.first) :: d.rest⟩

/-- The entries from `a` on, each with the conjunction after it. -/
def followedFrom (dangling : Option Conjunction) (a : α) :
    List (Conjunction × α) → List (α × Option Conjunction)
  | [] => [(a, dangling)]
  | (k, b) :: rest => (a, some k) :: followedFrom dangling b rest

/-- **The entries, each with the conjunction after it**; after the last stands `dangling`. -/
def followed (dangling : Option Conjunction) (c : Conjoined α) : List (α × Option Conjunction) :=
  followedFrom dangling c.first c.rest

@[simp] theorem entries_map (f : α → β) (c : Conjoined α) :
    (c.map f).entries = c.entries.map f := by
  rw [entries, entries, map, List.map_cons, List.map_map, List.map_map]
  rfl

@[simp] theorem entries_link (c : Conjoined α) (k : Conjunction) (d : Conjoined α) :
    (c.link k d).entries = c.entries ++ d.entries := by
  rw [entries, entries, entries, link, List.map_append, List.map_cons, List.cons_append]

/-- A change that leaves every entry as it is leaves the list as it is. -/
theorem map_eq_self {f : α → α} {c : Conjoined α} (h : ∀ a ∈ c.entries, f a = a) :
    c.map f = c := by
  obtain ⟨first, rest⟩ := c
  have hrest : rest.map (fun (k, a) => (k, f a)) = rest.map id := by
    apply List.map_congr_left
    rintro ⟨k, a⟩ hentry
    have hmem : a ∈ rest.map Prod.snd := List.mem_map_of_mem hentry
    show (k, f a) = (k, a)
    rw [h a (List.mem_cons_of_mem first hmem)]
  rw [map, h first List.mem_cons_self, hrest, List.map_id]

theorem map_link (f : α → β) (c : Conjoined α) (k : Conjunction) (d : Conjoined α) :
    (c.link k d).map f = (c.map f).link k (d.map f) := by
  rw [map, map, map, link, link, List.map_append, List.map_cons]

theorem followed_map (dangling : Option Conjunction) (f : α → β) (c : Conjoined α) :
    (c.map f).followed dangling = (c.followed dangling).map fun (a, k) => (f a, k) := by
  obtain ⟨a, rest⟩ := c
  show followedFrom dangling (f a) (rest.map fun (k, a) => (k, f a)) =
    (followedFrom dangling a rest).map fun (a, k) => (f a, k)
  induction rest generalizing a with
  | nil => rfl
  | cons entry rest ih =>
    obtain ⟨k, b⟩ := entry
    rw [List.map_cons, followedFrom, followedFrom, List.map_cons, ih]

@[simp] theorem map_fst_followed (dangling : Option Conjunction) (c : Conjoined α) :
    (c.followed dangling).map Prod.fst = c.entries := by
  obtain ⟨a, rest⟩ := c
  show (followedFrom dangling a rest).map Prod.fst = a :: rest.map Prod.snd
  induction rest generalizing a with
  | nil => rfl
  | cons entry rest ih =>
    obtain ⟨k, b⟩ := entry
    rw [followedFrom, List.map_cons, ih, List.map_cons]

/-- **Entries with conjunctions after them make a conjoined list** when no conjunction is missing
except perhaps after the last. -/
theorem exists_eq_followed (entries : List (α × Option Conjunction)) (hne : entries ≠ [])
    (hlinked : ∀ entry ∈ entries.dropLast, entry.2 ≠ none) :
    ∃ (list : Conjoined α) (dangling : Option Conjunction), entries = list.followed dangling := by
  induction entries with
  | nil => exact absurd rfl hne
  | cons entry rest ih =>
    obtain ⟨a, k⟩ := entry
    cases rest with
    | nil => exact ⟨single a, k, rfl⟩
    | cons entry' rest' =>
      rw [List.dropLast_cons_of_ne_nil (List.cons_ne_nil entry' rest')] at hlinked
      obtain ⟨list, dangling, hlist⟩ := ih (List.cons_ne_nil entry' rest') (fun x hx =>
        hlinked x (List.mem_cons_of_mem _ hx))
      obtain ⟨k', rfl⟩ := Option.ne_none_iff_exists'.1 (hlinked (a, k) List.mem_cons_self)
      refine ⟨⟨a, (k', list.first) :: list.rest⟩, dangling, ?_⟩
      rw [hlist]
      rfl

end Conjoined

/-! ## Combs -/

/-- The root with further nodes joined to its right, one after the other. -/
def Node.graft (root : Node) (rest : List (Conjunction × Node)) : Node :=
  rest.foldl (fun root (k, node) => .join k root node) root

/-- **The left comb of a conjoined list**: `((n₁ k₁ n₂) k₂ n₃) …`. -/
def Node.comb (list : Conjoined Node) : Node := list.first.graft list.rest

/-- One entry is handed to the tree: the node is joined by the conjunction that stood after the
entry before it. -/
def Tree.attach (state : Tree × Option Conjunction) (entry : Node × Option Conjunction) :
    Tree × Option Conjunction :=
  (state.1.insert entry.1 (state.2.getD .and), entry.2)

theorem foldl_attach_graft (root node : Node) (k : Conjunction) (dangling : Option Conjunction)
    (rest : List (Conjunction × Node)) :
    (Conjoined.followedFrom dangling node rest).foldl Tree.attach (⟨some root⟩, some k) =
      (⟨some (root.graft ((k, node) :: rest))⟩, dangling) := by
  induction rest generalizing root node k with
  | nil => rfl
  | cons entry rest ih =>
    obtain ⟨k', node'⟩ := entry
    rw [Conjoined.followedFrom, List.foldl_cons]
    exact ih (.join k root node) node' k'

/-- **Handing over the entries of a conjoined list grows its comb**; the conjunction after the
last entry is left over. -/
theorem foldl_attach (list : Conjoined Node) (dangling : Option Conjunction) :
    (list.followed dangling).foldl Tree.attach (.empty, none) =
      (⟨some (Node.comb list)⟩, dangling) := by
  obtain ⟨first, rest⟩ := list
  cases rest with
  | nil => rfl
  | cons entry rest =>
    obtain ⟨k, node⟩ := entry
    rw [Conjoined.followed, Conjoined.followedFrom, List.foldl_cons]
    exact foldl_attach_graft first node k dangling rest

/-- Insertion adds the leaves of the node after those of the tree. -/
theorem Tree.predicates_insert (t : Tree) (node : Node) (k : Conjunction) :
    (t.insert node k).predicates = t.predicates ++ node.predicates := by
  obtain ⟨root⟩ := t
  cases root <;> rfl

/-- **The leaves of a tree are those of the nodes handed to it**, in order. -/
theorem Tree.predicates_foldl_attach (entries : List (Node × Option Conjunction))
    (state : Tree × Option Conjunction) :
    (entries.foldl attach state).1.predicates =
      state.1.predicates ++ entries.flatMap (·.1.predicates) := by
  induction entries generalizing state with
  | nil => exact (List.append_nil _).symm
  | cons entry entries ih =>
    rw [List.foldl_cons, ih, attach, predicates_insert, List.flatMap_cons, List.append_assoc]

namespace Node

theorem comb_link_single (list : Conjoined Node) (k : Conjunction) (node : Node) :
    comb (list.link k (.single node)) = .join k (comb list) node := by
  rw [comb, graft, Conjoined.link, List.foldl_append]
  rfl

/-! ## The leaves of a node -/

/-- **The leaves of a node from left to right**, with the conjunctions in the order in which they
are met. -/
def leaves : Node → Conjoined Predicate
  | .leaf p => .single p
  | .join k left right => left.leaves.link k right.leaves

/-- No leaf is lost. -/
theorem entries_leaves (node : Node) : node.leaves.entries = node.predicates := by
  induction node with
  | leaf p => rfl
  | join k left right ihl ihr => rw [leaves, Conjoined.entries_link, ihl, ihr, predicates]

/-- **A left comb**: every right side is a leaf. -/
inductive LeftComb : Node → Prop where
  | leaf (p : Predicate) : LeftComb (.leaf p)
  | join (k : Conjunction) {left : Node} (p : Predicate) (hleft : LeftComb left) :
    LeftComb (.join k left (.leaf p))

theorem leftComb_graft (root : Node) (hroot : root.LeftComb)
    (rest : List (Conjunction × Predicate)) :
    LeftComb (root.graft (rest.map fun (k, p) => (k, .leaf p))) := by
  induction rest generalizing root with
  | nil => exact hroot
  | cons entry rest ih =>
    obtain ⟨k, p⟩ := entry
    exact ih (.join k root (.leaf p)) (.join k p hroot)

/-- A comb of leaves is a left comb. -/
theorem leftComb_comb (list : Conjoined Predicate) : LeftComb (comb (list.map .leaf)) :=
  leftComb_graft (.leaf list.first) (.leaf list.first) list.rest

/-- The leaves of a comb of leaves are the entries of its list. -/
theorem predicates_graft (root : Node) (rest : List (Conjunction × Predicate)) :
    (root.graft (rest.map fun (k, p) => (k, .leaf p))).predicates =
      root.predicates ++ rest.map Prod.snd := by
  induction rest generalizing root with
  | nil => exact (List.append_nil _).symm
  | cons entry rest ih =>
    obtain ⟨k, p⟩ := entry
    have hstep := ih (.join k root (.leaf p))
    rw [predicates, predicates, List.append_assoc] at hstep
    exact hstep

theorem predicates_comb (list : Conjoined Predicate) :
    (comb (list.map .leaf)).predicates = list.entries :=
  predicates_graft (.leaf list.first) list.rest

/-- **A left comb is the comb of its leaves.** -/
theorem LeftComb.comb_leaves {node : Node} (h : node.LeftComb) :
    comb (node.leaves.map .leaf) = node := by
  induction h with
  | leaf p => rfl
  | join k p hleft ih =>
    rw [leaves, Conjoined.map_link, leaves]
    show comb (Conjoined.link _ k (.single (.leaf p))) = _
    rw [comb_link_single, ih]

end Node

end MonitorControl
