/-
Which token is at the head of a query.

Two heads of one text begin one another, so the tokens that a query begins with form a
chain, and the longest of them is the one that all others begin. The search goes through
the table once and keeps the longer of two (`foldl_laterLonger`); what it finds is a token
that no other token of the query goes beyond (`longestToken?_eq_some`), and what is read
behind it is all the rest of the query (`readToken?_append`).
-/
import MonitorControl.Filter.Completion
import MonitorControl.Proofs.Text.CaseFolding

set_option autoImplicit false

namespace MonitorControl

open Text

/-! ## The longest of the heads -/

/-- One of the two is kept. -/
theorem mem_laterLonger {best : Option Text} {u kept : Text} (h : kept ∈ laterLonger best u) :
    kept = u ∨ kept ∈ best := by
  cases best with
  | none => exact .inl (Option.some_inj.1 h).symm
  | some b =>
    by_cases hle : b.byteLength ≤ u.byteLength
    · rw [laterLonger, if_pos hle] at h
      exact .inl (Option.some_inj.1 h).symm
    · rw [laterLonger, if_neg hle] at h
      exact .inr h

/-- The longest token is kept, whether it comes first or second. -/
theorem laterLonger_eq_some {best : Option Text} {u token : Text}
    (hu : u = token ∨ u.byteLength < token.byteLength)
    (hbest : ∀ b ∈ best, b = token ∨ b.byteLength < token.byteLength)
    (hmem : u = token ∨ token ∈ best) : laterLonger best u = some token := by
  cases best with
  | none =>
    obtain rfl : u = token := hmem.resolve_right (by simp)
    rfl
  | some b =>
    by_cases hle : b.byteLength ≤ u.byteLength
    · rw [laterLonger, if_pos hle]
      -- the token was not the first of the two, or it is both
      rcases hmem with rfl | hmem
      · rfl
      · obtain rfl := Option.some_inj.1 hmem
        exact congrArg some (hu.resolve_right (by omega))
    · rw [laterLonger, if_neg hle]
      rcases hmem with rfl | hmem
      · exact congrArg some ((hbest b rfl).resolve_right (by omega))
      · exact hmem

/-- **Keeping the longer one** ends with a token that all others are shorter than. -/
theorem foldl_laterLonger {token : Text} {tokens : List Text} {best : Option Text}
    (hshorter : ∀ u ∈ tokens, u = token ∨ u.byteLength < token.byteLength)
    (hbest : ∀ b ∈ best, b = token ∨ b.byteLength < token.byteLength)
    (hmem : token ∈ tokens ∨ token ∈ best) :
    tokens.foldl laterLonger best = some token := by
  induction tokens generalizing best with
  | nil => exact hmem.resolve_left List.not_mem_nil
  | cons u tokens ih =>
    obtain ⟨hu, hshorter⟩ := List.forall_mem_cons.1 hshorter
    rw [List.foldl_cons]
    apply ih hshorter
    · intro kept hkept
      rcases mem_laterLonger hkept with rfl | hkept
      · exact hu
      · exact hbest kept hkept
    · by_cases hlater : token ∈ tokens
      · exact .inl hlater
      · -- it does not come later, so it is one of the two that are compared now
        refine .inr (laterLonger_eq_some hu hbest ?_)
        rcases hmem with hmem | hmem
        · exact .inl ((List.mem_cons.1 hmem).resolve_right hlater).symm
        · exact .inr hmem

variable {α : Type} {query token : Text}

/-- **Of two heads of a query, one begins with the other.** -/
theorem startsWith_or_startsWith {u v : Text} (hu : query.startsWith u = true)
    (hv : query.startsWith v = true) : u.startsWith v = true ∨ v.startsWith u = true := by
  rw [startsWith_iff] at hu hv
  rw [startsWith_iff, startsWith_iff]
  exact (List.prefix_or_prefix_of_prefix hu hv).symm

/-- **A text that begins with another one** is longer, unless that one begins with it as well. -/
theorem byteLength_lt_of_startsWith {u v : Text} (h : u.startsWith v = true)
    (hnot : v.startsWith u = false) : v.byteLength < u.byteLength := by
  obtain ⟨rest, hrest⟩ := (startsWith_iff u v).1 h
  have hlength : u.byteLength = v.byteLength + byteLength rest := by
    rw [← byteLength_fold u, ← hrest, byteLength_append, byteLength_fold]
  cases rest with
  | nil =>
    rw [List.append_nil] at hrest
    have hequal : v.startsWith u = true := (startsWith_iff v u).2 (hrest ▸ List.prefix_rfl)
    rw [hequal] at hnot
    cases hnot
  | cons c rest =>
    have hpos := Char.utf8Size_pos c
    rw [hlength, byteLength_cons]
    omega

/-- **The token that no other token of the query goes beyond** is the longest one. -/
theorem longestToken?_eq_some {tokens : List Text} (hmem : token ∈ tokens)
    (hhead : query.startsWith token = true)
    (hlongest : ∀ u ∈ tokens, query.startsWith u = true → u.startsWith token = true → u = token) :
    longestToken? query tokens = some token := by
  apply foldl_laterLonger
  · intro u hu
    obtain ⟨hu, hquery⟩ := List.mem_filter.1 hu
    by_cases hbeyond : u.startsWith token = true
    · exact .inl (hlongest u hu hquery hbeyond)
    · rw [Bool.not_eq_true] at hbeyond
      have hbefore := (startsWith_or_startsWith hquery hhead).resolve_left (by simp [hbeyond])
      exact .inr (byteLength_lt_of_startsWith hbefore hbeyond)
  · intro b hb
    cases hb
  · exact .inl (List.mem_filter.2 ⟨hmem, hhead⟩)

/-- **What is read at the head of a query**: the meaning of the token that no other token of the
query goes beyond, in whatever case it is written, and the trimmed text after it. -/
theorem readToken?_append {table : List (Text × α)} {meaning : α} {word rest : Text}
    (hentry : table.find? (·.1 == token) = some (token, meaning))
    (hword : word.sameLetters token = true)
    (hlongest : ∀ u ∈ table.map Prod.fst,
      (word ++ rest).startsWith u = true → u.startsWith token = true → u = token) :
    readToken? table (word ++ rest) = some (meaning, rest.trim) := by
  have hlength : word.length = token.length := by
    have hfold : word.fold = token.fold := by simpa [sameLetters] using hword
    rw [← length_fold word, hfold, length_fold]
  have hhead : (word ++ rest).startsWith token = true := by
    rw [startsWith, List.take_left' hlength]
    exact hword
  have hmem : token ∈ table.map Prod.fst :=
    List.mem_map.2 ⟨(token, meaning), List.mem_of_find?_eq_some hentry, rfl⟩
  have hrest : (word ++ rest).afterHead? token = some rest.trim := by
    rw [afterHead?, if_pos hhead, List.drop_left' hlength]
  simp only [readToken?, longestToken?_eq_some hmem hhead hlongest, Option.bind_eq_bind,
    Option.bind_some, hentry, hrest, Option.pure_def]

end MonitorControl
