/-
Which answers of a REST interface are accepted.

An answer has a status and a body. A bad status is refused with its code, whatever the
body says; a good one is enough only if nothing but white space comes with it. Any other
body must be JSON, and it must not say that something went wrong: at its top, or in the
code of its last result (`Json.Clean`).

A code may be written as an integer or as a float. Both are compared as floats, and for
an integer that is the same as comparing integers, also where it has too many digits for
a float (`badCode_iff`).
-/
import MonitorControl.Delivery.RestInterface
import MonitorControl.Proofs.Number.WholeFloat
import MonitorControl.Proofs.Text.Blank
import MonitorControl.Proofs.Text.CaseFolding

set_option autoImplicit false

namespace MonitorControl

open Text

/-! ## What an answer may say -/

/-- **A code that reports a failure**: a number that is less than 200 or not less than 300. -/
inductive BadCode : Json → Prop where
  | integer {n : Int} (hn : n < 200 ∨ 300 ≤ n) : BadCode (.integer n)
  | float {x : Float} (hx : ¬ (200.0 ≤ x ∧ x < 300.0)) : BadCode (.float x)

/-- **An answer that reports no failure**: it has no `error` entry, and if the last of its results
has a code, that is not a bad one. -/
structure Json.Clean (answer : Json) : Prop where
  no_error : answer.get? "error" = none
  last_code : ∀ {results : List Json} {result code : Json},
    answer.get? "results" = some (.array results) → results.getLast? = some result →
      result.get? "code" = some code → ¬ BadCode code

namespace HttpResponse

/-- The status of success. -/
def HasGoodStatus (response : HttpResponse) : Prop := 200 ≤ response.code ∧ response.code ≤ 299

/-- Nothing but white space comes with the status. -/
def IsBlank (response : HttpResponse) : Prop := ∀ c ∈ response.body, isBlank c = true

/-- **The answers to be accepted**: with a good status, those that are blank and those that report
no failure. -/
inductive Accepted (response : HttpResponse) : Prop where
  | blank (hstatus : response.HasGoodStatus) (hblank : response.IsBlank)
  | answer (hstatus : response.HasGoodStatus) {answer : Json}
    (hread : Json.read? response.body = some answer) (hclean : answer.Clean)

theorem isGoodStatus_iff {response : HttpResponse} :
    isGoodStatus response.code = true ↔ response.HasGoodStatus := by
  rw [isGoodStatus, Bool.and_eq_true, decide_eq_true_iff, decide_eq_true_iff, HasGoodStatus]
  omega

theorem isEmpty_trim_iff {response : HttpResponse} :
    (trim response.body).isEmpty = true ↔ response.IsBlank := by
  rw [List.isEmpty_iff, trim_eq_nil_iff, IsBlank]

end HttpResponse

/-! ## Codes -/

/-- Numbers, whole or not, are compared as floats. -/
theorem badCode_iff {code : Json} :
    BadCode code ↔ ∃ x ∈ number? code, ¬ (200.0 ≤ x ∧ x < 300.0) := by
  cases code with
  | integer n =>
    have hlow : (200.0 : Float) ≤ Float.ofInt n ↔ 200 ≤ n :=
      ofNat_le_ofInt_iff (k := 200) (by decide) (by decide) n
    have hhigh : Float.ofInt n < 300.0 ↔ n < 300 :=
      ofInt_lt_ofNat_iff (k := 300) (by decide) (by decide) n
    constructor
    · rintro ⟨hn⟩
      refine ⟨Float.ofInt n, rfl, ?_⟩
      rw [hlow, hhigh]
      omega
    · rintro ⟨_, ⟨⟩, hn⟩
      rw [hlow, hhigh] at hn
      exact .integer (by omega)
  | float x =>
    constructor
    · rintro ⟨⟩
      exact ⟨x, rfl, ‹_›⟩
    · rintro ⟨_, ⟨⟩, hx⟩
      exact .float hx
  | _ => exact iff_of_false nofun nofun

theorem Json.clean_iff {answer : Json} :
    answer.Clean ↔ answer.get? "error" = none ∧
      ∀ result ∈ lastResult? answer, ∀ code ∈ result.get? "code", ¬ BadCode code := by
  have hlast : ∀ result, lastResult? answer = some result ↔
      ∃ results, answer.get? "results" = some (.array results) ∧
        results.getLast? = some result := by
    intro result
    unfold lastResult?
    split
    · next results hresults =>
      constructor
      · exact fun hgetLast => ⟨results, hresults, hgetLast⟩
      · rintro ⟨others, hothers, hgetLast⟩
        rw [hresults] at hothers
        cases hothers
        exact hgetLast
    · next hnone => exact iff_of_false nofun fun ⟨results, hresults, _⟩ => hnone results hresults
  constructor
  · rintro ⟨herror, hcode⟩
    refine ⟨herror, fun result hresult code hat => ?_⟩
    obtain ⟨results, hresults, hgetLast⟩ := (hlast result).1 hresult
    exact hcode hresults hgetLast hat
  · rintro ⟨herror, hcode⟩
    exact ⟨herror, fun {results result code} hresults hgetLast hat =>
      hcode result ((hlast result).2 ⟨results, hresults, hgetLast⟩) code hat⟩

/-! ## Blank texts are no JSON -/

/-- No token begins with white space that JSON does not know. -/
theorem scanToken?_of_blank {c : Char} (hblank : isBlank c = true) (rest : Text) :
    scanToken? (c :: rest) = none := by
  have hdigit := (isDigit_of_isBlank hblank).1
  have hwhole : scanWhole? (c :: rest) = none := by
    unfold scanWhole?
    split
    · next heq =>
      cases heq
      exact absurd hdigit (by decide)
    · next heq =>
      cases heq
      rw [hdigit]
      rfl
    · rfl
  unfold scanToken?
  split
  case h_12 => rw [scanNumber?, hwhole]; rfl
  all_goals
    next heq =>
      cases heq
      exact absurd hblank (by decide)

theorem tokens?_of_blank {t : Text} (hblank : ∀ c ∈ t, isBlank c = true) :
    tokens? t = some [] ∨ tokens? t = none := by
  fun_cases tokens? t with
  | case1 => exact .inl rfl
  | case2 => exact .inr rfl
  | case3 c rest hdrop token after hscan =>
    have hc : isBlank c = true :=
      hblank c ((List.dropWhile_suffix isJsonBlank).subset (hdrop ▸ List.mem_cons_self))
    rw [scanToken?_of_blank hc] at hscan
    cases hscan

theorem read?_of_blank {t : Text} (hblank : ∀ c ∈ t, isBlank c = true) : Json.read? t = none := by
  rcases tokens?_of_blank hblank with htokens | htokens <;>
    rw [Json.read?, JsonSyntax.read?, htokens] <;> rfl

/-! ## Main result -/

namespace HttpResponse

variable {response : HttpResponse}

theorem check_of_bad_status (h : ¬ response.HasGoodStatus) :
    response.check = .error (.refused response.code (refusalText response.body)) := by
  rw [← isGoodStatus_iff, Bool.not_eq_true] at h
  rw [check, h]
  rfl

theorem check_of_blank (hstatus : response.HasGoodStatus) (hblank : response.IsBlank) :
    response.check = .ok () := by
  rw [check, isGoodStatus_iff.2 hstatus, isEmpty_trim_iff.2 hblank]
  rfl

theorem check_of_read?_eq_none (hstatus : response.HasGoodStatus) (hblank : ¬ response.IsBlank)
    (hread : Json.read? response.body = none) : response.check = .error .unreadable := by
  rw [← isEmpty_trim_iff, Bool.not_eq_true] at hblank
  rw [check, isGoodStatus_iff.2 hstatus, hblank, hread]
  rfl

/-- **What the check asks of a body.** -/
theorem check_eq_ok_iff_clean {answer : Json} (hstatus : response.HasGoodStatus)
    (hread : Json.read? response.body = some answer) : response.check = .ok () ↔ answer.Clean := by
  have hblank : (trim response.body).isEmpty = false := by
    rw [← Bool.not_eq_true, isEmpty_trim_iff]
    intro hblank
    rw [read?_of_blank hblank] at hread
    exact absurd hread nofun
  rw [Json.clean_iff, check, isGoodStatus_iff.2 hstatus, hblank, hread]
  simp only [Bool.not_true, Bool.false_eq_true, if_false]
  cases herror : answer.get? "error" with
  | some error => exact iff_of_false nofun nofun
  | none =>
    simp only [true_and]
    cases hresult : lastResult? answer with
    | none => exact iff_of_true rfl nofun
    | some result =>
      simp only [Option.mem_some_iff, forall_eq']
      cases hcode : result.get? "code" with
      | none => exact iff_of_true rfl nofun
      | some code =>
        simp only [Option.mem_some_iff, forall_eq', Option.bind_some, badCode_iff]
        cases hnumber : number? code with
        | none => exact iff_of_true rfl nofun
        | some x =>
          simp only [Option.mem_some_iff, exists_eq_left', not_not]
          split
          · next hgood => exact iff_of_true rfl (by simpa using hgood)
          · next hbad => exact iff_of_false nofun (by simpa using hbad)

/-- **Checking accepts exactly the answers to be accepted.** -/
theorem check_eq_ok_iff : response.check = .ok () ↔ response.Accepted := by
  constructor
  · intro hok
    by_cases hstatus : response.HasGoodStatus
    · by_cases hblank : response.IsBlank
      · exact .blank hstatus hblank
      · cases hread : Json.read? response.body with
        | none =>
          rw [check_of_read?_eq_none hstatus hblank hread] at hok
          exact absurd hok nofun
        | some answer => exact .answer hstatus hread ((check_eq_ok_iff_clean hstatus hread).1 hok)
    · rw [check_of_bad_status hstatus] at hok
      exact absurd hok nofun
  · rintro (⟨hstatus, hblank⟩ | ⟨hstatus, hread, hclean⟩)
    · exact check_of_blank hstatus hblank
    · exact (check_eq_ok_iff_clean hstatus hread).2 hclean

/-- Where there is JSON in an answer that is accepted, it reports no failure. -/
theorem Accepted.clean (h : response.Accepted) {answer : Json}
    (hread : Json.read? response.body = some answer) : answer.Clean := by
  rcases h with ⟨-, hblank⟩ | ⟨-, hread', hclean⟩
  · rw [read?_of_blank hblank] at hread
    exact absurd hread nofun
  · rw [hread] at hread'
    cases hread'
    exact hclean

/-- **What the check of an answer is to say.** -/
structure Judged (response : HttpResponse) (verdict : Except TransportError Unit) : Prop where
  ok_iff : verdict = .ok () ↔ response.Accepted
  /-- A bad status is refused with its code, whatever the body is. -/
  bad_status : ¬ response.HasGoodStatus → ∃ status, verdict = .error (.refused response.code status)
  blank : response.HasGoodStatus → response.IsBlank → verdict = .ok ()
  no_json : response.HasGoodStatus → ¬ response.IsBlank → Json.read? response.body = none →
    verdict = .error .unreadable
  error_entry : ∀ {answer error : Json}, Json.read? response.body = some answer →
    answer.get? "error" = some error → verdict ≠ .ok ()
  /-- Of several results the last one decides. -/
  bad_code : ∀ {answer : Json} {results : List Json} {result code : Json},
    Json.read? response.body = some answer → answer.get? "results" = some (.array results) →
      results.getLast? = some result → result.get? "code" = some code → BadCode code →
        verdict ≠ .ok ()

theorem check_judged (response : HttpResponse) : response.Judged response.check where
  ok_iff := check_eq_ok_iff
  bad_status := fun hstatus => ⟨_, check_of_bad_status hstatus⟩
  blank := check_of_blank
  no_json := check_of_read?_eq_none
  error_entry := by
    intro answer error hread herror hok
    have hclean := (check_eq_ok_iff.1 hok).clean hread
    rw [hclean.no_error] at herror
    exact absurd herror nofun
  bad_code := by
    intro answer results result code hread hresults hresult hcode hbad hok
    have hclean := (check_eq_ok_iff.1 hok).clean hread
    exact hclean.last_code hresults hresult hcode hbad

end HttpResponse

end MonitorControl
