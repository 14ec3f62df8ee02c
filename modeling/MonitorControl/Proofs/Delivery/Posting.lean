/-
Posting a chain of calls stops at the first that fails.

What is posted is seen in a log: each entry has the call and the answer that came, so
what an entry comes to can be told from the entry alone (`Posting.outcome`). The calls
that are posted are a beginning of the chain, all but the last of them went well, and the
last one settles what comes of the chain if it failed.

One call either ends the posting or makes it go on with the rest, and `PostsInTurn` has a
rule for each. The run is a derivation by these rules (`postAll_noting`), and everything
else is read off derivations.
-/
import MonitorControl.Proofs.Delivery.Answers
import MonitorControl.Proofs.Delivery.Journal

set_option autoImplicit false

namespace MonitorControl

/-! ## Postings -/

/-- **A posting**: a call, and the answer to it or the error that came instead. -/
structure Posting where
  call : ApiCall
  answer : Except TransportError HttpResponse

/-- **What a posting comes to**: an answer still has to pass the check. -/
def Posting.outcome (posting : Posting) : Except TransportError Unit :=
  match posting.answer with
  | .error cause => .error cause
  | .ok response => response.check

/-- The same posts, with a log. -/
def logged {m : Type → Type} [Monad m] (post : ApiCall → m (Except TransportError HttpResponse))
    (call : ApiCall) : StateT (List Posting) m (Except TransportError HttpResponse) :=
  noted (Posting.mk call) (post call)

/-- **The postings of a run**, from a given state of the outside on. -/
def postings {σ : Type} (post : ApiCall → StateM σ (Except TransportError HttpResponse))
    (calls : List ApiCall) (s : σ) : List Posting :=
  (postAll (logged post) calls [] s).1.2

/-! ## How posting goes on -/

/-- **Posting calls in turn**: a call that goes well is followed by the rest, and one that does not
is the last and settles the result. -/
inductive PostsInTurn : List ApiCall → List Posting → Except TransportError Unit → Prop where
  | nil : PostsInTurn [] [] (.ok ())
  | accepted {posting : Posting} {rest : List ApiCall} {log : List Posting}
    {result : Except TransportError Unit} (hposting : posting.outcome = .ok ())
    (hrest : PostsInTurn rest log result) :
    PostsInTurn (posting.call :: rest) (posting :: log) result
  | failed {posting : Posting} {cause : TransportError} (rest : List ApiCall)
    (hposting : posting.outcome = .error cause) :
    PostsInTurn (posting.call :: rest) [posting] (.error cause)

namespace PostsInTurn

variable {calls : List ApiCall} {log : List Posting} {result : Except TransportError Unit}

theorem map_call_prefix (h : PostsInTurn calls log result) : log.map Posting.call <+: calls := by
  induction h with
  | nil => exact List.prefix_refl []
  | accepted _ _ ih => exact List.cons_prefix_cons.2 ⟨rfl, ih⟩
  | @failed posting _ rest _ => exact List.prefix_append [posting.call] rest

/-- Nothing is posted after a failure. -/
theorem outcome_of_mem_dropLast (h : PostsInTurn calls log result) :
    ∀ posting ∈ log.dropLast, posting.outcome = .ok () := by
  induction h with
  | nil => exact fun posting hmem => absurd hmem List.not_mem_nil
  | failed => exact fun posting hmem => absurd hmem List.not_mem_nil
  | @accepted first rest log result hfirst _ ih =>
    intro posting hmem
    -- a posting that nothing follows is not among those before the last
    by_cases hnil : log = []
    · rw [hnil] at hmem
      exact absurd hmem List.not_mem_nil
    rw [List.dropLast_cons_of_ne_nil hnil, List.mem_cons] at hmem
    rcases hmem with rfl | hmem
    · exact hfirst
    · exact ih posting hmem

/-- Nothing but a failure ends the posting before the last call. -/
theorem of_result_eq_ok (h : PostsInTurn calls log result) (hresult : result = .ok ()) :
    log.map Posting.call = calls ∧ ∀ posting ∈ log, posting.outcome = .ok () := by
  induction h with
  | nil => exact ⟨rfl, fun posting hmem => absurd hmem List.not_mem_nil⟩
  | failed => exact absurd hresult nofun
  | @accepted first rest log result hfirst _ ih =>
    obtain ⟨hcalls, hall⟩ := ih hresult
    exact ⟨congrArg _ hcalls, List.forall_mem_cons.2 ⟨hfirst, hall⟩⟩

/-- **An error of the chain is that of the last posting.** -/
theorem of_result_eq_error (h : PostsInTurn calls log result) {cause : TransportError}
    (hresult : result = .error cause) :
    ∃ posting, log.getLast? = some posting ∧ posting.outcome = .error cause := by
  induction h with
  | nil => exact absurd hresult nofun
  | @failed posting _ rest hposting => exact ⟨posting, rfl, hposting.trans hresult⟩
  | @accepted first rest log result _ _ ih =>
    obtain ⟨posting, hlast, houtcome⟩ := ih hresult
    refine ⟨posting, ?_, houtcome⟩
    rw [List.getLast?_cons, hlast]
    rfl

end PostsInTurn

/-! ## The run -/

theorem postAll_cons {m : Type → Type} [Monad m]
    (post : ApiCall → m (Except TransportError HttpResponse)) (call : ApiCall)
    (rest : List ApiCall) :
    postAll post (call :: rest) = post call >>= fun answer =>
      match (Posting.mk call answer).outcome with
      | .error cause => return .error cause
      | .ok () => postAll post rest := by
  rw [postAll]
  congr
  funext answer
  cases answer with
  | error cause => rfl
  | ok response => rfl

variable {σ : Type}

/-- **Posting calls with a log posts them in turn.** -/
theorem postAll_logged (post : ApiCall → StateM σ (Except TransportError HttpResponse))
    (calls : List ApiCall) (journal : List Posting) (s : σ) :
    ∃ log result, PostsInTurn calls log result ∧
      (postAll (logged post) calls journal s).1 = (result, journal ++ log) := by
  induction calls generalizing journal s with
  | nil =>
    refine ⟨[], .ok (), .nil, ?_⟩
    rw [List.append_nil]
    rfl
  | cons call rest ih =>
    rw [postAll_cons]
    simp only [logged, bind_apply, noted_apply]
    -- what came of the call decides whether the rest is posted
    cases houtcome : (Posting.mk call (post call s).1).outcome with
    | error cause => exact ⟨_, _, .failed rest houtcome, rfl⟩
    | ok =>
      -- the rest is posted from the state in which the call left the outside
      obtain ⟨log, result, hrest, hrun⟩ := ih (journal ++ [⟨call, (post call s).1⟩]) (post call s).2
      refine ⟨_, result, .accepted houtcome hrest, ?_⟩
      rw [List.append_assoc, List.singleton_append] at hrun
      exact hrun

theorem watches_postAll {m : Type → Type} [Monad m] [LawfulMonad m]
    (post : ApiCall → m (Except TransportError HttpResponse)) (calls : List ApiCall) :
    Watches (postAll (logged post) calls) (postAll post calls) := by
  induction calls with
  | nil => exact .pure _
  | cons call rest ih =>
    rw [postAll_cons, postAll_cons]
    refine .bind (.noted _ _) fun answer => ?_
    cases (Posting.mk call answer).outcome with
    | error cause => exact .pure _
    | ok => exact ih

/-! ## Main result -/

/-- **What becomes of calls that are posted**, in terms of a log and a result. -/
structure Posts (calls : List ApiCall) (log : List Posting) (result : Except TransportError Unit) :
    Prop where
  /-- The calls are posted in order, from the first on. -/
  in_order : log.map Posting.call <+: calls
  /-- Nothing is posted after a call that was not answered, or not well. -/
  stops : ∀ posting ∈ log.dropLast, posting.outcome = .ok ()
  /-- Nothing else ends the posting before the last call. -/
  goes_on : (∀ posting ∈ log, posting.outcome = .ok ()) → log.map Posting.call = calls
  /-- All is well exactly if every call was posted and went well. -/
  ok_iff : result = .ok () ↔
    log.map Posting.call = calls ∧ ∀ posting ∈ log, posting.outcome = .ok ()
  /-- An error is that of the last posting. -/
  error_iff : ∀ cause, result = .error cause ↔
    ∃ posting, log.getLast? = some posting ∧ posting.outcome = .error cause

theorem PostsInTurn.posts {calls : List ApiCall} {log : List Posting}
    {result : Except TransportError Unit} (h : PostsInTurn calls log result) :
    Posts calls log result := by
  -- the last posting cannot have gone well and have failed
  have hnot : ∀ {posting cause}, (∀ posting ∈ log, posting.outcome = .ok ()) →
      log.getLast? = some posting → posting.outcome ≠ .error cause := by
    intro posting cause hall hlast herror
    rw [hall posting (List.mem_of_getLast? hlast)] at herror
    exact absurd herror nofun
  have hok : (∀ posting ∈ log, posting.outcome = .ok ()) → result = .ok () := by
    intro hall
    cases hresult : result with
    | ok => rfl
    | error cause =>
      obtain ⟨posting, hlast, herror⟩ := h.of_result_eq_error hresult
      exact absurd herror (hnot hall hlast)
  exact {
    in_order := h.map_call_prefix
    stops := h.outcome_of_mem_dropLast
    goes_on := fun hall => (h.of_result_eq_ok (hok hall)).1
    ok_iff := ⟨h.of_result_eq_ok, fun hall => hok hall.2⟩
    error_iff := by
      intro cause
      refine ⟨h.of_result_eq_error, ?_⟩
      rintro ⟨posting, hlast, herror⟩
      cases hresult : result with
      | ok => exact absurd herror (hnot (h.of_result_eq_ok hresult).2 hlast)
      | error other =>
        obtain ⟨last, hlast', herror'⟩ := h.of_result_eq_error hresult
        rw [hlast] at hlast'
        cases hlast'
        exact herror'.symm.trans herror }

/-- **Posting the calls of a chain** stops at the first that fails, whatever comes back and whatever
state the outside is in; the postings are those of the chain whose calls nobody logs; and whether an
answer is a failure is decided as it should be. -/
theorem postAll_posts (chain : ApiChain)
    (post : ApiCall → StateM σ (Except TransportError HttpResponse)) (s : σ) :
    Posts chain.toList (postings post chain.toList s) (postAll post chain.toList s).1 ∧
      postAll (logged post) chain.toList [] s =
        (((postAll post chain.toList s).1, postings post chain.toList s),
          (postAll post chain.toList s).2) ∧
      ∀ response : HttpResponse, response.Judged response.check := by
  have hwatched := (watches_postAll post chain.toList).run_eq [] s
  refine ⟨?_, hwatched, HttpResponse.check_judged⟩
  obtain ⟨log, result, hrun, heq⟩ := postAll_logged post chain.toList [] s
  rw [List.nil_append] at heq
  have hlog : postings post chain.toList s = log := congrArg Prod.snd heq
  have hresult : (postAll post chain.toList s).1 = result := by
    rw [hwatched] at heq
    exact congrArg Prod.fst heq
  rw [hlog, hresult]
  exact hrun.posts

end MonitorControl
