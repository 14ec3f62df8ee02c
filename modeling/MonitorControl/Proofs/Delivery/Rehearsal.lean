/-
The dry run shows what a dispatch does.

A dry run and a dispatch are separate loops over the same objects. The one keeps the line
of each object or the error in its place; the other hands the command of each object to a
command file, which renders it again, and goes on with the next. What the one shows of an
object and what the other does for it belong together in one of three ways (`Handled`,
`handled_dispatchOne`). One of them, a line that is shown and could not be written, is
ruled out if all writes of the run have succeeded, because no failure is taken back later
(`failures_prefix_dispatch`).

A dispatch of one more object is the dispatch of those before it and one step
(`dispatch_take_succ`), so the object's own part of the file and of the report is what lies
between two dispatches (`Rehearses`).
-/
import MonitorControl.Console.Session
import MonitorControl.Proofs.Delivery.Accounting
import MonitorControl.Proofs.Delivery.CommandFile

set_option autoImplicit false

namespace MonitorControl

/-! ## What is shown, and what is done -/

/-- **The error of a command** behind a failure: the command could not be built or has no line. -/
def DispatchError.commandError? : DispatchError → Option CommandError
  | .build cause | .send (.unrendered cause) => some cause
  | .send _ => none

/-- The failure is about the command file and not about the command. -/
def DispatchError.isUnwritten : DispatchError → Bool
  | .send (.unwritable _) => true
  | _ => false

/-- What the dry run shows of one object. -/
def rehearsed (build : MonitoredObject → Except CommandError Command) (object : MonitoredObject) :
    Except CommandError Text :=
  build object >>= fun command => command.render object.target

/-- What is written at a time for an object of which the dry run shows `result`. -/
def writtenText (time : Int) : Except CommandError Text → Text
  | .ok line => fileLine line time ++ ['\n']
  | .error _ => []

/-- What the dry run shows of a failure: the target, and the error of the command. -/
def shownFailure? : Target × Except CommandError Text → Option (Target × Option CommandError)
  | (_, .ok _) => none
  | (target, .error cause) => some (target, some cause)

/-- What a report says of a failure: the target, and the error of the command, if it is one. -/
def DispatchFailure.reported (failure : DispatchFailure) : Target × Option CommandError :=
  (failure.object.target, failure.error.commandError?)

theorem renderEach_eq_map (build : MonitoredObject → Except CommandError Command)
    (objects : List MonitoredObject) :
    renderEach build objects = objects.map fun object => (object.target, rehearsed build object) :=
  rfl

/-- **What became of an object** of which the dry run shows `result`, if the file held `held` and
holds `holds` now: its line was written, its line could not be written, or the command has no line
and the failure says why. -/
inductive Handled (time : Int) (held holds : Text) :
    Except CommandError Text → Except DispatchError Unit → Prop
  | written (line : Text) (hholds : holds = held ++ (fileLine line time ++ ['\n'])) :
    Handled time held holds (.ok line) (.ok ())
  | unwritten (line reason : Text) (hholds : holds = held) :
    Handled time held holds (.ok line) (.error (.send (.unwritable reason)))
  | refused (cause : CommandError) (error : DispatchError)
    (herror : error.commandError? = some cause) (hholds : holds = held) :
    Handled time held holds (.error cause) (.error error)

/-- **The part of a dispatch that is an object's own** agrees with what the dry run shows of the
object. `before` and `after` are the report and the state of the outside before and after its
turn. Framing gives some lines the same text, so what is said of a text is that it is the framed
line that was shown. -/
structure Rehearses {σ : Type} (content : σ → Text) (object : MonitoredObject) (time : Int)
    (result : Except CommandError Text) (before after : DispatchReport × σ) : Prop where
  /-- A line is shown exactly if it is written. -/
  writes_iff : ∀ t, content after.2 = content before.2 ++ (t ++ ['\n']) ↔
    ∃ line, result = .ok line ∧ t = fileLine line time
  /-- An error is shown exactly if there is a failure of the object with that error. -/
  fails_iff : ∀ cause, (∃ error, error.commandError? = some cause ∧
    after.1.failures = before.1.failures ++ [⟨object, error⟩]) ↔ result = .error cause
  /-- The object is a success exactly if a line is shown. -/
  succeeds_iff : after.1.succeeded = before.1.succeeded + 1 ↔ ∃ line, result = .ok line
  /-- Nothing is written for an object of which an error is shown. -/
  unchanged : ∀ cause, result = .error cause → content after.2 = content before.2
  /-- No failure is added for an object of which a line is shown. -/
  unfailing : ∀ line, result = .ok line → after.1.failures = before.1.failures

namespace Rehearses

variable {σ : Type} {content : σ → Text} {object : MonitoredObject} {time : Int}
  {report : DispatchReport} {s s' : σ}

/-- The part of an object whose line was written. -/
theorem of_written {line : Text}
    (hcontent : content s' = content s ++ (fileLine line time ++ ['\n'])) :
    Rehearses content object time (.ok line) (report, s) (report.add object (.ok ()), s') where
  writes_iff t := by
    show content s' = content s ++ (t ++ ['\n']) ↔ _
    rw [hcontent, List.append_cancel_left_eq, List.append_cancel_right_eq]
    constructor
    · intro ht
      exact ⟨line, rfl, ht.symm⟩
    · rintro ⟨other, hother, ht⟩
      rw [ht, Except.ok.inj hother]
  fails_iff cause := by
    constructor
    · rintro ⟨error, -, hfailures⟩
      exact absurd (List.self_eq_append_right.1 hfailures) (List.cons_ne_nil _ _)
    · intro hresult
      cases hresult
  succeeds_iff := ⟨fun _ => ⟨line, rfl⟩, fun _ => rfl⟩
  unchanged cause hresult := by cases hresult
  unfailing _ _ := rfl

/-- The part of an object whose command could not be built or has no line. -/
theorem of_refused {cause : CommandError} {error : DispatchError}
    (herror : error.commandError? = some cause) (hcontent : content s' = content s) :
    Rehearses content object time (.error cause) (report, s)
      (report.add object (.error error), s') where
  writes_iff t := by
    constructor
    · -- a line break at least would have been written
      intro hgrown
      have hempty : t ++ ['\n'] = [] := List.self_eq_append_right.1 (hcontent.symm.trans hgrown)
      exact absurd hempty (List.append_ne_nil_of_right_ne_nil t (List.cons_ne_nil _ _))
    · rintro ⟨line, hresult, -⟩
      cases hresult
  fails_iff other := by
    show (∃ error', _ ∧ report.failures ++ [⟨object, error⟩] = report.failures ++ _) ↔ _
    constructor
    · -- only one failure was added, so it is the one that was asked for
      rintro ⟨error', hother, hfailures⟩
      rw [List.append_cancel_left_eq] at hfailures
      have hsame : error = error' :=
        congrArg DispatchFailure.error (List.head_eq_of_cons_eq hfailures)
      rw [← hsame, herror] at hother
      rw [Option.some.inj hother]
    · intro hresult
      exact ⟨error, herror.trans (congrArg some (Except.error.inj hresult)), rfl⟩
  succeeds_iff := by
    constructor
    · intro hsucceeded
      exact absurd hsucceeded (Nat.succ_ne_self _).symm
    · rintro ⟨line, hresult⟩
      cases hresult
  unchanged _ _ := hcontent
  unfailing line hresult := by cases hresult

end Rehearses

namespace Handled

variable {time : Int} {held holds : Text} {result : Except CommandError Text}
  {outcome : Except DispatchError Unit}

/-- **What is written is what was shown**, unless the file could not be written. -/
theorem holds_eq (h : Handled time held holds result outcome)
    (hwritten : ∀ error, outcome = .error error → error.isUnwritten = false) :
    holds = held ++ writtenText time result := by
  cases h with
  | written line hholds => exact hholds
  | unwritten line reason hholds => cases hwritten _ rfl
  | refused cause error herror hholds => exact hholds.trans (List.append_nil held).symm

/-- **What is reported is what was shown**, unless the file could not be written. -/
theorem reported_eq (h : Handled time held holds result outcome)
    (hwritten : ∀ error, outcome = .error error → error.isUnwritten = false)
    (report : DispatchReport) (object : MonitoredObject) :
    (report.add object outcome).failures.map DispatchFailure.reported =
      report.failures.map DispatchFailure.reported ++
        (shownFailure? (object.target, result)).toList := by
  cases h with
  | written line hholds => exact (List.append_nil _).symm
  | unwritten line reason hholds => cases hwritten _ rfl
  | refused cause error herror hholds =>
    show (report.failures ++ [(⟨object, error⟩ : DispatchFailure)]).map _ =
      _ ++ [(object.target, some cause)]
    rw [List.map_append, List.map_singleton, DispatchFailure.reported, herror]

/-- **An object's part of a dispatch**, from what became of the object. -/
theorem rehearses {σ : Type} {content : σ → Text} {object : MonitoredObject}
    {report : DispatchReport} {s s' : σ}
    (h : Handled time (content s) (content s') result outcome)
    (hwritten : ∀ error, outcome = .error error → error.isUnwritten = false) :
    Rehearses content object time result (report, s) (report.add object outcome, s') := by
  cases h with
  | written line hcontent => exact .of_written hcontent
  | unwritten line reason hcontent => cases hwritten _ rfl
  | refused cause error herror hcontent => exact .of_refused herror hcontent

end Handled

/-! ## One more object -/

section

variable {σ : Type} (transport : Transport (StateM σ))

/-- An object whose command cannot be built is a failure at once. -/
theorem dispatchOne_of_unbuilt {build : MonitoredObject → Except CommandError Command}
    {object : MonitoredObject} {cause : CommandError} (hbuild : build object = .error cause)
    (s : σ) :
    dispatchOne transport (fun object => pure (build object)) object s =
      (.error (.build cause), s) := by
  rw [dispatchOne, hbuild, pure_bind]
  rfl

/-- A command that could be built is sent, and what comes of that is what comes of the object. -/
theorem dispatchOne_of_built {build : MonitoredObject → Except CommandError Command}
    {object : MonitoredObject} {command : Command} (hbuild : build object = .ok command) (s : σ) :
    dispatchOne transport (fun object => pure (build object)) object s =
      let sent := transport.send command object.target object.monitor s
      (sent.1.mapError .send, sent.2) := by
  rw [dispatchOne, hbuild, pure_bind]
  simp only [bind_state_apply]
  cases (transport.send command object.target object.monitor s).1 <;> rfl

variable (build : MonitoredObject → StateM σ (Except CommandError Command))

/-- **A dispatch of one more object** is the dispatch of those before it and one step. -/
theorem dispatch_take_succ {objects : List MonitoredObject} {i : Nat} {object : MonitoredObject}
    (hobject : objects[i]? = some object) (s : σ) :
    dispatch transport build (objects.take (i + 1)) s =
      let before := dispatch transport build (objects.take i) s
      let one := dispatchOne transport build object before.2
      (before.1.add object one.1, one.2) := by
  rw [dispatch_eq, dispatch_eq, List.take_add_one, hobject, List.foldlM_append]
  rfl

/-- No step takes a failure back. -/
theorem failures_prefix_foldlM (objects : List MonitoredObject) (report : DispatchReport) (s : σ) :
    report.failures <+:
      (objects.foldlM (dispatchStep transport build) report s).1.failures := by
  induction objects generalizing report s with
  | nil => exact List.prefix_rfl
  | cons object objects ih =>
    have hadd : ∀ outcome, report.failures <+: (report.add object outcome).failures := by
      intro outcome
      cases outcome with
      | ok done => exact List.prefix_rfl
      | error error => exact List.prefix_append _ _
    exact (hadd _).trans (ih _ _)

/-- **The failures of some first objects** are the first failures of all. -/
theorem failures_prefix_dispatch (objects : List MonitoredObject) (i : Nat) (s : σ) :
    (dispatch transport build (objects.take i) s).1.failures <+:
      (dispatch transport build objects s).1.failures := by
  -- the dispatch of all objects goes on from the report of the first ones
  have hall : dispatch transport build objects s =
      (objects.drop i).foldlM (dispatchStep transport build)
        (dispatch transport build (objects.take i) s).1
        (dispatch transport build (objects.take i) s).2 := by
    conv_lhs => rw [← List.take_append_drop i objects, dispatch_eq, List.foldlM_append]
    rfl
  rw [hall]
  exact failures_prefix_foldlM transport build _ _ _

end

/-! ## Through a command file -/

namespace CommandFile

variable {σ : Type} {file : CommandFile} {outlets : Outlets (StateM σ)} {content : σ → Text}
  {build : MonitoredObject → Except CommandError Command}

/-- **What a dispatch does for one object is what the dry run shows of it**, unless the file cannot
be written. The cases are those of both programs: building fails, rendering fails, or there is a
line to write. -/
theorem handled_dispatchOne (h : outlets.AppendsWhole file.path content) (object : MonitoredObject)
    (s : σ) :
    let one := dispatchOne (file.transport outlets) (fun object => pure (build object)) object s
    Handled (outlets.now s).1 (content s) (content one.2) (rehearsed build object) one.1 := by
  cases hbuild : build object with
  | error cause =>
    rw [rehearsed, hbuild, dispatchOne_of_unbuilt _ hbuild]
    exact .refused cause _ rfl rfl
  | ok command =>
    rw [rehearsed, hbuild, dispatchOne_of_built _ hbuild]
    show Handled _ _ (content (file.send outlets command object.target s).2)
      (command.render object.target)
      ((file.send outlets command object.target s).1.mapError DispatchError.send)
    cases hrender : command.render object.target with
    | error cause =>
      rw [send_of_unrendered hrender]
      exact .refused cause _ rfl rfl
    | ok line =>
      rcases send_writes h hrender s with ⟨hsent, hgrown⟩ | ⟨reason, hsent, hsame⟩
      · rw [hsent]
        exact .written line hgrown
      · rw [hsent]
        exact .unwritten line reason hsame

/-! ## The run -/

/-- **A dispatch of the first objects** through a command file: the report and the state of the
outside after `i` objects have had their turn. -/
def dispatchUpTo (file : CommandFile) (outlets : Outlets (StateM σ))
    (build : MonitoredObject → Except CommandError Command) (objects : List MonitoredObject) (s : σ)
    (i : Nat) : DispatchReport × σ :=
  dispatch (file.transport outlets) (fun object => pure (build object)) (objects.take i) s

/-- Every write to the command file has succeeded: no failure of the dispatch is about the file. -/
def WritesAll (file : CommandFile) (outlets : Outlets (StateM σ))
    (build : MonitoredObject → Except CommandError Command) (objects : List MonitoredObject)
    (s : σ) : Prop :=
  ∀ failure ∈
    (dispatch (file.transport outlets) (fun object => pure (build object)) objects s).1.failures,
    failure.error.isUnwritten = false

variable {objects : List MonitoredObject} {s : σ} {i : Nat} {object : MonitoredObject}

/-- **The turn of an object** in a dispatch that writes all it has to. Had the object failed for the
file, that failure would still be in the report at the end. -/
theorem handled_dispatchUpTo (h : outlets.AppendsWhole file.path content)
    (hwrites : file.WritesAll outlets build objects s) (hobject : objects[i]? = some object) :
    let before := file.dispatchUpTo outlets build objects s i
    let after := file.dispatchUpTo outlets build objects s (i + 1)
    ∃ outcome, after.1 = before.1.add object outcome ∧
      Handled (outlets.now before.2).1 (content before.2) (content after.2)
        (rehearsed build object) outcome ∧
      ∀ error, outcome = .error error → error.isUnwritten = false := by
  intro before after
  let one := dispatchOne (file.transport outlets) (fun object => pure (build object)) object
    before.2
  have hafter : after = (before.1.add object one.1, one.2) := dispatch_take_succ _ _ hobject s
  refine ⟨one.1, congrArg Prod.fst hafter, ?_, ?_⟩
  · rw [hafter]
    exact handled_dispatchOne h object before.2
  · -- this failure is in the report at the end as well, where none is about the file
    intro error herror
    have hmem : ⟨object, error⟩ ∈ after.1.failures := by
      rw [hafter, herror]
      exact List.mem_append_right _ (List.mem_singleton_self _)
    exact hwrites _ ((failures_prefix_dispatch _ _ objects (i + 1) s).subset hmem)

/-- **What the first objects leave** in the file and in the report is what the dry run shows of
them. The induction is on how many they are; each finds the file as those before it left it. -/
theorem dispatchUpTo_eq (h : outlets.AppendsWhole file.path content)
    (hwrites : file.WritesAll outlets build objects s) (hi : i ≤ objects.length) :
    let shown := renderEach build (objects.take i)
    let upTo := file.dispatchUpTo outlets build objects s
    content (upTo i).2 = content s ++ shown.zipIdx.flatMap (fun (entry, j) =>
      writtenText (outlets.now (upTo j).2).1 entry.2) ∧
    (upTo i).1.failures.map DispatchFailure.reported = shown.filterMap shownFailure? := by
  intro shown upTo
  induction i with
  | zero => exact ⟨(List.append_nil _).symm, rfl⟩
  | succ i ih =>
    obtain ⟨hcontent, hreported⟩ := ih (Nat.le_of_succ_le hi)
    have hobject : objects[i]? = some objects[i] := List.getElem?_eq_getElem hi
    obtain ⟨outcome, hreport, hhandled, hwritten⟩ := handled_dispatchUpTo h hwrites hobject
    -- the dry run of one more object shows one more result, and its place is `i`
    have hshown : shown = renderEach build (objects.take i) ++
        [(objects[i].target, rehearsed build objects[i])] := by
      show renderEach build (objects.take (i + 1)) = _
      rw [renderEach_eq_map, List.take_add_one, hobject, List.map_append]
      rfl
    have hcount : (renderEach build (objects.take i)).length = i := by
      rw [renderEach_eq_map, List.length_map, List.length_take_of_le (Nat.le_of_succ_le hi)]
    constructor
    · rw [hshown, List.zipIdx_append, List.flatMap_append, ← List.append_assoc, ← hcontent,
        Nat.zero_add, hcount, List.zipIdx_singleton, List.flatMap_singleton]
      exact hhandled.holds_eq hwritten
    · show (file.dispatchUpTo outlets build objects s (i + 1)).1.failures.map _ = _
      rw [hreport, hhandled.reported_eq hwritten, hreported, hshown, List.filterMap_append]
      rfl

/-! ## Main result -/

/-- **The dry run shows exactly what sending would do**, for commands that depend on their objects
only and a run in which every write to the command file succeeds. There is one result for each
object, in order. Between the turn of an object and the next, the dispatch writes a text exactly if
the result is a line and the text is that line with the time of the turn, and reports a failure of
the object exactly if the result is the error in it. What the file holds in the end is what it held
and the lines of the dry run, in order, and the failures are its errors, in order. -/
theorem dispatch_rehearsed (h : outlets.AppendsWhole file.path content)
    (build : MonitoredObject → Except CommandError Command) (objects : List MonitoredObject)
    (s : σ) (hwrites : file.WritesAll outlets build objects s) :
    let shown := renderEach build objects
    let run := dispatch (file.transport outlets) (fun object => pure (build object)) objects s
    let upTo := file.dispatchUpTo outlets build objects s
    shown.map Prod.fst = objects.map MonitoredObject.target ∧
    (upTo 0 = ({}, s) ∧ upTo objects.length = run) ∧
    (∀ i object, objects[i]? = some object →
      ∃ result, shown[i]? = some (object.target, result) ∧
        Rehearses content object (outlets.now (upTo i).2).1 result (upTo i) (upTo (i + 1))) ∧
    content run.2 = content s ++ shown.zipIdx.flatMap (fun (entry, i) =>
      writtenText (outlets.now (upTo i).2).1 entry.2) ∧
    run.1.failures.map DispatchFailure.reported = shown.filterMap shownFailure? := by
  intro shown run upTo
  have hrun : upTo objects.length = run := by
    simp only [upTo, dispatchUpTo, List.take_length]
    rfl
  refine ⟨?_, ⟨rfl, hrun⟩, ?_, ?_⟩
  · show (renderEach build objects).map Prod.fst = _
    rw [renderEach_eq_map, List.map_map]
    rfl
  · intro i object hobject
    refine ⟨rehearsed build object, ?_, ?_⟩
    · show (renderEach build objects)[i]? = _
      rw [renderEach_eq_map, List.getElem?_map, hobject]
      rfl
    · obtain ⟨outcome, hreport, hhandled, hwritten⟩ := handled_dispatchUpTo h hwrites hobject
      have hpart : Rehearses content object (outlets.now (upTo i).2).1 (rehearsed build object)
          (upTo i) ((upTo i).1.add object outcome, (upTo (i + 1)).2) := hhandled.rehearses hwritten
      rw [← hreport] at hpart
      exact hpart
  · have hall := dispatchUpTo_eq h hwrites (Nat.le_refl objects.length)
    simp only [List.take_length] at hall
    rw [← hrun]
    exact hall

/-- A comment on two hosts, with a restart that is meant for a host and a check before 1970 between
them. -/
theorem dispatch_rehearsed_comment :
    let file : CommandFile := { name := "local", path := "cmd" }
    let site : Site := { clock := 10, files := [("cmd", some "[9] RESTART_PROCESS\n".toList)] }
    let build : MonitoredObject → Except CommandError Command := fun object =>
      if object.isService then (CheckSchedule.at? (-1)).map .scheduleCheck
      else if object.monitor.isSome then .ok .restart
      else .ok (.addComment ⟨"me", "a\nb", false⟩)
    let objects : List MonitoredObject :=
      [{ host := "web" }, { host := "db", monitor := some "m" },
        { host := "db", service := some "disk" }, { host := "mail" }]
    let shown := renderEach build objects
    let run :=
      dispatch (file.transport Site.outlets) (fun object => pure (build object)) objects site
    Site.outlets.AppendsWhole file.path (Site.contentOf file.path) ∧
      file.WritesAll Site.outlets build objects site ∧
      run.2.contentOf file.path =
        "[9] RESTART_PROCESS\n".toList ++
          "[10] ADD_HOST_COMMENT;web;0;me;a\\nb\n[10] ADD_HOST_COMMENT;mail;0;me;a\\nb\n".toList ∧
      run.1.failures.map DispatchFailure.reported = shown.filterMap shownFailure? ∧
      run.1.failures.map DispatchFailure.error =
        [.send (.unrendered (.notImplemented "RestartProcessCommand" "host")),
          .build (.invalidArgument "ScheduleCheckCommand" (.negative "check time" (-1)))] := by
  intro file site build objects shown run
  have hwhole : Site.outlets.AppendsWhole file.path (Site.contentOf file.path) :=
    Site.appendsWhole (by decide)
  have hwrites : file.WritesAll Site.outlets build objects site := by
    unfold WritesAll
    decide
  exact ⟨hwhole, hwrites, by decide,
    (dispatch_rehearsed hwhole build objects site hwrites).2.2.2.2, by decide⟩

end CommandFile

end MonitorControl
