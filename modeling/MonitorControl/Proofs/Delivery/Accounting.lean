/-
A dispatch accounts for every object.

For each object a command is built and, if that succeeds, sent; what came of it is
the object's handling. The calls of a dispatch are the calls of the handlings one
after the other, and its report is the sum of what they add, so a failure anywhere
changes neither the calls for the objects behind it nor how these are counted.

Building and sending may both change the state of the outside, and what becomes of
an object may depend on all that was done before. So handlings are not given ahead:
the run makes them, object by object (`dispatchOne_noting` is one step of it,
`foldlM_noting` the run), and the theorem says that some list of handlings explains
both the calls and the report.
-/
import MonitorControl.Delivery.Dispatch
import MonitorControl.Proofs.Delivery.Journal

set_option autoImplicit false

namespace MonitorControl

/-! ## Calls and handlings -/

/-- **A call of a dispatch**, with what came of it. -/
inductive DispatchCall where
  | build (object : MonitoredObject) (outcome : Except CommandError Command)
  | send (command : Command) (target : Target) (monitor : Option Text)
    (outcome : Except TransportError Unit)

/-- **What became of an object**: its command could not be built, could not be sent, or was sent. -/
inductive Handling where
  | unbuilt (cause : CommandError)
  | unsent (command : Command) (cause : TransportError)
  | sent (command : Command)

namespace Handling

/-- The calls for an object. A command that was built is sent once, to the object's own target and
instance. -/
def calls (object : MonitoredObject) : Handling → List DispatchCall
  | unbuilt cause => [.build object (.error cause)]
  | unsent command cause =>
    [.build object (.ok command), .send command object.target object.monitor (.error cause)]
  | sent command =>
    [.build object (.ok command), .send command object.target object.monitor (.ok ())]

/-- What a report says of an object: nothing if its command was sent, else which step failed and
why. -/
def failure? (object : MonitoredObject) : Handling → Option DispatchFailure
  | unbuilt cause => some ⟨object, .build cause⟩
  | unsent _ cause => some ⟨object, .send cause⟩
  | sent _ => none

/-- The outcome that goes into the report. -/
def outcome : Handling → Except DispatchError Unit
  | unbuilt cause => .error (.build cause)
  | unsent _ cause => .error (.send cause)
  | sent _ => .ok ()

end Handling

/-! ## Reports -/

namespace DispatchReport

/-- **A balanced report**: every object that was attempted is a success or a failure, and none is
both. -/
def IsBalanced (report : DispatchReport) : Prop :=
  report.succeeded + report.failures.length = report.attempted

/-- The report with the outcomes of handlings, one after the other. -/
def addAll (report : DispatchReport) (handled : List (MonitoredObject × Handling)) :
    DispatchReport :=
  handled.foldl (fun report (object, h) => report.add object h.outcome) report

theorem attempted_add (report : DispatchReport) (object : MonitoredObject)
    (outcome : Except DispatchError Unit) :
    (report.add object outcome).attempted = report.attempted + 1 := by
  cases outcome <;> rfl

theorem IsBalanced.add {report : DispatchReport} (h : report.IsBalanced) (object : MonitoredObject)
    (outcome : Except DispatchError Unit) : (report.add object outcome).IsBalanced := by
  unfold IsBalanced at h ⊢
  cases outcome with
  | ok =>
    show report.succeeded + 1 + report.failures.length = report.attempted + 1
    omega
  | error error =>
    show report.succeeded + (report.failures ++ [_]).length = report.attempted + 1
    rw [List.length_append, List.length_singleton]
    omega

theorem failures_add (report : DispatchReport) (object : MonitoredObject) (h : Handling) :
    (report.add object h.outcome).failures = report.failures ++ (h.failure? object).toList := by
  cases h with
  | unbuilt cause => rfl
  | unsent command cause => rfl
  | sent command => exact (List.append_nil _).symm

theorem attempted_addAll (report : DispatchReport) (handled : List (MonitoredObject × Handling)) :
    (report.addAll handled).attempted = report.attempted + handled.length := by
  induction handled generalizing report with
  | nil => rfl
  | cons entry handled ih =>
    obtain ⟨object, h⟩ := entry
    have hrest := ih (report.add object h.outcome)
    rw [attempted_add] at hrest
    show ((report.add object h.outcome).addAll handled).attempted = _
    rw [hrest, List.length_cons]
    omega

theorem IsBalanced.addAll {report : DispatchReport} (h : report.IsBalanced)
    (handled : List (MonitoredObject × Handling)) : (report.addAll handled).IsBalanced := by
  induction handled generalizing report with
  | nil => exact h
  | cons entry handled ih => exact ih (h.add entry.1 entry.2.outcome)

/-- **The failures are those of the handlings**, in order. -/
theorem failures_addAll (report : DispatchReport) (handled : List (MonitoredObject × Handling)) :
    (report.addAll handled).failures =
      report.failures ++ handled.filterMap fun (object, h) => h.failure? object := by
  induction handled generalizing report with
  | nil => exact (List.append_nil _).symm
  | cons entry handled ih =>
    obtain ⟨object, h⟩ := entry
    have hrest := ih (report.add object h.outcome)
    rw [failures_add, List.append_assoc] at hrest
    show ((report.add object h.outcome).addAll handled).failures = _
    rw [hrest]
    cases hfailure : h.failure? object <;> simp [hfailure]

end DispatchReport

/-! ## The run -/

section

variable {m : Type → Type} [Monad m]

/-- One object of a dispatch. -/
def dispatchStep (transport : Transport m)
    (build : MonitoredObject → m (Except CommandError Command)) (report : DispatchReport)
    (object : MonitoredObject) : m DispatchReport := do
  return report.add object (← dispatchOne transport build object)

theorem dispatch_eq (transport : Transport m)
    (build : MonitoredObject → m (Except CommandError Command)) (objects : List MonitoredObject) :
    dispatch transport build objects = objects.foldlM (dispatchStep transport build) {} := rfl

/-- A way of building commands that notes every call. -/
def noteBuild (build : MonitoredObject → m (Except CommandError Command))
    (object : MonitoredObject) : StateT (List DispatchCall) m (Except CommandError Command) :=
  noted (.build object) (build object)

/-- **A dispatch that notes its calls.** -/
def dispatchNoting (transport : Transport m)
    (build : MonitoredObject → m (Except CommandError Command)) (objects : List MonitoredObject) :
    StateT (List DispatchCall) m DispatchReport :=
  dispatch (transport.noting .send) (noteBuild build) objects

theorem watches_dispatchOne [LawfulMonad m] (transport : Transport m)
    (build : MonitoredObject → m (Except CommandError Command)) (object : MonitoredObject) :
    Watches (dispatchOne (transport.noting .send) (noteBuild build) object)
      (dispatchOne transport build object) := by
  refine .bind (.noted _ _) fun built => ?_
  cases built with
  | error cause => exact .pure _
  | ok command =>
    refine .bind (.noted _ _) fun outcome => ?_
    cases outcome <;> exact .pure _

/-- **A dispatch that notes its calls does what the dispatch does.** -/
theorem watches_dispatch [LawfulMonad m] (transport : Transport m)
    (build : MonitoredObject → m (Except CommandError Command)) (objects : List MonitoredObject) :
    Watches (dispatchNoting transport build objects) (dispatch transport build objects) := by
  rw [dispatchNoting, dispatch_eq, dispatch_eq]
  refine .foldlM (fun report object => ?_) objects _
  exact .bind (watches_dispatchOne transport build object) fun _ => .pure _

end

section

variable {σ : Type} (transport : Transport (StateM σ))
  (build : MonitoredObject → StateM σ (Except CommandError Command))

/-- **One object is handled in one of three ways**, which has its calls and its outcome. -/
theorem dispatchOne_noting (object : MonitoredObject) (journal : List DispatchCall) (s : σ) :
    ∃ h : Handling,
      (dispatchOne (transport.noting .send) (noteBuild build) object journal s).1 =
        (h.outcome, journal ++ h.calls object) := by
  unfold dispatchOne noteBuild
  rw [bind_apply, noted_apply]
  cases (build object s).1 with
  | error cause => exact ⟨.unbuilt cause, rfl⟩
  | ok command =>
    -- the command was built, so it is sent, from the state in which building left the outside
    simp only [Transport.noting]
    rw [bind_apply, noted_apply]
    cases (transport.send command object.target object.monitor (build object s).2).1 with
    | error cause => exact ⟨.unsent command cause, by rw [List.append_assoc]; rfl⟩
    | ok => exact ⟨.sent command, by rw [List.append_assoc]; rfl⟩

/-- **A run handles every object once, in order**, whatever becomes of the others. -/
theorem foldlM_noting (objects : List MonitoredObject) (report : DispatchReport)
    (journal : List DispatchCall) (s : σ) :
    ∃ handlings : List Handling, handlings.length = objects.length ∧
      (objects.foldlM (dispatchStep (transport.noting .send) (noteBuild build)) report
          journal s).1 =
        (report.addAll (objects.zip handlings),
          journal ++ (objects.zip handlings).flatMap fun (object, h) => h.calls object) := by
  induction objects generalizing report journal s with
  | nil => exact ⟨[], rfl, by rw [List.zip_nil_left, List.flatMap_nil, List.append_nil]; rfl⟩
  | cons object objects ih =>
    obtain ⟨h, hone⟩ := dispatchOne_noting transport build object journal s
    obtain ⟨handlings, hlength, hrest⟩ := ih (report.add object h.outcome)
      (journal ++ h.calls object)
      (dispatchOne (transport.noting .send) (noteBuild build) object journal s).2
    refine ⟨h :: handlings, congrArg (· + 1) hlength, ?_⟩
    have hstep : (dispatchStep (transport.noting .send) (noteBuild build) report object
        journal s) = ((report.add object h.outcome, journal ++ h.calls object),
          (dispatchOne (transport.noting .send) (noteBuild build) object journal s).2) := by
      rw [dispatchStep, bind_apply, hone]
      rfl
    rw [List.zip_cons_cons, List.flatMap_cons, ← List.append_assoc, List.foldlM_cons, bind_apply,
      hstep]
    exact hrest

/-! ## Main result -/

/-- **The calls of a dispatch**, from a given state of the outside on. -/
def dispatchCalls (objects : List MonitoredObject) (s : σ) : List DispatchCall :=
  (dispatchNoting transport build objects [] s).1.2

/-- **A dispatch accounts for every object**, whatever building and sending make of the objects and
of the state of the outside. There is one handling for each object; the calls are those of the
handlings, object by object; every object is counted, once as a success or as a failure; and the
failures are the objects of which a step failed, in order, each with its own error. The calls are
those of the dispatch that nobody watches. -/
theorem dispatch_accounts (objects : List MonitoredObject) (s : σ) :
    (∃ handlings : List Handling,
      handlings.length = objects.length ∧
      dispatchCalls transport build objects s =
        (objects.zip handlings).flatMap (fun (object, h) => h.calls object) ∧
      (dispatch transport build objects s).1.failures =
        (objects.zip handlings).filterMap fun (object, h) => h.failure? object) ∧
    (dispatch transport build objects s).1.attempted = objects.length ∧
    (dispatch transport build objects s).1.succeeded +
        (dispatch transport build objects s).1.failures.length =
      (dispatch transport build objects s).1.attempted ∧
    dispatchNoting transport build objects [] s =
      (((dispatch transport build objects s).1, dispatchCalls transport build objects s),
        (dispatch transport build objects s).2) := by
  have hwatched := (watches_dispatch transport build objects).run_eq [] s
  obtain ⟨handlings, hlength, hrun⟩ := foldlM_noting transport build objects {} [] s
  have hreport : (dispatch transport build objects s).1 =
      DispatchReport.addAll {} (objects.zip handlings) := by
    have hsame : (dispatchNoting transport build objects [] s).1.1 =
        (dispatch transport build objects s).1 := congrArg (fun run => run.1.1) hwatched
    exact hsame.symm.trans (congrArg Prod.fst hrun)
  have hcalls : dispatchCalls transport build objects s =
      (objects.zip handlings).flatMap fun (object, h) => h.calls object :=
    congrArg Prod.snd hrun
  have hzip : (objects.zip handlings).length = objects.length := by
    rw [List.length_zip, hlength, Nat.min_self]
  refine ⟨⟨handlings, hlength, hcalls, ?_⟩, ?_, ?_, hwatched⟩
  · rw [hreport, DispatchReport.failures_addAll]
    rfl
  · rw [hreport, DispatchReport.attempted_addAll, hzip]
    exact Nat.zero_add _
  · have hstart : DispatchReport.IsBalanced {} := rfl
    rw [hreport]
    exact hstart.addAll _

end

end MonitorControl
