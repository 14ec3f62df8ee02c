/-
What becomes of a command that does not support its target.

A command that is given a target it has no form for is a mistake of whoever sends it,
and every channel says so: it names the command and the kind of target, and it does so
before it has looked at the clock, written or posted anything
(`Channel.send_refuses`). A chain does not pass that on. To a chain an error of
any kind is a reason to try the next transport, because a command that has no REST form
may still have a line, and in the end it only counts the failures. So of the refusals
there is left that nothing was touched, and that sending has failed.
-/
import MonitorControl.Delivery.Settings
import MonitorControl.Delivery.Site
import MonitorControl.Proofs.Command.Rendering
import MonitorControl.Proofs.Delivery.Failover

set_option autoImplicit false

namespace MonitorControl

variable {command : Command} {target : Target}

/-! ## Channels -/

/-- **The answer to a command that does not support its target.** -/
def Command.refusal (command : Command) (target : Target) : TransportError :=
  .unrendered (.notImplemented command.name target.kind.name)

theorem Command.toApi_of_not_supports (h : command.supports target.kind = false) (app : Text) :
    command.toApi target app = .error (.notImplemented command.name target.kind.name) := by
  have hform : ¬ command.hasApiForm target.kind = true := by
    intro hform
    rw [supports_of_hasApiForm hform] at h
    cases h
  rw [toApi, if_neg hform]

/-- **Every channel refuses a command that does not support its target**, and does nothing but
answer. -/
theorem Channel.send_refuses {m : Type → Type} [Monad m] (outlets : Outlets m)
    (channel : Channel) (h : command.supports target.kind = false) (monitor : Option Text) :
    (channel.transport outlets).send command target monitor =
      pure (.error (command.refusal target)) := by
  have hline := (Command.refused_of_not_supports h).1
  cases channel with
  | file f =>
    show f.send outlets command target = _
    rw [CommandFile.send, hline]
    rfl
  | remoteFile f =>
    show f.send outlets command target = _
    rw [RemoteCommandFile.send, hline]
    rfl
  | rest r =>
    show r.send outlets command target = _
    rw [RestInterface.send, Command.toApi_of_not_supports h]
    rfl

/-! ## Chains -/

namespace Chain

variable {monitor : Option Text}

/-- **Transports that only answer with an error are counted** and leave no other trace. -/
theorem sendFirst_of_refusals {m : Type → Type} [Monad m] [LawfulMonad m]
    {transports : List (Transport m)} {cause : TransportError}
    (h : ∀ t ∈ transports, t.send command target monitor = pure (.error cause)) (failed : Nat) :
    sendFirst command target monitor failed transports =
      pure (.error (exhausted (failed + transports.length))) := by
  induction transports generalizing failed with
  | nil => cases failed <;> rfl
  | cons t transports ih =>
    rw [sendFirst_cons, h t List.mem_cons_self, pure_bind]
    have hrest := ih (fun other hother => h other (List.mem_cons_of_mem t hother)) (failed + 1)
    have hcount : failed + (t :: transports).length = failed + 1 + transports.length := by
      rw [List.length_cons]
      omega
    rw [hcount]
    exact hrest

/-- **A transport that succeeds** ends failover. -/
theorem sendFirst_of_ok {σ : Type} {t : Transport (StateM σ)} {s s' : σ}
    (h : t.send command target monitor s = (.ok (), s')) (failed : Nat)
    (rest : List (Transport (StateM σ))) :
    sendFirst command target monitor failed (t :: rest) s = (.ok (), s') := by
  rw [sendFirst_cons, bind_state_apply, h]
  rfl

/-- **A transport that fails** leaves the rest to be tried, from the state in which it has left the
outside. -/
theorem sendFirst_of_error {σ : Type} {t : Transport (StateM σ)} {cause : TransportError}
    {s s' : σ} (h : t.send command target monitor s = (.error cause, s')) (failed : Nat)
    (rest : List (Transport (StateM σ))) :
    sendFirst command target monitor failed (t :: rest) s =
      sendFirst command target monitor (failed + 1) rest s' := by
  rw [sendFirst_cons, bind_state_apply, h]

/-- **Failover ends well if a transport has succeeded**, and else with the count of all of them. -/
theorem answer_sendFirst {σ : Type} (transports : List (Transport (StateM σ))) (failed : Nat)
    (s : σ) :
    ((sendFirst command target monitor failed transports s).1 = .ok () ∧
      ∃ t ∈ transports, ∃ s', (t.send command target monitor s').1 = .ok ()) ∨
    (sendFirst command target monitor failed transports s).1 =
      .error (exhausted (failed + transports.length)) := by
  induction transports generalizing failed s with
  | nil =>
    right
    cases failed <;> rfl
  | cons t transports ih =>
    rcases hsent : t.send command target monitor s with ⟨cause | done, s'⟩
    · have hcount : failed + (t :: transports).length = failed + 1 + transports.length := by
        rw [List.length_cons]
        omega
      rw [sendFirst_of_error hsent, hcount]
      rcases ih (failed + 1) s' with ⟨hok, other, hother, hsucceeds⟩ | hfailed
      · exact .inl ⟨hok, other, List.mem_cons_of_mem t hother, hsucceeds⟩
      · exact .inr hfailed
    · rw [sendFirst_of_ok hsent]
      exact .inl ⟨rfl, t, List.mem_cons_self, s, congrArg Prod.fst hsent⟩

theorem exhausted_of_pos {failed : Nat} (h : 0 < failed) :
    exhausted failed = .allFailed failed := by
  cases failed with
  | zero => exact absurd h (Nat.lt_irrefl 0)
  | succ failed => rfl

/-! ## Main result -/

/-- **A command that does not support its target reaches nobody, and its sender is told of a
failure.** In a chain with a channel that serves the instance, every channel answers, with no effect
on the outside, that the command has no form for that kind of target. The chain counts the
transports that serve the instance as failed, unless one that is no channel has taken the command;
and where all of them are channels it leaves the outside as it was. -/
theorem send_of_not_supports {σ : Type} (outlets : Outlets (StateM σ)) (chain : Chain (StateM σ))
    (h : command.supports target.kind = false)
    (hserved : ∃ channel : Channel, channel.transport outlets ∈ chain.serving monitor) :
    (∀ (channel : Channel) (s : σ), (channel.transport outlets).send command target monitor s =
      (.error (.unrendered (.notImplemented command.name target.kind.name)), s)) ∧
    (∀ s, (chain.send command target monitor s).1 =
        .error (.allFailed (chain.serving monitor).length) ∨
      (chain.send command target monitor s).1 = .ok () ∧
        ∃ t ∈ chain.serving monitor, (∀ channel : Channel, t ≠ channel.transport outlets) ∧
          ∃ s', (t.send command target monitor s').1 = .ok ()) ∧
    ((∀ t ∈ chain.serving monitor, ∃ channel : Channel, t = channel.transport outlets) →
      ∀ s, chain.send command target monitor s =
        (.error (.allFailed (chain.serving monitor).length), s)) := by
  have hrefuses : ∀ channel : Channel, (channel.transport outlets).send command target monitor =
      pure (.error (command.refusal target)) := fun channel =>
    channel.send_refuses outlets h monitor
  have hpos : 0 < (chain.serving monitor).length := by
    obtain ⟨channel, hchannel⟩ := hserved
    exact List.length_pos_of_mem hchannel
  refine ⟨fun channel s => congrFun (hrefuses channel) s, fun s => ?_, fun hall s => ?_⟩
  · rcases answer_sendFirst (chain.serving monitor) 0 s with ⟨hok, t, ht, s', hsucceeds⟩ | hfailed
    · refine .inr ⟨hok, t, ht, ?_, s', hsucceeds⟩
      -- a channel would have refused, in whatever state it was asked
      rintro channel rfl
      rw [congrFun (hrefuses channel) s'] at hsucceeds
      cases hsucceeds
    · rw [Nat.zero_add, exhausted_of_pos hpos] at hfailed
      exact .inl hfailed
  · have hsame : ∀ t ∈ chain.serving monitor, t.send command target monitor =
        pure (.error (command.refusal target)) := by
      intro t ht
      obtain ⟨channel, rfl⟩ := hall t ht
      exact hrefuses channel
    have hsend := sendFirst_of_refusals hsame 0
    rw [Nat.zero_add, exhausted_of_pos hpos] at hsend
    exact congrFun hsend s

/-- A restart that is meant for a host, through a command file and a REST interface. -/
theorem send_of_not_supports_restart :
    let file : CommandFile := { name := "local", path := "cmd", bound := some "main" }
    let rest : RestInterface :=
      { name := "api", host := "mon1", username := "root", password := "secret" }
    let chain : Chain (StateM Site) :=
      ⟨[file.transport Site.outlets, rest.transport Site.outlets]⟩
    let site : Site := { files := [("cmd", some [])] }
    Command.restart.supports (Target.host "web").kind = false ∧
      (∃ channel : Channel,
        channel.transport Site.outlets ∈ chain.serving (some "Main".toList)) ∧
      chain.send .restart (.host "web") (some "Main".toList) site =
        (.error (.allFailed 2), site) := by
  intro file rest chain site
  have hserving : chain.serving (some "Main".toList) =
      [file.transport Site.outlets, rest.transport Site.outlets] := rfl
  have hserved : ∃ channel : Channel,
      channel.transport Site.outlets ∈ chain.serving (some "Main".toList) :=
    ⟨.file file, hserving ▸ List.mem_cons_self⟩
  have hunsupported : Command.restart.supports (Target.host "web").kind = false := rfl
  have hrefused := send_of_not_supports Site.outlets chain hunsupported hserved
  refine ⟨rfl, hserved, hrefused.2.2 ?_ site⟩
  intro t ht
  rw [hserving, List.mem_cons, List.mem_singleton] at ht
  rcases ht with rfl | rfl
  · exact ⟨.file file, rfl⟩
  · exact ⟨.rest rest, rfl⟩

/-- **A chain does not say that a command has no form for its target**, although the only transport
in it does. -/
theorem send_hides_refusal :
    let file : CommandFile := { name := "local", path := "cmd" }
    let chain : Chain (StateM Site) := ⟨[file.transport Site.outlets]⟩
    let site : Site := { files := [("cmd", some [])] }
    let refusal : TransportError :=
      .unrendered (.notImplemented "RestartProcessCommand" "host")
    Command.restart.supports (Target.host "web").kind = false ∧
      chain.serving none = [file.transport Site.outlets] ∧
      (file.send Site.outlets .restart (.host "web") site).1 = .error refusal ∧
      (chain.send .restart (.host "web") none site).1 = .error (.allFailed 1) ∧
      (chain.send .restart (.host "web") none site).1 ≠ .error refusal := by
  intro file chain site refusal
  have hanswer : (chain.send .restart (.host "web") none site).1 = .error (.allFailed 1) := rfl
  refine ⟨rfl, rfl, rfl, hanswer, ?_⟩
  rw [hanswer]
  show ¬ Except.error (TransportError.allFailed 1) = Except.error (TransportError.unrendered _)
  exact nofun

end Chain

end MonitorControl
