/-
What a command says it can be given, and what it can be rendered for.

A command names its capabilities in one place (`supports`), has its words in another
(`word?`) and its REST form in a third (`hasApiForm`, `apiChain`). A capability without
a word would be a command that fails although it was offered, and a word without the
capability one that can never be reached. `isSome_word?` says that there is neither, for
every command with all its options and every kind of target; the rest is about what
stands in a line.

A line is read by its semicolons, so the word of a command must not hold one. All words
are put together from a few pieces, and `isCommandWord` is kept by putting together.
-/
import MonitorControl.Command.Line
import MonitorControl.Command.Rest

set_option autoImplicit false

namespace MonitorControl

/-! ## Command words -/

/-- A character of a command word. -/
def isCommandLetter (c : Char) : Bool := c.isUpper || c == '_'

/-- **A command word**: capital letters and underscores, and at least one of them. -/
def isCommandWord (word : Text) : Bool := !word.isEmpty && word.all isCommandLetter

theorem isCommandWord_append {front back : Text} (hfront : isCommandWord front = true)
    (hback : isCommandWord back = true) : isCommandWord (front ++ back) = true := by
  unfold isCommandWord at hfront hback ⊢
  simp only [Bool.and_eq_true, Bool.not_eq_true', List.all_append] at hfront hback ⊢
  refine ⟨?_, hfront.2, hback.2⟩
  cases front with
  | nil => exact absurd hfront.1 Bool.noConfusion
  | cons c front => rfl

/-- Another word behind an underscore. -/
theorem isCommandWord_underscore {word : Text} (hword : isCommandWord word = true) :
    isCommandWord ('_' :: word) = true := by
  have hunderscore : isCommandWord ['_'] = true := rfl
  exact isCommandWord_append hunderscore hword

/-- No separator stands in a command word. -/
theorem semicolon_not_mem {word : Text} (hword : isCommandWord word = true) : ';' ∉ word := by
  intro hmem
  have hall : word.all isCommandLetter = true := by
    unfold isCommandWord at hword
    exact (Bool.and_eq_true_iff.1 hword).2
  have hletter : isCommandLetter ';' = true := List.all_eq_true.1 hall _ hmem
  exact absurd hletter (by decide)

theorem isCommandWord_objectWord? {kind : TargetKind} {object : Text}
    (h : objectWord? kind = some object) : isCommandWord object = true := by
  cases kind <;> cases h <;> rfl

theorem isCommandWord_enableWord (enabled : Bool) : isCommandWord (enableWord enabled) = true := by
  cases enabled <;> rfl

theorem isCommandWord_startWord (enabled : Bool) : isCommandWord (startWord enabled) = true := by
  cases enabled <;> rfl

/-- The words that are put around the word for an object. -/
theorem isCommandWord_around {front object back : Text} (hfront : isCommandWord front = true)
    (hobject : isCommandWord object = true) (hback : isCommandWord back = true) :
    isCommandWord (front ++ object ++ back) = true :=
  isCommandWord_append (isCommandWord_append hfront hobject) hback

namespace ObjectSwitch

theorem isCommandWord_objectCommand (switch : ObjectSwitch) {object : Text}
    (hobject : isCommandWord object = true) :
    isCommandWord (switch.objectCommand object) = true := by
  have henable : isCommandWord (enableWord switch.enabled ++ ['_']) = true :=
    isCommandWord_append (isCommandWord_enableWord _) rfl
  have hstart : isCommandWord (startWord switch.enabled) = true := isCommandWord_startWord _
  unfold objectCommand
  cases switch.feature with
  | activeChecks => exact isCommandWord_around henable hobject rfl
  | passiveChecks =>
    exact isCommandWord_around (isCommandWord_append henable rfl) hobject rfl
  | obsessing => exact isCommandWord_around hstart rfl hobject
  | notifications => exact isCommandWord_around henable hobject rfl
  | eventHandler => exact isCommandWord_around henable hobject rfl
  | flapDetection => exact isCommandWord_around henable hobject rfl
  | freshnessChecks => exact isCommandWord_around henable hobject rfl

theorem isCommandWord_groupCommand? {switch : ObjectSwitch} {group word : Text}
    {usual : GroupMembers} (hgroup : isCommandWord group = true)
    (h : switch.groupCommand? group usual = some word) : isCommandWord word = true := by
  have hbefore : ∀ {members : Text}, isCommandWord members = true → isCommandWord
      (enableWord switch.enabled ++ '_' :: group ++ '_' :: members) = true := by
    intro members hmembers
    apply isCommandWord_append
    · exact isCommandWord_append (isCommandWord_enableWord _) (isCommandWord_underscore hgroup)
    · exact isCommandWord_underscore hmembers
  unfold groupCommand? at h
  cases hmembers : switch.members.getD usual <;> rw [hmembers] at h <;>
    cases hfeature : switch.feature <;> rw [hfeature] at h <;> cases h
  all_goals exact isCommandWord_append (hbefore rfl) rfl

end ObjectSwitch

theorem InstanceSwitch.isCommandWord_command (switch : InstanceSwitch) :
    isCommandWord switch.command = true := by
  have henable := isCommandWord_enableWord switch.enabled
  have hstart := isCommandWord_startWord switch.enabled
  unfold InstanceSwitch.command
  cases switch.feature
  case eventHandlers | flapDetection | notifications | performanceData =>
    exact isCommandWord_append henable rfl
  all_goals exact isCommandWord_append hstart rfl

theorem Downtime.isCommandWord_command? {d : Downtime} {kind : TargetKind} {word : Text}
    (h : d.command? kind = some word) : isCommandWord word = true := by
  unfold Downtime.command? at h
  cases kind with
  | host =>
    cases hchildren : d.children with
    | none =>
      rw [hchildren] at h
      cases hexclude : d.excludeHost <;> rw [hexclude] at h <;> cases h <;> rfl
    | some propagation =>
      rw [hchildren] at h
      cases propagation <;> cases h <;> rfl
  | service => cases h; rfl
  | hostgroup => cases hexclude : d.excludeHost <;> rw [hexclude] at h <;> cases h <;> rfl
  | servicegroup => cases hexclude : d.excludeServices <;> rw [hexclude] at h <;> cases h <;> rfl
  | global => cases h

namespace Command

variable {command : Command} {kind : TargetKind} {target : Target}

theorem isCommandWord_word? {word : Text} (h : command.word? kind = some word) :
    isCommandWord word = true := by
  -- most words stand around the word for an object
  have haround : ∀ {front back : Text}, isCommandWord front = true → isCommandWord back = true →
      (objectWord? kind).map (fun object => front ++ object ++ back) = some word →
      isCommandWord word = true := by
    intro front back hfront hback hmap
    obtain ⟨object, hobject, hword⟩ := Option.map_eq_some_iff.1 hmap
    rw [← hword]
    exact isCommandWord_around hfront (isCommandWord_objectWord? hobject) hback
  unfold word? at h
  cases command with
  | acknowledge a =>
    refine haround rfl ?_ h
    cases a.expire <;> rfl
  | removeAcknowledgement => exact haround rfl rfl h
  | addComment comment => exact haround rfl rfl h
  | deleteComment deletion => exact haround rfl rfl h
  | deleteAllComments => exact haround rfl rfl h
  | scheduleCheck schedule =>
    have hverb : isCommandWord
        (if schedule.forced then "SCHEDULE_FORCED".toList else "SCHEDULE".toList) = true := by
      cases schedule.forced <;> rfl
    cases kind <;> cases h
    · refine isCommandWord_append hverb ?_
      cases schedule.excludeHost <;> rfl
    · exact isCommandWord_append hverb rfl
  | scheduleDowntime d => exact Downtime.isCommandWord_command? h
  | deleteDowntime deletion => exact haround rfl rfl h
  | customNotification n => exact haround rfl rfl h
  | delayNotification seconds => exact haround rfl rfl h
  | passiveResult r => cases kind <;> cases h <;> rfl
  | switchObject switch =>
    cases kind with
    | host =>
      cases h
      exact switch.isCommandWord_objectCommand rfl
    | service =>
      cases h
      exact switch.isCommandWord_objectCommand rfl
    | hostgroup => exact ObjectSwitch.isCommandWord_groupCommand? rfl h
    | servicegroup => exact ObjectSwitch.isCommandWord_groupCommand? rfl h
    | global => cases h
  | switchInstance switch =>
    cases kind <;> cases h
    exact switch.isCommandWord_command
  | disableNotifications issued expire =>
    cases kind <;> cases h
    rfl
  | restart =>
    cases kind <;> cases h
    rfl

/-! ## Capabilities -/

/-- **A command has a word for exactly the kinds of target that it supports.** -/
theorem isSome_word? (command : Command) (kind : TargetKind) :
    (command.word? kind).isSome = command.supports kind := by
  cases command with
  | scheduleDowntime d =>
    show (d.command? kind).isSome = (kind.isObject || kind.isGroup)
    unfold Downtime.command?
    cases kind with
    | host =>
      cases d.children with
      | none => cases d.excludeHost <;> rfl
      | some propagation => cases propagation <;> rfl
    | service => rfl
    | hostgroup => cases d.excludeHost <;> rfl
    | servicegroup => cases d.excludeServices <;> rfl
    | global => rfl
  | switchObject switch =>
    -- whether there is a word for groups depends on the feature
    obtain ⟨feature, enabled, members⟩ := switch
    cases feature <;> cases kind <;> rfl
  | _ => cases kind <;> rfl

/-- The REST form is offered for no other kinds of target. -/
theorem supports_of_hasApiForm (h : command.hasApiForm kind = true) :
    command.supports kind = true := by
  have hobject : kind.isObject = true → (kind.isObject || kind.isGroup) = true := by
    intro hkind
    rw [hkind, Bool.true_or]
  unfold hasApiForm at h
  unfold supports
  cases command with
  | scheduleDowntime d => exact hobject h
  | switchObject switch =>
    show (kind.isObject || (switch.feature.hasGroupForm && kind.isGroup)) = true
    rw [show kind.isObject = true from h, Bool.true_or]
  | deleteAllComments => cases h
  | delayNotification seconds => cases h
  | disableNotifications issued expire => cases h
  | restart => cases h
  | _ => exact h

theorem supports_of_toApi {app : Text} {chain : ApiChain}
    (h : command.toApi target app = .ok chain) : command.supports target.kind = true := by
  unfold toApi at h
  by_cases hform : command.hasApiForm target.kind = true
  · exact supports_of_hasApiForm hform
  · rw [if_neg hform] at h
    cases h

end Command

/-! ## Lines -/

/-- **A line is its fields with a semicolon between neighbours.** -/
theorem join_eq_pipeLine (word : Text) (names arguments : List Text) :
    Text.join [';'] (word :: (names ++ arguments)) = pipeLine word names arguments := by
  unfold pipeLine
  induction names ++ arguments generalizing word with
  | nil => rw [Text.join_singleton, List.flatMap_nil, List.append_nil]
  | cons field fields ih =>
    rw [Text.join_cons_cons, ih, List.flatMap_cons, List.append_assoc]
    rfl

namespace Command

variable {command : Command} {target : Target}

theorem lineFor_of_word? {word : Text} (h : command.word? target.kind = some word) :
    command.lineFor target = .ok (pipeLine word target.names command.arguments) := by
  rw [lineFor, h]

/-- A command that is given what it supports is rendered by the word for it alone. -/
theorem render_of_supports (h : command.supports target.kind = true) :
    command.render target = command.lineFor target :=
  if_pos h

/-- **A supported target has a word and a line.** -/
theorem exists_word (h : command.supports target.kind = true) :
    ∃ word, command.word? target.kind = some word ∧
      command.render target = .ok (pipeLine word target.names command.arguments) := by
  have hword := h
  rw [← isSome_word?] at hword
  obtain ⟨word, hword⟩ := Option.isSome_iff_exists.1 hword
  exact ⟨word, hword, (render_of_supports h).trans (lineFor_of_word? hword)⟩

/-- **A target that is not supported is refused as such**, also where only the word is asked for. -/
theorem refused_of_not_supports (h : command.supports target.kind = false) :
    command.render target = .error (.notImplemented command.name target.kind.name) ∧
      command.lineFor target =
        .error (.notImplemented command.name (command.missingForm target.kind)) := by
  have hword : command.word? target.kind = none := by
    apply Option.not_isSome_iff_eq_none.1
    rw [isSome_word?, h]
    exact Bool.false_ne_true
  refine ⟨?_, ?_⟩
  · rw [render, h]
    rfl
  · rw [lineFor, hword]

theorem supports_of_render {line : Text} (h : command.render target = .ok line) :
    command.supports target.kind = true := by
  cases hsupports : command.supports target.kind with
  | true => rfl
  | false =>
    rw [(refused_of_not_supports hsupports).1] at h
    cases h

/-- **A line comes from the word** for the kind of its target. -/
theorem exists_word_of_render {line : Text} (h : command.render target = .ok line) :
    ∃ word, command.word? target.kind = some word ∧
      line = pipeLine word target.names command.arguments := by
  obtain ⟨word, hword, hline⟩ := exists_word (supports_of_render h)
  exact ⟨word, hword, Except.ok.inj (h.symm.trans hline)⟩

/-! ## Main result -/

/-- **Capabilities and lines agree.** A command is rendered for exactly the targets that it
supports: then its line is its word, the names of the target and its arguments, in this order and
with semicolons between them, and it does not matter whether the capabilities were asked first. For
any other target the error names the command and the kind of target, and nothing else is ever wrong
with a line. There is no REST form beyond the capabilities. -/
theorem render_agrees (command : Command) (target : Target) (app : Text) :
    ((∃ line, command.render target = .ok line) ↔ command.supports target.kind = true) ∧
    (command.supports target.kind = true →
      ∃ word, command.word? target.kind = some word ∧ isCommandWord word = true ∧
        command.render target =
          .ok (Text.join [';'] (word :: (target.names ++ command.arguments))) ∧
        command.lineFor target = command.render target) ∧
    (command.supports target.kind = false →
      command.render target = .error (.notImplemented command.name target.kind.name) ∧
      command.lineFor target =
        .error (.notImplemented command.name (command.missingForm target.kind))) ∧
    ((∃ chain, command.toApi target app = .ok chain) → command.supports target.kind = true) := by
  refine ⟨⟨?_, ?_⟩, ?_, refused_of_not_supports, ?_⟩
  · intro hok
    obtain ⟨line, hline⟩ := hok
    exact supports_of_render hline
  · intro h
    obtain ⟨word, -, hline⟩ := exists_word h
    exact ⟨_, hline⟩
  · intro h
    obtain ⟨word, hword, hline⟩ := exists_word h
    refine ⟨word, hword, isCommandWord_word? hword, ?_, (render_of_supports h).symm⟩
    rw [hline, join_eq_pipeLine]
  · intro hok
    obtain ⟨chain, hchain⟩ := hok
    exact supports_of_toApi hchain

end Command

end MonitorControl
