/-
What the REST form of a command leaves of its options.

A chain of transports may deliver a command as a line or as calls, and the user does not
choose. So an option that is in the line should be in the calls: two commands that make
the same calls should have the same line. An instance reads the data of a call by their
keys, and here, too, data are compared key by key (`ApiCall.Alike`).

Under every key but that of the target an instance finds what the command has put there
(`get?_callFor`), and so the options of each type are read off its calls. Two of them
are found in no call at all: that a comment outlives a restart, and that a notification
goes to everybody (`lineOnly`). Commands that differ there may make the same calls and
have different lines (`calls_without_option`); commands that agree there have the same
line if they make the same calls (`render_of_toApi`).
-/
import MonitorControl.Proofs.Command.Fields
import Mathlib.Data.List.Forall2

set_option autoImplicit false

namespace MonitorControl

/-! ## Calls that say the same -/

/-- **Two calls that an instance cannot tell apart**: they go to one endpoint, and under each key of
their data stands the same value. -/
def ApiCall.Alike (call other : ApiCall) : Prop :=
  call.endpoint = other.endpoint ∧ ∀ key, call.data.get? key = other.data.get? key

/-- **Two chains that an instance cannot tell apart**, call by call. -/
def ApiChain.Alike (chain other : ApiChain) : Prop :=
  List.Forall₂ ApiCall.Alike chain.toList other.toList

namespace ApiChain.Alike

theorem refl (chain : ApiChain) : chain.Alike chain :=
  List.forall₂_same.2 fun _ _ => ⟨rfl, fun _ => rfl⟩

variable {chain other : ApiChain}

theorem get?_first (h : chain.Alike other) (key : Text) :
    chain.first.data.get? key = other.first.data.get? key := by
  cases h with
  | cons hfirst _ => exact hfirst.2 key

/-- What is found under a key of the first calls is the same. -/
theorem value_eq (h : chain.Alike other) {key : Text} {v w : Json}
    (hv : chain.first.data.get? key = some v) (hw : other.first.data.get? key = some w) :
    v = w := by
  rw [h.get?_first, hw] at hv
  exact (Option.some.inj hv).symm

theorem length_rest (h : chain.Alike other) : chain.rest.length = other.rest.length := by
  cases h with
  | cons _ hrest => exact hrest.length_eq

end ApiChain.Alike

theorem Json.natural_injective : Function.Injective Json.natural := by
  intro n k h
  exact Int.ofNat.inj (Json.integer.inj h)

/-! ## Reading commands off their calls

The entry of the target stands behind those of the command, under a key of its own. -/

/-- **What is found in a call** under any other key is what the command has put there. -/
theorem get?_callFor (endpoint : Text) (entries : List (Text × Json)) (target : Target) {key : Text}
    (hhost : key ≠ "host") (hservice : key ≠ "service") :
    (callFor endpoint entries target).first.data.get? key = (Json.object entries).get? key := by
  have hbehind : ∀ (name : Text) (v : Json), key ≠ name →
      (Json.object (entries ++ [(name, v)])).get? key = (Json.object entries).get? key := by
    intro name v hname
    show (entries ++ [(name, v)]).reverse.lookup key = entries.reverse.lookup key
    rw [List.reverse_append, List.reverse_singleton, List.singleton_append, List.lookup_cons,
      beq_eq_false_iff_ne.2 hname]
  have hnothing : (Json.object (entries ++ [])).get? key = (Json.object entries).get? key := by
    rw [List.append_nil]
  cases target with
  | host host => exact hbehind "host" _ hhost
  | service host service => exact hbehind "service" _ hservice
  | hostgroup group => exact hnothing
  | servicegroup group => exact hnothing
  | global instance? => exact hnothing

/-- The entries of two commands whose calls say the same. -/
theorem ApiChain.Alike.entry_eq {endpoint : Text} {entries entries' : List (Text × Json)}
    {target : Target}
    (h : (callFor endpoint entries target).Alike (callFor endpoint entries' target)) (key : Text)
    (hhost : key ≠ "host") (hservice : key ≠ "service") :
    (Json.object entries).get? key = (Json.object entries').get? key := by
  have hfirst := h.get?_first key
  rwa [get?_callFor _ _ _ hhost hservice, get?_callFor _ _ _ hhost hservice] at hfirst

section

variable {endpoint : Text} {target : Target}

namespace Acknowledgement

theorem expire_eq {a b : Option Nat}
    (h : (a.elim .null .natural : Json) = b.elim .null .natural) : a = b := by
  cases a with
  | none =>
    cases b with
    | none => rfl
    | some time => cases h
  | some time =>
    cases b with
    | none => cases h
    | some time' => rw [Json.natural_injective h]

/-- **An acknowledgement is its call and the persistence of its comment.** -/
theorem eq_of_alike {a b : Acknowledgement}
    (h : (callFor endpoint a.apiEntries target).Alike (callFor endpoint b.apiEntries target))
    (hpersistent : a.comment.persistent = b.comment.persistent) : a = b := by
  have hauthor := h.entry_eq "author" (by decide) (by decide)
  have hcontent := h.entry_eq "comment" (by decide) (by decide)
  have hexpire := h.entry_eq "expiry" (by decide) (by decide)
  have hsticky := h.entry_eq "sticky" (by decide) (by decide)
  have hnotify := h.entry_eq "notify" (by decide) (by decide)
  have author : a.comment.author = b.comment.author :=
    Json.string.inj (Option.some.inj hauthor)
  have content : a.comment.content = b.comment.content :=
    Json.string.inj (Option.some.inj hcontent)
  have expire : a.expire = b.expire := expire_eq (Option.some.inj hexpire)
  have sticky : a.sticky = b.sticky := Json.bool.inj (Option.some.inj hsticky)
  have notify : a.notify = b.notify := Json.bool.inj (Option.some.inj hnotify)
  obtain ⟨⟨_, _, _⟩, _, _, _⟩ := a
  obtain ⟨⟨_, _, _⟩, _, _, _⟩ := b
  subst author content expire sticky notify hpersistent
  rfl

end Acknowledgement

/-- **A comment is its call and its persistence.** -/
theorem Comment.eq_of_alike {a b : Comment}
    (h : (callFor endpoint a.apiEntries target).Alike (callFor endpoint b.apiEntries target))
    (hpersistent : a.persistent = b.persistent) : a = b := by
  have hauthor := h.entry_eq "author" (by decide) (by decide)
  have hcontent := h.entry_eq "comment" (by decide) (by decide)
  have author : a.author = b.author := Json.string.inj (Option.some.inj hauthor)
  have content : a.content = b.content := Json.string.inj (Option.some.inj hcontent)
  obtain ⟨_, _, _⟩ := a
  obtain ⟨_, _, _⟩ := b
  subst author content hpersistent
  rfl

/-- **What a line says of a notification** is in its call, but for who gets it. -/
theorem CustomNotification.arguments_eq {a b : CustomNotification}
    (h : (callFor endpoint a.apiEntries target).Alike (callFor endpoint b.apiEntries target))
    (hbroadcast : a.broadcast = b.broadcast) :
    (Command.customNotification a).arguments = (Command.customNotification b).arguments := by
  have hauthor := h.entry_eq "author" (by decide) (by decide)
  have hcontent := h.entry_eq "comment" (by decide) (by decide)
  have hforced := h.entry_eq "force" (by decide) (by decide)
  have author : a.comment.author = b.comment.author :=
    Json.string.inj (Option.some.inj hauthor)
  have content : a.comment.content = b.comment.content :=
    Json.string.inj (Option.some.inj hcontent)
  have forced : a.forced = b.forced := Json.bool.inj (Option.some.inj hforced)
  unfold Command.arguments
  simp only [author, content, forced, hbroadcast]

namespace PassiveResult

/-- The entries of the result of a check. -/
def apiEntries (r : PassiveResult) : List (Text × Json) :=
  [("exit_status", .natural r.state), ("plugin_output", .string r.output),
    ("performance_data", .string r.performanceData)]

/-- **The result of a check is its call.** -/
theorem eq_of_alike {a b : PassiveResult}
    (h : (callFor endpoint a.apiEntries target).Alike (callFor endpoint b.apiEntries target)) :
    a = b := by
  have hstate := h.entry_eq "exit_status" (by decide) (by decide)
  have houtput := h.entry_eq "plugin_output" (by decide) (by decide)
  have hdata := h.entry_eq "performance_data" (by decide) (by decide)
  have state : a.state = b.state := Json.natural_injective (Option.some.inj hstate)
  have output : a.output = b.output := Json.string.inj (Option.some.inj houtput)
  have data : a.performanceData = b.performanceData := Json.string.inj (Option.some.inj hdata)
  obtain ⟨_, _, _⟩ := a
  obtain ⟨_, _, _⟩ := b
  subst state output data
  rfl

end PassiveResult

end

/-! ## Chains that depend on the target -/

namespace CheckSchedule

theorem get?_apiChain (schedule : CheckSchedule) (target : Target) :
    let data := (schedule.apiChain target).first.data
    data.get? "next_check" = some (.natural schedule.time) ∧
      data.get? "force_check" = some (.bool schedule.forced) := by
  obtain ⟨time, forced, excludeHost⟩ := schedule
  cases target <;> cases excludeHost <;> exact ⟨rfl, rfl⟩

/-- Only a check of the host itself names the host. -/
theorem get?_host (schedule : CheckSchedule) (host : Text) :
    (schedule.apiChain (.host host)).first.data.get? "host" =
      if schedule.excludeHost then none else some (.string host) := by
  obtain ⟨time, forced, excludeHost⟩ := schedule
  cases excludeHost <;> rfl

theorem excludeHost_eq {a b : CheckSchedule} {host : Text}
    (h : (a.apiChain (.host host)).Alike (b.apiChain (.host host))) :
    a.excludeHost = b.excludeHost := by
  have hhost := h.get?_first "host"
  rw [get?_host, get?_host] at hhost
  cases ha : a.excludeHost <;> cases hb : b.excludeHost <;> rw [ha, hb] at hhost
  · cases hhost
  · cases hhost

variable {a b : CheckSchedule} {target : Target}

/-- The time of a check and whether it is forced are in its call. -/
theorem time_forced_eq (h : (a.apiChain target).Alike (b.apiChain target)) :
    a.time = b.time ∧ a.forced = b.forced := by
  obtain ⟨htime, hforced⟩ := a.get?_apiChain target
  obtain ⟨htime', hforced'⟩ := b.get?_apiChain target
  exact ⟨Json.natural_injective (h.value_eq htime htime'),
    Json.bool.inj (h.value_eq hforced hforced')⟩

theorem arguments_eq (h : (a.apiChain target).Alike (b.apiChain target)) :
    (Command.scheduleCheck a).arguments = (Command.scheduleCheck b).arguments := by
  unfold Command.arguments
  simp only [(time_forced_eq h).1]

/-- **The word of a check is in its call.** Only the word for a host says which checks are meant. -/
theorem word?_eq (h : (a.apiChain target).Alike (b.apiChain target)) :
    (Command.scheduleCheck a).word? target.kind = (Command.scheduleCheck b).word? target.kind := by
  have forced := (time_forced_eq h).2
  unfold Command.word?
  cases target with
  | host host =>
    have excludeHost := excludeHost_eq h
    simp only [Target.kind, forced, excludeHost]
  | service host service => simp only [Target.kind, forced]
  | hostgroup group => rfl
  | servicegroup group => rfl
  | global instance? => rfl

end CheckSchedule

namespace Downtime

theorem get?_apiChain (d : Downtime) (target : Target) :
    let data := (d.apiChain target).first.data
    data.get? "author" = some (.string d.comment.author) ∧
      data.get? "comment" = some (.string d.comment.content) ∧
      data.get? "start_time" = some (.natural d.start) ∧
      data.get? "end_time" = some (.natural d.stop) ∧
      data.get? "duration" = some (.natural d.duration) ∧
      data.get? "fixed" = some (.bool d.fixed) ∧
      data.get? "trigger_name" = some (.natural d.trigger) := by
  obtain ⟨comment, start, stop, hle, fixed, trigger, duration, excludeHost, excludeServices,
    children⟩ := d
  cases target <;> cases excludeHost <;> rcases children with _ | (_ | _) <;>
    exact ⟨rfl, rfl, rfl, rfl, rfl, rfl, rfl⟩

/-- How the downtime of a host reaches its children is an option of the first call. -/
theorem get?_childOptions (d : Downtime) (host : Text) :
    (d.apiChain (.host host)).first.data.get? "child_options" =
      d.children.map fun
        | .triggered => .natural 1
        | .plain => .natural 2 := by
  obtain ⟨comment, start, stop, hle, fixed, trigger, duration, excludeHost, excludeServices,
    children⟩ := d
  cases excludeHost <;> rcases children with _ | (_ | _) <;> rfl

/-- A second call is for the services of a host whose own downtime is left out. -/
theorem length_rest (d : Downtime) (host : Text) :
    (d.apiChain (.host host)).rest.length = if d.excludeHost then 1 else 0 := by
  obtain ⟨comment, start, stop, hle, fixed, trigger, duration, excludeHost, excludeServices,
    children⟩ := d
  cases excludeHost <;> rfl

theorem children_eq {a b : Downtime} {host : Text}
    (h : (a.apiChain (.host host)).Alike (b.apiChain (.host host))) : a.children = b.children := by
  have hoptions := h.get?_first "child_options"
  rw [get?_childOptions, get?_childOptions] at hoptions
  apply Option.map_injective _ hoptions
  -- the two ways to reach the children have different numbers
  intro reach reach' hreach
  cases reach <;> cases reach' <;> cases Json.natural_injective hreach <;> rfl

theorem excludeHost_eq {a b : Downtime} {host : Text}
    (h : (a.apiChain (.host host)).Alike (b.apiChain (.host host))) :
    a.excludeHost = b.excludeHost := by
  have hrest := h.length_rest
  rw [length_rest, length_rest] at hrest
  cases ha : a.excludeHost <;> cases hb : b.excludeHost <;> rw [ha, hb] at hrest
  · cases hrest
  · cases hrest

/-- **The arguments of a downtime are in its calls.** -/
theorem arguments_eq {a b : Downtime} {target : Target}
    (h : (a.apiChain target).Alike (b.apiChain target)) :
    (Command.scheduleDowntime a).arguments = (Command.scheduleDowntime b).arguments := by
  obtain ⟨hauthor, hcontent, hstart, hstop, hduration, hfixed, htrigger⟩ := a.get?_apiChain target
  obtain ⟨hauthor', hcontent', hstart', hstop', hduration', hfixed', htrigger'⟩ :=
    b.get?_apiChain target
  have author := Json.string.inj (h.value_eq hauthor hauthor')
  have content := Json.string.inj (h.value_eq hcontent hcontent')
  have start := Json.natural_injective (h.value_eq hstart hstart')
  have stop := Json.natural_injective (h.value_eq hstop hstop')
  have duration := Json.natural_injective (h.value_eq hduration hduration')
  have fixed := Json.bool.inj (h.value_eq hfixed hfixed')
  have trigger := Json.natural_injective (h.value_eq htrigger htrigger')
  unfold Command.arguments
  simp only [author, content, start, stop, duration, fixed, trigger]

/-- **The word of a downtime is in its calls**, for the kinds of target that have calls. -/
theorem command?_eq {a b : Downtime} {target : Target} (hobject : target.kind.isObject = true)
    (h : (a.apiChain target).Alike (b.apiChain target)) :
    a.command? target.kind = b.command? target.kind := by
  cases target with
  | host host =>
    unfold command? Target.kind
    simp only [children_eq h, excludeHost_eq h]
  | service host service => rfl
  | hostgroup group => cases hobject
  | servicegroup group => cases hobject
  | global instance? => cases hobject

end Downtime

/-! ## Features -/

theorem ObjectFeature.mem_all (feature : ObjectFeature) : feature ∈ ObjectFeature.all := by
  cases feature <;> decide

/-- No attribute stands for two features. -/
theorem ObjectFeature.eq_of_apiAttribute? {feature other : ObjectFeature} {attr : Text}
    (h : feature.apiAttribute? = some attr) (h' : other.apiAttribute? = some attr) :
    feature = other := by
  have hall : ∀ f ∈ ObjectFeature.all, ∀ g ∈ ObjectFeature.all,
      f.apiAttribute?.isSome = true → f.apiAttribute? = g.apiAttribute? → f = g := by decide
  refine hall feature feature.mem_all other other.mem_all ?_ (h.trans h'.symm)
  rw [h]
  rfl

namespace ObjectSwitch

/-- The call of a switch has an attribute for its feature, and the value of that. -/
theorem get?_apiChain {switch : ObjectSwitch} {target : Target} {app : Text} {chain : ApiChain}
    (h : (Command.switchObject switch).apiChain target app = .ok chain) :
    ∃ attr, switch.feature.apiAttribute? = some attr ∧
      chain.first.data.get? "attrs" = some (.object [(attr, .bool switch.enabled)]) := by
  unfold Command.apiChain at h
  cases hattr : switch.feature.apiAttribute? with
  | none =>
    simp only [hattr] at h
    cases h
  | some attr =>
    simp only [hattr] at h
    rw [← Except.ok.inj h]
    refine ⟨attr, rfl, ?_⟩
    rw [get?_callFor _ _ _ (by decide) (by decide)]
    rfl

/-- **Which feature is switched, and to what, is in the call.** -/
theorem switch_eq {a b : ObjectSwitch} {target : Target} {app app' : Text}
    {chain chain' : ApiChain} (ha : (Command.switchObject a).apiChain target app = .ok chain)
    (hb : (Command.switchObject b).apiChain target app' = .ok chain') (h : chain.Alike chain') :
    a.feature = b.feature ∧ a.enabled = b.enabled := by
  obtain ⟨attr, hattr, hvalue⟩ := get?_apiChain ha
  obtain ⟨attr', hattr', hvalue'⟩ := get?_apiChain hb
  have hentries := Json.object.inj (h.value_eq hvalue hvalue')
  obtain ⟨hname, hswitched⟩ := Prod.mk.inj (List.cons.inj hentries).1
  -- the one attribute of a call is named after the feature, and no other feature has that name
  rw [← hname] at hattr'
  exact ⟨ObjectFeature.eq_of_apiAttribute? hattr hattr', Json.bool.inj hswitched⟩

/-- The word of a switch of a host or a service says nothing of members. -/
theorem word?_eq {a b : ObjectSwitch} {kind : TargetKind} (hobject : kind.isObject = true)
    (hfeature : a.feature = b.feature) (henabled : a.enabled = b.enabled) :
    (Command.switchObject a).word? kind = (Command.switchObject b).word? kind := by
  obtain ⟨feature, enabled, members⟩ := a
  obtain ⟨feature', enabled', members'⟩ := b
  subst hfeature henabled
  cases kind with
  | host => rfl
  | service => rfl
  | hostgroup => cases hobject
  | servicegroup => cases hobject
  | global => cases hobject

end ObjectSwitch

/-! ## Main result -/

namespace Command

/-- **The option that a command has in its line only**: that its comment outlives a restart, or that
its notification goes to everybody. -/
def lineOnly : Command → Option Bool
  | .acknowledge a => some a.comment.persistent
  | .addComment comment => some comment.persistent
  | .customNotification n => some n.broadcast
  | _ => none

/-- What is deleted has a number in a line and a name in a call, and neither gives the other. -/
def isDeletion : Command → Bool
  | .deleteComment _ | .deleteDowntime _ => true
  | _ => false

variable {command other : Command} {target : Target}

theorem apiChain_of_toApi {app : Text} {chain : ApiChain}
    (h : command.toApi target app = .ok chain) : command.apiChain target app = .ok chain := by
  unfold toApi at h
  by_cases hform : command.hasApiForm target.kind = true
  · rwa [if_pos hform] at h
  · rw [if_neg hform] at h
    cases h

/-- **Commands with the same calls have the same word and arguments**, if they agree in what is in
their lines only. -/
theorem SameType.word_arguments_eq (htype : SameType command other)
    (hobject : target.kind.isObject = true) (hdeletion : command.isDeletion = false)
    (hlineOnly : command.lineOnly = other.lineOnly) {app app' : Text} {chain chain' : ApiChain}
    (hchain : command.apiChain target app = .ok chain)
    (hchain' : other.apiChain target app' = .ok chain') (h : chain.Alike chain')
    (hsupports : command.supports target.kind = true) :
    command.word? target.kind = other.word? target.kind ∧ command.arguments = other.arguments := by
  cases htype with
  | acknowledge a b =>
    rw [← Except.ok.inj hchain, ← Except.ok.inj hchain'] at h
    rw [Acknowledgement.eq_of_alike h (Option.some.inj hlineOnly)]
    exact ⟨rfl, rfl⟩
  | addComment a b =>
    rw [← Except.ok.inj hchain, ← Except.ok.inj hchain'] at h
    rw [Comment.eq_of_alike h (Option.some.inj hlineOnly)]
    exact ⟨rfl, rfl⟩
  | scheduleCheck a b =>
    rw [← Except.ok.inj hchain, ← Except.ok.inj hchain'] at h
    exact ⟨CheckSchedule.word?_eq h, CheckSchedule.arguments_eq h⟩
  | scheduleDowntime a b =>
    rw [← Except.ok.inj hchain, ← Except.ok.inj hchain'] at h
    exact ⟨Downtime.command?_eq hobject h, Downtime.arguments_eq h⟩
  | customNotification a b =>
    rw [← Except.ok.inj hchain, ← Except.ok.inj hchain'] at h
    exact ⟨rfl, CustomNotification.arguments_eq h (Option.some.inj hlineOnly)⟩
  | passiveResult a b =>
    rw [← Except.ok.inj hchain, ← Except.ok.inj hchain'] at h
    rw [PassiveResult.eq_of_alike h]
    exact ⟨rfl, rfl⟩
  | switchObject a b =>
    obtain ⟨hfeature, henabled⟩ := ObjectSwitch.switch_eq hchain hchain' h
    exact ⟨ObjectSwitch.word?_eq hobject hfeature henabled, rfl⟩
  | deleteComment => cases hdeletion
  | deleteDowntime => cases hdeletion
  | removeAcknowledgement => exact ⟨rfl, rfl⟩
  | deleteAllComments => exact ⟨rfl, rfl⟩
  | delayNotification => cases hchain
  | switchInstance a b =>
    -- a switch of an instance is for nothing else
    have hglobal : target.kind = .global := eq_of_beq hsupports
    rw [hglobal] at hobject
    cases hobject
  | disableNotifications => cases hchain
  | restart => exact ⟨rfl, rfl⟩

/-- **The calls of a command leave no option of its line open** but the one that is in lines only.
Take two commands of one type for one host or service, with equal calls or calls that an instance
cannot tell apart. If they agree in that option, they are rendered to one line, so it is the same
command whichever way it is delivered. -/
theorem render_of_toApi (htype : SameType command other)
    (hobject : target.kind.isObject = true) (hdeletion : command.isDeletion = false)
    (hlineOnly : command.lineOnly = other.lineOnly) {app app' : Text} {chain chain' : ApiChain}
    (hchain : command.toApi target app = .ok chain)
    (hchain' : other.toApi target app' = .ok chain') (h : chain.Alike chain') :
    ∃ line, command.render target = .ok line ∧ other.render target = .ok line := by
  have hsupports := supports_of_toApi hchain
  obtain ⟨hword, harguments⟩ := htype.word_arguments_eq hobject hdeletion hlineOnly
    (apiChain_of_toApi hchain) (apiChain_of_toApi hchain') h hsupports
  obtain ⟨word, hfirst, hline⟩ := exists_word hsupports
  obtain ⟨word', hsecond, hline'⟩ := exists_word (supports_of_toApi hchain')
  refine ⟨_, hline, ?_⟩
  rw [hfirst, hsecond] at hword
  rw [hline', harguments, Option.some.inj hword]

/-- Which members of a group are meant is no matter for a service, in calls and in lines. -/
theorem render_of_toApi_members :
    let hosts := switchObject ⟨.notifications, false, some .hosts⟩
    let either := switchObject ⟨.notifications, false, none⟩
    let target := Target.service "web" "http"
    let chain := callFor "objects/services"
      [("attrs", .object [("enable_notifications", .bool false)])] target
    SameType hosts either ∧ target.kind.isObject = true ∧ hosts.isDeletion = false ∧
      hosts.lineOnly = either.lineOnly ∧ hosts.toApi target "app" = .ok chain ∧
      either.toApi target "icinga" = .ok chain ∧ chain.Alike chain ∧
      ∃ line, hosts.render target = .ok line ∧ either.render target = .ok line := by
  intro hosts either target chain
  have htype : SameType hosts either := .switchObject _ _
  have hchain : hosts.toApi target "app" = .ok chain := rfl
  have hchain' : either.toApi target "icinga" = .ok chain := rfl
  have halike : chain.Alike chain := .refl _
  exact ⟨htype, rfl, rfl, rfl, hchain, hchain', halike,
    render_of_toApi htype rfl rfl rfl hchain hchain' halike⟩

/-- **The options that calls leave out.** An acknowledgement and a comment make the same calls
whether they outlive a restart or not, and a notification whoever gets it; and each time there are
two lines. -/
theorem calls_without_option :
    let target := Target.host "web"
    let hides (command other : Command) : Prop :=
      SameType command other ∧ (∃ chain, command.toApi target "app" = .ok chain ∧
        other.toApi target "app" = .ok chain) ∧
      ¬ ∃ line, command.render target = .ok line ∧ other.render target = .ok line
    hides (acknowledge { comment := ⟨"me", "seen", true⟩ })
        (acknowledge { comment := ⟨"me", "seen", false⟩ }) ∧
      hides (addComment ⟨"me", "seen", true⟩) (addComment ⟨"me", "seen", false⟩) ∧
      hides (customNotification { comment := ⟨"me", "seen", false⟩, broadcast := true })
        (customNotification { comment := ⟨"me", "seen", false⟩ }) := by
  intro target hides
  -- what is rendered to two lines is not rendered to one
  have htwo : ∀ {command other : Command} {line line' : Text}, command.render target = .ok line →
      other.render target = .ok line' → line ≠ line' →
      ¬ ∃ line, command.render target = .ok line ∧ other.render target = .ok line := by
    intro command other line line' hline hline' hne hboth
    obtain ⟨both, hboth, hboth'⟩ := hboth
    rw [hline] at hboth
    rw [hline', ← hboth] at hboth'
    exact hne (Except.ok.inj hboth').symm
  refine ⟨⟨.acknowledge _ _, ⟨_, rfl, rfl⟩, ?_⟩, ⟨.addComment _ _, ⟨_, rfl, rfl⟩, ?_⟩,
    ⟨.customNotification _ _, ⟨_, rfl, rfl⟩, ?_⟩⟩
  · exact htwo rfl rfl (by decide)
  · exact htwo rfl rfl (by decide)
  · exact htwo rfl rfl (by decide)

end Command

end MonitorControl
