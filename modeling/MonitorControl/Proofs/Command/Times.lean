/-
The times in commands, from the calls that give them to the lines and calls that carry them.

A command is made by one call, and others set its options. A call that is given a time
checks it; nothing checks it again, and rendering writes down what is there. So what an
instance gets is right only if no call lets a wrong time in, and no call touches a time
that it was not given. Both are said of a call at a time (`Takes`): it fails exactly if
something is wrong with its own times, and else the times of the command are those the
call was given and, for the rest, those it had before.

By induction on the calls a command then has each time as it was last given
(`Built.time?_eq`), and that is what its arguments and the data of its calls show.
-/
import MonitorControl.Proofs.Command.RestForm

set_option autoImplicit false

namespace MonitorControl

/-! ## Times -/

/-- **A time in a command**: a moment, a delay or a length of time. -/
inductive CommandTime where
  | acknowledgementEnd
  | check
  | start
  | stop
  | duration
  | delay
  | issue
  | notificationsEnd
  deriving DecidableEq, Repr

namespace CommandTime

/-- The name of the commands that have the time. -/
def command : CommandTime → Text
  | .acknowledgementEnd => Acknowledgement.commandName
  | .check => CheckSchedule.commandName
  | .start | .stop | .duration => Downtime.commandName
  | .delay => "DelayNotificationCommand"
  | .issue | .notificationsEnd => "DisableNotificationsExpireCommand"

/-- What the time is called in messages. -/
def what : CommandTime → Text
  | .acknowledgementEnd | .notificationsEnd => "expire time"
  | .check => "check time"
  | .start => "start time"
  | .stop => "end time"
  | .duration => "duration"
  | .delay => "delay"
  | .issue => "issue time"

/-- The number of arguments in front of it. -/
def place : CommandTime → Nat
  | .check | .start | .delay | .issue => 0
  | .stop | .notificationsEnd => 1
  | .acknowledgementEnd => 3
  | .duration => 4

/-- Its key in the data of a call, if commands with the time have calls. -/
def key? : CommandTime → Option Text
  | .acknowledgementEnd => some "expiry"
  | .check => some "next_check"
  | .start => some "start_time"
  | .stop => some "end_time"
  | .duration => some "duration"
  | .delay | .issue | .notificationsEnd => none

/-- No key of a time names the target. -/
theorem key?_ne {t : CommandTime} {key : Text} (h : t.key? = some key) :
    key ≠ "host" ∧ key ≠ "service" := by
  cases t <;> cases h <;> decide

end CommandTime

/-- **The time that a command has**, if it has one. -/
def Command.time? : Command → CommandTime → Option Int
  | .acknowledge a, .acknowledgementEnd => a.expire.map Int.ofNat
  | .scheduleCheck schedule, .check => some schedule.time
  | .scheduleDowntime d, .start => some d.start
  | .scheduleDowntime d, .stop => some d.stop
  | .scheduleDowntime d, .duration => some d.duration
  | .delayNotification seconds, .delay => some seconds
  | .disableNotifications issued _, .issue => some issued
  | .disableNotifications _ expire, .notificationsEnd => some expire
  | _, _ => none

/-! ## What is wrong with times -/

/-- **The error that some times lead to**: the first one that is negative, or else an end before the
start. -/
inductive Refusal (times : List (CommandTime × Int)) : CommandError → Prop where
  | negative {t : CommandTime} {value : Int}
    (h : times.find? (fun given => given.2 < 0) = some (t, value)) :
    Refusal times (.invalidArgument t.command (.negative t.what value))
  | endBeforeStart {start stop : Nat} (hnonneg : ∀ given ∈ times, 0 ≤ given.2)
    (hstart : times.lookup .start = some (start : Int))
    (hstop : times.lookup .stop = some (stop : Int)) (h : stop < start) :
    Refusal times (.invalidArgument Downtime.commandName (.endBeforeStart stop start))

theorem Refusal.head {t : CommandTime} {value : Int} (times : List (CommandTime × Int))
    (hvalue : value < 0) :
    Refusal ((t, value) :: times) (.invalidArgument t.command (.negative t.what value)) :=
  .negative (List.find?_cons_of_pos (decide_eq_true hvalue))

theorem Refusal.second {t u : CommandTime} {first value : Int} (times : List (CommandTime × Int))
    (hfirst : 0 ≤ first) (hvalue : value < 0) :
    Refusal ((t, first) :: (u, value) :: times)
      (.invalidArgument u.command (.negative u.what value)) := by
  refine .negative ((List.find?_cons_of_neg ?_).trans (List.find?_cons_of_pos ?_))
  · rw [decide_eq_true_eq]
    omega
  · exact decide_eq_true hvalue

/-- **A call with some times**, for a command that has had other times: it fails exactly if a time is
negative or the end is before the start, and says so. Else the command has the times of the call, and
in place of those it is not given the ones from before. -/
inductive Takes (before : CommandTime → Option Int) (times : List (CommandTime × Int)) :
    Except CommandError Command → Prop where
  | accepted {command : Command} (hnonneg : ∀ given ∈ times, 0 ≤ given.2)
    (hordered : ∀ start stop, times.lookup .start = some start →
      times.lookup .stop = some stop → start ≤ stop)
    (htimes : ∀ t, command.time? t = (times.lookup t).or (before t)) :
    Takes before times (.ok command)
  | refused {e : CommandError} (h : Refusal times e) : Takes before times (.error e)

/-- A call without times never fails. -/
theorem Takes.untimed {before : CommandTime → Option Int} {command : Command}
    (htimes : ∀ t, command.time? t = before t) : Takes before [] (.ok command) :=
  .accepted (fun _ hgiven => absurd hgiven List.not_mem_nil) (fun _ _ hstart => nomatch hstart) htimes

/-- A number is checked: it is natural, or there is an error that shows it. -/
theorem nonNegative_cases (name what : Text) (value : Int) :
    (∃ n : Nat, value = n ∧ nonNegative name what value = .ok n) ∨
      value < 0 ∧ nonNegative name what value =
        .error (.invalidArgument name (.negative what value)) := by
  cases value with
  | ofNat n => exact .inl ⟨n, rfl, rfl⟩
  | negSucc n => exact .inr ⟨Int.negSucc_lt_zero n, rfl⟩

/-- **A call with one time** checks it under its name. -/
theorem Takes.one {before : CommandTime → Option Int} {t : CommandTime} {value : Int}
    {command : Nat → Command}
    (htimes : ∀ n : Nat, ∀ u, (command n).time? u = ([(t, (n : Int))].lookup u).or (before u)) :
    Takes before [(t, value)] ((nonNegative t.command t.what value).map command) := by
  rcases nonNegative_cases t.command t.what value with ⟨n, rfl, hvalue⟩ | ⟨hnegative, hvalue⟩
  · rw [hvalue]
    refine .accepted ?_ ?_ (htimes n)
    · intro given hgiven
      rw [List.mem_singleton.1 hgiven]
      exact Int.natCast_nonneg n
    · -- one time is not both the start and the end
      intro start stop hstart hstop
      cases t with
      | start => cases hstop
      | _ => cases hstart
  · rw [hvalue]
    exact .refused (.head [] hnegative)

/-! ## Making commands -/

/-- **A call that makes a command.** -/
inductive NewCommand where
  | acknowledge (comment : Comment)
  | removeAcknowledgement
  | addComment (comment : Comment)
  | deleteComment (id : Nat)
  | deleteAllComments
  | scheduleCheck (time : Int)
  | scheduleDowntime (comment : Comment) (start stop : Int)
  | deleteDowntime (id : Nat)
  | customNotification (comment : Comment)
  | delayNotification (seconds : Int)
  | passiveResult (state : Nat) (output : Text)
  | switchObject (feature : ObjectFeature) (enabled : Bool)
  | switchInstance (feature : InstanceFeature) (enabled : Bool)
  /-- The time of issue is given, or read off the clock. -/
  | disableNotifications (issued expire : Int)
  | restart
  deriving DecidableEq, Repr

namespace NewCommand

/-- **The command that a call makes.** -/
def make : NewCommand → Except CommandError Command
  | .acknowledge comment => .ok (.acknowledge { comment })
  | .removeAcknowledgement => .ok .removeAcknowledgement
  | .addComment comment => .ok (.addComment comment)
  | .deleteComment id => .ok (.deleteComment { id })
  | .deleteAllComments => .ok .deleteAllComments
  | .scheduleCheck time => (CheckSchedule.at? time).map .scheduleCheck
  | .scheduleDowntime comment start stop =>
    (Downtime.between comment start stop).map .scheduleDowntime
  | .deleteDowntime id => .ok (.deleteDowntime { id })
  | .customNotification comment => .ok (.customNotification { comment })
  | .delayNotification seconds => Command.delayNotificationBy seconds
  | .passiveResult state output => .ok (.passiveResult { state, output })
  | .switchObject feature enabled => .ok (.switchObject { feature, enabled })
  | .switchInstance feature enabled => .ok (.switchInstance { feature, enabled })
  | .disableNotifications issued expire => Command.disableNotificationsUntil issued expire
  | .restart => .ok .restart

/-- **The times that a call is given.** A downtime begins with a duration of no seconds. -/
def times : NewCommand → List (CommandTime × Int)
  | .scheduleCheck time => [(.check, time)]
  | .scheduleDowntime _ start stop => [(.start, start), (.stop, stop), (.duration, 0)]
  | .delayNotification seconds => [(.delay, seconds)]
  | .disableNotifications issued expire => [(.issue, issued), (.notificationsEnd, expire)]
  | _ => []

/-- A downtime is refused for its start, then for its end, and then for their order. -/
theorem takes_scheduleDowntime (comment : Comment) (start stop : Int) :
    Takes (fun _ => none) [(.start, start), (.stop, stop), (.duration, 0)]
      (make (.scheduleDowntime comment start stop)) := by
  rw [make, Downtime.between]
  rcases nonNegative_cases Downtime.commandName "start time" start with
    ⟨first, rfl, hstart⟩ | ⟨hnegative, hstart⟩
  · rw [hstart]
    rcases nonNegative_cases Downtime.commandName "end time" stop with
      ⟨last, rfl, hstop⟩ | ⟨hnegative, hstop⟩
    · rw [hstop]
      have hnonneg : ∀ given ∈ [(CommandTime.start, (first : Int)), (.stop, (last : Int)),
          (.duration, 0)], 0 ≤ given.2 := by
        simp
      by_cases hle : first ≤ last
      · show Takes _ _ (Except.map _ (if h : first ≤ last then _ else _))
        rw [dif_pos hle]
        refine .accepted hnonneg ?_ fun t => by cases t <;> rfl
        intro start stop hfirst hlast
        cases hfirst
        cases hlast
        exact Int.ofNat_le.2 hle
      · show Takes _ _ (Except.map _ (if h : first ≤ last then _ else _))
        rw [dif_neg hle]
        exact .refused (.endBeforeStart hnonneg rfl rfl (Nat.lt_of_not_le hle))
    · rw [hstop]
      exact .refused (.second _ (Int.natCast_nonneg first) hnegative)
  · rw [hstart]
    exact .refused (.head _ hnegative)

theorem takes_disableNotifications (issued expire : Int) :
    Takes (fun _ => none) [(.issue, issued), (.notificationsEnd, expire)]
      (make (.disableNotifications issued expire)) := by
  rw [make, Command.disableNotificationsUntil]
  rcases nonNegative_cases "DisableNotificationsExpireCommand" "issue time" issued with
    ⟨first, rfl, hissued⟩ | ⟨hnegative, hissued⟩
  · rcases nonNegative_cases "DisableNotificationsExpireCommand" "expire time" expire with
      ⟨last, rfl, hexpire⟩ | ⟨hnegative, hexpire⟩
    · simp only [hissued, hexpire]
      refine .accepted (by simp) (fun _ _ hstart => nomatch hstart) fun t => by cases t <;> rfl
    · simp only [hissued, hexpire]
      exact .refused (.second _ (Int.natCast_nonneg first) hnegative)
  · simp only [hissued]
    exact .refused (.head _ hnegative)

/-- **A call that makes a command takes its times**, with nothing there before. -/
theorem takes (new : NewCommand) : Takes (fun _ => none) new.times new.make := by
  cases new with
  | scheduleCheck time =>
    have hmake : make (.scheduleCheck time) =
        (nonNegative CheckSchedule.commandName "check time" time).map
          fun n => .scheduleCheck { time := n } := by
      cases time <;> rfl
    rw [hmake]
    exact .one fun n t => by cases t <;> rfl
  | scheduleDowntime comment start stop => exact takes_scheduleDowntime comment start stop
  | delayNotification seconds =>
    have hmake : make (.delayNotification seconds) =
        (nonNegative "DelayNotificationCommand" "delay" seconds).map .delayNotification := by
      cases seconds <;> rfl
    rw [hmake]
    exact .one fun n t => by cases t <;> rfl
  | disableNotifications issued expire => exact takes_disableNotifications issued expire
  | _ => exact .untimed fun t => by cases t <;> rfl

end NewCommand

/-! ## Setting options -/

/-- **A call that sets an option of a command.** -/
inductive CommandOption where
  | sticky (sticky : Bool)
  | notify (notify : Bool)
  | expireAt (time : Int)
  | apiName (name : Text)
  | forced (forced : Bool)
  | excludeHost (exclude : Bool)
  | fixed (fixed : Bool)
  | lasting (seconds : Int)
  | triggeredBy (trigger : Nat)
  | excludeServices (exclude : Bool)
  | includeChildren (children : ChildPropagation)
  | broadcast (broadcast : Bool)
  | performanceData (data : Text)
  | members (members : GroupMembers)
  deriving DecidableEq, Repr

/-- The times that a call is given. -/
def CommandOption.times : CommandOption → List (CommandTime × Int)
  | .expireAt time => [(.acknowledgementEnd, time)]
  | .lasting seconds => [(.duration, seconds)]
  | _ => []

/-- **The command with an option set**, if commands of its type have the option. -/
def Command.set? (command : Command) (option : CommandOption) :
    Option (Except CommandError Command) :=
  match command, option with
  | .acknowledge a, .sticky sticky => some (.ok (.acknowledge { a with sticky }))
  | .acknowledge a, .notify notify => some (.ok (.acknowledge { a with notify }))
  | .acknowledge a, .expireAt time => some ((a.expireAt time).map .acknowledge)
  | .deleteComment deletion, .apiName name =>
    some (.ok (.deleteComment { deletion with apiName := some name }))
  | .deleteDowntime deletion, .apiName name =>
    some (.ok (.deleteDowntime { deletion with apiName := some name }))
  | .scheduleCheck schedule, .forced forced =>
    some (.ok (.scheduleCheck { schedule with forced }))
  | .scheduleCheck schedule, .excludeHost exclude =>
    some (.ok (.scheduleCheck { schedule with excludeHost := exclude }))
  | .scheduleDowntime d, .fixed fixed => some (.ok (.scheduleDowntime { d with fixed }))
  | .scheduleDowntime d, .lasting seconds => some ((d.lasting seconds).map .scheduleDowntime)
  | .scheduleDowntime d, .triggeredBy trigger => some (.ok (.scheduleDowntime { d with trigger }))
  | .scheduleDowntime d, .excludeHost exclude =>
    some (.ok (.scheduleDowntime { d with excludeHost := exclude }))
  | .scheduleDowntime d, .excludeServices exclude =>
    some (.ok (.scheduleDowntime { d with excludeServices := exclude }))
  | .scheduleDowntime d, .includeChildren children =>
    some (.ok (.scheduleDowntime { d with children := some children }))
  | .customNotification n, .forced forced => some (.ok (.customNotification { n with forced }))
  | .customNotification n, .broadcast broadcast =>
    some (.ok (.customNotification { n with broadcast }))
  | .passiveResult r, .performanceData data =>
    some (.ok (.passiveResult { r with performanceData := data }))
  | .switchObject switch, .members members =>
    some (.ok (.switchObject { switch with members := some members }))
  | _, _ => none

/-- **A call that sets an option takes its times**, and leaves the others as they are. -/
theorem Command.takes_set {command : Command} {option : CommandOption}
    {outcome : Except CommandError Command} (h : command.set? option = some outcome) :
    Takes command.time? option.times outcome := by
  cases option with
  | expireAt time =>
    cases command with
    | acknowledge a =>
      have hexpire : (a.expireAt time).map Command.acknowledge =
          (nonNegative Acknowledgement.commandName "expire time" time).map
            fun n => .acknowledge { a with expire := some n } := by
        cases time <;> rfl
      rw [← Option.some.inj h, hexpire]
      exact .one fun n t => by cases t <;> rfl
    | _ => cases h
  | lasting seconds =>
    cases command with
    | scheduleDowntime d =>
      have hlasting : (d.lasting seconds).map Command.scheduleDowntime =
          (nonNegative Downtime.commandName "duration" seconds).map
            fun n => .scheduleDowntime { d with duration := n } := by
        cases seconds <;> rfl
      rw [← Option.some.inj h, hlasting]
      exact .one fun n t => by cases t <;> rfl
    | _ => cases h
  | _ =>
    -- no other option is given a time, and none touches one
    cases command <;> cases h <;> exact .untimed fun t => by cases t <;> rfl

/-! ## Building commands -/

/-- **A command that some calls have built**, and all times that they were given, the last first. -/
inductive Built : Command → List (CommandTime × Int) → Prop where
  | made (new : NewCommand) {command : Command} (h : new.make = .ok command) :
    Built command new.times
  | set {command next : Command} {given : List (CommandTime × Int)} (hbuilt : Built command given)
    (option : CommandOption) (h : command.set? option = some (.ok next)) :
    Built next (option.times ++ given)

/-- **A command has each time as it was last given.** The induction is on the calls; each takes its
own times and keeps the others. -/
theorem Built.time?_eq {command : Command} {given : List (CommandTime × Int)}
    (h : Built command given) (t : CommandTime) : command.time? t = given.lookup t := by
  induction h with
  | made new h =>
    have htakes := new.takes
    rw [h] at htakes
    cases htakes with
    | accepted _ _ htimes => rw [htimes, Option.or_none]
  | set _ option h ih =>
    cases Command.takes_set h with
    | accepted _ _ htimes => rw [htimes, List.lookup_append, ih]

/-! ## Times in lines and calls -/

theorem Text.ofInt_natCast (n : Nat) : ofInt n = ofNat n := if_neg (by omega)

namespace Command

variable {command : Command} {t : CommandTime}

/-- **A time that a command has is not negative, and stands among its arguments.** -/
theorem argument_of_time? {value : Int} (h : command.time? t = some value) :
    0 ≤ value ∧ command.arguments[t.place]? = some (Text.ofInt value) := by
  cases command with
  | acknowledge a =>
    cases t with
    | acknowledgementEnd =>
      obtain ⟨n, hexpire, rfl⟩ := Option.map_eq_some_iff.1 h
      refine ⟨Int.natCast_nonneg n, ?_⟩
      rw [arguments, hexpire]
      exact congrArg some (Text.ofInt_natCast n).symm
    | _ => cases h
  | _ =>
    cases t <;> cases h <;> exact ⟨Int.natCast_nonneg _, congrArg some (Text.ofInt_natCast _).symm⟩

/-- **A downtime does not end before it starts.** -/
theorem start_le_stop_of_time? {start stop : Int} (hstart : command.time? .start = some start)
    (hstop : command.time? .stop = some stop) : start ≤ stop := by
  cases command with
  | scheduleDowntime d =>
    obtain rfl := Option.some.inj hstart
    obtain rfl := Option.some.inj hstop
    exact Int.ofNat_le.2 d.start_le_stop
  | _ => cases hstart

/-- **What stands under the key of a time** in the data of a call, for the commands that can have the
time: the time, or `null` for one that has none. -/
def timeEntry? (command : Command) (t : CommandTime) : Option Json :=
  if command.name = t.command then some ((command.time? t).elim .null .integer) else none

/-- **The data show the times of a command** under their keys. -/
def ShowsTimes (command : Command) (data : Json) : Prop :=
  ∀ t key, CommandTime.key? t = some key → data.get? key = command.timeEntry? t

/-- One call for a target shows what the entries of the command show. -/
theorem showsTimes_callFor {endpoint : Text} {entries : List (Text × Json)} {target : Target}
    (h : command.ShowsTimes (.object entries)) :
    ∀ call ∈ (callFor endpoint entries target).toList, command.ShowsTimes call.data := by
  intro call hcall t key hkey
  rw [List.mem_singleton.1 hcall]
  obtain ⟨hhost, hservice⟩ := CommandTime.key?_ne hkey
  exact (get?_callFor endpoint entries target hhost hservice).trans (h t key hkey)

/-- The check of the services of a host has data of its own. -/
theorem showsTimes_scheduleCheck (schedule : CheckSchedule) (target : Target) :
    ∀ call ∈ (schedule.apiChain target).toList,
      (scheduleCheck schedule).ShowsTimes call.data := by
  have hentries : (scheduleCheck schedule).ShowsTimes (.object schedule.apiEntries) := by
    intro t key hkey
    cases t <;> cases hkey <;> rfl
  unfold CheckSchedule.apiChain
  split
  · intro call hcall t key hkey
    rw [List.mem_singleton.1 hcall]
    cases t <;> cases hkey <;> rfl
  · exact showsTimes_callFor hentries

/-- The downtime of a host says how its children are reached, and may have a second call for the
services of the host. -/
theorem showsTimes_scheduleDowntime (d : Downtime) (target : Target) :
    ∀ call ∈ (d.apiChain target).toList, (scheduleDowntime d).ShowsTimes call.data := by
  intro call hcall t key hkey
  obtain ⟨comment, start, stop, hle, fixed, trigger, duration, excludeHost, excludeServices,
    children⟩ := d
  cases target with
  | host host =>
    cases excludeHost with
    | false =>
      rw [List.mem_singleton.1 hcall]
      rcases children with _ | (_ | _) <;> cases t <;> cases hkey <;> rfl
    | true =>
      rcases List.mem_pair.1 hcall with rfl | rfl
      · rcases children with _ | (_ | _) <;> cases t <;> cases hkey <;> rfl
      · cases t <;> cases hkey <;> rfl
  | _ =>
    rw [List.mem_singleton.1 hcall]
    cases t <;> cases hkey <;> rfl

/-- **Every call of a command shows its times.** -/
theorem showsTimes_of_toApi {target : Target} {app : Text} {chain : ApiChain}
    (h : command.toApi target app = .ok chain) :
    ∀ call ∈ chain.toList, command.ShowsTimes call.data := by
  have hchain := apiChain_of_toApi h
  cases command with
  | acknowledge a =>
    cases hchain
    refine showsTimes_callFor fun t key hkey => ?_
    obtain ⟨comment, sticky, notify, _ | expire⟩ := a <;> cases t <;> cases hkey <;> rfl
  | scheduleCheck schedule =>
    cases hchain
    exact showsTimes_scheduleCheck schedule target
  | scheduleDowntime d =>
    cases hchain
    exact showsTimes_scheduleDowntime d target
  -- the others have no time, and no entry under the key of one
  | removeAcknowledgement | addComment | customNotification | passiveResult =>
    cases hchain
    exact showsTimes_callFor fun t key hkey => by cases t <;> cases hkey <;> rfl
  | deleteComment deletion | deleteDowntime deletion =>
    obtain ⟨id, _ | name⟩ := deletion
    · cases hchain
    · cases hchain
      intro call hcall t key hkey
      rw [List.mem_singleton.1 hcall]
      cases t <;> cases hkey <;> rfl
  | switchObject switch =>
    unfold apiChain at hchain
    cases hattr : switch.feature.apiAttribute? with
    | none =>
      simp only [hattr] at hchain
      cases hchain
    | some attr =>
      simp only [hattr] at hchain
      rw [← Except.ok.inj hchain]
      exact showsTimes_callFor fun t key hkey => by cases t <;> cases hkey <;> rfl
  | switchInstance switch =>
    unfold apiChain at hchain
    cases hattr : switch.feature.apiAttribute? with
    | none =>
      simp only [hattr] at hchain
      cases hchain
    | some attr =>
      simp only [hattr] at hchain
      rw [← Except.ok.inj hchain]
      intro call hcall t key hkey
      rw [List.mem_singleton.1 hcall]
      cases t <;> cases hkey <;> rfl
  | deleteAllComments | delayNotification | disableNotifications | restart => cases hchain

/-- **A command carries the times that it was given**, the last first, wherever it is sent. -/
structure CarriesTimes (command : Command) (given : List (CommandTime × Int)) : Prop where
  /-- A time is the one that was given last. -/
  last : ∀ t, command.time? t = given.lookup t
  /-- It is not negative, and stands in its place among the arguments. -/
  argument : ∀ t value, command.time? t = some value →
    0 ≤ value ∧ command.arguments[t.place]? = some (Text.ofInt value)
  /-- A start is not after its end. -/
  ordered : ∀ start stop, command.time? .start = some start → command.time? .stop = some stop →
    start ≤ stop
  /-- Every call shows it under its key. -/
  shown : ∀ target app chain, command.toApi target app = .ok chain → ∀ call ∈ chain.toList,
    command.ShowsTimes call.data

end Command

/-! ## Main result -/

/-- **No wrong time reaches an instance.** A call that makes a command, or sets an option of one,
fails exactly if a time that it is given is negative or the end is before the start; then there is an
error that says so, and no command. In whatever order such calls have built a command, and however
often they were repeated, each of its times is the last that was given for it. It is not negative,
no start is after its end, and so they stand among the arguments and in the data of every call. -/
theorem built_carriesTimes :
    (∀ new : NewCommand, Takes (fun _ => none) new.times new.make) ∧
      (∀ (command : Command) (option : CommandOption) (outcome : Except CommandError Command),
        command.set? option = some outcome → Takes command.time? option.times outcome) ∧
      ∀ (command : Command) (given : List (CommandTime × Int)),
        Built command given → command.CarriesTimes given := by
  refine ⟨NewCommand.takes, fun _ _ _ h => Command.takes_set h, fun command given hbuilt => ?_⟩
  exact
    { last := hbuilt.time?_eq
      argument := fun _ _ htime => Command.argument_of_time? htime
      ordered := fun _ _ hstart hstop => Command.start_le_stop_of_time? hstart hstop
      shown := fun _ _ _ hchain => Command.showsTimes_of_toApi hchain }

/-- A downtime that was to last ten minutes and then half a minute, for the services of a host: half a
minute is in the line and in both calls. To make it shorter than nothing is refused. -/
theorem built_carriesTimes_downtime :
    let comment : Comment := { author := "me", content := "moving" }
    let d : Downtime := ⟨comment, 5, 9, by decide, false, 0, 30, true, false, none⟩
    let given := [(CommandTime.duration, (30 : Int)), (.duration, 600), (.start, 5), (.stop, 9),
      (.duration, 0)]
    Built (.scheduleDowntime d) given ∧
      (Command.scheduleDowntime d).arguments[4]? = some "30".toList ∧
      (∃ chain, (Command.scheduleDowntime d).toApi (.host "web") "app" = .ok chain ∧
        chain.toList.length = 2 ∧
        ∀ call ∈ chain.toList, call.data.get? "duration" = some (.integer 30)) ∧
      ∃ e, (Command.scheduleDowntime d).set? (.lasting (-1)) = some (.error e) ∧
        Refusal [(.duration, -1)] e := by
  intro comment d given
  have hmade : Built _ _ := .made (.scheduleDowntime comment 5 9) rfl
  have htwice : Built _ _ := (hmade.set (.lasting 600) rfl).set (.lasting 30) rfl
  have hbuilt : Built (.scheduleDowntime d) given :=
    (htwice.set (.fixed false) rfl).set (.excludeHost true) rfl
  obtain ⟨-, hset, hbuild⟩ := built_carriesTimes
  have hcarries := hbuild (.scheduleDowntime d) given hbuilt
  refine ⟨hbuilt, (hcarries.argument .duration 30 rfl).2, ⟨_, rfl, rfl, fun call hcall => ?_⟩,
    _, rfl, ?_⟩
  · exact hcarries.shown (.host "web") "app" _ rfl call hcall .duration "duration" rfl
  · cases hset (.scheduleDowntime d) (.lasting (-1)) _ rfl with
    | refused h => exact h

end MonitorControl
