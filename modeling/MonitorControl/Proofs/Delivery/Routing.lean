/-
Settings decide what chain there is, and the chain decides whom a command goes to.

Settings are refused for two reasons at two times. Equal names are found when they are read.
A kind that nobody knows, or a field that a kind needs and an entry has not, is found when
the chain is built, and then the first entry that is at fault ends it. What an entry needs is
a list of fields for each kind (`TransportKind.needs`), and one equation says what is made of
an entry by its kind (`TransportKind.make_eq`).

A transport is made of one entry and takes its name and what it is bound to from it, whichever
of the three kinds it is. So who serves an instance can be read off the settings, and a
command that nobody takes has been with exactly those entries.
-/
import MonitorControl.Delivery.Settings
import MonitorControl.Proofs.Delivery.Refusal
import Mathlib.Data.List.Forall2

set_option autoImplicit false

namespace MonitorControl

open Text

/-! ## Names -/

namespace Settings

theorem firstRepeat?_eq_none_iff (seen names : List Text) :
    firstRepeat? seen names = none ↔ names.Nodup ∧ ∀ name ∈ names, name ∉ seen := by
  induction names generalizing seen with
  | nil => simp [firstRepeat?]
  | cons name names ih =>
    rw [firstRepeat?]
    by_cases hseen : name ∈ seen
    · rw [if_pos (List.contains_iff_mem.2 hseen)]
      simp [hseen]
    · rw [if_neg (mt List.contains_iff_mem.1 hseen), ih, List.nodup_cons]
      simp only [List.mem_cons, not_or]
      grind

/-- **Settings are read from JSON in which no two names are equal**, and from no other. -/
theorem parse_eq_ok_iff (t : Text) (settings : Settings) :
    parse t = .ok settings ↔ JsonSyntax.read? t >>= ofJson? = some settings ∧
      (settings.transports.map TransportSettings.name).Nodup := by
  rw [parse]
  cases hread : JsonSyntax.read? t >>= ofJson? with
  | none => simp
  | some found =>
    have hnames := firstRepeat?_eq_none_iff [] (found.transports.map TransportSettings.name)
    simp only [List.not_mem_nil, not_false_eq_true, implies_true, and_true] at hnames
    simp only [Option.some.injEq]
    cases hrepeat : firstRepeat? [] (found.transports.map TransportSettings.name) with
    | none =>
      simp only [Except.ok.injEq]
      refine ⟨?_, And.left⟩
      rintro rfl
      exact ⟨rfl, hnames.1 hrepeat⟩
    | some name =>
      refine iff_of_false nofun ?_
      rintro ⟨rfl, hnodup⟩
      rw [hnames.2 hnodup] at hrepeat
      cases hrepeat

end Settings

/-! ## Kinds and fields -/

/-- **A field that a transport may need.** -/
inductive TransportField where
  | path
  | host
  | username
  | password
  deriving DecidableEq, Repr

/-- The name of a field. -/
def TransportField.name : TransportField → Text
  | .path => "path"
  | .host => "host"
  | .username => "username"
  | .password => "password"

/-- **A kind of transport.** -/
inductive TransportKind where
  | file
  | remoteFile
  | rest
  deriving DecidableEq, Repr

namespace TransportKind

/-- The word for a kind. -/
def word : TransportKind → Text
  | .file => "local"
  | .remoteFile => "remote"
  | .rest => "api"

/-- **The fields that a kind needs**, in the order in which they are asked for. -/
def needs : TransportKind → List TransportField
  | .file => [.path]
  | .remoteFile => [.host, .path]
  | .rest => [.host, .username, .password]

end TransportKind

namespace TransportSettings

/-- The entry has a field. -/
def has (entry : TransportSettings) : TransportField → Bool
  | .path => entry.path.isSome
  | .host => entry.host.isSome
  | .username => entry.username.isSome
  | .password => entry.password.isSome

/-- **The entry is of a kind**, whatever the case of its word. -/
def IsOf (entry : TransportSettings) (kind : TransportKind) : Prop :=
  entry.kind.sameLetters kind.word = true

/-- **A complete entry** is of some kind and has all the fields that this kind needs. -/
def IsComplete (entry : TransportSettings) : Prop :=
  ∃ kind, entry.IsOf kind ∧ ∀ field ∈ kind.needs, entry.has field = true

/-- **What is wrong with an entry**: it is of no kind, or the first of the fields that its kind needs
and it has not. -/
inductive Offends (entry : TransportSettings) : SettingsFault → Prop
  | unknownKind (hkind : ∀ kind, ¬ entry.IsOf kind) :
    entry.Offends (.unknownKind entry.kind.fold entry.name)
  | missingField {kind : TransportKind} {field : TransportField} (hkind : entry.IsOf kind)
    (hmissing : kind.needs.find? (fun field => !entry.has field) = some field) :
    entry.Offends (.missingField entry.kind entry.name field.name)

/-- No entry is of two kinds. -/
theorem IsOf.unique {entry : TransportSettings} {kind kind' : TransportKind} (h : entry.IsOf kind)
    (h' : entry.IsOf kind') : kind = kind' := by
  have hwords : fold kind.word = fold kind'.word := (eq_of_beq h).symm.trans (eq_of_beq h')
  have hdistinct : ∀ k k' : TransportKind, fold k.word = fold k'.word → k = k' := by
    intro k k'
    cases k <;> cases k' <;> decide
  exact hdistinct kind kind' hwords

/-! ## One entry -/

/-- What a channel has of the entry that it is made of: the name, and what it is bound to. -/
def Names (entry : TransportSettings) : Channel → Prop
  | .file f => f.name = entry.name ∧ f.bound = entry.bound
  | .remoteFile f => f.name = entry.name ∧ f.bound = entry.bound
  | .rest r => r.name = entry.name ∧ r.bound = entry.bound

/-- What an entry is made into if it is of a kind. -/
def make (entry : TransportSettings) : TransportKind → Except SettingsFault Channel
  | .file => entry.commandFile.map .file
  | .remoteFile => entry.remoteCommandFile.map .remoteFile
  | .rest => entry.restInterface.map .rest

theorem channel_of_isOf {entry : TransportSettings} {kind : TransportKind} (h : entry.IsOf kind) :
    entry.channel = entry.make kind := by
  have hother : ∀ kind', kind ≠ kind' → ¬ entry.kind.sameLetters kind'.word = true :=
    fun kind' hne h' => hne (h.unique h')
  rw [channel]
  cases kind with
  | file => exact if_pos h
  | remoteFile => exact (if_neg (hother .file nofun)).trans (if_pos h)
  | rest =>
    exact (if_neg (hother .file nofun)).trans ((if_neg (hother .remoteFile nofun)).trans (if_pos h))

theorem channel_of_no_kind {entry : TransportSettings} (h : ∀ kind, ¬ entry.IsOf kind) :
    entry.channel = .error (.unknownKind entry.kind.fold entry.name) := by
  rw [channel]
  exact (if_neg (h .file)).trans ((if_neg (h .remoteFile)).trans (if_neg (h .rest)))

/-- **An entry with all fields becomes a channel**, which keeps its name and what it is bound to. -/
theorem make_of_has {entry : TransportSettings} {kind : TransportKind}
    (h : ∀ field ∈ kind.needs, entry.has field = true) :
    ∃ channel, entry.make kind = .ok channel ∧ entry.Names channel := by
  have hgiven : ∀ field {α : Type} (value : Option α), field ∈ kind.needs →
      entry.has field = value.isSome → ∃ a, value = some a := by
    intro field α value hfield hvalue
    rw [h field hfield] at hvalue
    exact Option.isSome_iff_exists.1 hvalue.symm
  obtain ⟨name, word, bound, path, host, port, user, username, password, app, verifyTls⟩ := entry
  cases kind with
  | file =>
    obtain ⟨path, rfl⟩ := hgiven .path path (by decide) rfl
    exact ⟨_, rfl, rfl, rfl⟩
  | remoteFile =>
    obtain ⟨host, rfl⟩ := hgiven .host host (by decide) rfl
    obtain ⟨path, rfl⟩ := hgiven .path path (by decide) rfl
    exact ⟨_, rfl, rfl, rfl⟩
  | rest =>
    obtain ⟨host, rfl⟩ := hgiven .host host (by decide) rfl
    obtain ⟨username, rfl⟩ := hgiven .username username (by decide) rfl
    obtain ⟨password, rfl⟩ := hgiven .password password (by decide) rfl
    exact ⟨_, rfl, rfl, rfl⟩

/-- **The first field that is missing** is what an entry is refused for. -/
theorem make_of_missing {entry : TransportSettings} {kind : TransportKind} {field : TransportField}
    (h : kind.needs.find? (fun field => !entry.has field) = some field) :
    entry.make kind = .error (.missingField entry.kind entry.name field.name) := by
  obtain ⟨name, word, bound, path, host, port, user, username, password, app, verifyTls⟩ := entry
  cases kind with
  | file => cases path <;> cases h; rfl
  | remoteFile => cases host <;> cases path <;> cases h <;> rfl
  | rest => cases host <;> cases username <;> cases password <;> cases h <;> rfl

/-- **An entry is complete and becomes a channel, or is at fault and is refused for it.** -/
theorem channel_cases (entry : TransportSettings) :
    (entry.IsComplete ∧ ∃ channel, entry.channel = .ok channel ∧ entry.Names channel) ∨
      ∃ fault, entry.Offends fault ∧ entry.channel = .error fault := by
  by_cases hkind : ∃ kind, entry.IsOf kind
  · obtain ⟨kind, hkind⟩ := hkind
    rw [channel_of_isOf hkind]
    cases hmissing : kind.needs.find? (fun field => !entry.has field) with
    | none =>
      have hall : ∀ field ∈ kind.needs, entry.has field = true := by
        simpa using hmissing
      exact .inl ⟨⟨kind, hkind, hall⟩, make_of_has hall⟩
    | some field =>
      exact .inr ⟨_, .missingField hkind hmissing, make_of_missing hmissing⟩
  · have hnone : ∀ kind, ¬ entry.IsOf kind := fun kind h => hkind ⟨kind, h⟩
    exact .inr ⟨_, .unknownKind hnone, channel_of_no_kind hnone⟩

theorem channel_eq_error_iff {entry : TransportSettings} {fault : SettingsFault} :
    entry.channel = .error fault ↔ entry.Offends fault := by
  constructor
  · intro h
    rcases entry.channel_cases with ⟨-, channel, hok, -⟩ | ⟨fault', hoffends, herror⟩
    · rw [hok] at h
      cases h
    · rw [herror] at h
      exact Except.error.inj h ▸ hoffends
  · rintro (hnone | ⟨hkind, hmissing⟩)
    · exact channel_of_no_kind hnone
    · rw [channel_of_isOf hkind]
      exact make_of_missing hmissing

theorem exists_channel_iff {entry : TransportSettings} :
    (∃ channel, entry.channel = .ok channel) ↔ entry.IsComplete := by
  constructor
  · rintro ⟨channel, h⟩
    rcases entry.channel_cases with ⟨hcomplete, -⟩ | ⟨fault, -, herror⟩
    · exact hcomplete
    · rw [herror] at h
      cases h
  · rintro ⟨kind, hkind, hall⟩
    obtain ⟨channel, hmade, -⟩ := make_of_has hall
    exact ⟨channel, (channel_of_isOf hkind).trans hmade⟩

theorem names_of_channel {entry : TransportSettings} {channel : Channel}
    (h : entry.channel = .ok channel) : entry.Names channel := by
  rcases entry.channel_cases with ⟨-, channel', hok, hnames⟩ | ⟨fault, -, herror⟩
  · rw [hok] at h
    exact Except.ok.inj h ▸ hnames
  · rw [herror] at h
    cases h

end TransportSettings

/-! ## All entries -/

section

variable {ε α β : Type} {f : α → Except ε β}

/-- A list of attempts succeeds if all of them do. -/
theorem mapM_eq_ok_iff {as : List α} {bs : List β} :
    as.mapM f = .ok bs ↔ List.Forall₂ (fun a b => f a = .ok b) as bs := by
  induction as generalizing bs with
  | nil =>
    rw [List.mapM_nil, List.forall₂_nil_left_iff]
    exact ⟨fun h => (Except.ok.inj h).symm, fun h => h ▸ rfl⟩
  | cons a as ih =>
    rw [List.mapM_cons, List.forall₂_cons_left_iff]
    cases ha : f a with
    | error e =>
      refine iff_of_false nofun ?_
      rintro ⟨b, bs', hb, -⟩
      cases hb
    | ok b =>
      cases has : as.mapM f with
      | error e =>
        refine iff_of_false nofun ?_
        rintro ⟨b', bs', -, hbs, -⟩
        rw [ih.2 hbs] at has
        cases has
      | ok bs' =>
        constructor
        · intro h
          exact ⟨b, bs', rfl, ih.1 has, (Except.ok.inj h).symm⟩
        · rintro ⟨b', bs'', hb, hbs, rfl⟩
          rw [ih.2 hbs] at has
          rw [Except.ok.inj hb, Except.ok.inj has]
          rfl

/-- A list of attempts fails as the first of them that fails. -/
theorem mapM_eq_error_iff {as : List α} {e : ε} :
    as.mapM f = .error e ↔ ∃ front a back, as = front ++ a :: back ∧
      (∀ a' ∈ front, ∃ b, f a' = .ok b) ∧ f a = .error e := by
  induction as with
  | nil =>
    refine iff_of_false nofun ?_
    rintro ⟨front, a, back, hnil, -⟩
    exact absurd hnil.symm (List.append_ne_nil_of_right_ne_nil front (List.cons_ne_nil a back))
  | cons a as ih =>
    rw [List.mapM_cons]
    cases ha : f a with
    | error e' =>
      show (Except.error e' : Except ε (List β)) = .error e ↔ _
      rw [Except.error.injEq]
      constructor
      · rintro rfl
        exact ⟨[], a, as, rfl, by simp, ha⟩
      · rintro ⟨front, a', back, hsplit, hfront, hfails⟩
        cases front with
        | nil =>
          obtain ⟨rfl, -⟩ := List.cons.inj hsplit
          exact Except.error.inj (ha.symm.trans hfails)
        | cons first front =>
          -- what stands in front would have succeeded
          obtain ⟨rfl, -⟩ := List.cons.inj hsplit
          obtain ⟨b, hb⟩ := hfront a List.mem_cons_self
          rw [ha] at hb
          cases hb
    | ok b =>
      have hrest : (Except.ok b >>= fun b => as.mapM f >>= fun bs => pure (b :: bs) :
          Except ε (List β)) = .error e ↔ as.mapM f = .error e := by
        cases as.mapM f with
        | error e' =>
          show Except.error e' = .error e ↔ Except.error e' = .error e
          rfl
        | ok bs => exact iff_of_false nofun nofun
      rw [hrest, ih]
      constructor
      · rintro ⟨front, a', back, rfl, hfront, hfails⟩
        exact ⟨a :: front, a', back, rfl, List.forall_mem_cons.2 ⟨⟨b, ha⟩, hfront⟩, hfails⟩
      · rintro ⟨front, a', back, hsplit, hfront, hfails⟩
        cases front with
        | nil =>
          obtain ⟨rfl, -⟩ := List.cons.inj hsplit
          rw [ha] at hfails
          cases hfails
        | cons first front =>
          obtain ⟨rfl, has⟩ := List.cons.inj hsplit
          exact ⟨front, a', back, has, (List.forall_mem_cons.1 hfront).2, hfails⟩

end

namespace Settings

variable {m : Type → Type} [Monad m] {settings : Settings} {outlets : Outlets m} {chain : Chain m}

/-- **The transports of a chain are the channels of the entries**, one for each, in order. -/
theorem chain_eq_ok_iff :
    settings.chain outlets = .ok chain ↔ ∃ channels,
      List.Forall₂ (fun entry channel => TransportSettings.channel entry = .ok channel)
        settings.transports channels ∧ chain = ⟨channels.map (Channel.transport outlets)⟩ := by
  simp only [Settings.chain, channels, ← mapM_eq_ok_iff]
  cases settings.transports.mapM TransportSettings.channel with
  | error fault => exact iff_of_false nofun (fun ⟨_, h, _⟩ => nomatch h)
  | ok channels =>
    constructor
    · intro h
      exact ⟨channels, rfl, (Except.ok.inj h).symm⟩
    · rintro ⟨channels', h, rfl⟩
      rw [Except.ok.inj h]
      rfl

/-- **The first entry that is at fault** is what no chain is built for. -/
theorem chain_eq_error_iff {fault : SettingsFault} :
    settings.chain outlets = .error fault ↔ ∃ front entry back,
      settings.transports = front ++ entry :: back ∧ (∀ other ∈ front, other.IsComplete) ∧
        entry.Offends fault := by
  have hchannels : settings.chain outlets = .error fault ↔
      settings.transports.mapM TransportSettings.channel = .error fault := by
    rw [Settings.chain, channels]
    cases settings.transports.mapM TransportSettings.channel with
    | error other =>
      show Except.error other = .error fault ↔ Except.error other = .error fault
      rw [Except.error.injEq, Except.error.injEq]
    | ok channels => exact iff_of_false nofun nofun
  rw [hchannels, mapM_eq_error_iff]
  simp only [TransportSettings.exists_channel_iff, TransportSettings.channel_eq_error_iff]

/-- **There is a chain exactly if every entry is complete.** -/
theorem exists_chain_iff :
    (∃ chain, settings.chain outlets = .ok chain) ↔
      ∀ entry ∈ settings.transports, entry.IsComplete := by
  cases hchain : settings.chain outlets with
  | ok chain =>
    refine iff_of_true ⟨chain, rfl⟩ ?_
    obtain ⟨channels, hchannels, -⟩ := chain_eq_ok_iff.1 hchain
    have hcomplete : List.Forall₂ (fun entry channel =>
        TransportSettings.IsComplete entry ∧ entry.channel = .ok channel)
        settings.transports channels :=
      hchannels.imp fun _ channel hchannel =>
        ⟨TransportSettings.exists_channel_iff.1 ⟨channel, hchannel⟩, hchannel⟩
    exact ((List.forall₂_and_left _ _).1 hcomplete).1
  | error fault =>
    refine iff_of_false nofun fun hall => ?_
    obtain ⟨front, entry, back, hsplit, -, hoffends⟩ := chain_eq_error_iff.1 hchain
    have hentry : entry ∈ settings.transports := hsplit ▸ List.mem_append_right _ List.mem_cons_self
    obtain ⟨channel, hok⟩ := TransportSettings.exists_channel_iff.2 (hall entry hentry)
    rw [TransportSettings.channel_eq_error_iff.2 hoffends] at hok
    cases hok

/-- A transport has its name and what it is bound to from its entry. -/
theorem forall₂_transports (h : settings.chain outlets = .ok chain) :
    List.Forall₂ (fun entry t => t.name = TransportSettings.name entry ∧ t.bound = entry.bound)
      settings.transports chain.transports := by
  obtain ⟨channels, hchannels, rfl⟩ := chain_eq_ok_iff.1 h
  rw [List.forall₂_map_right_iff]
  refine hchannels.imp fun entry channel hchannel => ?_
  have hnames := TransportSettings.names_of_channel hchannel
  cases channel <;> exact hnames

end Settings

/-! ## Places and entries -/

/-- The places of chosen elements lead back to them. -/
theorem map_getElem?_zipIdx {α : Type} (as : List α) (p : α → Bool) :
    ((as.zipIdx.filter fun entry => p entry.1).map fun entry => as[entry.2]?) =
      (as.filter p).map some := by
  have hat : ∀ entry ∈ as.zipIdx.filter (fun entry => p entry.1), as[entry.2]? = some entry.1 :=
    fun entry hentry => List.mem_zipIdx_iff_getElem?.1 (List.mem_of_mem_filter hentry)
  have hchosen : (as.zipIdx.filter fun entry => p entry.1).map Prod.fst = as.filter p := by
    conv => rhs; rw [← List.zipIdx_map_fst 0 as, List.filter_map]
    rfl
  rw [List.map_congr_left hat, ← hchosen, List.map_map]
  rfl

/-- **Who serves an instance can be read off the entries.** -/
theorem map_servingAt {m : Type → Type} {entries : List TransportSettings} {chain : Chain m}
    (h : List.Forall₂ (fun entry t => t.name = TransportSettings.name entry ∧ t.bound = entry.bound)
      entries chain.transports) (monitor : Option Text) :
    (chain.servingAt monitor).map (fun position => entries[position]?) =
      (entries.filter fun entry => decide (Serves entry.bound monitor)).map some := by
  obtain ⟨transports⟩ := chain
  have hplaces : ∀ k, ((transports.zipIdx k).filter fun entry =>
      decide (Serves entry.1.bound monitor)).map Prod.snd =
        ((entries.zipIdx k).filter fun entry =>
          decide (Serves entry.1.bound monitor)).map Prod.snd := by
    replace h : List.Forall₂ _ entries transports := h
    induction h with
    | nil => exact fun k => rfl
    | @cons entry t entries transports hnames _ ih =>
      intro k
      rw [List.zipIdx_cons, List.zipIdx_cons, List.filter_cons, List.filter_cons]
      dsimp only
      rw [hnames.2]
      split
      · rw [List.map_cons, List.map_cons, ih]
      · exact ih (k + 1)
  have hserving : Chain.servingAt ⟨transports⟩ monitor = ((entries.zipIdx 0).filter fun entry =>
      decide (Serves entry.1.bound monitor)).map Prod.snd := hplaces 0
  rw [hserving, List.map_map]
  exact map_getElem?_zipIdx entries fun entry => decide (Serves entry.bound monitor)

namespace Chain

/-- **The handovers of a run fail over the places that serve the instance.** -/
theorem failsOver_handovers {σ : Type} (chain : Chain (StateM σ)) (command : Command)
    (target : Target) (monitor : Option Text) (s : σ) :
    FailsOver command target monitor 0 (chain.servingAt monitor)
      (chain.handovers command target monitor s) (chain.send command target monitor s).1 := by
  obtain ⟨calls, answer, hrun, heq⟩ :=
    @sendFirst_noting command target monitor σ (chain.servers monitor) 0 [] s
  rw [List.nil_append, ← serving_noting] at heq
  have hsend : (chain.noting.send command target monitor [] s).1 = (answer, calls) := heq
  have hwatches : Watches (chain.noting.send command target monitor)
      (chain.send command target monitor) := watches_send chain
  have hwatched := hwatches.run_eq [] s
  have hanswer : (chain.send command target monitor s).1 = answer := by
    rw [hwatched] at hsend
    exact congrArg Prod.fst hsend
  rw [← map_snd_servers, hanswer, handovers, hsend]
  exact hrun

end Chain

/-! ## Main result -/

/-- **Settings determine routing.** Settings are read from JSON exactly if no two of its transports
have the same name. There is a chain for them exactly if every entry is of a known kind and has the
fields that this kind needs; and if there is none, the fault is that of the first entry that is at
fault. The transports of the chain are those of the entries, in order, each with the name of its
entry and bound to what the entry is bound to. A command for an instance that every transport fails
to take has been handed to exactly the entries that are bound to nothing, to `none` or to this
instance, in order. -/
theorem Settings.chain_routes {σ : Type} (settings : Settings) (outlets : Outlets (StateM σ)) :
    (∀ t, Settings.parse t = .ok settings ↔
      JsonSyntax.read? t >>= Settings.ofJson? = some settings ∧
        (settings.transports.map TransportSettings.name).Nodup) ∧
    ((∃ chain, settings.chain outlets = .ok chain) ↔
      ∀ entry ∈ settings.transports, entry.IsComplete) ∧
    (∀ fault, settings.chain outlets = .error fault ↔ ∃ front entry back,
      settings.transports = front ++ entry :: back ∧ (∀ other ∈ front, other.IsComplete) ∧
        entry.Offends fault) ∧
    ∀ chain, settings.chain outlets = .ok chain →
      List.Forall₂ (fun entry t => t.name = TransportSettings.name entry ∧ t.bound = entry.bound)
        settings.transports chain.transports ∧
      ∀ command target monitor s, (chain.send command target (some monitor) s).1 ≠ .ok () →
        (chain.handovers command target (some monitor) s).map
            (fun call => settings.transports[call.position]?) =
          (settings.transports.filter fun entry =>
            decide (Serves entry.bound (some monitor))).map some := by
  refine ⟨fun t => parse_eq_ok_iff t settings, exists_chain_iff, fun _ => chain_eq_error_iff, ?_⟩
  intro chain hchain
  have htransports := forall₂_transports hchain
  refine ⟨htransports, fun command target monitor s hfailed => ?_⟩
  have hcalls := ((chain.failsOver_handovers command target (some monitor) s).of_answer_ne_ok
    hfailed).1
  rw [← map_servingAt htransports (some monitor), ← hcalls, List.map_map]
  rfl

/-- Three kinds of entry, of which one is bound to another instance, on a site where nothing works. -/
theorem Settings.chain_routes_main :
    let settings : Settings :=
      { transports := [
          { name := "a", path := some "cmd", bound := some "Main" },
          { name := "b", kind := "Remote", host := some "h", path := some "cmd",
            bound := some "other" },
          { name := "c", kind := "API", host := some "h", username := some "u",
            password := some "p", bound := some "NONE" }] }
    let t : Text :=
      "\x7b\"transports\": [".toList ++
        "\x7b\"name\": \"a\", \"path\": \"cmd\", \"instance\": \"Main\"\x7d,".toList ++
        "\x7b\"name\": \"b\", \"transport\": \"Remote\", \"host\": \"h\",".toList ++
        "\"path\": \"cmd\", \"instance\": \"other\"\x7d,".toList ++
        "\x7b\"name\": \"c\", \"transport\": \"API\", \"host\": \"h\",".toList ++
        "\"username\": \"u\", \"password\": \"p\", \"instance\": \"NONE\"\x7d]\x7d".toList
    let site : Site := {}
    JsonSyntax.read? t >>= Settings.ofJson? = some settings ∧ Settings.parse t = .ok settings ∧
    ∃ chain, settings.chain Site.outlets = .ok chain ∧
      (chain.send .restart (.global none) (some "main".toList) site).1 ≠ .ok () ∧
      (chain.handovers .restart (.global none) (some "main".toList) site).map
          (fun call => settings.transports[call.position]?) =
        [settings.transports[0]?, settings.transports[2]?] := by
  intro settings t site
  have hroutes := Settings.chain_routes settings Site.outlets
  have hread : JsonSyntax.read? t >>= Settings.ofJson? = some settings := by
    decide +kernel
  have hparse : Settings.parse t = .ok settings := (hroutes.1 t).2 ⟨hread, by decide⟩
  obtain ⟨chain, hchain, hfails⟩ : ∃ chain, settings.chain Site.outlets = .ok chain ∧
      (chain.send .restart (.global none) (some "main".toList) site).1 ≠ .ok () :=
    ⟨_, rfl, by decide +kernel⟩
  have hcalls := (hroutes.2.2.2 chain hchain).2 .restart (.global none) "main".toList site hfails
  exact ⟨hread, hparse, chain, hchain, hfails, hcalls.trans (by decide +kernel)⟩

end MonitorControl
