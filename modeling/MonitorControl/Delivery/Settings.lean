/-
Settings: the transports in the order in which they are tried, and the columns of
the fields of a filter.

Settings are a JSON document. Names of transports must differ when it is read;
whether each transport has the fields that its kind needs is settled when the
chain is built.
-/
import MonitorControl.Delivery.CommandFile
import MonitorControl.Delivery.RestInterface
import MonitorControl.Json.Record

set_option autoImplicit false

namespace MonitorControl

/-! ## Errors -/

/-- **What is wrong with settings** that can be read. -/
inductive SettingsFault where
  | duplicateName (name : Text)
  /-- The kind is given as it is written. -/
  | missingField (kind name field : Text)
  | unknownKind (kind name : Text)
  deriving DecidableEq, Repr

/-- The text of a fault. -/
def SettingsFault.message : SettingsFault → Text
  | .duplicateName name => "duplicate transport name `".toList ++ name ++ "`".toList
  | .missingField kind name field =>
    kind ++ " transport `".toList ++ name ++ "` needs `".toList ++ field ++ "`".toList
  | .unknownKind kind name =>
    "unknown transport `".toList ++ kind ++ "` for `".toList ++ name ++ "`".toList

/-- **Why there are no settings.** -/
inductive SettingsError where
  | missing (path : Text)
  | unreadable (path reason : Text)
  | malformed
  | invalid (fault : SettingsFault)
  deriving DecidableEq, Repr

/-- The text of an error. -/
def SettingsError.message : SettingsError → Text
  | .missing path => "config file does not exist: ".toList ++ path
  | .unreadable path reason => "can't read config file ".toList ++ path ++ ": ".toList ++ reason
  | .malformed => "can't parse config file"
  | .invalid fault => "invalid config: ".toList ++ fault.message

/-! ## Transports in settings -/

/-- **A transport in settings.** Which fields it needs depends on its kind: `local` needs a path,
`remote` a host and a path, `api` a host, a user name and a password. -/
structure TransportSettings where
  name : Text
  kind : Text := "local"
  bound : Option Text := none
  path : Option Text := none
  host : Option Text := none
  port : Option Nat := none
  user : Option Text := none
  username : Option Text := none
  password : Option Text := none
  app : Option Text := none
  verifyTls : Option Bool := none
  deriving DecidableEq, Repr

/-- **A transport with all that it needs.** -/
inductive Channel where
  | file (f : CommandFile)
  | remoteFile (f : RemoteCommandFile)
  | rest (r : RestInterface)
  deriving DecidableEq, Repr

/-- A channel as a transport. -/
def Channel.transport {m : Type → Type} [Monad m] (outlets : Outlets m) : Channel → Transport m
  | .file f => f.transport outlets
  | .remoteFile f => f.transport outlets
  | .rest r => r.transport outlets

namespace TransportSettings

/-- A field that the kind of the transport needs. -/
def need {α : Type} (t : TransportSettings) (field : Text) : Option α → Except SettingsFault α
  | some value => .ok value
  | none => .error (.missingField t.kind t.name field)

/-- A command file on this host. -/
def commandFile (t : TransportSettings) : Except SettingsFault CommandFile := do
  return { name := t.name, path := ← t.need "path" t.path, bound := t.bound }

/-- A command file on another host. -/
def remoteCommandFile (t : TransportSettings) : Except SettingsFault RemoteCommandFile := do
  let host ← t.need "host" t.host
  let path ← t.need "path" t.path
  return { name := t.name, host, path, port := t.port.getD 22, user := t.user, bound := t.bound }

/-- A REST interface. -/
def restInterface (t : TransportSettings) : Except SettingsFault RestInterface := do
  let host ← t.need "host" t.host
  let username ← t.need "username" t.username
  let password ← t.need "password" t.password
  return {
    name := t.name, host, username, password, port := t.port.getD 5665, app := t.app.getD "app"
    bound := t.bound, verifyCertificate := t.verifyTls.getD true }

/-- **The channel that settings describe.** The kind is read without regard to case. -/
def channel (t : TransportSettings) : Except SettingsFault Channel :=
  if t.kind.sameLetters "local" then t.commandFile.map .file
  else if t.kind.sameLetters "remote" then t.remoteCommandFile.map .remoteFile
  else if t.kind.sameLetters "api" then t.restInterface.map .rest
  else .error (.unknownKind t.kind.fold t.name)

/-- The fields of a transport in JSON, each with its one name. -/
def fieldNames : List (List Text) :=
  [["name"], ["transport"], ["instance"], ["path"], ["host"], ["port"], ["user"], ["username"],
    ["password"], ["app"], ["verify_tls"]]

/-- A transport as a JSON record. -/
def ofJson? (record : JsonSyntax) : Option TransportSettings := do
  let text? := JsonSyntax.optional? JsonSyntax.text?
  match ← record.fields? fieldNames with
  | [name, kind, bound, path, host, port, user, username, password, app, verifyTls] =>
    return {
      name := ← JsonSyntax.required? JsonSyntax.text? name
      kind := ← JsonSyntax.withDefault? JsonSyntax.text? "local" kind
      bound := ← text? bound
      path := ← text? path
      host := ← text? host
      port := ← JsonSyntax.optional? (JsonSyntax.naturalUpTo? 65535) port
      user := ← text? user
      username := ← text? username
      password := ← text? password
      app := ← text? app
      verifyTls := ← JsonSyntax.optional? JsonSyntax.bool? verifyTls }
  | _ => none

end TransportSettings

/-! ## Settings -/

/-- **Settings.** -/
structure Settings where
  transports : List TransportSettings := []
  /-- The columns of fields. -/
  columns : List (Text × Text) := []
  deriving DecidableEq, Repr

namespace Settings

/-- The first name of a list that occurs again after it is met: the second of two equal names. -/
def firstRepeat? (seen : List Text) : List Text → Option Text
  | [] => none
  | name :: rest => if seen.contains name then some name else firstRepeat? (name :: seen) rest

/-- The fields of settings in JSON. -/
def fieldNames : List (List Text) := [["transports"], ["columns"]]

/-- Settings as a JSON record. -/
def ofJson? (record : JsonSyntax) : Option Settings := do
  match ← record.fields? fieldNames with
  | [transports, columns] =>
    return {
      transports :=
        ← JsonSyntax.withDefault? (JsonSyntax.list? TransportSettings.ofJson?) [] transports
      columns := ← JsonSyntax.withDefault? JsonSyntax.textMap? [] columns }
  | _ => none

/-- **Settings from JSON text**, in which the names of the transports differ. -/
def parse (t : Text) : Except SettingsError Settings :=
  match JsonSyntax.read? t >>= ofJson? with
  | none => .error .malformed
  | some settings =>
    match firstRepeat? [] (settings.transports.map TransportSettings.name) with
    | some name => .error (.invalid (.duplicateName name))
    | none => .ok settings

/-- Settings from a file, by what it reads as. -/
def ofFile (path : Text) : FileReading → Except SettingsError Settings
  | .missing => .error (.missing path)
  | .unreadable reason => .error (.unreadable path reason)
  | .content t => parse t

/-- **The channels of all transports**, in order, or the fault of the first that has one. -/
def channels (settings : Settings) : Except SettingsFault (List Channel) :=
  settings.transports.mapM TransportSettings.channel

/-- **The chain that settings describe.** -/
def chain {m : Type → Type} [Monad m] (settings : Settings) (outlets : Outlets m) :
    Except SettingsFault (Chain m) := do
  return ⟨(← settings.channels).map (Channel.transport outlets)⟩

end Settings

end MonitorControl
