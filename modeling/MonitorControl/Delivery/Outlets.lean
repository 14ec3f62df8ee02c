/-
What the outside offers: files, remote shells and a REST interface.

Everything that transports and the console do beyond computing goes through
`Outlets`. The program fills it with actions on the world, and
`MonitorControl.Delivery.Site` with changes of a state.
-/
import MonitorControl.Json.Value
import MonitorControl.Text.Utf8

set_option autoImplicit false

namespace MonitorControl

/-! ## Files and shells -/

/-- **What a file reads as.** -/
inductive FileReading where
  | missing
  /-- Something has that name and cannot be read. -/
  | unreadable (reason : Text)
  | content (t : Text)
  deriving DecidableEq, Repr

/-- **How a remote shell ended**: its exit code, unless it was killed, and what it said about
errors. -/
structure ShellOutcome where
  code : Option Int
  errors : Text := []
  deriving DecidableEq, Repr

/-- The shell did what it was told. -/
def ShellOutcome.succeeded (outcome : ShellOutcome) : Bool := outcome.code == some 0

/-- The number of bytes that an argument of a program stays below. -/
def argumentLimit : Nat := 131072

/-- **A text that can be given to a program as an argument**: a NUL would end it. -/
def isProgramArgument (t : Text) : Bool := !t.contains '\x00' && t.byteLength < argumentLimit

/-- An argument as a command line shows it. A mark stands for one with a NUL. -/
def shownArgument (t : Text) : Text := if t.contains '\x00' then "<string-with-nul>" else t

/-! ## Requests -/

/-- The methods in use: data are posted, a state is fetched. -/
inductive HttpMethod where
  | get
  | post
  deriving DecidableEq, Repr

/-- The name of a method. -/
def HttpMethod.name : HttpMethod → Text
  | .get => "GET"
  | .post => "POST"

/-- **A request** to a REST interface. -/
structure HttpRequest where
  method : HttpMethod
  host : Text
  port : Nat
  /-- What follows host and port, with the query. -/
  path : Text
  accept : Text
  authorization : Text
  /-- The data that are posted. -/
  body : Option Json
  /-- Refuse a server whose certificate nobody vouches for. -/
  verifyCertificate : Bool
  deriving BEq, Repr

/-- The address that a request goes to. -/
def HttpRequest.url (request : HttpRequest) : Text :=
  "https://".toList ++ request.host ++ ':' :: Text.ofNat request.port ++ request.path

/-- **A response.** -/
structure HttpResponse where
  code : Nat
  body : Text
  deriving DecidableEq, Repr

/-- A character that may stand in the path of an address as it is. -/
def isPathChar (c : Char) : Bool :=
  '!' ≤ c && !"#<>?`".toList.contains c

/-- A character that may stand in the query of an address as it is. -/
def isQueryChar (c : Char) : Bool := '!' ≤ c && !"\"#<>".toList.contains c

/-- **The part of an address that is sent**: path and query without a fragment, if they hold no
character that would have to be escaped. -/
def requestPath? (t : Text) : Option Text :=
  let path := t.takeWhile (· != '#')
  let beforeQuery := path.takeWhile (· != '?')
  let query := path.dropWhile (· != '?')
  if beforeQuery.all isPathChar && query.all isQueryChar then some path else none

/-! ## Outlets -/

/-- **The outside.** -/
structure Outlets (m : Type → Type) where
  /-- Seconds since 1970. -/
  now : m Int
  read : Text → m FileReading
  /-- Add text to the end of a file that is there. -/
  append : Text → Text → m (Except Text Unit)
  /-- Run a remote shell with these arguments. -/
  runShell : List Text → m (Except Text ShellOutcome)
  exchange : HttpRequest → m (Except Text HttpResponse)

end MonitorControl
