/-
The REST interface of an instance.

The calls of a chain are posted one after the other, and the first that fails ends
the chain; what has been posted before it stays. An answer is good if its status
is, and if the answer itself names no error: an operation that matched no object
is answered with a good status all the same.
-/
import MonitorControl.Command.Rest
import MonitorControl.Delivery.Outlets
import MonitorControl.Delivery.Transport
import MonitorControl.Json.Reader
import MonitorControl.Text.Base64
import MonitorControl.Text.Debug

set_option autoImplicit false

namespace MonitorControl

/-! ## Answers -/

/-- The `status` of an answer, if it is text. -/
def statusText? (answer : Json) : Option Text :=
  match answer.get? "status" with
  | some (.string status) => some status
  | _ => none

/-- What an answer with a bad status says: its `status`, or else all of it. -/
def refusalText (body : Text) : Text := ((Json.read? body).bind statusText?).getD (Text.trim body)

/-- The code in an `error` entry, if it is one. -/
def errorCode? : Json → Option Nat
  | .integer (.ofNat n) => if n < 65536 then some n else none
  | _ => none

/-- The last of the results in an answer. -/
def lastResult? (answer : Json) : Option Json :=
  match answer.get? "results" with
  | some (.array results) => results.getLast?
  | _ => none

/-- A number, as a float. -/
def number? : Json → Option Float
  | .integer n => some (Float.ofInt n)
  | .float x => some x
  | _ => none

/-- The status codes of success. -/
def isGoodStatus (code : Nat) : Bool := 200 ≤ code && code < 300

/-- **Checking an answer.** Its status must be good. If it is not blank it must be JSON, without an
`error` at its top, and the `code` of its last result must be good, if there is one. -/
def HttpResponse.check (response : HttpResponse) : Except TransportError Unit :=
  if !isGoodStatus response.code then .error (.refused response.code (refusalText response.body))
  else if (Text.trim response.body).isEmpty then .ok ()
  else
    match Json.read? response.body with
    | none => .error .unreadable
    | some answer =>
      match answer.get? "error" with
      | some error =>
        .error (.refused ((errorCode? error).getD response.code) ((statusText? answer).getD []))
      | none =>
        match lastResult? answer with
        | none => .ok ()
        | some result =>
          match (result.get? "code").bind number? with
          | none => .ok ()
          | some code =>
            if 200.0 ≤ code && code < 300.0 then .ok ()
            else .error (.refused code.toUInt16.toNat ((statusText? result).getD []))

/-! ## Calls -/

variable {m : Type → Type}

/-- **Posting calls** in order until one is not answered, or not well. -/
def postAll [Monad m] (post : ApiCall → m (Except TransportError HttpResponse)) :
    List ApiCall → m (Except TransportError Unit)
  | [] => return .ok ()
  | call :: rest => do
    match ← post call with
    | .error e => return .error e
    | .ok response =>
      match response.check with
      | .error e => return .error e
      | .ok () => postAll post rest

/-- **A REST interface** and how to log in to it. -/
structure RestInterface where
  name : Text
  host : Text
  username : Text
  password : Text
  port : Nat := 5665
  /-- The object that stands for the whole instance. -/
  app : Text := "app"
  bound : Option Text := none
  verifyCertificate : Bool := true
  deriving DecidableEq, Repr

namespace RestInterface

/-- The path of an endpoint. -/
def path (endpoint : Text) : Text := "/v1/".toList ++ endpoint

/-- The credentials, as a header has them. -/
def authorization (rest : RestInterface) : Text :=
  "Basic ".toList ++ Base64.encode (Text.bytes (rest.username ++ ':' :: rest.password))

/-- A request for a path. -/
def request (rest : RestInterface) (method : HttpMethod) (path : Text) (body : Option Json) :
    HttpRequest where
  method := method
  path := path
  body := body
  host := rest.host
  port := rest.port
  accept := "application/json"
  authorization := rest.authorization
  verifyCertificate := rest.verifyCertificate

/-- The address of an endpoint. -/
def url (rest : RestInterface) (endpoint : Text) : Text :=
  (rest.request .get (path endpoint) none).url

/-- What is wrong with an endpoint that no address can hold. -/
def badEndpoint : Text := "the endpoint needs escapes"

/-- Ask for an endpoint, or post data to it. -/
def ask [Monad m] (rest : RestInterface) (outlets : Outlets m) (method : HttpMethod)
    (endpoint : Text) (body : Option Json) : m (Except Text HttpResponse) :=
  match requestPath? (path endpoint) with
  | none => return .error badEndpoint
  | some path => outlets.exchange (rest.request method path body)

/-- Post a call. -/
def post [Monad m] (rest : RestInterface) (outlets : Outlets m) (call : ApiCall) :
    m (Except TransportError HttpResponse) := do
  return (← rest.ask outlets .post call.endpoint (some call.data)).mapError .unanswered

/-- **Post the calls of a chain.** -/
def sendChain [Monad m] (rest : RestInterface) (outlets : Outlets m) (calls : List ApiCall) :
    m (Except TransportError Unit) :=
  postAll (rest.post outlets) calls

/-- Send a command for a target. -/
def send [Monad m] (rest : RestInterface) (outlets : Outlets m) (command : Command)
    (target : Target) : m (Except TransportError Unit) :=
  match command.toApi target rest.app with
  | .ok chain => rest.sendChain outlets chain.toList
  | .error cause => return .error (.unrendered cause)

/-- **Probe**: fetch the object that stands for the instance, which needs the right address,
credentials and permissions. -/
def probe [Monad m] (rest : RestInterface) (outlets : Outlets m) :
    m (Except TransportError Unit) := do
  match ← rest.ask outlets .get ("objects/icingaapplications/".toList ++ rest.app) none with
  | .error reason => return .error (.unanswered ("can't connect to the API: ".toList ++ reason))
  | .ok response => return response.check

/-- The interface as a transport. -/
def transport [Monad m] (rest : RestInterface) (outlets : Outlets m) : Transport m where
  name := rest.name
  bound := rest.bound
  send := fun command target _ => rest.send outlets command target
  probe := rest.probe outlets

/-- **The interface in one line**, without its password. -/
def describe (rest : RestInterface) : Text :=
  let bound := match rest.bound with
    | some b => "Some(".toList ++ Text.debug b ++ [')']
    | none => "None"
  "ApiCommandTransport \x7b name: ".toList ++ Text.debug rest.name ++
    ", host: ".toList ++ Text.debug rest.host ++ ", port: ".toList ++ Text.ofNat rest.port ++
    ", username: ".toList ++ Text.debug rest.username ++ ", app: ".toList ++ Text.debug rest.app ++
    ", instance: ".toList ++ bound ++ ", .. \x7d".toList

end RestInterface

end MonitorControl
