/-
A site in memory: delivery without a world.

The files of a directory, the ways in which remote shells will end and the answers
of a REST interface are given, and what is done to them is kept. Running a chain
or the console on a site shows what it would do.
-/
import MonitorControl.Delivery.Files

set_option autoImplicit false

namespace MonitorControl

/-! ## Sites -/

/-- **A site.** -/
structure Site where
  clock : Int := 0
  files : Files := []
  /-- How the next remote shells will end; those after them succeed. -/
  shells : List ShellOutcome := []
  /-- The arguments of the remote shells so far. -/
  shellCalls : List (List Text) := []
  /-- The next answers of the REST interface; none, where the connection just ends. -/
  answers : List (Option HttpResponse) := []
  /-- The requests that have arrived. -/
  requests : List HttpRequest := []

namespace Site

/-- Run a remote shell, unless one of the arguments cannot be given to a program. -/
def runShell (arguments : List Text) : StateM Site (Except Text ShellOutcome) := fun site =>
  if arguments.all isProgramArgument then
    (.ok (site.shells.headD ⟨some 0, []⟩),
      { site with shells := site.shells.tail, shellCalls := site.shellCalls ++ [arguments] })
  else (.error "an argument cannot be given to a program", site)

/-- Exchange a request for an answer. Nobody vouches for the certificate of this interface, so a
client that asks for that sends nothing. -/
def exchange (request : HttpRequest) : StateM Site (Except Text HttpResponse) := fun site =>
  if request.verifyCertificate then (.error "the certificate is not trusted", site)
  else
    let site' := { site with
      answers := site.answers.tail, requests := site.requests ++ [request] }
    match site.answers.head? with
    | some (some response) => (.ok response, site')
    | _ => (.error "the connection was closed", site')

/-- **A site as the outside.** -/
def outlets : Outlets (StateM Site) where
  now := fun site => (site.clock, site)
  read := fun path site => (site.files.read path, site)
  append := fun path t site =>
    match site.files.append path t with
    | .ok files => (.ok (), { site with files })
    | .error reason => (.error reason, site)
  runShell := runShell
  exchange := exchange

end Site

end MonitorControl
