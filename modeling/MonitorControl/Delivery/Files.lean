/-
Files in memory, and the paths that lead to them.

A path is walked step by step, from the directory of the files or, where it starts
with a slash, from the root of the host. Only a directory can be stepped out of,
so a step after a file leads nowhere, even one that would stay where it is. Of the
host outside the directory only what every host has is known.
-/
import MonitorControl.Delivery.Outlets
import MonitorControl.Text.Utf8

set_option autoImplicit false

namespace MonitorControl

/-- **Files by name**; a name without content is a directory. -/
abbrev Files := List (Text × Option Text)

/-! ## Places -/

/-- **Where a path leads.** -/
inductive Place where
  /-- A directory, by the steps to it from the directory of the files. -/
  | directory (steps : List Text)
  /-- A directory, by the steps to it from the root of the host. -/
  | hostDirectory (steps : List Text)
  /-- A directory above that of the files, of which nothing is known. -/
  | above
  /-- The file that keeps nothing. -/
  | nullDevice
  | file (name content : Text)
  deriving DecidableEq, Repr

/-- The directories that every host has, apart from its root. -/
def hostDirectories : List Text := ["dev", "tmp"]

/-- What a step from a directory of the host leads to, down the host. -/
def hostEntry? (steps : List Text) (name : Text) : Option Place :=
  if steps.isEmpty && hostDirectories.contains name then some (.hostDirectory [name])
  else if steps == ["dev".toList] && name == "null".toList then some .nullDevice
  else none

namespace Files

/-- What is at the end of some steps down from the directory of the files. -/
def entry? (files : Files) (steps : List Text) : Option Place :=
  let name := Text.join ['/'] steps
  match files.lookup name with
  | some (some content) => some (.file name content)
  | some none => some (.directory steps)
  | none =>
    if files.any fun entry => (name ++ ['/']).isPrefixOf entry.1 then some (.directory steps)
    else none

/-- **One step of a path.** An empty step and a dot stay in a directory, two dots leave it. -/
def step? (files : Files) (place : Place) (step : Text) : Option Place :=
  match place with
  | .file _ _ | .nullDevice => none
  | .directory steps =>
    if step.isEmpty || step == ['.'] then some (.directory steps)
    else if step == ['.', '.'] then
      if steps.isEmpty then some .above else some (.directory steps.dropLast)
    else files.entry? (steps ++ [step])
  | .hostDirectory steps =>
    if step.isEmpty || step == ['.'] then some (.hostDirectory steps)
    else if step == ['.', '.'] then some (.hostDirectory steps.dropLast)
    else hostEntry? steps step
  | .above => if step.isEmpty || step == ['.'] || step == ['.', '.'] then some .above else none

/-- The number of bytes that a path stays below. -/
def pathLimit : Nat := 4096

/-- **The place that a path leads to.** -/
def find? (files : Files) (path : Text) : Option Place :=
  if path.isEmpty || pathLimit ≤ path.byteLength then none
  else
    let start : Place := if path.head? == some '/' then .hostDirectory [] else .directory []
    (Text.splitAll '/' path).foldlM files.step? start

/-! ## Reading and writing -/

/-- The error at a directory where a file is asked for. -/
def isDirectory : Text := "is a directory"

/-- **What a file reads as.** -/
def read (files : Files) (path : Text) : FileReading :=
  match files.find? path with
  | none => .missing
  | some (.file _ content) => .content content
  | some .nullDevice => .content []
  | some _ => .unreadable isDirectory

/-- The files once a text has been added to the end of one of them. -/
def extend (files : Files) (name t : Text) : Files :=
  files.map fun entry => if entry.1 == name then (name, entry.2.map (· ++ t)) else entry

/-- **Add text to a file that is there**: the files afterwards. -/
def append (files : Files) (path t : Text) : Except Text Files :=
  match files.find? path with
  | none => .error "no such file"
  | some (.file name _) => .ok (files.extend name t)
  | some .nullDevice => .ok files
  | some _ => .error isDirectory

end Files

end MonitorControl
