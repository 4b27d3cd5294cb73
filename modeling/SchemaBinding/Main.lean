import SchemaBinding.CommandLine.Run

/-!
# The program

Runs a command on the files of the computer. A command is a function of the files that it reads,
which are not known before it runs: it is run again for each file that it turns out to need.
-/

namespace SchemaBinding.Main

/-- What is known of a path: its canonical form, and the content of the file. -/
structure Fetched where
  canonical : Option Path
  content : Except ReadFault String

/-- The files that are known. -/
def known (fetched : List (Path × Fetched)) : FileSystem where
  canonical? path := (fetched.lookup path).bind (·.canonical)
  read path := ((fetched.lookup path).map (·.content)).getD (.error .notFound)

/-- The path that a command needs and that is not known. -/
def missing? {α : Type} (fetched : List (Path × Fetched))
    (result : Except CommandLine.Failure α) : Option Path :=
  match result with
  | .error (.unreadable (.resource (.unreadable path .notFound))) =>
    if (fetched.lookup path).isSome then none else some path
  | _ => none

/-- The reason of an error. -/
def faultOf : IO.Error → ReadFault
  | .inappropriateType _ 21 _ => .isDirectory
  | .inappropriateType .. => .notDirectory
  | .invalidArgument _ 36 _ => .tooLong
  | _ => .notFound

/-- Fetches what there is at a path. -/
def fetch (path : Path) : IO Fetched := do
  -- Files whose names are no texts cannot be opened.
  let some path := path.text? | return ⟨none, .error .notFound⟩
  if path.contains '\x00' then return ⟨none, .error .endWithin⟩
  let canonical ← try some <$> IO.FS.realPath path catch _ => pure none
  let content ←
    try
      let octets ← IO.FS.readBinFile path
      pure <| match Text.decode? octets.toList with
        | some text => .ok text
        | none => .error .notText
    catch e => pure (.error (faultOf e))
  return { canonical := canonical.map fun found => .ofText found.toString, content }

/-- Runs a command, fetching the files that it needs one after the other. -/
partial def execute (command : CommandLine.Command) (fetched : List (Path × Fetched)) :
    IO (Except CommandLine.Failure CommandLine.Written) := do
  let result := CommandLine.execute (known fetched) command
  match missing? fetched result with
  | none => return result
  | some path => execute command ((path, ← fetch path) :: fetched)

/-- Writes what a command has to say. -/
def report (outcome : CommandLine.Outcome) : IO UInt32 := do
  (← IO.getStdout).putStr outcome.stdout
  (← IO.getStderr).putStr outcome.stderr
  return outcome.code.toUInt32

end SchemaBinding.Main

/-- The program. -/
def main (arguments : List String) : IO UInt32 := do
  match SchemaBinding.CommandLine.Command.ofArguments? arguments with
  | none => SchemaBinding.Main.report SchemaBinding.CommandLine.misuse
  | some command =>
    let result ← SchemaBinding.Main.execute command []
    SchemaBinding.Main.report (SchemaBinding.CommandLine.outcomeOf result)
