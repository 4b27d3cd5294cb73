import SchemaBinding.Binding.Compilation
import SchemaBinding.CommandLine.Arguments
import SchemaBinding.CommandLine.Summary
import SchemaBinding.Dump.Writing

/-!
# Running commands

What a command writes, and the exit code of the program.

## Main definitions

* `CommandLine.Failure`: why a command fails
* `CommandLine.execute`: what a command writes
* `CommandLine.Outcome`, `CommandLine.run`: what the program does with its arguments
-/

namespace SchemaBinding.CommandLine

open Xsd (SchemaSet)

/-- Why a command fails. -/
inductive Failure where
  /-- No name is given, and the path has none. -/
  | noName
  /-- There is nothing to compile. -/
  | noNamespace
  /-- The schema cannot be read. -/
  | unreadable (error : Error)
  deriving DecidableEq, Repr

/-- The text of a failure. -/
def Failure.message : Failure → String
  | .noName => "cannot derive a schema name from the path, use --name"
  | .noNamespace => "schema has no target namespace, nothing to compile"
  | .unreadable error => error.message

/-- What is written to the two outputs. -/
structure Written where
  stdout : String
  stderr : String
  deriving DecidableEq, Repr

/-- The schema set in a file. -/
def readSet (files : FileSystem) (path : String) : Except Failure SchemaSet :=
  (SchemaSet.parse files .standard (.file (.ofText path))).1.mapError .unreadable

/-- Compiles a schema; its name is that of the file unless one is given. -/
def compile (files : FileSystem) (options : CompileOptions) : Except Failure Written := do
  let some name := options.name.or (Path.ofText options.path).stem? | throw .noName
  let schemas ← readSet files options.path
  let request : Binding.Request := ⟨name, options.nsPrefix, options.override⟩
  let (result, repository, _) := Binding.compile .empty .standard request schemas #[]
  let compilation ← result.mapError .unreadable
  let some registered := compilation.schema | throw .noNamespace
  let store := repository.store
  return {
    stdout :=
      if options.json then (Dump.ofSchema store registered.schema).text ++ "\n"
      else schemaSummary store registered.schema
    stderr := skippedSummary (compilation.diagnostics.map (·.text)) }

/-- What a command writes. -/
def execute (files : FileSystem) : Command → Except Failure Written
  | .version => .ok ⟨s!"{programName} {version}\n", ""⟩
  | .compile options => compile files options
  | .types path => (readSet files path).map fun schemas => ⟨typesSummary schemas, ""⟩

/-- How the program is used. -/
def usage : String :=
  unlines ["usage: " ++ programName ++ " compile [--name NAME] [--prefix PREFIX] [--override] " ++
      "[--json] SCHEMA",
    "       " ++ programName ++ " types SCHEMA",
    "       " ++ programName ++ " --version"]

/-- What the program writes, and its exit code. -/
structure Outcome where
  code : Nat
  stdout : String
  stderr : String
  deriving DecidableEq, Repr

/-- The outcome of a command. -/
def outcomeOf : Except Failure Written → Outcome
  | .ok written => ⟨0, written.stdout, written.stderr⟩
  | .error failure => ⟨1, "", s!"Error: {failure.message}\n"⟩

/-- The outcome where the arguments are not used rightly. -/
def misuse : Outcome := ⟨2, "", usage⟩

/-- What the program does with its arguments. The exit code is 1 if a command fails, and 2 if the
arguments are not used rightly. -/
def run (files : FileSystem) (arguments : List String) : Outcome :=
  match Command.ofArguments? arguments with
  | some command => outcomeOf (execute files command)
  | none => misuse

end SchemaBinding.CommandLine
