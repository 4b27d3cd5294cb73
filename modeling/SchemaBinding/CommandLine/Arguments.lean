/-!
# Command-line arguments

A command has options and one operand, in any order. An option has a long form `--name`, and may
have a short one `-n`; short forms of several options may be put together. A value follows its
option, or is attached to it. After `--` there are only operands.

## Main definitions

* `CommandLine.OptionSpec`, `CommandLine.Item`: options, and what an argument gives
* `CommandLine.scan`: arguments as given options and operands
* `CommandLine.Command`: what is to be done
* `CommandLine.Command.ofArguments?`: what arguments ask for
-/

namespace SchemaBinding.CommandLine

/-! ## Options and operands -/

/-- An option of a command. -/
structure OptionSpec where
  long : String
  short : Option Char
  hasValue : Bool
  deriving DecidableEq, Repr

/-- What an argument gives: an option, with its value if it has one, or an operand. -/
inductive Item where
  | given (long : String) (value : Option String)
  | operand (text : String)
  deriving DecidableEq, Repr

/-- Whether an argument stands for options, and so cannot be the value of one. A single hyphen
does not. -/
def isOptionLike (argument : String) : Bool :=
  match argument.toList with
  | '-' :: _ :: _ => true
  | _ => false

/-- The option of a long form, given the characters after the two hyphens. The result has the item
if it is complete, or else the option whose value is still to come. -/
def longOption? (specs : List OptionSpec) (cs : List Char) : Option (Item ⊕ OptionSpec) :=
  let name := String.ofList (cs.takeWhile (· != '='))
  match specs.find? (·.long == name), cs.dropWhile (· != '=') with
  | none, _ => none
  | some spec, [] => some (if spec.hasValue then .inr spec else .inl (.given name none))
  | some spec, _ :: value =>
    if spec.hasValue then some (.inl (.given name (some (String.ofList value)))) else none

/-- The options of short forms that are put together, given the characters after the hyphen. What
follows an option with a value is its value; if nothing does, the value is still to come. -/
def shortOptions? (specs : List OptionSpec) : List Char → Option (List Item × Option OptionSpec)
  | [] => some ([], none)
  | c :: cs =>
    match specs.find? (·.short == some c) with
    | none => none
    | some spec =>
      if !spec.hasValue then
        (shortOptions? specs cs).map fun (items, open?) => (.given spec.long none :: items, open?)
      else
        -- The rest of the argument is the value, with or without an equals sign in front.
        match cs with
        | [] => some ([], some spec)
        | '=' :: value => some ([.given spec.long (some (String.ofList value))], none)
        | value => some ([.given spec.long (some (String.ofList value))], none)

/-- The options and operands that arguments give, where the value of the option `pending` is still
to come. -/
def scan (specs : List OptionSpec) (pending : Option OptionSpec) :
    List String → Option (List Item)
  | [] => if pending.isSome then none else some []
  | argument :: rest =>
    match pending with
    | some spec =>
      if isOptionLike argument then none
      else (scan specs none rest).map (.given spec.long (some argument) :: ·)
    | none =>
      match argument.toList with
      | ['-', '-'] => some (rest.map .operand)
      | '-' :: '-' :: cs =>
        match longOption? specs cs with
        | none => none
        | some (.inl item) => (scan specs none rest).map (item :: ·)
        | some (.inr spec) => scan specs (some spec) rest
      | '-' :: c :: cs =>
        match shortOptions? specs (c :: cs) with
        | none => none
        | some (items, pending) => (scan specs pending rest).map (items ++ ·)
      | _ => (scan specs none rest).map (.operand argument :: ·)

/-- The operands among some items. -/
def operands (items : List Item) : List String :=
  items.filterMap fun
    | .operand text => some text
    | .given .. => none

/-- The names of the options among some items. -/
def optionNames (items : List Item) : List String :=
  items.filterMap fun
    | .operand _ => none
    | .given long _ => some long

/-- The value of an option among some items. -/
def valueOf? (items : List Item) (long : String) : Option String :=
  items.findSome? fun
    | .operand _ => none
    | .given name value => if name = long then value else none

/-- The items of a command with its only operand, which must not be empty. No option may be given
twice. -/
def commandItems? (specs : List OptionSpec) (arguments : List String) :
    Option (List Item × String) :=
  match scan specs none arguments with
  | none => none
  | some items =>
    match operands items with
    | [operand] =>
      if operand.isEmpty || !(decide (optionNames items).Nodup) then none else some (items, operand)
    | _ => none

/-! ## Commands -/

/-- What is to be compiled, and how the result is shown. -/
structure CompileOptions where
  path : String
  name : Option String
  nsPrefix : String
  override : Bool
  json : Bool
  deriving DecidableEq, Repr

/-- What is to be done. -/
inductive Command where
  /-- Show the version of the program. -/
  | version
  /-- Compile a schema and show it. -/
  | compile (options : CompileOptions)
  /-- Show the types of a schema. -/
  | types (path : String)
  deriving DecidableEq, Repr

namespace Command

/-- The options of compiling. -/
def compileSpecs : List OptionSpec :=
  [⟨"name", some 'n', true⟩, ⟨"prefix", some 'p', true⟩, ⟨"override", none, false⟩,
    ⟨"json", some 'j', false⟩]

/-- What the arguments after `compile` ask for. -/
def compile? (arguments : List String) : Option Command :=
  (commandItems? compileSpecs arguments).map fun (items, path) =>
    .compile
      { path := path
        name := valueOf? items "name"
        nsPrefix := (valueOf? items "prefix").getD ""
        override := (optionNames items).contains "override"
        json := (optionNames items).contains "json" }

/-- What the arguments after `types` ask for. -/
def types? (arguments : List String) : Option Command :=
  (commandItems? [] arguments).map fun (_, path) => .types path

/-- Whether an argument asks for the version. -/
def asksVersion (argument : String) : Bool :=
  argument == "--version" || "-V".toList.isPrefixOf argument.toList

/-- What arguments ask for, if they are used rightly. -/
def ofArguments? : List String → Option Command
  | [] => none
  | argument :: rest =>
    if argument = "compile" then compile? rest
    else if argument = "types" then types? rest
    else if asksVersion argument then some .version
    else none

end Command

end SchemaBinding.CommandLine
