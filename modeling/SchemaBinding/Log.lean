/-!
# Log messages

What an operation reports besides its result: messages in the order in which they arise, each
with a level.

## Main definitions

* `Log.Level`: the levels, from severe to detailed
* `Log.Entry`: a message at a level
* `Log.upTo`: the messages at a level or a more severe one
-/

namespace SchemaBinding

/-- The levels of messages. -/
inductive Log.Level where
  | warn
  | info
  | debug
  | trace
  deriving DecidableEq, Repr

/-- How far down the list of levels a level is. -/
def Log.Level.rank : Log.Level → Nat
  | .warn => 0
  | .info => 1
  | .debug => 2
  | .trace => 3

/-- A message with its level. -/
structure Log.Entry where
  level : Log.Level
  text : String
  deriving DecidableEq, Repr

/-- Messages in the order in which they arise. -/
abbrev Log := Array Log.Entry

namespace Log

/-- The log with one more message at the end. -/
def add (log : Log) (level : Level) (text : String) : Log := log.push ⟨level, text⟩

/-- The messages at the given level or a more severe one. -/
def upTo (log : Log) (level : Level) : Log :=
  log.filter fun entry => decide (entry.level.rank ≤ level.rank)

end Log

end SchemaBinding
