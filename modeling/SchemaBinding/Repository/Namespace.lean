/-!
# Namespaces of bound schemas

The namespace that a bound schema stands for, and the prefix of its fields.

## Main definitions

* `Repository.Namespace`: a name and a prefix, which may be empty
* `Repository.Namespace.text`: the form `prefix:uri`
-/

namespace SchemaBinding.Repository

/-- A namespace and the prefix used for it; an empty prefix is none. -/
structure Namespace where
  uri : String
  nsPrefix : String
  deriving DecidableEq, Repr

namespace Namespace

/-- Whether a prefix is used. -/
def hasPrefix (n : Namespace) : Bool := !n.nsPrefix.isEmpty

/-- The written form. -/
def text (n : Namespace) : String :=
  if n.hasPrefix then n.nsPrefix ++ ":" ++ n.uri else n.uri

end Namespace

end SchemaBinding.Repository
