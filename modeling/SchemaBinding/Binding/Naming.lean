/-!
# Names of synthesized types and fields

An anonymous definition is named after what it is defined in, by one of four suffixes. As `#`
cannot occur in a declared name, no such name is that of a declared type.

## Main definitions

* `anonymousType`: the type of an anonymous definition
* `anonymousListType`: the list of repeated content
* `anonymousListItem`: one occurrence of a repeated group
* `anonymousList`: the field of a repeated group
-/

namespace SchemaBinding.Binding.Naming

/-- The type of an anonymous definition inside `owner`. -/
def anonymousType (owner : String) : String := owner ++ "#anonymousType"

/-- The list type of repeated content of `owner`. -/
def anonymousListType (owner : String) : String := owner ++ "#anonymousListType"

/-- The type of one occurrence of a repeated group of `owner`. -/
def anonymousListItem (owner : String) : String := owner ++ "#anonymousListItem"

/-- The field of a repeated group of `owner`. -/
def anonymousList (owner : String) : String := owner ++ "#anonymousList"

end SchemaBinding.Binding.Naming
