import SchemaBinding.Unicode.CombiningClass
import SchemaBinding.Unicode.Decomposition

/-!
# Composed text

Equivalent texts have one composed form: every character is taken apart, the marks on a base
character are put in the order of their classes, and then what can be put together is put together
again.

## Main definitions

* `Unicode.arrange`: marks in the order of their classes
* `Unicode.compose`: characters and marks put together
* `Unicode.normalize`: the composed form of a text

## Main statements

* `Unicode.arrange_perm`: arranging marks neither adds nor loses a character
-/

namespace SchemaBinding.Unicode

/-! ## The order of marks -/

/-- Puts a character in front of others. A mark goes behind the marks of lower classes. -/
def settle (c : Char) : List Char → List Char
  | [] => [c]
  | d :: ds =>
    if 0 < combiningClass d ∧ combiningClass d < combiningClass c then d :: settle c ds
    else c :: d :: ds

theorem settle_perm (c : Char) (cs : List Char) : (settle c cs).Perm (c :: cs) := by
  induction cs with
  | nil => exact .refl _
  | cons d ds ih =>
    unfold settle
    split
    · exact (ih.cons d).trans (.swap c d ds)
    · exact .refl _

/-- Characters with the marks on each base character in the order of their classes. Marks of one
class keep their order. -/
def arrange (cs : List Char) : List Char := cs.foldr settle []

theorem arrange_perm (cs : List Char) : (arrange cs).Perm cs := by
  induction cs with
  | nil => exact .refl _
  | cons c cs ih => exact (settle_perm c (arrange cs)).trans (ih.cons c)

/-! ## Putting together -/

/-- Puts a base character together with what comes after it. The characters in `passed`, which could
not be put together with it, are behind it, and the last of them has the class `last`. One of a
class that is not higher cannot be reached over them. -/
def composeFrom (base : Char) (passed : List Char) (last : Nat) : List Char → List Char
  | [] => base :: passed
  | c :: cs =>
    let reachable := passed.isEmpty || last < combiningClass c
    match if reachable then composite? base c else none with
    | some whole => composeFrom whole passed last cs
    | none =>
      if combiningClass c = 0 then base :: passed ++ composeFrom c [] 0 cs
      else composeFrom base (passed ++ [c]) (combiningClass c) cs

/-- Puts characters and marks together. Marks at the start have no base character. -/
def compose : List Char → List Char
  | [] => []
  | c :: cs => if combiningClass c = 0 then composeFrom c [] 0 cs else c :: compose cs

/-! ## Texts -/

/-- The composed form of a text. -/
def normalize (cs : List Char) : List Char := compose (arrange (cs.flatMap decompose))

end SchemaBinding.Unicode
