/-!
# Punycode

The encoding of labels of host names in ASCII: the ASCII characters first, then for each other
character, in the order of their numbers, the distance from the one before in a variable-length
notation to base 36.

## Main definitions

* `Url.Punycode.encode`: the encoding of a label, without a mark in front
* `Url.Punycode.decode?`: the label that an encoding stands for
-/

namespace SchemaBinding.Url.Punycode

/-- The digit of a number below 36: letters first. -/
def digit (n : Nat) : Char :=
  if n < 26 then Char.ofNat ('a'.toNat + n) else Char.ofNat ('0'.toNat + (n - 26))

/-- The threshold of the digit at place `k`. -/
def threshold (k bias : Nat) : Nat :=
  if k ≤ bias then 1 else if bias + 26 ≤ k then 26 else k - bias

/-- A threshold is a positive digit, and at most 26, so what is carried to the next place is divided
by at least 10. -/
theorem threshold_mem (k bias : Nat) : 1 ≤ threshold k bias ∧ threshold k bias ≤ 26 := by
  unfold threshold
  split
  · omega
  · split <;> omega

/-- The digits of `q` from the place `k` on. -/
def digits (bias k q : Nat) : List Char :=
  let t := threshold k bias
  if q < t then [digit q]
  else digit (t + (q - t) % (36 - t)) :: digits bias (k + 36) ((q - t) / (36 - t))
termination_by q
decreasing_by
  obtain ⟨hpos, hle⟩ := threshold_mem k bias
  have hdiv := Nat.div_le_self (q - threshold k bias) (36 - threshold k bias)
  omega

/-- Divides a distance until it is at most 455, counting the places. -/
def scale (delta k : Nat) : Nat :=
  if 455 < delta then scale (delta / 35) (k + 36) else k + 36 * delta / (delta + 38)
termination_by delta
decreasing_by exact Nat.div_lt_self (by omega) (by omega)

/-- The bias after a distance has been written, the `count`-th character being done. -/
def adapt (delta count : Nat) (first : Bool) : Nat :=
  let halved := if first then delta / 700 else delta / 2
  scale (halved + halved / count) 0

/-- The state of encoding: what is written, the distance, the bias and the characters done. -/
structure State where
  output : List Char
  delta : Nat
  bias : Nat
  done : Nat

/-- Passes a character of the label while those with the number `n` are written. -/
def State.pass (basic n : Nat) (s : State) (c : Char) : State :=
  if c.toNat < n then { s with delta := s.delta + 1 }
  else if c.toNat = n then
    { output := s.output ++ digits s.bias 36 s.delta
      delta := 0
      bias := adapt s.delta (s.done + 1) (s.done == basic)
      done := s.done + 1 }
  else s

/-- Writes the characters with the given numbers, which increase, from the number `n` on. -/
def State.write (label : List Char) (basic : Nat) (s : State) (n : Nat) : List Nat → State
  | [] => s
  | m :: ms =>
    let moved := { s with delta := s.delta + (m - n) * (s.done + 1) }
    let passed := label.foldl (State.pass basic m) moved
    State.write label basic { passed with delta := passed.delta + 1 } (m + 1) ms

/-- The encoding of a label. -/
def encode (label : List Char) : List Char :=
  let ascii := label.filter (·.toNat < 0x80)
  let others := (label.filter (0x80 ≤ ·.toNat)).map (·.toNat)
  let numbers := (others.mergeSort (· ≤ ·)).eraseDups
  let start := if ascii.isEmpty then [] else ascii ++ ['-']
  (State.write label ascii.length ⟨start, 0, 72, ascii.length⟩ 0x80 numbers).output

/-! ## Decoding -/

/-- The number that a digit stands for. -/
def digitValue? (c : Char) : Option Nat :=
  if 'a' ≤ c ∧ c ≤ 'z' then some (c.toNat - 'a'.toNat)
  else if c.isDigit then some (c.toNat - '0'.toNat + 26)
  else none

/-- The state of decoding: the label so far, the number of the last character put in, the place
after it and the bias; of the distance being read, what the digits so far make, the weight of the
next digit and its place. -/
structure Decoding where
  label : List Char
  number : Nat
  after : Nat
  bias : Nat
  distance : Nat
  weight : Nat
  k : Nat

/-- Reads a digit; the last one of a distance puts a character in. -/
def Decoding.read? (s : Decoding) (c : Char) : Option Decoding := do
  let d ← digitValue? c
  let t := threshold s.k s.bias
  let distance := s.distance + d * s.weight
  if t ≤ d then
    return { s with distance := distance, weight := s.weight * (36 - t), k := s.k + 36 }
  else
    let count := s.label.length + 1
    let number := s.number + (s.after + distance) / count
    let place := (s.after + distance) % count
    if number.isValidChar then
      return {
        label := s.label.take place ++ Char.ofNat number :: s.label.drop place
        number := number
        after := place + 1
        bias := adapt distance count (s.after == 0)
        distance := 0
        weight := 1
        k := 36 }
    else none

/-- The label that an encoding stands for: the characters before the last `-`, and those that the
digits after it put in. -/
def decode? (cs : List Char) : Option (List Char) := do
  let ascii := ((cs.reverse.dropWhile (· != '-')).drop 1).reverse
  let digits := (cs.reverse.takeWhile (· != '-')).reverse
  let s ← digits.foldlM Decoding.read? ⟨ascii, 0x80, 0, 72, 0, 1, 36⟩
  if s.k = 36 then some s.label else none

end SchemaBinding.Url.Punycode
