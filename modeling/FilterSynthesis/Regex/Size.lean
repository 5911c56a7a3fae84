import FilterSynthesis.Arithmetic
import FilterSynthesis.Regex.Basic

/-!
The size of an automaton that matches an expression, in bytes. Expressions with too large an
automaton are refused. An automaton reads the bytes of a text, forwards or backwards, and counted
repetitions are written out in it.
-/

namespace FilterSynthesis

open scoped Arithmetic

namespace CharSet

/-- Rows of ranges of bytes that spell the numbers from one to another, in base 64 with so many
digits behind the first. `lead` is added to the first digit and 128 to all others. -/
def byteRows (lead : Nat) : (digits : Nat) → (first last : Nat) → List (List (Nat × Nat))
  | 0, first, last => [[(lead + first, lead + last)]]
  | digits + 1, first, last =>
      let unit := 64 ^ (digits + 1)
      let rows (digit low high : Nat) :=
        (byteRows 0x80 digits low high).map ((lead + digit, lead + digit) :: ·)
      if first / unit = last / unit then rows (first / unit) (first % unit) (last % unit)
      else
        let front := if first % unit = 0 then [] else rows (first / unit) (first % unit) (unit - 1)
        let back := if last % unit = unit - 1 then [] else rows (last / unit) 0 (last % unit)
        let least := if front.isEmpty then first / unit else first / unit + 1
        let bound := if back.isEmpty then last / unit + 1 else last / unit
        let middle := if least < bound then
            [(lead + least, lead + bound - 1) :: List.replicate (digits + 1) (0x80, 0xBF)]
          else []
        front ++ middle ++ back

/-- For each length of a character in bytes: the least and the greatest code, what is added to the
first byte, and the number of further bytes. -/
def lengths : List (Nat × Nat × Nat × Nat) :=
  [(0, 0x7F, 0, 0), (0x80, 0x7FF, 0xC0, 1), (0x800, 0xFFFF, 0xE0, 2), (0x10000, 0x10FFFF, 0xF0, 3)]

def rows (set : CharSet) : List (List (Nat × Nat)) :=
  set.stretches.flatMap fun (first, last) =>
    lengths.flatMap fun (least, greatest, lead, digits) =>
      if first ≤ greatest ∧ least ≤ last then
        byteRows lead digits (max first least) (min last greatest)
      else []

def onlyBytes? (set : CharSet) : Option Nat :=
  match set.stretches with
  | [(first, last)] =>
      if first = last then
        some (lengths.countP fun length => length.1 ≤ first)
      else none
  | _ => none

end CharSet

namespace Regex.Size

def state : Nat := 32

def transition : Nat := 8

def branch : Nat := 4

/-- Rows with the same first range, without that range. -/
def children (rows : List (List (Nat × Nat))) : List (List (List (Nat × Nat))) :=
  (rows.splitBy fun left right => left.head? == right.head?).map fun group => group.map List.tail

/-- States from given ones on, to some depth. Each is given by the rows that lead from it to the
end; equal ones are one state. -/
def statesFrom : (depth : Nat) → (states : List (List (List (Nat × Nat)))) →
    List (List (List (Nat × Nat)))
  | 0, _ => []
  | depth + 1, states =>
      let distinct := (states.filter fun rows => rows != [[]]).eraseDups
      distinct ++ statesFrom depth (distinct.flatMap children)

/-- The states that read the characters of a set, forwards: the rows as a tree whose equal parts are
shared. -/
def forwards (rows : List (List (Nat × Nat))) : Nat :=
  ((statesFrom 4 [rows]).eraseDups.map fun node =>
    state + transition * (children node).length).sum + state

def sharedFront : List (Nat × Nat) → List (Nat × Nat) → Nat
  | left :: lefts, right :: rights => if left = right then sharedFront lefts rights + 1 else 0
  | _, _ => 0

/-- The states that read the characters of a set, backwards: the rows as they are, sharing only what
they start with. -/
def backwards (rows : List (List (Nat × Nat))) : Nat :=
  let ranges := (rows.map List.length).sum
  let shared := (List.zipWith sharedFront rows rows.tail).sum
  state + branch * rows.length + state + state * (ranges - shared)

def ofSet (forward : Bool) (set : CharSet) : Nat :=
  match set.onlyBytes? with
  | some bytes => state * bytes
  | none =>
      if set.isAscii then state + transition * set.stretches.length + state
      else if forward then forwards set.rows
      else backwards set.rows

end Size

def oneOf? : Regex → Option CharSet
  | .oneOf set => some set
  | .either left right =>
      match left.oneOf?, right.oneOf? with
      | some left, some right => some (left ∪ right)
      | _, _ => none
  | _ => none

/-- Is nothing written, or nothing that counts? -/
def isVoid : Regex → Bool
  | .empty => true
  | .sequence first second => first.isVoid && second.isVoid
  | .repeated _ least most => least == 0 && most == some 0
  | _ => false

def isNarrow : Regex → Bool
  | .empty => true
  | .oneOf _ => false
  | .assertion _ => true
  | .sequence first second => first.isNarrow && second.isNarrow
  | .either left right => left.isNarrow && right.isNarrow
  | .repeated body _ most => body.isNarrow || most == some 0
  | .captured body => body.isNarrow

def canBeEmpty : Regex → Bool
  | .empty => true
  | .oneOf _ => false
  | .assertion _ => true
  | .sequence first second => first.canBeEmpty && second.canBeEmpty
  | .either left right => left.canBeEmpty || right.canBeEmpty
  | .repeated body least _ => body.canBeEmpty || least == 0
  | .captured body => body.canBeEmpty

namespace Size

def repeated (body : Nat) (loose : Bool) (least : Nat) : Option Nat → Nat
  | none =>
      match least with
      | 0 =>
          if loose then body + 2 * (state + 2 * branch) + state else body + state + 2 * branch
      | least => least * body + state + 2 * branch
  | some most =>
      if least = most then (if least = 0 then state else least * body)
      else least * body + state + (most - least) * (body + state + 2 * branch)

mutual

def ofRegex (forward : Bool) : Regex → Nat
  | .empty => state
  | .oneOf set => ofSet forward set
  | .assertion _ => state
  | .sequence first second =>
      if first.isVoid then ofRegex forward second
      else if second.isVoid then ofRegex forward first
      else ofRegex forward first + ofRegex forward second
  | .either left right =>
      match left.oneOf?, right.oneOf? with
      | some left, some right => ofSet forward (left ∪ right)
      | _, _ => 2 * state + ofBranch forward left + ofBranch forward right
  | .repeated body least most =>
      if body.isNarrow then
        repeated (ofRegex forward body) body.canBeEmpty (min least 1) (some (min (most.getD 1) 1))
      else repeated (ofRegex forward body) body.canBeEmpty least most
  | .captured body => ofRegex forward body + (if forward then 2 * state else 0)

/-- The bytes of a branch among others. A branch with branches of its own is no state of its own. -/
def ofBranch (forward : Bool) : Regex → Nat
  | .either left right => ofBranch forward left + ofBranch forward right
  | regex => branch + ofRegex forward regex

end

def frame : Nat := 8 * state

def limit : Nat := 10 * 2 ^ (20 : Nat)

end Size

def isSmall (regex : Regex) : Bool :=
  Size.ofRegex true regex + Size.frame ≤ Size.limit &&
    Size.ofRegex false regex + Size.frame ≤ Size.limit

end Regex

end FilterSynthesis
