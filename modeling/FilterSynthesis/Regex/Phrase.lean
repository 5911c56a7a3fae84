import FilterSynthesis.Regex.Basic
import FilterSynthesis.Unicode.Query

/-!
Regular expressions as they are written. What the letters of an expression mean depends on modes,
which the expression itself can change on its way.
-/

namespace FilterSynthesis.Regex

inductive CharKind where
  | digit
  | blank
  | word
  deriving DecidableEq, Repr

inductive Member where
  /-- A character; `byByte` if two hexadecimal digits give its code. -/
  | char (char : Char) (byByte : Bool)
  | kind (kind : CharKind) (negated : Bool)
  | named (query : Unicode.Query) (negated : Bool)
  deriving DecidableEq, Repr

inductive SetOperator where
  | intersection
  | difference
  | symmetricDifference
  deriving DecidableEq, Repr

inductive ClassBody where
  | empty
  | member (member : Member)
  | range (first last : Char)
  | ascii (set : CharSet) (negated : Bool)
  | nested (negated : Bool) (body : ClassBody)
  | join (front : ClassBody) (last : ClassBody)
  | combined (operator : SetOperator) (left right : ClassBody)
  deriving DecidableEq, Repr

inductive Mark where
  | lineStart
  | lineEnd
  | textStart
  | textEnd
  | word (edge : WordEdge)
  deriving DecidableEq, Repr

inductive Switch where
  | ignoreCase
  /-- `^` and `$` hold at every line. -/
  | byLine
  /-- A point stands for line breaks, too. -/
  | pointIsAll
  /-- Repetitions prefer few matches; what matches does not depend on it. -/
  | fewest
  /-- Classes have all characters, not only those of ASCII. -/
  | wide
  /-- Carriage returns are line breaks, too. -/
  | returns
  /-- Blanks and comments count for nothing. -/
  | spaced
  deriving DecidableEq, Repr

structure ModeChange where
  on : List Switch
  off : List Switch
  deriving DecidableEq, Repr

namespace ModeChange

def none : ModeChange := ⟨[], []⟩

def apply (change : ModeChange) (switch : Switch) (before : Bool) : Bool :=
  if switch ∈ change.on then true else if switch ∈ change.off then false else before

end ModeChange

inductive GroupKind where
  | plain (change : ModeChange)
  | captured (name : Option (List Char))
  deriving DecidableEq, Repr

inductive Phrase where
  | empty
  /-- New modes up to the end of the group. -/
  | change (change : ModeChange)
  | member (member : Member)
  | point
  | mark (mark : Mark)
  | bracketed (negated : Bool) (body : ClassBody)
  | repeated (body : Phrase) (least : Nat) (most : Option Nat)
  | group (kind : GroupKind) (body : Phrase)
  | sequence (first rest : Phrase)
  | either (first rest : Phrase)
  deriving DecidableEq, Repr

namespace ClassBody

def add : (body : ClassBody) → (last : ClassBody) → ClassBody
  | .empty, last => last
  | body, last => .join body last

/-- How deep a body is nested. A row of members counts once; `inRow` says that it has been
counted. -/
def depth (inRow : Bool) : ClassBody → Nat
  | .nested _ body => 1 + body.depth false
  | .join front last => (if inRow then 0 else 1) + max (front.depth true) (last.depth false)
  | .combined _ left right => 1 + max (left.depth false) (right.depth false)
  | _ => 0

end ClassBody

inductive Row where
  | none
  | sequence
  | branches
  deriving DecidableEq

namespace Phrase

def before : (first rest : Phrase) → Phrase
  | first, .empty => first
  | first, rest => .sequence first rest

def depth (row : Row) : Phrase → Nat
  | .bracketed _ body => 1 + body.depth false
  | .repeated body _ _ => 1 + body.depth .none
  | .group _ body => 1 + body.depth .none
  | .sequence first rest =>
      (if row = .sequence then 0 else 1) + max (first.depth .none) (rest.depth .sequence)
  | .either first rest =>
      (if row = .branches then 0 else 1) + max (first.depth .none) (rest.depth .branches)
  | _ => 0

def names : Phrase → List (List Char)
  | .repeated body _ _ => body.names
  | .group kind body =>
      match kind with
      | .captured (some name) => name :: body.names
      | _ => body.names
  | .sequence first rest => first.names ++ rest.names
  | .either first rest => first.names ++ rest.names
  | _ => []

end Phrase

end FilterSynthesis.Regex
