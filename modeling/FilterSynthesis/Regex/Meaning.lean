import FilterSynthesis.Regex.Phrase
import FilterSynthesis.Text.Word
import FilterSynthesis.Unicode.Folding

/-!
What phrases mean in the modes that hold where they stand. Without the wide mode only ASCII
characters belong to classes, and whatever could stand for a part of a character is refused.
-/

namespace FilterSynthesis

def CharSet.anyAsciiCase (set : CharSet) : CharSet := set ∪ CharSet.ascii.intersection set.anyCase

namespace Regex

structure Mode where
  ignoreCase : Bool := false
  byLine : Bool := false
  pointIsAll : Bool := false
  wide : Bool := true
  returns : Bool := false
  deriving DecidableEq, Repr

namespace Mode

def after (mode : Mode) (change : ModeChange) : Mode where
  ignoreCase := change.apply .ignoreCase mode.ignoreCase
  byLine := change.apply .byLine mode.byLine
  pointIsAll := change.apply .pointIsAll mode.pointIsAll
  wide := change.apply .wide mode.wide
  returns := change.apply .returns mode.returns

def fold (mode : Mode) (set : CharSet) : CharSet :=
  if mode.ignoreCase then (if mode.wide then set.anyCase else set.anyAsciiCase) else set

/-- A set or all other characters, which are too many without the wide mode. -/
def negate? (mode : Mode) (negated : Bool) (set : CharSet) : Option CharSet :=
  if negated then (if mode.wide then some set.complement else none) else some set

def wordChars (mode : Mode) : CharSet :=
  if mode.wide then Text.wordChars else .ofTable "30-39 41-5A 5F 61-7A"

def kind (mode : Mode) : CharKind → CharSet
  | .digit => if mode.wide then Text.digitChars else .ofTable "30-39"
  | .blank => if mode.wide then Text.blankChars else .ofTable "9-D 20"
  | .word => mode.wordChars

def named? (mode : Mode) (query : Unicode.Query) (negated : Bool) : Option CharSet :=
  if mode.wide then query.chars?.bind fun set => mode.negate? negated (mode.fold set) else none

def point? (mode : Mode) : Option CharSet :=
  if !mode.wide then none
  else if mode.pointIsAll then some .all
  else if mode.returns then some (.complement (.ofTable "A D"))
  else some (.complement (.single '\n'))

def anchor (mode : Mode) : Mark → Anchor
  | .lineStart => if mode.byLine then .lineStart mode.returns else .textStart
  | .lineEnd => if mode.byLine then .lineEnd mode.returns else .textEnd
  | .textStart => .textStart
  | .textEnd => .textEnd
  | .word edge => .word edge mode.wordChars

def admits (mode : Mode) (char : Char) : Bool := mode.wide || char.toNat < 0x80

def memberSet? (mode : Mode) : Member → Option CharSet
  | .char char _ => if mode.admits char then some (.single char) else none
  | .kind kind negated => mode.negate? negated (mode.kind kind)
  | .named query negated => mode.named? query negated

/-- The characters that stand for a member outside of brackets. Beyond ASCII, two hexadecimal digits
give a byte and not a character without the wide mode, and letters have no case there. -/
def leaf? (mode : Mode) : Member → Option CharSet
  | .char char byByte =>
      if mode.admits char then some (mode.fold (.single char))
      else if byByte then none
      else some (.single char)
  | member => mode.memberSet? member

end Mode

def SetOperator.apply : SetOperator → CharSet → CharSet → CharSet
  | .intersection => .intersection
  | .difference => .difference
  | .symmetricDifference => .symmetricDifference

def ClassBody.chars? (mode : Mode) : ClassBody → Option CharSet
  | .empty => some .empty
  | .member item => mode.memberSet? item
  | .range first last =>
      if mode.admits first && mode.admits last then some (.between first last) else none
  | .ascii set negated => mode.negate? negated (mode.fold set)
  | .nested negated body =>
      match body.chars? mode with
      | some set => mode.negate? negated (mode.fold set)
      | none => none
  | .join front last =>
      match front.chars? mode, last.chars? mode with
      | some front, some last => some (front ∪ last)
      | _, _ => none
  | .combined operator left right =>
      match left.chars? mode, right.chars? mode with
      | some left, some right => some (operator.apply (mode.fold left) (mode.fold right))
      | _, _ => none

def Phrase.meaning? (mode : Mode) : Phrase → Option (Regex × Mode)
  | .empty => some (.empty, mode)
  | .change modes => some (.empty, mode.after modes)
  | .member item => (mode.leaf? item).map fun set => (.oneOf set, mode)
  | .point => mode.point?.map fun set => (.oneOf set, mode)
  | .mark place => some (.assertion (mode.anchor place), mode)
  | .bracketed negated body =>
      match body.chars? mode with
      | some set => (mode.negate? negated (mode.fold set)).map fun set => (.oneOf set, mode)
      | none => none
  | .repeated body least most =>
      match body.meaning? mode with
      | some (regex, _) => some (.repeated regex least most, mode)
      | none => none
  | .group (.plain modes) body =>
      match body.meaning? (mode.after modes) with
      | some (regex, _) => some (regex, mode)
      | none => none
  | .group (.captured _) body =>
      match body.meaning? mode with
      | some (regex, _) => some (.captured regex, mode)
      | none => none
  | .sequence first rest =>
      match first.meaning? mode with
      | some (left, later) =>
          match rest.meaning? later with
          | some (right, last) => some (.sequence left right, last)
          | none => none
      | none => none
  | .either first rest =>
      match first.meaning? mode with
      | some (left, later) =>
          match rest.meaning? later with
          | some (right, last) => some (.either left right, last)
          | none => none
      | none => none

end Regex

end FilterSynthesis
