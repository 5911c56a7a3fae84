import FilterSynthesis.Text.CharSet

/-!
Regular expressions, and whether some part of a text matches one. What an expression does to a text
is a relation between places: which places can be reached from which by matching.
-/

namespace FilterSynthesis

inductive WordEdge where
  | border
  | noBorder
  | start
  | stop
  /-- A word may start here: no word character stands in front. -/
  | startHalf
  /-- A word may end here: no word character follows. -/
  | stopHalf
  deriving DecidableEq, Repr

def WordEdge.holds (before after : Bool) : WordEdge → Bool
  | .border => before != after
  | .noBorder => before == after
  | .start => !before && after
  | .stop => before && !after
  | .startHalf => !before
  | .stopHalf => !after

inductive Anchor where
  | textStart
  | textEnd
  /-- The start of a line, where carriage returns may count as line breaks, too. -/
  | lineStart (returns : Bool)
  | lineEnd (returns : Bool)
  | word (edge : WordEdge) (wordChars : CharSet)
  deriving DecidableEq, Repr

/-- Does the condition hold between two characters? There is none at an end of the text. -/
def Anchor.holds (before after : Option Char) : Anchor → Bool
  | .textStart => before.isNone
  | .textEnd => after.isNone
  | .lineStart false => before.all (· == '\n')
  | .lineStart true => before.all fun char => char == '\n' || (char == '\r' && after != some '\n')
  | .lineEnd false => after.all (· == '\n')
  | .lineEnd true => after.all fun char => char == '\r' || (char == '\n' && before != some '\r')
  | .word edge wordChars => edge.holds (before.any wordChars.contains)
      (after.any wordChars.contains)

inductive Regex where
  | empty
  | oneOf (set : CharSet)
  | assertion (anchor : Anchor)
  | sequence (first second : Regex)
  | either (left right : Regex)
  /-- At least `least` matches in a row, and at most `most` if that is given. -/
  | repeated (body : Regex) (least : Nat) (most : Option Nat)
  | captured (body : Regex)
  deriving DecidableEq, Repr

/-- Places in a text, as the bits of a number. -/
abbrev Places := Nat

namespace Places

def ofBools (holds : List Bool) : Places :=
  holds.zipIdx.foldl (fun places (held, place) => if held then places ||| 1 <<< place else places) 0

def all (count : Nat) : Places := 1 <<< count - 1

end Places

/-- For each place of a text, the places that can be reached from it. -/
abbrev Reach := List Places

namespace Reach

def identity (size : Nat) : Reach := (List.range size).map (1 <<< ·)

def union (left right : Reach) : Reach := List.zipWith (· ||| ·) left right

def reached (reach : Reach) (places : Places) : Places :=
  reach.zipIdx.foldl (fun found (row, place) =>
    if places.testBit place then found ||| row else found) 0

def compose (first second : Reach) : Reach := first.map second.reached

def power (reach : Reach) (count : Nat) : Reach :=
  if count = 0 then identity reach.length
  else
    let half := reach.power (count / 2)
    let even := compose half half
    if count % 2 = 0 then even else compose even reach
  termination_by count

/-- What is reached by at least `least` steps and at most `most`. More steps than there are places
lead nowhere else: a way that is longer stays somewhere, and may as well stay longer or shorter. -/
def repeated (reach : Reach) (least : Nat) (most : Option Nat) : Reach :=
  let size := reach.length
  let more := match most with
    | some most => min (most - least) size
    | none => size
  compose (reach.power (min least size)) ((union (identity size) reach).power more)

end Reach

namespace Regex

/-- For each of several sets of places, where the matches end that start at one of them. -/
def ends (text : List Char) : Regex → List Places → List Places
  | .empty, starts => starts
  | .oneOf set, starts =>
      let fitting := Places.ofBools (text.map set.contains)
      starts.map fun places => (places &&& fitting) <<< 1
  | .assertion anchor, starts =>
      let fitting := Places.ofBools
        (((none :: text.map some).zip (text.map some ++ [none])).map fun (before, after) =>
          anchor.holds before after)
      starts.map (· &&& fitting)
  | .sequence first second, starts =>
      let places := first.ends text starts
      if places.all (· == 0) then places else second.ends text places
  | .either left right, starts => (left.ends text starts).zipWith (· ||| ·) (right.ends text starts)
  | .repeated body least most, starts =>
      let once : Reach := body.ends text (Reach.identity (text.length + 1))
      starts.map (once.repeated least most).reached
  | .captured body, starts => body.ends text starts

def matchesIn (regex : Regex) (text : String) : Bool :=
  let chars := text.toList
  (regex.ends chars [.all (chars.length + 1)]).any (· != 0)

end Regex

end FilterSynthesis
