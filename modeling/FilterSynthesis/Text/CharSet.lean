/-!
Sets of characters, kept as the codes at which membership changes. Every operation on two sets is
the same walk along both lists of codes.
-/

namespace FilterSynthesis

/-- A set of characters. Reading the codes in ascending order, each of `changes` is where the set
begins or ends. -/
structure CharSet where
  changes : List Nat
  deriving DecidableEq, Repr

namespace CharSet

/-- Is a code in the set, if `inside` says so of what lies before the first change? -/
def containsFrom : (inside : Bool) → (changes : List Nat) → (code : Nat) → Bool
  | inside, [], _ => inside
  | inside, change :: rest, code =>
      if code < change then inside else containsFrom (!inside) rest code

def containsCode (set : CharSet) (code : Nat) : Bool := containsFrom false set.changes code

def contains (set : CharSet) (char : Char) : Bool := set.containsCode char.toNat

def change (code : Nat) (before after : Bool) : List Nat := if before = after then [] else [code]

/-- The changes of what two sets come to where `left` and `right` tell whether each is inside. -/
def merge (choose : Bool → Bool → Bool) :
    (left right : Bool) → (lefts rights : List Nat) → List Nat
  | _, _, [], [] => []
  | left, right, code :: lefts, [] =>
      change code (choose left right) (choose (!left) right) ++
        merge choose (!left) right lefts []
  | left, right, [], code :: rights =>
      change code (choose left right) (choose left (!right)) ++
        merge choose left (!right) [] rights
  | left, right, first :: lefts, second :: rights =>
      if first < second then
        change first (choose left right) (choose (!left) right) ++
          merge choose (!left) right lefts (second :: rights)
      else if second < first then
        change second (choose left right) (choose left (!right)) ++
          merge choose left (!right) (first :: lefts) rights
      else
        change first (choose left right) (choose (!left) (!right)) ++
          merge choose (!left) (!right) lefts rights
  termination_by _ _ lefts rights => lefts.length + rights.length

def combine (choose : Bool → Bool → Bool) (left right : CharSet) : CharSet :=
  ⟨merge choose false false left.changes right.changes⟩

def empty : CharSet := ⟨[]⟩

/-- All characters: all codes but the surrogates. -/
def all : CharSet := ⟨[0, 0xD800, 0xE000, 0x110000]⟩

def ascii : CharSet := ⟨[0, 0x80]⟩

def union : CharSet → CharSet → CharSet := combine or

def intersection : CharSet → CharSet → CharSet := combine and

def difference : CharSet → CharSet → CharSet := combine fun left right => left && !right

def symmetricDifference : CharSet → CharSet → CharSet := combine xor

instance : Union CharSet := ⟨union⟩

instance : SDiff CharSet := ⟨difference⟩

def complement (set : CharSet) : CharSet := all \ set

def unions (sets : List CharSet) : CharSet := sets.foldr union empty

def between (first last : Char) : CharSet :=
  if first ≤ last then intersection all ⟨[first.toNat, last.toNat + 1]⟩ else empty

def single (char : Char) : CharSet := ⟨[char.toNat, char.toNat + 1]⟩

def changesOf : (codes : List Nat) → List Nat
  | [] => []
  | code :: rest =>
      match changesOf rest with
      | [] => [code, code + 1]
      | next :: others =>
          if next = code then next :: others
          else if next = code + 1 then code :: others
          else code :: (code + 1) :: next :: others

def ofCodes (codes : List Nat) : CharSet := ⟨changesOf (codes.mergeSort (· ≤ ·))⟩

def stretches (set : CharSet) : List (Nat × Nat) := go set.changes
where
  go : List Nat → List (Nat × Nat)
    | first :: after :: rest => (first, after - 1) :: go rest
    | _ => []

def isAscii (set : CharSet) : Bool := set.changes.all (· ≤ 0x80)

/-! Tables of characters are texts: hexadecimal codes, pairs of them as in `41-5A`, and pairs with a
step as in `100-136/2`, all in ascending order and without touching, with blanks and line breaks
between them. -/

def entriesOf (table : String) : List String :=
  ((table.splitOn "\n").flatMap (·.splitOn " ")).filter (· ≠ "")

def hexDigit (char : Char) : Nat :=
  if char.isDigit then char.toNat - 48 else char.toNat - 55

def hexValue (digits : String) : Nat :=
  digits.foldl (fun value char => value * 16 + hexDigit char) 0

def entry (text : String) : Nat × Nat × Nat :=
  match text.splitOn "-" with
  | [first, rest] =>
      match rest.splitOn "/" with
      | [last, step] => (hexValue first, hexValue last, hexValue step)
      | _ => (hexValue first, hexValue rest, 1)
  | _ => (hexValue text, hexValue text, 1)

/-- The changes of an entry, whose last code lies whole steps behind the first. -/
def entryChanges (text : String) : List Nat :=
  let (first, last, step) := entry text
  if step = 1 then [first, last + 1]
  else (List.range ((last - first) / step + 1)).flatMap fun count =>
    [first + count * step, first + count * step + 1]

def ofTable (table : String) : CharSet := ⟨(entriesOf table).flatMap entryChanges⟩

end CharSet

end FilterSynthesis
