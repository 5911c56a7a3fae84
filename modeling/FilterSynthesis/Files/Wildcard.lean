import FilterSynthesis.Text.CharSet

/-!
Wildcards for names: `?` stands for any character, `*` for any characters, `[…]` for one of those
listed and `[!…]` for one of all others. Two stars are a piece of their own and stand for any number
of directories.
-/

namespace FilterSynthesis

inductive Wildcard where
  | exactly (char : Char)
  | anyChar
  | anyChars
  | anyDirectories
  | oneOf (set : CharSet)
  deriving DecidableEq, Repr

structure PatternError where
  position : Nat
  reason : String
  deriving DecidableEq, Repr

namespace PatternError

def tooManyStars (position : Nat) : PatternError :=
  ⟨position, "wildcards are either regular `*` or recursive `**`"⟩

def starsBesideName (position : Nat) : PatternError :=
  ⟨position, "recursive wildcards must form a single path component"⟩

def unclosedList (position : Nat) : PatternError := ⟨position, "invalid range pattern"⟩

def message (error : PatternError) : String :=
  s!"Pattern syntax error near position {error.position}: {error.reason}"

end PatternError

namespace Wildcard

def charsOf : List Char → CharSet
  | first :: '-' :: last :: rest => .between first last ∪ charsOf rest
  | char :: rest => .single char ∪ charsOf rest
  | [] => .empty

/-- The list that a bracket opens, up to the closing bracket, which cannot come first. -/
def listed? : List Char → Option (List Char × List Char)
  | [] => none
  | first :: rest =>
      match rest.dropWhile (· ≠ ']') with
      | [] => none
      | _ :: after => some (first :: rest.takeWhile (· ≠ ']'), after)

def bracket? : List Char → Option (Wildcard × List Char)
  | '!' :: rest => (listed? rest).map fun found => (.oneOf (charsOf found.1).complement, found.2)
  | chars => (listed? chars).map fun found => (.oneOf (charsOf found.1), found.2)

theorem length_listed? {chars list after : List Char}
    (found : listed? chars = some (list, after)) : after.length < chars.length := by
  cases chars with
  | nil => simp [listed?] at found
  | cons first rest =>
      simp only [listed?] at found
      split at found
      · simp at found
      · rename_i closing others dropped
        simp only [Option.some.injEq, Prod.mk.injEq] at found
        have bound := (List.dropWhile_suffix (l := rest) (· ≠ ']')).length_le
        simp only [dropped, List.length_cons] at bound
        rw [← found.2]
        simp only [List.length_cons]
        omega

theorem length_bracket? {chars after : List Char} {wildcard : Wildcard}
    (found : bracket? chars = some (wildcard, after)) : after.length < chars.length := by
  unfold bracket? at found
  split at found
  · simp only [Option.map_eq_some_iff, Prod.mk.injEq] at found
    obtain ⟨⟨list, rest⟩, listed, _, rfl⟩ := found
    exact Nat.lt_succ_of_lt (length_listed? listed)
  · simp only [Option.map_eq_some_iff, Prod.mk.injEq] at found
    obtain ⟨⟨list, rest⟩, listed, _, rfl⟩ := found
    exact length_listed? listed

/-- The wildcards of a text from the given position on; `fresh` tells whether a piece of a path
begins there. -/
def parseFrom (position : Nat) (fresh : Bool) (chars : List Char) :
    Except PatternError (List Wildcard) :=
  match chars with
  | [] => .ok []
  | '?' :: rest => do return .anyChar :: (← parseFrom (position + 1) false rest)
  | '*' :: '*' :: '*' :: _ => .error (.tooManyStars (position + 2))
  | '*' :: '*' :: rest =>
      if fresh then
        match rest with
        | [] => .ok [.anyDirectories]
        | '/' :: after => do return .anyDirectories :: (← parseFrom (position + 3) true after)
        | _ => .error (.starsBesideName (position + 2))
      else .error (.starsBesideName (position - 1))
  | '*' :: rest => do return .anyChars :: (← parseFrom (position + 1) false rest)
  | '[' :: rest =>
      match found : bracket? rest with
      | none => .error (.unclosedList position)
      | some (wildcard, after) =>
          have := length_bracket? found
          do return wildcard ::
            (← parseFrom (position + 1 + (rest.length - after.length)) false after)
  | char :: rest => do return .exactly char :: (← parseFrom (position + 1) (char == '/') rest)
  termination_by chars.length

def parse (text : String) : Except PatternError (List Wildcard) := parseFrom 0 true text.toList

def accepts (char : Char) : Wildcard → Bool
  | .exactly only => char == only
  | .anyChar => true
  | .anyChars => false
  | .anyDirectories => false
  | .oneOf set => set.contains char

def covers : (wildcards : List Wildcard) → (chars : List Char) → Bool
  | [], chars => chars.isEmpty
  | .anyChars :: rest, chars =>
      covers rest chars ||
        match chars with
        | [] => false
        | _ :: others => covers (.anyChars :: rest) others
  | _ :: _, [] => false
  | wildcard :: rest, char :: others => wildcard.accepts char && covers rest others
  termination_by wildcards chars => wildcards.length + chars.length

def fixed? : List Wildcard → Option (List Char)
  | [] => some []
  | .exactly char :: rest => (fixed? rest).map (char :: ·)
  | _ => none

end Wildcard

end FilterSynthesis
