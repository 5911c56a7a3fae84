import FilterSynthesis.Text.Invisible

/-!
Text for a reader's eye: between quotation marks, with every invisible character spelt out.
-/

namespace FilterSynthesis.Text

def byCode (char : Char) : List Char :=
  ['\\', 'u', '\x7b'] ++ Nat.toDigits 16 char.toNat ++ ['\x7d']

def visibleChar (char : Char) : List Char :=
  match char with
  | '"' => ['\\', '"']
  | '\\' => ['\\', '\\']
  | '\n' => ['\\', 'n']
  | '\r' => ['\\', 'r']
  | '\t' => ['\\', 't']
  | '\x00' => ['\\', '0']
  | _ => if invisibleChars.contains char then byCode char else [char]

def visible (text : String) : String :=
  String.ofList ('"' :: (text.toList.flatMap visibleChar ++ ['"']))

end FilterSynthesis.Text
