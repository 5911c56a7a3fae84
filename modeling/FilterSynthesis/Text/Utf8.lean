namespace FilterSynthesis

abbrev Bytes := List UInt8

namespace Utf8

def follow : (count code : Nat) → Bytes → Option (Nat × Bytes)
  | 0, code, bytes => some (code, bytes)
  | _ + 1, _, [] => none
  | count + 1, code, byte :: rest =>
      if 0x80 ≤ byte ∧ byte < 0xC0 then follow count (code * 64 + byte.toNat % 64) rest
      else none

theorem length_of_follow {count code result : Nat} {bytes rest : Bytes}
    (read : follow count code bytes = some (result, rest)) : rest.length ≤ bytes.length := by
  induction count generalizing code bytes with
  | zero =>
      simp only [follow, Option.some.injEq, Prod.mk.injEq] at read
      simp [read.2]
  | succ count induction =>
      cases bytes with
      | nil => simp [follow] at read
      | cons byte bytes =>
          simp only [follow] at read
          split at read
          · exact Nat.le_succ_of_le (induction read)
          · simp at read

/-- A character of `count` continuation bytes: overlong forms, surrogates and codes beyond
U+10FFFF are ill-formed. -/
def multibyte (count lead least : Nat) (bytes : Bytes) : Option (Char × Bytes) :=
  match follow count lead bytes with
  | some (code, rest) =>
      if valid : least ≤ code ∧ code.isValidChar then
        some (⟨code.toUInt32, by
          have small : code < 4294967296 := by
            have := valid.2
            unfold Nat.isValidChar at this
            omega
          have same : code.toUInt32.toNat = code := by
            simpa [Nat.toUInt32, UInt32.toNat_ofNat] using Nat.mod_eq_of_lt small
          simpa [UInt32.isValidChar, same] using valid.2⟩, rest)
      else none
  | none => none

def head? : Bytes → Option (Char × Bytes)
  | [] => none
  | lead :: rest =>
      if lead < 0x80 then some (Char.ofNat lead.toNat, rest)
      else if lead < 0xC0 then none
      else if lead < 0xE0 then multibyte 1 (lead.toNat % 32) 0x80 rest
      else if lead < 0xF0 then multibyte 2 (lead.toNat % 16) 0x800 rest
      else if lead < 0xF8 then multibyte 3 (lead.toNat % 8) 0x10000 rest
      else none

theorem length_of_multibyte {count lead least : Nat} {bytes rest : Bytes} {char : Char}
    (read : multibyte count lead least bytes = some (char, rest)) :
    rest.length ≤ bytes.length := by
  unfold multibyte at read
  split at read
  · rename_i followed
    split at read
    · simp only [Option.some.injEq, Prod.mk.injEq] at read
      exact read.2 ▸ length_of_follow followed
    · simp at read
  · simp at read

theorem length_of_head? {bytes rest : Bytes} {char : Char}
    (read : head? bytes = some (char, rest)) : rest.length < bytes.length := by
  cases bytes with
  | nil => simp [head?] at read
  | cons lead bytes =>
      simp only [head?] at read
      repeat' split at read
      all_goals first
        | exact Nat.lt_succ_of_le (length_of_multibyte read)
        | simp_all

end Utf8

end FilterSynthesis
