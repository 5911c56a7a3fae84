import FilterSynthesis.Text.Utf8
import Mathlib.Data.String.Basic

namespace FilterSynthesis.Utf8

def encodeChars (chars : List Char) : Bytes := chars.flatMap String.utf8EncodeChar

def encode (text : String) : Bytes := text.toUTF8.data.toList

theorem encode_eq (text : String) : encode text = encodeChars text.toList := by
  conv_lhs => rw [← String.ofList_toList (s := text)]
  rw [encode, String.toUTF8_eq_toByteArray, String.toByteArray_ofList, List.utf8Encode,
    List.toList_data_toByteArray, encodeChars]

@[simp] theorem encodeChars_nil : encodeChars [] = [] := rfl

@[simp] theorem encodeChars_append (first second : List Char) :
    encodeChars (first ++ second) = encodeChars first ++ encodeChars second := List.flatMap_append

theorem encodeChars_cons (char : Char) (rest : List Char) :
    encodeChars (char :: rest) = String.utf8EncodeChar char ++ encodeChars rest := List.flatMap_cons

theorem encodeChar_of_lt {char : Char} (low : char.toNat < 0x80) :
    String.utf8EncodeChar char = [char.toNat.toUInt8] :=
  if_pos (Nat.le_of_lt_succ low)

theorem toNat_byte {code : Nat} (small : code < 256) : (UInt8.ofNat code).toNat = code :=
  UInt8.toNat_ofNat_of_lt' small

theorem follow_cons (count code bits : Nat) (rest : Bytes) :
    follow (count + 1) code (UInt8.ofNat (bits % 64 + 128) :: rest) =
      follow count (code * 64 + bits % 64) rest := by
  have small : bits % 64 < 64 := Nat.mod_lt _ (by decide)
  have same := toNat_byte (by omega : bits % 64 + 128 < 256)
  have continues : 0x80 ≤ UInt8.ofNat (bits % 64 + 128) ∧ UInt8.ofNat (bits % 64 + 128) < 0xC0 := by
    simp only [UInt8.le_iff_toNat_le, UInt8.lt_iff_toNat_lt, same, UInt8.reduceToNat]
    omega
  rw [follow, if_pos continues, same]
  congr 2
  omega

theorem multibyte_of_follow {count lead least : Nat} {bytes rest : Bytes} {char : Char}
    (followed : follow count lead bytes = some (char.toNat, rest)) (enough : least ≤ char.toNat) :
    multibyte count lead least bytes = some (char, rest) := by
  have valid : least ≤ char.toNat ∧ char.toNat.isValidChar := ⟨enough, char.valid⟩
  have same : char.toNat.toUInt32 = char.val := UInt32.ofNat_toNat
  simp only [multibyte, followed, dif_pos valid, same]

theorem head?_lead_two {bits : Nat} (small : bits < 32) (bytes : Bytes) :
    head? (UInt8.ofNat (bits + 192) :: bytes) = multibyte 1 bits 0x80 bytes := by
  have same := toNat_byte (by omega : bits + 192 < 256)
  rw [head?, same, show (bits + 192) % 32 = bits by omega]
  simp only [UInt8.lt_iff_toNat_lt, same, UInt8.reduceToNat]
  rw [if_neg (by omega), if_neg (by omega), if_pos (by omega)]

theorem head?_lead_three {bits : Nat} (small : bits < 16) (bytes : Bytes) :
    head? (UInt8.ofNat (bits + 224) :: bytes) = multibyte 2 bits 0x800 bytes := by
  have same := toNat_byte (by omega : bits + 224 < 256)
  rw [head?, same, show (bits + 224) % 16 = bits by omega]
  simp only [UInt8.lt_iff_toNat_lt, same, UInt8.reduceToNat]
  rw [if_neg (by omega), if_neg (by omega), if_neg (by omega), if_pos (by omega)]

theorem head?_lead_four {bits : Nat} (small : bits < 8) (bytes : Bytes) :
    head? (UInt8.ofNat (bits + 240) :: bytes) = multibyte 3 bits 0x10000 bytes := by
  have same := toNat_byte (by omega : bits + 240 < 256)
  rw [head?, same, show (bits + 240) % 8 = bits by omega]
  simp only [UInt8.lt_iff_toNat_lt, same, UInt8.reduceToNat]
  rw [if_neg (by omega), if_neg (by omega), if_neg (by omega), if_neg (by omega), if_pos (by omega)]

theorem head?_encodeChar (char : Char) (rest : Bytes) :
    head? (String.utf8EncodeChar char ++ rest) = some (char, rest) := by
  have bound : char.toNat < 0x110000 := by
    have valid : char.toNat.isValidChar := char.valid
    unfold Nat.isValidChar at valid
    omega
  have code : char.val.toNat = char.toNat := rfl
  simp only [String.utf8EncodeChar, code]
  split
  · have same := toNat_byte (by omega : char.toNat < 256)
    have ascii : UInt8.ofNat char.toNat < 0x80 := by
      simp only [UInt8.lt_iff_toNat_lt, same, UInt8.reduceToNat]
      omega
    rw [List.singleton_append, head?, if_pos ascii, same, Char.ofNat_toNat]
  · split
    · simp only [List.cons_append, List.nil_append]
      rw [head?_lead_two (Nat.mod_lt _ (by decide))]
      refine multibyte_of_follow ?_ (by omega)
      rw [follow_cons, follow]
      congr 2
      omega
    · split
      · simp only [List.cons_append, List.nil_append]
        rw [head?_lead_three (Nat.mod_lt _ (by decide))]
        refine multibyte_of_follow ?_ (by omega)
        rw [follow_cons, follow_cons, follow]
        congr 2
        omega
      · simp only [List.cons_append, List.nil_append]
        rw [head?_lead_four (Nat.mod_lt _ (by decide))]
        refine multibyte_of_follow ?_ (by omega)
        rw [follow_cons, follow_cons, follow_cons, follow]
        congr 2
        omega

end FilterSynthesis.Utf8
