import FilterSynthesis.Proofs.Text.Encoding

/-!
The order of texts is that of their bytes in UTF-8: of two different characters the one with the
lower code has the lower bytes, whatever follows either of them.
-/

namespace FilterSynthesis

namespace Utf8

theorem cons_lt_cons {first second : Nat} {rest others : Bytes} (atMost : first ≤ second)
    (byte : second < 256) (later : first = second → rest < others) :
    UInt8.ofNat first :: rest < UInt8.ofNat second :: others := by
  rw [List.cons_lt_cons_iff]
  rcases Nat.lt_or_eq_of_le atMost with less | equal
  · left
    rw [UInt8.lt_iff_toNat_lt, UInt8.toNat_ofNat_of_lt' (less.trans byte),
      UInt8.toNat_ofNat_of_lt' byte]
    exact less
  · exact .inr ⟨congrArg _ equal, later equal⟩

theorem encodeChar_append_lt {first second : Char} (less : first < second) (rest others : Bytes) :
    String.utf8EncodeChar first ++ rest < String.utf8EncodeChar second ++ others := by
  have codes : first.val.toNat < second.val.toNat := less
  have bound : second.val.toNat < 1114112 := by
    have valid : second.val.toNat.isValidChar := second.valid
    unfold Nat.isValidChar at valid
    omega
  unfold String.utf8EncodeChar
  generalize first.val.toNat = code at codes
  generalize second.val.toNat = other at codes bound
  dsimp only
  -- a higher code has more bytes and then a higher lead byte, or equally many
  split
  · split
    · exact cons_lt_cons (by omega) (by omega) (by omega)
    · split
      · exact cons_lt_cons (by omega) (by omega) (by omega)
      · split <;> exact cons_lt_cons (by omega) (by omega) (by omega)
  · rw [if_neg (by omega : ¬other ≤ 0x7f)]
    split
    · split
      · refine cons_lt_cons (by omega) (by omega) fun lead => ?_
        exact cons_lt_cons (by omega) (by omega) (by omega)
      · split <;> exact cons_lt_cons (by omega) (by omega) (by omega)
    · rw [if_neg (by omega : ¬other ≤ 0x7ff)]
      split
      · split
        · refine cons_lt_cons (by omega) (by omega) fun lead => ?_
          refine cons_lt_cons (by omega) (by omega) fun next => ?_
          exact cons_lt_cons (by omega) (by omega) (by omega)
        · exact cons_lt_cons (by omega) (by omega) (by omega)
      · rw [if_neg (by omega : ¬other ≤ 0xffff)]
        refine cons_lt_cons (by omega) (by omega) fun lead => ?_
        refine cons_lt_cons (by omega) (by omega) fun next => ?_
        refine cons_lt_cons (by omega) (by omega) fun third => ?_
        exact cons_lt_cons (by omega) (by omega) (by omega)

theorem encodeChars_lt {lefts rights : List Char} (less : lefts < rights) :
    encodeChars lefts < encodeChars rights := by
  induction lefts generalizing rights with
  | nil =>
      cases rights with
      | nil => exact absurd less (List.lt_irrefl [])
      | cons second others =>
          obtain ⟨byte, bytes, encoded⟩ :=
            List.exists_cons_of_ne_nil (String.utf8EncodeChar_ne_nil (c := second))
          rw [encodeChars_cons, encoded]
          exact List.nil_lt_cons _ _
  | cons first rest induction =>
      cases rights with
      | nil => exact absurd less (List.not_lt_nil _)
      | cons second others =>
          rw [encodeChars_cons, encodeChars_cons]
          rcases List.cons_lt_cons_iff.mp less with here | ⟨rfl, later⟩
          · exact encodeChar_append_lt here _ _
          · exact List.append_left_lt (induction later)

theorem encode_lt_iff {left right : String} : encode left < encode right ↔ left < right := by
  rw [encode_eq, encode_eq, String.lt_iff_toList_lt]
  refine ⟨fun less => ?_, encodeChars_lt⟩
  rcases lt_trichotomy left.toList right.toList with before | same | after
  · exact before
  · rw [same] at less
    exact absurd less (List.lt_irrefl _)
  · exact absurd less (List.lt_asymm (encodeChars_lt after))

theorem encode_le_iff {left right : String} : encode left ≤ encode right ↔ left ≤ right := by
  rw [← List.not_lt, ← not_lt, encode_lt_iff]

end Utf8

end FilterSynthesis
