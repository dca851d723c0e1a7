import DtsBundle.Json.Reader
import DtsBundle.Text.Quoted
/-!
# Quoted text read back

A quoted text has one way of writing for each character: as it is, with a backslash, or as four hexadecimal digits.
**Whatever a character is written as is read as that character** (`readString_escaped`), and what follows is left alone;
so a quoted text of any characters is read back as that text (`readString_quoted`).
-/
namespace DtsBundle.Json

open Text (escaped hexDigit)

theorem hexValue?_hexDigit {n : Nat} (h : n < 16) : hexValue? (hexDigit n) = some n := by
  have hall : ∀ digit : Fin 16, hexValue? (hexDigit digit) = some digit.val := by decide
  exact hall ⟨n, h⟩

theorem hexUnit?_control {n : Nat} (h : n < 0x20) : hexUnit? '0' '0' (hexDigit (n / 16)) (hexDigit (n % 16)) = some n := by
  have hzero : hexValue? '0' = some 0 := by decide
  have hhigh : hexValue? (hexDigit (n / 16)) = some (n / 16) := hexValue?_hexDigit (by omega)
  have hlow : hexValue? (hexDigit (n % 16)) = some (n % 16) := hexValue?_hexDigit (by omega)
  have hvalue : ((0 * 16 + 0) * 16 + n / 16) * 16 + n % 16 = n := by omega
  simp only [hexUnit?, hzero, hhigh, hlow, Option.bind_eq_bind, Option.bind_some, Option.pure_def, hvalue]

theorem readString_control {c : Char} (h : c.toNat < 0x20) (rest : Text) :
    readString ('\\' :: 'u' :: '0' :: '0' :: hexDigit (c.toNat / 16) :: hexDigit (c.toNat % 16) :: rest) =
      (readString rest).map (prepend c) := by
  have hplane : c.toNat < 0xD800 ∨ 0xDFFF < c.toNat := .inl (by omega)
  rw [readString, hexUnit?_control h]
  simp only [if_pos hplane, Char.ofNat_toNat]

theorem readString_plain {c : Char} (hquote : c ≠ '"') (hbackslash : c ≠ '\\') (h : ¬ c.toNat < 0x20) (rest : Text) :
    readString (c :: rest) = (readString rest).map (prepend c) := by
  rw [readString, if_neg h]
  all_goals simp [hquote, hbackslash]

/-- **What a character is written as is read as the character.** -/
theorem readString_escaped (c : Char) (rest : Text) :
    readString (escaped c ++ rest) = (readString rest).map (prepend c) := by
  unfold escaped
  split
  iterate 7 rfl
  rename_i hquote hbackslash _ _ _ _ _
  split
  · rename_i hcontrol
    exact readString_control hcontrol rest
  · rename_i hplain
    exact readString_plain hquote hbackslash hplain rest

/-- **A quoted text is read back** from behind its opening quote, and what follows it is left. -/
theorem readString_quoted (text rest : Text) : readString (text.flatMap escaped ++ '"' :: rest) = .ok (text, rest) := by
  induction text with
  | nil => rfl
  | cons c text ih =>
    rw [List.flatMap_cons, List.append_assoc, readString_escaped, ih]
    rfl

end DtsBundle.Json
