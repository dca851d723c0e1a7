import DtsBundle.Identifier
/-!
# What identifiers are made of

No character that ends a name elsewhere stands in an identifier: not a slash, not a line feed, not a carriage return.
-/
namespace DtsBundle

theorem isIdentifierChar_of_isIdentifierStart {c : Char} (h : isIdentifierStart c = true) :
    isIdentifierChar c = true := by
  simp only [isIdentifierStart, isIdentifierChar, Char.isAlphanum, Bool.or_eq_true] at h ⊢
  rcases h with (hletter | hlow) | hdollar
  · exact .inl (.inl (.inl hletter))
  · exact .inl (.inr hlow)
  · exact .inr hdollar

theorem isIdentifierChar_of_mem {name : Text} {c : Char} (h : isIdentifier name = true) (hc : c ∈ name) :
    isIdentifierChar c = true := by
  cases name with
  | nil => cases hc
  | cons first rest =>
    rw [isIdentifier, Bool.and_eq_true] at h
    rcases List.mem_cons.1 hc with rfl | hc
    · exact isIdentifierChar_of_isIdentifierStart h.1
    · exact List.all_eq_true.1 h.2 c hc

/-- **A character that no identifier may have is in none.** -/
theorem not_mem_of_isIdentifier {name : Text} {c : Char} (h : isIdentifier name = true) (hc : isIdentifierChar c = false) :
    c ∉ name := by
  intro hm
  rw [isIdentifierChar_of_mem h hm] at hc
  cases hc

end DtsBundle
