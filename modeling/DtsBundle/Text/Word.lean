import DtsBundle.Characters.Property
/-!
# Word characters

A word character is a letter or one of the things written inside words: by property, Alphabetic, a mark of any kind,
a decimal digit, a connector such as the low line, or a join control.  Below U+0080 that is the ASCII letters, the
digits and the low line.
-/
namespace DtsBundle.Text

/-- The set of word characters. -/
def wordCharacters : CharSet :=
  .unions [Characters.alphabetic.members, Characters.inCategories "Mn Mc Me Nd Pc", Characters.joinControl.members]

/-- Alphabetic, mark, decimal digit, connector or join control. -/
def isWord (c : Char) : Bool :=
  if c.toNat < 0x80 then c.isAlphanum || c == '_' else wordCharacters.has c

end DtsBundle.Text
