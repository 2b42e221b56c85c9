import CardLedger.Text.Blank
import CardLedger.Text.LowerCase

/-!
# Normal forms of texts

Merchant categories and e-mail addresses are compared by their normal form, the trimmed text in
lower case.
-/

namespace CardLedger.Text

/-- The normal form of a text: trimmed and in lower case. -/
def normalize (text : String) : String :=
  lowerCase (trim text)

/-- Whether a text is blank throughout. -/
def isBlankText (text : String) : Bool :=
  (trimChars text.toList).isEmpty

/-- Split at the first occurrence of a character; nothing if it does not occur. -/
def splitAtFirst? (sep : Char) : List Char → Option (List Char × List Char)
  | [] => none
  | c :: rest =>
      if c = sep then some ([], rest)
      else (splitAtFirst? sep rest).map fun parts => (c :: parts.1, parts.2)

/-- The pieces of a text between the occurrences of a character. -/
def pieces (sep : Char) : List Char → List (List Char)
  | [] => [[]]
  | c :: rest =>
      if c = sep then [] :: pieces sep rest
      else
        match pieces sep rest with
        | [] => [[c]]
        | piece :: more => (c :: piece) :: more

end CardLedger.Text
