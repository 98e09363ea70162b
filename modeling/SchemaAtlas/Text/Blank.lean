/-!
# White space

The characters with the property `White_Space`, and trimming by it.
Zero-width characters are not in the class, and neither are the control
characters that separate files, groups, records and units.
-/

namespace SchemaAtlas.Text

/-- The property `White_Space`. -/
def isBlank (letter : Char) : Bool :=
  let code := letter.toNat
  (9 ≤ code && code ≤ 13) || code == 0x20 || code == 0x85 || code == 0xA0 ||
    code == 0x1680 || (0x2000 ≤ code && code ≤ 0x200A) || code == 0x2028 ||
    code == 0x2029 || code == 0x202F || code == 0x205F || code == 0x3000

/-- The list without the longest tail of members of the class. -/
def dropEndWhile (inClass : Char → Bool) (letters : List Char) : List Char :=
  (letters.reverse.dropWhile inClass).reverse

/-- The text without white space at its end. -/
def trimEnd (text : String) : String :=
  String.ofList (dropEndWhile isBlank text.toList)

/-- The text without white space at either end. -/
def trim (text : String) : String :=
  String.ofList ((dropEndWhile isBlank text.toList).dropWhile isBlank)

/-- Whether the text has nothing but white space. -/
def isBlankText (text : String) : Bool := text.toList.all isBlank

end SchemaAtlas.Text
