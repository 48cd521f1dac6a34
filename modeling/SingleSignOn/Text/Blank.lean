namespace SingleSignOn.Text

/-!
# Blank text

A name or an email counts as absent when it holds nothing but white space.
White space is the Unicode property of that name, so it is given as the
table of its twenty-five characters.
-/

/-- The code points with the Unicode property White_Space. -/
def blankCodes : List Nat :=
  [0x09, 0x0A, 0x0B, 0x0C, 0x0D, 0x20, 0x85, 0xA0, 0x1680, 0x2000, 0x2001, 0x2002, 0x2003, 0x2004,
    0x2005, 0x2006, 0x2007, 0x2008, 0x2009, 0x200A, 0x2028, 0x2029, 0x202F, 0x205F, 0x3000]

/-- Whether a character is white space. -/
def isBlankChar (char : Char) : Bool :=
  blankCodes.contains char.toNat

/-- Whether a text holds nothing but white space; the empty text does. -/
def isBlank (text : String) : Bool :=
  text.toList.all isBlankChar

end SingleSignOn.Text
