import SingleSignOn.Text.Blank

namespace SingleSignOn.Text

/-!
# Sets of characters

A set is described by the characters and ranges in it, by one of the usual
names, or by an operation on other sets.
-/

/-- A set that has a name.  But for the set of everything they hold characters
of ASCII only. -/
inductive NamedSet where
  | any
  | ascii
  | lower
  | upper
  | letter
  | digit
  | hexDigit
  | alphanumeric
  | punctuation
  | visible
  | control
  | gap
  | blank
  | word
  deriving DecidableEq, Repr

namespace NamedSet

/-- Whether a character is in a named set. -/
def contains (set : NamedSet) (char : Char) : Bool :=
  let code := char.toNat
  match set with
  | any => true
  | ascii => code < 0x80
  | lower => char.isLower
  | upper => char.isUpper
  | letter => char.isAlpha
  | digit => char.isDigit
  | hexDigit => char.isDigit || ('a' ≤ char && char ≤ 'f') || ('A' ≤ char && char ≤ 'F')
  | alphanumeric => char.isAlphanum
  | punctuation => 0x21 ≤ code && code < 0x7f && !char.isAlphanum
  | visible => 0x21 ≤ code && code < 0x7f
  | control => code < 0x20 || code = 0x7f
  | gap => char = ' ' || char = '\t'
  | blank => code < 0x80 && isBlankChar char
  | word => char.isAlphanum || char = '_'

end NamedSet

/-- A set of characters. -/
inductive CharSet where
  | empty
  | single (char : Char)
  | range (first last : Char)
  | named (set : NamedSet)
  | complement (set : CharSet)
  | union (left right : CharSet)
  | intersection (left right : CharSet)
  | difference (left right : CharSet)
  | symmetricDifference (left right : CharSet)
  /-- The characters that are in a set in the upper or the lower case of ASCII. -/
  | anyCase (set : CharSet)
  deriving DecidableEq, Repr

namespace CharSet

/-- Whether a character is in a set. -/
def contains : CharSet -> Char -> Bool
  | empty, _ => false
  | single member, char => char = member
  | range first last, char => first ≤ char && char ≤ last
  | named set, char => set.contains char
  | complement set, char => !set.contains char
  | union left right, char => left.contains char || right.contains char
  | intersection left right, char => left.contains char && right.contains char
  | difference left right, char => left.contains char && !right.contains char
  | symmetricDifference left right, char => left.contains char != right.contains char
  | anyCase set, char => set.contains char || set.contains char.toLower || set.contains char.toUpper

/-- The set in which case is disregarded if that is wanted. -/
def caseBy (ignored : Bool) (set : CharSet) : CharSet :=
  if ignored then anyCase set else set

/-- The set or its complement. -/
def negatedBy (negated : Bool) (set : CharSet) : CharSet :=
  if negated then complement set else set

end CharSet

end SingleSignOn.Text
