import SingleSignOn.Log.Event
import SingleSignOn.Text.Decimal
import SingleSignOn.Text.Pattern.Notation

namespace SingleSignOn.Log

/-!
# Directives

A directive says down to which level something is logged.  It may be meant
for targets that begin in some way, for what happens inside of spans of a
name, and for what has a field, or a field with some value:
`target[span{field=value}]=level`.  Each part may be left out.

Where a directive is to be cut is found in its text without the blanks around
it, and the cuts are made in the text with these blanks.  So a blank behind a
directive becomes a part of its last word, and a blank before it spoils every
cut.
-/

/-- What is asked of the value of a field. -/
inductive ValueTest where
  | boolean (value : Bool)
  | integer (value : Int)
  /-- A number that is no integer of 64 bits, which no field has. -/
  | otherNumber (text : String)
  | pattern (text : String) (pattern : Text.Pattern)
  deriving DecidableEq, Repr

/-- What is asked of a field: that it is there, and perhaps its value. -/
structure FieldTest where
  name : String
  value : Option ValueTest
  deriving DecidableEq, Repr

/-- A directive. -/
structure Directive where
  /-- The beginning of the targets that are meant. -/
  target : Option String
  /-- The name of the spans that are meant. -/
  span : Option String
  field : Option FieldTest
  /-- The rank up to which events are logged. -/
  rank : Nat
  deriving DecidableEq, Repr

namespace ValueTest

/-- The digits at the front of a text, and the rest. -/
def digits (text : List Char) : List Char × List Char :=
  text.span Char.isDigit

/-- Whether a text is empty or an exponent with its mark. -/
def isExponent : List Char -> Bool
  | [] => true
  | mark :: rest =>
    let unsigned := match rest with
      | '+' :: rest => rest
      | '-' :: rest => rest
      | _ => rest
    mark.toLower = 'e' && !unsigned.isEmpty && unsigned.all Char.isDigit

/-- Whether a text writes a number: digits with or without a point among
them, and an exponent if it has one, or the word for infinity or for what is
no number, all after an optional sign. -/
def isNumber (text : List Char) : Bool :=
  let unsigned := match text with
    | '+' :: rest => rest
    | '-' :: rest => rest
    | _ => text
  let (whole, rest) := digits unsigned
  let (fraction, rest) := match rest with
    | '.' :: rest => digits rest
    | _ => ([], rest)
  (!(whole.isEmpty && fraction.isEmpty) && isExponent rest) ||
    ["inf", "infinity", "nan"].contains (String.ofList (unsigned.map Char.toLower))

/-- Reads what is asked of a value: the first of truth value, integer, number
and pattern that the text can be. -/
def parse? (text : String) : Option ValueTest :=
  if text = "true" then some (boolean true)
  else if text = "false" then some (boolean false)
  else
    match Decimal.readUpTo? 18446744073709551615 text.toList with
    | some value => some (integer value)
    | none =>
      match Decimal.readInt64? text.toList with
      | some value => some (integer value)
      | none =>
        if isNumber text.toList then some (otherNumber text)
        else (Text.Pattern.parse? text).map (pattern text)

/-- Whether a value is what is asked for. -/
def accepts : ValueTest -> FieldValue -> Bool
  | integer wanted, .integer value => wanted = value
  | pattern _ wanted, .text value => wanted.fits value
  | pattern _ wanted, .bare value => wanted.fits value
  | _, _ => false

end ValueTest

namespace FieldTest

/-- Reads a name, or a name and a value after an equals sign.  What stands
after a second equals sign is left out. -/
def parse? (text : String) : Option FieldTest :=
  let (name, rest) := text.toList.span (· != '=')
  if text.isEmpty then none
  else match rest with
    | [] => some ⟨text, none⟩
    | _ :: rest =>
      (ValueTest.parse? (String.ofList (rest.takeWhile (· != '=')))).map fun value =>
        ⟨String.ofList name, some value⟩

/-- Whether fields pass the test. -/
def accepts (test : FieldTest) (fields : Fields) : Bool :=
  match fields.lookup test.name, test.value with
  | none, _ => false
  | some _, none => true
  | some value, some wanted => wanted.accepts value

end FieldTest

/-- The rank that the text of a level stands for: a number or a name in any case. -/
def rankOf? (text : String) : Option Nat :=
  match Decimal.readUpTo? 5 text.toList with
  | some rank => some rank
  | none =>
    match String.ofList (text.toList.map Char.toLower) with
    | "off" => some 0
    | "error" => some 1
    | "warn" => some 2
    | "info" => some 3
    | "debug" => some 4
    | "trace" => some 5
    | _ => none

/-- The rank of the finest level. -/
def finestRank : Nat := Level.trace.rank

/-- A character that may begin a directive. -/
def beginsDirective (char : Char) : Bool :=
  Text.isAlphanumeric char || ['-', ':', '_', '['].contains char

/-- The text without blanks at both ends. -/
def trimmed (text : List Char) : List Char :=
  ((text.dropWhile Text.isBlankChar).reverse.dropWhile Text.isBlankChar).reverse

namespace Directive

/-- A stretch of bytes as a text.  A cut through a character is none. -/
def cut? (whole : Bytes) (first last : Nat) : Option String :=
  Bytes.toString? ((whole.take last).drop first)

/-- How many bytes come before the first, from some place on, that is one of
the given characters. -/
def find (marks : List Char) (bytes : Bytes) (start : Nat) : Nat :=
  start + ((bytes.drop start).takeWhile fun byte => marks.all fun mark => mark.toNat != byte.toNat).length

/-- The rank of a directive whose level begins somewhere; without a level
every event is meant. -/
def rankFrom? (whole : Bytes) (start : Nat) : Option Nat := do
  let text ← cut? whole start whole.length
  if text.isEmpty then some finestRank else rankOf? text

/-- Reads what follows the parts in brackets. -/
def parseEnd? (whole bytes : Bytes) (target span : Option String) (field : Option FieldTest) (start : Nat) :
    Option Directive :=
  match bytes.drop start with
  | [] => some ⟨target, span, field, finestRank⟩
  | 0x3d :: _ => (rankFrom? whole (start + 1)).map fun rank => ⟨target, span, field, rank⟩
  | _ => none

/-- Reads what follows an opening bracket. -/
def parseSpan? (whole bytes : Bytes) (target : Option String) (start : Nat) : Option Directive := do
  let close := find [']', '\x7b'] bytes start
  let span ← cut? whole start close
  match bytes.drop close with
  | 0x5d :: _ => parseEnd? whole bytes target (some span) none (close + 1)
  | 0x7b :: _ =>
    let fieldEnd := find ['\x7d'] bytes (close + 1)
    match bytes.drop fieldEnd with
    | 0x7d :: 0x5d :: _ =>
      let field ← FieldTest.parse? (← cut? whole (close + 1) fieldEnd)
      parseEnd? whole bytes target (if span.isEmpty then none else some span) (some field) (fieldEnd + 2)
    | _ => none
  | _ => none

/-- Reads a directive. -/
def parse? (text : List Char) : Option Directive := do
  let seen := trimmed text
  let first ← seen.head?
  if !beginsDirective first then none
  let whole := Bytes.ofString (String.ofList text)
  let bytes := Bytes.ofString (String.ofList seen)
  let headEnd := find ['=', '['] bytes 0
  match bytes.drop headEnd with
  | 0x3d :: _ => do
    let target ← cut? whole 0 headEnd
    return ⟨some target, none, none, ← rankFrom? whole (headEnd + 1)⟩
  | 0x5b :: _ => do
    let target ← cut? whole 0 headEnd
    parseSpan? whole bytes (if headEnd = 0 then none else some target) (headEnd + 1)
  | _ =>
    match rankOf? (String.ofList text) with
    | some rank => some ⟨none, none, none, rank⟩
    | none => some ⟨some (String.ofList text), none, none, finestRank⟩

/-- Whether a target begins as the directive demands. -/
def meansTarget (directive : Directive) (target : String) : Bool :=
  directive.target.all fun front => front.toList.isPrefixOf target.toList

/-- Whether the directive tells spans apart, so that it takes effect inside of them. -/
def looksAtSpans (directive : Directive) : Bool :=
  directive.span.isSome || directive.field.isSome

/-- Whether the directive can be applied to an event without its spans. -/
def standsAlone (directive : Directive) : Bool :=
  directive.span.isNone && directive.field.all fun test => test.value.isNone

end Directive

end SingleSignOn.Log
