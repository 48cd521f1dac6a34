import SingleSignOn.Text.Decimal

namespace SingleSignOn.Http.MediaType

/-!
# Media types

The content type of a body: type, subtype and parameters.  The question
asked here is whether a body calls itself JSON, in a notation that is well
formed as a whole.  Case does not matter, and neither do the parameters, as
long as they can be read.
-/

/-- A character that may stand in names and unquoted values. -/
def isToken (char : Char) : Bool :=
  char.isAlphanum || "!#$%&'*+-.^_`|~".toList.contains char

/-- A character that may stand between quotes. -/
def isQuotable (char : Char) : Bool :=
  31 < char.toNat && char.toNat != 127

/-- What follows a quoted value: blanks, and then the end or a further parameter. -/
def afterQuoted? : List Char -> Option (List Char)
  | [] => some []
  | ';' :: rest => some rest
  | ' ' :: rest => afterQuoted? rest
  | _ => none

/-- The rest after a quoted value.  A quote that comes first belongs to the value. -/
def quotedValue? (begun : Bool) : List Char -> Option (List Char)
  | [] => none
  | char :: rest =>
    if begun && char == '"' then afterQuoted? rest
    else if isQuotable char then quotedValue? true rest
    else none

/-- The rest after an unquoted value.  Only at the end of the text may it be empty. -/
def plainValue? (begun : Bool) : List Char -> Option (List Char)
  | [] => some []
  | char :: rest =>
    if begun && char == ';' then some rest
    else if isToken char then plainValue? true rest
    else none

/-- The rest after a value. -/
def value? : List Char -> Option (List Char)
  | '"' :: rest => quotedValue? false rest
  | text => plainValue? false text

/-- The rest after the name of a parameter and its equals sign. -/
def name? (begun : Bool) : List Char -> Option (List Char)
  | [] => none
  | char :: rest =>
    if begun && char == '=' then some rest
    else if isToken char then name? true rest
    else none

/-- Whether a text is a list of parameters, each after blanks.  Every
parameter takes at least one character, so their number is bounded. -/
def areParameters : Nat -> List Char -> Bool
  | 0, text => text.isEmpty
  | fuel + 1, text =>
    match text.dropWhile (· == ' ') with
    | [] => true
    | rest =>
      match (name? false rest).bind value? with
      | some after => areParameters fuel after
      | none => false

/-- A text split at its last plus sign, unless that is its first character. -/
def splitSuffix (text : List Char) : List Char × Option (List Char) :=
  let (tail, front) := text.reverse.span (· != '+')
  match front with
  | _ :: [] => (text, none)
  | _ :: name => (name.reverse, some tail.reverse)
  | [] => (text, none)

/-- Whether a media type is `application/json`, or a subtype of `application`
whose suffix is `json`. -/
def isJson (text : String) : Bool :=
  let lowered := text.toList.map Char.toLower
  let (kind, rest) := lowered.span isToken
  match rest with
  | '/' :: rest =>
    let (subtype, parameters) := rest.span isToken
    let readable := match parameters with
      | [] => true
      | ';' :: after => !subtype.isEmpty && areParameters after.length after
      | _ => false
    let (name, suffix) := splitSuffix subtype
    readable && kind == "application".toList && (name == "json".toList || suffix == some "json".toList)
  | _ => false

end SingleSignOn.Http.MediaType
