import SingleSignOn.Bytes

namespace SingleSignOn.Uri

/-!
# Addresses

Whether a text is the address of a host: an optional scheme, a host with an
optional port, and a path.  Only the form is judged; nothing is looked up.
A path alone is an address as well.
-/

/-- Why a text is no address. -/
inductive Fault where
  | empty
  | invalidCharacter
  | invalidAuthority
  | invalidFormat
  | schemeTooLong
  | tooLong
  deriving DecidableEq, Repr

/-- The text of a fault. -/
def Fault.message : Fault -> String
  | empty => "empty string"
  | invalidCharacter => "invalid uri character"
  | invalidAuthority => "invalid authority"
  | invalidFormat => "invalid format"
  | schemeTooLong => "scheme too long"
  | tooLong => "uri too long"

/-- Whether a byte is the ASCII code of one of these characters. -/
def isOneOf (choices : String) (byte : UInt8) : Bool :=
  choices.toList.any fun char => char.toNat == byte.toNat

/-- Whether a byte is an ASCII letter or digit. -/
def isAlphanumeric (byte : UInt8) : Bool :=
  byte.toNat < 128 && (Char.ofNat byte.toNat).isAlphanum

/-- Whether a byte may stand in a scheme. -/
def inScheme (byte : UInt8) : Bool :=
  isAlphanumeric byte || isOneOf "+-.~" byte

/-- Whether a byte may stand in an authority. -/
def inAuthority (byte : UInt8) : Bool :=
  isAlphanumeric byte || isOneOf "!#$&'()*+,-./:;=?@[]_~" byte

/-- Whether a byte is a blank or a control of ASCII. -/
def isControl (byte : UInt8) : Bool :=
  byte.toNat < 0x21 || byte.toNat = 0x7f

/-- Whether a byte may stand in a path. -/
def inPath (byte : UInt8) : Bool :=
  !isControl byte && !isOneOf "<>`" byte

/-- Whether a byte may stand in a query. -/
def inQuery (byte : UInt8) : Bool :=
  !isControl byte && !isOneOf "\"<>" byte

/-- What was met of an authority. -/
structure Met where
  colons : Nat
  opened : Bool
  closed : Bool
  percent : Bool
  /-- The last byte was an at sign. -/
  atEnd : Bool

/-- Reads an authority up to a slash, a question mark or a number sign.
Colons inside of brackets or before an at sign separate no port. -/
def readAuthority (met : Met) : Bytes -> Except Fault (Met × Bytes)
  | [] => .ok (met, [])
  | byte :: rest =>
    if isOneOf "/?#" byte then .ok (met, byte :: rest)
    else if byte = 0x3a then
      if 8 ≤ met.colons then .error .invalidAuthority
      else readAuthority { met with colons := met.colons + 1, atEnd := false } rest
    else if byte = 0x5b then
      if met.percent || met.opened then .error .invalidAuthority
      else readAuthority { met with opened := true, atEnd := false } rest
    else if byte = 0x5d then
      if !met.opened || met.closed then .error .invalidAuthority
      else readAuthority { met with closed := true, colons := 0, percent := false, atEnd := false } rest
    else if byte = 0x40 then readAuthority { met with colons := 0, percent := false, atEnd := true } rest
    else if byte = 0x25 then readAuthority { met with percent := true, atEnd := false } rest
    else if inAuthority byte then readAuthority { met with atEnd := false } rest
    else .error .invalidCharacter

/-- What follows an authority of good form. -/
def afterAuthority (bytes : Bytes) : Except Fault Bytes := do
  let (met, rest) ← readAuthority ⟨0, false, false, false, false⟩ bytes
  if met.opened != met.closed || 1 < met.colons || met.atEnd || met.percent then throw .invalidAuthority
  return rest

/-- Judges a path with its query.  A fragment is not looked at. -/
def checkPath (bytes : Bytes) : Except Fault Unit := do
  let (path, rest) := bytes.span fun byte => !isOneOf "?#" byte
  if !path.all inPath then throw .invalidCharacter
  match rest with
  | 0x3f :: rest =>
    let query := rest.takeWhile fun byte => byte != 0x23
    if !query.all inQuery then throw .invalidCharacter
  | _ => pure ()

/-- What follows the scheme, if the text begins with one. -/
def afterScheme? (bytes : Bytes) : Option (Nat × Bytes) :=
  let (scheme, rest) := bytes.span inScheme
  match rest with
  | 0x3a :: 0x2f :: 0x2f :: rest => if bytes.length ≤ 3 then none else some (scheme.length, rest)
  | _ => none

/-- The first fault of a text as an address. -/
def check (text : String) : Except Fault Unit := do
  let bytes := Bytes.ofString text
  if 65534 < bytes.length then throw .tooLong
  match bytes with
  | [] => throw .empty
  | [0x2f] => return ()
  | [0x2a] => return ()
  | 0x2f :: _ => checkPath bytes
  | _ =>
    match afterScheme? bytes with
    | none =>
      let rest ← afterAuthority bytes
      if !rest.isEmpty then throw (if bytes.length = 1 then .invalidCharacter else .invalidFormat)
    | some (schemeLength, hosted) =>
      if 64 < schemeLength then throw .schemeTooLong
      if hosted.isEmpty then throw .empty
      let rest ← afterAuthority hosted
      if rest.length = hosted.length then throw .invalidFormat
      checkPath rest

/-- The path of an address, without its query.  The address of a host alone
has none, and neither has what is no address. -/
def pathOf (text : String) : String :=
  let bytes := Bytes.ofString text
  let hosted := match bytes with
    | 0x2f :: _ => bytes
    | _ => ((afterScheme? bytes).map Prod.snd).getD []
  let rest := hosted.dropWhile fun byte => !isOneOf "/?#" byte
  (Bytes.toString? (rest.takeWhile fun byte => !isOneOf "?#" byte)).getD ""

end SingleSignOn.Uri
