import SingleSignOn.Json.Number
import SingleSignOn.Json.Text

namespace SingleSignOn.Json

/-!
# What can be read off a JSON text

`parse` never fails.  It gives the value at the front of a byte string as
far as the grammar reaches, and marks the place where the text stops being
JSON by a `broken` leaf.  The reader of a record then walks this tree from
left to right and meets a wrong type and a broken text in the order in which
they stand in the input, which is the order in which they are reported.

Literals are kept raw, for the reasons given in `Json.Text`.
-/

mutual

/-- A value, as far as it could be read. -/
inductive Parsed where
  /-- The text is no JSON from here on. -/
  | broken
  | null
  | boolean (value : Bool)
  | number (literal : Number)
  /-- A string literal with its raw content. -/
  | string (raw : Bytes)
  | array (items : Items)
  | object (members : Members)

/-- The items of an array, up to its bracket or to where it breaks. -/
inductive Items where
  | broken
  | closed
  | next (head : Parsed) (tail : Items)

/-- The members of an object, up to its brace or to where it breaks.  Keys are raw. -/
inductive Members where
  | broken
  | closed
  | next (key : Bytes) (value : Parsed) (tail : Members)

end

instance : Inhabited Parsed := ⟨.broken⟩

/-- Drops white space from the front. -/
def skipBlanks : Bytes -> Bytes
  | [] => []
  | byte :: rest =>
    if byte = 0x20 ∨ byte = 0x0a ∨ byte = 0x09 ∨ byte = 0x0d then skipBlanks rest else byte :: rest

/-- Drops a keyword from the front. -/
def dropKeyword? : Bytes -> Bytes -> Option Bytes
  | [], bytes => some bytes
  | expected :: keyword, byte :: bytes => if byte = expected then dropKeyword? keyword bytes else none
  | _ :: _, [] => none

/-- A keyword that stands for a value. -/
def parseKeyword (keyword : Bytes) (value : Parsed) (bytes : Bytes) : Parsed × Option Bytes :=
  match dropKeyword? keyword bytes with
  | some rest => (value, some rest)
  | none => (.broken, none)

mutual

/-- The value at the front, and what follows it unless the text broke. -/
def parseValue : Nat -> Bytes -> Parsed × Option Bytes
  | 0, _ => (.broken, none)
  | fuel + 1, bytes =>
    match skipBlanks bytes with
    | [] => (.broken, none)
    | 0x6e :: rest => parseKeyword [0x75, 0x6c, 0x6c] .null rest
    | 0x74 :: rest => parseKeyword [0x72, 0x75, 0x65] (.boolean true) rest
    | 0x66 :: rest => parseKeyword [0x61, 0x6c, 0x73, 0x65] (.boolean false) rest
    | 0x22 :: rest =>
      match scanLiteral rest with
      | some (raw, after) => (.string raw, some after)
      | none => (.broken, none)
    | 0x5b :: rest =>
      match skipBlanks rest with
      | 0x5d :: after => (.array .closed, some after)
      | _ => let (items, after) := parseItems fuel rest; (.array items, after)
    | 0x7b :: rest =>
      match skipBlanks rest with
      | 0x7d :: after => (.object .closed, some after)
      | _ => let (members, after) := parseMembers fuel rest; (.object members, after)
    | bytes =>
      match Number.scan bytes with
      | some (literal, after) => (.number literal, some after)
      | none => (.broken, none)

/-- One or more items and the closing bracket. -/
def parseItems : Nat -> Bytes -> Items × Option Bytes
  | 0, _ => (.broken, none)
  | fuel + 1, bytes =>
    match parseValue fuel bytes with
    | (head, none) => (.next head .broken, none)
    | (head, some after) =>
      match skipBlanks after with
      | 0x5d :: rest => (.next head .closed, some rest)
      | 0x2c :: rest => let (tail, after) := parseItems fuel rest; (.next head tail, after)
      | _ => (.next head .broken, none)

/-- One or more members and the closing brace. -/
def parseMembers : Nat -> Bytes -> Members × Option Bytes
  | 0, _ => (.broken, none)
  | fuel + 1, bytes =>
    match skipBlanks bytes with
    | 0x22 :: rest =>
      match scanLiteral rest with
      | none => (.broken, none)
      | some (key, after) =>
        match skipBlanks after with
        | 0x3a :: rest =>
          match parseValue fuel rest with
          | (value, none) => (.next key value .broken, none)
          | (value, some after) =>
            match skipBlanks after with
            | 0x7d :: rest => (.next key value .closed, some rest)
            | 0x2c :: rest => let (tail, after) := parseMembers fuel rest; (.next key value tail, after)
            | _ => (.next key value .broken, none)
        | _ => (.next key .broken .broken, none)
    | _ => (.broken, none)

end

/-- A whole text: its value, and whether nothing but white space follows. -/
structure Document where
  root : Parsed
  ends : Bool

/-- Reads a whole text.  Each step of the reader takes at least half a byte. -/
def parse (bytes : Bytes) : Document :=
  match parseValue (2 * bytes.length + 2) bytes with
  | (root, some rest) => ⟨root, (skipBlanks rest).isEmpty⟩
  | (root, none) => ⟨root, false⟩

end SingleSignOn.Json
