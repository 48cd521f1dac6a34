import SingleSignOn.Json.Shape
import SingleSignOn.Json.Value

namespace SingleSignOn.AccessToken

/-!
# Token headers

A header is a JSON object that names the signing algorithm.  The other
members that the standard defines must have their types, and members that it
does not define must hold text, but nothing is done with any of them.
-/

open Json

/-- The algorithms that a header may name. -/
def algorithmNames : List String :=
  ["HS256", "HS384", "HS512", "ES256", "ES384", "RS256", "RS384", "RS512", "PS256", "PS384", "PS512", "EdDSA"]

/-- The only algorithm in which tokens are signed. -/
def signingAlgorithm : String := "HS256"

/-- A choice among names, written as the name or as an object with the name
as its only member and null as its value. -/
def asName (allowed : String -> Bool) : Parsed -> Except Fault String
  | .object (.next key .null .closed) =>
    match decode? key with
    | some name => if allowed name then .ok name else .error .mismatched
    | none => .error .malformed
  | value => do
    let name ← value.asText
    if allowed name then return name else throw .mismatched

/-- The same choice where the object has been kept before it is read: its
value may then be an empty object as well. -/
def asKeptName (allowed : String -> Bool) : Parsed -> Except Fault String
  | .object (.next key (.object .closed) .closed) => asName allowed (.object (.next key .null .closed))
  | value => asName allowed value

/-- Whether every item of an array is a text. -/
def allTexts : Items -> Bool
  | .broken => false
  | .closed => true
  | .next head tail => head.asText.toBool && allTexts tail

/-- A list of texts. -/
def asTexts : Parsed -> Except Fault Unit
  | .array items => if allTexts items then .ok () else .error .mismatched
  | value => .error value.misfit

/-- A text and nothing else. -/
def onlyText (value : Parsed) : Except Fault Unit :=
  value.asText.map fun _ => ()

/-- How far a reader that wants to keep a value gets with it. -/
inductive Reading where
  /-- It is kept. -/
  | kept
  /-- It is refused, and the reader stands behind it. -/
  | refused
  /-- It is refused, and the reader stands somewhere inside. -/
  | stuck
  deriving DecidableEq, Repr

/-- Reading on behind a part of a container.  A refused part leaves the
reader behind the container only if it is the last one. -/
def Reading.andThen (part : Reading) (isLast : Bool) (rest : Reading) : Reading :=
  match part with
  | kept => rest
  | refused => if isLast then refused else stuck
  | stuck => stuck

/-- Whether a list of items has ended. -/
def itemsEnd : Items -> Bool
  | .closed => true
  | _ => false

/-- Whether a list of members has ended. -/
def membersEnd : Members -> Bool
  | .closed => true
  | _ => false

mutual

/-- Keeping a value needs proper text, finite numbers, and no more nesting
than `depth` allows. -/
def keepValue (depth : Nat) : Parsed -> Reading
  | .broken => .stuck
  | .null => .kept
  | .boolean _ => .kept
  | .number literal => if literal.isFinite then .kept else if literal.isGivenUp then .stuck else .refused
  | .string raw =>
    match unescape? raw with
    | none => if endsInHalfPair raw then .refused else .stuck
    | some bytes => if (Bytes.toString? bytes).isSome then .kept else .refused
  | .array items => if depth ≤ 1 then .stuck else keepItems (depth - 1) items
  | .object members => if depth ≤ 1 then .stuck else keepMembers (depth - 1) members

/-- Keeping the items of an array. -/
def keepItems (depth : Nat) : Items -> Reading
  | .broken => .stuck
  | .closed => .kept
  | .next head tail => (keepValue depth head).andThen (itemsEnd tail) (keepItems depth tail)

/-- Keeping the members of an object; their keys have to be proper text. -/
def keepMembers (depth : Nat) : Members -> Reading
  | .broken => .stuck
  | .closed => .kept
  | .next key value tail =>
    if (decode? key).isNone then .stuck
    else (keepValue depth value).andThen (membersEnd tail) (keepMembers depth tail)

end

/-- Levels of nesting that are left inside the outermost object of a token part. -/
def nestingLeft : Nat := 127

/-- The members that every kind of embedded key may have. -/
def embeddedKeyCommon : Shape where
  fields := [.nullable "use" Parsed.asText, .nullable "key_ops" asTexts, .nullable "alg" (asKeptName fun _ => true),
    .nullable "kid" Parsed.asText, .nullable "x5u" Parsed.asText, .nullable "x5c" asTexts,
    .nullable "x5t" Parsed.asText, .nullable "x5t#S256" Parsed.asText]
  others _ := .ok ()

/-- The kinds of embedded keys, told apart by their type and parameters. -/
def embeddedKeyKinds : List Shape :=
  let kind := fun name => Field.required "kty" (asName (· == name))
  let curve := Field.required "crv" (asName ["P-256", "P-384", "P-521", "Ed25519"].contains)
  let text := fun name => Field.required name Parsed.asText
  [⟨[kind "EC", curve, text "x", text "y"], fun _ => .ok ()⟩,
   ⟨[kind "RSA", text "n", text "e"], fun _ => .ok ()⟩,
   ⟨[kind "oct", text "k"], fun _ => .ok ()⟩,
   ⟨[kind "OKP", curve, text "x"], fun _ => .ok ()⟩]

/-- A key embedded in a header. -/
def embeddedKey (value : Parsed) : Except Fault Unit :=
  match value with
  | .object members =>
    if keepMembers (nestingLeft - 1) members = .kept ∧ (embeddedKeyCommon.check value).toBool ∧
        embeddedKeyKinds.any (fun kind => (kind.check value).toBool) then .ok ()
    else .error .mismatched
  | other => .error other.misfit

/-- The members of a header. -/
def headerShape : Shape where
  fields := [.nullable "typ" Parsed.asText, .required "alg" (asName algorithmNames.contains),
    .nullable "cty" Parsed.asText, .nullable "jku" Parsed.asText, .nullable "jwk" embeddedKey,
    .nullable "kid" Parsed.asText, .nullable "x5u" Parsed.asText, .nullable "x5c" asTexts,
    .nullable "x5t" Parsed.asText, .nullable "x5t#S256" Parsed.asText, .nullable "crit" asTexts,
    .nullable "enc" Parsed.asText, .nullable "zip" Parsed.asText, .nullable "url" Parsed.asText,
    .nullable "nonce" Parsed.asText]
  others := onlyText

/-- The algorithm that a header names, if it is a header. -/
def algorithmOf? (header : Bytes) : Option String :=
  let document := parse header
  match document.root with
  | .object _ =>
    (document.read fun value => do
      headerShape.check value
      headerShape.read value "alg" (asName algorithmNames.contains)).toOption
  | _ => none

/-- The header of the tokens that are issued. -/
def headerBytes : Bytes :=
  Value.render (.record [("typ", .text "JWT"), ("alg", .text signingAlgorithm)])

end SingleSignOn.AccessToken
