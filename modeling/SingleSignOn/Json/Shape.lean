import SingleSignOn.Json.Parsed

namespace SingleSignOn.Json

/-!
# Records with a known shape

A record lists the fields that it reads.  It may be written as an object
with any further members, or as an array of exactly its fields in order.

`Shape.check` walks the input once, from left to right, and reports the
first fault: text that is no JSON, or JSON of another shape.  Which of the
two comes first matters, because they are answered differently.  Once the
check has passed, `Shape.field?` finds the value of each field, and typed
readers turn it into data.  Members that are not part of the shape are
usually skipped, whatever well-formed value they hold; a shape may ask more
of them.
-/

/-- Why an input is no record of a shape. -/
inductive Fault where
  /-- The text is not JSON. -/
  | malformed
  /-- The text is JSON, as far as it was read, but of another shape. -/
  | mismatched
  deriving DecidableEq, Repr

mutual

/-- Whether a value is complete: no part of it is broken. -/
def Parsed.isIntact : Parsed -> Bool
  | .broken => false
  | .array items => items.isIntact
  | .object members => members.isIntact
  | _ => true

/-- Whether a list of items is complete. -/
def Items.isIntact : Items -> Bool
  | .broken => false
  | .closed => true
  | .next head tail => head.isIntact && tail.isIntact

/-- Whether a list of members is complete. -/
def Members.isIntact : Members -> Bool
  | .broken => false
  | .closed => true
  | .next _ value tail => value.isIntact && tail.isIntact

end

namespace Parsed

/-- The fault of a value of the wrong type.  Scalars are read to their end
before their type is judged, containers only to their bracket. -/
def misfit : Parsed -> Fault
  | .broken => .malformed
  | .number literal => if literal.isFinite then .mismatched else .malformed
  | .string raw => if (decode? raw).isSome then .mismatched else .malformed
  | _ => .mismatched

/-- A text. -/
def asText : Parsed -> Except Fault String
  | .string raw =>
    match decode? raw with
    | some text => .ok text
    | none => .error .malformed
  | other => .error other.misfit

/-- A signed 64-bit integer. -/
def asInt64 : Parsed -> Except Fault Int
  | .number literal =>
    match literal.int64? with
    | some value => .ok value
    | none => .error (Parsed.number literal).misfit
  | other => .error other.misfit

/-- A truth value. -/
def asBoolean : Parsed -> Except Fault Bool
  | .boolean value => .ok value
  | other => .error other.misfit

/-- A value that null stands in for when there is none. -/
def asOptional {α : Type} (read : Parsed -> Except Fault α) : Parsed -> Except Fault (Option α)
  | .null => .ok none
  | other => (read other).map some

end Parsed

/-- A field of a record: its name, what it accepts, and in which of the two
written forms it may be left out. -/
structure Field where
  name : String
  accepts : Parsed -> Except Fault Unit
  /-- An object without this member is accepted. -/
  optionalInObject : Bool
  /-- An array that ends before this item is accepted. -/
  optionalInArray : Bool

namespace Field

/-- A field that must be there. -/
def required {α : Type} (name : String) (read : Parsed -> Except Fault α) : Field where
  name := name
  accepts value := (read value).map fun _ => ()
  optionalInObject := false
  optionalInArray := false

/-- A field that may be null, and that an object may leave out. -/
def nullable {α : Type} (name : String) (read : Parsed -> Except Fault α) : Field where
  name := name
  accepts value := (value.asOptional read).map fun _ => ()
  optionalInObject := true
  optionalInArray := false

/-- A field with a default, which both forms may leave out. -/
def defaulted {α : Type} (name : String) (read : Parsed -> Except Fault α) : Field where
  name := name
  accepts value := (read value).map fun _ => ()
  optionalInObject := true
  optionalInArray := true

end Field

/-- Accepts every complete value. -/
def skipped (value : Parsed) : Except Fault Unit :=
  if value.isIntact then .ok () else .error .malformed

/-- The fields of a record, in the order of the array form, and what is asked
of the other members of an object. -/
structure Shape where
  fields : List Field
  others : Parsed -> Except Fault Unit := skipped

namespace Members

/-- The value of the first member with this name. -/
def find? (name : String) : Members -> Option Parsed
  | .next key value tail => if decode? key = some name then some value else tail.find? name
  | _ => none

end Members

namespace Items

/-- The item at a position. -/
def get? : Nat -> Items -> Option Parsed
  | 0, .next head _ => some head
  | position + 1, .next _ tail => tail.get? position
  | _, _ => none

end Items

namespace Shape

/-- Walks the members of an object.  `seen` holds the names of the fields
met so far; no field may occur twice, and at the brace none may be missing. -/
def checkMembers (shape : Shape) (seen : List String) : Members -> Except Fault Unit
  | .broken => .error .malformed
  | .closed =>
    if shape.fields.all fun field => field.optionalInObject || seen.contains field.name then .ok ()
    else .error .mismatched
  | .next key value tail =>
    match decode? key with
    | none => .error .malformed
    | some name =>
      match shape.fields.find? fun field => field.name == name with
      | none => do
        shape.others value
        checkMembers shape seen tail
      | some field =>
        if seen.contains name then .error .mismatched
        else do
          field.accepts value
          checkMembers shape (name :: seen) tail

/-- Walks the items of an array beside the fields they are for. -/
def checkItems : List Field -> Items -> Except Fault Unit
  | _, .broken => .error .malformed
  | [], .closed => .ok ()
  | [], .next _ _ => .error .malformed
  | field :: fields, .closed =>
    if field.optionalInArray then checkItems fields .closed else .error .mismatched
  | field :: fields, .next head tail => do
    field.accepts head
    checkItems fields tail

/-- The first fault of a value as a record of this shape, if it has one. -/
def check (shape : Shape) : Parsed -> Except Fault Unit
  | .object members => shape.checkMembers [] members
  | .array items => checkItems shape.fields items
  | other => .error other.misfit

/-- The value of a field in either written form. -/
def field? (shape : Shape) (value : Parsed) (name : String) : Option Parsed :=
  match value with
  | .object members => members.find? name
  | .array items =>
    match shape.fields.findIdx? fun field => field.name == name with
    | some position => items.get? position
    | none => none
  | _ => none

/-- Reads a field that must be there. -/
def read {α : Type} (shape : Shape) (value : Parsed) (name : String)
    (read : Parsed -> Except Fault α) : Except Fault α :=
  match shape.field? value name with
  | some found => read found
  | none => .error .mismatched

/-- Reads a field that may be null or left out. -/
def readOptional {α : Type} (shape : Shape) (value : Parsed) (name : String)
    (read : Parsed -> Except Fault α) : Except Fault (Option α) :=
  match shape.field? value name with
  | some found => found.asOptional read
  | none => .ok none

/-- Reads a field with a default. -/
def readOr {α : Type} (shape : Shape) (value : Parsed) (name : String)
    (read : Parsed -> Except Fault α) (fallback : α) : Except Fault α :=
  match shape.field? value name with
  | some found => read found
  | none => .ok fallback

end Shape

namespace Document

/-- Reads a whole text as a record.  Text after the record is a fault of its
own, reported after those of the record. -/
def read {α : Type} (document : Document) (read : Parsed -> Except Fault α) : Except Fault α := do
  let record ← read document.root
  if document.ends then return record
  else throw .malformed

end Document

end SingleSignOn.Json
