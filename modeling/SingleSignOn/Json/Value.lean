import SingleSignOn.Json.Text
import SingleSignOn.Text.Decimal

namespace SingleSignOn.Json

/-!
# JSON values and their compact text

What this library writes as JSON: integers, texts, lists and records whose
members keep their order.  The text has no white space.
-/

/-- A value to be written. -/
inductive Value where
  | null
  | boolean (value : Bool)
  | integer (value : Int)
  | text (value : String)
  | list (items : List Value)
  | record (members : List (String × Value))
  deriving Inhabited

namespace Value

/-- The digits of an integer, with its sign. -/
def renderInteger (value : Int) : Bytes :=
  let magnitude := (Decimal.digits value.natAbs).map Decimal.toByte
  if value < 0 then 0x2d :: magnitude else magnitude

/-- A text as a literal with its quotes. -/
def renderText (text : String) : Bytes :=
  0x22 :: escape (Bytes.ofString text) ++ [0x22]

mutual

/-- The compact text of a value. -/
def render : Value -> Bytes
  | .null => [0x6e, 0x75, 0x6c, 0x6c]
  | .boolean true => [0x74, 0x72, 0x75, 0x65]
  | .boolean false => [0x66, 0x61, 0x6c, 0x73, 0x65]
  | .integer value => renderInteger value
  | .text value => renderText value
  | .list items => 0x5b :: renderItems items ++ [0x5d]
  | .record members => 0x7b :: renderMembers members ++ [0x7d]

/-- Items with commas between them. -/
def renderItems : List Value -> Bytes
  | [] => []
  | [last] => render last
  | head :: tail => render head ++ 0x2c :: renderItems tail

/-- Members with commas between them. -/
def renderMembers : List (String × Value) -> Bytes
  | [] => []
  | [(key, value)] => renderText key ++ 0x3a :: render value
  | (key, value) :: tail => renderText key ++ 0x3a :: render value ++ 0x2c :: renderMembers tail

end

end Value

end SingleSignOn.Json
