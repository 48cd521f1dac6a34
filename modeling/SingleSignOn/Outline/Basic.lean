import SingleSignOn.Text.Quoted

namespace SingleSignOn

/-!
# Outlines of records

A record is shown to people as its name and its fields, on one line or spread
over many.  Fields that must not be shown are left out, and two dots say that
there are more.
-/

/-- What is shown of a value. -/
inductive Outline where
  /-- A text that stands for the value as it is. -/
  | atom (text : String)
  /-- A value inside a named wrapper. -/
  | wrapped (name : String) (inner : Outline)
  /-- A record, and whether it has fields that are not shown. -/
  | record (name : String) (fields : List (String × Outline)) (more : Bool)
  deriving Inhabited

namespace Outline

/-- A text between quotes. -/
def text (value : String) : Outline :=
  .atom (Text.quoted value)

/-- An integer in decimal. -/
def integer (value : Int) : Outline :=
  .atom (toString value)

/-- A truth value. -/
def boolean (value : Bool) : Outline :=
  .atom (if value then "true" else "false")

/-- A value that may be absent. -/
def optional : Option Outline -> Outline
  | some inner => .wrapped "Some" inner
  | none => .atom "None"

mutual

/-- An outline on one line. -/
def line : Outline -> String
  | .atom shown => shown
  | .wrapped name inner => name ++ "(" ++ line inner ++ ")"
  | .record name fields more =>
    name ++ " \x7b " ++ ", ".intercalate (lineFields fields ++ (if more then [".."] else [])) ++ " \x7d"

/-- The fields of a record, each with its name. -/
def lineFields : List (String × Outline) -> List String
  | [] => []
  | (name, value) :: rest => (name ++ ": " ++ line value) :: lineFields rest

end

/-- The lines moved to the right by one step. -/
def indented (lines : List String) : List String :=
  lines.map ("    " ++ ·)

/-- The lines with something put before the first. -/
def lead (front : String) : List String -> List String
  | [] => [front]
  | first :: rest => (front ++ first) :: rest

/-- The lines with something put after the last. -/
def trail (back : String) : List String -> List String
  | [] => [back]
  | [last] => [last ++ back]
  | first :: rest => first :: trail back rest

mutual

/-- An outline spread over many lines. -/
def lines : Outline -> List String
  | .atom shown => [shown]
  | .wrapped name inner => (name ++ "(") :: indented (trail "," (lines inner)) ++ [")"]
  | .record name fields more =>
    (name ++ " \x7b") :: indented (linesFields fields ++ (if more then [".."] else [])) ++ ["\x7d"]

/-- The fields of a record, each with its name and a comma. -/
def linesFields : List (String × Outline) -> List String
  | [] => []
  | (name, value) :: rest => lead (name ++ ": ") (trail "," (lines value)) ++ linesFields rest

end

/-- The text of an outline, on one line or spread over many. -/
def render (spread : Bool) (outline : Outline) : String :=
  if spread then "\n".intercalate outline.lines else outline.line

end Outline

end SingleSignOn
