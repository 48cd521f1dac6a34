import SingleSignOn.Log.Event
import SingleSignOn.Text.Quoted
import SingleSignOn.Time.Calendar

namespace SingleSignOn.Log

/-!
# Log lines

An event is written as a line of text, with colours if it goes to people, or
as a JSON record.
-/

/-- A way to make text stand out on a terminal. -/
inductive Style where
  | bold
  | dim
  | italic
  | red
  | green
  | yellow
  | blue
  | purple
  deriving DecidableEq, Repr

/-- The number of a style in terminal sequences. -/
def Style.code : Style -> String
  | bold => "1"
  | dim => "2"
  | italic => "3"
  | red => "31"
  | green => "32"
  | yellow => "33"
  | blue => "34"
  | purple => "35"

/-- A text in a style, if styles are wanted. -/
def styled (colour : Bool) (style : Style) (text : String) : String :=
  if colour then "\x1b[" ++ style.code ++ "m" ++ text ++ "\x1b[0m" else text

/-- The colour of a level. -/
def Level.style : Level -> Style
  | .error => .red
  | .warn => .yellow
  | .info => .green
  | .debug => .blue
  | .trace => .purple

/-- The name of a level, five characters wide. -/
def Level.column (level : Level) : String :=
  String.ofList (List.replicate (5 - level.name.length) ' ') ++ level.name

/-- A character of a message.  Those that could steer a terminal are written
as their code. -/
def harmless (char : Char) : List Char :=
  match char with
  | '\x1b' => "\\x1b".toList
  | '\x07' => "\\x07".toList
  | '\x08' => "\\x08".toList
  | '\x0c' => "\\x0c".toList
  | '\x7f' => "\\x7f".toList
  | other =>
    if 0x80 ≤ other.toNat ∧ other.toNat ≤ 0x9f then
      ['\\', 'u', '\x7b'] ++ Text.hexadecimal other.toNat ++ ['\x7d']
    else [other]

/-- A message that cannot steer a terminal. -/
def harmlessText (message : String) : String :=
  String.ofList (message.toList.flatMap harmless)

/-- A field with its name. -/
def fieldText (colour : Bool) : String × FieldValue -> String
  | (name, value) =>
    let written := match value with
      | .integer number => toString number
      | .text text => Text.quoted text
      | .bare text => harmlessText text
    styled colour .italic name ++ styled colour .dim "=" ++ written

/-- Fields with blanks between them. -/
def fieldsText (colour : Bool) (fields : Fields) : String :=
  " ".intercalate (fields.map (fieldText colour))

/-- The spans around an event, each followed by a colon. -/
def spansText (colour : Bool) (spans : List Span) : String :=
  if spans.isEmpty then ""
  else String.join (spans.map fun span =>
    styled colour .bold span.name ++
      (if span.fields.isEmpty then ""
        else styled colour .bold "\x7b" ++ fieldsText colour span.fields ++ styled colour .bold "\x7d") ++
      styled colour .dim ":") ++ " "

/-- An event as a line of text. -/
def Event.line (colour : Bool) (now : Instant) (event : Event) : String :=
  styled colour .dim (Calendar.timestamp now) ++ " " ++
    styled colour event.level.style event.level.column ++ " " ++
    spansText colour event.spans ++
    styled colour .dim event.target ++ styled colour .dim ":" ++ " " ++
    " ".intercalate (harmlessText event.message :: event.fields.map (fieldText colour))

/-- A span as a JSON record. -/
def Span.json (span : Span) : Json.Value :=
  .record (span.fields.map (fun (name, value) => (name, value.json)) ++ [("name", .text span.name)])

/-- An event as a JSON record. -/
def Event.json (now : Instant) (event : Event) : Json.Value :=
  .record ([("timestamp", .text (Calendar.timestamp now)), ("level", .text event.level.name),
    ("fields", .record (("message", .text event.message) ::
      event.fields.map fun (name, value) => (name, value.json))),
    ("target", .text event.target)] ++
    (match event.spans.getLast? with
      | some innermost => [("span", innermost.json), ("spans", .list (event.spans.map Span.json))]
      | none => []))

end SingleSignOn.Log
