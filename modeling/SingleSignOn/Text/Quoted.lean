import SingleSignOn.Text.Hidden

namespace SingleSignOn.Text

/-!
# Quoted text

Text that is shown to people who look for a fault stands between quotes, with
everything in it made visible: a quote, a backslash and the usual controls by
a letter after a backslash, any other character that is not shown by its
code point.
-/

/-- A number in lower-case hexadecimal, without leading zeros. -/
def hexadecimal (number : Nat) : List Char :=
  Nat.toDigits 16 number

/-- A character in a form that can be seen. -/
def visible (char : Char) : List Char :=
  match char with
  | '"' => ['\\', '"']
  | '\\' => ['\\', '\\']
  | '\n' => ['\\', 'n']
  | '\r' => ['\\', 'r']
  | '\t' => ['\\', 't']
  | '\x00' => ['\\', '0']
  | other =>
    if isHidden other then ['\\', 'u', '\x7b'] ++ hexadecimal other.toNat ++ ['\x7d'] else [other]

/-- A text between quotes. -/
def quoted (text : String) : String :=
  String.ofList ('"' :: text.toList.flatMap visible ++ ['"'])

end SingleSignOn.Text
