import SingleSignOn.Text.Decimal

namespace SingleSignOn.CommandLine

/-!
# Options on a command line

Every setting has an option, written `--name value` or `--name=value`, and a
variable of the environment that stands in for it.  The command line is read
from left to right, and the first fault is reported.

The value of an option is judged when the next option is met, or the end.  So
a bad value is reported before the faults that stand further right, except
that of an unknown word right after it.  A word that begins with a hyphen is
never taken for the value of the option before it.
-/

/-- What is wrong with a command line, or asked for instead of a run. -/
inductive Fault where
  | unknownArgument
  /-- A value that cannot be read as a number in range. -/
  | valueValidation
  /-- A missing value, or one that is none of the possible values. -/
  | invalidValue
  /-- An option without value that was given one. -/
  | tooManyValues
  /-- An option that occurs twice. -/
  | argumentConflict
  | missingRequiredArgument
  | displayHelp
  | displayVersion
  deriving DecidableEq, Repr

/-- The name of a fault. -/
def Fault.name : Fault -> String
  | unknownArgument => "UnknownArgument"
  | valueValidation => "ValueValidation"
  | invalidValue => "InvalidValue"
  | tooManyValues => "TooManyValues"
  | argumentConflict => "ArgumentConflict"
  | missingRequiredArgument => "MissingRequiredArgument"
  | displayHelp => "DisplayHelp"
  | displayVersion => "DisplayVersion"

/-- What the value of an option may be. -/
inductive Kind where
  | text
  /-- An integer, with an optional sign, between two bounds. -/
  | signed (lower upper : Int)
  /-- A number, with an optional plus sign, between two bounds. -/
  | unsigned (lower upper : Nat)
  /-- One of a few words. -/
  | word (choices : List String)
  deriving DecidableEq, Repr

/-- The value of an option. -/
inductive Value where
  | text (value : String)
  | number (value : Int)
  deriving DecidableEq, Repr

/-- Reads the text of a value. -/
def Kind.read : Kind -> String -> Except Fault Value
  | text, given => .ok (.text given)
  | signed lower upper, given =>
    match Decimal.readBetween? lower upper given.toList with
    | some value => .ok (.number value)
    | none => .error .valueValidation
  | unsigned lower upper, given =>
    match Decimal.readUpTo? upper given.toList with
    | some value => if lower ≤ value then .ok (.number value) else .error .valueValidation
    | none => .error .valueValidation
  | word choices, given => if choices.contains given then .ok (.text given) else .error .invalidValue

/-- An option. -/
structure Setting where
  name : String
  /-- The name of its variable in the environment. -/
  environmentName : String
  kind : Kind
  /-- The value if none is given; without one the option is required. -/
  fallback : Option Value
  /-- May stay without value although it has no fallback. -/
  mayBeAbsent : Bool
  /-- What the value is for. -/
  purpose : String

/-- Values that were given, by option name. -/
abbrev Given := List (String × Value)

/-- How far a command line was read. -/
structure Progress where
  given : Given
  /-- The option that is not settled yet, with its value if that has come. -/
  unsettled : Option (Setting × Option String)

namespace Progress

/-- Gives an option a value.  An option is given one value at most. -/
def assign (progress : Progress) (setting : Setting) (text : String) : Except Fault Progress :=
  if (progress.given.lookup setting.name).isSome then .error .argumentConflict
  else do
    let value ← setting.kind.read text
    return ⟨(setting.name, value) :: progress.given, none⟩

/-- Settles the option that is not settled yet. -/
def settle (progress : Progress) : Except Fault Progress :=
  match progress.unsettled with
  | some (setting, some text) => progress.assign setting text
  | some (_, none) => .error .invalidValue
  | none => .ok progress

end Progress

/-- A word of a command line. -/
inductive Word where
  /-- Two hyphens alone. -/
  | separator
  /-- A long option, with the value attached to it if there is one. -/
  | long (name : String) (attached : Option String)
  /-- One hyphen and letters. -/
  | short (letters : List Char)
  | plain (text : String)
  deriving DecidableEq, Repr

/-- What a word is. -/
def Word.ofString (text : String) : Word :=
  match text.toList with
  | ['-', '-'] => .separator
  | '-' :: '-' :: rest =>
    let (name, attached) := rest.span (· != '=')
    .long (String.ofList name) (match attached with
      | _ :: value => some (String.ofList value)
      | [] => none)
  | '-' :: letter :: letters => .short (letter :: letters)
  | _ => .plain text

/-- Reads a word. -/
def readWord (settings : List Setting) (progress : Progress) : Word -> Except Fault Progress
  | .separator => .ok progress
  | .long name attached =>
    match settings.find? fun setting => setting.name == name with
    | some setting => do
      let settled ← progress.settle
      match attached with
      | some value => settled.assign setting value
      | none => return { settled with unsettled := some (setting, none) }
    | none =>
      if name = "help" ∨ name = "version" then
        if attached.isSome then .error .tooManyValues
        else do
          let _ ← progress.settle
          throw (if name = "help" then .displayHelp else .displayVersion)
      else .error .unknownArgument
  | .short letters =>
    match letters with
    | 'h' :: _ => do
      let _ ← progress.settle
      throw .displayHelp
    | 'V' :: _ => do
      let _ ← progress.settle
      throw .displayVersion
    | _ => .error .unknownArgument
  | .plain text =>
    match progress.unsettled with
    | some (setting, none) => .ok { progress with unsettled := some (setting, some text) }
    | _ => .error .unknownArgument

/-- Reads words.  After a separator there may be no more. -/
def readWords (settings : List Setting) (progress : Progress) : List String -> Except Fault Progress
  | [] => progress.settle
  | word :: words => do
    let read := Word.ofString word
    let after ← readWord settings progress read
    if read = .separator then
      if words.isEmpty then after.settle else throw .unknownArgument
    else readWords settings after words

/-- Takes what was not given on the command line from the environment. -/
def readEnvironment (environment : String -> Option String) (given : Given) :
    List Setting -> Except Fault Given
  | [] => .ok given
  | setting :: settings =>
    match given.lookup setting.name, environment setting.environmentName with
    | none, some text => do
      let value ← setting.kind.read text
      readEnvironment environment ((setting.name, value) :: given) settings
    | _, _ => readEnvironment environment given settings

/-- Reads a command line and an environment.  Nothing that is required may be missing. -/
def read (settings : List Setting) (words : List String) (environment : String -> Option String) :
    Except Fault Given := do
  let progress ← readWords settings ⟨[], none⟩ words
  let given ← readEnvironment environment progress.given settings
  let provided (setting : Setting) : Bool :=
    setting.mayBeAbsent || setting.fallback.isSome || (given.lookup setting.name).isSome
  if settings.all provided then return given else throw .missingRequiredArgument

end SingleSignOn.CommandLine
