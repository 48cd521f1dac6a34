import SingleSignOn.Bytes
import SingleSignOn.Text.Alphanumeric
import SingleSignOn.Text.Pattern

namespace SingleSignOn.Text.Pattern

/-!
# How patterns are written

The usual notation of regular expressions: choices between bars, groups in
parentheses, sets in brackets, anchors, repetition marks and flags.  There
are no look-ahead, no references to groups, and no counted repetition.

A pattern that would need to know the letters of every script is refused: one
that looks for the boundaries of words, for the set of all digits, blanks or
word characters, or for the properties of characters, and one that disregards
case.  A flag confines what it stands for to ASCII, and then these are
possible.  A pattern that may match a part of a character is refused as well,
and so is one that is nested too deeply.
-/

/-- Something that was read, with how deeply constructs are nested in it. -/
structure Nested (α : Type) where
  value : α
  depth : Nat

namespace Nested

/-- What has nothing nested in it. -/
def flat {α : Type} (value : α) : Nested α := ⟨value, 0⟩

/-- A construct around what was read. -/
def within {α : Type} (inner : Nested α) (wrap : α -> α) : Nested α :=
  ⟨wrap inner.value, inner.depth + 1⟩

/-- Several things as one.  Two or more of them make a construct of their own. -/
def joined {α : Type} (none : α) (join : α -> α -> α) : List (Nested α) -> Nested α
  | [] => flat none
  | [single] => single
  | first :: others =>
    ⟨others.foldl (fun value other => join value other.value) first.value,
      others.foldl (fun depth other => max depth other.depth) first.depth + 1⟩

end Nested

/-- How deeply a pattern may be nested. -/
def greatestDepth : Nat := 250

/-- How the notation is understood from some place on. -/
structure Flags where
  ignoreCase : Bool
  multiLine : Bool
  dotAll : Bool
  swapGreed : Bool
  unicode : Bool
  returns : Bool
  /-- Blanks stand for nothing, and comments are possible. -/
  spaced : Bool

namespace Flags

/-- The flags at the start of a pattern. -/
def initial : Flags := ⟨false, false, false, false, true, false, false⟩

/-- Sets the flag of a letter. -/
def set? (flags : Flags) (value : Bool) : Char -> Option Flags
  | 'i' => some { flags with ignoreCase := value }
  | 'm' => some { flags with multiLine := value }
  | 's' => some { flags with dotAll := value }
  | 'U' => some { flags with swapGreed := value }
  | 'u' => some { flags with unicode := value }
  | 'R' => some { flags with returns := value }
  | 'x' => some { flags with spaced := value }
  | _ => none

/-- Reads flags up to a colon or a parenthesis, and tells which of the two it
was.  A flag stands only once, a hyphen too, and not at the end. -/
def read? (flags : Flags) (value : Bool) (seen : List Char) : List Char -> Option (Flags × Bool × List Char)
  | ':' :: rest => if seen.head? = some '-' then none else some (flags, true, rest)
  | ')' :: rest => if seen.isEmpty ∨ seen.head? = some '-' then none else some (flags, false, rest)
  | letter :: rest =>
    if seen.contains letter then none
    else if letter = '-' then read? flags false ('-' :: seen) rest
    else (flags.set? value letter).bind fun changed => read? changed value (letter :: seen) rest
  | [] => none

end Flags

/-- Drops the rest of a comment. -/
def dropComment (chars : List Char) : List Char :=
  chars.dropWhile (· != '\n')

/-- Drops blanks and comments. -/
def dropSpace : Nat -> List Char -> List Char
  | 0, chars => chars
  | fuel + 1, chars =>
    match chars with
    | '#' :: rest => dropSpace fuel (dropComment rest)
    | char :: rest => if isBlankChar char then dropSpace fuel rest else chars
    | [] => []

/-- Drops what stands for nothing under the flags. -/
def skip (flags : Flags) (chars : List Char) : List Char :=
  if flags.spaced then dropSpace (chars.length + 1) chars else chars

/-- What an escape stands for. -/
inductive Escape where
  | literal (char : Char)
  | set (set : CharSet)
  | anchor (condition : Anchor)

/-- Whether an escape stands for a character that is not in ASCII. -/
def isBeyondAscii : Escape -> Bool
  | .literal char => 0x80 ≤ char.toNat
  | _ => false

/-- A code of so many hexadecimal digits. -/
def hexCode? (digits : Nat) (chars : List Char) : Option (Char × List Char) := do
  if chars.length < digits then none
  let values ← (chars.take digits).mapM fun char => Bytes.hexValue? (char.toNat % 256).toUInt8
  let code := values.foldl (fun code value => code * 16 + value) 0
  if (chars.take digits).all (·.toNat < 0x80) ∧ (code < 0xd800 ∨ 0xdfff < code) ∧ code < 0x110000 then
    some (Char.ofNat code, chars.drop digits)
  else none

/-- Reads what follows a backslash. -/
def escape? (flags : Flags) : List Char -> Option (Escape × List Char)
  | [] => none
  | char :: rest =>
    let known (escape : Option Escape) : Option (Escape × List Char) := escape.map (·, rest)
    let code (digits : Nat) : Option (Escape × List Char) :=
      (hexCode? digits rest).map fun (found, rest) => (.literal found, rest)
    let confined (escape : Escape) := known (if flags.unicode then none else some escape)
    match char with
    | 'a' => known (some (.literal '\x07'))
    | 'f' => known (some (.literal '\x0c'))
    | 't' => known (some (.literal '\t'))
    | 'n' => known (some (.literal '\n'))
    | 'r' => known (some (.literal '\r'))
    | 'v' => known (some (.literal '\x0b'))
    | 'A' => known (some (.anchor .textStart))
    | 'z' => known (some (.anchor .textEnd))
    | 'b' => confined (.anchor (.wordBoundary true))
    | 'B' => confined (.anchor (.wordBoundary false))
    | '<' => confined (.anchor .wordStart)
    | '>' => confined (.anchor .wordEnd)
    | 'd' => confined (.set (.named .digit))
    | 's' => confined (.set (.named .blank))
    | 'w' => confined (.set (.named .word))
    | 'x' => (code 2).filter fun found => flags.unicode || !isBeyondAscii found.1
    | 'u' => code 4
    | 'U' => code 8
    | other =>
      if 0x80 ≤ other.toNat ∨ other.isAlphanum then none
      else known (some (.literal other))

/-- The sets that have a name between colons. -/
def namedSets : List (String × NamedSet) :=
  [("alnum", .alphanumeric), ("alpha", .letter), ("ascii", .ascii), ("blank", .gap), ("cntrl", .control),
    ("digit", .digit), ("graph", .visible), ("lower", .lower), ("punct", .punctuation), ("space", .blank),
    ("upper", .upper), ("word", .word), ("xdigit", .hexDigit)]

/-- Reads a name between colons and the bracket after it, and tells whether
the complement is meant. -/
def namedSet? (chars : List Char) : Option (Bool × CharSet × List Char) :=
  match chars with
  | ':' :: rest =>
    let (negated, rest) := match rest with
      | '^' :: rest => (true, rest)
      | _ => (false, rest)
    let (name, after) := rest.span (· != ':')
    match after with
    | ':' :: ']' :: after =>
      let found := if name = "print".toList then some (CharSet.union (.named .visible) (.single ' '))
        else (namedSets.lookup (String.ofList name)).map CharSet.named
      found.map fun set => (negated, set, after)
    | _ => none
  | _ => none

/-- An operation on sets. -/
inductive SetOperation where
  | intersection
  | difference
  | symmetricDifference

/-- Carries an operation out. -/
def SetOperation.apply : SetOperation -> CharSet -> CharSet -> CharSet
  | intersection, left, right => .intersection left right
  | difference, left, right => .difference left right
  | symmetricDifference, left, right => .symmetricDifference left right

/-- What was read of a set: the operation that waits for its right side, and
the members since. -/
structure OpenSet where
  pending : Option (Nested CharSet × SetOperation)
  members : List (Nested CharSet)

namespace OpenSet

/-- The start of a set. -/
def start : OpenSet := ⟨none, []⟩

/-- One more member. -/
def add (opened : OpenSet) (member : Nested CharSet) : OpenSet :=
  { opened with members := opened.members ++ [member] }

/-- The set so far. -/
def value (flags : Flags) (opened : OpenSet) : Nested CharSet :=
  let members := Nested.joined .empty .union opened.members
  match opened.pending with
  | none => members
  | some (left, operation) =>
    .joined .empty (fun left right =>
      operation.apply (.caseBy flags.ignoreCase left) (.caseBy flags.ignoreCase right)) [left, members]

/-- The set so far becomes the left side of an operation. -/
def operate (flags : Flags) (opened : OpenSet) (operation : SetOperation) : OpenSet :=
  ⟨some (opened.value flags, operation), []⟩

/-- The finished set. -/
def close (flags : Flags) (negated : Bool) (opened : OpenSet) : Nested CharSet :=
  (opened.value flags).within fun set => .negatedBy negated (.caseBy flags.ignoreCase set)

end OpenSet

/-- Reads a character or an escape inside of brackets. -/
def setItem? (flags : Flags) : List Char -> Option (Escape × List Char)
  | '\\' :: rest =>
    match escape? flags rest with
    | some (.anchor _, _) => none
    | found => found.filter fun (escape, _) => flags.unicode || !isBeyondAscii escape
  | char :: rest => if !flags.unicode && 0x80 ≤ char.toNat then none else some (.literal char, rest)
  | [] => none

/-- Reads an item of a set: a range, or what is no part of one. -/
def setRange? (flags : Flags) (chars : List Char) : Option (CharSet × List Char) := do
  let (first, rest) ← setItem? flags chars
  let alone : CharSet := match first with
    | .literal char => .single char
    | .set set => set
    | .anchor _ => .empty
  match skip flags rest with
  | '-' :: after =>
    match skip flags after with
    | [] => none
    | ']' :: _ => some (alone, rest)
    | '-' :: _ => some (alone, rest)
    | second =>
      match first, ← setItem? flags second with
      | .literal low, (.literal high, rest) => if low ≤ high then some (.range low high, rest) else none
      | _, _ => none
  | _ => some (alone, rest)

/-- Takes hyphens in front for members. -/
def leadingHyphens (flags : Flags) (opened : OpenSet) : List Char -> OpenSet × List Char
  | '-' :: rest => leadingHyphens flags (opened.add (.flat (.single '-'))) rest
  | rest => (opened, rest)

/-- The start of a set after its bracket: whether it is a complement, and the
members that stand there without being read as marks. -/
def openSet (flags : Flags) (chars : List Char) : Bool × OpenSet × List Char :=
  let (negated, rest) := match skip flags chars with
    | '^' :: rest => (true, skip flags rest)
    | rest => (false, rest)
  let (opened, rest) := leadingHyphens flags .start rest
  match opened.members, rest with
  | [], ']' :: rest => (negated, opened.add (.flat (.single ']')), rest)
  | _, _ => (negated, opened, rest)

/-- Reads a set up to its closing bracket. -/
def readSet? (flags : Flags) : Nat -> Bool -> OpenSet -> List Char -> Option (Nested CharSet × List Char)
  | 0, _, _, _ => none
  | fuel + 1, negated, opened, chars =>
    match skip flags chars with
    | [] => none
    | ']' :: rest => if negated && !flags.unicode then none else some (opened.close flags negated, rest)
    | '&' :: '&' :: rest => readSet? flags fuel negated (opened.operate flags .intersection) rest
    | '-' :: '-' :: rest => readSet? flags fuel negated (opened.operate flags .difference) rest
    | '~' :: '~' :: rest => readSet? flags fuel negated (opened.operate flags .symmetricDifference) rest
    | '[' :: rest =>
      match namedSet? rest with
      | some (inverted, set, rest) =>
        if inverted && !flags.unicode then none
        else readSet? flags fuel negated (opened.add (.flat (.negatedBy inverted set))) rest
      | none =>
        let (innerNegated, inner, rest) := openSet flags rest
        match readSet? flags fuel innerNegated inner rest with
        | some (set, rest) => readSet? flags fuel negated (opened.add set) rest
        | none => none
    | item =>
      match setRange? flags item with
      | some (set, rest) => readSet? flags fuel negated (opened.add (.flat set)) rest
      | none => none

/-- What was read of a group: the choices before the last bar, what stands
after it, and the part at the end that a repetition mark would repeat. -/
structure OpenGroup where
  choices : List (Nested Pattern)
  front : List (Nested Pattern)
  last : Option (Nested Pattern)

namespace OpenGroup

/-- The start of a group. -/
def start : OpenGroup := ⟨[], [], none⟩

/-- The parts after the last bar. -/
def parts (group : OpenGroup) : List (Nested Pattern) :=
  group.front ++ group.last.toList

/-- What stands after the last bar. -/
def sequence (group : OpenGroup) : Nested Pattern :=
  .joined .nothing .sequence group.parts

/-- The group so far. -/
def value (group : OpenGroup) : Nested Pattern :=
  .joined .nothing .choice (group.choices ++ [group.sequence])

/-- One more part. -/
def add (group : OpenGroup) (part : Nested Pattern) : OpenGroup :=
  ⟨group.choices, group.parts, some part⟩

/-- Flags are a part too, but one that cannot be repeated. -/
def addFlags (group : OpenGroup) : OpenGroup :=
  ⟨group.choices, group.parts ++ [.flat .nothing], none⟩

/-- A bar. -/
def bar (group : OpenGroup) : OpenGroup :=
  ⟨group.choices ++ [group.sequence], [], none⟩

end OpenGroup

/-- The name of a group and what follows its bracket. -/
def groupName? (chars : List Char) : Option (List Char × List Char) :=
  let (name, rest) := chars.span (· != '>')
  match name, rest with
  | first :: others, _ :: rest =>
    let isFirst := first = '_' ∨ isAlphanumeric first ∧ !first.isDigit
    let isOther (char : Char) : Bool := ['_', '.', '[', ']'].contains char || isAlphanumeric char
    if isFirst ∧ others.all isOther then some (name, rest) else none
  | _, _ => none

/-- What a parenthesis opens: a group, which may have a name, or flags that
hold up to the end of the group around them. -/
inductive Opening where
  | group (flags : Flags) (name : Option (List Char))
  | setting (flags : Flags)

/-- Reads what follows a parenthesis. -/
def opening? (flags : Flags) (chars : List Char) : Option (Opening × List Char) :=
  let named (rest : List Char) : Option (Opening × List Char) :=
    (groupName? rest).map fun (name, rest) => (.group flags (some name), rest)
  match chars with
  | '?' :: 'P' :: '<' :: rest => named rest
  | '?' :: '<' :: rest => named rest
  | '?' :: rest => (flags.read? true [] rest).map fun (changed, isGroup, rest) =>
    (if isGroup then .group changed none else .setting changed, rest)
  | _ => some (.group flags none, chars)

/-- The part that a character without a meaning of its own stands for. -/
def literal? (flags : Flags) (char : Char) : Option Pattern :=
  if flags.ignoreCase && flags.unicode then none
  else some (.oneOf (.caseBy flags.ignoreCase (.single char)))

/-- The part that a mark or an ordinary character stands for. -/
def single? (flags : Flags) (char : Char) : Option Pattern :=
  match char with
  | '.' =>
    let stops : CharSet := if flags.returns then .union (.single '\r') (.single '\n') else .single '\n'
    if !flags.unicode then none
    else some (.oneOf (if flags.dotAll then .named .any else .complement stops))
  | '^' => some (.anchor (if flags.multiLine then .lineStart flags.returns else .textStart))
  | '$' => some (.anchor (if flags.multiLine then .lineEnd flags.returns else .textEnd))
  | '\x7b' => none
  | other => literal? flags other

/-- The part that an escape stands for. -/
def Escape.part? (flags : Flags) : Escape -> Option Pattern
  | .literal char => literal? flags char
  | .set members => some (.oneOf members)
  | .anchor condition => some (.anchor condition)

/-- Reads a group up to its closing parenthesis, or a whole pattern up to its
end.  The names of groups that were read are handed on. -/
def readGroup? : Nat -> Bool -> Flags -> OpenGroup -> List (List Char) -> List Char ->
    Option (Nested Pattern × List (List Char) × List Char)
  | 0, _, _, _, _, _ => none
  | fuel + 1, inner, flags, group, names, chars =>
    let repeated (kind : Pattern -> Bool -> Pattern) (rest : List Char) :
        Option (Nested Pattern × List (List Char) × List Char) :=
      match group.last with
      | none => none
      | some last =>
        let (lazy, rest) := match rest with
          | '?' :: rest => (true, rest)
          | _ => (false, rest)
        let part := last.within fun pattern => kind pattern (lazy != flags.swapGreed)
        readGroup? fuel inner flags { group with last := some part } names rest
    match skip flags chars with
    | [] => if inner then none else some (group.value, names, [])
    | ')' :: rest => if inner then some (group.value, names, rest) else none
    | '|' :: rest => readGroup? fuel inner flags group.bar names rest
    | '*' :: rest => repeated .star rest
    | '+' :: rest => repeated .plus rest
    | '?' :: rest => repeated .optional rest
    | '(' :: rest =>
      match opening? flags (skip flags rest) with
      | none => none
      | some (.setting changed, rest) => readGroup? fuel inner changed group.addFlags names rest
      | some (.group within name, rest) =>
        if name.any names.contains then none
        else
          match readGroup? fuel true within .start (name.toList ++ names) rest with
          | none => none
          | some (part, names, rest) => readGroup? fuel inner flags (group.add (part.within id)) names rest
    | '[' :: rest =>
      let (negated, opened, rest) := openSet flags rest
      if flags.ignoreCase && flags.unicode then none
      else
        match readSet? flags (rest.length + 1) negated opened rest with
        | none => none
        | some (set, rest) => readGroup? fuel inner flags (group.add ⟨.oneOf set.value, set.depth⟩) names rest
    | '\\' :: rest =>
      match escape? flags rest with
      | none => none
      | some (escape, rest) =>
        match escape.part? flags with
        | none => none
        | some part => readGroup? fuel inner flags (group.add (.flat part)) names rest
    | char :: rest =>
      match single? flags char with
      | none => none
      | some part => readGroup? fuel inner flags (group.add (.flat part)) names rest

/-- Reads a pattern. -/
def parse? (text : String) : Option Pattern := do
  let chars := text.toList
  let (part, _) ← readGroup? (chars.length + 1) false .initial .start [] chars
  if greatestDepth < part.depth then none
  return part.value

end SingleSignOn.Text.Pattern
