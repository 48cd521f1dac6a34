import SingleSignOn.Text.CharSet

namespace SingleSignOn.Text

/-!
# Patterns

A pattern matches stretches of a text.  Where it can match several stretches
from one position it prefers one: an earlier choice to a later one, and more
repetitions to fewer, or fewer to more if it is lazy.  A text fits a pattern
if the stretch that is preferred from its beginning is all of it; another
stretch that would be all of it does not count.
-/

/-- A condition on a position in a text. -/
inductive Anchor where
  | textStart
  | textEnd
  /-- The start of a line; whether a carriage return ends lines too. -/
  | lineStart (returns : Bool)
  | lineEnd (returns : Bool)
  /-- Between a word character and another one, or not there. -/
  | wordBoundary (expected : Bool)
  | wordStart
  | wordEnd
  deriving DecidableEq, Repr

/-- A pattern. -/
inductive Pattern where
  | nothing
  | oneOf (set : CharSet)
  | anchor (condition : Anchor)
  | sequence (first second : Pattern)
  | choice (first second : Pattern)
  /-- At most one repetition. -/
  | optional (pattern : Pattern) (lazy : Bool)
  /-- Any number of repetitions. -/
  | star (pattern : Pattern) (lazy : Bool)
  /-- At least one repetition. -/
  | plus (pattern : Pattern) (lazy : Bool)
  deriving DecidableEq, Repr

namespace Anchor

/-- Whether a condition holds between two characters of a text, either of
which may be missing at its ends. -/
def holds (before after : Option Char) : Anchor -> Bool
  | textStart => before.isNone
  | textEnd => after.isNone
  | lineStart returns =>
    match before with
    | none => true
    | some '\n' => true
    | some char => returns && char = '\r' && after != some '\n'
  | lineEnd returns =>
    match after with
    | none => true
    | some '\n' => !returns || before != some '\r'
    | some char => returns && char = '\r'
  | wordBoundary expected => (inWord before != inWord after) == expected
  | wordStart => !inWord before && inWord after
  | wordEnd => inWord before && !inWord after
where
  /-- Whether there is a word character. -/
  inWord (char : Option Char) : Bool := char.any NamedSet.word.contains

end Anchor

namespace Pattern

/-- For each position of a text where stretches from there can end, in the
order of preference.  The last position is the one behind the text. -/
abbrev Reach : Type := List (List Nat)

namespace Reach

/-- Where stretches from a position can end. -/
def endsFrom (reach : Reach) (position : Nat) : List Nat :=
  reach.getD position []

/-- Every position with where stretches from it can end. -/
def ofPositions (text : List Char) (ends : Nat -> List Nat) : Reach :=
  (List.range (text.length + 1)).map ends

/-- One stretch and then another one. -/
def followedBy (first second : Reach) : Reach :=
  first.map fun ends => (ends.flatMap second.endsFrom).eraseDups

/-- Stretches of one kind, and those of another kind where they are not enough. -/
def orElse (first second : Reach) : Reach :=
  List.zipWith (fun ends others => (ends ++ others).eraseDups) first second

/-- No more than one stretch. -/
def atMostOnce (lazy : Bool) (reach : Reach) : Reach :=
  reach.mapIdx fun position ends => (if lazy then position :: ends else ends ++ [position]).eraseDups

/-- Any number of stretches.  One that leads nowhere is the last.  As all
others lead further the table is made from its end. -/
def repeated (lazy : Bool) (reach : Reach) : Reach :=
  (reach.mapIdx fun position ends => (position, ends)).foldr (fun (position, ends) later =>
    let further := ends.flatMap fun next =>
      if position < next then Reach.endsFrom later (next - position - 1) else [position]
    (if lazy then position :: further else further ++ [position]).eraseDups :: later) []

/-- At least one stretch. -/
def atLeastOnce (lazy : Bool) (reach : Reach) : Reach :=
  let more := reach.repeated lazy
  reach.mapIdx fun position ends =>
    (ends.flatMap fun next => if position < next then more.endsFrom next else [next]).eraseDups

end Reach

/-- Where the stretches of a text that a pattern matches can end. -/
def reach (text : List Char) : Pattern -> Reach
  | nothing => .ofPositions text fun position => [position]
  | oneOf set => .ofPositions text fun position =>
    if (text[position]?).any set.contains then [position + 1] else []
  | anchor condition => .ofPositions text fun position =>
    let before := if position = 0 then none else text[position - 1]?
    if condition.holds before text[position]? then [position] else []
  | sequence first second => (reach text first).followedBy (reach text second)
  | choice first second => (reach text first).orElse (reach text second)
  | optional pattern lazy => (reach text pattern).atMostOnce lazy
  | star pattern lazy => (reach text pattern).repeated lazy
  | plus pattern lazy => (reach text pattern).atLeastOnce lazy

/-- Whether a text fits a pattern. -/
def fits (pattern : Pattern) (text : String) : Bool :=
  ((pattern.reach text.toList).endsFrom 0).head? == some text.toList.length

end Pattern

end SingleSignOn.Text
