import SingleSignOn.Digest.Argon2
import SingleSignOn.Text.Base64
import SingleSignOn.Text.Decimal

namespace SingleSignOn.Password

/-!
# Stored password hashes

A password is stored as a text of fields after dollar signs: algorithm,
version, parameters, salt and hash.  The text says by itself how it was made,
so hashes made under other costs, or by another variant of the algorithm,
stay verifiable.

Reading has two stages.  `StoredHash.parse?` splits the text and checks the
characters and sizes that the notation allows.  `StoredHash.request?` then
asks whether the fields describe a run of Argon2.  `StoredHash.text` writes
what `parse?` reads.
-/

open Digest (Argon2.Request Argon2.Variant Argon2.Version)

/-- The fields of a stored hash.  Salt and parameter values are kept in
their written form. -/
structure StoredHash where
  algorithm : List Char
  version : Option Nat
  parameters : List (List Char × List Char)
  salt : Option (List Char)
  hash : Option Bytes
  deriving DecidableEq, Repr

/-- The parts of a text between marks; one more part than there are marks. -/
def splitOn (mark : Char) : List Char -> List (List Char)
  | [] => [[]]
  | char :: rest =>
    match splitOn mark rest with
    | [] => [[]]
    | part :: parts => if char = mark then [] :: part :: parts else (char :: part) :: parts

/-- Parts with a mark between them. -/
def joinWith (mark : Char) : List (List Char) -> List Char
  | [] => []
  | [part] => part
  | part :: parts => part ++ mark :: joinWith mark parts

/-- The greatest unsigned 32-bit number. -/
def uint32Max : Nat := 4294967295

/-- A name: one to thirty-two lower-case letters, digits and hyphens. -/
def isName (text : List Char) : Bool :=
  1 ≤ text.length && text.length ≤ 32 &&
    text.all fun char => ('a' ≤ char && char ≤ 'z') || ('0' ≤ char && char ≤ '9') || char == '-'

/-- A value: at most sixty-four letters, digits and a few signs. -/
def isValue (text : List Char) : Bool :=
  text.length ≤ 64 &&
    text.all fun char => ('a' ≤ char && char ≤ 'z') || ('A' ≤ char && char ≤ 'Z') ||
      ('0' ≤ char && char ≤ '9') || ['/', '+', '.', '-'].contains char

/-- A value that is a 32-bit number in canonical decimal notation. -/
def numberOf? (value : List Char) : Option Nat :=
  (Decimal.readCanonical? value).filter (· ≤ uint32Max)

/-- A version field. -/
def versionOf? (field : List Char) : Option (List Char) :=
  match field with
  | 'v' :: '=' :: value => if field.contains ',' then none else some value
  | _ => none

/-- One parameter with its value. -/
def parameterOf? (text : List Char) : Option (List Char × List Char) :=
  match splitOn '=' text with
  | [name, value] => if isName name && isValue value then some (name, value) else none
  | _ => none

/-- A parameter field, of at most 127 characters. -/
def parametersOf? (field : List Char) : Option (List (List Char × List Char)) :=
  if field.length ≤ 127 then (splitOn ',' field).mapM parameterOf? else none

/-- A salt field, of four to sixty-four characters. -/
def saltOf? (field : List Char) : Option (List Char) :=
  if 4 ≤ field.length && field.length ≤ 64 && isValue field then some field else none

/-- A hash field, of ten to sixty-four bytes. -/
def hashOf? (field : List Char) : Option Bytes :=
  (Base64.decode? Base64.standard field).filter fun hash => 10 ≤ hash.length ∧ hash.length ≤ 64

/-- Reads a field with the help of a reader, if there is one to read. -/
def readField? {α : Type} (read : List Char -> Option α) : List (List Char) ->
    Option (Option α × List (List Char))
  | [] => some (none, [])
  | field :: rest => (read field).map fun value => (some value, rest)

namespace StoredHash

/-- Reads the notation.  Version and parameters may be left out; they are
told apart from the salt by their equals sign. -/
def parse? (text : String) : Option StoredHash :=
  match splitOn '$' text.toList with
  | [] :: algorithm :: fields => do
    if !isName algorithm then none
    let (version, fields) ← match fields with
      | field :: rest =>
        match versionOf? field with
        | some value => if isValue value then (numberOf? value).map fun number => (some number, rest) else none
        | none => some (none, fields)
      | [] => some (none, [])
    let (parameters, fields) ← match fields with
      | field :: rest =>
        if field.contains '=' then (parametersOf? field).map fun found => (found, rest)
        else some ([], fields)
      | [] => some ([], [])
    let (salt, fields) ← readField? saltOf? fields
    let (hash, fields) ← readField? hashOf? fields
    if fields.isEmpty then return ⟨algorithm, version, parameters, salt, hash⟩ else none
  | _ => none

/-- The written form. -/
def text (stored : StoredHash) : String :=
  let fields := [[], stored.algorithm] ++
    (stored.version.toList.map fun number => 'v' :: '=' :: Decimal.text number) ++
    (if stored.parameters.isEmpty then []
      else [joinWith ',' (stored.parameters.map fun (name, value) => name ++ '=' :: value)]) ++
    stored.salt.toList ++
    (stored.hash.toList.map (Base64.encode Base64.standard))
  String.ofList (joinWith '$' fields)

end StoredHash

/-- The work that a hash takes. -/
structure Cost where
  /-- Memory in kibibytes. -/
  memory : Nat
  passes : Nat
  lanes : Nat
  deriving DecidableEq, Repr

/-- Whether the password hash is defined for these costs: every lane needs
eight blocks of memory, and there are at most 2^24 - 1 lanes. -/
def Cost.IsValid (cost : Cost) : Prop :=
  8 ≤ cost.memory ∧ 8 * cost.lanes ≤ cost.memory ∧ 1 ≤ cost.passes ∧ 1 ≤ cost.lanes ∧ cost.lanes ≤ 16777215

instance (cost : Cost) : Decidable cost.IsValid :=
  inferInstanceAs (Decidable (_ ∧ _))

/-- Costs, and data mixed into the hash, as the parameters of a stored hash give them. -/
structure Parameters where
  cost : Cost
  associated : Bytes

/-- The parameters of a stored hash that names none. -/
def Parameters.unnamed : Parameters := ⟨⟨19456, 2, 1⟩, []⟩

/-- A parameter value in base64, of at most so many bytes. -/
def bytesUpTo? (limit : Nat) (value : List Char) : Option Bytes :=
  (Base64.decode? Base64.standard value).filter fun bytes => bytes.length ≤ limit

/-- Takes one named parameter in; a later one of the same name replaces it.
A key identifier is checked and plays no further role. -/
def Parameters.set? (parameters : Parameters) (name value : List Char) : Option Parameters :=
  let cost := parameters.cost
  match String.ofList name with
  | "m" => (numberOf? value).map fun number => { parameters with cost := { cost with memory := number } }
  | "t" => (numberOf? value).map fun number => { parameters with cost := { cost with passes := number } }
  | "p" => (numberOf? value).map fun number => { parameters with cost := { cost with lanes := number } }
  | "keyid" => (bytesUpTo? 8 value).map fun _ => parameters
  | "data" => (bytesUpTo? 32 value).map fun bytes => { parameters with associated := bytes }
  | _ => none

/-- The variant that an algorithm name stands for. -/
def variantOf? (algorithm : List Char) : Option Argon2.Variant :=
  match String.ofList algorithm with
  | "argon2d" => some .dependent
  | "argon2i" => some .independent
  | "argon2id" => some .hybrid
  | _ => none

/-- The version that a number stands for; without a number it is the newest. -/
def versionNamed? : Option Nat -> Option Argon2.Version
  | none => some .adding
  | some 19 => some .adding
  | some 16 => some .replacing
  | some _ => none

namespace StoredHash

/-- The run of Argon2 that a stored hash describes, with the output that it
has to give. -/
def request? (stored : StoredHash) : Option (Argon2.Request × Bytes) := do
  let salt ← stored.salt
  let hash ← stored.hash
  let variant ← variantOf? stored.algorithm
  let version ← versionNamed? stored.version
  let parameters ← stored.parameters.foldlM (fun parameters (name, value) => parameters.set? name value)
    Parameters.unnamed
  let saltBytes ← Base64.decode? Base64.standard salt
  if parameters.cost.IsValid ∧ 8 ≤ saltBytes.length then
    return (⟨variant, version, parameters.cost.memory, parameters.cost.passes, parameters.cost.lanes,
      saltBytes, parameters.associated, hash.length⟩, hash)
  else none

end StoredHash

end SingleSignOn.Password
