import SingleSignOn.Text.Decimal
import SingleSignOn.Text.Uri

namespace SingleSignOn.Http.Target

/-!
# Request targets

A target is a path or an address with scheme and host.  Only the path selects
what answers it.  A path is a list of segments; a segment that stands for a
number may be percent-encoded, and is decoded after it was cut out, so an
encoded slash never separates.
-/

/-- The texts between slashes; one more than there are slashes. -/
def splitAtSlashes : List Char -> List (List Char)
  | [] => [[]]
  | char :: rest =>
    match splitAtSlashes rest with
    | [] => [[]]
    | segment :: segments =>
      if char = '/' then [] :: segment :: segments else (char :: segment) :: segments

/-- The segments of a path, if it starts at the root. -/
def segments? (target : String) : Option (List (List Char)) :=
  match (Uri.pathOf target).toList with
  | '/' :: rest => some (splitAtSlashes rest)
  | _ => none

/-- Replaces each percent sign with two hexadecimal digits by the byte that
they denote.  Any other percent sign stands for itself. -/
def percentDecode : Bytes -> Bytes
  | [] => []
  | 0x25 :: high :: low :: rest =>
    match Bytes.hexValue? high, Bytes.hexValue? low with
    | some upper, some lower => (upper * 16 + lower).toUInt8 :: percentDecode rest
    | _, _ => 0x25 :: percentDecode (high :: low :: rest)
  | byte :: rest => byte :: percentDecode rest
termination_by bytes => bytes.length

/-- The number that a segment stands for. -/
def number? (segment : List Char) : Option Int :=
  (Bytes.toString? (percentDecode (Bytes.ofString (String.ofList segment)))).bind
    fun text => Decimal.readInt64? text.toList

end SingleSignOn.Http.Target
