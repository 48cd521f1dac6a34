import SingleSignOn.AccessToken.Signer
import SingleSignOn.Proofs.Text.Base64

namespace SingleSignOn.AccessToken

/-!
# A token falls into the parts it was made of

A token is taken apart at its last two dots.  No part contains a dot, since
a dot is no digit of base64, so the parts come back as they were joined.
-/

theorem splitAtLast_eq_none (mark : Char) (text : List Char) (free : mark ∉ text) :
    splitAtLast mark text = none := by
  induction text with
  | nil => rfl
  | cons head tail hypothesis =>
    simp only [List.mem_cons, not_or] at free
    simp only [splitAtLast, hypothesis free.2, if_neg (Ne.symm free.1)]

theorem splitAtLast_append (mark : Char) (before after : List Char) (free : mark ∉ after) :
    splitAtLast mark (before ++ mark :: after) = some (before, after) := by
  induction before with
  | nil => simp only [List.nil_append, splitAtLast, splitAtLast_eq_none mark after free, if_true]
  | cons head tail hypothesis => simp only [List.cons_append, splitAtLast, hypothesis]

theorem dot_not_mem_encode (bytes : Bytes) : '.' ∉ Base64.encode Base64.urlSafe bytes :=
  Base64.not_mem_encode Base64.urlSafe Base64.urlSafe_isFaithful '.' rfl bytes

theorem ofToken?_tokenOf (primitives : Primitives) (secret : String) (claims : AccessClaims) :
    ∃ parts, Parts.ofToken? (tokenOf primitives secret claims) = some parts ∧
      parts.header = Base64.encode Base64.urlSafe headerBytes ∧
      parts.payload = Base64.encode Base64.urlSafe (payloadBytes claims) ∧
      parts.signature = signatureText primitives secret parts.message := by
  let parts : Parts :=
    { header := Base64.encode Base64.urlSafe headerBytes
      payload := Base64.encode Base64.urlSafe (payloadBytes claims)
      signature := signatureText primitives secret (String.ofList (Base64.encode Base64.urlSafe headerBytes ++
        '.' :: Base64.encode Base64.urlSafe (payloadBytes claims))) }
  refine ⟨parts, ?_, rfl, rfl, rfl⟩
  have shown : (tokenOf primitives secret claims).toList =
      (parts.header ++ '.' :: parts.payload) ++ '.' :: parts.signature := by
    simp [tokenOf, parts]
  simp only [Parts.ofToken?, shown, splitAtLast_append '.' (parts.header ++ '.' :: parts.payload) parts.signature
    (dot_not_mem_encode _), splitAtLast_append '.' parts.header parts.payload (dot_not_mem_encode _),
    Option.bind_eq_bind, Option.bind_some, Option.pure_def]

end SingleSignOn.AccessToken
