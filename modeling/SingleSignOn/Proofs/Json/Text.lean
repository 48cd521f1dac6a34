import SingleSignOn.Json.Text

namespace SingleSignOn.Json

/-!
# A written literal reads back

Escaping leaves the end of a literal where it is, and unescaping takes it
back.  Both are shown byte by byte, from the three ways in which a byte can
be spelled.
-/

theorem hexValue?_hexDigit (value : Nat) (small : value < 16) :
    Bytes.hexValue? (Bytes.hexDigit value).toNat.toUInt8 = some value := by
  revert value
  decide

theorem codePointBytes_control (code : Nat) (control : code < 32) : codePointBytes code = [code.toUInt8] := by
  revert code
  decide

/-- What is written for a byte: the byte itself, a backslash with a letter, or a
backslash with a code unit. -/
inductive Spelling (byte : UInt8) : Bytes -> Prop where
  | plain (printable : ¬byte < 0x20) (quote : byte ≠ 0x22) (backslash : byte ≠ 0x5c) : Spelling byte [byte]
  | short (letter : UInt8) (meaning : shortEscape? letter = some byte) (other : letter ≠ 0x75) :
      Spelling byte [0x5c, letter]
  | unit (third fourth : UInt8) (control : byte.toNat < 32)
      (meaning : hexUnit? 0x30 0x30 third fourth = some byte.toNat) :
      Spelling byte [0x5c, 0x75, 0x30, 0x30, third, fourth]

theorem spelling_escapeByte (byte : UInt8) : Spelling byte (escapeByte byte) := by
  unfold escapeByte
  split
  case h_8 quote backslash _ _ _ _ _ =>
    split
    case isFalse printable => exact .plain printable quote backslash
    case isTrue control =>
      have size : byte.toNat < 32 := control
      apply Spelling.unit _ _ size
      simp only [hexUnit?, hexValue?_hexDigit _ (show byte.toNat / 16 < 16 by omega),
        hexValue?_hexDigit _ (show byte.toNat % 16 < 16 by omega)]
      simp only [show Bytes.hexValue? 0x30 = some 0 from rfl, Option.bind_eq_bind, Option.bind_some, Option.pure_def, Option.some.injEq]
      omega
  all_goals exact .short _ rfl (by decide)

theorem scanLiteral_escapeByte (byte : UInt8) (rest raw after : Bytes)
    (scanned : scanLiteral rest = some (raw, after)) :
    scanLiteral (escapeByte byte ++ rest) = some (escapeByte byte ++ raw, after) := by
  have spelled := spelling_escapeByte byte
  generalize escapeByte byte = written at spelled ⊢
  cases spelled with
  | plain printable quote backslash =>
    simp [scanLiteral, scanned, printable, backslash]
  | short letter meaning other =>
    simp [scanLiteral, scanned, meaning, other]
  | unit third fourth control meaning =>
    simp only [List.cons_append, List.nil_append, scanLiteral, meaning, scanned]

theorem scanLiteral_escape (bytes after : Bytes) :
    scanLiteral (escape bytes ++ 0x22 :: after) = some (escape bytes, after) := by
  induction bytes with
  | nil => rfl
  | cons head tail hypothesis =>
    simp only [escape, List.flatMap_cons, List.append_assoc] at hypothesis ⊢
    exact scanLiteral_escapeByte head _ _ _ hypothesis

theorem unescape?_escapeByte (byte : UInt8) (rest : Bytes) :
    unescape? (escapeByte byte ++ rest) = (unescape? rest).map (byte :: ·) := by
  have spelled := spelling_escapeByte byte
  generalize escapeByte byte = written at spelled ⊢
  cases spelled with
  | plain printable quote backslash =>
    cases others : unescape? rest <;> simp [unescape?, printable, quote, backslash, others]
  | short letter meaning other =>
    cases others : unescape? rest <;> simp [unescape?, meaning, other, others]
  | unit third fourth control meaning =>
    have low : isLowSurrogate byte.toNat = false := by
      simp only [isLowSurrogate, Bool.and_eq_false_imp, decide_eq_true_eq]
      omega
    have high : isHighSurrogate byte.toNat = false := by
      simp only [isHighSurrogate, Bool.and_eq_false_imp, decide_eq_true_eq]
      omega
    have single : codePointBytes byte.toNat = [byte] := by
      rw [codePointBytes_control _ control]
      exact congrArg (fun read => [read]) UInt8.ofNat_toNat
    cases others : unescape? rest <;>
      simp [unescape?, meaning, low, high, single, others]

theorem unescape?_escape (bytes : Bytes) : unescape? (escape bytes) = some bytes := by
  induction bytes with
  | nil => rfl
  | cons head tail hypothesis =>
    simp only [escape, List.flatMap_cons] at hypothesis ⊢
    rw [unescape?_escapeByte, hypothesis]
    rfl

theorem decode?_escape (text : String) : decode? (escape (Bytes.ofString text)) = some text := by
  rw [decode?, unescape?_escape, Option.bind_some, Bytes.toString?_ofString]

end SingleSignOn.Json
