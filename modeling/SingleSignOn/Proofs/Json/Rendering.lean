import SingleSignOn.Json.Shape
import SingleSignOn.Json.Value
import SingleSignOn.Proofs.Json.Text
import SingleSignOn.Proofs.Text.Decimal

namespace SingleSignOn.Json

/-!
# What is written as JSON reads back

The compact text of a value is a whole text, and what is read off it is the
value again, with its texts and keys still escaped and its integers as the
literals that they were written as (`parse_render`).

Only an integer depends on what comes after it: it ends where no digit, point
or exponent follows.  In a compact text a comma or a closing bracket follows,
or nothing.
-/

/-- The literal in which an integer is written. -/
def Number.ofInt (value : Int) : Number :=
  ⟨decide (value < 0), Decimal.digits value.natAbs, none, none⟩

mutual

/-- What is read off the compact text of a value. -/
def Value.parsed : Value -> Parsed
  | .null => .null
  | .boolean value => .boolean value
  | .integer value => .number (.ofInt value)
  | .text value => .string (escape (Bytes.ofString value))
  | .list items => .array (parsedItems items)
  | .record members => .object (parsedMembers members)

/-- What is read off the items of a list. -/
def Value.parsedItems : List Value -> Items
  | [] => .closed
  | head :: tail => .next head.parsed (parsedItems tail)

/-- What is read off the members of a record. -/
def Value.parsedMembers : List (String × Value) -> Members
  | [] => .closed
  | (key, value) :: tail => .next (escape (Bytes.ofString key)) value.parsed (parsedMembers tail)

end

/-! ## Integers -/

theorem ofByte?_toByte (digit : Fin 10) : Decimal.ofByte? (Decimal.toByte digit) = some digit := by
  revert digit
  decide

/-- A text that begins with what may come after a value. -/
def EndsValue : Bytes -> Prop
  | [] => True
  | byte :: _ => byte = 0x2c ∨ byte = 0x5d ∨ byte = 0x7d

theorem takeDigits_append (digits : List (Fin 10)) {rest : Bytes} (ends : EndsValue rest) :
    takeDigits (digits.map Decimal.toByte ++ rest) = (digits, rest) := by
  induction digits with
  | nil =>
    cases rest with
    | nil => rfl
    | cons byte rest => rcases ends with rfl | rfl | rfl <;> rfl
  | cons digit digits hypothesis =>
    simp only [List.map_cons, List.cons_append, takeDigits, ofByte?_toByte, hypothesis]

/-- The digits of a number have no leading zero beside zero itself. -/
theorem not_leading_zero (number : Nat) :
    ¬((Decimal.digits number).length > 1 ∧ (Decimal.digits number).head? = some 0) := by
  rintro ⟨longer, zero⟩
  cases number with
  | zero => simp [Decimal.digits] at longer
  | succ number => exact Decimal.head_digits_ne_zero _ (Nat.succ_pos number) zero

/-- A literal ends where neither a point nor an exponent follows. -/
theorem scanTail_of_endsValue (negative : Bool) (whole : List (Fin 10)) {rest : Bytes}
    (ends : EndsValue rest) :
    Number.scanTail negative whole none rest = some (⟨negative, whole, none, none⟩, rest) := by
  cases rest with
  | nil => rfl
  | cons byte rest => rcases ends with rfl | rfl | rfl <;> rfl

/-- The notation of a number begins with a digit. -/
theorem map_toByte_digits (number : Nat) :
    ∃ digit others, (Decimal.digits number).map Decimal.toByte = Decimal.toByte digit :: others := by
  obtain ⟨digit, others, same⟩ := List.exists_cons_of_ne_nil (Decimal.digits_ne_nil number)
  exact ⟨digit, others.map Decimal.toByte, by rw [same, List.map_cons]⟩

theorem toByte_ne_minus (digit : Fin 10) : Decimal.toByte digit ≠ 0x2d := by
  revert digit
  decide

theorem not_point_of_endsValue {rest tail : Bytes} (ends : EndsValue rest) : rest ≠ 0x2e :: tail := by
  rintro rfl
  rcases ends with impossible | impossible | impossible <;> cases impossible

/-- A literal of nothing but a sign and digits. -/
theorem scan_of_takeDigits {bytes unsigned rest : Bytes} {negative : Bool} {whole : List (Fin 10)}
    (sign : negative = true ∧ bytes = 0x2d :: unsigned ∨
      negative = false ∧ bytes = unsigned ∧ unsigned.head? ≠ some 0x2d)
    (taken : takeDigits unsigned = (whole, rest)) (nonempty : whole ≠ [])
    (canonical : ¬(whole.length > 1 ∧ whole.head? = some 0)) (ends : EndsValue rest) :
    Number.scan bytes = some (⟨negative, whole, none, none⟩, rest) := by
  unfold Number.scan
  split
  next found digits signed =>
  have same : found = negative ∧ digits = unsigned := by
    rcases sign with ⟨rfl, rfl⟩ | ⟨rfl, rfl, other⟩
    · exact ⟨(Prod.mk.inj signed).1.symm, (Prod.mk.inj signed).2.symm⟩
    · split at signed
      · exact absurd rfl other
      · exact ⟨(Prod.mk.inj signed).1.symm, (Prod.mk.inj signed).2.symm⟩
  rw [same.1, same.2, taken]
  split
  · next empty =>
    exact absurd (Prod.mk.inj empty).1 nonempty
  · next equal =>
    cases equal
    rw [if_neg canonical]
    split
    · exact absurd rfl (not_point_of_endsValue ends)
    · exact scanTail_of_endsValue negative whole ends

theorem scan_renderInteger (value : Int) {rest : Bytes} (ends : EndsValue rest) :
    Number.scan (Value.renderInteger value ++ rest) = some (.ofInt value, rest) := by
  have taken := takeDigits_append (Decimal.digits value.natAbs) ends
  refine scan_of_takeDigits ?_ taken (Decimal.digits_ne_nil _) (not_leading_zero _) ends
  by_cases negative : value < 0
  · refine .inl ⟨decide_eq_true negative, ?_⟩
    rw [Value.renderInteger, if_pos negative, List.cons_append]
  · refine .inr ⟨decide_eq_false negative, ?_, ?_⟩
    · rw [Value.renderInteger, if_neg negative]
    · obtain ⟨digit, others, shown⟩ := map_toByte_digits value.natAbs
      rw [shown, List.cons_append, List.head?_cons]
      exact fun minus => toByte_ne_minus digit (Option.some.inj minus)

/-- A 64-bit integer is read as the number that was written. -/
theorem int64?_ofInt {value : Int} (fits : Decimal.FitsInt64 value) :
    (Number.ofInt value).int64? = some value := by
  have size : Decimal.value (Decimal.digits value.natAbs) = value.natAbs := Decimal.value_digits _
  by_cases negative : value < 0
  · have signed : -Int.ofNat value.natAbs = value :=
      Int.neg_eq_comm.mp (Int.ofNat_natAbs_of_nonpos (Int.le_of_lt negative)).symm
    have nonzero : Int.ofNat value.natAbs ≠ 0 := by
      intro zero
      rw [zero] at signed
      omega
    have sign : (Number.ofInt value).negative = true := decide_eq_true negative
    unfold Number.int64?
    rw [sign]
    simp only [Number.ofInt, size, signed, nonzero, and_false, not_false_eq_true, if_true, fits,
      Option.isNone_none, and_self]
  · have signed : Int.ofNat value.natAbs = value := Int.natAbs_of_nonneg (Int.not_lt.mp negative)
    have sign : (Number.ofInt value).negative = false := decide_eq_false negative
    unfold Number.int64?
    rw [sign]
    simp only [Number.ofInt, size, signed, Bool.false_eq_true, false_and, not_false_eq_true, if_true,
      if_false, fits, Option.isNone_none, and_self]

/-! ## Values -/

/-- The bytes with which an integer begins. -/
def integerStarts : Bytes := 0x2d :: (List.finRange 10).map Decimal.toByte

theorem renderInteger_eq_cons (value : Int) :
    ∃ byte others, Value.renderInteger value = byte :: others ∧ byte ∈ integerStarts := by
  unfold Value.renderInteger
  by_cases negative : value < 0
  · exact ⟨0x2d, _, if_pos negative, List.mem_cons_self⟩
  · obtain ⟨digit, others, shown⟩ := map_toByte_digits value.natAbs
    refine ⟨Decimal.toByte digit, others, (if_neg negative).trans shown, ?_⟩
    exact List.mem_cons_of_mem _ (List.mem_map_of_mem (List.mem_finRange digit))

/-- The bytes that begin a value other than a number, and the blanks. -/
def otherStarts : Bytes := [0x20, 0x0a, 0x09, 0x0d, 0x6e, 0x74, 0x66, 0x22, 0x5b, 0x7b]

theorem not_mem_otherStarts {byte : UInt8} (integer : byte ∈ integerStarts) : byte ∉ otherStarts := by
  revert byte
  decide +kernel

/-- Whatever does not begin like another value is read as a number. -/
theorem parseValue_of_scan {byte : UInt8} {tail after : Bytes} {literal : Number} (fuel : Nat)
    (other : byte ∉ otherStarts) (scanned : Number.scan (byte :: tail) = some (literal, after)) :
    parseValue (fuel + 1) (byte :: tail) = (.number literal, some after) := by
  have starts : skipBlanks (byte :: tail) = byte :: tail := by
    refine if_neg ?_
    rintro (rfl | rfl | rfl | rfl) <;> exact other (by decide)
  unfold parseValue
  rw [starts]
  split
  case h_8 => rw [scanned]
  case h_1 same => cases same
  all_goals
    next same =>
    cases same
    exact absurd (by decide) other

/-- The first byte of a value is no blank and no closing bracket. -/
theorem render_eq_cons (value : Value) :
    ∃ byte others, value.render = byte :: others ∧ byte ≠ 0x5d ∧
      forall rest, skipBlanks (byte :: rest) = byte :: rest := by
  cases value with
  | null => exact ⟨_, _, rfl, by decide, fun _ => rfl⟩
  | boolean value => cases value <;> exact ⟨_, _, rfl, by decide, fun _ => rfl⟩
  | text value => exact ⟨_, _, rfl, by decide, fun _ => rfl⟩
  | list items => exact ⟨_, _, rfl, by decide, fun _ => rfl⟩
  | record members => exact ⟨_, _, rfl, by decide, fun _ => rfl⟩
  | integer value =>
    obtain ⟨byte, others, shown, starts⟩ := renderInteger_eq_cons value
    refine ⟨byte, others, shown, ?_, fun rest => if_neg ?_⟩
    · rintro rfl
      exact absurd starts (by decide)
    · rintro (rfl | rfl | rfl | rfl) <;> exact absurd starts (by decide)

theorem parseValue_text (fuel : Nat) (text : String) (rest : Bytes) :
    parseValue (fuel + 1) (Value.renderText text ++ rest) =
      (.string (escape (Bytes.ofString text)), some rest) := by
  have shown : Value.renderText text ++ rest = 0x22 :: (escape (Bytes.ofString text) ++ 0x22 :: rest) := by
    simp only [Value.renderText, List.cons_append, List.append_assoc, List.nil_append]
  have quoted : skipBlanks (0x22 :: (escape (Bytes.ofString text) ++ 0x22 :: rest)) =
      0x22 :: (escape (Bytes.ofString text) ++ 0x22 :: rest) := rfl
  rw [shown]
  simp only [parseValue, quoted, scanLiteral_escape]

/-- A list with items is read from its first item on. -/
theorem parseValue_list {byte : UInt8} {tail : Bytes} (fuel : Nat) (other : byte ≠ 0x5d)
    (starts : skipBlanks (byte :: tail) = byte :: tail) :
    parseValue (fuel + 1) (0x5b :: byte :: tail) =
      ((parseItems fuel (byte :: tail)).map .array id) := by
  have opened : skipBlanks (0x5b :: byte :: tail) = 0x5b :: byte :: tail := rfl
  simp only [parseValue, opened, starts]
  split
  · next same =>
    cases same
    exact absurd rfl other
  · rfl

/-- One item is read, and then what follows it decides. -/
theorem parseItems_cons {bytes after : Bytes} {head : Parsed} {fuel : Nat}
    (read : parseValue fuel bytes = (head, some (0x2c :: after))) :
    parseItems (fuel + 1) bytes = ((parseItems fuel after).map (.next head) id) := by
  simp only [parseItems, read]
  rfl

theorem parseItems_last {bytes after : Bytes} {head : Parsed} {fuel : Nat}
    (read : parseValue fuel bytes = (head, some (0x5d :: after))) :
    parseItems (fuel + 1) bytes = (.next head .closed, some after) := by
  simp only [parseItems, read]
  rfl

theorem parseMembers_value {key : String} {bytes : Bytes} (fuel : Nat) :
    parseMembers (fuel + 1) (Value.renderText key ++ 0x3a :: bytes) =
      match parseValue fuel bytes with
      | (value, none) => (.next (escape (Bytes.ofString key)) value .broken, none)
      | (value, some after) =>
        match skipBlanks after with
        | 0x7d :: rest => (.next (escape (Bytes.ofString key)) value .closed, some rest)
        | 0x2c :: rest =>
          let (tail, after) := parseMembers fuel rest
          (.next (escape (Bytes.ofString key)) value tail, after)
        | _ => (.next (escape (Bytes.ofString key)) value .broken, none) := by
  have shown : Value.renderText key ++ 0x3a :: bytes =
      0x22 :: (escape (Bytes.ofString key) ++ 0x22 :: 0x3a :: bytes) := by
    simp only [Value.renderText, List.cons_append, List.append_assoc, List.nil_append]
  have quoted : skipBlanks (0x22 :: (escape (Bytes.ofString key) ++ 0x22 :: 0x3a :: bytes)) =
      0x22 :: (escape (Bytes.ofString key) ++ 0x22 :: 0x3a :: bytes) := rfl
  rw [shown]
  simp only [parseMembers, quoted, scanLiteral_escape]
  rfl

theorem render_ne_nil (value : Value) : value.render ≠ [] := by
  obtain ⟨byte, others, shown, _⟩ := render_eq_cons value
  rw [shown]
  exact List.cons_ne_nil byte others

/-- The text of a list begins with that of its first item. -/
theorem renderItems_eq_cons {items : List Value} (nonempty : items ≠ []) :
    ∃ byte others, Value.renderItems items = byte :: others ∧ byte ≠ 0x5d ∧
      forall rest, skipBlanks (byte :: rest) = byte :: rest := by
  match items with
  | [] => exact absurd rfl nonempty
  | [last] => exact render_eq_cons last
  | head :: next :: tail =>
    obtain ⟨byte, others, shown, begins⟩ := render_eq_cons head
    refine ⟨byte, others ++ 0x2c :: Value.renderItems (next :: tail), ?_, begins⟩
    rw [Value.renderItems, shown, List.cons_append]
    exact List.cons_ne_nil next tail

/-- The text of a record begins with that of its first key. -/
theorem renderMembers_eq_quote {members : List (String × Value)} (nonempty : members ≠ []) :
    ∃ others, Value.renderMembers members = 0x22 :: others := by
  match members with
  | [] => exact absurd rfl nonempty
  | [(key, value)] => exact ⟨_, rfl⟩
  | (key, value) :: next :: tail => exact ⟨_, rfl⟩

/-! ## Every value

Each step of the reader takes a byte at least, so the fuel is counted along
the text.
-/

/-- A value is read off its text, if there is fuel for each byte of it. -/
def Value.Reads (value : Value) : Prop :=
  forall fuel rest, value.render.length ≤ fuel -> EndsValue rest ->
    parseValue fuel (value.render ++ rest) = (value.parsed, some rest)

/-- The items of a list are read up to its bracket. -/
def Value.ReadItems (items : List Value) : Prop :=
  items ≠ [] -> forall fuel rest, (Value.renderItems items).length < fuel ->
    parseItems fuel (Value.renderItems items ++ 0x5d :: rest) = (Value.parsedItems items, some rest)

/-- The members of a record are read up to its brace. -/
def Value.ReadMembers (members : List (String × Value)) : Prop :=
  members ≠ [] -> forall fuel rest, (Value.renderMembers members).length < fuel ->
    parseMembers fuel (Value.renderMembers members ++ 0x7d :: rest) =
      (Value.parsedMembers members, some rest)

/-- There is always a byte to be read, so it is enough to look at a step of the reader. -/
theorem Value.reads_of_succ {value : Value}
    (reads : forall fuel rest, value.render.length ≤ fuel + 1 -> EndsValue rest ->
      parseValue (fuel + 1) (value.render ++ rest) = (value.parsed, some rest)) : value.Reads := by
  intro fuel rest enough ends
  have nonempty := List.length_pos_iff.mpr (render_ne_nil value)
  obtain ⟨less, rfl⟩ : ∃ less, fuel = less + 1 := ⟨fuel - 1, by omega⟩
  exact reads less rest enough ends

theorem Value.reads_integer (value : Int) : (Value.integer value).Reads := by
  refine reads_of_succ fun fuel rest enough ends => ?_
  have scanned := scan_renderInteger value ends
  obtain ⟨byte, others, shown, starts⟩ := renderInteger_eq_cons value
  change parseValue (fuel + 1) (renderInteger value ++ rest) = _
  rw [shown, List.cons_append] at scanned ⊢
  exact parseValue_of_scan fuel (not_mem_otherStarts starts) scanned

theorem Value.reads_list {items : List Value} (inner : ReadItems items) : (Value.list items).Reads := by
  refine reads_of_succ fun fuel rest enough ends => ?_
  have shown : (Value.list items).render ++ rest = 0x5b :: (renderItems items ++ 0x5d :: rest) := by
    rw [render, List.append_assoc, List.cons_append]
    rfl
  have size : (renderItems items).length + 2 ≤ fuel + 1 := by
    simpa [render] using enough
  rw [shown]
  by_cases nonempty : items = []
  · cases nonempty
    rfl
  · have read := inner nonempty fuel rest (by omega)
    obtain ⟨byte, others, begins, other, starts⟩ := renderItems_eq_cons nonempty
    rw [begins, List.cons_append] at read ⊢
    rw [parseValue_list fuel other (starts _), read]
    rfl

theorem Value.reads_record {members : List (String × Value)} (inner : ReadMembers members) :
    (Value.record members).Reads := by
  refine reads_of_succ fun fuel rest enough ends => ?_
  have shown : (Value.record members).render ++ rest = 0x7b :: (renderMembers members ++ 0x7d :: rest) := by
    rw [render, List.append_assoc, List.cons_append]
    rfl
  have size : (renderMembers members).length + 2 ≤ fuel + 1 := by
    simpa [render] using enough
  rw [shown]
  by_cases nonempty : members = []
  · cases nonempty
    rfl
  · have read := inner nonempty fuel rest (by omega)
    obtain ⟨others, begins⟩ := renderMembers_eq_quote nonempty
    rw [begins, List.cons_append] at read ⊢
    change (parseMembers fuel (0x22 :: (others ++ 0x7d :: rest))).map Parsed.object id = _
    rw [read]
    rfl

theorem Value.readItems_last {last : Value} (reads : last.Reads) : ReadItems [last] := by
  intro _ fuel rest enough
  obtain ⟨less, rfl⟩ : ∃ less, fuel = less + 1 := ⟨fuel - 1, by omega⟩
  exact parseItems_last (reads less _ (Nat.lt_succ_iff.mp enough) (.inr (.inl rfl)))

theorem Value.readItems_cons {head : Value} {tail : List Value} (nonempty : tail ≠ [])
    (reads : head.Reads) (others : ReadItems tail) : ReadItems (head :: tail) := by
  intro _ fuel rest enough
  have shown : renderItems (head :: tail) = head.render ++ 0x2c :: renderItems tail :=
    renderItems.eq_3 head tail nonempty
  rw [shown] at enough ⊢
  simp only [List.length_append, List.length_cons] at enough
  obtain ⟨less, rfl⟩ : ∃ less, fuel = less + 1 := ⟨fuel - 1, by omega⟩
  have first := reads less (0x2c :: (renderItems tail ++ 0x5d :: rest)) (by omega) (.inl rfl)
  rw [List.append_assoc, List.cons_append, parseItems_cons first, others nonempty less rest (by omega)]
  rfl

theorem Value.readMembers_last {value : Value} (key : String) (reads : value.Reads) :
    ReadMembers [(key, value)] := by
  intro _ fuel rest enough
  simp only [renderMembers, List.length_append, List.length_cons] at enough
  obtain ⟨less, rfl⟩ : ∃ less, fuel = less + 1 := ⟨fuel - 1, by omega⟩
  have read := reads less (0x7d :: rest) (by omega) (.inr (.inr rfl))
  rw [renderMembers, List.append_assoc, List.cons_append, parseMembers_value, read]
  rfl

theorem Value.readMembers_cons {value : Value} {tail : List (String × Value)} (key : String)
    (nonempty : tail ≠ []) (reads : value.Reads) (others : ReadMembers tail) :
    ReadMembers ((key, value) :: tail) := by
  intro _ fuel rest enough
  have shown : renderMembers ((key, value) :: tail) =
      renderText key ++ 0x3a :: value.render ++ 0x2c :: renderMembers tail :=
    renderMembers.eq_3 key value tail nonempty
  rw [shown] at enough ⊢
  simp only [List.length_append, List.length_cons] at enough
  obtain ⟨less, rfl⟩ : ∃ less, fuel = less + 1 := ⟨fuel - 1, by omega⟩
  have first := reads less (0x2c :: (renderMembers tail ++ 0x7d :: rest)) (by omega) (.inl rfl)
  rw [List.append_assoc, List.append_assoc, List.cons_append, List.cons_append, parseMembers_value, first]
  change (parseMembers less (renderMembers tail ++ 0x7d :: rest)).map (Members.next _ _) id = _
  rw [others nonempty less rest (by omega)]
  rfl

mutual

theorem Value.reads : (value : Value) -> value.Reads
  | .null => reads_of_succ fun _ _ _ _ => rfl
  | .boolean true => reads_of_succ fun _ _ _ _ => rfl
  | .boolean false => reads_of_succ fun _ _ _ _ => rfl
  | .integer value => reads_integer value
  | .text value => reads_of_succ fun fuel rest _ _ => parseValue_text fuel value rest
  | .list items => reads_list (readItems items)
  | .record members => reads_record (readMembers members)

theorem Value.readItems : (items : List Value) -> ReadItems items
  | [] => fun nonempty => absurd rfl nonempty
  | [last] => readItems_last last.reads
  | head :: next :: tail => readItems_cons (List.cons_ne_nil next tail) head.reads (readItems (next :: tail))

theorem Value.readMembers : (members : List (String × Value)) -> ReadMembers members
  | [] => fun nonempty => absurd rfl nonempty
  | [(key, value)] => readMembers_last key value.reads
  | (key, value) :: next :: tail =>
    readMembers_cons key (List.cons_ne_nil next tail) value.reads (readMembers (next :: tail))

end

/-- A compact text is read to its end as what it was made from. -/
theorem parse_render (value : Value) : parse value.render = ⟨value.parsed, true⟩ := by
  have read := value.reads (2 * value.render.length + 2) [] (by omega) trivial
  rw [List.append_nil] at read
  simp only [parse, read]
  rfl

/-! ## Members

The readers of a record find in it what was written under each name.
-/

theorem asText_escape (text : String) :
    (Parsed.string (escape (Bytes.ofString text))).asText = .ok text := by
  simp only [Parsed.asText, decode?_escape]

theorem asInt64_ofInt {value : Int} (fits : Decimal.FitsInt64 value) :
    (Parsed.number (.ofInt value)).asInt64 = .ok value := by
  simp only [Parsed.asInt64, int64?_ofInt fits]

/-- A number without an exponent is read to its end. -/
theorem isGivenUp_ofInt (value : Int) : (Number.ofInt value).isGivenUp = false := by
  rw [Number.isGivenUp, Number.ofInt, Option.any_none, Bool.and_false]

variable {name key : String} {value : Parsed} {tail : Members} {shape : Shape} {seen : List String}

theorem find?_written (name key : String) (value : Parsed) (tail : Members) :
    Members.find? name (.next (escape (Bytes.ofString key)) value tail) =
      if key = name then some value else tail.find? name := by
  simp only [Members.find?, decode?_escape, Option.some.injEq]

theorem checkMembers_read {field : Field}
    (found : shape.fields.find? (fun field => field.name == key) = some field)
    (once : seen.contains key = false) (accepted : field.accepts value = .ok ()) :
    shape.checkMembers seen (.next (escape (Bytes.ofString key)) value tail) =
      shape.checkMembers (key :: seen) tail := by
  simp only [Shape.checkMembers, decode?_escape, found, once, accepted, Bool.false_eq_true, if_false]
  rfl

theorem checkMembers_unread (absent : shape.fields.find? (fun field => field.name == key) = none)
    (passed : shape.others value = .ok ()) :
    shape.checkMembers seen (.next (escape (Bytes.ofString key)) value tail) =
      shape.checkMembers seen tail := by
  simp only [Shape.checkMembers, decode?_escape, absent, passed]
  rfl

end SingleSignOn.Json
