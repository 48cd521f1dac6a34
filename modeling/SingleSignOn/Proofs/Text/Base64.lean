import SingleSignOn.Text.Base64

namespace SingleSignOn.Base64

/-!
# Base64 texts and byte strings correspond

Main statement: a text is read as a byte string exactly if it is the written
form of this byte string.  One half holds because each digit has its own
value, the other because unused bits of a last digit are refused.
-/

namespace Alphabet

/-- Every value below sixty-four is read back from its digit. -/
def IsFaithful (alphabet : Alphabet) : Prop :=
  ∀ value, value < 64 → alphabet.value? (alphabet.digit value) = some value

instance (alphabet : Alphabet) : Decidable alphabet.IsFaithful :=
  inferInstanceAs (Decidable (∀ value, value < 64 → _))

end Alphabet

theorem urlSafe_isFaithful : urlSafe.IsFaithful := by
  decide

theorem standard_isFaithful : standard.IsFaithful := by
  decide

theorem toUInt8_eq (byte : UInt8) (number : Nat) (same : number = byte.toNat) : number.toUInt8 = byte := by
  rw [same]
  exact UInt8.ofNat_toNat

theorem decode?_encode (alphabet : Alphabet) (faithful : alphabet.IsFaithful) (bytes : Bytes) :
    decode? alphabet (encode alphabet bytes) = some bytes := by
  fun_induction encode alphabet bytes with
  | case1 first second third rest group hypothesis =>
    have firstBound : first.toNat < 256 := first.toNat_lt
    have secondBound : second.toNat < 256 := second.toNat_lt
    have thirdBound : third.toNat < 256 := third.toNat_lt
    have size : group = first.toNat * 65536 + second.toNat * 256 + third.toNat := rfl
    clear_value group
    have whole : group / 262144 * 262144 + group / 4096 % 64 * 4096 + group / 64 % 64 * 64 + group % 64 = group := by
      omega
    simp only [decode?, faithful (group / 262144) (by omega), faithful (group / 4096 % 64) (by omega),
      faithful (group / 64 % 64) (by omega), faithful (group % 64) (by omega), hypothesis,
      Option.bind_eq_bind, Option.bind_some, Option.pure_def, whole,
      toUInt8_eq first (group / 65536) (by omega), toUInt8_eq second (group / 256 % 256) (by omega),
      toUInt8_eq third (group % 256) (by omega)]
  | case2 first second group =>
    have firstBound : first.toNat < 256 := first.toNat_lt
    have secondBound : second.toNat < 256 := second.toNat_lt
    have size : group = first.toNat * 1024 + second.toNat * 4 := rfl
    clear_value group
    have whole : group / 4096 * 4096 + group / 64 % 64 * 64 + group % 64 = group := by
      omega
    have unused : group % 4 = 0 := by
      omega
    simp only [decode?, faithful (group / 4096) (by omega), faithful (group / 64 % 64) (by omega),
      faithful (group % 64) (by omega), Option.bind_eq_bind, Option.bind_some, whole, if_pos unused,
      toUInt8_eq first (group / 1024) (by omega), toUInt8_eq second (group / 4 % 256) (by omega)]
  | case3 first group =>
    have firstBound : first.toNat < 256 := first.toNat_lt
    have size : group = first.toNat * 16 := rfl
    clear_value group
    have whole : group / 64 * 64 + group % 64 = group := by
      omega
    have unused : group % 16 = 0 := by
      omega
    simp only [decode?, faithful (group / 64) (by omega), faithful (group % 64) (by omega),
      Option.bind_eq_bind, Option.bind_some, whole, if_pos unused, toUInt8_eq first (group / 16) (by omega)]
  | case4 => rfl

/-- Written forms consist of digits of values below sixty-four. -/
theorem forall_mem_encode {alphabet : Alphabet} {holds : Char -> Prop}
    (digits : ∀ value, value < 64 -> holds (alphabet.digit value)) (bytes : Bytes) :
    ∀ char ∈ encode alphabet bytes, holds char := by
  fun_induction encode alphabet bytes with
  | case1 first second third rest group hypothesis =>
    have bound : group / 262144 < 64 := by
      have size : group = first.toNat * 65536 + second.toNat * 256 + third.toNat := rfl
      have firstBound : first.toNat < 256 := first.toNat_lt
      have secondBound : second.toNat < 256 := second.toNat_lt
      have thirdBound : third.toNat < 256 := third.toNat_lt
      clear_value group
      omega
    simp only [List.forall_mem_cons]
    exact ⟨digits _ bound, digits _ (Nat.mod_lt _ (by decide)), digits _ (Nat.mod_lt _ (by decide)),
      digits _ (Nat.mod_lt _ (by decide)), hypothesis⟩
  | case2 first second group =>
    have bound : group / 4096 < 64 := by
      have size : group = first.toNat * 1024 + second.toNat * 4 := rfl
      have firstBound : first.toNat < 256 := first.toNat_lt
      have secondBound : second.toNat < 256 := second.toNat_lt
      clear_value group
      omega
    simp only [List.forall_mem_cons]
    exact ⟨digits _ bound, digits _ (Nat.mod_lt _ (by decide)), digits _ (Nat.mod_lt _ (by decide)),
      List.forall_mem_nil _⟩
  | case3 first group =>
    have bound : group / 64 < 64 := by
      have size : group = first.toNat * 16 := rfl
      have firstBound : first.toNat < 256 := first.toNat_lt
      clear_value group
      omega
    simp only [List.forall_mem_cons]
    exact ⟨digits _ bound, digits _ (Nat.mod_lt _ (by decide)), List.forall_mem_nil _⟩
  | case4 => exact List.forall_mem_nil _

/-- A character that is no digit stands in no written form. -/
theorem not_mem_encode (alphabet : Alphabet) (faithful : alphabet.IsFaithful) (char : Char)
    (foreign : alphabet.value? char = none) (bytes : Bytes) : char ∉ encode alphabet bytes := by
  intro member
  have read : ∀ char ∈ encode alphabet bytes, ∃ value, alphabet.value? char = some value :=
    forall_mem_encode (fun value small => ⟨value, faithful value small⟩) bytes
  obtain ⟨value, shown⟩ := read char member
  rw [foreign] at shown
  cases shown

/-- Three bytes take four digits, and what is left takes one digit more than it has bytes. -/
theorem length_encode (alphabet : Alphabet) (bytes : Bytes) :
    (encode alphabet bytes).length = (bytes.length * 4 + 2) / 3 := by
  fun_induction encode alphabet bytes with
  | case1 first second third rest group hypothesis =>
    simp only [List.length_cons, hypothesis]
    omega
  | case2 first second group => simp only [List.length_cons, List.length_nil]
  | case3 first group => simp only [List.length_cons, List.length_nil]
  | case4 => simp only [List.length_nil]

theorem digit_of_value? (alphabet : Alphabet) (char : Char) (value : Nat)
    (shown : alphabet.value? char = some value) : value < 64 ∧ alphabet.digit value = char := by
  simp only [Alphabet.value?] at shown
  split at shown
  case isTrue upper =>
    cases shown
    have same : 65 + (char.toNat - 65) = char.toNat := by
      omega
    simp only [Alphabet.digit, if_pos (show char.toNat - 65 < 26 by omega), same, Char.ofNat_toNat]
    exact ⟨by omega, trivial⟩
  case isFalse notUpper =>
    split at shown
    case isTrue lower =>
      cases shown
      have same : 71 + (char.toNat - 71) = char.toNat := by
        omega
      simp only [Alphabet.digit, if_neg (show ¬char.toNat - 71 < 26 by omega),
        if_pos (show char.toNat - 71 < 52 by omega), same, Char.ofNat_toNat]
      exact ⟨by omega, trivial⟩
    case isFalse notLower =>
      split at shown
      case isTrue decimal =>
        cases shown
        have same : char.toNat + 4 - 4 = char.toNat := by
          omega
        simp only [Alphabet.digit, if_neg (show ¬char.toNat + 4 < 26 by omega),
          if_neg (show ¬char.toNat + 4 < 52 by omega), if_pos (show char.toNat + 4 < 62 by omega), same,
          Char.ofNat_toNat]
        exact ⟨by omega, trivial⟩
      case isFalse notDecimal =>
        split at shown
        case isTrue first =>
          cases shown
          exact ⟨by decide, first.symm⟩
        case isFalse notFirst =>
          split at shown
          case isTrue second =>
            cases shown
            exact ⟨by decide, second.symm⟩
          case isFalse notSecond => cases shown

theorem toNat_toUInt8 (number : Nat) (small : number < 256) : number.toUInt8.toNat = number :=
  Nat.mod_eq_of_lt small

theorem regroup_three (group : Nat) : group / 65536 * 65536 + group / 256 % 256 * 256 + group % 256 = group := by
  omega

theorem regroup_two (group : Nat) (unused : group % 4 = 0) : group / 1024 * 1024 + group / 4 % 256 * 4 = group := by
  omega

theorem eq_encode_of_decode? (alphabet : Alphabet) (text : List Char) (bytes : Bytes)
    (read : decode? alphabet text = some bytes) : text = encode alphabet bytes := by
  fun_induction decode? alphabet text generalizing bytes with
  | case1 first second third fourth rest hypothesis =>
    simp only [Option.bind_eq_bind, Option.bind_eq_some_iff, Option.pure_def, Option.some.injEq] at read
    obtain ⟨one, oneShown, two, twoShown, three, threeShown, four, fourShown, others, othersRead, same⟩ := read
    obtain ⟨oneSmall, oneDigit⟩ := digit_of_value? alphabet first one oneShown
    obtain ⟨twoSmall, twoDigit⟩ := digit_of_value? alphabet second two twoShown
    obtain ⟨threeSmall, threeDigit⟩ := digit_of_value? alphabet third three threeShown
    obtain ⟨fourSmall, fourDigit⟩ := digit_of_value? alphabet fourth four fourShown
    subst same
    generalize size : one * 262144 + two * 4096 + three * 64 + four = group
    have bound : group / 65536 < 256 := by
      omega
    have whole : (group / 65536).toUInt8.toNat * 65536 + (group / 256 % 256).toUInt8.toNat * 256 +
        (group % 256).toUInt8.toNat = group := by
      rw [toNat_toUInt8 _ bound, toNat_toUInt8 _ (Nat.mod_lt _ (by decide)), toNat_toUInt8 _ (Nat.mod_lt _ (by decide))]
      exact regroup_three group
    simp only [encode, whole, ← hypothesis others othersRead]
    rw [show group / 262144 = one by omega, show group / 4096 % 64 = two by omega,
      show group / 64 % 64 = three by omega, show group % 64 = four by omega, oneDigit, twoDigit, threeDigit,
      fourDigit]
  | case2 first second third =>
    simp only [Option.bind_eq_bind, Option.bind_eq_some_iff] at read
    obtain ⟨one, oneShown, two, twoShown, three, threeShown, result⟩ := read
    obtain ⟨oneSmall, oneDigit⟩ := digit_of_value? alphabet first one oneShown
    obtain ⟨twoSmall, twoDigit⟩ := digit_of_value? alphabet second two twoShown
    obtain ⟨threeSmall, threeDigit⟩ := digit_of_value? alphabet third three threeShown
    generalize size : one * 4096 + two * 64 + three = group at result
    split at result
    case isFalse used => cases result
    case isTrue unused =>
      cases result
      have bound : group / 1024 < 256 := by
        omega
      have whole : (group / 1024).toUInt8.toNat * 1024 + (group / 4 % 256).toUInt8.toNat * 4 = group := by
        rw [toNat_toUInt8 _ bound, toNat_toUInt8 _ (Nat.mod_lt _ (by decide))]
        exact regroup_two group unused
      simp only [encode, whole]
      rw [show group / 4096 = one by omega, show group / 64 % 64 = two by omega,
        show group % 64 = three by omega, oneDigit, twoDigit, threeDigit]
  | case3 first second =>
    simp only [Option.bind_eq_bind, Option.bind_eq_some_iff] at read
    obtain ⟨one, oneShown, two, twoShown, result⟩ := read
    obtain ⟨oneSmall, oneDigit⟩ := digit_of_value? alphabet first one oneShown
    obtain ⟨twoSmall, twoDigit⟩ := digit_of_value? alphabet second two twoShown
    generalize size : one * 64 + two = group at result
    split at result
    case isFalse used => cases result
    case isTrue unused =>
      cases result
      have whole : (group / 16).toUInt8.toNat * 16 = group := by
        rw [toNat_toUInt8 _ (by omega)]
        omega
      simp only [encode, whole]
      rw [show group / 64 = one by omega, show group % 64 = two by omega, oneDigit, twoDigit]
  | case4 => cases read
  | case5 =>
    cases read
    rfl

/-- A byte string has exactly one written form. -/
theorem decode?_eq_some_iff (alphabet : Alphabet) (faithful : alphabet.IsFaithful) (text : List Char)
    (bytes : Bytes) : decode? alphabet text = some bytes ↔ text = encode alphabet bytes := by
  constructor
  · exact eq_encode_of_decode? alphabet text bytes
  · intro same
    rw [same, decode?_encode alphabet faithful]

end SingleSignOn.Base64
