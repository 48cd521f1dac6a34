import SingleSignOn.Text.Decimal

namespace SingleSignOn.Decimal

/-!
# What is written in decimal reads back

The notation of a number is read back as this number.  The canonical reader
refuses a zero in front of other digits, so the main fact about the notation
is how it begins.
-/

theorem value_append_digit (written : List (Fin 10)) (last : Fin 10) :
    value (written ++ [last]) = value written * 10 + last.val := by
  simp only [value, List.foldl_append, List.foldl_cons, List.foldl_nil]

theorem value_digits (number : Nat) : value (digits number) = number := by
  fun_induction digits number with
  | case1 number small => simp [value]
  | case2 number large hypothesis =>
    rw [value_append_digit, hypothesis]
    exact Nat.div_add_mod' number 10

theorem digits_ne_nil (number : Nat) : digits number ≠ [] := by
  unfold digits
  split <;> simp

theorem head_digits_ne_zero (number : Nat) (positive : 0 < number) : (digits number).head? ≠ some 0 := by
  fun_induction digits number with
  | case1 number small =>
    simp only [List.head?_cons, ne_eq, Option.some.injEq, Fin.ext_iff]
    exact Nat.ne_of_gt positive
  | case2 number large hypothesis =>
    obtain ⟨first, rest, shown⟩ := List.exists_cons_of_ne_nil (digits_ne_nil (number / 10))
    rw [shown] at hypothesis ⊢
    exact hypothesis (by omega)

theorem ofChar?_toChar (digit : Fin 10) : ofChar? (toChar digit) = some digit := by
  revert digit
  decide

theorem mapM_ofChar?_toChar (written : List (Fin 10)) :
    (written.map toChar).mapM ofChar? = some written := by
  induction written with
  | nil => rfl
  | cons head tail hypothesis =>
    simp only [List.map_cons, List.mapM_cons, ofChar?_toChar, hypothesis]
    rfl

theorem read?_text (number : Nat) : read? (text number) = some number := by
  have nonempty : ((digits number).map toChar).isEmpty = false := by
    simp [digits_ne_nil]
  simp only [read?, text, nonempty, mapM_ofChar?_toChar, Option.map_some, value_digits, Bool.false_eq_true, if_false]

/-- The notation of a number begins with a digit, and with zero only if it is that alone. -/
theorem text_eq_cons (number : Nat) :
    ∃ first rest, text number = toChar first :: rest ∧ (first = 0 → rest = []) := by
  cases shown : digits number with
  | nil => exact absurd shown (digits_ne_nil number)
  | cons first others =>
    refine ⟨first, others.map toChar, by rw [text, shown, List.map_cons], fun zero => ?_⟩
    have none : number = 0 := by
      apply Decidable.byContradiction
      intro positive
      apply head_digits_ne_zero number (Nat.pos_of_ne_zero positive)
      rw [shown, zero, List.head?_cons]
    have alone : digits 0 = [0] := by
      unfold digits
      rfl
    rw [none, alone] at shown
    rw [← (List.cons.inj shown).2, List.map_nil]

/-- The notation of a number below ten, a hundred and so on has at most so many digits. -/
theorem length_text_le (places number : Nat) (small : number < Nat.pow 10 (places + 1)) :
    (text number).length ≤ places + 1 := by
  rw [text, List.length_map]
  induction places generalizing number with
  | zero =>
    have single : number < 10 := small
    rw [digits, dif_pos single]
    exact Nat.le_refl 1
  | succ places hypothesis =>
    rw [digits]
    split
    · exact Nat.le_add_left 1 _
    · have fewer : number / 10 < Nat.pow 10 (places + 1) := (Nat.div_lt_iff_lt_mul (by decide)).mpr small
      rw [List.length_append]
      exact Nat.add_le_add_right (hypothesis (number / 10) fewer) 1

theorem forall_mem_text {holds : Char -> Prop} (digits : ∀ digit, holds (toChar digit)) (number : Nat) :
    ∀ char ∈ text number, holds char := by
  rw [text, List.forall_mem_map]
  exact fun digit _ => digits digit

theorem toChar_eq_zero (digit : Fin 10) (zero : toChar digit = '0') : digit = 0 := by
  revert digit
  decide

theorem readCanonical?_text (number : Nat) : readCanonical? (text number) = some number := by
  obtain ⟨first, rest, shown, alone⟩ := text_eq_cons number
  have same : readCanonical? (text number) = read? (text number) := by
    unfold readCanonical?
    split
    case h_1 second others leading =>
      rw [shown] at leading
      have ends := List.cons.inj leading
      rw [alone (toChar_eq_zero first ends.1)] at ends
      cases ends.2
    case h_2 => rfl
  rw [same, read?_text]

end SingleSignOn.Decimal
