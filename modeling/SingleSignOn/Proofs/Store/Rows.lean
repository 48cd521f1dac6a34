import Mathlib.Data.List.Sort
import SingleSignOn.Proofs.Store.Indexing

namespace SingleSignOn

/-!
# Lists of rows that hold the records of a table

A table answers by key, a list is looked through.  Where the rows of a list
are the entries of a table, each change of the one has its counterpart in
the other: a record that is added, changed or removed.  With the rows in the
order of their ids the list is determined by the table.
-/

/-- A search that only one entry fits finds it. -/
theorem find?_eq_some_of_unique {α : Type} {entries : List α} {fits : α -> Bool} {entry : α}
    (member : entry ∈ entries) (fit : fits entry = true)
    (unique : ∀ other ∈ entries, fits other = true -> other = entry) :
    entries.find? fits = some entry := by
  cases found : entries.find? fits with
  | none => exact absurd fit (List.find?_eq_none.mp found entry member)
  | some other => rw [unique other (List.mem_of_find?_eq_some found) (List.find?_some found)]

/-- Where no two entries fit, a search finds whatever fits. -/
theorem find?_eq_some_iff_of_unique {α : Type} {entries : List α} {fits : α -> Bool}
    (unique : ∀ entry ∈ entries, ∀ other ∈ entries, fits entry = true -> fits other = true -> other = entry)
    (entry : α) : entries.find? fits = some entry ↔ entry ∈ entries ∧ fits entry = true := by
  constructor
  · intro found
    exact ⟨List.mem_of_find?_eq_some found, List.find?_some found⟩
  · rintro ⟨member, fit⟩
    exact find?_eq_some_of_unique member fit fun other here fits => unique entry member other here fit fits

/-- Lists in the order of a number that have the same entries are equal. -/
theorem eq_of_increasing {α : Type} (number : α -> Int) {first second : List α}
    (ordered : first.Pairwise fun before after => number before < number after)
    (alike : second.Pairwise fun before after => number before < number after)
    (same : forall entry, entry ∈ first ↔ entry ∈ second) : first = second := by
  have irreflexive : Std.Irrefl fun before after : α => number before < number after :=
    ⟨fun entry => Int.lt_irrefl (number entry)⟩
  have antisymmetric : Std.Antisymm fun before after : α => number before < number after :=
    ⟨fun _ _ less greater => absurd (Int.lt_trans less greater) (Int.lt_irrefl _)⟩
  exact ordered.eq_of_mem_iff alike same

/-- What is looked up among the rows whose keys are kept. -/
theorem lookup_filter {Key Value : Type} [BEq Key] [LawfulBEq Key] (keep : Key -> Bool) (key : Key)
    (rows : List (Key × Value)) :
    (rows.filter fun row => keep row.1).lookup key = if keep key then rows.lookup key else none := by
  induction rows with
  | nil => exact (ite_self none).symm
  | cons row rows hypothesis =>
    rcases row with ⟨other, value⟩
    rw [List.filter_cons, List.lookup_cons]
    by_cases same : key = other
    · subst same
      by_cases kept : keep key = true
      · rw [if_pos kept, if_pos kept, List.lookup_cons, beq_self_eq_true]
      · rw [if_neg kept, if_neg kept, hypothesis, if_neg kept]
    · have different : (key == other) = false := beq_eq_false_iff_ne.mpr same
      by_cases kept : keep other = true
      · rw [if_pos kept, List.lookup_cons, different, hypothesis]
      · rw [if_neg kept, different, hypothesis]

/-! ## Rows and entries -/

/-- The rows are the records of a table. -/
def Lists {Key Row : Type} [Ord Key] [Std.TransOrd Key] (keyOf : Row -> Key) (rows : List Row)
    (table : Table Key Row) : Prop :=
  forall row, row ∈ rows ↔ table[keyOf row]? = some row

namespace Lists

variable {Key Row : Type} [Ord Key] [Std.TransOrd Key] [Std.LawfulEqOrd Key] [DecidableEq Key]
  {keyOf : Row -> Key} {rows : List Row} {table : Table Key Row} (lists : Lists keyOf rows table)

omit [Std.LawfulEqOrd Key] [DecidableEq Key] in
theorem empty : Lists keyOf [] (∅ : Table Key Row) := by
  intro row
  refine iff_of_false List.not_mem_nil fun found => ?_
  cases found

include lists

theorem insert {row : Row} {more : List Row} (absent : table[keyOf row]? = none)
    (added : forall other, other ∈ more ↔ other = row ∨ other ∈ rows) :
    Lists keyOf more (table.insert (keyOf row) row) := by
  intro other
  rw [added other, lists other, Table.getElem?_insert]
  by_cases same : keyOf row = keyOf other
  · rw [if_pos same, ← same, absent]
    simp only [reduceCtorEq, or_false, Option.some.injEq, eq_comm]
  · rw [if_neg same]
    have different : other ≠ row := fun equal => same (congrArg keyOf equal.symm)
    simp only [different, false_or]

theorem replace (filed : FiledBy keyOf table) {key : Key} {old : Row} (stored : table[key]? = some old)
    (change : Row -> Row) (keeps : keyOf (change old) = key) :
    Lists keyOf (rows.map fun row => if keyOf row = key then change row else row)
      (table.insert key (change old)) := by
  have shown : keyOf old = key := filed key old stored
  intro other
  rw [List.mem_map, Table.getElem?_insert]
  constructor
  · rintro ⟨row, listed, changed⟩
    have here := (lists row).mp listed
    by_cases same : keyOf row = key
    · rw [if_pos same] at changed
      subst changed
      rw [same, stored] at here
      cases here
      rw [if_pos keeps.symm]
    · rw [if_neg same] at changed
      subst changed
      rw [if_neg (Ne.symm same)]
      exact here
  · intro here
    by_cases same : key = keyOf other
    · rw [if_pos same] at here
      cases here
      refine ⟨old, (lists old).mpr (shown.symm ▸ stored), ?_⟩
      rw [if_pos shown]
    · rw [if_neg same] at here
      refine ⟨other, (lists other).mpr here, ?_⟩
      rw [if_neg (Ne.symm same)]

theorem erase (key : Key) : Lists keyOf (rows.filter fun row => keyOf row ≠ key) (table.erase key) := by
  intro other
  rw [List.mem_filter, lists other, Table.getElem?_erase]
  by_cases same : key = keyOf other
  · rw [if_pos same]
    simp only [same, ne_eq, not_true_eq_false, decide_false, Bool.false_eq_true, and_false, reduceCtorEq]
  · rw [if_neg same]
    simp only [ne_eq, Ne.symm same, not_false_iff, decide_true, and_true]

omit [Std.LawfulEqOrd Key] in
/-- Looking through the rows for a key is looking it up. -/
theorem find?_eq (filed : FiledBy keyOf table) (key : Key) :
    rows.find? (fun row => keyOf row = key) = table[key]? := by
  refine Option.ext fun row => ?_
  have unique : ∀ row ∈ rows, ∀ other ∈ rows, decide (keyOf row = key) = true ->
      decide (keyOf other = key) = true -> other = row := by
    intro row listed other there shows alike
    have found := (lists row).mp listed
    have stored := (lists other).mp there
    rw [of_decide_eq_true shows] at found
    rw [of_decide_eq_true alike, found] at stored
    exact (Option.some.inj stored).symm
  rw [find?_eq_some_iff_of_unique unique, lists row, decide_eq_true_eq]
  constructor
  · rintro ⟨found, same⟩
    exact same ▸ found
  · intro found
    have shown := filed key row found
    exact ⟨shown.symm ▸ found, shown⟩

end Lists

section

variable {Id Key Row : Type} [Ord Id] [Std.TransOrd Id] [Ord Key] [Std.TransOrd Key] [DecidableEq Key]
  {idOf : Row -> Id} {keyOf : Row -> Key} {rows : List Row} {table : Table Id Row} {index : Table Key Id}
  (lists : Lists idOf rows table) (filed : FiledBy idOf table) (indexed : IndexedBy keyOf table index)
include lists filed indexed

/-- Some row shows a key if and only if the index has an entry for it. -/
theorem any_keyOf_iff (key : Key) :
    (rows.any fun row => keyOf row = key) = true ↔ index.contains key = true := by
  rw [List.any_eq_true, Std.ExtTreeMap.contains_eq_isSome_getElem?, Option.isSome_iff_exists]
  constructor
  · rintro ⟨row, listed, shows⟩
    exact ⟨idOf row, (indexed key (idOf row)).mpr ⟨row, (lists row).mp listed, of_decide_eq_true shows⟩⟩
  · rintro ⟨id, entered⟩
    rcases (indexed key id).mp entered with ⟨row, stored, shows⟩
    have same := filed id row stored
    exact ⟨row, (lists row).mpr (same.symm ▸ stored), decide_eq_true shows⟩

/-- Another row shows the key that a row is to take if and only if the key is
a new one and the index has an entry for it. -/
theorem any_other_iff [DecidableEq Id] {id : Id} {current : Row} (stored : table[id]? = some current)
    (change : Option Key) :
    (rows.any fun other => idOf other ≠ id ∧ change = some (keyOf other)) = true ↔
      change.getD (keyOf current) ≠ keyOf current ∧
        index.contains (change.getD (keyOf current)) = true := by
  have anyone := any_keyOf_iff lists filed indexed
  cases change with
  | none => simp
  | some key =>
    rw [← anyone, List.any_eq_true, List.any_eq_true]
    simp only [Option.getD_some, decide_eq_true_eq, Option.some.injEq]
    constructor
    · rintro ⟨row, listed, other, shows⟩
      refine ⟨fun same => other ?_, row, listed, shows.symm⟩
      exact indexed.eq_of_keyOf_eq ((lists row).mp listed) stored (shows.symm.trans same)
    · rintro ⟨different, row, listed, shows⟩
      refine ⟨row, listed, fun same => different ?_, shows.symm⟩
      have found := (lists row).mp listed
      rw [same, stored] at found
      cases found
      exact shows.symm

end

/-- The rows are the records of a table, by increasing id. -/
structure ListsInOrder {Row : Type} (idOf : Row -> Int) (rows : List Row) (table : Table Int Row) : Prop where
  lists : Lists idOf rows table
  increasing : rows.Pairwise fun before after => idOf before < idOf after

namespace ListsInOrder

variable {Row : Type} {idOf : Row -> Int} {rows : List Row} {table : Table Int Row}
  (ordered : ListsInOrder idOf rows table)

theorem empty : ListsInOrder idOf [] (∅ : Table Int Row) :=
  ⟨.empty, .nil⟩

include ordered

/-- The next record comes last. -/
theorem append {count : Nat} (numbered : NumberedUpTo count table) {row : Row}
    (next : idOf row = count + 1) : ListsInOrder idOf (rows ++ [row]) (table.insert (idOf row) row) := by
  refine ⟨ordered.lists.insert ?_ fun other => ?_, ?_⟩
  · rw [next]
    exact numbered.getElem?_next
  · rw [List.mem_append, List.mem_singleton, or_comm]
  · refine List.pairwise_append.mpr ⟨ordered.increasing, List.pairwise_singleton _ _, ?_⟩
    intro before listed last same
    rw [List.mem_singleton.mp same, next]
    have bounded := numbered _ before ((ordered.lists before).mp listed)
    omega

theorem replace (filed : FiledBy idOf table) {id : Int} {old : Row} (stored : table[id]? = some old)
    (change : Row -> Row) (keeps : forall row, idOf row = id -> idOf (change row) = id) :
    ListsInOrder idOf (rows.map fun row => if idOf row = id then change row else row)
      (table.insert id (change old)) := by
  have same : forall row, idOf (if idOf row = id then change row else row) = idOf row := by
    intro row
    split
    · next here => exact (keeps row here).trans here.symm
    · rfl
  refine ⟨ordered.lists.replace filed stored change (keeps old (filed id old stored)), List.pairwise_map.mpr ?_⟩
  simp only [same]
  exact ordered.increasing

theorem erase (id : Int) : ListsInOrder idOf (rows.filter fun row => idOf row ≠ id) (table.erase id) :=
  ⟨ordered.lists.erase id, ordered.increasing.filter _⟩

/-- The records in the order of the table are the rows. -/
theorem toList_eq (filed : FiledBy idOf table) : table.toList.map (·.2) = rows := by
  have entry : forall id row, (id, row) ∈ table.toList ↔ table[id]? = some row :=
    fun _ _ => Std.ExtTreeMap.mem_toList_iff_getElem?_eq_some
  refine eq_of_increasing idOf ?_ ordered.increasing fun row => ?_
  · refine List.pairwise_map.mpr (Std.ExtTreeMap.ordered_keys_toList.imp_of_mem ?_)
    rintro ⟨id, row⟩ ⟨other, later⟩ first second less
    rw [filed id row ((entry id row).mp first), filed other later ((entry other later).mp second)]
    exact compare_lt_iff_lt.mp less
  · rw [ordered.lists row, List.mem_map]
    constructor
    · rintro ⟨⟨id, found⟩, listed, rfl⟩
      have stored := (entry id found).mp listed
      exact (filed id found stored).symm ▸ stored
    · intro stored
      exact ⟨(idOf row, row), (entry (idOf row) row).mpr stored, rfl⟩

end ListsInOrder

end SingleSignOn
