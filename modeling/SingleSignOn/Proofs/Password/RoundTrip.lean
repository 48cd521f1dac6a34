import SingleSignOn.Proofs.Text.Base64
import SingleSignOn.Proofs.Text.Decimal
import SingleSignOn.Service.Basic

namespace SingleSignOn

/-!
# A stored password hash tells how it was made

The text that is stored for a password is read back as the fields from which
it was written, and these describe the run of Argon2 that gave the hash.  So
whoever checks a password against it repeats that run, whatever costs new
hashes are made under.
-/

namespace Password

/-! ## Parts between marks -/

section

variable {mark : Char} {part : List Char}

theorem splitOn_ne_nil (mark : Char) (text : List Char) : splitOn mark text ≠ [] := by
  cases text with
  | nil => exact List.cons_ne_nil _ _
  | cons char rest =>
    rw [splitOn]
    split
    · exact List.cons_ne_nil _ _
    · split <;> exact List.cons_ne_nil _ _

theorem splitOn_of_not_mem (clean : mark ∉ part) : splitOn mark part = [part] := by
  induction part with
  | nil => rfl
  | cons char rest hypothesis =>
    rw [List.mem_cons, not_or] at clean
    rw [splitOn, hypothesis clean.2]
    exact if_neg (Ne.symm clean.1)

theorem splitOn_append (clean : mark ∉ part) (rest : List Char) :
    splitOn mark (part ++ mark :: rest) = part :: splitOn mark rest := by
  induction part with
  | nil =>
    obtain ⟨first, others, shown⟩ := List.exists_cons_of_ne_nil (splitOn_ne_nil mark rest)
    rw [List.nil_append, splitOn, shown]
    exact if_pos rfl
  | cons char part hypothesis =>
    rw [List.mem_cons, not_or] at clean
    rw [List.cons_append, splitOn, hypothesis clean.2]
    exact if_neg (Ne.symm clean.1)

/-- Parts are read back if the mark between them is in none of them. -/
theorem splitOn_joinWith {parts : List (List Char)} (nonempty : parts ≠ [])
    (clean : ∀ part ∈ parts, mark ∉ part) : splitOn mark (joinWith mark parts) = parts := by
  fun_induction joinWith mark parts with
  | case1 => exact absurd rfl nonempty
  | case2 part => exact splitOn_of_not_mem (clean part List.mem_cons_self)
  | case3 part others several hypothesis =>
    rw [splitOn_append (clean part List.mem_cons_self), hypothesis several
      fun other member => clean other (List.mem_cons_of_mem part member)]

/-- What stands between the marks stands in one of the parts. -/
theorem forall_mem_joinWith {holds : Char -> Prop} {parts : List (List Char)} (atMark : holds mark)
    (inside : ∀ part ∈ parts, ∀ char ∈ part, holds char) : ∀ char ∈ joinWith mark parts, holds char := by
  fun_induction joinWith mark parts with
  | case1 => exact List.forall_mem_nil _
  | case2 part => exact inside part List.mem_cons_self
  | case3 part others several hypothesis =>
    rw [List.forall_mem_append, List.forall_mem_cons]
    exact ⟨inside part List.mem_cons_self, atMark,
      hypothesis fun other member => inside other (List.mem_cons_of_mem part member)⟩

end

/-! ## Single fields -/

/-- No mark of the notation stands in a value. -/
theorem not_mem_of_isValue {value : List Char} (valid : isValue value = true) {mark : Char}
    (foreign : isValue [mark] = false) : mark ∉ value := by
  intro member
  simp only [isValue, Bool.and_eq_true, List.all_eq_true] at valid
  simp only [isValue, List.all_cons, List.all_nil, Bool.and_true, List.length_singleton,
    Bool.and_eq_false_iff, decide_eq_false_iff_not] at foreign
  rcases foreign with long | excluded
  · exact long (by decide)
  · rw [valid.2 mark member] at excluded
    cases excluded

theorem not_mem_of_isName {name : List Char} (valid : isName name = true) {mark : Char}
    (foreign : isName [mark] = false) : mark ∉ name := by
  intro member
  simp only [isName, Bool.and_eq_true, List.all_eq_true] at valid
  simp only [isName, List.all_cons, List.all_nil, Bool.and_true, List.length_singleton,
    Bool.and_eq_false_iff, decide_eq_false_iff_not] at foreign
  rcases foreign with long | excluded
  · rcases long with long | long <;> exact long (by decide)
  · rw [valid.2 mark member] at excluded
    cases excluded

/-- A 32-bit number has at most ten digits. -/
theorem length_text_le {number : Nat} (small : number ≤ uint32Max) : (Decimal.text number).length ≤ 10 :=
  Decimal.length_text_le 9 number (Nat.lt_of_le_of_lt small (by decide))

theorem isValue_text {number : Nat} (small : number ≤ uint32Max) : isValue (Decimal.text number) = true := by
  rw [isValue, Bool.and_eq_true, List.all_eq_true, decide_eq_true_eq]
  exact ⟨Nat.le_trans (length_text_le small) (by decide), Decimal.forall_mem_text (by decide) number⟩

theorem numberOf?_text {number : Nat} (small : number ≤ uint32Max) :
    numberOf? (Decimal.text number) = some number := by
  rw [numberOf?, Decimal.readCanonical?_text]
  exact Option.filter_some_pos (decide_eq_true small)

theorem isValue_encode {bytes : Bytes} (short : bytes.length ≤ 48) :
    isValue (Base64.encode Base64.standard bytes) = true := by
  rw [isValue, Bool.and_eq_true, List.all_eq_true, decide_eq_true_eq, Base64.length_encode]
  exact ⟨by omega, Base64.forall_mem_encode (by decide) bytes⟩

theorem versionOf?_text {number : Nat} (small : number ≤ uint32Max) :
    versionOf? ('v' :: '=' :: Decimal.text number) = some (Decimal.text number) := by
  have clean : ',' ∉ Decimal.text number := not_mem_of_isValue (isValue_text small) (by decide)
  refine if_neg ?_
  rw [List.contains_iff_mem, List.mem_cons, List.mem_cons]
  rintro (same | same | member)
  · cases same
  · cases same
  · exact clean member

/-- A parameter as it is written. -/
def parameterText (parameter : List Char × List Char) : List Char :=
  parameter.1 ++ '=' :: parameter.2

/-- Whether a parameter is one that the notation allows. -/
def IsParameter (parameter : List Char × List Char) : Prop :=
  isName parameter.1 = true ∧ isValue parameter.2 = true

theorem isParameter_text {name : List Char} (named : isName name = true) {number : Nat}
    (small : number ≤ uint32Max) : IsParameter (name, Decimal.text number) :=
  ⟨named, isValue_text small⟩

theorem parameterOf?_text {parameter : List Char × List Char} (valid : IsParameter parameter) :
    parameterOf? (parameterText parameter) = some parameter := by
  rw [parameterOf?, parameterText, splitOn_append (not_mem_of_isName valid.1 (by decide)),
    splitOn_of_not_mem (not_mem_of_isValue valid.2 (by decide))]
  refine if_pos ?_
  rw [valid.1, valid.2]
  rfl

theorem not_mem_parameterText {parameter : List Char × List Char} (valid : IsParameter parameter)
    {mark : Char} (unnamed : isName [mark] = false) (foreign : isValue [mark] = false) (other : mark ≠ '=') :
    mark ∉ parameterText parameter := by
  rw [parameterText, List.mem_append, List.mem_cons]
  rintro (member | same | member)
  · exact not_mem_of_isName valid.1 unnamed member
  · exact other same
  · exact not_mem_of_isValue valid.2 foreign member

theorem mapM_parameterOf?_text {parameters : List (List Char × List Char)}
    (valid : ∀ parameter ∈ parameters, IsParameter parameter) :
    (parameters.map parameterText).mapM parameterOf? = some parameters := by
  induction parameters with
  | nil => rfl
  | cons first others hypothesis =>
    rw [List.map_cons, List.mapM_cons, parameterOf?_text (valid first List.mem_cons_self),
      hypothesis fun other member => valid other (List.mem_cons_of_mem first member)]
    rfl

/-- The field of some parameters. -/
def parametersText (parameters : List (List Char × List Char)) : List Char :=
  joinWith ',' (parameters.map parameterText)

section

variable {parameters : List (List Char × List Char)} (valid : ∀ parameter ∈ parameters, IsParameter parameter)

include valid

theorem parametersOf?_text (nonempty : parameters ≠ []) (short : (parametersText parameters).length ≤ 127) :
    parametersOf? (parametersText parameters) = some parameters := by
  refine (if_pos short).trans ?_
  rw [parametersText, splitOn_joinWith (by simpa using nonempty), mapM_parameterOf?_text valid]
  rw [List.forall_mem_map]
  exact fun parameter member => not_mem_parameterText (valid parameter member) (by decide) (by decide) (by decide)

theorem not_mem_parametersText {mark : Char} (unnamed : isName [mark] = false)
    (foreign : isValue [mark] = false) (unequal : mark ≠ '=') (unlisted : mark ≠ ',') :
    mark ∉ parametersText parameters := by
  have others : ∀ char ∈ parametersText parameters, char ≠ mark := by
    refine forall_mem_joinWith unlisted.symm ?_
    rw [List.forall_mem_map]
    exact fun parameter member char inside same =>
      not_mem_parameterText (valid parameter member) unnamed foreign unequal (same ▸ inside)
  exact fun member => others mark member rfl

end

theorem mem_parametersText {parameters : List (List Char × List Char)} (nonempty : parameters ≠ []) :
    '=' ∈ parametersText parameters := by
  obtain ⟨first, others, rfl⟩ := List.exists_cons_of_ne_nil nonempty
  have first_ : '=' ∈ parameterText first := List.mem_append_right _ List.mem_cons_self
  cases others with
  | nil => exact first_
  | cons second others => exact List.mem_append_left _ first_

theorem saltOf?_of_isValue {salt : List Char} (valid : isValue salt = true) (long : 4 ≤ salt.length) :
    saltOf? salt = some salt := by
  have short : salt.length ≤ 64 := by
    rw [isValue, Bool.and_eq_true, decide_eq_true_eq] at valid
    exact valid.1
  refine if_pos ?_
  rw [valid, decide_eq_true long, decide_eq_true short]
  rfl

theorem hashOf?_encode {hash : Bytes} (long : 10 ≤ hash.length) (short : hash.length ≤ 64) :
    hashOf? (Base64.encode Base64.standard hash) = some hash := by
  rw [hashOf?, Base64.decode?_encode _ Base64.standard_isFaithful]
  exact Option.filter_some_pos (decide_eq_true ⟨long, short⟩)

/-! ## The whole text -/

namespace StoredHash

/-- A stored hash that leaves nothing out and keeps to the sizes of the notation. -/
structure IsComplete (stored : StoredHash) (version : Nat) (salt : List Char) (hash : Bytes) : Prop where
  named : isName stored.algorithm = true
  version_eq : stored.version = some version
  version_le : version ≤ uint32Max
  parameters_ne_nil : stored.parameters ≠ []
  isParameter : ∀ parameter ∈ stored.parameters, IsParameter parameter
  length_parameters_le : (parametersText stored.parameters).length ≤ 127
  salt_eq : stored.salt = some salt
  isValue_salt : isValue salt = true
  le_length_salt : 4 ≤ salt.length
  hash_eq : stored.hash = some hash
  le_length_hash : 10 ≤ hash.length
  length_hash_le : hash.length ≤ 64

namespace IsComplete

variable {stored : StoredHash} {version : Nat} {salt : List Char} {hash : Bytes}
  (complete : stored.IsComplete version salt hash)

include complete

/-- The fields that stand between dollar signs. -/
theorem splitOn_text : splitOn '$' stored.text.toList =
    [[], stored.algorithm, 'v' :: '=' :: Decimal.text version, parametersText stored.parameters, salt,
      Base64.encode Base64.standard hash] := by
  have fields : stored.text = String.ofList (joinWith '$'
      [[], stored.algorithm, 'v' :: '=' :: Decimal.text version, parametersText stored.parameters, salt,
        Base64.encode Base64.standard hash]) := by
    have present : stored.parameters.isEmpty = false := List.isEmpty_eq_false_iff.mpr complete.parameters_ne_nil
    simp only [text, complete.version_eq, complete.salt_eq, complete.hash_eq, present, Option.toList_some]
    rfl
  rw [fields, String.toList_ofList]
  refine splitOn_joinWith (List.cons_ne_nil _ _) ?_
  simp only [List.forall_mem_cons]
  refine ⟨List.not_mem_nil, not_mem_of_isName complete.named (by decide), ?_,
    not_mem_parametersText complete.isParameter (by decide) (by decide) (by decide) (by decide),
    not_mem_of_isValue complete.isValue_salt (by decide),
    Base64.not_mem_encode _ Base64.standard_isFaithful _ (by decide) hash, List.forall_mem_nil _⟩
  rw [List.mem_cons, List.mem_cons]
  rintro (same | same | member)
  · cases same
  · cases same
  · exact not_mem_of_isValue (isValue_text complete.version_le) (by decide) member

theorem parse?_text : parse? stored.text = some stored := by
  have listed : (parametersText stored.parameters).contains '=' = true :=
    List.contains_iff_mem.mpr (mem_parametersText complete.parameters_ne_nil)
  rw [parse?, complete.splitOn_text]
  simp only [complete.named, versionOf?_text complete.version_le, isValue_text complete.version_le,
    numberOf?_text complete.version_le, listed,
    parametersOf?_text complete.isParameter complete.parameters_ne_nil complete.length_parameters_le, readField?,
    saltOf?_of_isValue complete.isValue_salt complete.le_length_salt,
    hashOf?_encode complete.le_length_hash complete.length_hash_le, Bool.not_true, Bool.false_eq_true, if_false,
    if_true, Option.map_some, Option.bind_eq_bind, Option.bind_some, List.isEmpty_nil, Option.pure_def]
  rcases stored with ⟨algorithm, _, parameters, _, _⟩
  obtain rfl := complete.version_eq
  obtain rfl := complete.salt_eq
  obtain rfl := complete.hash_eq
  rfl

end IsComplete

end StoredHash

end Password

/-! ## The length of a hash -/

/-- Whether a password hash gives as many bytes as it is asked for. -/
def Primitives.IsSized (primitives : Primitives) : Prop :=
  ∀ request password, request.length ≤ 64 -> (primitives.derive request password).length = request.length

namespace Digest

theorem Blake2b.length_absorb (blocks counter : Nat) (chain : Array UInt64) (bytes : Bytes) :
    (absorb blocks counter chain bytes).toList.length = 8 := by
  induction blocks generalizing counter chain bytes with
  | zero => rw [absorb, compress, List.length_map, List.length_range]
  | succ blocks hypothesis => exact hypothesis _ _ _

theorem length_ofNatLE (count number : Nat) : (Bytes.ofNatLE count number).length = count := by
  induction count generalizing number with
  | zero => rfl
  | succ count hypothesis => exact congrArg (· + 1) (hypothesis (number / 256))

/-- A digest is cut from eight words of eight bytes. -/
theorem Blake2b.length_hash {length : Nat} (short : length ≤ 64) (message : Bytes) :
    (hash length message).length = length := by
  have words : forall chain : List UInt64,
      (chain.flatMap fun word => Bytes.ofNatLE 8 word.toNat).length = 8 * chain.length := by
    intro chain
    simp only [List.length_flatMap, length_ofNatLE, List.map_const', List.sum_replicate_nat,
      Nat.mul_comm]
  rw [hash, List.length_take, words, length_absorb]
  exact Nat.min_eq_left short

end Digest

theorem Primitives.standard_isSized : Primitives.standard.IsSized := by
  intro request password short
  exact (congrArg List.length (if_pos short)).trans (Digest.Blake2b.length_hash short _)

namespace Password

/-! ## New hashes -/

/-- Costs that can be written down: the notation has 32-bit numbers. -/
structure Cost.IsUsable (cost : Cost) : Prop where
  isValid : cost.IsValid
  memory_le : cost.memory ≤ uint32Max
  passes_le : cost.passes ≤ uint32Max

theorem Cost.IsUsable.lanes_le {cost : Cost} (usable : cost.IsUsable) : cost.lanes ≤ uint32Max :=
  Nat.le_trans usable.isValid.2.2.2.2 (by decide)

/-- The parameters that costs are written as. -/
theorem Cost.IsUsable.isParameter {cost : Cost} (usable : cost.IsUsable) :
    ∀ parameter ∈ [(['m'], Decimal.text cost.memory), (['t'], Decimal.text cost.passes),
      (['p'], Decimal.text cost.lanes)], IsParameter parameter := by
  simp only [List.forall_mem_cons]
  exact ⟨isParameter_text (by decide) usable.memory_le, isParameter_text (by decide) usable.passes_le,
    isParameter_text (by decide) usable.lanes_le, List.forall_mem_nil _⟩

theorem Cost.IsUsable.length_parametersText_le {cost : Cost} (usable : cost.IsUsable) :
    (parametersText [(['m'], Decimal.text cost.memory), (['t'], Decimal.text cost.passes),
      (['p'], Decimal.text cost.lanes)]).length ≤ 127 := by
  have memory := length_text_le usable.memory_le
  have passes := length_text_le usable.passes_le
  have lanes := length_text_le usable.lanes_le
  simp only [parametersText, List.map_cons, List.map_nil, joinWith, parameterText,
    List.length_append, List.length_cons, List.length_nil]
  omega

/-- Read in order, they give the costs back. -/
theorem Cost.IsUsable.foldlM_set? {cost : Cost} (usable : cost.IsUsable) :
    [(['m'], Decimal.text cost.memory), (['t'], Decimal.text cost.passes), (['p'], Decimal.text cost.lanes)].foldlM
      (fun (parameters : Parameters) ((name, value) : List Char × List Char) => parameters.set? name value)
      Parameters.unnamed = some ⟨cost, []⟩ := by
  have memory (parameters : Parameters) (value : List Char) : parameters.set? ['m'] value =
      (numberOf? value).map fun number =>
        { parameters with cost := { parameters.cost with memory := number } } := rfl
  have passes (parameters : Parameters) (value : List Char) : parameters.set? ['t'] value =
      (numberOf? value).map fun number =>
        { parameters with cost := { parameters.cost with passes := number } } := rfl
  have lanes (parameters : Parameters) (value : List Char) : parameters.set? ['p'] value =
      (numberOf? value).map fun number =>
        { parameters with cost := { parameters.cost with lanes := number } } := rfl
  simp only [List.foldlM_cons, List.foldlM_nil, memory, passes, lanes, numberOf?_text usable.memory_le,
    numberOf?_text usable.passes_le, numberOf?_text usable.lanes_le, Option.map_some, Option.bind_eq_bind,
    Option.bind_some, Option.pure_def]
  rfl

theorem StoredHash.request?_of_fields {algorithm salt : List Char} {version : Option Nat}
    {parameters : List (List Char × List Char)} {hash saltBytes : Bytes} {variant : Digest.Argon2.Variant}
    {named : Digest.Argon2.Version} {found : Parameters} (variantNamed : variantOf? algorithm = some variant)
    (versionNamed : versionNamed? version = some named)
    (read : parameters.foldlM (fun (parameters : Parameters) ((name, value) : List Char × List Char) =>
      parameters.set? name value) Parameters.unnamed = some found)
    (salted : Base64.decode? Base64.standard salt = some saltBytes) (valid : found.cost.IsValid)
    (enough : 8 ≤ saltBytes.length) :
    request? ⟨algorithm, version, parameters, some salt, some hash⟩ =
      some (⟨variant, named, found.cost.memory, found.cost.passes, found.cost.lanes, saltBytes,
        found.associated, hash.length⟩, hash) := by
  simp only [request?, variantNamed, versionNamed, read, salted, Option.bind_eq_bind, Option.bind_some]
  exact if_pos ⟨valid, enough⟩

section

variable {primitives : Primitives} {cost : Cost} {salt : Bytes}

theorem length_derive_newRequest (sized : primitives.IsSized) (cost : Cost) (salt password : Bytes) :
    (primitives.derive (newRequest cost salt) password).length = hashLength :=
  sized (newRequest cost salt) password (by show hashLength ≤ 64; decide)

variable (sized : primitives.IsSized) (usable : cost.IsUsable) (salted : salt.length = saltLength)
  (password : String)

include sized usable salted

theorem newHash_isComplete : (newHash primitives cost salt password).IsComplete 19
    (Base64.encode Base64.standard salt)
    (primitives.derive (newRequest cost salt) (Bytes.ofString password)) where
  named := (by decide : isName "argon2id".toList = true)
  version_eq := rfl
  version_le := by decide
  parameters_ne_nil := List.cons_ne_nil _ _
  isParameter := usable.isParameter
  length_parameters_le := usable.length_parametersText_le
  salt_eq := rfl
  isValue_salt := isValue_encode (by rw [salted]; decide)
  le_length_salt := by rw [Base64.length_encode, salted]; decide
  hash_eq := rfl
  le_length_hash := by rw [length_derive_newRequest sized]; decide
  length_hash_le := by rw [length_derive_newRequest sized]; decide

theorem parse?_hash : StoredHash.parse? (hash primitives cost salt password) =
    some (newHash primitives cost salt password) :=
  (newHash_isComplete sized usable salted password).parse?_text

/-- The fields of a new hash describe the run that made it. -/
theorem request?_newHash : (newHash primitives cost salt password).request? =
    some (newRequest cost salt, primitives.derive (newRequest cost salt) (Bytes.ofString password)) := by
  have enough : 8 ≤ salt.length := by
    rw [salted]
    decide
  have variant : variantOf? "argon2id".toList = some .hybrid := by decide
  refine (StoredHash.request?_of_fields variant rfl usable.foldlM_set?
    (Base64.decode?_encode _ Base64.standard_isFaithful salt) usable.isValid enough).trans ?_
  rw [length_derive_newRequest sized]
  rfl

/-- A password is checked by the run that made the hash. -/
theorem verify_hash (presented : String) : verify primitives presented (hash primitives cost salt password) =
    (primitives.derive (newRequest cost salt) (Bytes.ofString presented) ==
      primitives.derive (newRequest cost salt) (Bytes.ofString password)) := by
  rw [verify, parse?_hash sized usable salted, Option.bind_some, request?_newHash sized usable salted]

end

/-- A password is accepted exactly if the run that the stored text describes gives the stored hash. -/
theorem verify_eq_true_iff (primitives : Primitives) (password stored : String) :
    verify primitives password stored = true ↔ ∃ request expected,
      (StoredHash.parse? stored).bind StoredHash.request? = some (request, expected) ∧
        primitives.derive request (Bytes.ofString password) = expected := by
  unfold verify
  cases (StoredHash.parse? stored).bind StoredHash.request? with
  | none => simp only [Bool.false_eq_true, reduceCtorEq, false_and, exists_false]
  | some read => simp only [beq_iff_eq, Option.some.injEq, Prod.ext_iff, exists_and_left, exists_eq_left', and_assoc]

end Password

/-! ## Hashes of one service, checked by another -/

theorem Service.build_eq_ok_iff {primitives : Primitives} {auth : AuthSettings} {cost : Password.Cost}
    {service : Service} :
    Service.build primitives auth cost = .ok service ↔ cost.IsValid ∧ service = ⟨primitives, auth, cost⟩ := by
  unfold Service.build
  split
  · next valid =>
    rw [Except.ok.injEq]
    exact ⟨fun same => ⟨valid, same.symm⟩, fun same => same.2.symm⟩
  · next invalid => exact ⟨nofun, fun same => absurd same.1 invalid⟩

namespace Password

/-- What a service has stored for a password can be read, and describes the run of Argon2 that it was made by.
Another service, whatever its own costs are, accepts the password, and any other one if and only if the same run
gives the same digest for it. -/
theorem verify_under_any_cost {primitives : Primitives} (sized : primitives.IsSized) {cost other : Cost}
    {auth settings : AuthSettings} {maker checker : Service} (made : Service.build primitives auth cost = .ok maker)
    (built : Service.build primitives settings other = .ok checker) (memory : cost.memory ≤ uint32Max)
    (passes : cost.passes ≤ uint32Max) {salt : Bytes} (salted : salt.length = saltLength) (password : String) :
    let stored := hash maker.primitives maker.cost salt password
    let digest := primitives.derive ⟨.hybrid, .adding, cost.memory, cost.passes, cost.lanes, salt, [], 32⟩
    (∃ parsed, StoredHash.parse? stored = some parsed ∧
      parsed.algorithm = "argon2id".toList ∧ parsed.version = some 19 ∧
      parsed.parameters = [(['m'], Decimal.text cost.memory), (['t'], Decimal.text cost.passes),
        (['p'], Decimal.text cost.lanes)] ∧
      parsed.salt = some (Base64.encode Base64.standard salt) ∧
      parsed.request? = some (⟨.hybrid, .adding, cost.memory, cost.passes, cost.lanes, salt, [], 32⟩,
        digest (Bytes.ofString password))) ∧
    verify checker.primitives password stored = true ∧
    forall presented, (digest (Bytes.ofString presented)).length = 32 ∧
      (verify checker.primitives presented stored = true ↔
        digest (Bytes.ofString presented) = digest (Bytes.ofString password)) := by
  obtain ⟨valid, rfl⟩ := Service.build_eq_ok_iff.mp made
  obtain ⟨-, rfl⟩ := Service.build_eq_ok_iff.mp built
  have usable : cost.IsUsable := ⟨valid, memory, passes⟩
  have decided (presented : String) := verify_hash sized usable salted password presented
  refine ⟨⟨newHash primitives cost salt password, parse?_hash sized usable salted password, rfl, rfl, rfl, rfl,
    request?_newHash sized usable salted password⟩, ?_, fun presented => ⟨?_, ?_⟩⟩
  · exact (decided password).trans (beq_self_eq_true _)
  · exact length_derive_newRequest sized cost salt (Bytes.ofString presented)
  · exact (Bool.eq_iff_iff.mp (decided presented)).trans beq_iff_eq

/-- The greatest costs that there are, checked by a service with the least. -/
theorem verify_under_any_cost_of_greatest :
    let greatest : Cost := ⟨4294967295, 4294967295, 16777215⟩
    let least : Cost := ⟨8, 1, 1⟩
    let auth : AuthSettings := ⟨60, 1, 1000⟩
    let salt : Bytes := List.replicate saltLength 7
    let stored := hash Primitives.standard greatest salt "correct horse"
    Primitives.standard.IsSized ∧
      Service.build Primitives.standard auth greatest = .ok ⟨Primitives.standard, auth, greatest⟩ ∧
      Service.build Primitives.standard auth least = .ok ⟨Primitives.standard, auth, least⟩ ∧
      greatest.memory ≤ uint32Max ∧ greatest.passes ≤ uint32Max ∧ salt.length = saltLength ∧
      (∃ parsed, StoredHash.parse? stored = some parsed ∧ parsed.version = some 19) ∧
      verify Primitives.standard "correct horse" stored = true := by
  intro greatest least auth salt stored
  have made : Service.build Primitives.standard auth greatest = .ok ⟨Primitives.standard, auth, greatest⟩ :=
    Service.build_eq_ok_iff.mpr ⟨by decide, rfl⟩
  have built : Service.build Primitives.standard auth least = .ok ⟨Primitives.standard, auth, least⟩ :=
    Service.build_eq_ok_iff.mpr ⟨by decide, rfl⟩
  have memory : greatest.memory ≤ uint32Max := by decide
  have passes : greatest.passes ≤ uint32Max := by decide
  have salted : salt.length = saltLength := List.length_replicate
  obtain ⟨⟨parsed, read, _, version, _⟩, accepted, _⟩ :=
    verify_under_any_cost Primitives.standard_isSized made built memory passes salted "correct horse"
  exact ⟨Primitives.standard_isSized, made, built, memory, passes, salted, ⟨parsed, read, version⟩, accepted⟩

end Password

end SingleSignOn
