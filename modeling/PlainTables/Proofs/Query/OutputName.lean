import PlainTables.Proofs.Evaluation.Alias
import PlainTables.Query.Result

/-!
# Names of the result

A cursor and ORDER BY find a column of the result by the upper case of all letters of its name. The other
clauses go by the names that columns of the select list have been given, up to the case of the letters `a` to
`z` only. A name of a column stands for this column in all of them, exactly if the two cases agree on it; they
do on every name without other letters.
-/

namespace PlainTables

namespace Text

def isAscii (s : String) : Bool :=
  s.toList.all (·.toNat < 128)

theorem toLower_eq_of_toUpper {c d : Char} (upper : c.toUpper = d.toUpper) : c.toLower = d.toLower := by
  have numbers := congrArg Char.toNat upper
  rw [toNat_toUpper, toNat_toUpper] at numbers
  rw [← Char.toNat_inj, toNat_toLower, toNat_toLower]
  split at numbers <;> split at numbers <;> split <;> split <;> omega

theorem flatMap_upperChar_of_ascii {s : List Char} (ascii : ∀ c ∈ s, c.toNat < 128) :
    s.flatMap upperChar = s.map Char.toUpper := by
  induction s with
  | nil => rfl
  | cons c s ih =>
    obtain ⟨first, rest⟩ := List.forall_mem_cons.mp ascii
    rw [List.flatMap_cons, upperChar, if_pos first, ih rest]
    rfl

/-- For ASCII names the upper case tells as much as the case of the letters `a` to `z`. -/
theorem sameName_of_uppercase {a b : String} (asciiA : isAscii a = true) (asciiB : isAscii b = true)
    (same : uppercase a = uppercase b) : sameName a b = true := by
  have charsA : ∀ c ∈ a.toList, c.toNat < 128 := by simpa [isAscii] using asciiA
  have charsB : ∀ c ∈ b.toList, c.toNat < 128 := by simpa [isAscii] using asciiB
  have upper : a.toList.map Char.toUpper = b.toList.map Char.toUpper := by
    rw [← flatMap_upperChar_of_ascii charsA, ← flatMap_upperChar_of_ascii charsB]
    exact String.ofList_injective same
  refine decide_eq_true ?_
  generalize a.toList = s at upper
  generalize b.toList = t at upper
  induction s generalizing t with
  | nil => rw [List.map_eq_nil_iff.mp upper.symm]
  | cons c s ih =>
    obtain ⟨d, t, rfl, first, rest⟩ := List.map_eq_cons_iff.mp upper.symm
    rw [List.map_cons, List.map_cons, toLower_eq_of_toUpper first.symm, ih t rest.symm]

end Text

namespace Plan

def groupedBy (p : Plan) (keys : List Expression) : Plan :=
  { p with statement := { p.statement with groupBy := keys } }

/-- In every clause the name stands for the column at this place of the select list. In WHERE and GROUP BY it
has the value of the column's expression on the row, as far as there is one; in HAVING it has the output of
the group in this column; and no list of GROUP BY is rejected for it. -/
structure Resolves (p : Plan) (name : String) (place : Nat) (e : Expression) : Prop where
  onRow : ∀ row : Row, row.columns = p.source → ∀ v, e.evaluate (.ofRow row) = .ok v →
    (Scope.ofAliasedRow p.columns row).lookup name = some v
  onGroup : ∀ (rows : List Row) (outputs : List Value), (∀ row ∈ rows, row.columns = p.source) →
    (Scope.ofGroup p.columns outputs rows).lookup name = outputs[place]?
  inGroupBy : ∀ keys, (p.groupedBy keys).checkGroupBy ≠ .error (.unknownColumn name)

variable {p : Plan} {name own : String} {place : Nat} {e : Expression}

theorem get?_eq_none {row : Row} (columns : row.columns = p.source) (unknown : p.isKnown name = false) :
    row.get? name = none := by
  have absent : p.source.position? name = none := by simpa [isKnown] using unknown
  rw [Row.get?, columns, absent]
  rfl

theorem lookup_ofGroup {rows : List Row} (outputs : List Value)
    (columns : ∀ row ∈ rows, row.columns = p.source) (unknown : p.isKnown name = false) :
    (Scope.ofGroup p.columns outputs rows).lookup name =
      (p.columns.findIdx? (·.isNamed name)).bind fun i => outputs[i]? := by
  have absent : rows.head?.bind (·.get? name) = none := by
    cases rows with
    | nil => rfl
    | cons row rows => exact get?_eq_none (columns row List.mem_cons_self) unknown
  simp only [Scope.ofGroup, absent]

section

variable (column : p.columns[place]? = some ⟨e, some own⟩)
  (found : p.output.position? name = some place)

include column found

/-- A column that has been given the name is not before the first one whose name it is. -/
theorem first_isNamed (same : Text.sameName own name = true) :
    ∃ inside : place < p.columns.length, p.columns[place] = ⟨e, some own⟩ ∧
      p.columns[place].isNamed name = true ∧
      ∀ j (before : j < place), ¬ p.columns[j].isNamed name = true := by
  obtain ⟨inside, here⟩ := List.getElem?_eq_some_iff.mp column
  refine ⟨inside, here, here ▸ same, fun j before named => ?_⟩
  obtain ⟨_, _, first⟩ := List.findIdx?_eq_some_iff_getElem.mp found
  obtain ⟨other, given, sameOther⟩ := (Option.any_eq_true _ _).mp named
  have called : p.columns[j].name = other := by
    rw [OutputColumn.name, given]
  refine first j before ?_
  simp only [output, List.getElem_map, called, Columns.same]
  exact decide_eq_true (Text.uppercase_congr sameOther)

theorem findIdx?_isNamed (same : Text.sameName own name = true) :
    p.columns.findIdx? (·.isNamed name) = some place := by
  obtain ⟨inside, -, named, earlier⟩ := first_isNamed column found same
  exact List.findIdx?_eq_some_iff_getElem.mpr ⟨inside, named, earlier⟩

theorem find?_isNamed (same : Text.sameName own name = true) :
    p.columns.find? (·.isNamed name) = some ⟨e, some own⟩ := by
  obtain ⟨inside, here, named, earlier⟩ := first_isNamed column found same
  refine List.find?_eq_some_iff_getElem.mpr ⟨here ▸ named, place, inside, here, fun j before => ?_⟩
  simpa using earlier j before

end

/-- GROUP BY is rejected only for names that neither the table nor the select list has. -/
theorem checkGroupBy_ne_error (given : p.isAlias name = true) (keys : List Expression) :
    (p.groupedBy keys).checkGroupBy ≠ .error (.unknownColumn name) := by
  intro rejected
  rw [checkGroupBy] at rejected
  split at rejected
  · next other missing =>
    cases rejected
    have unnamed := List.find?_some missing
    have named : (p.groupedBy keys).isAlias name = true := given
    simp [named] at unnamed
  · cases rejected

/-- The name that a column has been given stands for it in all clauses, if it is first found there. -/
theorem resolves_of_sameName (column : p.columns[place]? = some ⟨e, some own⟩)
    (plain : e.containsAggregate = false) (found : p.output.position? name = some place)
    (unknown : p.isKnown name = false) (same : Text.sameName own name = true) :
    p.Resolves name place e where
  onRow row columns v value := by
    simp only [Scope.ofAliasedRow, get?_eq_none columns unknown, find?_isNamed column found same, plain,
      value, Bool.false_eq_true, if_false, Except.toOption]
  onGroup rows outputs columns := by
    rw [lookup_ofGroup outputs columns unknown, findIdx?_isNamed column found same, Option.bind_some]
  inGroupBy keys := by
    have given : p.isAlias name = true :=
      List.any_eq_true.mpr ⟨_, List.mem_of_getElem? column, same⟩
    exact checkGroupBy_ne_error given keys

/-- Where a name stands for a column in HAVING, this column has been given the name. -/
theorem Resolves.sameName (resolves : p.Resolves name place e)
    (column : p.columns[place]? = some ⟨e, some own⟩) (unknown : p.isKnown name = false) :
    Text.sameName own name = true := by
  -- Outputs of which only the one at the place is a value show which of them is taken.
  have taken := resolves.onGroup [] (List.replicate place .null ++ [.integer 1]) (by simp)
  rw [lookup_ofGroup _ (by simp) unknown, List.getElem?_append_right (by simp)] at taken
  simp only [List.length_replicate, Nat.sub_self, List.getElem?_cons_zero, Option.bind_eq_some_iff] at taken
  obtain ⟨i, named, output⟩ := taken
  have here : i = place := by
    rcases Nat.lt_trichotomy i place with before | same | after
    · rw [List.getElem?_append_left (by simpa using before)] at output
      simp [before] at output
    · exact same
    · rw [List.getElem?_append_right (by simp; omega), List.length_replicate,
        List.getElem?_eq_none (by simp; omega)] at output
      cases output
  obtain ⟨inside, isNamed, -⟩ := List.findIdx?_eq_some_iff_getElem.mp named
  subst here
  rw [List.getElem?_eq_getElem inside, Option.some_inj] at column
  rw [column] at isNamed
  exact isNamed

/-- A name under which a column of the result is found stands for this column in all clauses, exactly if it is
the name that the column has been given up to the case of the letters `a` to `z`. Of ASCII names each does. -/
theorem resolves_output_name (column : p.columns[place]? = some ⟨e, some own⟩)
    (plain : e.containsAggregate = false) (found : p.output.position? name = some place)
    (unknown : p.isKnown name = false) :
    (p.Resolves name place e ↔ Text.sameName own name = true) ∧
      (Text.isAscii own = true → Text.isAscii name = true → p.Resolves name place e) := by
  have forward := resolves_of_sameName column plain found unknown
  refine ⟨⟨fun resolves => resolves.sameName column unknown, forward⟩, fun asciiOwn asciiName => ?_⟩
  obtain ⟨_, called, -⟩ := List.findIdx?_eq_some_iff_getElem.mp found
  obtain ⟨_, here⟩ := List.getElem?_eq_some_iff.mp column
  simp only [output, List.getElem_map, here, OutputColumn.name, Columns.same, decide_eq_true_eq] at called
  exact forward (Text.sameName_of_uppercase asciiOwn asciiName called)

/-- A sum behind a column of the table is found by its name in capital letters. -/
theorem resolves_output_name_total :
    let p : Plan := ⟨{ columns := [⟨.column none "n", none⟩,
      ⟨.add (.column none "n") (.literal (.integer 1)), some "total"⟩] }, ⟨["n"]⟩, {}⟩
    p.output.position? "TOTAL" = some 1 ∧ p.isKnown "TOTAL" = false ∧
      p.Resolves "TOTAL" 1 (.add (.column none "n") (.literal (.integer 1))) := by
  intro p
  have found : p.output.position? "TOTAL" = some 1 := by decide +kernel
  have unknown : p.isKnown "TOTAL" = false := by decide +kernel
  exact ⟨found, unknown, (resolves_output_name rfl rfl found unknown).1.mpr (by decide +kernel)⟩

/-- Under its name in capital letters a column with an accent is found by a cursor and by ORDER BY, but
neither in WHERE nor in HAVING, and GROUP BY is rejected for it. -/
theorem accent_does_not_resolve :
    let p : Plan := ⟨{ columns := [⟨.column none "n", some "é"⟩] }, ⟨["n"]⟩, {}⟩
    let row : Row := ⟨⟨["n"]⟩, [.integer 2]⟩
    p.output.position? "É" = some 0 ∧ p.isKnown "É" = false ∧
      (Expression.column none "n").evaluate (.ofRow row) = .ok (.integer 2) ∧
      (Scope.ofAliasedRow p.columns row).lookup "É" = none ∧
      (Scope.ofGroup p.columns [.integer 2] [row]).lookup "É" = none ∧
      (p.groupedBy [.column none "É"]).checkGroupBy = .error (.unknownColumn "É") := by
  refine ⟨?_, ?_, ?_, ?_, ?_, ?_⟩ <;> decide +kernel

end Plan

end PlainTables
