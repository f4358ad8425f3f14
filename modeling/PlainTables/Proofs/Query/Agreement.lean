import PlainTables.Proofs.Evaluation.Agreement
import PlainTables.Proofs.Query.Paging

/-!
# Columns that a query does not mention

Two tables that agree in the columns whose names occur in a statement are scanned as rows that agree on these
names, if no types are declared: a column has the type that its own first field shows, and a field that does
not fit stays a text. From rows that agree the same is computed, so that the other columns have no influence.
-/

namespace PlainTables

variable {names : List String} {p : Plan}

namespace Group

structure AgreeOn (names : List String) (g g' : Group) : Prop where
  key : g.key = g'.key
  rows : List.Forall₂ (Row.AgreeOn names) g.rows g'.rows

theorem insert_agree (key : List Value) {row row' : Row} {groups groups' : List Group}
    (agree : row.AgreeOn names row') (related : List.Forall₂ (AgreeOn names) groups groups') :
    List.Forall₂ (AgreeOn names) (insert key row groups) (insert key row' groups') := by
  induction related with
  | nil => exact .cons ⟨rfl, .cons agree .nil⟩ .nil
  | @cons g g' groups groups' first rest ih =>
    rw [insert, insert, ← first.key]
    split
    · exact .cons ⟨rfl, List.rel_append first.rows (.cons agree .nil)⟩ rest
    · exact .cons first ih

end Group

def KeyedAgree (names : List String) (row row' : List Value × Row) : Prop :=
  row.1 = row'.1 ∧ row.2.AgreeOn names row'.2

theorem Group.ofRows_agree {rows rows' : List (List Value × Row)}
    (agree : List.Forall₂ (KeyedAgree names) rows rows') :
    List.Forall₂ (Group.AgreeOn names) (ofRows rows) (ofRows rows') := by
  refine List.rel_foldl ?_ .nil agree
  rintro groups groups' related ⟨key, row⟩ ⟨_, row'⟩ ⟨rfl, here⟩
  exact insert_agree key here related

namespace Plan

theorem groups_agree {rows rows' : List (List Value × Row)}
    (agree : List.Forall₂ (KeyedAgree names) rows rows') :
    List.Forall₂ (Group.AgreeOn names) (p.groups rows) (p.groups rows') := by
  have related := Group.ofRows_agree agree
  unfold groups
  generalize Group.ofRows rows = groups, Group.ofRows rows' = groups' at related
  cases related with
  | nil =>
    simp only
    split
    · exact .cons ⟨rfl, .nil⟩ .nil
    · exact .nil
  | cons first rest => exact .cons first rest

variable (within : p.Within names) {rows rows' : List Row}
  (agree : List.Forall₂ (Row.AgreeOn names) rows rows')

include within agree

theorem Within.keyed_agree :
    Alike (List.Forall₂ (KeyedAgree names)) (rows.mapM p.keyed) (rows'.mapM p.keyed) := by
  refine Alike.mapM agree fun row row' here => ?_
  exact (Alike.of_eq (within.groupKey_agree here)).map fun key key' same => ⟨same, here⟩

omit agree in
theorem Within.groupRows_agree {keyed keyed' : List (List Value × Row)}
    (agree : List.Forall₂ (KeyedAgree names) keyed keyed') :
    p.groupRows keyed = p.groupRows keyed' := by
  have same : (p.groups keyed).mapM p.groupRow = (p.groups keyed').mapM p.groupRow :=
    mapM_eq_of_forall₂ ((groups_agree agree).imp fun g g' here => within.groupRow_agree here.rows)
  rw [groupRows, groupRows, same]

theorem Within.computed_agree (stop : Option QueryError) :
    p.computed rows stop = p.computed rows' stop := by
  unfold computed
  split
  · have stopped {keyed keyed' : List (List Value × Row)}
        (related : List.Forall₂ (KeyedAgree names) keyed keyed') :
        Alike (List.Forall₂ (KeyedAgree names)) (Scan.outcome stop keyed)
          (Scan.outcome stop keyed') := by
      cases stop with
      | none => exact .ok related
      | some e => exact .error e
    have read := (within.keyed_agree agree).bind fun _ _ related => stopped related
    exact (read.bind fun _ _ related => Alike.of_eq (within.groupRows_agree related)).eq
  · have same : rows.mapM p.plainRow = rows'.mapM p.plainRow :=
      mapM_eq_of_forall₂ (agree.imp fun row row' here => within.plainRow_agree here)
    rw [same]

theorem Within.produced_agree (stop : Option QueryError) (seen : Option (List (List Value)))
    (toSkip : Nat) (toGive : Option Nat) :
    p.produced stop seen toSkip toGive rows = p.produced stop seen toSkip toGive rows' := by
  induction agree generalizing seen toSkip toGive with
  | nil => rfl
  | cons first _ ih =>
    by_cases full : toGive = some 0
    · rw [full, produced_full, produced_full]
    · rw [produced_cons _ _ full, produced_cons _ _ full, within.project_agree first]
      simp only [ih]

end Plan

/-- The lists have the same, or nothing, at each of the places. -/
def AgreeAt {α : Type} (places : Nat → Prop) (items items' : List α) : Prop :=
  ∀ i, places i → items[i]? = items'[i]?

def Columns.HasNameAt (columns : Columns) (names : List String) (i : Nat) : Prop :=
  ∃ own, columns.names[i]? = some own ∧ ∃ name ∈ names, same own name = true

theorem Row.agreeOn_of_agreeAt {columns : Columns} {values values' : List Value}
    (agree : AgreeAt (columns.HasNameAt names) values values') :
    Row.AgreeOn names ⟨columns, values⟩ ⟨columns, values'⟩ := by
  intro name mem
  unfold get?
  cases place : columns.position? name with
  | none => rfl
  | some i =>
    obtain ⟨inside, found, -⟩ := List.findIdx?_eq_some_iff_getElem.mp place
    exact agree i ⟨_, List.getElem?_eq_getElem inside, name, mem, found⟩

namespace Scan

def inferredValue (formats : Formats) (type : DataType) : Option String → Value
  | none => .null
  | some raw => formats.coerceInferred raw type

def Inferred (types : List ColumnType) : Prop :=
  ∀ t ∈ types, t.declared = false

variable {σ : Type} [RecordSource σ]

theorem typedRow_of_inferred {types : List ColumnType} (inferred : Inferred types) (s : σ) :
    typedRow p types s = .ok ⟨p.source, types.zipIdx.map fun (t, i) =>
      inferredValue p.options.formats t.type (RecordSource.field s i)⟩ := by
  have values : (types.zipIdx.mapM fun (t, i) =>
      typedValue p.options.formats t (RecordSource.field s i)) =
      .ok (types.zipIdx.map fun (t, i) =>
        inferredValue p.options.formats t.type (RecordSource.field s i)) := by
    refine mapM_eq_ok_iff.mpr (List.forall₂_map_right_iff.mpr (List.forall₂_same.mpr ?_))
    rintro ⟨t, i⟩ mem
    have found := inferred t (List.fst_mem_of_mem_zipIdx mem)
    show typedValue _ t _ = .ok (inferredValue _ t.type _)
    cases RecordSource.field s i with
    | none => rfl
    | some raw => simp [typedValue, inferredValue, found]
  rw [typedRow, values]
  rfl

theorem inferred_settleTypes (undeclared : p.options.declared = []) (s : σ) :
    Inferred (settleTypes p s) := by
  intro t mem
  obtain ⟨i, -, rfl⟩ := List.mem_map.mp mem
  simp [undeclared]

/-- The tables have rows that agree at the places, and the types found there are the same. -/
structure Agree (places : Nat → Prop) (scan scan' : Scan MemoryTable) : Prop where
  rows : List.Forall₂ (AgreeAt places) scan.source.rows scan'.source.rows
  types : Option.Rel (fun types types' => Inferred types ∧ Inferred types' ∧ AgreeAt places types types')
    scan.types scan'.types

variable {places : Nat → Prop}

theorem agreeAt_settleTypes (undeclared : p.options.declared = []) {t t' : MemoryTable}
    (agree : AgreeAt places t.current t'.current) :
    AgreeAt places (settleTypes p t) (settleTypes p t') := by
  intro i place
  have field : RecordSource.field t i = RecordSource.field t' i :=
    congrArg (Option.map Text.trimmed) (agree i place)
  simp only [settleTypes, List.getElem?_map, undeclared]
  by_cases inside : i < p.source.size
  · simp [List.getElem?_range inside, field]
  · simp [inside]

theorem agreeAt_values {types types' : List ColumnType} (agree : AgreeAt places types types')
    {t t' : MemoryTable} (fields : AgreeAt places t.current t'.current) (formats : Formats) :
    AgreeAt places
      (types.zipIdx.map fun (c, i) => inferredValue formats c.type (RecordSource.field t i))
      (types'.zipIdx.map fun (c, i) => inferredValue formats c.type (RecordSource.field t' i)) := by
  intro i place
  have field : RecordSource.field t i = RecordSource.field t' i :=
    congrArg (Option.map Text.trimmed) (fields i place)
  simp only [List.getElem?_map, List.getElem?_zipIdx, agree i place, Nat.zero_add]
  cases types'[i]? with
  | none => rfl
  | some c => simp [field]

theorem Agree.next {scan scan' : Scan MemoryTable} (undeclared : p.options.declared = [])
    (agree : Agree (p.source.HasNameAt names) scan scan') :
    (RecordSource.next scan.source).1 = .ok false ∧ (RecordSource.next scan'.source).1 = .ok false ∨
    (RecordSource.next scan.source).1 = .ok true ∧ (RecordSource.next scan'.source).1 = .ok true ∧
      ∃ row row', scan.upcoming p = .ok row ∧ scan'.upcoming p = .ok row' ∧
        row.AgreeOn names row' ∧
        Agree (p.source.HasNameAt names) (scan.advanced p) (scan'.advanced p) := by
  obtain ⟨⟨columns, rows, current⟩, types⟩ := scan
  obtain ⟨⟨columns', rows', current'⟩, types'⟩ := scan'
  obtain ⟨rowsAgree, typesAgree⟩ := agree
  cases rowsAgree with
  | nil => exact .inl ⟨rfl, rfl⟩
  | @cons first first' rows rows' here rest =>
    -- The types are those settled before, or the ones that the first fields show.
    have settled : Option.Rel (fun types types' => Inferred types ∧ Inferred types' ∧
        AgreeAt (p.source.HasNameAt names) types types')
        (some (types.getD (settleTypes p (⟨columns, rows, first⟩ : MemoryTable))))
        (some (types'.getD (settleTypes p (⟨columns', rows', first'⟩ : MemoryTable)))) := by
      cases typesAgree with
      | none => exact .some ⟨inferred_settleTypes undeclared _, inferred_settleTypes undeclared _,
          agreeAt_settleTypes undeclared here⟩
      | some known => exact .some known
    obtain ⟨inferred, inferred', same⟩ := Option.rel_some_some.mp settled
    refine .inr ⟨rfl, rfl, _, _, typedRow_of_inferred inferred _, typedRow_of_inferred inferred' _,
      Row.agreeOn_of_agreeAt (agreeAt_values same here _), rest, settled⟩

/-- Scans that agree give rows that agree, and are stopped by the same error. -/
theorem Gives.agree (within : p.Within names) (undeclared : p.options.declared = [])
    {scan scan' : Scan MemoryTable} {rows : List Row} {stop : Option QueryError}
    (gives : Gives p scan rows stop) (agree : Agree (p.source.HasNameAt names) scan scan') :
    ∃ rows', Gives p scan' rows' stop ∧ List.Forall₂ (Row.AgreeOn names) rows rows' := by
  induction gives generalizing scan' with
  | ended result =>
    rcases agree.next undeclared with ⟨-, result'⟩ | ⟨more, -⟩
    · exact ⟨[], .ended result', .nil⟩
    · cases result.symm.trans more
  | failed result =>
    rcases agree.next undeclared with ⟨last, -⟩ | ⟨more, -⟩
    · cases result.symm.trans last
    · cases result.symm.trans more
  | untyped result wrong =>
    rcases agree.next undeclared with ⟨last, -⟩ | ⟨-, -, row, row', typed, -⟩
    · cases result.symm.trans last
    · cases wrong.symm.trans typed
  | undecided result typed wrong =>
    rcases agree.next undeclared with ⟨last, -⟩ | ⟨-, result', row, row', own, typed', same, -⟩
    · cases result.symm.trans last
    · cases typed.symm.trans own
      exact ⟨[], .undecided result' typed' ((within.passes_agree same).symm.trans wrong), .nil⟩
  | dropped result typed out _ ih =>
    rcases agree.next undeclared with ⟨last, -⟩ | ⟨-, result', row, row', own, typed', same, later⟩
    · cases result.symm.trans last
    · cases typed.symm.trans own
      obtain ⟨rows', rest, related⟩ := ih later
      exact ⟨rows', .dropped result' typed' ((within.passes_agree same).symm.trans out) rest, related⟩
  | kept result typed inside _ ih =>
    rcases agree.next undeclared with ⟨last, -⟩ | ⟨-, result', row, row', own, typed', same, later⟩
    · cases result.symm.trans last
    · cases typed.symm.trans own
      obtain ⟨rows', rest, related⟩ := ih later
      exact ⟨row' :: rows', .kept result' typed' ((within.passes_agree same).symm.trans inside) rest,
        .cons same related⟩

end Scan

/-- The tables have the same columns and as many rows, and the rows agree in the columns whose names are
among these. -/
structure MemoryTable.AgreeOn (names : List String) (t t' : MemoryTable) : Prop where
  columns : t.columns = t'.columns
  rows : List.Forall₂ (AgreeAt ((⟨t.columns⟩ : Columns).HasNameAt names)) t.rows t'.rows

namespace Statement

/-- Columns that a statement without a wildcard does not mention have no influence on it, unless types are
declared: over tables that agree in the other columns it fails with one error, or it has results with the
same columns, which deliver the same rows up to the same error. -/
theorem run_agree {s : Statement} (explicit : ∀ c ∈ s.columns, c.expression ≠ .wildcard)
    {options : QueryOptions} (undeclared : options.declared = []) {t t' : MemoryTable}
    (agree : t.AgreeOn s.columnNames t') :
    (∃ e after after', s.run t options = .error ⟨e, after⟩ ∧ s.run t' options = .error ⟨e, after'⟩) ∨
    ∃ cursor cursor' rows stop, s.run t options = .ok cursor ∧ s.run t' options = .ok cursor' ∧
      cursor.columns = cursor'.columns ∧ cursor.Delivers rows stop ∧ cursor'.Delivers rows stop := by
  have columns : RecordSource.columns t' = RecordSource.columns t := agree.columns.symm
  cases made : Plan.make s (RecordSource.columns t) options with
  | error e => exact .inl ⟨e, _, _, run_of_make_eq_error made, run_of_make_eq_error (columns ▸ made)⟩
  | ok p =>
    have made' : Plan.make s (RecordSource.columns t') options = .ok p := columns ▸ made
    obtain ⟨plan, -⟩ := Plan.make_eq_ok_iff.mp made
    have within : p.Within s.columnNames := plan ▸ Plan.within_columnNames explicit
    have undeclared : p.options.declared = [] := plan ▸ undeclared
    have same : Scan.Agree (p.source.HasNameAt s.columnNames) ⟨t, none⟩ ⟨t', none⟩ :=
      plan ▸ ⟨agree.rows, .none⟩
    obtain ⟨rows, stop, gives⟩ := Scan.exists_gives p ⟨t, none⟩
    obtain ⟨rows', gives', related⟩ := gives.agree within undeclared same
    by_cases streamed : (p.isStreamable && !options.scrollable) = true
    · have produced := within.produced_agree related stop
        (if p.statement.distinct then some [] else none) p.offset p.limit
      exact .inr ⟨_, _, _, _, run_of_streamable made streamed, run_of_streamable made' streamed, rfl,
        delivers_of_start gives rfl, delivers_of_start gives' produced.symm⟩
    · have whole : (p.isStreamable && !options.scrollable) = false := by simpa using streamed
      obtain ⟨after, runs⟩ := run_of_computed made whole gives
      obtain ⟨after', runs'⟩ := run_of_computed made' whole gives'
      rw [← within.computed_agree related stop] at runs'
      cases computed : p.computed rows stop with
      | error e =>
        rw [computed] at runs runs'
        exact .inl ⟨e, after, after', runs, runs'⟩
      | ok found =>
        rw [computed] at runs runs'
        exact .inr ⟨_, _, _, none, runs, runs', rfl, Cursor.delivers_buffered rfl rfl (Nat.zero_le _),
          Cursor.delivers_buffered rfl rfl (Nat.zero_le _)⟩

/-- The names do not matter when only the amounts are added up. -/
theorem run_agree_on_amounts :
    ∃ cursor cursor',
      run { columns := [⟨.aggregate .sum (.column none "amount"), none⟩] }
        (⟨["name", "amount"], [["a", "1"], ["b", "2"]], []⟩ : MemoryTable) {} = .ok cursor ∧
      run { columns := [⟨.aggregate .sum (.column none "amount"), none⟩] }
        (⟨["name", "amount"], [["7", "1"], ["x", "2"]], []⟩ : MemoryTable) {} = .ok cursor' ∧
      cursor.columns = ⟨["SUM([AMOUNT])"]⟩ ∧ cursor'.columns = ⟨["SUM([AMOUNT])"]⟩ ∧
      cursor.Delivers [[.integer 3]] none ∧ cursor'.Delivers [[.integer 3]] none := by
  have agree : MemoryTable.AgreeOn ["amount"] ⟨["name", "amount"], [["a", "1"], ["b", "2"]], []⟩
      ⟨["name", "amount"], [["7", "1"], ["x", "2"]], []⟩ := by
    have places {first first' : String} (amount : String) :
        AgreeAt ((⟨["name", "amount"]⟩ : Columns).HasNameAt ["amount"]) [first, amount]
          [first', amount] := by
      rintro (_ | i) ⟨own, column, name, mem, same⟩
      · cases List.mem_singleton.mp mem
        cases column
        exact absurd same (by decide)
      · rfl
    exact ⟨rfl, .cons (places "1") (.cons (places "2") .nil)⟩
  have undeclared : ({} : QueryOptions).declared = [] := rfl
  rcases run_agree (s := { columns := [⟨.aggregate .sum (.column none "amount"), none⟩] })
      (by simp) undeclared agree with ⟨e, after, after', runs, -⟩ |
        ⟨cursor, cursor', rows, stop, runs, runs', columns, delivers, delivers'⟩
  · cases runs
  · obtain rfl := Except.ok.inj runs
    obtain ⟨rfl, rfl⟩ := delivers.unique (Cursor.delivers_buffered rfl rfl (Nat.zero_le _))
    have named : cursor'.columns = ⟨["SUM([AMOUNT])"]⟩ := columns.symm.trans (by decide +kernel)
    exact ⟨_, cursor', rfl, runs', columns.trans named, named, delivers, delivers'⟩

end Statement

end PlainTables
