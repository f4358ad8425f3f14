import PlainTables.Proofs.Query.Fetching
import PlainTables.Records.Memory
import PlainTables.Report.Json

/-!
# Objects of rows

The members of the object of a row are in the order of their names. There is one for each name of a column; of
several columns with exactly the same name the last one gives its value. A cursor on the row has the value of the
first column with the name up to case, which can be another one.
-/

namespace PlainTables

namespace Json

def Ordered (ms : List (String × Value)) : Prop :=
  (ms.map Prod.fst).Pairwise (· < ·)

variable {ms : List (String × Value)} {name other : String} {u v : Value}

theorem mem_names_insertMember :
    other ∈ (insertMember name v ms).map Prod.fst ↔ other = name ∨ other ∈ ms.map Prod.fst := by
  induction ms with
  | nil => simp [insertMember]
  | cons m ms ih =>
    obtain ⟨own, old⟩ := m
    rw [insertMember]
    split
    · simp
    · split
      · next same => simp [same]
      · simp only [List.map_cons, List.mem_cons, ih]
        exact or_left_comm

theorem Ordered.insertMember (ordered : Ordered ms) : Ordered (insertMember name v ms) := by
  induction ms with
  | nil => exact List.pairwise_singleton _ _
  | cons m ms ih =>
    obtain ⟨own, old⟩ := m
    obtain ⟨after, rest⟩ := List.pairwise_cons.mp ordered
    rw [Json.insertMember]
    split
    · next before =>
      refine List.pairwise_cons.mpr ⟨List.forall_mem_cons.mpr ⟨before, fun n mem => ?_⟩, ordered⟩
      exact String.lt_trans before (after n mem)
    · next notBefore =>
      split
      · next same => exact List.pairwise_cons.mpr ⟨same ▸ after, rest⟩
      · next differs =>
        have later : own < name := Std.lt_of_le_of_ne (Std.not_lt.mp notBefore) (Ne.symm differs)
        refine List.pairwise_cons.mpr ⟨fun n mem => ?_, ih rest⟩
        rcases mem_names_insertMember.mp mem with rfl | mem
        · exact later
        · exact after n mem

theorem Ordered.mem_insertMember (ordered : Ordered ms) :
    (other, u) ∈ Json.insertMember name v ms ↔ if other = name then u = v else (other, u) ∈ ms := by
  induction ms with
  | nil =>
    simp only [Json.insertMember, List.mem_singleton, Prod.mk.injEq, List.not_mem_nil]
    split <;> simp [*]
  | cons m ms ih =>
    obtain ⟨own, old⟩ := m
    obtain ⟨after, rest⟩ := List.pairwise_cons.mp ordered
    -- A name that is not among the later ones is not the name of a later member.
    have notLater {n : String} (le : n ≤ own) (w : Value) : (n, w) ∉ ms := by
      intro mem
      exact String.lt_irrefl own (Std.lt_of_lt_of_le (after n (List.mem_map_of_mem mem)) le)
    rw [Json.insertMember]
    split
    · next before =>
      have absent : (name, u) ∉ (own, old) :: ms := by
        rw [List.mem_cons, Prod.mk.injEq]
        rintro (⟨same, -⟩ | mem)
        · exact String.lt_irrefl own (same ▸ before)
        · exact notLater (Std.le_of_lt before) u mem
      rw [List.mem_cons, Prod.mk.injEq]
      split
      · next same => simp [same, absent]
      · next differs => simp [differs]
    · split
      · next same =>
        subst same
        rw [List.mem_cons, Prod.mk.injEq]
        split
        · next same => simp [same, notLater (Std.le_refl _) u]
        · next differs => simp [differs]
      · next differs =>
        rw [List.mem_cons, List.mem_cons, ih rest, Prod.mk.injEq]
        split
        · next same => simp [same, differs]
        · rfl

def insertAll (ps ms : List (String × Value)) : List (String × Value) :=
  ps.foldl (fun ms (name, v) => insertMember name v ms) ms

theorem insertAll_cons (name : String) (v : Value) (ps ms : List (String × Value)) :
    insertAll ((name, v) :: ps) ms = insertAll ps (insertMember name v ms) :=
  rfl

theorem insertAll_append (ps qs ms : List (String × Value)) :
    insertAll (ps ++ qs) ms = insertAll qs (insertAll ps ms) :=
  List.foldl_append

theorem members_eq_insertAll (columns : List String) (row : List Value) :
    members columns row = insertAll (columns.zip row) [] :=
  rfl

variable {ps : List (String × Value)}

theorem Ordered.insertAll (ordered : Ordered ms) : Ordered (insertAll ps ms) := by
  induction ps generalizing ms with
  | nil => exact ordered
  | cons p ps ih => exact ih ordered.insertMember

theorem mem_names_insertAll :
    name ∈ (Json.insertAll ps ms).map Prod.fst ↔ name ∈ ps.map Prod.fst ∨ name ∈ ms.map Prod.fst := by
  induction ps generalizing ms with
  | nil => simp [Json.insertAll]
  | cons p ps ih =>
    obtain ⟨own, v⟩ := p
    rw [insertAll_cons, ih, mem_names_insertMember, List.map_cons, List.mem_cons, or_assoc]
    exact or_left_comm

theorem Ordered.mem_insertAll (ordered : Ordered ms) (others : name ∉ ps.map Prod.fst) :
    (name, u) ∈ Json.insertAll ps ms ↔ (name, u) ∈ ms := by
  induction ps generalizing ms with
  | nil => rfl
  | cons p ps ih =>
    obtain ⟨own, v⟩ := p
    rw [List.map_cons, List.mem_cons, not_or] at others
    rw [insertAll_cons, ih ordered.insertMember others.2, ordered.mem_insertMember, if_neg others.1]

end Json

structure Columns.IsLast (c : Columns) (name : String) (place : Nat) : Prop where
  named : c.names[place]? = some name
  last : ∀ later, place < later → c.names[later]? ≠ some name

namespace Columns

variable {c : Columns} {name : String} {place : Nat}

theorem exists_isLast (mem : name ∈ c.names) : ∃ place, c.IsLast name place := by
  obtain ⟨names⟩ := c
  induction names with
  | nil => cases mem
  | cons own names ih =>
    by_cases again : name ∈ names
    · obtain ⟨place, named, last⟩ := ih again
      refine ⟨place + 1, named, fun later after => ?_⟩
      obtain ⟨later, rfl⟩ := Nat.exists_eq_add_one_of_ne_zero (Nat.ne_zero_of_lt after)
      exact last later (Nat.lt_of_succ_lt_succ after)
    · obtain rfl : name = own := (List.mem_cons.mp mem).resolve_right again
      refine ⟨0, rfl, fun later after found => again ?_⟩
      obtain ⟨later, rfl⟩ := Nat.exists_eq_add_one_of_ne_zero (Nat.ne_zero_of_lt after)
      exact List.mem_of_getElem? found

theorem IsLast.inside (last : c.IsLast name place) : place < c.size :=
  (List.getElem?_eq_some_iff.mp last.named).1

/-- The names before the last column of a name, this name, and other names. -/
theorem IsLast.names_eq (last : c.IsLast name place) :
    c.names = c.names.take place ++ name :: c.names.drop (place + 1) ∧
      name ∉ c.names.drop (place + 1) := by
  obtain ⟨inside, here⟩ := List.getElem?_eq_some_iff.mp last.named
  constructor
  · rw [← here, ← List.drop_eq_getElem_cons inside, List.take_append_drop]
  · intro mem
    obtain ⟨i, found⟩ := List.getElem?_of_mem mem
    rw [List.getElem?_drop] at found
    exact last.last _ (by omega) found

end Columns

namespace Json

/-- The members are those of the object of a row: ordered, one for each name of a column, with the value of
the last column of exactly this name. -/
structure IsObjectOf (c : Columns) (row : List Value) (ms : List (String × Value)) : Prop where
  ordered : Ordered ms
  names : ∀ name, name ∈ ms.map Prod.fst ↔ name ∈ c.names
  value : ∀ name place v, c.IsLast name place → row[place]? = some v → (name, v) ∈ ms

theorem isObjectOf_members {c : Columns} {row : List Value} (full : row.length = c.size) :
    IsObjectOf c row (members c.names row) where
  ordered := by
    rw [members_eq_insertAll]
    exact Ordered.insertAll List.Pairwise.nil
  names name := by
    rw [members_eq_insertAll, mem_names_insertAll, List.map_fst_zip (Nat.le_of_eq full.symm)]
    simp
  value name place v last found := by
    obtain ⟨inside, here⟩ := List.getElem?_eq_some_iff.mp found
    obtain ⟨names, others⟩ := last.names_eq
    have values : row = row.take place ++ v :: row.drop (place + 1) := by
      rw [← here, ← List.drop_eq_getElem_cons inside, List.take_append_drop]
    have fronts : (c.names.take place).length = (row.take place).length := by
      have within := last.inside
      rw [List.length_take, List.length_take, full]
      rfl
    rw [members_eq_insertAll, names, values, List.zip_append fronts, List.zip_cons_cons, insertAll_append]
    let front := insertAll ((c.names.take place).zip (row.take place)) []
    have ordered : Ordered front := Ordered.insertAll List.Pairwise.nil
    have absent : name ∉ ((c.names.drop (place + 1)).zip (row.drop (place + 1))).map Prod.fst := by
      intro mem
      obtain ⟨p, paired, rfl⟩ := List.mem_map.mp mem
      exact others (List.of_mem_zip paired).1
    have kept : (name, v) ∈ insertAll _ (insertMember name v front) ↔ _ :=
      Ordered.mem_insertAll ordered.insertMember absent
    exact kept.mpr (ordered.mem_insertMember.mpr (by simp))

end Json

namespace Cursor

variable {σ : Type} [RecordSource σ] {c : Cursor σ} {row : List Value} {place : Nat}

omit [RecordSource σ] in
theorem valueAt_of_currentRow {v : Value} (current : c.currentRow = some row)
    (found : row[place]? = some v) : c.valueAt place = .ok v := by
  rw [valueAt, current, Option.bind_some, found]

omit [RecordSource σ] in
theorem getIndex_succ (inside : place < c.columns.size) :
    c.getIndex (place + 1) = c.valueAt place := by
  rw [getIndex, if_neg (by omega)]
  rfl

omit [RecordSource σ] in
theorem get_of_position {name : String} (position : c.columns.position? name = some place) :
    c.get name = c.valueAt place := by
  rw [get, position]

end Cursor

theorem Columns.exists_position {c : Columns} {name : String} (mem : name ∈ c.names) :
    ∃ place, c.position? name = some place := by
  refine Option.isSome_iff_exists.mp ?_
  rw [position?, List.findIdx?_isSome, List.any_eq_true]
  exact ⟨name, mem, decide_eq_true rfl⟩

namespace Statement

variable {σ : Type} [RecordSource σ]

/-- What is printed for the rows that a cursor has left is one object for each row, in order. Its member for a
name is the value that the cursor on that row has in the last column of exactly this name. This is the
value that it has for the name, if that column is the first one with the name up to case. -/
theorem run_prints_rows (s : Statement) (source : σ) (options : QueryOptions) (cursor : Cursor σ)
    (ran : s.run source options = .ok cursor) (calls : List CursorCall) (rows : List (List Value))
    (fetched : (cursor.calls calls).fetchAll.1 = .ok rows) :
    let c := cursor.calls calls
    c.Delivers rows none ∧
    ∃ objects, Json.records c.columns.names rows =
        String.ofList (Json.bracketed '[' ']' 0 (objects.map (Json.object 1))) ∧
      List.Forall₂ (Json.IsObjectOf c.columns) rows objects ∧
      ∀ i ms, objects[i]? = some ms → ∀ name ∈ c.columns.names, ∃ first last v,
        c.columns.position? name = some first ∧ c.columns.IsLast name last ∧
        (name, v) ∈ ms ∧ (c.after (i + 1)).getIndex (last + 1) = .ok v ∧
        (first = last → (c.after (i + 1)).get name = .ok v) := by
  intro c
  have full : c.IsFull := (isFull_of_run ran).calls calls
  have delivers : c.Delivers rows none := Cursor.delivers_of_fetchAll fetched
  have widths := full.length_delivered delivers
  have objects : List.Forall₂ (Json.IsObjectOf c.columns) rows
      (rows.map (Json.members c.columns.names)) := by
    rw [List.forall₂_map_right_iff, List.forall₂_same]
    exact fun row mem => Json.isObjectOf_members (widths row mem)
  refine ⟨delivers, rows.map (Json.members c.columns.names), ?_, objects, ?_⟩
  · rw [Json.records, List.map_map]
    rfl
  · intro i ms found name mem
    rw [List.getElem?_map, Option.map_eq_some_iff] at found
    obtain ⟨row, atRow, rfl⟩ := found
    have width := widths row (List.mem_of_getElem? atRow)
    obtain ⟨first, position⟩ := Columns.exists_position mem
    obtain ⟨last, isLast⟩ := Columns.exists_isLast mem
    obtain ⟨v, value⟩ : ∃ v, row[last]? = some v :=
      ⟨_, List.getElem?_eq_getElem (width ▸ isLast.inside)⟩
    have current := delivers.currentRow_after atRow
    have read : (c.after (i + 1)).valueAt last = .ok v :=
      Cursor.valueAt_of_currentRow current value
    have sameColumns : (c.after (i + 1)).columns = c.columns := Cursor.columns_after c (i + 1)
    refine ⟨first, last, v, position, isLast, ?_, ?_, ?_⟩
    · exact (Json.isObjectOf_members width).value name last v isLast value
    · rw [Cursor.getIndex_succ (sameColumns ▸ isLast.inside), read]
    · rintro rfl
      rw [Cursor.get_of_position (sameColumns ▸ position), read]

/-- The rows of two columns, after the first of them has been gone over. -/
theorem run_prints_rows_after_next :
    ∃ cursor, run { columns := [⟨.column none "id", none⟩, ⟨.column none "name", none⟩] }
        (⟨["id", "name"], [["1", "a"], ["2", "b"]], []⟩ : MemoryTable) {} = .ok cursor ∧
      let c := cursor.calls [.move .next]
      c.fetchAll.1 = .ok [[.integer 2, .text "b"]] ∧ c.Delivers [[.integer 2, .text "b"]] none ∧
      Json.records c.columns.names [[.integer 2, .text "b"]] =
        "[\n  \x7b\n    \"id\": 2,\n    \"name\": \"b\"\n  \x7d\n]" ∧
      (c.after 1).get "name" = .ok (.text "b") :=
  ⟨_, rfl, rfl, (run_prints_rows { columns := [⟨.column none "id", none⟩, ⟨.column none "name", none⟩] }
    (⟨["id", "name"], [["1", "a"], ["2", "b"]], []⟩ : MemoryTable) {} _ rfl [.move .next] _ rfl).1,
    by decide, rfl⟩

/-- Of two columns with one name an object has the value of the last one, and the cursor on its row that of the
first. -/
theorem repeated_name_prints_last :
    ∃ c, run { columns := [⟨.column none "id", some "x"⟩, ⟨.column none "name", some "x"⟩] }
        (⟨["id", "name"], [["1", "a"]], []⟩ : MemoryTable) {} = .ok c ∧
      c.fetchAll.1 = .ok [[.integer 1, .text "a"]] ∧
      Json.records c.columns.names [[.integer 1, .text "a"]] =
        "[\n  \x7b\n    \"x\": \"a\"\n  \x7d\n]" ∧
      (c.after 1).get "x" = .ok (.integer 1) :=
  ⟨_, rfl, rfl, by decide, rfl⟩

end Statement

end PlainTables
