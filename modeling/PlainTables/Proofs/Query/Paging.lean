import PlainTables.Proofs.Query.Grouping

/-!
# Pages

LIMIT and OFFSET cut a window out of a result and change nothing else about it, whether the result is
streamed or kept as a whole. Windows of one size that follow each other are the pages of the result.
-/

namespace PlainTables

theorem flatMap_pages {α : Type} (items : List α) (size count : Nat) :
    (List.range count).flatMap (fun i => (items.drop (i * size)).take size) =
      items.take (count * size) := by
  induction count with
  | zero => simp
  | succ count ih =>
    rw [List.range_succ, List.flatMap_append, ih, List.flatMap_singleton, Nat.succ_mul,
      List.take_add]

def Statement.windowed (s : Statement) (limit offset : UInt64) : Statement :=
  { s with limit := some limit, offset := some offset }

namespace Plan

variable {σ : Type} [RecordSource σ] {p : Plan}

def windowed (p : Plan) (limit offset : UInt64) : Plan :=
  { p with statement := p.statement.windowed limit offset }

theorem make_windowed {s : Statement} {names : List String} {options : QueryOptions}
    (valid : make s names options = .ok p) (limit offset : UInt64) :
    make (s.windowed limit offset) names options = .ok (p.windowed limit offset) := by
  obtain ⟨rfl, checked⟩ := make_eq_ok_iff.mp valid
  exact make_eq_ok_iff.mpr ⟨rfl, checked⟩

theorem gives_windowed {scan : Scan σ} {rows : List Row} {stop : Option QueryError}
    (gives : Scan.Gives p scan rows stop) (limit offset : UInt64) :
    Scan.Gives (p.windowed limit offset) scan rows stop :=
  gives.transfer (p := p) (q := p.windowed limit offset) (fun _ => rfl) (fun _ _ => rfl)
    fun _ => rfl

theorem window_of_unlimited (noLimit : p.statement.limit = none)
    (noOffset : p.statement.offset = none) {α : Type} (rows : List α) :
    window p.offset p.limit rows = rows := by
  simp [window, offset, limit, noLimit, noOffset]

theorem arrange_windowed (noLimit : p.statement.limit = none)
    (noOffset : p.statement.offset = none) (limit offset : UInt64) (rows : List ResultRow) :
    (p.windowed limit offset).arrange rows =
      ((p.arrange rows).drop offset.toNat).take limit.toNat := by
  rw [arrange_eq_window, arrange_eq_window, window_of_unlimited noLimit noOffset]
  rfl

/-- Of the rows that a stream produces without its counts, it produces a window with them. -/
theorem produced_windowed {stop : Option QueryError} {seen : Option (List (List Value))}
    {rows : List Row} {values : List (List Value)}
    (produces : p.produced stop seen 0 none rows = (values, none)) (limit offset : UInt64) :
    (p.windowed limit offset).produced stop seen offset.toNat (some limit.toNat) rows =
      ((values.drop offset.toNat).take limit.toNat, none) := by
  obtain ⟨rfl, projected, projects⟩ := projects_of_produced (congrArg Prod.snd produces)
  rw [produced_of_projects _ _ _ projects] at produces
  rw [produced_of_projects (p := p.windowed limit offset) _ _ _ projects]
  cases produces
  rfl

end Plan

namespace Statement

variable {σ : Type} [RecordSource σ]

theorem delivers_of_start {source : σ} {p : Plan} {selected : List Row} {stop : Option QueryError}
    {rows : List (List Value)} {ending : Option QueryError}
    (gives : Scan.Gives p ⟨source, none⟩ selected stop)
    (produces : p.produced stop (if p.statement.distinct then some [] else none) p.offset p.limit
      selected = (rows, ending)) :
    Cursor.Delivers { columns := p.output, state := .streaming (.start p source) } rows ending :=
  Cursor.delivers_produced rfl rfl rfl gives produces

theorem run_windowed {s : Statement} {source : σ} {options : QueryOptions} {cursor : Cursor σ}
    {rows : List (List Value)} (noLimit : s.limit = none) (noOffset : s.offset = none)
    (runs : s.run source options = .ok cursor) (delivers : cursor.Delivers rows none)
    (limit offset : UInt64) :
    ∃ page, (s.windowed limit offset).run source options = .ok page ∧
      page.Delivers ((rows.drop offset.toNat).take limit.toNat) none := by
  obtain ⟨p, valid⟩ := make_of_run runs
  obtain rfl := statement_of_make valid
  have windowed := Plan.make_windowed valid limit offset
  -- Both statements are run on the same rows of the table, and only their ends are different.
  obtain ⟨selected, stop, gives⟩ := Scan.exists_gives p ⟨source, none⟩
  have gives' := Plan.gives_windowed gives limit offset
  by_cases streamed : (p.isStreamable && !options.scrollable) = true
  · rw [run_of_streamable valid streamed] at runs
    cases runs
    have noCounts : p.offset = 0 ∧ p.limit = none := by
      simp [Plan.offset, Plan.limit, noLimit, noOffset]
    have all := delivers_of_start gives rfl
    have produces : p.produced stop (if p.statement.distinct then some [] else none) p.offset
        p.limit selected = (rows, none) := Prod.ext_iff.mpr (all.unique delivers)
    rw [noCounts.1, noCounts.2] at produces
    exact ⟨_, run_of_streamable windowed streamed,
      delivers_of_start gives' (Plan.produced_windowed produces limit offset)⟩
  · have whole : (p.isStreamable && !options.scrollable) = false := by simpa using streamed
    obtain ⟨after, result⟩ := run_of_computed valid whole gives
    obtain ⟨after', result'⟩ := run_of_computed windowed whole gives'
    have same : (p.windowed limit offset).computed selected stop = p.computed selected stop := rfl
    rw [same] at result'
    rw [runs] at result
    cases computed : p.computed selected stop with
    | error e => rw [computed] at result; cases result
    | ok found =>
      rw [computed] at result result'
      cases result
      obtain ⟨rfl, -⟩ := delivers.unique (Cursor.delivers_buffered rfl rfl (Nat.zero_le _))
      refine ⟨_, result', ?_⟩
      rw [List.drop_zero, ← Plan.arrange_windowed noLimit noOffset]
      exact Cursor.delivers_buffered rfl rfl (Nat.zero_le _)

/-- A window of a result has the rows of the whole result that it asks for, and pages of one size that
follow each other have all rows, each of them once. -/
theorem windows_of_run (s : Statement) (source : σ) (options : QueryOptions) (cursor : Cursor σ)
    (rows : List (List Value)) (noLimit : s.limit = none) (noOffset : s.offset = none)
    (runs : s.run source options = .ok cursor) (delivers : cursor.Delivers rows none) :
    (∀ limit offset : UInt64, ∃ page,
      Statement.run { s with limit := some limit, offset := some offset } source options =
        .ok page ∧
      page.Delivers ((rows.drop offset.toNat).take limit.toNat) none) ∧
    ∀ size : UInt64, ∃ pages : Nat → List (List Value),
      (∀ i, i * size.toNat < 2 ^ 64 → ∃ page,
        Statement.run { s with limit := some size, offset := some (.ofNat (i * size.toNat)) } source
            options = .ok page ∧
          page.Delivers (pages i) none) ∧
      ∀ count, rows.length ≤ count * size.toNat → (List.range count).flatMap pages = rows := by
  refine ⟨run_windowed noLimit noOffset runs delivers, ?_⟩
  intro size
  refine ⟨fun i => (rows.drop (i * size.toNat)).take size.toNat, ?_, ?_⟩
  · intro i representable
    have place : (UInt64.ofNat (i * size.toNat)).toNat = i * size.toNat :=
      UInt64.toNat_ofNat_of_lt' representable
    have page := run_windowed noLimit noOffset runs delivers size (.ofNat (i * size.toNat))
    rw [place] at page
    exact page
  · intro count enough
    rw [flatMap_pages, List.take_of_length_le enough]

/-- The second page of the names of a table, each once, with two names on a page. -/
theorem windows_of_run_names :
    ∃ page : Cursor MemoryTable,
      run { distinct := true, columns := [⟨.column none "name", none⟩]
            limit := some 2, offset := some 2 }
          ⟨["name"], [["a"], ["b"], ["a"], ["c"]], []⟩ { scrollable := true } = .ok page ∧
        page.Delivers [[.text "c"]] none :=
  (windows_of_run { distinct := true, columns := [⟨.column none "name", none⟩] }
    (⟨["name"], [["a"], ["b"], ["a"], ["c"]], []⟩ : MemoryTable) { scrollable := true } _
    [[.text "a"], [.text "b"], [.text "c"]] rfl rfl rfl
    (Cursor.delivers_buffered rfl rfl (Nat.zero_le _))).1 2 2

end Statement

end PlainTables
