import PlainTables.Proofs.Records.ColumnNames
import PlainTables.Proofs.Records.OwnRecord
import PlainTables.Proofs.Records.Surroundings

/-!
# Lines that cannot be parsed

A table that ignores the lines it cannot parse gives the records of the other ones. Such a line costs
nothing but itself, unless it leaves a quote open: then its record goes on over the lines below it.
-/

namespace PlainTables

open ByteLines

namespace TextLayout

variable {o : TextLayout}

/-- These are the lines that a header takes up with the lines that are ignored above it: a text without
other lines has the header as its only record. -/
def IsHeader (o : TextLayout) (lines names : List String) : Prop :=
  ∃ (r : ByteLines) (after : Bool) (s : ByteLines), r.Shows lines ∧
    o.readRecord none o.trimHeaders false r = (.ok (some names), after, s) ∧ s.Shows []

/-- The lines of a text above its data lines, and the names in its header. With a header, this stands with
the preamble between the lines to skip; without one, the preamble stands below them. -/
inductive AboveData (o : TextLayout) : List String → List String → Prop
  | headed {junk comments header more names : List String} : o.suppressHeaders = false →
      junk.length = o.skipLeadingLines → more.length = o.skipLeadingDataLines →
      (∀ line ∈ comments, LineSource.isPreamble o.commentChar line = true) →
      (∀ line ∈ header.head?, LineSource.isPreamble o.commentChar line = false) →
      o.IsHeader header names → AboveData o (junk ++ comments ++ header ++ more) names
  | bare {junk more comments : List String} : o.suppressHeaders = true →
      junk.length = o.skipLeadingLines → more.length = o.skipLeadingDataLines →
      (∀ line ∈ comments, LineSource.isPreamble o.commentChar line = true) →
      AboveData o (junk ++ more ++ comments) []

/-- The names that are settled for the columns: those that are configured or in the header, or numbers for
the fields of the first record. -/
def namesAbove (o : TextLayout) (header data : List String) : Except QueryError (List String) :=
  o.configured.getD (.ok (
    if o.suppressHeaders then
      numberedNames (((data.filterMap (o.ownRecord none false)).head?.map List.length).getD 0)
    else header))

end TextLayout

namespace TextTable

open TextLayout
open RecordSource (Gives)

variable {o : TextLayout} {r : ByteLines} {lines data : List String}

theorem openHeaded_above {comments header more names : List String}
    (count : more.length = o.skipLeadingDataLines)
    (areComments : ∀ line ∈ comments, LineSource.isPreamble o.commentChar line = true)
    (first : ∀ line ∈ header.head?, LineSource.isPreamble o.commentChar line = false)
    (isHeader : o.IsHeader header names)
    (shows : r.Shows (comments ++ (header ++ (more ++ data)))) :
    ∃ s : ByteLines, s.Shows data ∧
      openHeaded o r = ((o.configured.getD (.ok names)).bind o.settle).map fun columns =>
        { lines := s, layout := o, columns, preamble := false } := by
  obtain ⟨r₀, after, s₀, shows₀, reading, left⟩ := isHeader
  have nonempty : header ≠ [] := by
    rintro rfl
    rw [o.readRecord_of_end none o.trimHeaders false shows₀.readLine_nil] at reading
    cases reading
  have below : Below o.commentChar o.commentChar.isSome (comments ++ (header ++ (more ++ data)))
      (header ++ (more ++ data)) := by
    refine below_comments areComments ?_
    obtain ⟨line, header, rfl⟩ := List.exists_cons_of_ne_nil nonempty
    exact first
  have record : o.recordIn none o.trimHeaders false r₀ = (.ok (some names), s₀) := by
    rw [recordIn, reading]
  have found : FoundAbove [] (more ++ data) (o.recordIn none o.trimHeaders false r₀) := by
    rw [record]
    exact .inr ⟨⟨names, rfl⟩, [], left⟩
  rw [← List.append_nil header] at shows₀
  obtain ⟨alike, rest, left', shows', _⟩ :=
    recordIn_common rfl rfl none o.trimHeaders shows₀ shows below found
  rw [record] at alike left'
  obtain rfl : rest = [] := (List.append_eq_nil_iff.mp (left'.unique left)).1
  rcases reading' : o.readRecord none o.trimHeaders o.commentChar.isSome r with ⟨found', after', s'⟩
  rw [recordIn, reading'] at alike shows'
  cases alike
  obtain rfl := preamble_of_record reading'
  obtain ⟨u, skipped, shows''⟩ := Shows.skip (r := s') shows' o.skipLeadingDataLines
  rw [List.nil_append, ← count, List.drop_left] at shows''
  exact ⟨u, shows'', openHeaded_eq reading' skipped⟩

def OpensWith (o : TextLayout) (names : Except QueryError (List String)) (data : List String)
    (opened : Except QueryError (TextTable ByteLines)) : Prop :=
  ∃ table : List String → TextTable ByteLines, opened = (names.bind o.settle).map table ∧
    ∀ columns, names.bind o.settle = .ok columns → (table columns).columns = columns ∧
      Gives TextTable.fields (table columns)
        (data.filterMap (o.ownRecord (some columns.length) false), none)

/-- Without a header the columns are numbered by the first record, which is still to come. -/
theorem openBare_numbered (ignoring : o.ignoreUnparseableLines = true)
    (delimited : o.fixedWidths = none) (unnamed : o.configured = none) (alone : o.ReadAlone data)
    {s : ByteLines} (skipped : LineSource.skip o.skipLeadingDataLines r = (.ok (), s))
    (below : Below o.commentChar o.commentChar.isSome lines data) (shows : s.Shows lines) :
    OpensWith o (.ok (numberedNames
      (((data.filterMap (o.ownRecord none false)).head?.map List.length).getD 0))) data
      (openBare o r) := by
  obtain ⟨s', shows', same, _⟩ := o.recordIn_below none false shows below
  rcases reading : o.readRecord none false o.commentChar.isSome s with ⟨found, after, u⟩
  rcases readRecord_of_alone ignoring delimited none alone shows' with
    ⟨ignored, u', reading', atEnd⟩ |
      ⟨ignored, line, rest, fields, rfl, areIgnored, own, u', reading', left⟩
  · have noRecord := List.filterMap_eq_nil_iff.mpr ignored
    rw [recordIn, recordIn, reading, reading'] at same
    cases same
    refine ⟨fun columns =>
      { lines := u, layout := o, columns, pending := none, preamble := after }, ?_, ?_⟩
    · rw [openBare_eq_of_reading skipped unnamed reading, noRecord]
      rfl
    · intro columns settled
      rw [noRecord] at settled
      have noColumns : columns.length = 0 := length_of_settle settled
      have noRecord' : data.filterMap (o.ownRecord (some columns.length) false) = [] := by
        rw [noColumns]
        exact List.filterMap_eq_nil_iff.mpr fun line mem =>
          ownRecord_of_ignored Nat.zero_ne_one (ignored line mem)
      have empty : o.ReadAlone [] := by simp [ReadAlone]
      rw [noRecord']
      exact ⟨rfl, gives_belowPreamble ignoring delimited empty (.nil _ _) atEnd columns⟩
  · have noRecord := List.filterMap_eq_nil_iff.mpr areIgnored
    rw [recordIn, recordIn, reading, reading'] at same
    cases same
    obtain rfl := preamble_of_record reading
    obtain ⟨many, own'⟩ := ownRecord_of_first own
    have first : ((ignored ++ line :: rest).filterMap (o.ownRecord none false)).head? = some fields := by
      rw [List.filterMap_append, noRecord, List.filterMap_cons, own]
      rfl
    rw [first, Option.map_some, Option.getD_some]
    refine ⟨fun columns =>
      { lines := u, layout := o, columns, pending := some fields, preamble := false }, ?_, ?_⟩
    · rw [openBare_eq_of_reading skipped unnamed reading]
      rfl
    · intro columns settled
      have width : columns.length = fields.length := by
        rw [length_of_settle settled, numberedNames, List.length_map, List.length_range]
      have noRecord' := List.filterMap_eq_nil_iff.mpr fun line mem =>
        ownRecord_of_ignored many (areIgnored line mem)
      have records : (ignored ++ line :: rest).filterMap (o.ownRecord (some columns.length) false) =
          fields :: rest.filterMap (o.ownRecord (some columns.length) false) := by
        rw [width, List.filterMap_append, noRecord', List.filterMap_cons, own']
        rfl
      rw [records]
      exact ⟨rfl, gives_pending ignoring delimited alone.of_append.tail left columns fields⟩

/-- A text with these data lines is opened with the names above them, and gives the records that they are
on their own. -/
theorem ofLines_above (ignoring : o.ignoreUnparseableLines = true) (delimited : o.fixedWidths = none)
    {top names : List String} (aboveData : o.AboveData top names)
    (first : o.suppressHeaders = true →
      ∀ line ∈ data.head?, LineSource.isPreamble o.commentChar line = false)
    (alone : o.ReadAlone data) (shows : r.Shows (top ++ data)) :
    OpensWith o (o.namesAbove names data) data (ofLines o r) := by
  cases aboveData with
  | @headed junk comments header more names headed count count' areComments notComment isHeader =>
    obtain ⟨s, skipped, below⟩ := shows.skip o.skipLeadingLines
    simp only [← count, List.append_assoc, List.drop_left] at below
    obtain ⟨u, left, opens⟩ := openHeaded_above count' areComments notComment isHeader below
    refine ⟨fun columns => { lines := u, layout := o, columns, preamble := false }, ?_,
      fun columns _ => ⟨rfl, gives_ownRecords ignoring delimited alone left columns []⟩⟩
    simp only [ofLines_of_skip skipped, opens, namesAbove, headed, Bool.false_eq_true, if_false]
  | @bare junk more comments bare count count' areComments =>
    obtain ⟨s, skipped, below⟩ := shows.skip o.skipLeadingLines
    simp only [← count, List.append_assoc, List.drop_left] at below
    obtain ⟨u, skipped', left⟩ := below.skip o.skipLeadingDataLines
    rw [← count', List.drop_left] at left
    have preamble := below_comments areComments (first bare)
    rw [ofLines_of_skip skipped, namesAbove, if_pos bare, if_pos bare]
    cases named : o.configured with
    | none => exact openBare_numbered ignoring delimited named alone skipped' preamble left
    | some names =>
      exact ⟨fun columns => { lines := u, layout := o, columns, preamble := o.commentChar.isSome },
        openBare_eq_of_configured skipped' named, fun columns _ =>
          ⟨rfl, gives_belowPreamble ignoring delimited alone preamble left columns⟩⟩

/-- If the separator is the quote as well, then a table has no columns. -/
theorem columns_of_same (delimited : o.fixedWidths = none)
    (same : o.delimiters.quote = some o.delimiters.separator) {t : TextTable ByteLines}
    (opened : ofLines o r = .ok t) : t.columns = [] := by
  have settledNone {names columns : List String} (settled : o.settle names = .ok columns)
      (noNames : names = []) : columns = [] := by
    rw [← List.length_eq_zero_iff, length_of_settle settled, noNames]
    rfl
  have configured {names : List String} (named : o.configured = some (.ok names)) : names = [] := by
    obtain ⟨line, -, tokenized⟩ := Option.map_eq_some_iff.mp named
    exact Delimiters.tokenize_of_same same tokenized
  have noFields {trim preamble after : Bool} {s u : ByteLines} {fields : Option (List String)}
      (reading : o.readRecord none trim preamble s = (.ok fields, after, u)) : fields.getD [] = [] := by
    cases fields with
    | none => rfl
    | some fields => exact readRecord_of_same delimited same (congrArg Prod.fst reading)
  cases openedOn_of_ofLines opened with
  | configured _ _ _ named settled => exact settledNone settled (configured named)
  | @numbered _ _ _ pending _ _ _ _ _ _ reading settled =>
    refine settledNone settled ?_
    have none := noFields reading
    cases pending with
    | none => rfl
    | some fields =>
      obtain rfl : fields = [] := none
      rfl
  | headed _ _ reading _ named settled =>
    refine settledNone settled ?_
    cases line : o.configured with
    | none =>
      rw [line] at named
      cases named
      exact noFields reading
    | some names =>
      rw [line] at named
      exact configured (line.trans (congrArg some named))

variable {above below : List String} {u : String}

/-- A line that is nothing on its own can be taken for one above the data lines, or for one of these, none
of which leaves a quote open above another one. -/
theorem exists_readAlone {top names : List String} (aboveData : o.AboveData top names)
    (first : o.suppressHeaders = true →
      ∀ line ∈ (above ++ below).head?, LineSource.isPreamble o.commentChar line = false)
    (closed : ∀ line ∈ above ++ below, ¬ o.delimiters.EndsQuoted false line)
    {e : QueryError} (fails : o.delimiters.tokenize u false = .error e)
    (last : o.delimiters.EndsQuoted false u → below = []) :
    ∃ top' data, o.AboveData top' names ∧ top ++ (above ++ u :: below) = top' ++ data ∧
      (o.suppressHeaders = true →
        ∀ line ∈ data.head?, LineSource.isPreamble o.commentChar line = false) ∧
      o.ReadAlone data ∧ ∀ width, data.filterMap (o.ownRecord width false) =
        (above ++ below).filterMap (o.ownRecord width false) := by
  by_cases comment :
      o.suppressHeaders = true ∧ above = [] ∧ LineSource.isPreamble o.commentChar u = true
  · obtain ⟨bare, rfl, isComment⟩ := comment
    refine ⟨top ++ [u], below, ?_, by simp, first,
      fun line mem => closed line (List.dropLast_subset _ mem), fun _ => rfl⟩
    cases aboveData with
    | headed headed => cases headed.symm.trans bare
    | bare bare count count' areComments =>
      rw [List.append_assoc]
      refine .bare bare count count' fun line mem => ?_
      rcases List.mem_append.mp mem with inComments | isLine
      · exact areComments line inComments
      · rw [List.mem_singleton.mp isLine]
        exact isComment
  · refine ⟨top, above ++ u :: below, aboveData, rfl, fun bare => ?_, fun line mem => ?_,
      fun width => ?_⟩
    · cases above with
      | nil => simpa [bare] using comment
      | cons line above => exact first bare
    · by_cases endsQuoted : o.delimiters.EndsQuoted false u
      · rw [last endsQuoted, List.dropLast_concat] at mem
        exact closed line (List.mem_append_left _ mem)
      · rcases List.mem_append.mp (List.dropLast_subset _ mem) with isAbove | isBelow
        · exact closed line (List.mem_append_left _ isAbove)
        · rcases List.mem_cons.mp isBelow with rfl | isBelow
          · exact endsQuoted
          · exact closed line (List.mem_append_right _ isBelow)
    · rw [List.filterMap_append, List.filterMap_append, List.filterMap_cons,
        ownRecord_of_error fails]

/-- A line that cannot be parsed on its own costs nothing but itself, unless it leaves a quote open above
other lines: a text has the columns and the records that it has without it, and no error. -/
theorem gives_despite_unparseable (ignoring : o.ignoreUnparseableLines = true)
    (delimited : o.fixedWidths = none) {top names : List String} (aboveData : o.AboveData top names)
    (first : o.suppressHeaders = true →
      ∀ line ∈ (above ++ below).head?, LineSource.isPreamble o.commentChar line = false)
    (noQuotes : ∀ line ∈ above ++ below, ∀ c ∈ line.toList, some c ≠ o.delimiters.quote)
    {e : QueryError} (fails : o.delimiters.tokenize u false = .error e)
    (last : o.delimiters.EndsQuoted false u → below = []) {text whole : List UInt8}
    (lines : linesOf text = top ++ (above ++ below))
    (lines' : linesOf whole = top ++ (above ++ u :: below))
    {t : TextTable ByteLines} (opened : ofLines o (ofBytes text) = .ok t)
    (columns : 2 ≤ (RecordSource.columns t).length) :
    ∃ t', ofLines o (ofBytes whole) = .ok t' ∧
      RecordSource.columns t' = RecordSource.columns t ∧
      ∃ records, Gives RecordSource.fields t (records, none) ∧
        Gives RecordSource.fields t' (records, none) := by
  have apart : o.delimiters.quote ≠ some o.delimiters.separator := by
    intro same
    have noColumns : RecordSource.columns t = [] := columns_of_same delimited same opened
    rw [noColumns] at columns
    cases columns
  have closed (line : String) (mem : line ∈ above ++ below) :
      ¬ o.delimiters.EndsQuoted false line :=
    Delimiters.not_endsQuoted_of_noQuotes apart (noQuotes line mem)
  have alone : o.ReadAlone (above ++ below) := fun line mem =>
    closed line (List.dropLast_subset _ mem)
  obtain ⟨top', data, aboveData', same, first', alone', records⟩ :=
    exists_readAlone aboveData first closed fails last
  have shows := shows_ofBytes text
  have shows' := shows_ofBytes whole
  rw [lines] at shows
  rw [lines', same] at shows'
  obtain ⟨table, opens, given⟩ := ofLines_above ignoring delimited aboveData first alone shows
  obtain ⟨table', opens', given'⟩ :=
    ofLines_above ignoring delimited aboveData' first' alone' shows'
  have sameNames : o.namesAbove names data = o.namesAbove names (above ++ below) := by
    rw [namesAbove, namesAbove, records]
  rw [sameNames] at opens' given'
  rw [opens] at opened
  obtain ⟨columns', settled, rfl⟩ := exists_of_map_eq_ok opened
  obtain ⟨own, gives⟩ := given columns' settled
  obtain ⟨own', gives'⟩ := given' columns' settled
  rw [records] at gives'
  have seen : (RecordSource.fields : TextTable ByteLines → List (Option String)) =
      List.map (fun field => some (Text.trimmed field)) ∘ TextTable.fields :=
    funext TextTable.fields_eq
  rw [settled] at opens'
  rw [seen]
  exact ⟨table' columns', opens', own'.trans own.symm, _, gives.map _, gives'.map _⟩

/-- The quote in the middle of the third line costs this line alone. -/
theorem gives_despite_unparseable_quote :
    ∃ t t', ofLines { ignoreUnparseableLines := true }
        (ofBytes (Utf8.encode "id,name\n1,a\n2,b\n".toList)) = .ok t ∧
      ofLines { ignoreUnparseableLines := true }
        (ofBytes (Utf8.encode "id,name\n1,a\nx\"y\n2,b\n".toList)) = .ok t' ∧
      RecordSource.columns t = ["id", "name"] ∧ RecordSource.columns t' = ["id", "name"] ∧
      Gives RecordSource.fields t ([[some "1", some "a"], [some "2", some "b"]], none) ∧
      Gives RecordSource.fields t' ([[some "1", some "a"], [some "2", some "b"]], none) := by
  have without : (ofLines { ignoreUnparseableLines := true }
      (ofBytes (Utf8.encode "id,name\n1,a\n2,b\n".toList))).map (fun t =>
        (t.columns, RecordSource.outcomeWithin RecordSource.fields 5 t)) =
      .ok (["id", "name"], some ([[some "1", some "a"], [some "2", some "b"]], none)) := by
    decide +kernel
  obtain ⟨t, opened, columns, read⟩ := RecordSource.exists_gives_of_map without
  have isHeader : IsHeader { ignoreUnparseableLines := true } ["id,name"] ["id", "name"] :=
    ⟨ofBytes (Utf8.encode "id,name\n".toList), false, atBytes [] 1, ⟨_, rfl, by decide +kernel⟩,
      by decide +kernel, [], rfl, by rw [linesOf]⟩
  have noComments : ∀ line ∈ ([] : List String), LineSource.isPreamble none line = true := by simp
  have aboveData : AboveData { ignoreUnparseableLines := true } ["id,name"] ["id", "name"] :=
    .headed rfl (rfl : ([] : List String).length = 0) (rfl : ([] : List String).length = 0)
      noComments (by decide) isHeader
  have fails : Delimiters.tokenize {} "x\"y" false = .error (.malformedQuote 1 1 (.unexpected '"')) := by
    decide +kernel
  have width : 2 ≤ (RecordSource.columns t).length := by
    change 2 ≤ t.columns.length
    rw [columns]
    decide
  have lines : linesOf (Utf8.encode "id,name\n1,a\n2,b\n".toList) =
      ["id,name"] ++ (["1,a"] ++ ["2,b"]) := by decide +kernel
  have lines' : linesOf (Utf8.encode "id,name\n1,a\nx\"y\n2,b\n".toList) =
      ["id,name"] ++ (["1,a"] ++ "x\"y" :: ["2,b"]) := by decide +kernel
  have noQuotes : ∀ line ∈ ["1,a"] ++ ["2,b"], ∀ c ∈ line.toList, some c ≠ some '"' := by simp
  obtain ⟨t', opened', same, records, gives, gives'⟩ := gives_despite_unparseable rfl rfl aboveData (by simp) noQuotes fails
    (by decide +kernel) lines lines' opened width
  obtain ⟨rfl, -⟩ := Prod.mk.inj (gives.unique read)
  exact ⟨t, t', opened, opened', columns, same.trans columns, gives, gives'⟩

/-- The quote that the third line leaves open takes up the line below it as well. -/
theorem open_quote_takes_lines_below :
    ∃ t t', ofLines { ignoreUnparseableLines := true }
        (ofBytes (Utf8.encode "id,name\n1,a\n2,b\n".toList)) = .ok t ∧
      ofLines { ignoreUnparseableLines := true }
        (ofBytes (Utf8.encode "id,name\n1,a\n\"x\n2,b\n".toList)) = .ok t' ∧
      Delimiters.tokenize {} "\"x" false = .error (.unterminatedQuote "\"x") ∧
      RecordSource.columns t = ["id", "name"] ∧ RecordSource.columns t' = ["id", "name"] ∧
      Gives RecordSource.fields t
        ([[some "1", some "a"], [some "2", some "b"]], none) ∧
      Gives RecordSource.fields t' ([[some "1", some "a"]], none) := by
  have without : (ofLines { ignoreUnparseableLines := true }
      (ofBytes (Utf8.encode "id,name\n1,a\n2,b\n".toList))).map (fun t =>
        (t.columns, RecordSource.outcomeWithin RecordSource.fields 5 t)) =
      .ok (["id", "name"], some ([[some "1", some "a"], [some "2", some "b"]], none)) := by
    decide +kernel
  have inserted : (ofLines { ignoreUnparseableLines := true }
      (ofBytes (Utf8.encode "id,name\n1,a\n\"x\n2,b\n".toList))).map (fun t =>
        (t.columns, RecordSource.outcomeWithin RecordSource.fields 5 t)) =
      .ok (["id", "name"], some ([[some "1", some "a"]], none)) := by
    decide +kernel
  obtain ⟨t, opened, columns, gives⟩ := RecordSource.exists_gives_of_map without
  obtain ⟨t', opened', columns', gives'⟩ := RecordSource.exists_gives_of_map inserted
  exact ⟨t, t', opened, opened', by decide +kernel, columns, columns', gives, gives'⟩

end TextTable

end PlainTables
