import Mathlib.Data.List.Basic
import PlainTables.Proofs.Records.CommonLines
import PlainTables.Proofs.Records.TextRun

/-!
# Texts with lines around them

Lines that are skipped and the comments of a preamble leave no trace in a table. A text with them has
the columns and the records that it has without them, and stops at the same error.
-/

namespace PlainTables

open ByteLines QueryError

namespace TextLayout

def plain (o : TextLayout) : TextLayout :=
  { o with commentChar := none, skipLeadingLines := 0, skipLeadingDataLines := 0 }

theorem splitting_plain (o : TextLayout) : o.plain.splitting = o.splitting := rfl

/-- These are the lines of a text down to the end of the record that is its header, and those below. -/
def HasHeader (o : TextLayout) (text : List UInt8) (header data : List String) : Prop :=
  linesOf text = header ++ data ∧ ∃ names after r,
    o.readRecord none o.trimHeaders false (ofBytes text) = (.ok (some names), after, r) ∧
      r.Shows data

/-- The first text is the second one with lines that the layout skips and a preamble. With headers, the
preamble and the header stand between the lines to skip; without headers, the preamble stands below
them. -/
inductive Surrounds (o : TextLayout) (whole text : List UInt8) : Prop
  | headed {junk comments header more data : List String} : o.suppressHeaders = false →
      junk.length = o.skipLeadingLines → more.length = o.skipLeadingDataLines →
      (∀ line ∈ comments, LineSource.isPreamble o.commentChar line = true) →
      (∀ line ∈ (header ++ data).head?, LineSource.isPreamble o.commentChar line = false) →
      o.plain.HasHeader text header data →
      linesOf whole = junk ++ comments ++ header ++ more ++ data → Surrounds o whole text
  | bare {junk more comments data : List String} : o.suppressHeaders = true →
      junk.length = o.skipLeadingLines → more.length = o.skipLeadingDataLines →
      (∀ line ∈ comments, LineSource.isPreamble o.commentChar line = true) →
      (∀ line ∈ data.head?, LineSource.isPreamble o.commentChar line = false) →
      linesOf text = data →
      linesOf whole = junk ++ more ++ comments ++ data → Surrounds o whole text

theorem isSome_and_isPreamble (comment : Option Char) (line : String) :
    (comment.isSome && LineSource.isPreamble comment line) = LineSource.isPreamble comment line := by
  cases comment <;> rfl

variable {o : TextLayout} {comments header more data lines : List String} {text : List UInt8}

theorem below_comments
    (areComments : ∀ line ∈ comments, LineSource.isPreamble o.commentChar line = true)
    (first : ∀ line ∈ lines.head?, LineSource.isPreamble o.commentChar line = false) :
    Below o.commentChar o.commentChar.isSome (comments ++ lines) lines :=
  ⟨comments, rfl, by simpa only [isSome_and_isPreamble], by simpa only [isSome_and_isPreamble]⟩

theorem HasHeader.ne_nil (hasHeader : o.HasHeader text header data) : header ≠ [] := by
  rintro rfl
  obtain ⟨lines, names, after, r, reading, left⟩ := hasHeader
  have found : FoundAbove data [""] (o.recordIn none o.trimHeaders false (ofBytes text)) := by
    refine .inr ⟨⟨names, ?_⟩, [], ?_⟩
    · rw [recordIn, reading]
    · rw [recordIn, reading]
      exact left
  have shows : (ofBytes text).Shows data := by
    have shows := shows_ofBytes text
    rwa [lines] at shows
  cases (eq_nil_of_foundAbove shows found).2

end TextLayout

namespace TextTable

open TextLayout

/-- The tables have the same records to come: their lines are the same, but for a preamble above those of
the second one. -/
structure SameRecords (t u : TextTable ByteLines) : Prop where
  splitting : t.layout.splitting = u.layout.splitting
  ignoring : t.layout.ignoreUnparseableLines = u.layout.ignoreUnparseableLines
  columns : t.columns = u.columns
  pending : t.pending = u.pending
  exhausted : t.exhausted = u.exhausted
  plain : t.preamble = false
  lines : ∃ lines lines', t.lines.Shows lines ∧ u.lines.Shows lines' ∧
    Below u.layout.commentChar u.preamble lines' lines

variable {t u : TextTable ByteLines}

inductive NextTogether : Reading (TextTable ByteLines) Bool → Reading (TextTable ByteLines) Bool → Prop
  | ended (t u : TextTable ByteLines) : NextTogether (.ok false, t) (.ok false, u)
  | failed {e e' : QueryError} (t u : TextTable ByteLines) : e.unnumbered = e'.unnumbered →
      NextTogether (.error e, t) (.error e', u)
  | record {t u : TextTable ByteLines} : SameRecords t u → t.fields = u.fields →
      NextTogether (.ok true, t) (.ok true, u)

theorem SameRecords.next (same : SameRecords t u) : NextTogether t.next u.next := by
  have width : u.columns.length = t.columns.length := by rw [same.columns]
  unfold TextTable.next
  rw [← same.exhausted, ← same.pending, width, same.plain]
  cases exhausted : t.exhausted with
  | true => exact .ended _ _
  | false =>
    simp only [Bool.false_eq_true, if_false]
    cases pending : t.pending with
    | some fields =>
      exact .record { same with pending := rfl, exhausted := rfl, plain := rfl } rfl
    | none =>
      obtain ⟨lines, lines', shows, shows', below⟩ := same.lines
      have isPlain := t.layout.preamble_of_false (some t.columns.length) false t.lines
      obtain ⟨alike, rest, left, left', below'⟩ :=
        recordIn_common_to_end same.splitting same.ignoring (some t.columns.length) false shows
          shows' below
      unfold recordIn at alike left left'
      generalize t.layout.readRecord (some t.columns.length) false false t.lines = first
        at alike left isPlain
      generalize u.layout.readRecord (some t.columns.length) false u.preamble u.lines = second
        at alike left' below'
      obtain ⟨found, after, r⟩ := first
      obtain ⟨found', after', s⟩ := second
      simp only at alike left left' below' isPlain
      cases alike with
      | error same => exact .failed _ _ same
      | ok found =>
        cases found with
        | none => exact .ended _ _
        | some fields =>
          exact .record { same with
            pending := rfl, exhausted := rfl, plain := isPlain,
            lines := ⟨_, _, left, left', below'⟩ } rfl

theorem SameRecords.gives (same : SameRecords t u) :
    ∃ records stop stop', RecordSource.Gives RecordSource.fields t (records, stop) ∧
      RecordSource.Gives RecordSource.fields u (records, stop') ∧
      stop.map unnumbered = stop'.map unnumbered := by
  obtain ⟨states, stop, reads⟩ := RecordSource.exists_reads t
  suffices ∃ others stop', RecordSource.Reads u others stop' ∧
      others.map RecordSource.fields = states.map RecordSource.fields ∧
      stop.map unnumbered = stop'.map unnumbered by
    obtain ⟨others, stop', reads', records, stops⟩ := this
    exact ⟨_, stop, stop', ⟨states, reads, rfl⟩, ⟨others, reads', records⟩, stops⟩
  induction reads generalizing u with
  | @ended t atEnd =>
    have next : NextTogether (RecordSource.next t) (RecordSource.next u) := same.next
    generalize RecordSource.next t = first at atEnd next
    generalize reading : RecordSource.next u = second at next
    cases next with
    | ended => exact ⟨[], none, .ended (by rw [reading]), rfl, rfl⟩
    | failed => cases atEnd
    | record => cases atEnd
  | @failed t e atError =>
    have next : NextTogether (RecordSource.next t) (RecordSource.next u) := same.next
    generalize RecordSource.next t = first at atError next
    generalize reading : RecordSource.next u = second at next
    cases next with
    | ended => cases atError
    | failed t u sameKind =>
      cases atError
      exact ⟨[], _, .failed (by rw [reading]), rfl, congrArg some sameKind⟩
    | record => cases atError
  | @record t states stop atRecord rest ih =>
    have next : NextTogether (RecordSource.next t) (RecordSource.next u) := same.next
    generalize RecordSource.next t = first at atRecord next rest ih
    generalize reading : RecordSource.next u = second at next
    cases next with
    | ended => cases atRecord
    | failed => cases atRecord
    | @record t' u' same fields =>
      obtain ⟨others, stop', reads, records, stops⟩ := ih same
      have next : RecordSource.next u = (.ok true, u') := reading
      refine ⟨_, stop', .record (congrArg Prod.fst next) (by rw [next]; exact reads), ?_, stops⟩
      rw [List.map_cons, List.map_cons, records, next]
      simp only [TextTable.fields_eq, fields]

inductive OpenTogether : Except QueryError (TextTable ByteLines) →
    Except QueryError (TextTable ByteLines) → Prop
  | opened {t u : TextTable ByteLines} : SameRecords t u → OpenTogether (.ok t) (.ok u)
  | failed {e e' : QueryError} : e.unnumbered = e'.unnumbered →
      OpenTogether (.error e) (.error e')

variable {o : TextLayout} {comments header more data : List String} {text : List UInt8}
  {r s : ByteLines}

theorem openTogether_of_names (names : Except QueryError (List String))
    {table other : List String → TextTable ByteLines}
    (same : ∀ columns, SameRecords (table columns) (other columns)) :
    OpenTogether ((names.bind o.settle).map table) ((names.bind o.settle).map other) := by
  cases names.bind o.settle with
  | error e => exact .failed rfl
  | ok columns => exact .opened (same columns)

theorem openHeaded_together (hasHeader : o.plain.HasHeader text header data)
    (areComments : ∀ line ∈ comments, LineSource.isPreamble o.commentChar line = true)
    (first : ∀ line ∈ (header ++ data).head?, LineSource.isPreamble o.commentChar line = false)
    (count : more.length = o.skipLeadingDataLines)
    (shows : r.Shows (comments ++ (header ++ (more ++ data)))) :
    OpenTogether (openHeaded o.plain (ofBytes text)) (openHeaded o r) := by
  have below : Below o.commentChar o.commentChar.isSome (comments ++ (header ++ (more ++ data)))
      (header ++ (more ++ data)) := by
    refine below_comments areComments ?_
    obtain ⟨line, header, rfl⟩ := List.exists_cons_of_ne_nil hasHeader.ne_nil
    exact first
  obtain ⟨lines, names, after, s, reading, left⟩ := hasHeader
  obtain rfl := preamble_of_record reading
  replace reading :
    o.plain.readRecord none o.trimHeaders false (ofBytes text) = (.ok (some names), false, s) := reading
  have textShows := shows_ofBytes text
  rw [lines] at textShows
  have record : o.plain.recordIn none o.trimHeaders false (ofBytes text) = (.ok (some names), s) := by
    rw [recordIn, reading]
  have found : FoundAbove data (more ++ data)
      (o.plain.recordIn none o.trimHeaders false (ofBytes text)) := by
    rw [record]
    exact .inr ⟨⟨names, rfl⟩, [], left⟩
  obtain ⟨alike, rest, left', shows', below'⟩ :=
    recordIn_common o.splitting_plain rfl none o.trimHeaders textShows shows below found
  rw [record] at alike left'
  -- The header takes up its own lines and no other ones, so that the lines to skip are next.
  obtain rfl : rest = [] := List.append_left_eq_self.mp (left'.unique left)
  rcases reading' : o.readRecord none o.trimHeaders o.commentChar.isSome r with ⟨found', after', s'⟩
  rw [recordIn, reading'] at alike shows'
  rw [reading'] at below'
  cases alike
  obtain rfl := preamble_of_record reading'
  obtain ⟨u, skipped, shows''⟩ := Shows.skip (r := s') shows' o.skipLeadingDataLines
  rw [List.nil_append, ← count, List.drop_left] at shows''
  rw [openHeaded_eq (o := o.plain) reading rfl, openHeaded_eq reading' skipped]
  exact openTogether_of_names _
    fun columns => ⟨rfl, rfl, rfl, rfl, rfl, rfl, data, data, left, shows'', .refl _ _⟩

theorem openBare_together
    (areComments : ∀ line ∈ comments, LineSource.isPreamble o.commentChar line = true)
    (first : ∀ line ∈ data.head?, LineSource.isPreamble o.commentChar line = false)
    (count : more.length = o.skipLeadingDataLines) (shows : s.Shows data)
    (shows' : r.Shows (more ++ (comments ++ data))) :
    OpenTogether (openBare o.plain s) (openBare o r) := by
  have below := below_comments areComments first
  obtain ⟨t, skipped, shows'⟩ := shows'.skip o.skipLeadingDataLines
  rw [← count, List.drop_left] at shows'
  cases named : o.configured with
  | some names =>
    rw [openBare_eq_of_configured (o := o.plain) rfl named,
      openBare_eq_of_configured skipped named]
    exact openTogether_of_names names
      fun columns => ⟨rfl, rfl, rfl, rfl, rfl, rfl, data, _, shows, shows', below⟩
  | none =>
    -- The columns are counted in the first record, which is read ahead and is still to come.
    have isPlain := o.plain.preamble_of_false none false s
    obtain ⟨alike, rest, left, left', below'⟩ :=
      recordIn_common_to_end o.splitting_plain rfl none false shows shows' below
    unfold recordIn at alike left left'
    rcases reading : o.plain.readRecord none false false s with ⟨found, after, s'⟩
    rcases reading' : o.readRecord none false o.commentChar.isSome t with ⟨found', after', t'⟩
    rw [reading] at alike left isPlain
    rw [reading'] at alike left' below'
    obtain rfl : after = false := isPlain
    rw [openBare_eq_of_reading (o := o.plain) rfl named reading,
      openBare_eq_of_reading skipped named reading']
    cases alike with
    | error same => exact .failed same
    | ok pending =>
      exact openTogether_of_names (.ok _)
        fun columns => ⟨rfl, rfl, rfl, rfl, rfl, rfl, _, _, left, left', below'⟩

theorem ofLines_together {whole : List UInt8} (surrounds : o.Surrounds whole text) :
    OpenTogether (ofLines o.plain (ofBytes text)) (ofLines o (ofBytes whole)) := by
  cases surrounds with
  | @headed junk comments header more data headed count count' areComments first hasHeader lines =>
    have shows := shows_ofBytes whole
    rw [lines] at shows
    obtain ⟨r, skipped, below⟩ := shows.skip o.skipLeadingLines
    simp only [← count, List.append_assoc, List.drop_left] at below
    rw [ofLines_of_skip (o := o.plain) rfl, ofLines_of_skip skipped, headed]
    have together := openHeaded_together hasHeader areComments first count' below
    simpa [plain, headed] using together
  | @bare junk more comments data bare count count' areComments first lines lines' =>
    have shows := shows_ofBytes text
    have shows' := shows_ofBytes whole
    rw [lines] at shows
    rw [lines'] at shows'
    obtain ⟨r, skipped, below⟩ := shows'.skip o.skipLeadingLines
    simp only [← count, List.append_assoc, List.drop_left] at below
    rw [ofLines_of_skip (o := o.plain) rfl, ofLines_of_skip skipped, bare]
    have together := openBare_together areComments first count' shows below
    simpa [plain, bare] using together

/-- A text with lines to skip and with comments has the columns and the records that it has without
them, or it cannot be opened either way. Errors differ in their line numbers only. -/
theorem gives_without_surroundings (o : TextLayout) {whole text : List UInt8}
    (surrounds : o.Surrounds whole text) :
    (∃ e e', ofLines o (ofBytes whole) = .error e ∧ ofLines o.plain (ofBytes text) = .error e' ∧
      e.unnumbered = e'.unnumbered) ∨
    ∃ t u, ofLines o (ofBytes whole) = .ok t ∧ ofLines o.plain (ofBytes text) = .ok u ∧
      RecordSource.columns t = RecordSource.columns u ∧ ∃ records stop stop',
        RecordSource.Gives RecordSource.fields t (records, stop) ∧
        RecordSource.Gives RecordSource.fields u (records, stop') ∧
        stop.map unnumbered = stop'.map unnumbered := by
  have together := ofLines_together surrounds
  generalize ofLines o.plain (ofBytes text) = plain at together
  generalize ofLines o (ofBytes whole) = opened at together
  cases together with
  | failed same => exact .inl ⟨_, _, rfl, rfl, same.symm⟩
  | opened same =>
    obtain ⟨records, stop, stop', gives, gives', stops⟩ := same.gives
    exact .inr ⟨_, _, rfl, rfl, same.columns.symm, records, stop', stop, gives', gives, stops.symm⟩

/-- The header is found below a line to skip, comments and a title, and ends in the next line. -/
theorem gives_without_surroundings_of_title :
    ∃ t u, ofLines
        { commentChar := some '#', skipLeadingLines := 1, skipLeadingDataLines := 1,
          ignoreUnparseableLines := true }
        (ofBytes (Utf8.encode
          "junk\n#\n\ntitle\nid,\"na\nme\"\n\"\n1,#\n\n#,2\n".toList)) = .ok t ∧
      ofLines { ignoreUnparseableLines := true }
        (ofBytes (Utf8.encode "title\nid,\"na\nme\"\n1,#\n\n#,2\n".toList)) = .ok u ∧
      RecordSource.columns t = ["id", "na\nme"] ∧ RecordSource.columns u = ["id", "na\nme"] ∧
      RecordSource.Gives RecordSource.fields t ([[some "1", some "#"], [some "#", some "2"]], none) ∧
      RecordSource.Gives RecordSource.fields u ([[some "1", some "#"], [some "#", some "2"]], none) := by
  have hasHeader : HasHeader { ignoreUnparseableLines := true }
      (Utf8.encode "title\nid,\"na\nme\"\n1,#\n\n#,2\n".toList) ["title", "id,\"na", "me\""]
      ["1,#", "", "#,2"] :=
    ⟨by decide +kernel, ["id", "na\nme"], false,
      atBytes (Utf8.encode "1,#\n\n#,2\n".toList) 3, by decide +kernel, _, rfl, by decide +kernel⟩
  have surrounds : Surrounds
      { commentChar := some '#', skipLeadingLines := 1, skipLeadingDataLines := 1,
        ignoreUnparseableLines := true }
      (Utf8.encode "junk\n#\n\ntitle\nid,\"na\nme\"\n\"\n1,#\n\n#,2\n".toList)
      (Utf8.encode "title\nid,\"na\nme\"\n1,#\n\n#,2\n".toList) :=
    .headed rfl (rfl : ["junk"].length = 1) (rfl : ["\""].length = 1)
      (by decide : ∀ line ∈ ["#", ""], LineSource.isPreamble (some '#') line = true)
      (by decide) hasHeader (by decide +kernel)
  have read : (ofLines { ignoreUnparseableLines := true }
      (ofBytes (Utf8.encode "title\nid,\"na\nme\"\n1,#\n\n#,2\n".toList))).map (fun t =>
        (t.columns, RecordSource.outcomeWithin RecordSource.fields 4 t)) =
      .ok (["id", "na\nme"], some ([[some "1", some "#"], [some "#", some "2"]], none)) := by decide +kernel
  obtain ⟨table, opened, columns, found⟩ := RecordSource.exists_gives_of_map read
  rcases gives_without_surroundings _ surrounds with ⟨_, e, _, failed, _⟩ | ⟨t, u, both⟩
  · cases opened.symm.trans failed
  · obtain ⟨opened', opened'', same, records, stop, stop', gives, gives', stops⟩ := both
    cases opened.symm.trans opened''
    cases gives'.unique found
    obtain rfl : stop = none := Option.map_eq_none_iff.mp stops
    exact ⟨t, table, opened', opened, same.trans columns, columns, gives, gives'⟩

end TextTable

end PlainTables
