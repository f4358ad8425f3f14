import PlainTables.Proofs.Lines.Bytes
import PlainTables.Proofs.Records.ColumnNames
import PlainTables.Proofs.Records.Outcome
import PlainTables.Proofs.Records.TextRecord
import PlainTables.Proofs.Splitting.Delimited

/-!
# Written tables

A table that is written record by record and read as a text has the header as its columns and gives
all its records back, with as many fields as were written. Only the blanks around the fields are lost.

A written record is read line by line. The front of it that has been read is taken over by the progress at the
last line break, and its end is read as if the record were a single line.
-/

namespace PlainTables

namespace Delimiters

open ByteLines

variable {s q : Char} {fields : List (List Char)} {record ending : List Char}

theorem scan_quoted_separator (apart : Apart s q) (complete : List (List Char))
    (value : List Char) (position : Nat) :
    scan ⟨s, some q⟩ position ⟨complete, value, true⟩ [s] =
      .ok ⟨complete, value ++ [s], true⟩ :=
  takes_char (p := ⟨complete, value, true⟩) apart.distinct (.inr rfl) position []

/-- A separator after the end of a record completes it. -/
theorem WritesRecord.scan_back (apart : Apart s q) (writes : WritesRecord s q fields record)
    {front back : List Char} {p : Progress} (parts : record = front ++ back)
    (takes : Takes ⟨s, some q⟩ {} front p) :
    scan ⟨s, some q⟩ front.length p (chunk ⟨s, some q⟩ back) = .ok ⟨fields, [], false⟩ := by
  have whole := writes.takes apart.distinct []
  rw [parts, List.append_assoc] at whole
  have ended := takes.scan_eq whole []
  rw [List.append_nil] at ended
  exact ended

/-- What is left of a record after a line break inside quotes is read to its end. -/
theorem continueRecord_ofText (apart : Apart s q) (writes : WritesRecord s q fields record)
    (noReturn : ∀ field ∈ fields, NoLineReturn field) (ends : Ends record ending) (line : String)
    (number : Nat) (trim : Bool) (more : List Char) (fuel : Nat) {front back : List Char}
    {complete : List (List Char)} {value : List Char} (parts : record = front ++ '\n' :: back)
    (takes : Takes ⟨s, some q⟩ {} front ⟨complete, value, true⟩) (n : Nat)
    (enough : back.length < fuel) :
    ∃ m, continueRecord ⟨s, some q⟩ line number trim fuel front.length
        ⟨complete, value ++ [s], true⟩ (ofText n (back ++ (ending ++ more))) =
      (.ok (Progress.finish ⟨fields, [], false⟩ trim), ofText m more) := by
  induction fuel generalizing front back complete value n with
  | zero => omega
  | succ fuel ih =>
    unfold continueRecord
    by_cases lastLine : '\n' ∉ back
    · have reading : LineSource.readContinuation (ofText n (back ++ (ending ++ more))) = _ :=
        readLine_ofText n more lastLine (parts ▸ ends).of_append
      have ended := writes.scan_back apart parts takes
      simp only [reading, String.toList_ofList, List.dropLast_concat, ended]
      exact ⟨n + 1, rfl⟩
    · obtain ⟨next, rest, rfl, oneLine⟩ := List.eq_append_cons_of_mem (not_not.mp lastLine)
      have parts' : record = (front ++ '\n' :: next) ++ '\n' :: rest := by
        rw [parts, List.append_assoc, List.cons_append]
      obtain ⟨⟨complete', value', takes'⟩, last⟩ := writes.takes_front apart [] noReturn parts'
      have lineEnds : Ends next ['\n'] := (Ends.newline last).of_append
      have reading := readLine_ofText n (rest ++ (ending ++ more)) oneLine lineEnds
      rw [List.append_assoc, List.cons_append]
      rw [List.singleton_append] at reading
      have reading : LineSource.readContinuation
        (ofText n (next ++ '\n' :: (rest ++ (ending ++ more)))) = _ := reading
      have goesOn := takes.scan_eq takes' [s]
      rw [scan_quoted_separator apart] at goesOn
      simp only [reading, String.toList_ofList, List.dropLast_concat, chunk, goesOn, if_true]
      rw [← List.length_append]
      refine ih parts' takes' _ ?_
      rw [List.length_append, List.length_cons] at enough
      omega

/-- A written record in front of a text is split into its fields, and the text is left. -/
theorem tokenizeRecord_ofText (apart : Apart s q) (writes : WritesRecord s q fields record)
    (noReturn : ∀ field ∈ fields, NoLineReturn field) (ends : Ends record ending) (trim : Bool)
    (more : List Char) (n : Nat) :
    ∃ line r m,
      LineSource.readLine (ofText n (record ++ (ending ++ more))) = (.ok (some line), r) ∧
      tokenizeRecord ⟨s, some q⟩ line r trim =
        (.ok (Progress.finish ⟨fields, [], false⟩ trim), ofText m more) := by
  by_cases oneLine : '\n' ∉ record
  · refine ⟨_, _, n + 1, readLine_ofText n more oneLine ends, ?_⟩
    have ended := writes.scan_back apart (List.nil_append record).symm (.nil {})
    simp only [tokenizeRecord, String.toList_ofList]
    rw [List.length_nil] at ended
    rw [ended]
    rfl
  · obtain ⟨first, rest, rfl, inside⟩ := List.eq_append_cons_of_mem (not_not.mp oneLine)
    obtain ⟨⟨complete, value, takes⟩, last⟩ := writes.takes_front apart [] noReturn rfl
    have reading := readLine_ofText n (rest ++ (ending ++ more)) inside (.newline last)
    rw [List.singleton_append] at reading
    have goesOn := takes 0 [s]
    rw [scan_quoted_separator apart] at goesOn
    rw [List.append_assoc, List.cons_append]
    have enough : rest.length < size (ofText (n + 1) (rest ++ (ending ++ more))) + 1 := by
      have whole := size_ofText (n + 1) (rest ++ (ending ++ more))
      rw [List.length_append] at whole
      omega
    obtain ⟨m, ended⟩ := continueRecord_ofText apart writes noReturn ends (String.ofList first)
      (max 1 (n + 1)) trim more _ rfl takes (n + 1) enough
    refine ⟨_, _, m, reading, ?_⟩
    simp only [tokenizeRecord, String.toList_ofList, chunk, goesOn, if_true]
    rw [String.length_ofList]
    exact ended

end Delimiters

open ByteLines Delimiters

variable {s q : Char}

/-- The ways to write a table: every record with a newline after it. -/
inductive WritesTable (s q : Char) : List (List (List Char)) → List Char → Prop
  | nil : WritesTable s q [] []
  | cons {fields record rows text} : WritesRecord s q fields record → WritesTable s q rows text →
      WritesTable s q (fields :: rows) (record ++ '\n' :: text)

/-- A newline ends a written record, together with the carriage return that may stand before it. -/
theorem Delimiters.WritesRecord.exists_ends (apart : Apart s q) {fields : List (List Char)}
    {record : List Char} (more : List Char) (writes : WritesRecord s q fields record)
    (noReturn : ∀ field ∈ fields, NoLineReturn field) :
    ∃ fields' record' ending, record ++ '\n' :: more = record' ++ (ending ++ more) ∧
      WritesRecord s q fields' record' ∧ (∀ field ∈ fields', NoLineReturn field) ∧
      Ends record' ending ∧ fields'.map Text.trim = fields.map Text.trim := by
  by_cases last : record.getLast? = some '\r'
  · obtain ⟨front, rfl⟩ := List.getLast?_eq_some_iff.mp last
    obtain ⟨fields', writes', sameTrim, noReturn'⟩ := writes.of_concat apart noReturn
    exact ⟨fields', front, _, List.append_assoc .., writes', noReturn', .carriageReturn, sameTrim⟩
  · exact ⟨fields, record, _, rfl, writes, noReturn, .newline last, rfl⟩

namespace TextLayout

def separatedBy (s q : Char) : TextLayout where
  delimiters := ⟨s, some q⟩

theorem readRecord_ofText (apart : Apart s q) {fields : List (List Char)} {record : List Char}
    (writes : WritesRecord s q fields record) (noReturn : ∀ field ∈ fields, NoLineReturn field)
    (more : List Char) (width : Option Nat) (trim : Bool) (n : Nat) :
    ∃ fields' m, fields'.map Text.trim = fields.map Text.trim ∧
      (separatedBy s q).readRecord width trim false (ofText n (record ++ '\n' :: more)) =
        (.ok (some (Progress.finish ⟨fields', [], false⟩ trim)), false, ofText m more) := by
  obtain ⟨fields', record', ending, parts, writes', noReturn', ends, sameTrim⟩ :=
    writes.exists_ends apart more noReturn
  obtain ⟨line, r, m, reading, split⟩ :=
    tokenizeRecord_ofText apart writes' noReturn' ends trim more n
  refine ⟨fields', m, sameTrim, ?_⟩
  have fields : (separatedBy s q).splitting.split line r trim = _ := split
  rw [parts, readRecord, nextRecord]
  simp only [reading, fields]
  rfl

end TextLayout

namespace TextTable

open TextLayout

def before (s q : Char) (names fields : List String) (n : Nat) (text : List Char) :
    TextTable ByteLines where
  lines := ofText n text
  layout := separatedBy s q
  columns := names
  fields
  preamble := false

theorem next_before (apart : Apart s q) {record : List Char} {fields : List (List Char)}
    (writes : WritesRecord s q fields record) (noReturn : ∀ field ∈ fields, NoLineReturn field)
    (names shown : List String) (n : Nat) (more : List Char) :
    ∃ shown' m, (before s q names shown n (record ++ '\n' :: more)).next =
        (.ok true, before s q names shown' m more) ∧
      shown'.map Text.trimmed = fields.map fun field => String.ofList (Text.trim field) := by
  obtain ⟨fields', m, sameTrim, reading⟩ :=
    readRecord_ofText apart writes noReturn more (some names.length) false n
  refine ⟨fields'.map String.ofList, m, ?_, ?_⟩
  · simp only [TextTable.next, before, reading]
    rfl
  · have strings := congrArg (List.map String.ofList) sameTrim
    simpa [Text.trimmed, Function.comp_def] using strings

theorem ofLines_separatedBy {n m : Nat} {text rest : List Char} {names : List String}
    (reading : (separatedBy s q).readRecord none true false (ofText n text) =
      (.ok (some names), false, ofText m rest))
    (distinct : names.Pairwise fun a b => Columns.same a b = false) :
    ofLines (separatedBy s q) (ofText n text) = .ok (before s q names [] m rest) := by
  have header : (separatedBy s q).readRecord none (separatedBy s q).trimHeaders
    (separatedBy s q).commentChar.isSome (ofText n text) = _ := reading
  change openHeaded (separatedBy s q) (ofText n text) = _
  rw [openHeaded, header]
  change (do let columns ← (separatedBy s q).settle names; return _) = _
  rw [settle_eq_ok rfl distinct]
  rfl

theorem reads_before (apart : Apart s q) {rows : List (List (List Char))} {text : List Char}
    (writes : WritesTable s q rows text)
    (noReturn : ∀ fields ∈ rows, ∀ field ∈ fields, NoLineReturn field) (names shown : List String)
    (n : Nat) :
    ∃ states, RecordSource.Reads (before s q names shown n text) states none ∧
      states.map RecordSource.fields =
        rows.map (List.map fun field => some (String.ofList (Text.trim field))) := by
  induction writes generalizing shown n with
  | nil => exact ⟨[], .ended rfl, rfl⟩
  | @cons fields record rows text first _ ih =>
    obtain ⟨shown', m, next, sameTrim⟩ :=
      next_before apart first (noReturn fields List.mem_cons_self) names shown n text
    obtain ⟨states, reads, sameFields⟩ :=
      ih (fun fields mem => noReturn fields (List.mem_cons_of_mem _ mem)) shown' m
    have result : RecordSource.next (before s q names shown n (record ++ '\n' :: text)) = _ := next
    have others : RecordSource.Reads
        (RecordSource.next (before s q names shown n (record ++ '\n' :: text))).2 states none := by
      rw [result]
      exact reads
    refine ⟨_, .record (by rw [result]) others, ?_⟩
    rw [List.map_cons, List.map_cons, sameFields, result, fields_eq]
    have some := congrArg (List.map some) sameTrim
    rw [List.map_map, List.map_map] at some
    exact congrArg (· :: _) some

/-- A table that has been written is read back: its columns are the names of the header, and its
records the rows. -/
theorem reads_written (apart : Apart s q) {header : List (List Char)}
    {rows : List (List (List Char))} {text : List Char}
    (writes : WritesTable s q (header :: rows) text)
    (noReturn : ∀ fields ∈ header :: rows, ∀ field ∈ fields, NoLineReturn field)
    (distinct : (header.map fun field => String.ofList (Text.trim field)).Pairwise
      fun a b => Columns.same a b = false) :
    ∃ t states, ofLines (separatedBy s q) (ByteLines.ofBytes (Utf8.encode text)) = .ok t ∧
      RecordSource.columns t = header.map (fun field => String.ofList (Text.trim field)) ∧
      RecordSource.Reads t states none ∧
      states.map RecordSource.fields =
        rows.map (List.map fun field => some (String.ofList (Text.trim field))) := by
  cases writes with
  | @cons _ record _ text first rest =>
    obtain ⟨header', m, sameTrim, reading⟩ := readRecord_ofText apart first
      (noReturn header List.mem_cons_self) text none true 0
    obtain ⟨states, reads, sameFields⟩ := reads_before apart rest
      (fun fields mem => noReturn fields (List.mem_cons_of_mem _ mem))
      (header.map fun field => String.ofList (Text.trim field)) [] m
    refine ⟨_, states, ?_, rfl, reads, sameFields⟩
    have names : Progress.finish ⟨header', [], false⟩ true =
        header.map fun field => String.ofList (Text.trim field) := by
      have strings := congrArg (List.map String.ofList) sameTrim
      rw [List.map_map, List.map_map] at strings
      exact strings
    rw [names] at reading
    exact ofLines_separatedBy reading distinct

theorem reads_written_over_lines :
    ∃ t states, ofLines (separatedBy ';' '\'') (ByteLines.ofBytes (Utf8.encode
        "id;' na;me '\n1;'it''s\n;'\n\n é ;'';z\r\n".toList)) = .ok t ∧
      RecordSource.columns t = ["id", "na;me"] ∧ RecordSource.Reads t states none ∧
      states.map RecordSource.fields =
        [[some "1", some "it's\n;"], [some ""], [some "é", some "", some "z"]] := by
  have apart : Apart ';' '\'' := ⟨by decide, by decide, by decide, by decide, by decide⟩
  have bare {field : List Char} (separator : ';' ∉ field) (quote : '\'' ∉ field)
      (newline : '\n' ∉ field) : WritesField ';' '\'' field field := .bare separator quote newline
  have writes : WritesTable ';' '\'' (["id".toList, " na;me ".toList] ::
      [["1".toList, "it's\n;".toList], [[]], [" é ".toList, [], "z\r".toList]])
      "id;' na;me '\n1;'it''s\n;'\n\n é ;'';z\r\n".toList :=
    .cons (.cons (bare (by decide) (by decide) (by decide)) (.last .quoted))
      (.cons (.cons (bare (by decide) (by decide) (by decide)) (.last .quoted))
        (.cons (.last (bare (by decide) (by decide) (by decide)))
          (.cons (.cons (bare (by decide) (by decide) (by decide))
            (.cons .quoted (.last (bare (by decide) (by decide) (by decide))))) .nil)))
  exact reads_written apart writes (by decide +kernel) (by decide +kernel)

end TextTable

end PlainTables
