import Mathlib.Data.List.Forall2
import PlainTables.Proofs.Lines.Correspondence
import PlainTables.Proofs.Records.Tagged

/-!
# Tables in corresponding sources

What reading lines does not tell apart, reading records does not either: tables in corresponding
sources open alike, with the same columns, and give the same records with the values of the same
files.
-/

namespace PlainTables

open LineSource

variable {ρ : Type} [LineSource ρ] {R : ρ → ρ → Prop} {r s : ρ}

namespace TextLayout

/-- After a record comments are possible in both sources or in none, and both are in its file. -/
def AfterRecord (R : ρ → ρ → Prop) (found : Option (List String)) (a b : Bool × ρ) : Prop :=
  a.1 = b.1 ∧ R a.2 b.2 ∧ (found.isSome → fileValues a.2 = fileValues b.2)

theorem nextRecord_alike (same : Correspondence R) (o : TextLayout) (width : Option Nat)
    (trim : Bool) (fuel : Nat) (preamble : Bool) (related : R r s) :
    Reading.Alike (AfterRecord R) (o.nextRecord width trim fuel preamble r)
      (o.nextRecord width trim fuel preamble s) := by
  induction fuel generalizing preamble r s with
  | zero => exact .ok ⟨rfl, related, by simp⟩
  | succ fuel ih =>
    have reading := same.line related
    rw [nextRecord, nextRecord]
    generalize readLine r = first at reading
    generalize readLine s = second at reading
    cases reading with
    | error => exact .error
    | @ok line r' s' after =>
      cases line with
      | none => exact .ok ⟨rfl, after.1, by simp⟩
      | some line =>
        simp only
        split
        · exact ih true after.1
        · obtain ⟨result, split⟩ := same.split o.splitting line trim ⟨after.1, after.2 rfl⟩
          generalize o.splitting.split line r' trim = first at result split
          generalize o.splitting.split line s' trim = second at result split
          obtain ⟨fields, r''⟩ := first
          obtain ⟨fields', s''⟩ := second
          obtain rfl : fields = fields' := result
          rcases fields with e | fields
          · simp only
            split
            · exact ih false split.1
            · exact .error
          · simp only
            split
            · exact .ok ⟨rfl, split.1, fun _ => split.2⟩
            · exact ih false split.1

theorem readRecord_alike (same : Correspondence R) (o : TextLayout) (width : Option Nat)
    (trim preamble : Bool) (related : R r s) :
    Reading.Alike (AfterRecord R) (o.readRecord width trim preamble r)
      (o.readRecord width trim preamble s) := by
  unfold readRecord
  rw [same.left related]
  exact nextRecord_alike same o width trim _ preamble related

end TextLayout

namespace TextTable

/-- Tables that differ in their sources only, which correspond. A record that was read ahead is from
the same file. -/
inductive Corresponds (R : ρ → ρ → Prop) : TextTable ρ → TextTable ρ → Prop
  | mk {t : TextTable ρ} {s : ρ} : R t.lines s →
      (t.pending.isSome → fileValues t.lines = fileValues s) → Corresponds R t { t with lines := s }

inductive OpenAlike (R : ρ → ρ → Prop) :
    Except QueryError (TextTable ρ) → Except QueryError (TextTable ρ) → Prop
  | ok {t u} : Corresponds R t u → OpenAlike R (.ok t) (.ok u)
  | error {e} : OpenAlike R (.error e) (.error e)

theorem openAlike_of_columns (o : TextLayout) (names : Except QueryError (List String))
    (pending : Option (List String)) (preamble : Bool) (related : R r s)
    (values : pending.isSome → fileValues r = fileValues s) :
    OpenAlike R
      (do return ({ lines := r, layout := o, columns := ← o.settle (← names), pending, preamble } :
        TextTable ρ))
      (do return ({ lines := s, layout := o, columns := ← o.settle (← names), pending, preamble } :
        TextTable ρ)) := by
  cases names with
  | error e => exact .error
  | ok names =>
    cases settled : o.settle names with
    | error e => simp only [bind, Except.bind, settled]; exact .error
    | ok columns => simp only [bind, Except.bind, settled]; exact .ok (.mk related values)

theorem openBare_alike (same : Correspondence R) (o : TextLayout) (related : R r s) :
    OpenAlike R (openBare o r) (openBare o s) := by
  have skipped := same.skip o.skipLeadingDataLines related
  unfold openBare
  generalize LineSource.skip o.skipLeadingDataLines r = first at skipped
  generalize LineSource.skip o.skipLeadingDataLines s = second at skipped
  cases skipped with
  | error => exact .error
  | @ok _ r' s' related' =>
    cases o.configured with
    | some names => exact openAlike_of_columns o names none _ related' (by simp)
    | none =>
      have reading := o.readRecord_alike same none false o.commentChar.isSome related'
      simp only
      generalize o.readRecord none false o.commentChar.isSome r' = first at reading
      generalize o.readRecord none false o.commentChar.isSome s' = second at reading
      cases reading with
      | error => exact .error
      | @ok pending a b after =>
        obtain ⟨preamble, r''⟩ := a
        obtain ⟨preamble', s''⟩ := b
        obtain ⟨rfl, related'', values⟩ := after
        exact openAlike_of_columns o (.ok _) pending preamble related'' values

theorem openHeaded_alike (same : Correspondence R) (o : TextLayout) (related : R r s) :
    OpenAlike R (openHeaded o r) (openHeaded o s) := by
  have reading := o.readRecord_alike same none o.trimHeaders o.commentChar.isSome related
  unfold openHeaded
  generalize o.readRecord none o.trimHeaders o.commentChar.isSome r = first at reading
  generalize o.readRecord none o.trimHeaders o.commentChar.isSome s = second at reading
  cases reading with
  | error => exact .error
  | @ok header a b after =>
    obtain ⟨preamble, r'⟩ := a
    obtain ⟨preamble', s'⟩ := b
    obtain ⟨rfl, related', -⟩ := after
    have skipped := same.skip o.skipLeadingDataLines related'
    simp only
    generalize LineSource.skip o.skipLeadingDataLines r' = first at skipped
    generalize LineSource.skip o.skipLeadingDataLines s' = second at skipped
    cases skipped with
    | error => exact .error
    | ok related'' => exact openAlike_of_columns o _ none preamble related'' (by simp)

theorem ofLines_alike (same : Correspondence R) (o : TextLayout) (related : R r s) :
    OpenAlike R (ofLines o r) (ofLines o s) := by
  have skipped := same.skip o.skipLeadingLines related
  unfold ofLines
  generalize LineSource.skip o.skipLeadingLines r = first at skipped
  generalize LineSource.skip o.skipLeadingLines s = second at skipped
  cases skipped with
  | error => exact .error
  | ok related' =>
    cases headers : o.suppressHeaders with
    | true => exact openBare_alike same o related'
    | false => exact openHeaded_alike same o related'

def AfterNext (R : ρ → ρ → Prop) (more : Bool) (t u : TextTable ρ) : Prop :=
  Corresponds R t u ∧ (more → fileValues t.lines = fileValues u.lines)

theorem next_alike (same : Correspondence R) {t u : TextTable ρ} (tables : Corresponds R t u) :
    Reading.Alike (AfterNext R) t.next u.next := by
  obtain @⟨s, related, values⟩ := tables
  unfold next
  simp only
  split
  · exact .ok ⟨.mk related values, by simp⟩
  · cases pending : t.pending with
    | some fields =>
      have sameFile := values (by rw [pending]; rfl)
      exact .ok ⟨.mk (t := { t with fields, pending := none }) related (by simp), fun _ => sameFile⟩
    | none =>
      have reading :=
        t.layout.readRecord_alike same (some t.columns.length) false t.preamble related
      simp only
      generalize t.layout.readRecord (some t.columns.length) false t.preamble t.lines = first
        at reading
      generalize t.layout.readRecord (some t.columns.length) false t.preamble s = second at reading
      cases reading with
      | error => exact .error
      | @ok found a b after =>
        obtain ⟨preamble, r'⟩ := a
        obtain ⟨preamble', s'⟩ := b
        obtain ⟨rfl, related', values'⟩ := after
        cases found with
        | none =>
          exact .ok ⟨.mk (t := { t with
            preamble, lines := r', fields := [], pending := none, exhausted := true }) related'
            (by simp), by simp⟩
        | some fields =>
          exact .ok ⟨.mk (t := { t with preamble, lines := r', fields, pending := none }) related'
            (by simp), fun _ => values' rfl⟩

/-- Tables that correspond are read through corresponding states, each of them in the same file. -/
theorem reads_alike (same : Correspondence R) {t u : TextTable ρ} {states : List (TextTable ρ)}
    {stop : Option QueryError} (tables : Corresponds R t u)
    (reads : RecordSource.Reads t states stop) :
    ∃ others, RecordSource.Reads u others stop ∧ List.Forall₂ (AfterNext R true) states others := by
  induction reads generalizing u with
  | ended atEnd =>
    have result := (next_alike same tables).result_eq
    exact ⟨[], .ended (result.symm.trans atEnd), .nil⟩
  | failed atError =>
    have result := (next_alike same tables).result_eq
    exact ⟨[], .failed (result.symm.trans atError), .nil⟩
  | record atRecord _ ih =>
    have alike := next_alike same tables
    have after := alike.after atRecord
    obtain ⟨others, reads', each⟩ := ih after.1
    exact ⟨_, .record (alike.result_eq.symm.trans atRecord) reads', .cons after each⟩

end TextTable

namespace TaggedTable

def shown (t : TaggedTable (TextTable ρ)) : List (Option String) × List String :=
  (RecordSource.fields t, t.values)

/-- Tables that correspond give the same records with the same values of file names. -/
theorem gives_alike (same : Correspondence R) {t u : TextTable ρ}
    (tables : TextTable.Corresponds R t u) (names : List String) (prepended : Bool) :
    ∃ outcome, RecordSource.Gives shown (ofTable t names prepended) outcome ∧
      RecordSource.Gives shown (ofTable u names prepended) outcome := by
  obtain ⟨states, stop, reads⟩ := RecordSource.exists_reads t
  obtain ⟨others, reads', each⟩ := TextTable.reads_alike same tables reads
  refine ⟨(_, stop), ⟨_, reads_atState (t := ofTable t names prepended) reads, rfl⟩,
    ⟨_, reads_atState (t := ofTable u names prepended) reads', ?_⟩⟩
  rw [List.map_map, List.map_map]
  clear reads reads' tables
  induction each with
  | nil => rfl
  | @cons a b _ _ after _ ih =>
    rw [List.map_cons, List.map_cons, ih]
    refine congrArg (· :: _) ?_
    obtain ⟨⟨related, _⟩, values⟩ := after
    have sameValues : RecordSource.fileValues a = fileValues _ := values rfl
    simp only [Function.comp_apply, shown, fields_eq, TextTable.fields_eq, atState, ofTable]
    rw [sameValues]
    rfl

/-- Corresponding sources can be opened as tables with the same columns and the same records, or fail
to be opened for the same reason. -/
theorem opens_alike (same : Correspondence R) (o : TextLayout) (related : R r s)
    (names : List String) (prepended : Bool) :
    (∃ e, TextTable.ofLines o r = .error e ∧ TextTable.ofLines o s = .error e) ∨
      ∃ t u, TextTable.ofLines o r = .ok t ∧ TextTable.ofLines o s = .ok u ∧
        (ofTable u names prepended).columns = (ofTable t names prepended).columns ∧
        ∃ outcome, RecordSource.Gives shown (ofTable t names prepended) outcome ∧
          RecordSource.Gives shown (ofTable u names prepended) outcome := by
  have opened := TextTable.ofLines_alike same o related
  generalize TextTable.ofLines o r = first at opened
  generalize TextTable.ofLines o s = second at opened
  cases opened with
  | @error e => exact .inl ⟨e, rfl, rfl⟩
  | @ok t u tables =>
    have columns : u.columns = t.columns := by cases tables; rfl
    refine .inr ⟨t, u, rfl, rfl, ?_, gives_alike same tables names prepended⟩
    simp only [ofTable, RecordSource.columns, columns]

end TaggedTable

end PlainTables
