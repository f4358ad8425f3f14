import PlainTables.Proofs.Records.ColumnNames
import PlainTables.Proofs.Records.Failure
import PlainTables.Proofs.Records.FileRun
import PlainTables.Proofs.Records.Outcome

/-!
# The file that a record is from

A set of files is always before a file or amid one of them, of which it has read the lines from the first one
on. The lines that it gives are those of this file, and so are the records that are split off from them.
-/

namespace PlainTables

namespace ByteLines

inductive LeadsTo (start : ByteLines) : ByteLines → Prop
  | start : LeadsTo start start
  | line {r : ByteLines} : LeadsTo start r → LeadsTo start r.readLine.2

theorem LeadsTo.keepsLines (start : ByteLines) :
    LineSource.KeepsLines ByteLines (LeadsTo start) fun _ => True :=
  LineSource.keepsLines_any (fun _ leads => leads.line) fun _ leads => leads.line

end ByteLines

namespace FileSetLines

def ReadsIn (l : FileSetLayout) (file : SetFile) (r : ByteLines) : Prop :=
  ∃ start, openFile l.cipher file = .ok start ∧ start.LeadsTo r

/-- A set over these files is before a file, or amid one of them, or closed. -/
inductive Amid (l : FileSetLayout) (all : List SetFile) : FileSetLines → Prop
  | before {files : List SetFile} (values : List String) (openedAny : Bool) : files <:+ all →
      Amid l all (before l files values openedAny)
  | inside {file : SetFile} {files : List SetFile} {r : ByteLines} : file :: files <:+ all →
      ReadsIn l file r → Amid l all (inside l files file.values r)
  | closed {s : FileSetLines} : s.closed = true → Amid l all s

/-- The set is amid the file of which it has just read this line. -/
def HasRead (l : FileSetLayout) (all : List SetFile) (line : String) (s : FileSetLines) : Prop :=
  ∃ file files r r', file :: files <:+ all ∧ ReadsIn l file r ∧
    r.readLine = (.ok (some line), r') ∧ s = inside l files file.values r'

/-- Reading leaves the set amid a file, and that of the line if there is one. -/
def Follows (l : FileSetLayout) (all : List SetFile) (x : Reading FileSetLines (Option String)) : Prop :=
  Amid l all x.2 ∧ ∀ line, x.1 = .ok (some line) → HasRead l all line x.2

variable {l : FileSetLayout} {all : List SetFile} {file : SetFile} {files : List SetFile}
  {r : ByteLines} {s : FileSetLines}

theorem ReadsIn.line (reads : ReadsIn l file r) : ReadsIn l file r.readLine.2 := by
  obtain ⟨start, opening, leads⟩ := reads
  exact ⟨start, opening, leads.line⟩

theorem HasRead.amid {line : String} (read : HasRead l all line s) : Amid l all s := by
  obtain ⟨file, files, r, r', suffix, reads, reading, rfl⟩ := read
  have below := reads.line
  rw [reading] at below
  exact .inside suffix below

theorem HasRead.follows {line : String} (read : HasRead l all line s) :
    Follows l all (.ok (some line), s) := by
  refine ⟨read.amid, fun line' found => ?_⟩
  cases found
  exact read

theorem Amid.follows_none (amid : Amid l all s) : Follows l all (.ok none, s) :=
  ⟨amid, by simp⟩

theorem Amid.follows_error (amid : Amid l all s) (e : QueryError) : Follows l all (.error e, s) :=
  ⟨amid, by simp⟩

theorem follows_inside (suffix : file :: files <:+ all) (reads : ReadsIn l file r)
    (after : Follows l all (LineSource.readLine (before l files file.values true))) :
    Follows l all (LineSource.readLine (inside l files file.values r)) := by
  have below := reads.line
  rw [readLine_inside]
  rcases reading : r.readLine with ⟨e | _ | line, r'⟩
  · rw [reading] at below
    exact (Amid.inside suffix below).follows_error e
  · exact after
  · have read : HasRead l all line (inside l files file.values r') :=
      ⟨file, files, r, r', suffix, reads, reading, rfl⟩
    exact read.follows

/-- Before a file the set goes on with the first line that there is in one of the files to come. -/
theorem follows_before (values : List String) (openedAny : Bool) (suffix : files <:+ all) :
    Follows l all (LineSource.readLine (before l files values openedAny)) := by
  induction files generalizing values openedAny with
  | nil => exact (Amid.before values openedAny suffix).follows_none
  | cons file files ih =>
    have suffix' : files <:+ all := (List.suffix_cons file files).trans suffix
    have unfolded : LineSource.readLine (before l (file :: files) values openedAny) =
      readFrom (files.length + 3) (before l (file :: files) values openedAny) := rfl
    have closed : (before l (file :: files) values openedAny).current.isSome = false := rfl
    have step := openNext_before l file files values openedAny
    cases opening : openFile l.cipher file with
    | error e =>
      rw [opening] at step
      rw [unfolded, readFrom]
      simp only [closed, step, Bool.false_eq_true, if_false]
      exact (Amid.before values openedAny suffix').follows_error e
    | ok start =>
      have top : start.LeadsTo (if openedAny then skipTop l start else (.ok none, start)).2 ∧
          ∀ line, (if openedAny then skipTop l start else (.ok none, start)).1 = .ok (some line) →
            ∃ r₀, start.LeadsTo r₀ ∧ r₀.readLine =
              (.ok (some line), (if openedAny then skipTop l start else (.ok none, start)).2) := by
        split
        · have kept := keeps_skipTop (ByteLines.LeadsTo.keepsLines start) l .start
          exact ⟨kept.1.2, kept.2⟩
        · exact ⟨.start, by simp⟩
      rw [opening] at step
      simp only at step
      generalize (if openedAny then skipTop l start else (.ok none, start)) = reading at top step
      obtain ⟨result, r⟩ := reading
      rcases result with e | _ | line
      · rw [unfolded, readFrom]
        simp only [closed, step, Bool.false_eq_true, if_false]
        exact (Amid.before values openedAny suffix').follows_error e
      · rw [readLine_of_openNext step]
        exact follows_inside suffix ⟨start, opening, top.1⟩ (ih file.values true suffix')
      · obtain ⟨r₀, leads, read⟩ := top.2 line rfl
        have read : HasRead l all line (inside l files file.values r) :=
          ⟨file, files, r₀, r, suffix, ⟨start, opening, leads⟩, read, rfl⟩
        rw [unfolded, readFrom]
        simp only [closed, step, Bool.false_eq_true, if_false]
        exact read.follows

theorem Amid.follows (amid : Amid l all s) : Follows l all (LineSource.readLine s) := by
  cases amid with
  | before values openedAny suffix => exact follows_before values openedAny suffix
  | @inside file files r suffix reads =>
    exact follows_inside suffix reads
      (follows_before file.values true ((List.suffix_cons file files).trans suffix))
  | closed closed =>
    have failed : LineSource.readLine s = (.error (.io .streamClosed), s) := if_pos closed
    rw [failed]
    exact (Amid.closed closed).follows_error _

theorem Amid.readContinuation (amid : Amid l all s) : Amid l all (LineSource.readContinuation s).2 := by
  cases amid with
  | before values openedAny suffix => exact .before values openedAny suffix
  | inside suffix reads => exact .inside suffix reads.line
  | closed closed =>
    have failed : LineSource.readContinuation s = (.error (.io .streamClosed), s) := if_pos closed
    rw [failed]
    exact .closed closed

theorem Amid.keepsLines : LineSource.KeepsLines FileSetLines (Amid l all) fun _ => True :=
  LineSource.keepsLines_any (fun _ amid => amid.follows.1) fun _ amid => amid.readContinuation

end FileSetLines

open FileSetLines (ReadsIn Amid HasRead inside)

variable {o : TextLayout} {l : FileSetLayout} {all : List SetFile} {s s' : FileSetLines}

namespace TextLayout

/-- The file holds a record with these fields, which ends at this place in it. -/
def HoldsRecord (o : TextLayout) (l : FileSetLayout) (file : SetFile) (fields : List String)
    (r : ByteLines) : Prop :=
  ∃ r₀ line r₁, ReadsIn l file r₀ ∧ r₀.readLine = (.ok (some line), r₁) ∧
    o.splitting.split line r₁ false = (.ok fields, r)

/-- The set is amid the file of which it has just read a record with these fields. -/
def HasReadRecord (o : TextLayout) (l : FileSetLayout) (all : List SetFile) (fields : List String)
    (s : FileSetLines) : Prop :=
  ∃ file files r, file :: files <:+ all ∧ o.HoldsRecord l file fields r ∧
    s = inside l files file.values r

theorem amid_readRecord (o : TextLayout) (width : Option Nat) (trim preamble : Bool)
    (amid : Amid l all s) : Amid l all (o.readRecord width trim preamble s).2.2 :=
  (keeps_nextRecord readingErrors_any Amid.keepsLines o width trim _ preamble amid).2

/-- A record does not go on beyond its file, so the set is still amid the file of its first line. -/
theorem hasReadRecord_of_readRecord {width : Option Nat} {preamble after : Bool}
    {fields : List String} (amid : Amid l all s)
    (reading : o.readRecord width false preamble s = (.ok (some fields), after, s')) :
    o.HasReadRecord l all fields s' := by
  obtain ⟨line, s₀, s₁, amid₀, first, split⟩ :=
    exists_line_of_nextRecord readingErrors_any Amid.keepsLines o width false _ preamble amid
      (congrArg Prod.fst reading)
  have left : (o.readRecord width false preamble s).2.2 = s' := by rw [reading]
  have read := amid₀.follows.2 line (congrArg Prod.fst first)
  rw [first] at read
  obtain ⟨file, files, r₀, r₁, suffix, reads, below, rfl⟩ := read
  rw [Splitting.split_inside] at split
  obtain ⟨found, ended⟩ := Prod.mk.inj split
  exact ⟨file, files, _, suffix, ⟨r₀, line, r₁, reads, below, Prod.ext found rfl⟩,
    left.symm.trans ended.symm⟩

end TextLayout

namespace TextTable

/-- A table with these columns over a set of files, as long as it is not at its end. A record that it has
read ahead is the last one that has been read. -/
structure Follows (o : TextLayout) (l : FileSetLayout) (all : List SetFile) (columns : List String)
    (t : TextTable FileSetLines) : Prop where
  layout : t.layout = o
  columns : t.columns = columns
  amid : t.exhausted = false → Amid l all t.lines
  pending : t.exhausted = false → ∀ fields ∈ t.pending, o.HasReadRecord l all fields t.lines

theorem follows_of_ofLines {t : TextTable FileSetLines} (amid : Amid l all s)
    (opened : ofLines o s = .ok t) : Follows o l all t.columns t := by
  have skips {n : Nat} {s s' : FileSetLines} (amid : Amid l all s)
      (skipped : LineSource.skip n s = (.ok (), s')) : Amid l all s' := by
    have kept := (LineSource.keeps_skip Amid.keepsLines n amid).2
    rwa [skipped] at kept
  have reads {trim preamble after : Bool} {fields : Option (List String)} {s s' : FileSetLines}
      (amid : Amid l all s)
      (reading : o.readRecord none trim preamble s = (.ok fields, after, s')) : Amid l all s' := by
    have kept := o.amid_readRecord none trim preamble amid
    rwa [reading] at kept
  cases openedOn_of_ofLines opened with
  | configured _ skipped skipped' =>
    exact ⟨rfl, rfl, fun _ => skips (skips amid skipped) skipped', fun _ => nofun⟩
  | numbered _ skipped skipped' _ reading =>
    have start := skips (skips amid skipped) skipped'
    refine ⟨rfl, rfl, fun _ => reads start reading, fun _ fields isPending => ?_⟩
    cases isPending
    exact TextLayout.hasReadRecord_of_readRecord start reading
  | headed _ skipped reading skipped' =>
    exact ⟨rfl, rfl, fun _ => skips (reads (skips amid skipped) reading) skipped', fun _ => nofun⟩

theorem Follows.next {columns : List String} {t : TextTable FileSetLines}
    (follows : Follows o l all columns t) :
    Follows o l all columns t.next.2 ∧
      (t.next.1 = .ok true → o.HasReadRecord l all t.next.2.fields t.next.2.lines) := by
  unfold TextTable.next
  split
  · exact ⟨follows, nofun⟩
  · rename_i open'
    have open' : t.exhausted = false := by simpa using open'
    have amid := follows.amid open'
    split
    · rename_i fields isPending
      have read := follows.pending open' fields isPending
      exact ⟨⟨follows.layout, follows.columns, fun _ => amid, fun _ => nofun⟩, fun _ => read⟩
    · rename_i noPending
      have below := o.amid_readRecord (some t.columns.length) false t.preamble amid
      rw [follows.layout]
      rcases reading : o.readRecord (some t.columns.length) false t.preamble t.lines with
        ⟨e | _ | fields, after, s⟩
      · rw [reading] at below
        refine ⟨⟨rfl, follows.columns, fun _ => below, fun _ fields isPending => ?_⟩, nofun⟩
        cases noPending.symm.trans isPending
      · exact ⟨⟨rfl, follows.columns, nofun, nofun⟩, nofun⟩
      · rw [reading] at below
        refine ⟨⟨rfl, follows.columns, fun _ => below, fun _ fields isPending => ?_⟩,
          fun _ => TextLayout.hasReadRecord_of_readRecord amid reading⟩
        cases noPending.symm.trans isPending

theorem Follows.close {columns : List String} {t : TextTable FileSetLines}
    (follows : Follows o l all columns t) : Follows o l all columns (RecordSource.close t) :=
  ⟨follows.layout, follows.columns, nofun, nofun⟩

end TextTable

end PlainTables
