import PlainTables.Lines.Preamble
import PlainTables.Records
import PlainTables.Row
import PlainTables.Splitting

/-!
# Tables in text files

A text has lines to skip, a preamble of comments, a header and then its records. The header may be
configured instead, or there may be none, and then the first record is read ahead to number the
columns.
-/

namespace PlainTables

structure TextLayout where
  delimiters : Delimiters := {}
  fixedWidths : Option FixedWidths := none
  commentChar : Option Char := none
  headerLine : Option String := none
  suppressHeaders : Bool := false
  trimHeaders : Bool := true
  skipLeadingLines : Nat := 0
  skipLeadingDataLines : Nat := 0
  ignoreUnparseableLines : Bool := false
  defectiveHeaders : Bool := false
deriving DecidableEq

namespace TextLayout

def splitting (o : TextLayout) : Splitting :=
  match o.fixedWidths with
  | some w => .fixedWidth w
  | none => .delimited o.delimiters

/-- The fields can be a record. A header that is not known yet has more than one field. -/
def isPlausible (width : Option Nat) (fields : List String) : Bool :=
  match width with
  | some n => fields.length = n
  | none => fields.length ≠ 1

variable {ρ : Type} [LineSource ρ]

/-- The next record, after the preamble and the lines that cannot be parsed if those are ignored.
`preamble` says whether comments are still possible. -/
def nextRecord (o : TextLayout) (width : Option Nat) (trim : Bool) :
    Nat → Bool → ρ → Except QueryError (Option (List String)) × Bool × ρ
  | 0, preamble, r => (.ok none, preamble, r)
  | fuel + 1, preamble, r =>
    match LineSource.readLine r with
    | (.error e, r) => (.error e, preamble, r)
    | (.ok none, r) => (.ok none, preamble, r)
    | (.ok (some line), r) =>
      if preamble && LineSource.isPreamble o.commentChar line then o.nextRecord width trim fuel true r
      else
        match o.splitting.split line r trim with
        | (.ok fields, r) =>
          if !o.ignoreUnparseableLines || isPlausible width fields then (.ok (some fields), false, r)
          else o.nextRecord width trim fuel false r
        | (.error e, r) =>
          if o.ignoreUnparseableLines && e.isQuoteError then o.nextRecord width trim fuel false r
          else (.error e, false, r)

theorem remaining_nextRecord (o : TextLayout) (width : Option Nat) (trim : Bool) (fuel : Nat)
    (preamble : Bool) (r : ρ) (fields : List String)
    (h : (o.nextRecord width trim fuel preamble r).1 = .ok (some fields)) :
    LineSource.remaining (o.nextRecord width trim fuel preamble r).2.2 < LineSource.remaining r := by
  induction fuel generalizing preamble r with
  | zero => simp [nextRecord] at h
  | succ fuel ih =>
    have hr := LineSource.remaining_readLine r
    unfold nextRecord at h ⊢
    generalize LineSource.readLine r = reading at hr h ⊢
    obtain ⟨result, s⟩ := reading
    match result with
    | .error e => simp at h
    | .ok none => simp at h
    | .ok (some line) =>
      have hs : LineSource.remaining s < LineSource.remaining r := hr line rfl
      simp only at h ⊢
      split at h
      · rename_i hp
        simp only [hp, if_true]
        exact Nat.lt_trans (ih _ _ h) hs
      · rename_i hp
        simp only [hp]
        have hsplit := o.splitting.remaining_split line s trim
        generalize o.splitting.split line s trim = parts at hsplit h ⊢
        obtain ⟨outcome, t⟩ := parts
        have ht := Nat.lt_of_le_of_lt hsplit hs
        match outcome with
        | .ok fs =>
          simp only at h ⊢
          split at h
          · rename_i hf
            simpa [hf] using ht
          · rename_i hf
            simp only [hf]
            exact Nat.lt_trans (ih _ _ h) ht
        | .error e =>
          simp only at h ⊢
          split at h
          · rename_i hf
            simp only [hf, if_true]
            exact Nat.lt_trans (ih _ _ h) ht
          · simp at h

def readRecord (o : TextLayout) (width : Option Nat) (trim preamble : Bool) (r : ρ) :
    Except QueryError (Option (List String)) × Bool × ρ :=
  o.nextRecord width trim (LineSource.remaining r + 1) preamble r

def repair (names : List String) : List String :=
  names.zipIdx.map fun (name, i) => if name.isEmpty then "COLUMN" ++ toString (i + 1) else name

/-- The first name that an earlier one equals up to case. -/
def duplicate? : List String → List String → Option String
  | _, [] => none
  | seen, name :: names =>
    if seen.any (Columns.same · name) then some name else duplicate? (name :: seen) names

/-- The column names, repaired if wanted, unless two are the same. -/
def settle (o : TextLayout) (names : List String) : Except QueryError (List String) :=
  let names := if o.defectiveHeaders then repair names else names
  match duplicate? [] names with
  | some name => .error (.duplicateColumn name)
  | none => .ok names

def configured (o : TextLayout) : Option (Except QueryError (List String)) :=
  o.headerLine.map fun line => o.delimiters.tokenize line o.trimHeaders

end TextLayout

/-- A table in the lines of a text, after its header. A record that was read ahead is `pending`. -/
structure TextTable (ρ : Type) where
  lines : ρ
  layout : TextLayout
  columns : List String
  fields : List String := []
  pending : Option (List String) := none
  preamble : Bool
  exhausted : Bool := false

namespace TextTable

variable {ρ : Type} [LineSource ρ]

def openBare (o : TextLayout) (r : ρ) : Except QueryError (TextTable ρ) := do
  let preamble := o.commentChar.isSome
  let (skipped, r) := LineSource.skip o.skipLeadingDataLines r
  skipped
  match o.configured with
  | some names => return { lines := r, layout := o, columns := ← o.settle (← names), preamble }
  | none =>
    let (first, preamble, r) := o.readRecord none false preamble r
    let pending ← first
    let columns ← o.settle (numberedNames ((pending.map List.length).getD 0))
    return { lines := r, layout := o, columns, pending, preamble }

/-- The table in a text with a header, which a configured one replaces. -/
def openHeaded (o : TextLayout) (r : ρ) : Except QueryError (TextTable ρ) := do
  let (header, preamble, r) := o.readRecord none o.trimHeaders o.commentChar.isSome r
  let header ← header
  let (skipped, r) := LineSource.skip o.skipLeadingDataLines r
  skipped
  let names ← o.configured.getD (.ok (header.getD []))
  return { lines := r, layout := o, columns := ← o.settle names, preamble }

def ofLines (o : TextLayout) (r : ρ) : Except QueryError (TextTable ρ) := do
  let (skipped, r) := LineSource.skip o.skipLeadingLines r
  skipped
  if o.suppressHeaders then openBare o r else openHeaded o r

def next (t : TextTable ρ) : Except QueryError Bool × TextTable ρ :=
  if t.exhausted then (.ok false, t)
  else
    match t.pending with
    | some fields => (.ok true, { t with fields, pending := none })
    | none =>
      match t.layout.readRecord (some t.columns.length) false t.preamble t.lines with
      | (.error e, preamble, lines) => (.error e, { t with preamble, lines })
      | (.ok none, preamble, lines) =>
        (.ok false, { t with preamble, lines, fields := [], exhausted := true })
      | (.ok (some fields), preamble, lines) => (.ok true, { t with preamble, lines, fields })

def remaining (t : TextTable ρ) : Nat :=
  LineSource.remaining t.lines + if t.pending.isSome then 1 else 0

theorem remaining_next (t : TextTable ρ) (h : t.next.1 = .ok true) :
    t.next.2.remaining < t.remaining := by
  unfold next at h ⊢
  by_cases he : t.exhausted
  · simp [he] at h
  · simp only [he] at h ⊢
    cases hp : t.pending with
    | some fields => simp [remaining, hp]
    | none =>
      have hr := t.layout.remaining_nextRecord (some t.columns.length) false
        (LineSource.remaining t.lines + 1) t.preamble t.lines
      simp only [hp] at h ⊢
      unfold TextLayout.readRecord at h ⊢
      generalize t.layout.nextRecord (some t.columns.length) false
        (LineSource.remaining t.lines + 1) t.preamble t.lines = reading at hr h ⊢
      obtain ⟨outcome, preamble, lines⟩ := reading
      match outcome with
      | .error e => simp at h
      | .ok none => simp at h
      | .ok (some fields) => simpa [remaining, hp] using hr fields rfl

instance : RecordSource (TextTable ρ) where
  columns := columns
  next := next
  field t i := (t.fields[i]?).map Text.trimmed
  fieldCount t := t.fields.length
  fileValues t := LineSource.fileValues t.lines
  close t := { t with exhausted := true, lines := LineSource.close t.lines }
  remaining := remaining
  remaining_next := remaining_next

end TextTable

end PlainTables
