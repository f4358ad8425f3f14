import PlainTables.Proofs.Records.Outcome
import PlainTables.Query.Scan

/-!
# The rows of a scan

A scan gives the typed rows of its records that pass WHERE, one after the other, and is stopped by the
first error of the table, of a type or of WHERE.
-/

namespace PlainTables.Scan

variable {σ : Type} [RecordSource σ]

/-- The types of the columns once the next record is there. -/
def settled (p : Plan) (scan : Scan σ) : List ColumnType :=
  scan.types.getD (settleTypes p (RecordSource.next scan.source).2)

def advanced (p : Plan) (scan : Scan σ) : Scan σ :=
  ⟨(RecordSource.next scan.source).2, some (scan.settled p)⟩

def upcoming (p : Plan) (scan : Scan σ) : Except QueryError Row :=
  typedRow p (scan.settled p) (RecordSource.next scan.source).2

/-- Going on with a scan gives these rows, and is stopped by the error, if there is one. -/
inductive Gives (p : Plan) : Scan σ → List Row → Option QueryError → Prop
  | ended {scan} : (RecordSource.next scan.source).1 = .ok false → Gives p scan [] none
  | failed {scan e} : (RecordSource.next scan.source).1 = .error e → Gives p scan [] (some e)
  | untyped {scan e} : (RecordSource.next scan.source).1 = .ok true →
      scan.upcoming p = .error e → Gives p scan [] (some e)
  | undecided {scan row e} : (RecordSource.next scan.source).1 = .ok true →
      scan.upcoming p = .ok row → p.passes row = .error e → Gives p scan [] (some e)
  | dropped {scan row rows stop} : (RecordSource.next scan.source).1 = .ok true →
      scan.upcoming p = .ok row → p.passes row = .ok false →
      Gives p (scan.advanced p) rows stop → Gives p scan rows stop
  | kept {scan row rows stop} : (RecordSource.next scan.source).1 = .ok true →
      scan.upcoming p = .ok row → p.passes row = .ok true →
      Gives p (scan.advanced p) rows stop → Gives p scan (row :: rows) stop

theorem Gives.unique {p : Plan} {scan : Scan σ} {rows rows' : List Row} {stop stop' : Option QueryError}
    (gives : Gives p scan rows stop) (gives' : Gives p scan rows' stop') :
    rows = rows' ∧ stop = stop' := by
  induction gives generalizing rows' stop' with
  | ended | failed | untyped | undecided => cases gives' <;> simp_all
  | dropped result typed passed _ ih =>
    cases gives' with
    | dropped _ _ _ rest => exact ih rest
    | _ => simp_all
  | kept result typed passed _ ih =>
    cases gives' with
    | kept _ typed' _ rest =>
      obtain ⟨rfl, rfl⟩ := ih rest
      exact ⟨congrArg (· :: _) (Except.ok.inj (typed.symm.trans typed')), rfl⟩
    | _ => simp_all

/-- Plans that read records as the same rows and agree on WHERE make the same of a table. -/
theorem Gives.transfer {p q : Plan} (types : ∀ s : σ, settleTypes q s = settleTypes p s)
    (typed : ∀ types (s : σ), typedRow q types s = typedRow p types s)
    (passes : ∀ row, q.passes row = p.passes row) {scan : Scan σ} {rows : List Row}
    {stop : Option QueryError} (gives : Gives p scan rows stop) : Gives q scan rows stop := by
  have settled (scan : Scan σ) : scan.settled q = scan.settled p := by
    rw [Scan.settled, Scan.settled, types]
  have advanced (scan : Scan σ) : scan.advanced q = scan.advanced p := by
    rw [Scan.advanced, Scan.advanced, settled]
  have upcoming (scan : Scan σ) : scan.upcoming q = scan.upcoming p := by
    rw [Scan.upcoming, Scan.upcoming, settled, typed]
  induction gives with
  | ended result => exact .ended result
  | failed result => exact .failed result
  | untyped result wrong => exact .untyped result ((upcoming _).trans wrong)
  | undecided result row wrong =>
    exact .undecided result ((upcoming _).trans row) ((passes _).trans wrong)
  | dropped result row out _ ih =>
    exact .dropped result ((upcoming _).trans row) ((passes _).trans out) (advanced _ ▸ ih)
  | kept result row inside _ ih =>
    exact .kept result ((upcoming _).trans row) ((passes _).trans inside) (advanced _ ▸ ih)

theorem remaining_advanced {p : Plan} {scan : Scan σ}
    (result : (RecordSource.next scan.source).1 = .ok true) :
    RecordSource.remaining (scan.advanced p).source < RecordSource.remaining scan.source :=
  RecordSource.remaining_next _ result

theorem exists_gives (p : Plan) (scan : Scan σ) : ∃ rows stop, Gives p scan rows stop := by
  induction hn : RecordSource.remaining scan.source using Nat.strongRecOn generalizing scan with
  | _ n ih =>
    match result : (RecordSource.next scan.source).1 with
    | .ok false => exact ⟨[], none, .ended result⟩
    | .error e => exact ⟨[], some e, .failed result⟩
    | .ok true =>
      have fewer := hn ▸ remaining_advanced (p := p) result
      obtain ⟨rows, stop, rest⟩ := ih _ fewer _ rfl
      match typed : scan.upcoming p with
      | .error e => exact ⟨[], some e, .untyped result typed⟩
      | .ok row =>
        match passed : p.passes row with
        | .error e => exact ⟨[], some e, .undecided result typed passed⟩
        | .ok false => exact ⟨rows, stop, .dropped result typed passed rest⟩
        | .ok true => exact ⟨row :: rows, stop, .kept result typed passed rest⟩

/-- What comes of reading that has been stopped: its result, or the error. -/
def outcome {β : Type} (stop : Option QueryError) (b : β) : Except QueryError β :=
  match stop with
  | none => .ok b
  | some e => .error e

theorem outcome_eq_ok {β : Type} {found : Except QueryError β} {stop : Option QueryError} {b : β}
    (succeeds : found.bind (outcome stop) = .ok b) : found = .ok b ∧ stop = none := by
  cases found with
  | error e => cases succeeds
  | ok found =>
    cases stop with
    | none => exact ⟨succeeds, rfl⟩
    | some e => cases succeeds

theorem nextRowWithin_of_error {p : Plan} {scan : Scan σ} {e : QueryError} (fuel : Nat)
    (result : (RecordSource.next scan.source).1 = .error e) :
    (nextRowWithin p (fuel + 1) scan).1 = .error e := by
  unfold nextRowWithin
  generalize RecordSource.next scan.source = step at result
  obtain ⟨first, source⟩ := step
  cases result
  rfl

theorem nextRowWithin_of_end {p : Plan} {scan : Scan σ} (fuel : Nat)
    (result : (RecordSource.next scan.source).1 = .ok false) :
    (nextRowWithin p (fuel + 1) scan).1 = .ok none := by
  unfold nextRowWithin
  generalize RecordSource.next scan.source = step at result
  obtain ⟨first, source⟩ := step
  cases result
  rfl

theorem nextRowWithin_of_record {p : Plan} {scan : Scan σ} (fuel : Nat)
    (result : (RecordSource.next scan.source).1 = .ok true) :
    nextRowWithin p (fuel + 1) scan =
      match scan.upcoming p with
      | .error e => (.error e, scan.advanced p)
      | .ok row =>
        match p.passes row with
        | .error e => (.error e, scan.advanced p)
        | .ok true => (.ok (some row), scan.advanced p)
        | .ok false => nextRowWithin p fuel (scan.advanced p) := by
  rw [nextRowWithin]
  unfold upcoming advanced settled
  generalize RecordSource.next scan.source = step at result
  obtain ⟨first, source⟩ := step
  cases result
  rfl

/-- With enough fuel the next row is the first of those that the scan gives, or else its end or error. -/
theorem nextRowWithin_of_gives {p : Plan} {scan : Scan σ} {rows : List Row}
    {stop : Option QueryError} (gives : Gives p scan rows stop) :
    ∀ fuel, RecordSource.remaining scan.source < fuel →
      match rows with
      | [] => (nextRowWithin p fuel scan).1 = outcome stop none
      | row :: rest => ∃ later, nextRowWithin p fuel scan = (.ok (some row), later) ∧
          Gives p later rest stop ∧
          RecordSource.remaining later.source < RecordSource.remaining scan.source := by
  induction gives with
  | ended result =>
    rintro (_ | fuel) enough
    · omega
    · exact nextRowWithin_of_end fuel result
  | failed result =>
    rintro (_ | fuel) enough
    · omega
    · exact nextRowWithin_of_error fuel result
  | untyped result typed =>
    rintro (_ | fuel) enough
    · omega
    · simp only [nextRowWithin_of_record fuel result, typed, outcome]
  | undecided result typed passed =>
    rintro (_ | fuel) enough
    · omega
    · simp only [nextRowWithin_of_record fuel result, typed, passed, outcome]
  | @dropped scan row rows stop result typed passed _ ih =>
    rintro (_ | fuel) enough
    · omega
    · have fewer := remaining_advanced (p := p) result
      have found := ih fuel (by omega)
      cases rows with
      | nil => simpa only [nextRowWithin_of_record fuel result, typed, passed] using found
      | cons first rest =>
        obtain ⟨later, next, gives, less⟩ := found
        refine ⟨later, ?_, gives, by omega⟩
        simpa only [nextRowWithin_of_record fuel result, typed, passed] using next
  | kept result typed passed rest _ =>
    rintro (_ | fuel) enough
    · omega
    · refine ⟨_, ?_, rest, remaining_advanced result⟩
      simp only [nextRowWithin_of_record fuel result, typed, passed]

theorem nextRow_of_gives_nil {p : Plan} {scan : Scan σ} {stop : Option QueryError}
    (gives : Gives p scan [] stop) : (scan.nextRow p).1 = outcome stop none :=
  nextRowWithin_of_gives gives _ (Nat.lt_succ_self _)

theorem nextRow_of_gives_cons {p : Plan} {scan : Scan σ} {row : Row} {rows : List Row}
    {stop : Option QueryError} (gives : Gives p scan (row :: rows) stop) :
    ∃ later, scan.nextRow p = (.ok (some row), later) ∧ Gives p later rows stop ∧
      RecordSource.remaining later.source < RecordSource.remaining scan.source :=
  nextRowWithin_of_gives gives _ (Nat.lt_succ_self _)

/-- Collecting makes something of each row in turn; an error of a row comes before one of the scan. -/
theorem collectWithin_of_gives {β : Type} {p : Plan} {f : Row → Except QueryError β}
    {scan : Scan σ} {rows : List Row} {stop : Option QueryError} (gives : Gives p scan rows stop)
    (fuel : Nat) (enough : RecordSource.remaining scan.source < fuel) :
    (collectWithin p f fuel scan).1 = (rows.mapM f).bind (outcome stop) := by
  induction rows generalizing scan fuel with
  | nil =>
    obtain ⟨fuel, rfl⟩ := Nat.exists_eq_add_one_of_ne_zero (Nat.ne_zero_of_lt enough)
    have last := nextRow_of_gives_nil gives
    unfold collectWithin
    generalize scan.nextRow p = step at last
    obtain ⟨first, later⟩ := step
    cases stop <;> cases last <;> rfl
  | cons row rows ih =>
    obtain ⟨fuel, rfl⟩ := Nat.exists_eq_add_one_of_ne_zero (Nat.ne_zero_of_lt enough)
    obtain ⟨later, next, rest, fewer⟩ := nextRow_of_gives_cons gives
    rw [List.mapM_cons, collectWithin, next]
    cases made : f row with
    | error e => simp only [made]; rfl
    | ok b =>
      have collected := ih rest fuel (by omega)
      simp only [made]
      generalize collectWithin p f fuel later = tail at collected
      obtain ⟨found, after⟩ := tail
      subst collected
      cases rows.mapM f with
      | error e => rfl
      | ok bs => cases stop <;> rfl

theorem collect_of_gives {β : Type} {p : Plan} {f : Row → Except QueryError β} {scan : Scan σ}
    {rows : List Row} {stop : Option QueryError} (gives : Gives p scan rows stop) :
    (scan.collect p f).1 = (rows.mapM f).bind (outcome stop) :=
  collectWithin_of_gives gives _ (Nat.lt_succ_self _)

end PlainTables.Scan
