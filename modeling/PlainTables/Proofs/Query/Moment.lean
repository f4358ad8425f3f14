import PlainTables.Proofs.Calendar.Reading
import PlainTables.Proofs.Evaluation.Comparison
import PlainTables.Proofs.Query.Sorting

/-!
# Days and times in quotes

WHERE compares a day or time with the text of another one. As all parts of such texts are written with fixed
numbers of digits, the order of the texts is the chronological order, and the rows that WHERE lets pass are
those of the right time.
-/

namespace PlainTables

def Date.iso (d : Date) : List Char :=
  Numeral.fixed 4 d.year.toNat ++ '-' :: (Numeral.fixed 2 d.month ++ '-' :: Numeral.fixed 2 d.day)

def TimeOfDay.iso (t : TimeOfDay) : List Char :=
  Numeral.fixed 2 t.hour ++ ':' :: (Numeral.fixed 2 t.minute ++ ':' :: Numeral.fixed 2 t.writtenSecond)

namespace Value

/-- A day of a year with four digits, a time of day without a fraction of a second, or both together. -/
def isMoment : Value → Bool
  | date d => d.isFourDigit
  | time t => t.isWholeSecond
  | timestamp t => t.isPlain
  | null | integer _ | double _ | text _ => false

def IsMomentOf (type : DataType) (v : Value) : Prop :=
  v.isMoment = true ∧ v.type = type

def chronology? : Value → Value → Option Ordering
  | date d, date e => some (d.compare e)
  | time t, time u => some (t.compare u)
  | timestamp t, timestamp u => some (t.compare u)
  | _, _ => none

def iso : Value → List Char
  | date d => d.iso
  | time t => t.iso
  | timestamp t => t.date.iso ++ ' ' :: t.time.iso
  | null | integer _ | double _ | text _ => []

/-- What the text of a moment between quotes stands for. -/
def inQuotes (v : Value) : Value :=
  text (String.ofList v.iso)

variable {type : DataType} {u v : Value}

theorem sortsAsText_of_isMoment (moment : v.isMoment = true) : v.sortsAsText = true := by
  cases v with
  | null | integer | double | text => cases moment
  | date | time | timestamp => exact moment

theorem display_of_isMoment (moment : v.isMoment = true) : v.display = String.ofList v.iso := by
  cases v with
  | null | integer | double | text => cases moment
  | date d => exact congrArg String.ofList (Date.text_eq moment)
  | time t => exact congrArg String.ofList t.text_eq
  | timestamp t =>
    have day := Date.text_eq (Bool.and_eq_true_iff.mp moment).1
    refine congrArg String.ofList ?_
    change t.date.text ++ ' ' :: t.time.text = _
    rw [day, t.time.text_eq]
    rfl

theorem compare?_inQuotes (momentU : u.isMoment = true) (momentV : v.isMoment = true) :
    u.compare? v.inQuotes = u.compare? v := by
  have textU := sortsAsText_of_isMoment momentU
  rw [compare?_of_sortsAsText textU (sortsAsText_of_isMoment momentV), display_of_isMoment momentV]
  exact compare?_of_sortsAsText textU (v := v.inQuotes) rfl

theorem chronology?_eq_compare? (momentU : u.IsMomentOf type) (momentV : v.IsMomentOf type) :
    u.chronology? v = u.compare? v := by
  obtain ⟨momentU, rfl⟩ := momentU
  obtain ⟨-, sameType⟩ := momentV
  cases u with
  | null | integer | double | text => cases momentU
  | date =>
    cases v with
    | date => rfl
    | _ => cases sameType
  | time =>
    cases v with
    | time => rfl
    | _ => cases sameType
  | timestamp =>
    cases v with
    | timestamp => rfl
    | _ => cases sameType

theorem compare?_inQuotes_eq_chronology? (momentU : u.IsMomentOf type) (momentV : v.IsMomentOf type) :
    u.compare? v.inQuotes = u.chronology? v :=
  (compare?_inQuotes momentU.1 momentV.1).trans (chronology?_eq_compare? momentU momentV).symm

theorem IsMomentOf.isComparable (moment : v.IsMomentOf type) : v.isComparable = true := by
  cases v with
  | null | integer | double | text => cases moment.1
  | date | time | timestamp => rfl

theorem chronology?_swap (momentU : u.IsMomentOf type) (momentV : v.IsMomentOf type) :
    v.chronology? u = (u.chronology? v).map Ordering.swap := by
  rw [chronology?_eq_compare? momentU momentV, chronology?_eq_compare? momentV momentU,
    compare?_swap u v]

theorem inQuotes_compare?_eq_chronology? (momentU : u.IsMomentOf type) (momentV : v.IsMomentOf type) :
    v.inQuotes.compare? u = v.chronology? u := by
  rw [compare?_swap u, compare?_inQuotes_eq_chronology? momentU momentV,
    chronology?_swap momentU momentV]

theorem exists_chronology? (momentU : u.IsMomentOf type) (momentV : v.IsMomentOf type) :
    ∃ order, u.chronology? v = some order := by
  obtain ⟨order, found, -⟩ := exists_compare? momentU.isComparable momentV.isComparable
  exact ⟨order, (chronology?_eq_compare? momentU momentV).trans found⟩

end Value

/-- A condition on the time of a value: its place before or after a moment, on either side of the
comparison, or between two moments. -/
inductive Period where
  | compare (operator : Comparison) (v : Value)
  | compared (v : Value) (operator : Comparison)
  | between (low high : Value)

namespace Period

def moments : Period → List Value
  | compare _ v | compared v _ => [v]
  | between low high => [low, high]

/-- How the condition is written for an expression, with the moments in quotes. -/
def condition (e : Expression) : Period → Condition
  | compare op v => .compare op e (.literal v.inQuotes)
  | compared v op => .compare op (.literal v.inQuotes) e
  | between low high => .between e (.literal low.inQuotes) (.literal high.inQuotes)

def holds (u : Value) : Period → Bool
  | compare op v => (u.chronology? v).any op.holds
  | compared v op => (v.chronology? u).any op.holds
  | between low high => (low.chronology? u).any Ordering.isLE && (u.chronology? high).any Ordering.isLE

def IsOf (type : DataType) (period : Period) : Prop :=
  ∀ v ∈ period.moments, v.IsMomentOf type

theorem holds_null (period : Period) : period.holds .null = false := by
  cases period with
  | compare op v => rfl
  | compared v op => cases v <;> rfl
  | between low high => cases low <;> rfl

end Period

section

variable {type : DataType} {scope : Scope} {e : Expression} {u : Value}

theorem Expression.operand_of_evaluate (value : e.evaluate scope = .ok u) (there : u ≠ .null) :
    e.operand scope = .ok (some u) := by
  rw [Expression.operand, value]
  cases u with
  | null => exact absurd rfl there
  | _ => rfl

namespace Period

theorem evaluate_condition_null (period : Period) (value : e.evaluate scope = .ok .null) :
    (period.condition e).evaluate scope = .ok false := by
  have missing : e.operand scope = .ok none := by rw [Expression.operand, value]
  have literal (v : Value) : (Expression.literal v.inQuotes).operand scope = .ok (some v.inQuotes) := rfl
  cases period with
  | compare op v => exact Condition.evaluate_compare missing (literal v) op
  | compared v op => exact Condition.evaluate_compare (literal v) missing op
  | between low high => exact Condition.between_of_operands missing (literal low) (literal high)

/-- The condition holds of a moment exactly if it is in the period. -/
theorem evaluate_condition_moment {period : Period} (own : period.IsOf type)
    (moment : u.IsMomentOf type) (value : e.evaluate scope = .ok u) :
    (period.condition e).evaluate scope = .ok (period.holds u) := by
  have there : u ≠ .null := by
    rintro rfl
    cases moment.1
  have operand := Expression.operand_of_evaluate value there
  have literal (v : Value) : (Expression.literal v.inQuotes).operand scope = .ok (some v.inQuotes) := rfl
  cases period with
  | compare op v =>
    have order := Value.compare?_inQuotes_eq_chronology? moment (own v (by simp [moments]))
    rw [condition, Condition.evaluate_compare operand (literal v), Comparison.compare, order, holds]
  | compared v op =>
    have order := Value.inQuotes_compare?_eq_chronology? moment (own v (by simp [moments]))
    rw [condition, Condition.evaluate_compare (literal v) operand, Comparison.compare, order, holds]
  | between low high =>
    have momentLow := own low (by simp [moments])
    have below := Value.compare?_inQuotes_eq_chronology? moment momentLow
    have above := Value.compare?_inQuotes_eq_chronology? moment (own high (by simp [moments]))
    rw [condition, Condition.between_of_operands operand (literal low) (literal high),
      Comparison.compare, Comparison.compare, below, above, holds, Value.chronology?_swap moment momentLow,
      Option.any_map]
    refine congrArg Except.ok (congrArg (· && _) (congrArg (fun f => (u.chronology? low).any f) ?_))
    funext order
    cases order <;> rfl

end Period

end

/-- The time of a row: the value of the expression, if the row has one. -/
def Plan.timeOf (p : Plan) (e : Expression) (row : Row) : Value :=
  (e.evaluate (.ofAliasedRow p.columns row)).toOption.getD .null

/-- The expression has on each row a moment of the type, or `null`. -/
def Plan.GivesMoments (p : Plan) (type : DataType) (e : Expression) (rows : List Row) : Prop :=
  ∀ row ∈ rows, ∃ u, e.evaluate (.ofAliasedRow p.columns row) = .ok u ∧
    (u = .null ∨ u.IsMomentOf type)

namespace Plan

variable {σ : Type} [RecordSource σ] {p : Plan} {type : DataType} {period : Period} {e : Expression}

theorem passes_of_period (own : period.IsOf type) (filter : p.statement.filter = some (period.condition e))
    {row : Row} {u : Value} (value : e.evaluate (.ofAliasedRow p.columns row) = .ok u)
    (moment : u = .null ∨ u.IsMomentOf type) : p.passes row = .ok (period.holds (p.timeOf e row)) := by
  have time : p.timeOf e row = u := by
    rw [timeOf, value]
    rfl
  simp only [passes, filter, time]
  rcases moment with rfl | moment
  · rw [period.evaluate_condition_null value, period.holds_null]
  · exact Period.evaluate_condition_moment own moment value

theorem passingRows_of_period (own : period.IsOf type)
    (filter : p.statement.filter = some (period.condition e)) {source : σ} {records : List σ}
    {typed : List Row} (reads : RecordSource.Reads source records none)
    (types : p.typedRows records = .ok typed) (moments : p.GivesMoments type e typed) :
    p.PassingRows source (typed.filter fun row => period.holds (p.timeOf e row)) := by
  have passes : ∀ row ∈ typed, p.passes row = .ok (period.holds (p.timeOf e row)) := by
    intro row mem
    obtain ⟨u, value, moment⟩ := moments row mem
    exact passes_of_period own filter value moment
  refine ⟨records, typed, reads, types, fun row mem => ⟨_, passes row mem⟩, ?_⟩
  refine List.filter_congr fun row mem => ?_
  rw [selects, passes row mem]
  cases period.holds (p.timeOf e row) <;> rfl

/-- A moment is in chronological order with the text of another one of its type, from both sides. A condition
with the texts of moments holds of exactly the moments of the period that it describes. With it in WHERE
exactly the rows of this period pass: these are the ones that a scan gives, and a statement without groups and
order delivers what it makes of them. -/
theorem selects_by_time (type : DataType) :
    (∀ u v : Value, u.IsMomentOf type → v.IsMomentOf type →
      ∃ order, u.chronology? v = some order ∧ u.compare? v.inQuotes = some order ∧
        v.inQuotes.compare? u = some order.swap) ∧
    (∀ (period : Period) (scope : Scope) (e : Expression) (u : Value), period.IsOf type →
      e.evaluate scope = .ok u → u.IsMomentOf type →
      (period.condition e).evaluate scope = .ok (period.holds u)) ∧
    (∀ (period : Period) (p : Plan) (e : Expression) (source : σ) (records : List σ) (typed : List Row),
      period.IsOf type → p.statement.filter = some (period.condition e) →
      RecordSource.Reads source records none → p.typedRows records = .ok typed →
      p.GivesMoments type e typed →
      ∃ selected, selected = typed.filter (fun row => period.holds (p.timeOf e row)) ∧
        p.PassingRows source selected ∧
        (∀ rows stop, Scan.Gives p ⟨source, none⟩ rows stop ↔ rows = selected ∧ stop = none) ∧
        ∀ (options : QueryOptions) (projected : List (List Value)),
          Plan.make p.statement (RecordSource.columns source) options = .ok p →
          p.statement.isGrouped = false → p.statement.orderBy = [] →
          selected.mapM p.project = .ok projected →
          ∃ cursor, p.statement.run source options = .ok cursor ∧
            cursor.Delivers (p.kept projected) none) := by
  refine ⟨fun u v momentU momentV => ?_, fun period scope e u own value moment => ?_,
    fun period p e source records typed own filter reads types moments => ?_⟩
  · obtain ⟨order, found⟩ := Value.exists_chronology? momentU momentV
    refine ⟨order, found, ?_, ?_⟩
    · rw [Value.compare?_inQuotes_eq_chronology? momentU momentV, found]
    · rw [Value.inQuotes_compare?_eq_chronology? momentU momentV,
        Value.chronology?_swap momentU momentV, found]
      rfl
  · exact Period.evaluate_condition_moment own moment value
  · have passing := passingRows_of_period own filter reads types moments
    refine ⟨_, rfl, passing, fun rows stop => ⟨fun gives => gives.unique passing.gives, ?_⟩, ?_⟩
    · rintro ⟨rfl, rfl⟩
      exact passing.gives
    · intro options projected valid ungrouped unordered projects
      exact Statement.run_of_projects valid ungrouped unordered passing projects

/-- Of three days and a missing one those of one week. -/
theorem selects_by_time_in_week :
    let day (d : Nat) (valid : Calendar.isDay 2001 4 d = true) : Value := .date ⟨2001, 4, d, valid⟩
    let week := Period.between (day 2 (by decide)) (day 8 (by decide))
    let p : Plan := ⟨{ columns := [⟨.column none "start", none⟩]
                       filter := some (.between (.column none "start") (.literal (.text "2001-04-02"))
                         (.literal (.text "2001-04-08"))) }, ⟨["start"]⟩, {}⟩
    let table : MemoryTable := ⟨["start"], [["2001-04-01"], ["2001-04-08"], [""], ["2001-04-02"]], []⟩
    (week.IsOf .date ∧ ∃ order, (day 2 (by decide)).compare? (.text "2001-04-08") = some order ∧
        (Value.text "2001-04-08").compare? (day 2 (by decide)) = some order.swap) ∧
      p.PassingRows table [⟨⟨["start"]⟩, [day 8 (by decide)]⟩, ⟨⟨["start"]⟩, [day 2 (by decide)]⟩] ∧
      ∃ cursor, p.statement.run table {} = .ok cursor ∧
        cursor.Delivers [[day 8 (by decide)], [day 2 (by decide)]] none := by
  intro day week p table
  have second : (day 2 (by decide)).IsMomentOf .date := ⟨rfl, rfl⟩
  have eighth : (day 8 (by decide)).IsMomentOf .date := ⟨rfl, rfl⟩
  have own : week.IsOf .date := List.forall_mem_cons.mpr ⟨second, List.forall_mem_singleton.mpr eighth⟩
  obtain ⟨values, -, rows⟩ := selects_by_time (σ := MemoryTable) .date
  obtain ⟨order, -, right, left⟩ := values _ _ second eighth
  have reads : RecordSource.Reads table
      [⟨["start"], [["2001-04-08"], [""], ["2001-04-02"]], ["2001-04-01"]⟩,
        ⟨["start"], [[""], ["2001-04-02"]], ["2001-04-08"]⟩, ⟨["start"], [["2001-04-02"]], [""]⟩,
        ⟨["start"], [], ["2001-04-02"]⟩] none :=
    .record rfl (.record rfl (.record rfl (.record rfl (.ended rfl))))
  refine ⟨⟨own, order, right, left⟩, ?_⟩
  obtain ⟨selected, found, passing, -, runs⟩ := rows week p (.column none "start") table _
    [⟨⟨["start"]⟩, [day 1 (by decide)]⟩, ⟨⟨["start"]⟩, [day 8 (by decide)]⟩, ⟨⟨["start"]⟩, [.null]⟩,
      ⟨⟨["start"]⟩, [day 2 (by decide)]⟩] own rfl reads (by decide +kernel) (by
    refine List.forall_mem_cons.mpr ⟨⟨_, rfl, .inr ⟨rfl, rfl⟩⟩, ?_⟩
    refine List.forall_mem_cons.mpr ⟨⟨_, rfl, .inr eighth⟩, ?_⟩
    exact List.forall_mem_cons.mpr ⟨⟨_, rfl, .inl rfl⟩,
      List.forall_mem_singleton.mpr ⟨_, rfl, .inr second⟩⟩)
  obtain rfl : selected = [⟨⟨["start"]⟩, [day 8 (by decide)]⟩, ⟨⟨["start"]⟩, [day 2 (by decide)]⟩] :=
    found.trans (by decide +kernel)
  exact ⟨passing, runs {} [[day 8 (by decide)], [day 2 (by decide)]] rfl rfl rfl rfl⟩

end Plan

end PlainTables
