import PlainTables.Coercion
import PlainTables.Proofs.Calendar.Order

/-!
# The order of the values of a column

Any two values of a column can be compared. Values of one type are in one line; so are texts, dates and
times together, as long as the texts of the dates and times are in their order. Numbers and texts are not
in one line, and a column whose type was found from its first text can have both.
-/

namespace PlainTables

open Std

namespace Double

theorem compare?_swap (x y : Double) : y.compare? x = (x.compare? y).map Ordering.swap := by
  cases x with
  | nan => cases y <;> rfl
  | number =>
    cases y with
    | nan => rfl
    | number => exact congrArg some (@OrientedCmp.eq_swap _ compare _ _ _)

theorem exists_compare? {x y : Double} (hx : x ≠ nan) (hy : y ≠ nan) :
    ∃ order, x.compare? y = some order := by
  cases x with
  | nan => exact absurd rfl hx
  | number =>
    cases y with
    | nan => exact absurd rfl hy
    | number => exact ⟨_, rfl⟩

theorem ofDecimal_ne_nan (negative : Bool) (digits : Nat) (exponent : Int) :
    ofDecimal negative digits exponent ≠ nan := by
  unfold ofDecimal
  simp only
  split
  · simp
  · split
    · simp [infinity]
    · split <;> simp [ofUnits]

theorem ne_nan_of_read? {s : List Char} {x : Double} (reads : read? s = some x) : x ≠ nan := by
  simp only [read?, Option.ite_none_left_eq_some, Option.map_eq_some_iff] at reads
  obtain ⟨-, e, -, rfl⟩ := reads
  exact ofDecimal_ne_nan _ _ _

end Double

namespace Value

def isComparable : Value → Bool
  | null | double .nan => false
  | _ => true

theorem ne_nan_of_asDouble? {v : Value} (comparable : v.isComparable = true) {x : Double}
    (number : v.asDouble? = some x) : x ≠ .nan := by
  cases v with
  | integer i =>
    have same : Double.ofInt i.toInt = x := Option.some.inj number
    rw [← same]
    simp [Double.ofInt, Double.ofUnits]
  | double d =>
    obtain rfl := Option.some.inj number
    rintro rfl
    cases comparable
  | text s => exact Double.ne_nan_of_read? number
  | null | date | time | timestamp => cases number

section

local instance : Ord Date := ⟨Date.compare⟩

local instance : TransOrd Date := inferInstanceAs (TransCmp Date.compare)

local instance : Ord TimeOfDay := ⟨TimeOfDay.compare⟩

local instance : TransOrd TimeOfDay := inferInstanceAs (TransCmp TimeOfDay.compare)

def date? : Value → Option Date
  | date d => some d
  | timestamp t => some t.date
  | _ => none

def time? : Value → Option TimeOfDay
  | time t => some t
  | timestamp t => some t.time
  | _ => none

/-- What a number is ordered by among the numbers of its type. -/
def place? : Value → Option Int
  | integer i => some i.toInt
  | double (.number negative rank _) => some (Double.signedRank negative rank)
  | _ => none

/-- All values in one line, in which those of each type are in their order and come after `null`. -/
def lineUp : Value → Value → Ordering :=
  compareLex (compareOn date?) (compareLex (compareOn time?)
    (compareLex (compareOn place?) (compareOn asText?)))

instance : TransCmp lineUp :=
  inferInstanceAs (TransCmp (compareLex (compareOn date?) (compareLex (compareOn time?)
    (compareLex (compareOn place?) (compareOn asText?)))))

theorem lineUp_integer (i j : Int64) : lineUp (integer i) (integer j) = compare i.toInt j.toInt :=
  Ordering.then_eq

theorem lineUp_text (s t : String) : lineUp (text s) (text t) = compare s t := rfl

theorem lineUp_date (d e : Date) : lineUp (date d) (date e) = d.compare e :=
  Ordering.then_eq

theorem lineUp_time (t u : TimeOfDay) : lineUp (time t) (time u) = t.compare u :=
  Ordering.then_eq

theorem lineUp_timestamp (t u : Timestamp) : lineUp (timestamp t) (timestamp u) = t.compare u :=
  congrArg (Ordering.then _) Ordering.then_eq

theorem lineUp_double (a b : Bool) (x y : Nat) (hx : x ≤ infinityRank) (hy : y ≤ infinityRank) :
    lineUp (double (.number a x hx)) (double (.number b y hy)) =
      compare (Double.signedRank a x) (Double.signedRank b y) :=
  Ordering.then_eq

end

/-- Values of one type are compared by their places in the line. -/
theorem compare?_eq_lineUp {u v : Value} (hu : u.isComparable = true) (hv : v.isComparable = true)
    (sameType : u.type = v.type) : u.compare? v = some (u.lineUp v) := by
  cases u with
  | null => cases hu
  | integer i =>
    cases v with
    | integer j => exact congrArg some (lineUp_integer i j).symm
    | _ => cases sameType
  | double x =>
    cases v with
    | double y =>
      cases x with
      | nan => cases hu
      | number a m hm =>
        cases y with
        | nan => cases hv
        | number b n hn => exact congrArg some (lineUp_double a b m n hm hn).symm
    | _ => cases sameType
  | text s =>
    cases v with
    | null => cases hv
    | text t => exact congrArg some (lineUp_text s t).symm
    | _ => cases sameType
  | date d =>
    cases v with
    | date e => exact congrArg some (lineUp_date d e).symm
    | _ => cases sameType
  | time t =>
    cases v with
    | time t' => exact congrArg some (lineUp_time t t').symm
    | _ => cases sameType
  | timestamp t =>
    cases v with
    | timestamp t' => exact congrArg some (lineUp_timestamp t t').symm
    | _ => cases sameType

/-- The order of values of different types: of their numbers if one is a number and the other one has a
number, and otherwise of their texts. -/
def compareMixed? (u v : Value) : Option Ordering :=
  if u.isNumeric || v.isNumeric then
    match u.asDouble?, v.asDouble? with
    | some x, some y => x.compare? y
    | _, _ => some (compare u.display v.display)
  else some (compare u.display v.display)

theorem compare?_of_type_ne {u v : Value} (thereU : u ≠ null) (thereV : v ≠ null)
    (mixed : u.type ≠ v.type) : u.compare? v = compareMixed? u v := by
  cases u with
  | null => exact absurd rfl thereU
  | integer | double | text | date | time | timestamp =>
    cases v with
    | null => exact absurd rfl thereV
    | integer | double | text | date | time | timestamp =>
      first | exact absurd rfl mixed | rfl

theorem compare?_eq_compareMixed? {u v : Value} (hu : u.isComparable = true)
    (hv : v.isComparable = true) (mixed : u.type ≠ v.type) : u.compare? v = compareMixed? u v := by
  have thereU : u ≠ null := by
    rintro rfl
    cases hu
  have thereV : v ≠ null := by
    rintro rfl
    cases hv
  exact compare?_of_type_ne thereU thereV mixed

theorem compareMixed?_swap (u v : Value) :
    compareMixed? v u = (compareMixed? u v).map Ordering.swap := by
  have texts : compare v.display u.display = (compare u.display v.display).swap :=
    @OrientedCmp.eq_swap _ compare _ _ _
  unfold compareMixed?
  rw [Bool.or_comm]
  split
  · cases u.asDouble? <;> cases v.asDouble? <;>
      first | exact Double.compare?_swap _ _ | exact congrArg some texts
  · exact congrArg some texts

theorem exists_compareMixed? {u v : Value} (hu : u.isComparable = true)
    (hv : v.isComparable = true) : ∃ order, compareMixed? u v = some order := by
  unfold compareMixed?
  split
  · split
    · next x y numberU numberV =>
      exact Double.exists_compare? (ne_nan_of_asDouble? hu numberU) (ne_nan_of_asDouble? hv numberV)
    · exact ⟨_, rfl⟩
  · exact ⟨_, rfl⟩

/-- Two values that can be compared are, and the other way round in the opposite order. -/
theorem exists_compare? {u v : Value} (hu : u.isComparable = true) (hv : v.isComparable = true) :
    ∃ order, u.compare? v = some order ∧ v.compare? u = some order.swap := by
  by_cases sameType : u.type = v.type
  · refine ⟨u.lineUp v, compare?_eq_lineUp hu hv sameType, ?_⟩
    rw [compare?_eq_lineUp hv hu sameType.symm, @OrientedCmp.eq_swap _ lineUp _ v u]
  · obtain ⟨order, found⟩ := exists_compareMixed? hu hv
    refine ⟨order, (compare?_eq_compareMixed? hu hv sameType).trans found, ?_⟩
    rw [compare?_eq_compareMixed? hv hu (Ne.symm sameType), compareMixed?_swap, found]
    rfl

/-- The order of the value among others of its type is the order of their texts. -/
def sortsAsText : Value → Bool
  | text _ => true
  | date d => d.isFourDigit
  | time t => t.isWholeSecond
  | timestamp t => t.isPlain
  | _ => false

theorem compare?_of_sortsAsText {u v : Value} (hu : u.sortsAsText = true)
    (hv : v.sortsAsText = true) : u.compare? v = some (compare u.display v.display) := by
  cases u with
  | null | integer | double => cases hu
  | text s =>
    cases v with
    | null | integer | double => cases hv
    | text | date | time | timestamp => rfl
  | date d =>
    cases v with
    | null | integer | double => cases hv
    | text | time | timestamp => rfl
    | date e => exact congrArg some (Date.compare_eq_compare_text hu hv)
  | time t =>
    cases v with
    | null | integer | double => cases hv
    | text | date | timestamp => rfl
    | time t' => exact congrArg some (TimeOfDay.compare_eq_compare_text hu hv)
  | timestamp t =>
    cases v with
    | null | integer | double => cases hv
    | text | date | time => rfl
    | timestamp t' => exact congrArg some (Timestamp.compare_eq_compare_text hu hv)

/-- Two values are compared by their texts, if both sort as their texts, or if one is a number and the
other one has none. -/
def ByText (u v : Value) : Prop :=
  u.sortsAsText = true ∧ v.sortsAsText = true ∨ u.isNumeric = true ∧ v.asDouble? = none ∨
    u.asDouble? = none ∧ v.isNumeric = true

theorem type_ne_of_isNumeric {u v : Value} (number : u.isNumeric = true) (noNumber : v.asDouble? = none) :
    u.type ≠ v.type := by
  cases u with
  | null | text | date | time | timestamp => cases number
  | integer | double =>
    cases v with
    | integer | double => cases noNumber
    | null | text | date | time | timestamp => simp [type]

theorem compareMixed?_of_no_number {u v : Value} (noNumber : u.asDouble? = none ∨ v.asDouble? = none) :
    compareMixed? u v = some (compare u.display v.display) := by
  unfold compareMixed?
  split
  · split
    · next numberU numberV =>
      rcases noNumber with none | none
      · cases none.symm.trans numberU
      · cases none.symm.trans numberV
    · rfl
  · rfl

theorem compare?_eq_display {u v : Value} (hu : u.isComparable = true) (hv : v.isComparable = true)
    (texts : ByText u v) : u.compare? v = some (compare u.display v.display) := by
  rcases texts with ⟨textU, textV⟩ | ⟨number, noNumber⟩ | ⟨noNumber, number⟩
  · exact compare?_of_sortsAsText textU textV
  · rw [compare?_eq_compareMixed? hu hv (type_ne_of_isNumeric number noNumber)]
    exact compareMixed?_of_no_number (.inr noNumber)
  · rw [compare?_eq_compareMixed? hu hv (type_ne_of_isNumeric number noNumber).symm]
    exact compareMixed?_of_no_number (.inl noNumber)

def NotAfter (u v : Value) : Prop :=
  (u.compare? v).any Ordering.isLE = true

instance (u v : Value) : Decidable (u.NotAfter v) :=
  inferInstanceAs (Decidable (_ = _))

theorem NotAfter.trans_of {α : Type} {cmp : α → α → Ordering} [TransCmp cmp] {f : Value → α}
    {u v w : Value} (uv : u.compare? v = some (cmp (f u) (f v)))
    (vw : v.compare? w = some (cmp (f v) (f w)))
    (uw : u.compare? w = some (cmp (f u) (f w))) (first : u.NotAfter v)
    (second : v.NotAfter w) : u.NotAfter w := by
  rw [NotAfter, uv] at first
  rw [NotAfter, vw] at second
  rw [NotAfter, uw]
  exact @TransCmp.isLE_trans _ cmp _ _ _ _ first second

/-- Three values are in one order if they are of one type, or if all of them are compared by their texts. -/
def InOneOrder (u v w : Value) : Prop :=
  u.type = v.type ∧ v.type = w.type ∨ u.ByText v ∧ v.ByText w ∧ u.ByText w

theorem NotAfter.trans {u v w : Value} (hu : u.isComparable = true) (hv : v.isComparable = true)
    (hw : w.isComparable = true) (oneOrder : InOneOrder u v w) (first : u.NotAfter v)
    (second : v.NotAfter w) : u.NotAfter w := by
  rcases oneOrder with ⟨sameUV, sameVW⟩ | ⟨textUV, textVW, textUW⟩
  · exact NotAfter.trans_of (f := id) (compare?_eq_lineUp hu hv sameUV)
      (compare?_eq_lineUp hv hw sameVW) (compare?_eq_lineUp hu hw (sameUV.trans sameVW)) first second
  · exact NotAfter.trans_of (f := display) (compare?_eq_display hu hv textUV)
      (compare?_eq_display hv hw textVW) (compare?_eq_display hu hw textUW) first second

end Value

namespace Formats

variable {c : Formats} {first : String}

theorem isComparable_of_read? {raw : String} {type : DataType} {v : Value}
    (reads : c.read? raw type = some v) : v.isComparable = true := by
  cases type with
  | string =>
    cases reads
    rfl
  | double =>
    obtain ⟨x, number, rfl⟩ := Option.map_eq_some_iff.mp reads
    cases x with
    | nan => exact absurd rfl (Double.ne_nan_of_read? number)
    | number => rfl
  | integer | date | time | timestamp =>
    obtain ⟨_, -, rfl⟩ := Option.map_eq_some_iff.mp reads
    rfl

theorem isComparable_of_coerce {raw : String} {type : DataType} {v : Value} (there : v ≠ .null)
    (coerces : c.coerce raw type = .ok v) : v.isComparable = true := by
  unfold coerce at coerces
  split at coerces
  · cases coerces
    rfl
  · simp only at coerces
    split at coerces
    · cases coerces
      exact absurd rfl there
    · split at coerces
      · next reads =>
        cases coerces
        exact isComparable_of_read? reads
      · cases coerces

theorem isComparable_coerceInferred {raw : String} {type : DataType}
    (there : c.coerceInferred raw type ≠ .null) :
    (c.coerceInferred raw type).isComparable = true := by
  unfold coerceInferred at there ⊢
  cases coerces : c.coerce raw type with
  | ok v =>
    rw [coerces] at there
    exact isComparable_of_coerce there coerces
  | error e => rfl

/-- A value that is there, of a column whose type was found from its first text. -/
def IsCell (c : Formats) (first : String) (v : Value) : Prop :=
  v ≠ .null ∧ ∃ raw, v = c.coerceInferred raw (c.infer first)

theorem IsCell.isComparable {v : Value} (cell : c.IsCell first v) : v.isComparable = true := by
  obtain ⟨there, raw, same⟩ := cell
  rw [same] at there ⊢
  exact isComparable_coerceInferred there

end Formats

end PlainTables
