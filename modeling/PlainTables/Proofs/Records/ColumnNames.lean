import PlainTables.Proofs.Numeral
import PlainTables.Proofs.Records.Outcome
import PlainTables.Records.Melted
import PlainTables.Records.Tagged
import PlainTables.Records.Text

/-!
# Column names

A table in a text is opened on the lines below what is skipped: with configured columns, with the first record
read ahead to number them, or below a header. The names that it settles for its columns differ from each other,
and not only in case. So do the numbered names of columns that have no names.
-/

namespace PlainTables

namespace TextTable

variable {ρ : Type} [LineSource ρ] {o : TextLayout}

/-- The ways to open a table on a source. -/
inductive OpenedOn (o : TextLayout) (r : ρ) : TextTable ρ → Prop
  | configured {s u : ρ} {names columns : List String} : o.suppressHeaders = true →
      LineSource.skip o.skipLeadingLines r = (.ok (), s) →
      LineSource.skip o.skipLeadingDataLines s = (.ok (), u) →
      o.configured = some (.ok names) → o.settle names = .ok columns →
      OpenedOn o r { lines := u, layout := o, columns, preamble := o.commentChar.isSome }
  | numbered {s u v : ρ} {pending : Option (List String)} {after : Bool} {columns : List String} :
      o.suppressHeaders = true → LineSource.skip o.skipLeadingLines r = (.ok (), s) →
      LineSource.skip o.skipLeadingDataLines s = (.ok (), u) → o.configured = none →
      o.readRecord none false o.commentChar.isSome u = (.ok pending, after, v) →
      o.settle (numberedNames ((pending.map List.length).getD 0)) = .ok columns →
      OpenedOn o r { lines := v, layout := o, columns, pending, preamble := after }
  | headed {s u v : ρ} {header : Option (List String)} {after : Bool} {names columns : List String} :
      o.suppressHeaders = false → LineSource.skip o.skipLeadingLines r = (.ok (), s) →
      o.readRecord none o.trimHeaders o.commentChar.isSome s = (.ok header, after, u) →
      LineSource.skip o.skipLeadingDataLines u = (.ok (), v) →
      o.configured.getD (.ok (header.getD [])) = .ok names → o.settle names = .ok columns →
      OpenedOn o r { lines := v, layout := o, columns, preamble := after }

theorem openedOn_of_ofLines {r : ρ} {t : TextTable ρ} (opened : ofLines o r = .ok t) :
    OpenedOn o r t := by
  unfold ofLines at opened
  rcases skipped : LineSource.skip o.skipLeadingLines r with ⟨e | _, s⟩
  · rw [skipped] at opened
    cases opened
  · rw [skipped] at opened
    obtain ⟨_, -, opened⟩ := bind_eq_ok_iff.mp opened
    cases headers : o.suppressHeaders with
    | true =>
      simp only [headers, if_true, openBare] at opened
      rcases skipped' : LineSource.skip o.skipLeadingDataLines s with ⟨e | _, u⟩
      · rw [skipped'] at opened
        cases opened
      · rw [skipped'] at opened
        cases named : o.configured with
        | some found =>
          simp only [named] at opened
          obtain ⟨_, -, opened⟩ := bind_eq_ok_iff.mp opened
          obtain ⟨names, read, opened⟩ := bind_eq_ok_iff.mp opened
          obtain ⟨columns, settled, opened⟩ := bind_eq_ok_iff.mp opened
          cases opened
          exact .configured headers skipped skipped' (named.trans (congrArg some read)) settled
        | none =>
          rcases reading : o.readRecord none false o.commentChar.isSome u with ⟨result, after, v⟩
          simp only [named, reading] at opened
          obtain ⟨_, -, opened⟩ := bind_eq_ok_iff.mp opened
          obtain ⟨pending, found, opened⟩ := bind_eq_ok_iff.mp opened
          obtain ⟨columns, settled, opened⟩ := bind_eq_ok_iff.mp opened
          cases opened
          exact .numbered headers skipped skipped' named (found ▸ reading) settled
    | false =>
      simp only [headers, Bool.false_eq_true, if_false, openHeaded] at opened
      rcases reading : o.readRecord none o.trimHeaders o.commentChar.isSome s with ⟨result, after, u⟩
      rcases skipped' : LineSource.skip o.skipLeadingDataLines u with ⟨result', v⟩
      simp only [reading, skipped'] at opened
      obtain ⟨header, found, opened⟩ := bind_eq_ok_iff.mp opened
      obtain ⟨_, done, opened⟩ := bind_eq_ok_iff.mp opened
      obtain ⟨names, named, opened⟩ := bind_eq_ok_iff.mp opened
      obtain ⟨columns, settled, opened⟩ := bind_eq_ok_iff.mp opened
      cases opened
      exact .headed headers skipped (found ▸ reading) (done ▸ skipped') named settled

end TextTable

def Columns.Distinct (names : List String) : Prop :=
  names.Pairwise fun a b => Columns.same a b = false

instance : DecidablePred Columns.Distinct :=
  fun names => inferInstanceAs (Decidable (names.Pairwise _))

theorem Columns.same_comm (a b : String) : Columns.same a b = Columns.same b a := by
  simp [Columns.same, eq_comm]

namespace TextLayout

theorem duplicate?_eq_none_iff {seen names : List String} :
    duplicate? seen names = none ↔
      (∀ a ∈ seen, ∀ b ∈ names, Columns.same a b = false) ∧ Columns.Distinct names := by
  induction names generalizing seen with
  | nil => simp [duplicate?, Columns.Distinct]
  | cons name names ih =>
    rw [duplicate?]
    by_cases known : seen.any (Columns.same · name) = true
    · rw [if_pos known]
      obtain ⟨a, mem, same⟩ := List.any_eq_true.mp known
      refine iff_of_false (by simp) ?_
      rintro ⟨new, -⟩
      rw [new a mem name List.mem_cons_self] at same
      cases same
    · rw [if_neg known, ih, Columns.Distinct, Columns.Distinct, List.pairwise_cons]
      have notSeen : ∀ a ∈ seen, Columns.same a name = false := by simpa using known
      constructor
      · rintro ⟨new, distinct⟩
        have inSeen (a : String) (mem : a ∈ seen) := new a (List.mem_cons_of_mem _ mem)
        exact ⟨fun a mem => List.forall_mem_cons.mpr ⟨notSeen a mem, inSeen a mem⟩,
          new name List.mem_cons_self, distinct⟩
      · rintro ⟨new, first, distinct⟩
        exact ⟨List.forall_mem_cons.mpr
          ⟨first, fun a mem b memb => new a mem b (List.mem_cons_of_mem _ memb)⟩, distinct⟩

theorem settle_eq_ok {o : TextLayout} {names : List String} (kept : o.defectiveHeaders = false)
    (distinct : Columns.Distinct names) : o.settle names = .ok names := by
  have new : duplicate? [] names = none := duplicate?_eq_none_iff.mpr ⟨by simp, distinct⟩
  simp [settle, kept, new]

theorem length_of_settle {o : TextLayout} {names columns : List String}
    (settled : o.settle names = .ok columns) :
    columns.length = names.length := by
  unfold settle at settled
  simp only at settled
  split at settled
  · cases settled
  · rw [← Except.ok.inj settled]
    split
    · simp [repair]
    · rfl

/-- Names that have been settled are distinct, also after a repair. -/
theorem distinct_of_settle {o : TextLayout} {names columns : List String}
    (settled : o.settle names = .ok columns) : Columns.Distinct columns := by
  unfold settle at settled
  generalize (if o.defectiveHeaders then repair names else names) = repaired at settled
  cases duplicate : duplicate? [] repaired with
  | some name => simp [duplicate] at settled
  | none =>
    simp only [duplicate, Except.ok.injEq] at settled
    rw [← settled]
    exact (duplicate?_eq_none_iff.mp duplicate).2

end TextLayout

theorem Text.flatMap_upperChar_digits {digits : List Char}
    (allDigits : ∀ c ∈ digits, c.isDigit = true) : digits.flatMap Text.upperChar = digits := by
  induction digits with
  | nil => rfl
  | cons c digits ih =>
    obtain ⟨digit, rest⟩ := List.forall_mem_cons.mp allDigits
    obtain ⟨low, high⟩ := Numeral.toNat_of_isDigit digit
    have notSmall : ¬ ('a'.val ≤ c.val ∧ c.val ≤ 'z'.val) := by
      rintro ⟨small, _⟩
      have : 97 ≤ c.toNat := small
      omega
    have upper : c.toUpper = c := dif_neg notSmall
    rw [List.flatMap_cons, ih rest, Text.upperChar, if_pos (by omega), upper]
    rfl

theorem Numeral.toDigits_injective {m n : Nat} (same : Nat.toDigits 10 m = Nat.toDigits 10 n) :
    m = n := by
  have value := congrArg (Nat.ofDigitChars 10 · 0) same
  simpa only [Nat.ofDigitChars_ten_toDigits] using value

/-- The names of columns without names are their numbers, and are told apart by these. -/
theorem distinct_numberedNames (count : Nat) : Columns.Distinct (numberedNames count) := by
  have upper (n : Nat) : Text.uppercase ("COLUMN" ++ toString n) =
      String.ofList ("COLUMN".toList ++ Nat.toDigits 10 n) := by
    have digits : (toString n).toList = Nat.toDigits 10 n := Nat.toList_repr
    rw [Text.uppercase, String.toList_append, digits, List.flatMap_append,
      Text.flatMap_upperChar_digits fun c mem => Numeral.isDigit_of_mem mem]
    rfl
  rw [Columns.Distinct, numberedNames, List.pairwise_map]
  refine List.pairwise_lt_range.imp fun {m n} less => Bool.eq_false_iff.mpr fun same => ?_
  have same := of_decide_eq_true same
  rw [upper, upper] at same
  have digits := List.append_cancel_left (String.ofList_injective same)
  have := Numeral.toDigits_injective digits
  omega

namespace TextTable

variable {ρ : Type} [LineSource ρ] {o : TextLayout}

/-- A table in a text is opened with columns that have been settled, wherever their names come from. -/
theorem exists_settled_of_ofLines {r : ρ} {t : TextTable ρ} (opened : ofLines o r = .ok t) :
    ∃ names, o.settle names = .ok t.columns := by
  cases openedOn_of_ofLines opened with
  | configured _ _ _ _ settled => exact ⟨_, settled⟩
  | numbered _ _ _ _ _ settled => exact ⟨_, settled⟩
  | headed _ _ _ _ _ settled => exact ⟨_, settled⟩

theorem distinct_of_ofLines {r : ρ} {t : TextTable ρ} (opened : ofLines o r = .ok t) :
    Columns.Distinct t.columns := by
  obtain ⟨names, settled⟩ := exists_settled_of_ofLines opened
  exact TextLayout.distinct_of_settle settled

end TextTable

namespace TaggedTable

/-- Columns for the values of file names keep the columns distinct if their names are new and
distinct. -/
theorem distinct_ofTable {σ : Type} [RecordSource σ] {inner : σ} {names : List String}
    (own : Columns.Distinct (RecordSource.columns inner)) (parts : Columns.Distinct names)
    (new : ∀ part ∈ names, ∀ column ∈ RecordSource.columns inner, Columns.same part column = false)
    (prepended : Bool) : Columns.Distinct (ofTable inner names prepended).columns := by
  cases prepended with
  | true => exact List.pairwise_append.mpr ⟨parts, own, new⟩
  | false =>
    refine List.pairwise_append.mpr ⟨own, parts, fun column mem part memp => ?_⟩
    rw [Columns.same_comm]
    exact new part memp column mem

end TaggedTable

namespace MeltedTable

/-- The columns of a transposed table are its header, or else they are numbered. -/
theorem columns_of_ofTable {σ : Type} [RecordSource σ] {inner : σ} {keyLines fieldsToSkip : Nat}
    {header : Option (List String)} {t : MeltedTable σ}
    (opened : ofTable inner keyLines fieldsToSkip header = .ok t) :
    (∀ names, header = some names → t.columns = names) ∧
      (header = none → ∃ count, t.columns = numberedNames count) := by
  unfold ofTable at opened
  obtain ⟨⟨keys, inner'⟩, _, opened⟩ := bind_eq_ok_iff.mp opened
  cases header with
  | some names =>
    simp only at opened
    split at opened
    · cases opened
    · cases opened
      exact ⟨fun _ same => (Option.some.inj same), by simp⟩
  | none =>
    obtain ⟨loaded, _, opened⟩ := bind_eq_ok_iff.mp opened
    cases opened
    exact ⟨by simp, fun _ => ⟨_, rfl⟩⟩

end MeltedTable

end PlainTables
