import PlainTables.Proofs.Lines.Preamble
import PlainTables.Records.Text

/-!
# Reading one record of a text

A record starts with the first line after the preamble that is not ignored. If no line is, then the
number of the columns is of no importance.
-/

namespace PlainTables

def TextTable.shown {ρ : Type} (t : TextTable ρ) : List String × ρ := (t.fields, t.lines)

theorem TextTable.fields_eq {ρ : Type} [LineSource ρ] (t : TextTable ρ) :
    RecordSource.fields t = t.fields.map fun field => some (Text.trimmed field) := by
  apply List.ext_getElem
  · simp [RecordSource.fields, RecordSource.fieldCount]
  · intro i inFields inRecord
    have bound : i < t.fields.length := by simpa using inRecord
    simp [RecordSource.fields, RecordSource.field, bound]

namespace TextLayout

variable {ρ : Type} [LineSource ρ] {o : TextLayout}

def recordFrom (o : TextLayout) (line : String) (trim : Bool) (r : ρ) :
    Except QueryError (Option (List String)) × Bool × ρ :=
  match o.splitting.split line r trim with
  | (.ok fields, r) => (.ok (some fields), false, r)
  | (.error e, r) => (.error e, false, r)

/-- As many steps as there are lines are enough. -/
theorem nextRecord_eq_of_enough (o : TextLayout) (width : Option Nat) (trim : Bool)
    (fuel fuel' : Nat) (preamble : Bool) (r : ρ) (enough : LineSource.remaining r < fuel)
    (enough' : LineSource.remaining r < fuel') :
    o.nextRecord width trim fuel preamble r = o.nextRecord width trim fuel' preamble r := by
  induction fuel generalizing fuel' preamble r with
  | zero => omega
  | succ fuel ih =>
    cases fuel' with
    | zero => omega
    | succ fuel' =>
      have fewer := LineSource.remaining_readLine r
      rw [nextRecord, nextRecord]
      generalize LineSource.readLine r = reading at fewer
      rcases reading with ⟨e | (_ | line), r'⟩
      · rfl
      · rfl
      · have smaller : LineSource.remaining r' < LineSource.remaining r := fewer line rfl
        have after := o.splitting.remaining_split line r' trim
        simp only
        split
        · exact ih _ _ r' (by omega) (by omega)
        · generalize o.splitting.split line r' trim = parts at after
          rcases parts with ⟨e | fields, r''⟩
          · simp only at after ⊢
            split
            · exact ih _ _ r'' (by omega) (by omega)
            · rfl
          · simp only at after ⊢
            split
            · rfl
            · exact ih _ _ r'' (by omega) (by omega)

/-- The next line belongs to the preamble, starts the record, or is ignored with the lines that its
fields take up. -/
theorem readRecord_step (o : TextLayout) (width : Option Nat) (trim preamble : Bool) (r : ρ) :
    o.readRecord width trim preamble r =
      match LineSource.readLine r with
      | (.error e, r) => (.error e, preamble, r)
      | (.ok none, r) => (.ok none, preamble, r)
      | (.ok (some line), r) =>
        if preamble && LineSource.isPreamble o.commentChar line then o.readRecord width trim true r
        else
          match o.splitting.split line r trim with
          | (.ok fields, r) =>
            if !o.ignoreUnparseableLines || isPlausible width fields then
              (.ok (some fields), false, r)
            else o.readRecord width trim false r
          | (.error e, r) =>
            if o.ignoreUnparseableLines && e.isQuoteError then o.readRecord width trim false r
            else (.error e, false, r) := by
  have fewer := LineSource.remaining_readLine r
  rw [readRecord, nextRecord]
  generalize LineSource.readLine r = reading at fewer
  rcases reading with ⟨e | (_ | line), r'⟩
  · rfl
  · rfl
  · have smaller : LineSource.remaining r' < LineSource.remaining r := fewer line rfl
    have after := o.splitting.remaining_split line r' trim
    have resumed (possible : Bool) (s : ρ) (le : LineSource.remaining s ≤ LineSource.remaining r') :
        o.nextRecord width trim (LineSource.remaining r) possible s =
          o.readRecord width trim possible s :=
      o.nextRecord_eq_of_enough width trim _ _ possible s (by omega) (Nat.lt_succ_self _)
    simp only [resumed true r' (Nat.le_refl _)]
    generalize o.splitting.split line r' trim = parts at after
    rcases parts with ⟨e | fields, r''⟩ <;> simp only [resumed false r'' after]

theorem readRecord_of_end (o : TextLayout) (width : Option Nat) (trim preamble : Bool) {r : ρ}
    (atEnd : LineSource.readLine r = (.ok none, r)) :
    o.readRecord width trim preamble r = (.ok none, preamble, r) := by
  rw [readRecord_step, atEnd]

theorem readRecord_congr (o : TextLayout) (width : Option Nat) (trim preamble : Bool) {r r' : ρ}
    (sameLine : LineSource.readLine r = LineSource.readLine r') :
    o.readRecord width trim preamble r = o.readRecord width trim preamble r' := by
  rw [readRecord_step, readRecord_step (r := r'), sameLine]

theorem readRecord_eq (strict : o.ignoreUnparseableLines = false) (width : Option Nat)
    (trim preamble : Bool) (r : ρ) :
    o.readRecord width trim preamble r =
      match LineSource.readLine r with
      | (.error e, r) => (.error e, preamble, r)
      | (.ok none, r) => (.ok none, preamble, r)
      | (.ok (some line), r) =>
        if preamble && LineSource.isPreamble o.commentChar line then
          o.readRecord width trim true r
        else o.recordFrom line trim r := by
  rw [readRecord_step]
  rcases LineSource.readLine r with ⟨e | (_ | line), r'⟩
  · rfl
  · rfl
  · simp only [recordFrom]
    rcases o.splitting.split line r' trim with ⟨e | fields, r''⟩ <;> simp [strict]

/-- The number of the columns decides about nothing but lines that are ignored. -/
theorem readRecord_width (strict : o.ignoreUnparseableLines = false) (width : Option Nat)
    (trim preamble : Bool) (r : ρ) :
    o.readRecord width trim preamble r = o.readRecord none trim preamble r := by
  induction remaining : LineSource.remaining r using Nat.strongRecOn generalizing preamble r with
  | _ n ih =>
    have fewer := LineSource.remaining_readLine r
    rw [readRecord_eq strict, readRecord_eq strict none]
    generalize LineSource.readLine r = reading at fewer
    rcases reading with ⟨e | (_ | line), r'⟩
    · rfl
    · rfl
    · simp only
      rw [ih _ (remaining ▸ fewer line rfl) true r' rfl]

/-- The record that is looked for from a line on that has just been read. The line may be ignored. -/
def recordFromOrBelow (o : TextLayout) (width : Option Nat) (line : String) (trim : Bool) (r : ρ) :
    Except QueryError (Option (List String)) × Bool × ρ :=
  match o.splitting.split line r trim with
  | (.ok fields, r) =>
    if !o.ignoreUnparseableLines || isPlausible width fields then (.ok (some fields), false, r)
    else o.readRecord width trim false r
  | (.error e, r) =>
    if o.ignoreUnparseableLines && e.isQuoteError then o.readRecord width trim false r
    else (.error e, false, r)

theorem recordFromOrBelow_eq (strict : o.ignoreUnparseableLines = false) (width : Option Nat)
    (line : String) (trim : Bool) (r : ρ) :
    o.recordFromOrBelow width line trim r = o.recordFrom line trim r := by
  rw [recordFromOrBelow, recordFrom]
  rcases o.splitting.split line r trim with ⟨e | fields, r'⟩ <;> simp [strict]

/-- While comments are possible, the record is that of the line after the preamble, unless this is
ignored. -/
theorem readRecord_eq_afterPreamble (o : TextLayout) (width : Option Nat) (trim : Bool)
    (fuel : Nat) (r : ρ) (enough : LineSource.remaining r < fuel) :
    o.readRecord width trim o.commentChar.isSome r =
      match LineSource.readAfterPreamble o.commentChar fuel r with
      | (.error e, r) => (.error e, o.commentChar.isSome, r)
      | (.ok none, r) => (.ok none, o.commentChar.isSome, r)
      | (.ok (some line), r) => o.recordFromOrBelow width line trim r := by
  induction fuel generalizing r with
  | zero => omega
  | succ fuel ih =>
    have fewer := LineSource.remaining_readLine r
    rw [readRecord_step, LineSource.readAfterPreamble]
    generalize LineSource.readLine r = reading at fewer
    rcases reading with ⟨e | (_ | line), r'⟩
    · rfl
    · rfl
    · have smaller : LineSource.remaining r' < LineSource.remaining r := fewer line rfl
      simp only
      by_cases preamble : LineSource.isPreamble o.commentChar line = true
      · have possible : o.commentChar.isSome = true := by
          cases comment : o.commentChar with
          | none => rw [comment] at preamble; cases preamble
          | some c => rfl
        rw [if_pos (by rw [possible, preamble]; rfl), if_pos preamble, ← possible]
        exact ih r' (by omega)
      · rw [if_neg preamble, if_neg (by simp [preamble])]
        rfl

theorem readRecord_eq_readAfterPreamble (strict : o.ignoreUnparseableLines = false) (trim : Bool)
    (fuel : Nat) (r : ρ) (enough : LineSource.remaining r < fuel) :
    o.readRecord none trim o.commentChar.isSome r =
      match LineSource.readAfterPreamble o.commentChar fuel r with
      | (.error e, r) => (.error e, o.commentChar.isSome, r)
      | (.ok none, r) => (.ok none, o.commentChar.isSome, r)
      | (.ok (some line), r) => o.recordFrom line trim r := by
  rw [o.readRecord_eq_afterPreamble none trim fuel r enough]
  simp only [recordFromOrBelow_eq strict]

/-- A line that has been read is not the end of the text, and it is the end of the preamble. -/
theorem recordFrom_cases (o : TextLayout) (line : String) (trim : Bool) (r : ρ) :
    (∃ fields r', o.recordFrom line trim r = (.ok (some fields), false, r')) ∨
      ∃ e r', o.recordFrom line trim r = (.error e, false, r') := by
  unfold recordFrom
  rcases o.splitting.split line r trim with ⟨e | fields, r'⟩
  · exact .inr ⟨e, r', rfl⟩
  · exact .inl ⟨fields, r', rfl⟩

theorem preamble_of_record {width : Option Nat} {trim preamble after : Bool} {fields : List String}
    {r r' : ρ} (reading : o.readRecord width trim preamble r = (.ok (some fields), after, r')) :
    after = false := by
  induction remaining : LineSource.remaining r using Nat.strongRecOn generalizing preamble r with
  | _ n ih =>
    have fewer := LineSource.remaining_readLine r
    rw [readRecord_step] at reading
    generalize LineSource.readLine r = next at fewer reading
    rcases next with ⟨e | (_ | line), s⟩
    · cases reading
    · cases reading
    · have smaller : LineSource.remaining s < LineSource.remaining r := fewer line rfl
      have left := o.splitting.remaining_split line s trim
      simp only at reading
      split at reading
      · exact ih _ (by omega) reading rfl
      · generalize o.splitting.split line s trim = parts at reading left
        rcases parts with ⟨e | found, t⟩
        · simp only at reading left
          split at reading
          · exact ih _ (by omega) reading rfl
          · cases reading
        · simp only at reading left
          split at reading
          · cases reading
            rfl
          · exact ih _ (by omega) reading rfl

theorem preamble_of_false (o : TextLayout) (width : Option Nat) (trim : Bool) (r : ρ) :
    (o.readRecord width trim false r).2.1 = false := by
  induction remaining : LineSource.remaining r using Nat.strongRecOn generalizing r with
  | _ n ih =>
    have fewer := LineSource.remaining_readLine r
    rw [readRecord_step]
    generalize LineSource.readLine r = next at fewer
    rcases next with ⟨e | (_ | line), s⟩
    · rfl
    · rfl
    · have smaller : LineSource.remaining s < LineSource.remaining r := fewer line rfl
      have left := o.splitting.remaining_split line s trim
      simp only [Bool.false_and, Bool.false_eq_true, if_false]
      generalize o.splitting.split line s trim = parts at left
      rcases parts with ⟨e | found, t⟩
      · simp only at left ⊢
        split
        · exact ih _ (by omega) t rfl
        · rfl
      · simp only at left ⊢
        split
        · rfl
        · exact ih _ (by omega) t rfl

theorem readLine_of_ended (strict : o.ignoreUnparseableLines = false) {trim preamble after : Bool}
    {r r' : ByteLines} (reading : o.readRecord none trim preamble r = (.ok none, after, r')) :
    after = preamble ∧ LineSource.readLine r' = (.ok none, r') := by
  induction remaining : LineSource.remaining r using Nat.strongRecOn generalizing preamble r with
  | _ n ih =>
    have fewer := LineSource.remaining_readLine r
    rw [readRecord_eq strict] at reading
    rcases next : LineSource.readLine r with ⟨e | (_ | line), s⟩
    · rw [next] at reading
      cases reading
    · rw [next] at reading
      cases reading
      exact ⟨rfl, ByteLines.readLine_of_end next⟩
    · rw [next] at reading fewer
      simp only at reading
      split at reading
      · rename_i isPreamble
        obtain ⟨same, ended⟩ := ih _ (remaining ▸ fewer line rfl) reading rfl
        rw [Bool.and_eq_true] at isPreamble
        exact ⟨same.trans isPreamble.1.symm, ended⟩
      · obtain ⟨_, _, record⟩ | ⟨_, _, record⟩ := o.recordFrom_cases line trim s
        · rw [record] at reading
          cases reading
        · rw [record] at reading
          cases reading

end TextLayout

end PlainTables
