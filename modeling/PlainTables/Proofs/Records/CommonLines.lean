import PlainTables.Proofs.Records.TextRecord
import PlainTables.Proofs.Splitting.CommonLines

/-!
# Reading records in lines that two texts have in common

Below the preamble the next record is found in its own lines and those that are ignored before it. Texts
that have these lines in common have the same record there.
-/

namespace PlainTables

open ByteLines QueryError

variable {r s : ByteLines} {front data more lines : List String} {o o' : TextLayout}

theorem Leaves.suffix {α : Type} {x : Reading ByteLines α} (leaves : Leaves lines x)
    {rest : List String} (left : x.2.Shows rest) : rest <:+ lines := by
  obtain ⟨rest', left', suffix⟩ := leaves
  obtain rfl := left.unique left'
  exact suffix

namespace TextLayout

/-- The next record of a text, without what is known about its preamble. -/
def recordIn (o : TextLayout) (width : Option Nat) (trim preamble : Bool) (r : ByteLines) :
    Reading ByteLines (Option (List String)) :=
  ((o.readRecord width trim preamble r).1, (o.readRecord width trim preamble r).2.2)

theorem leaves_recordIn (o : TextLayout) (width : Option Nat) (trim preamble : Bool)
    (shows : r.Shows lines) : Leaves lines.tail (o.recordIn width trim preamble r) := by
  induction remaining : LineSource.remaining r using Nat.strongRecOn generalizing preamble r lines with
  | _ n ih =>
    unfold recordIn at ih ⊢
    cases lines with
    | nil =>
      rw [o.readRecord_of_end width trim preamble shows.readLine_nil]
      exact ⟨[], shows, List.suffix_refl _⟩
    | cons line lines =>
      obtain ⟨r', read, below, fewer⟩ := shows.readLine_cons
      rw [readRecord_step, read]
      simp only [List.tail_cons]
      split
      · obtain ⟨rest, left, suffix⟩ := ih _ (by omega) true below rfl
        exact ⟨rest, left, suffix.trans (List.tail_suffix _)⟩
      · have size := o.splitting.remaining_split line r' trim
        obtain ⟨rest, left, suffix⟩ := o.splitting.leaves_split line trim below
        generalize o.splitting.split line r' trim = parts at left size
        rcases parts with ⟨e | fields, t⟩
        · simp only at left size ⊢
          split
          · obtain ⟨rest', left', suffix'⟩ := ih _ (by omega) false left rfl
            exact ⟨rest', left', (suffix'.trans (List.tail_suffix _)).trans suffix⟩
          · exact ⟨rest, left, suffix⟩
        · simp only at left size ⊢
          split
          · exact ⟨rest, left, suffix⟩
          · obtain ⟨rest', left', suffix'⟩ := ih _ (by omega) false left rfl
            exact ⟨rest', left', (suffix'.trans (List.tail_suffix _)).trans suffix⟩

/-- The record is found above all of the lines `data`, unless both texts end with the lines that they
have in common. -/
def FoundAbove (data more : List String) (x : Reading ByteLines (Option (List String))) : Prop :=
  data = [] ∧ more = [] ∨
    (∃ fields, x.1 = .ok (some fields)) ∧ ∃ rest, x.2.Shows (rest ++ data)

theorem eq_nil_of_foundAbove {width : Option Nat} {trim preamble : Bool} (shows : r.Shows data)
    (found : FoundAbove data more (o.recordIn width trim preamble r)) : data = [] ∧ more = [] := by
  rcases found with atEnd | ⟨⟨fields, record⟩, rest, left⟩
  · exact atEnd
  · have suffix := (o.leaves_recordIn width trim preamble shows).suffix left
    cases data with
    | nil =>
      rw [recordIn, o.readRecord_of_end width trim preamble shows.readLine_nil] at record
      cases record
    | cons next data =>
      have length := suffix.length_le
      simp at length
      omega

/-- The lines of a record that is found above `data`, and those of the lines ignored before it, end above
`data` as well. -/
theorem FoundAbove.endsAbove {width : Option Nat} {trim : Bool} {line : String}
    (shows : LineSource.readLine r = (.ok (some line), s)) (below : s.Shows lines)
    (found : FoundAbove data more (o.recordIn width trim false r)) :
    EndsAbove data more (o.splitting.split line s trim) := by
  rcases found with atEnd | ⟨⟨fields, record⟩, rest, left⟩
  · exact .inl atEnd
  · obtain ⟨lines', left', suffix⟩ := o.splitting.leaves_split line trim below
    have closed (other : String)
        (stopped : (o.splitting.split line s trim).1 = .error (.unterminatedQuote other)) :
        (o.splitting.split line s trim).2.Shows [] :=
      Splitting.shows_nil_of_unterminated below stopped
    unfold recordIn at record left
    rw [readRecord_step, shows] at record left
    simp only [Bool.false_and, Bool.false_eq_true, if_false] at record left
    generalize o.splitting.split line s trim = parts at left' closed record left ⊢
    have resumed {t : ByteLines} {lines' : List String} (left' : t.Shows lines')
        (left : (o.readRecord width trim false t).2.2.Shows (rest ++ data)) :
        ∃ rest', t.Shows (rest' ++ data) := by
      have suffix := (o.leaves_recordIn width trim false left').suffix left
      obtain ⟨above, lines⟩ := suffix.trans (List.tail_suffix _)
      exact ⟨above ++ rest, by rw [List.append_assoc, lines]; exact left'⟩
    rcases parts with ⟨e | found, t⟩
    · simp only at record left left' closed
      split at record
      · rename_i ignored
        rw [if_pos ignored] at left
        refine .inr ⟨fun other stopped => ?_, resumed left' left⟩
        rw [o.readRecord_of_end width trim false (closed other stopped).readLine_nil] at record
        cases record
      · cases record
    · simp only at record left left' closed
      split at record
      · rename_i kept
        rw [if_pos kept] at left
        exact .inr ⟨by simp, rest, left⟩
      · rename_i ignored
        rw [if_neg ignored] at left
        exact .inr ⟨by simp, resumed left' left⟩

/-- Texts have the same record in their common lines, if it ends there. -/
theorem recordIn_above (splitting : o.splitting = o'.splitting)
    (ignoring : o.ignoreUnparseableLines = o'.ignoreUnparseableLines) (width : Option Nat)
    (trim : Bool) (shows : r.Shows (front ++ data)) (shows' : s.Shows (front ++ more))
    (found : FoundAbove data more (o.recordIn width trim false r)) :
    AlikeAbove data more (o.recordIn width trim false r) (o'.recordIn width trim false s) := by
  -- A record that is ignored may go over several lines, so the induction is on what is left.
  induction remaining : LineSource.remaining r using Nat.strongRecOn generalizing r s front with
  | _ n ih =>
    cases front with
    | nil =>
      obtain ⟨rfl, rfl⟩ := eq_nil_of_foundAbove shows found
      unfold recordIn
      rw [o.readRecord_of_end width trim false shows.readLine_nil,
        o'.readRecord_of_end width trim false shows'.readLine_nil]
      exact ⟨.ok none, [], shows, shows'⟩
    | cons line front =>
      obtain ⟨r', read, below, fewer⟩ := shows.readLine_cons
      obtain ⟨s', read', below', _⟩ := shows'.readLine_cons
      have size := o.splitting.remaining_split line r' trim
      obtain ⟨alike, rest, left, left'⟩ :=
        o.splitting.split_above line trim below below' (found.endsAbove read below)
      unfold recordIn at found ⊢
      rw [readRecord_step, read] at found ⊢
      rw [readRecord_step (r := s), read', ← splitting, ← ignoring]
      simp only [Bool.false_and, Bool.false_eq_true, if_false] at found ⊢
      generalize o.splitting.split line r' trim = parts at alike left size found
      generalize o.splitting.split line s' trim = parts' at alike left'
      obtain ⟨result, t⟩ := parts
      obtain ⟨result', t'⟩ := parts'
      simp only at alike left left' size
      cases alike with
      | ok fields =>
        simp only at found ⊢
        split
        · exact ⟨.ok _, rest, left, left'⟩
        · rename_i ignored
          rw [if_neg ignored] at found
          exact ih _ (by omega) left left' found rfl
      | @error e e' same =>
        have quoteError : e.isQuoteError = e'.isQuoteError := by
          rw [← isQuoteError_unnumbered, same, isQuoteError_unnumbered]
        simp only [quoteError] at found ⊢
        split
        · rename_i ignored
          rw [if_pos ignored] at found
          exact ih _ (by omega) left left' found rfl
        · exact ⟨.error same, rest, left, left'⟩

/-- Below its preamble the first text has the lines of the second one, of which the first line could not
belong to the preamble. -/
def Below (comment : Option Char) (preamble : Bool) (lines lines' : List String) : Prop :=
  ∃ comments, lines = comments ++ lines' ∧
    (∀ line ∈ comments, (preamble && LineSource.isPreamble comment line) = true) ∧
    ∀ line ∈ lines'.head?, (preamble && LineSource.isPreamble comment line) = false

theorem Below.refl (comment : Option Char) (lines : List String) : Below comment false lines lines :=
  ⟨[], rfl, by simp, by simp⟩

theorem Below.nil (comment : Option Char) (preamble : Bool) : Below comment preamble [] [] :=
  ⟨[], rfl, by simp, by simp⟩

/-- A record below a preamble is that of the text without the preamble. Comments stay possible only at
the end of the text. -/
theorem recordIn_below (o : TextLayout) (width : Option Nat) (trim : Bool) {preamble : Bool}
    {lines' : List String} (shows : r.Shows lines)
    (below : Below o.commentChar preamble lines lines') :
    ∃ r', r'.Shows lines' ∧ o.recordIn width trim preamble r = o.recordIn width trim false r' ∧
      ((o.readRecord width trim preamble r).2.1 = false ∨ lines' = []) := by
  obtain ⟨comments, rfl, areComments, first⟩ := below
  induction comments generalizing preamble r with
  | nil =>
    refine ⟨r, shows, ?_⟩
    cases lines' with
    | nil =>
      unfold recordIn
      rw [o.readRecord_of_end width trim preamble shows.readLine_nil,
        o.readRecord_of_end width trim false shows.readLine_nil]
      exact ⟨rfl, .inr rfl⟩
    | cons line lines' =>
      have noComment : o.readRecord width trim preamble r = o.readRecord width trim false r := by
        obtain ⟨r', read, _⟩ := shows.readLine_cons
        have isFirst := first line rfl
        rw [readRecord_step, readRecord_step o width trim false, read]
        simp only [isFirst, Bool.false_and]
      unfold recordIn
      rw [noComment]
      exact ⟨rfl, .inl (o.preamble_of_false width trim r)⟩
  | cons comment comments ih =>
    obtain ⟨r', read, below, _⟩ := shows.readLine_cons
    have isComment := areComments comment List.mem_cons_self
    obtain rfl : preamble = true := (Bool.and_eq_true_iff.mp isComment).1
    have skipped : o.readRecord width trim true r = o.readRecord width trim true r' := by
      rw [readRecord_step, read]
      simp only [isComment, if_true]
    unfold recordIn at ih ⊢
    rw [skipped]
    exact ih below (fun line mem => areComments line (List.mem_cons_of_mem _ mem)) first

/-- A record that both texts have in their common lines is the same with a preamble above one of them.
The lines below it are not taken for comments any more. -/
theorem recordIn_common (splitting : o.splitting = o'.splitting)
    (ignoring : o.ignoreUnparseableLines = o'.ignoreUnparseableLines) (width : Option Nat)
    (trim : Bool) {preamble : Bool} (shows : r.Shows (front ++ data)) (shows' : s.Shows lines)
    (below : Below o'.commentChar preamble lines (front ++ more))
    (found : FoundAbove data more (o.recordIn width trim false r)) :
    Alike (o.recordIn width trim false r).1 (o'.recordIn width trim preamble s).1 ∧
      ∃ rest, (o.recordIn width trim false r).2.Shows (rest ++ data) ∧
        (o'.recordIn width trim preamble s).2.Shows (rest ++ more) ∧
        Below o'.commentChar (o'.readRecord width trim preamble s).2.1 (rest ++ more)
          (rest ++ more) := by
  obtain ⟨s', shows', same, possible⟩ := o'.recordIn_below width trim shows' below
  rw [same]
  obtain ⟨alike, rest, left, left'⟩ :=
    recordIn_above splitting ignoring width trim shows shows' found
  refine ⟨alike, rest, left, left', ?_⟩
  -- Comments stay possible only at the end of the text, where no lines can be taken for them.
  rcases possible with impossible | atEnd
  · rw [impossible]
    exact .refl _ _
  · rw [atEnd] at shows'
    have left'' : (o'.recordIn width trim false s').2.Shows [] := by
      rw [recordIn, o'.readRecord_of_end width trim false shows'.readLine_nil]
      exact shows'
    rw [left'.unique left'']
    exact .nil _ _

theorem recordIn_common_to_end (splitting : o.splitting = o'.splitting)
    (ignoring : o.ignoreUnparseableLines = o'.ignoreUnparseableLines) (width : Option Nat)
    (trim : Bool) {preamble : Bool} (shows : r.Shows front) (shows' : s.Shows lines)
    (below : Below o'.commentChar preamble lines front) :
    Alike (o.recordIn width trim false r).1 (o'.recordIn width trim preamble s).1 ∧
      ∃ rest, (o.recordIn width trim false r).2.Shows rest ∧
        (o'.recordIn width trim preamble s).2.Shows rest ∧
        Below o'.commentChar (o'.readRecord width trim preamble s).2.1 rest rest := by
  rw [← List.append_nil front] at shows below
  simpa only [List.append_nil] using
    recordIn_common splitting ignoring width trim shows shows' below (.inl ⟨rfl, rfl⟩)

end TextLayout

end PlainTables
