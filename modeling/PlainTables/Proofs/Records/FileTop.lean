import PlainTables.Proofs.Records.CommonLines
import PlainTables.Proofs.Records.FileRun

/-!
# The tops of the files of a set

A table reads the top of the first file itself, and the set drops the tops of the later ones. Both
leave what is read below the top of the file alone.
-/

namespace PlainTables

open ByteLines FileSetLines

namespace TextLayout

variable {o : TextLayout} {cipher : Option Cipher} {file : SetFile} {files : List SetFile}
  {values : List String} {bytes : List UInt8}

def laterFiles (o : TextLayout) (cipher : Option Cipher) : FileSetLayout where
  commentChar := o.commentChar
  suppressHeaders := o.suppressHeaders
  skipLeadingLines := o.skipLeadingLines
  linesToSkip := o.skipLeadingDataLines
  cipher

def fromHeader (o : TextLayout) (bytes : List UInt8) : List String :=
  ((linesOf bytes).drop o.skipLeadingLines).dropWhile (LineSource.isPreamble o.commentChar)

/-- The lines of a text below what is read or skipped at its top. Without a header the preamble is among
them. -/
def belowTop (o : TextLayout) (bytes : List UInt8) : List String :=
  if o.suppressHeaders then ((linesOf bytes).drop o.skipLeadingLines).drop o.skipLeadingDataLines
  else (o.fromHeader bytes).tail.drop o.skipLeadingDataLines

/-- The header, if there is one, does not need the lines after it. -/
def HeaderOnOneLine (o : TextLayout) (bytes : List UInt8) : Prop :=
  o.suppressHeaders = false → ∀ header ∈ (o.fromHeader bytes).head?,
    (o.splitting.split header (ofBytes []) o.trimHeaders).1.isOk

instance (o : TextLayout) : DecidablePred o.HeaderOnOneLine :=
  fun bytes => inferInstanceAs (Decidable (_ → ∀ header ∈ (o.fromHeader bytes).head?, _))

theorem headerOnOneLine_nil (o : TextLayout) : o.HeaderOnOneLine [] := by
  intro _ header first
  rw [fromHeader, linesOf, List.drop_nil] at first
  cases first

def HoldsTop (o : TextLayout) (bytes : List UInt8) : Prop :=
  if o.suppressHeaders then o.skipLeadingLines + o.skipLeadingDataLines ≤ (linesOf bytes).length
  else o.skipLeadingDataLines < (o.fromHeader bytes).length

instance (o : TextLayout) : DecidablePred o.HoldsTop :=
  fun bytes => inferInstanceAs (Decidable (if o.suppressHeaders then
    o.skipLeadingLines + o.skipLeadingDataLines ≤ (linesOf bytes).length
    else o.skipLeadingDataLines < (o.fromHeader bytes).length))

theorem HoldsTop.skipLeadingLines_le (holds : o.HoldsTop bytes) :
    o.skipLeadingLines ≤ (linesOf bytes).length := by
  unfold HoldsTop at holds
  split at holds
  · omega
  · refine Nat.le_of_not_lt fun short => ?_
    have none : o.fromHeader bytes = [] := by
      rw [fromHeader, List.drop_eq_nil_of_le (by omega), List.dropWhile_nil]
    rw [none] at holds
    cases holds

theorem readRecord_header (strict : o.ignoreUnparseableLines = false) {lines : List String}
    (oneLine : ∀ header ∈ lines.head?,
      (o.splitting.split header (ofBytes []) o.trimHeaders).1.isOk)
    (k : Nat)
    (below : (linesOf bytes).dropWhile (LineSource.isPreamble o.commentChar) = lines) :
    ∃ rest k', LineSource.readAfterPreamble o.commentChar (size (atBytes bytes k) + 1)
          (atBytes bytes k) = (.ok lines.head?, atBytes rest k') ∧
      linesOf rest = lines.tail ∧
      (lines = [] ∧ o.readRecord none o.trimHeaders o.commentChar.isSome (atBytes bytes k) =
          (.ok none, o.commentChar.isSome, atBytes rest k') ∨
        ∃ names, o.readRecord none o.trimHeaders o.commentChar.isSome (atBytes bytes k) =
          (.ok (some names), false, atBytes rest k')) := by
  obtain ⟨rest, k', found, left⟩ := readAfterPreamble_eq_dropWhile o.commentChar
    (size (atBytes bytes k) + 1) bytes k (Nat.lt_succ_self _)
  have reading := readRecord_eq_readAfterPreamble strict o.trimHeaders
    (size (atBytes bytes k) + 1) (atBytes bytes k) (Nat.lt_succ_self _)
  rw [below] at found left
  rw [found] at reading
  refine ⟨rest, k', found, left, ?_⟩
  cases lines with
  | nil => exact .inl ⟨rfl, reading⟩
  | cons header lines =>
    obtain ⟨names, split⟩ := Splitting.exists_of_oneLine (oneLine header rfl)
    replace split := Splitting.split_of_oneLine split (atBytes rest k')
    refine .inr ⟨names, ?_⟩
    rw [reading]
    simp only [List.head?_cons, recordFrom, split]

theorem exists_top_headed (cipher : Option Cipher) (strict : o.ignoreUnparseableLines = false)
    (headed : o.suppressHeaders = false) (oneLine : o.HeaderOnOneLine bytes) :
    ∃ header preamble rest k, Top o (ofBytes bytes) header preamble (atBytes rest k) ∧
      skipTop (o.laterFiles cipher) (ofBytes bytes) = (.ok none, atBytes rest k) ∧
      linesOf rest = o.belowTop bytes ∧ (preamble = false ∨ rest = []) := by
  obtain ⟨b, i, skipped, left⟩ := skip_eq_drop o.skipLeadingLines bytes 0
  obtain ⟨rest, j, found, below, reading⟩ := readRecord_header strict (oneLine headed) i
    (congrArg (List.dropWhile _) left)
  obtain ⟨c, k, skipped', left'⟩ := skip_eq_drop o.skipLeadingDataLines rest j
  have lines : (o.fromHeader bytes).tail.drop o.skipLeadingDataLines = o.belowTop bytes := by
    rw [belowTop, headed, if_neg Bool.false_ne_true]
  rw [below, lines] at left'
  have top : skipTop (o.laterFiles cipher) (ofBytes bytes) = (.ok none, atBytes c k) := by
    have skipping : LineSource.skip (o.laterFiles cipher).skipLeadingLines (ofBytes bytes) = _ :=
      skipped
    have finding : LineSource.readAfterPreamble (o.laterFiles cipher).commentChar
      (size (atBytes b i) + 1) (atBytes b i) = _ := found
    have skipping' : LineSource.skip (o.laterFiles cipher).linesToSkip (atBytes rest j) = _ :=
      skipped'
    have headers : (o.laterFiles cipher).suppressHeaders = false := headed
    rw [skipTop, skipping]
    simp only [headers, finding, skipping', Bool.false_eq_true, if_false]
  obtain ⟨noLines, reading⟩ | ⟨names, reading⟩ := reading
  · rw [noLines] at below
    obtain rfl := eq_nil_of_linesOf below
    have atEnd := LineSource.skip_of_end (r := atBytes [] j) rfl o.skipLeadingDataLines
    cases skipped'.symm.trans atEnd
    exact ⟨_, _, [], j, .headed headed skipped reading atEnd, top, left', .inr rfl⟩
  · exact ⟨_, _, c, k, .headed headed skipped reading skipped', top, left', .inl rfl⟩

theorem exists_top_bare (cipher : Option Cipher) (bare : o.suppressHeaders = true)
    (bytes : List UInt8) :
    ∃ rest k, Top o (ofBytes bytes) [] o.commentChar.isSome (atBytes rest k) ∧
      skipTop (o.laterFiles cipher) (ofBytes bytes) =
        LineSource.readAfterPreamble o.commentChar (size (atBytes rest k) + 1) (atBytes rest k) ∧
      linesOf rest = o.belowTop bytes := by
  obtain ⟨b, i, skipped, left⟩ := skip_eq_drop o.skipLeadingLines bytes 0
  obtain ⟨rest, k, skipped', left'⟩ := skip_eq_drop o.skipLeadingDataLines b i
  have skipping : LineSource.skip (o.laterFiles cipher).skipLeadingLines (ofBytes bytes) = _ :=
    skipped
  have skipping' : LineSource.skip (o.laterFiles cipher).linesToSkip (atBytes b i) = _ := skipped'
  have headers : (o.laterFiles cipher).suppressHeaders = true := bare
  refine ⟨rest, k, .bare bare skipped skipped', ?_, ?_⟩
  · rw [skipTop, skipping]
    simp only [headers, skipping', if_true]
    rfl
  · rw [left', left, belowTop, if_pos bare]

theorem exists_top (strict : o.ignoreUnparseableLines = false) (oneLine : o.HeaderOnOneLine bytes) :
    ∃ header preamble rest k, Top o (ofBytes bytes) header preamble (atBytes rest k) ∧
      linesOf rest = o.belowTop bytes := by
  cases headers : o.suppressHeaders with
  | false =>
    obtain ⟨header, preamble, rest, k, top, _, lines, _⟩ :=
      exists_top_headed none strict headers oneLine
    exact ⟨header, preamble, rest, k, top, lines⟩
  | true =>
    obtain ⟨rest, k, top, _, lines⟩ := exists_top_bare none headers bytes
    exact ⟨_, _, rest, k, top, lines⟩

def findsHeader (o : TextLayout) (r : ByteLines) : Bool :=
  match o.readRecord none o.trimHeaders o.commentChar.isSome r with
  | (.ok (some _), _, s) => o.skipLeadingDataLines ≤ s.left.length
  | _ => false

def HoldsHeader (o : TextLayout) (bytes : List UInt8) : Prop :=
  o.skipLeadingLines ≤ (linesOf bytes).length ∧
    o.findsHeader (LineSource.skip o.skipLeadingLines (ofBytes bytes)).2

instance (o : TextLayout) : DecidablePred o.HoldsHeader :=
  fun _ => inferInstanceAs (Decidable (_ ≤ _ ∧ o.findsHeader _ = true))

theorem HoldsHeader.exists_reading (holds : o.HoldsHeader bytes) :
    o.skipLeadingLines ≤ (linesOf bytes).length ∧ ∃ r names after s lines,
      LineSource.skip o.skipLeadingLines (ofBytes bytes) = (.ok (), r) ∧
      o.readRecord none o.trimHeaders o.commentChar.isSome r = (.ok (some names), after, s) ∧
      s.Shows lines ∧ o.skipLeadingDataLines ≤ lines.length := by
  obtain ⟨enough, found⟩ := holds
  obtain ⟨r, skipped, shows⟩ := (shows_ofBytes bytes).skip o.skipLeadingLines
  obtain ⟨lines, shows', _⟩ := o.leaves_recordIn none o.trimHeaders o.commentChar.isSome shows
  rw [skipped, findsHeader] at found
  rw [recordIn] at shows'
  rcases reading : o.readRecord none o.trimHeaders o.commentChar.isSome r with
    ⟨e | (_ | names), after, s⟩
  · rw [reading] at found
    cases found
  · rw [reading] at found
    cases found
  · rw [reading] at found shows'
    refine ⟨enough, r, names, after, s, lines, skipped, reading, shows', ?_⟩
    rw [← Shows.left_eq shows']
    exact of_decide_eq_true found

/-- A text does not end before the lines that are skipped at its top, nor before its header. -/
def ReachesRecords (o : TextLayout) (bytes : List UInt8) : Prop :=
  if o.suppressHeaders then o.skipLeadingLines + o.skipLeadingDataLines ≤ (linesOf bytes).length
  else o.HoldsHeader bytes

theorem HoldsTop.reachesRecords (strict : o.ignoreUnparseableLines = false)
    (oneLine : o.HeaderOnOneLine bytes) (holds : o.HoldsTop bytes) : o.ReachesRecords bytes := by
  have enough := holds.skipLeadingLines_le
  unfold HoldsTop at holds
  unfold ReachesRecords
  cases headers : o.suppressHeaders with
  | true =>
    rw [headers] at holds
    exact holds
  | false =>
    rw [if_neg (by rw [headers]; exact Bool.false_ne_true)] at holds
    rw [if_neg Bool.false_ne_true]
    refine ⟨enough, ?_⟩
    obtain ⟨b, i, skipped, left⟩ := skip_eq_drop o.skipLeadingLines bytes 0
    obtain ⟨rest, j, _, below, reading⟩ := readRecord_header strict (oneLine headers) i
      (congrArg (List.dropWhile _) left)
    obtain ⟨noLines, _⟩ | ⟨names, reading⟩ := reading
    · rw [noLines] at holds
      cases holds
    have skipped' : LineSource.skip o.skipLeadingLines (ofBytes bytes) = _ := skipped
    have shows : (atBytes rest j).left = linesOf rest := rfl
    rw [skipped', findsHeader, reading]
    simp only [shows, below, List.length_tail]
    exact decide_eq_true (by omega)

/-- The first file has the top that a table in the set reads, and both leave the same lines. -/
theorem exists_top_first {l : FileSetLayout} (reaches : o.ReachesRecords bytes)
    (opening : FileSetLines.openFile l.cipher file = .ok (ofBytes bytes)) :
    ∃ header preamble r, Top o (ofBytes bytes) header preamble r ∧ o.AllowsPreamble preamble ∧
      ∀ files, ∃ s, Top o (before l (file :: files) [] false) header preamble s ∧
        LineSource.readLine s = LineSource.readLine (inside l files file.values r) := by
  have start (files : List SetFile) := readLine_before_first (o := l) files [] opening
  unfold ReachesRecords at reaches
  cases headers : o.suppressHeaders with
  | false =>
    rw [if_neg (by rw [headers]; exact Bool.false_ne_true)] at reaches
    obtain ⟨enough, r, names, after, s, lines, skipped, reading, shows, enough'⟩ :=
      reaches.exists_reading
    obtain rfl := preamble_of_record reading
    obtain ⟨c, j, rfl, rfl⟩ := shows.exists_atBytes
    obtain ⟨rest, k, skipped', _⟩ := skip_eq_drop o.skipLeadingDataLines c j
    refine ⟨_, false, atBytes rest k, .headed headers skipped reading skipped', fun _ => rfl,
      fun files => ?_⟩
    obtain ⟨b, i, u, skipped'', _, skippedSet, same⟩ :=
      skip_inside o.skipLeadingLines (start files) enough
    cases skipped.symm.trans skipped''
    have readingSet : o.readRecord none o.trimHeaders o.commentChar.isSome u =
        (.ok (some names), false, inside l files file.values (atBytes c j)) := by
      rw [readRecord_congr o none _ _ same, readRecord_inside, reading]
    obtain ⟨d, k', t, skipped'', _, skippedSet', same'⟩ :=
      skip_inside (s := inside l files file.values (atBytes c j)) o.skipLeadingDataLines rfl enough'
    cases skipped'.symm.trans skipped''
    exact ⟨t, .headed headers skippedSet readingSet skippedSet', same'⟩
  | true =>
    rw [if_pos headers] at reaches
    obtain ⟨b, i, skipped, left⟩ := skip_eq_drop o.skipLeadingLines bytes 0
    obtain ⟨c, k, skipped', _⟩ := skip_eq_drop o.skipLeadingDataLines b i
    have allowed : o.AllowsPreamble o.commentChar.isSome := fun headed =>
      absurd (headed.symm.trans headers) Bool.false_ne_true
    refine ⟨[], _, atBytes c k, .bare headers skipped skipped', allowed, fun files => ?_⟩
    obtain ⟨b', i', s, skipped'', _, skippedSet, same⟩ :=
      skip_inside o.skipLeadingLines (start files) (by omega)
    cases skipped.symm.trans skipped''
    obtain ⟨c', k', t, skipped'', _, skippedSet', same'⟩ :=
      skip_inside o.skipLeadingDataLines same (by rw [left, List.length_drop]; omega)
    cases skipped'.symm.trans skipped''
    exact ⟨t, .bare headers skippedSet skippedSet', same'⟩

theorem isPreamble_of_head? {c : Option Char} {lines : List String} {line : String}
    (first : (lines.dropWhile (LineSource.isPreamble c)).head? = some line) :
    LineSource.isPreamble c line = false := by
  have kept := List.head?_dropWhile_not (LineSource.isPreamble c) lines
  rw [first] at kept
  exact kept

/-- What is read first of a later file without headers is read in the file alone below its
preamble. -/
theorem readRecord_later_bare (strict : o.ignoreUnparseableLines = false)
    (opening : FileSetLines.openFile cipher file = .ok (ofBytes bytes)) {rest : List UInt8} {k : Nat}
    (top : skipTop (o.laterFiles cipher) (ofBytes bytes) =
      LineSource.readAfterPreamble o.commentChar (size (atBytes rest k) + 1) (atBytes rest k))
    (preamble : Bool) :
    o.readRecord none false preamble (before (o.laterFiles cipher) (file :: files) values true) =
      o.carriedOver (o.laterFiles cipher) files file.values false preamble
        (o.readRecord none false o.commentChar.isSome (atBytes rest k)) := by
  obtain ⟨b, i, found, below⟩ := readAfterPreamble_eq_dropWhile o.commentChar
    (size (atBytes rest k) + 1) rest k (Nat.lt_succ_self _)
  have reading := readRecord_eq_readAfterPreamble strict false
    (size (atBytes rest k) + 1) (atBytes rest k) (Nat.lt_succ_self _)
  rw [found] at top reading
  rw [reading]
  match first : ((linesOf rest).dropWhile (LineSource.isPreamble o.commentChar)).head? with
  | none =>
    rw [first] at top
    rw [List.head?_eq_none_iff] at first
    rw [first] at below
    obtain rfl := eq_nil_of_linesOf below
    have line := readLine_before_later (o := o.laterFiles cipher) files values opening top
    rw [readLine_inside] at line
    exact readRecord_congr o none false preamble line
  | some text =>
    rw [first] at top
    have line :=
      readLine_before_pending (o := o.laterFiles cipher) files values opening top
    rw [readRecord_eq strict, line]
    simp only [isPreamble_of_head? first, Bool.and_false, Bool.false_eq_true, if_false]
    rw [carriedOver_recordFrom]

end TextLayout

end PlainTables
