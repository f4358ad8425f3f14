import PlainTables.Cipher.Stream
import PlainTables.Lines.Bytes
import PlainTables.Lines.Preamble
import PlainTables.NamePattern.Parse
import PlainTables.NamePattern.Program

/-!
# Lines of a set of files

The files of a directory whose names match a pattern, read one after the other in the order of their
names as if they were one text. From every file after the first one the lines are dropped that a
table reads or skips at its top.
-/

namespace PlainTables

/-- An entry of a directory; what has no content is no file. -/
structure DirectoryEntry where
  name : String
  content : Option (List UInt8)
deriving DecidableEq

structure FileSetLayout where
  commentChar : Option Char := none
  suppressHeaders : Bool := false
  skipLeadingLines : Nat := 0
  linesToSkip : Nat := 0
  cipher : Option Cipher := none

structure SetFile where
  content : Option (List UInt8)
  values : List String
deriving DecidableEq

/-- The lines of a set of files: the files to come and the one that is being read. A line of it that
was read too early is `pending`. -/
structure FileSetLines where
  layout : FileSetLayout
  files : List SetFile
  current : Option ByteLines := none
  pending : Option String := none
  fileValues : List String := []
  openedAny : Bool := false
  closed : Bool := false

namespace FileSetLines

/-- The files among the entries of a directory whose whole names match, in the order of the names. -/
def ofDirectory (o : FileSetLayout) (pattern : String) (entries : List DirectoryEntry) :
    Except QueryError FileSetLines :=
  match NamePattern.ofFileNames? pattern with
  | none => .error (.invalidConfiguration .fileNamePattern)
  | some p =>
    let program := p.program
    let sorted := entries.mergeSort fun a b => (compare a.name b.name).isLE
    let files := sorted.filterMap fun e =>
      (program.captures? e.name).map fun values => { content := e.content, values : SetFile }
    .ok { layout := o, files }

def fileCount (s : FileSetLines) : Nat :=
  s.files.length + if s.current.isSome then 1 else 0

/-- The lines of a file, before anything is dropped. -/
def openFile (cipher : Option Cipher) (file : SetFile) : Except QueryError ByteLines :=
  match cipher, file.content with
  | none, none => .ok ⟨.unreadable, 0⟩
  | some c, none => c.newFilter.map fun _ => ⟨.unreadable, 0⟩
  | cipher, some bytes => (Cipher.decryptFile cipher bytes).map .ofBytes

/-- Drops the top of a later file. Without headers the end of the preamble is only found with the
first line after it, which is returned. -/
def skipTop (o : FileSetLayout) (r : ByteLines) : Reading ByteLines (Option String) :=
  match LineSource.skip o.skipLeadingLines r with
  | (.error e, r) => (.error e, r)
  | (.ok (), r) =>
    if o.suppressHeaders then
      match LineSource.skip o.linesToSkip r with
      | (.error e, r) => (.error e, r)
      | (.ok (), r) => LineSource.readAfterPreamble o.commentChar (r.size + 1) r
    else
      match LineSource.readAfterPreamble o.commentChar (r.size + 1) r with
      | (.error e, r) => (.error e, r)
      | (.ok _, r) =>
        match LineSource.skip o.linesToSkip r with
        | (.error e, r) => (.error e, r)
        | (.ok (), r) => (.ok none, r)

/-- Opens the next file; false if there is none. -/
def openNext (s : FileSetLines) : Reading FileSetLines Bool :=
  match s.files with
  | [] => (.ok false, s)
  | file :: files =>
    let s := { s with files }
    match openFile s.layout.cipher file with
    | .error e => (.error e, s)
    | .ok r =>
      let top := if s.openedAny then skipTop s.layout r else (.ok none, r)
      match top with
      | (.error e, _) => (.error e, s)
      | (.ok pending, r) =>
        (.ok true,
          { s with current := some r, pending, fileValues := file.values, openedAny := true })

def readFrom : Nat → FileSetLines → Reading FileSetLines (Option String)
  | 0, s => (.ok none, s)
  | fuel + 1, s =>
    let opened := if s.current.isSome then (.ok true, s) else s.openNext
    match opened with
    | (.error e, s) => (.error e, s)
    | (.ok false, s) => (.ok none, s)
    | (.ok true, s) =>
      match s.pending, s.current with
      | some line, _ => (.ok (some line), { s with pending := none })
      | none, none => (.ok none, s)
      | none, some r =>
        match r.readLine with
        | (.error e, r) => (.error e, { s with current := some r })
        | (.ok (some line), r) => (.ok (some line), { s with current := some r })
        | (.ok none, _) => readFrom fuel { s with current := none }

def readLine (s : FileSetLines) : Reading FileSetLines (Option String) :=
  if s.closed then (.error (.io .streamClosed), s) else readFrom (s.files.length + 2) s

def readContinuation (s : FileSetLines) : Reading FileSetLines (Option String) :=
  if s.closed then (.error (.io .streamClosed), s)
  else
    match s.current with
    | none => (.ok none, s)
    | some r =>
      let (result, r) := r.readLine
      (result, { s with current := some r })

def close (s : FileSetLines) : FileSetLines :=
  { s with current := none, pending := none, files := [], closed := true }

def SetFile.size (f : SetFile) : Nat :=
  (f.content.map List.length).getD 0

def totalSize : List SetFile → Nat
  | [] => 0
  | f :: fs => SetFile.size f + totalSize fs

/-- The bytes that are left, and one for a line that was read too early. -/
def remaining (s : FileSetLines) : Nat :=
  totalSize s.files + (s.current.map ByteLines.size).getD 0 +
    if s.pending.isSome then 1 else 0

theorem size_openFile_le {cipher : Option Cipher} {file : SetFile} {r : ByteLines}
    (h : openFile cipher file = .ok r) : r.size ≤ SetFile.size file := by
  obtain ⟨content, values⟩ := file
  match cipher, content with
  | none, none =>
    simp only [openFile, Except.ok.injEq] at h
    subst h
    simp [ByteLines.size]
  | some c, none =>
    simp only [openFile] at h
    cases hc : c.newFilter with
    | error e => simp [hc, Except.map] at h
    | ok f =>
      simp only [hc, Except.map, Except.ok.injEq] at h
      subst h
      simp [ByteLines.size]
  | none, some bytes =>
    simp only [openFile, Cipher.decryptFile, Except.map, Except.ok.injEq] at h
    subst h
    simp [ByteLines.size, ByteLines.ofBytes, SetFile.size]
  | some c, some bytes =>
    simp only [openFile, Cipher.decryptFile] at h
    cases hc : c.newFilter with
    | error e => simp [hc, Except.map, bind, Except.bind] at h
    | ok f =>
      simp only [hc, Except.map, bind, Except.bind, pure, Except.pure, Except.ok.injEq] at h
      subst h
      simp [ByteLines.size, ByteLines.ofBytes, SetFile.size, CryptoFilter.length_decrypt]

theorem size_skipTop_le (o : FileSetLayout) (r : ByteLines) (pending : Option String)
    (h : (skipTop o r).1 = .ok pending) :
    (skipTop o r).2.size + (if pending.isSome then 1 else 0) ≤ r.size := by
  have hs := LineSource.remaining_skip_le o.skipLeadingLines r
  unfold skipTop at h ⊢
  generalize LineSource.skip o.skipLeadingLines r = first at hs h ⊢
  obtain ⟨result, s⟩ := first
  match result with
  | .error e => simp at h
  | .ok () =>
    replace hs : s.size ≤ r.size := hs
    by_cases hh : o.suppressHeaders
    · simp only [hh, if_true] at h ⊢
      have ht := LineSource.remaining_skip_le o.linesToSkip s
      generalize LineSource.skip o.linesToSkip s = second at ht h ⊢
      obtain ⟨result, t⟩ := second
      match result with
      | .error e => simp at h
      | .ok () =>
        replace ht : t.size ≤ s.size := ht
        simp only at h ⊢
        have hle : (LineSource.readAfterPreamble o.commentChar (t.size + 1) t).2.size ≤ t.size :=
          LineSource.remaining_readAfterPreamble_le _ _ t
        cases pending with
        | none => simp only [Option.isSome_none, Bool.false_eq_true, if_false]; omega
        | some line =>
          have hlt : (LineSource.readAfterPreamble o.commentChar (t.size + 1) t).2.size < t.size :=
            LineSource.remaining_readAfterPreamble _ _ t line h
          simp only [Option.isSome_some, if_true]
          omega
    · simp only [hh] at h ⊢
      have hle : (LineSource.readAfterPreamble o.commentChar (s.size + 1) s).2.size ≤ s.size :=
        LineSource.remaining_readAfterPreamble_le _ _ s
      generalize LineSource.readAfterPreamble o.commentChar (s.size + 1) s = second at hle h ⊢
      obtain ⟨result, t⟩ := second
      match result with
      | .error e => simp at h
      | .ok line =>
        simp only at h ⊢
        have ht : (LineSource.skip o.linesToSkip t).2.size ≤ t.size :=
          LineSource.remaining_skip_le o.linesToSkip t
        generalize LineSource.skip o.linesToSkip t = third at ht h ⊢
        obtain ⟨result, u⟩ := third
        match result with
        | .error e => simp at h
        | .ok () =>
          simp only [Bool.false_eq_true, if_false, Except.ok.injEq] at h ⊢
          subst h
          simp only [Option.isSome_none, Bool.false_eq_true, if_false]
          simp only at ht hle
          omega

/-- Opening a file leaves no more than there was, apart from a line that was read too early and is
forgotten with its file. -/
theorem remaining_openNext_le (s : FileSetLines) (h : s.current = none) :
    remaining s.openNext.2 ≤ remaining s := by
  unfold openNext
  cases hf : s.files with
  | nil => exact Nat.le_refl _
  | cons file files =>
    simp only
    cases ho : openFile s.layout.cipher file with
    | error e => simp [remaining, h, hf, totalSize]
    | ok r =>
      have hr := size_openFile_le ho
      by_cases ha : s.openedAny
      · simp only [ha, if_true]
        have ht := size_skipTop_le s.layout r
        generalize skipTop s.layout r = top at ht ⊢
        obtain ⟨result, t⟩ := top
        match result with
        | .error e => simp [remaining, h, hf, totalSize]
        | .ok pending =>
          have := ht pending rfl
          simp only [remaining, h, hf, totalSize, Option.map_some,
            Option.getD_some, Option.map_none, Option.getD_none]
          simp only at this
          omega
      · simp only [ha]
        simp only [remaining, h, hf, totalSize, Option.map_some,
          Option.getD_some, Option.map_none, Option.getD_none, Bool.false_eq_true, if_false,
          Option.isSome_none]
        omega

theorem remaining_readFrom (fuel : Nat) (s : FileSetLines) :
    (∀ line, (readFrom fuel s).1 = .ok (some line) →
      remaining (readFrom fuel s).2 < remaining s) ∧
      remaining (readFrom fuel s).2 ≤ remaining s := by
  induction fuel generalizing s with
  | zero => simp [readFrom]
  | succ fuel ih =>
    unfold readFrom
    have hopen : remaining (if s.current.isSome then ((.ok true, s) : Reading FileSetLines Bool)
        else s.openNext).2 ≤ remaining s := by
      cases hc : s.current with
      | some r => simp
      | none => simpa using remaining_openNext_le s hc
    generalize (if s.current.isSome then ((.ok true, s) : Reading FileSetLines Bool)
      else s.openNext) = opened at hopen ⊢
    generalize remaining s = total at hopen ⊢
    obtain ⟨result, layout, files, current, pending, values, openedAny, closed⟩ := opened
    match result with
    | .error e => simpa using hopen
    | .ok false => simpa using hopen
    | .ok true =>
      simp only at hopen ⊢
      match pending, current with
      | some line, _ =>
        simp only [remaining, Option.isSome_some, if_true] at hopen
        simp only [remaining, Option.isSome_none, Bool.false_eq_true, if_false]
        exact ⟨fun _ _ => by omega, by omega⟩
      | none, none => simpa using hopen
      | none, some r =>
        have hr := ByteLines.size_readLine r
        simp only
        generalize r.readLine = reading at hr ⊢
        obtain ⟨result, r'⟩ := reading
        simp only [remaining, Option.map_some, Option.getD_some, Option.isSome_none,
          Bool.false_eq_true, if_false] at hopen
        simp only at hr
        match result with
        | .error e =>
          simp only [remaining, Option.map_some, Option.getD_some, Option.isSome_none,
            Bool.false_eq_true, if_false]
          exact ⟨by simp, by omega⟩
        | .ok (some line) =>
          have := hr.1 line rfl
          simp only [remaining, Option.map_some, Option.getD_some, Option.isSome_none,
            Bool.false_eq_true, if_false]
          exact ⟨fun _ _ => by omega, by omega⟩
        | .ok none =>
          simp only
          have hrest := ih ⟨layout, files, none, none, values, openedAny, closed⟩
          have hsize : remaining ⟨layout, files, none, none, values, openedAny, closed⟩ =
              totalSize files := by simp [remaining]
          exact ⟨fun line h => by have := hrest.1 line h; omega, by omega⟩

theorem remaining_readLine (s : FileSetLines) :
    (∀ line, s.readLine.1 = .ok (some line) → remaining s.readLine.2 < remaining s) ∧
      remaining s.readLine.2 ≤ remaining s := by
  unfold readLine
  split
  · simp
  · exact remaining_readFrom _ s

theorem remaining_readContinuation (s : FileSetLines) :
    (∀ line, s.readContinuation.1 = .ok (some line) →
      remaining s.readContinuation.2 < remaining s) ∧
      remaining s.readContinuation.2 ≤ remaining s := by
  unfold readContinuation
  split
  · simp
  · cases hc : s.current with
    | none => simp
    | some r =>
      have hr := ByteLines.size_readLine r
      simp only
      refine ⟨fun line h => ?_, ?_⟩
      · have := hr.1 line h
        simp only [remaining, hc, Option.map_some, Option.getD_some]
        omega
      · have := hr.2
        simp only [remaining, hc, Option.map_some, Option.getD_some]
        omega

instance : LineSource FileSetLines where
  readLine := readLine
  readContinuation := readContinuation
  lineNumber s := (s.current.map ByteLines.lineNumber).getD 0
  fileValues := fileValues
  close := close
  remaining := remaining
  remaining_readLine s := (remaining_readLine s).1
  remaining_readLine_le s := (remaining_readLine s).2
  remaining_readContinuation s := (remaining_readContinuation s).1
  remaining_readContinuation_le s := (remaining_readContinuation s).2

end FileSetLines

end PlainTables
