import PlainTables.Text.Parts
import PlainTables.Yaml.Scalar

/-!
# YAML documents

A document is made of blocks: the lines of a block stand equally far to the right, and what belongs to
one of them stands farther to the right. Anchors, tags and names that are not texts are not read.
-/

namespace PlainTables.Yaml

open Reader Text

/-- A line: the number of blanks at its front, and the rest. -/
structure Line where
  indent : Nat
  text : List Char

namespace Line

def ofText (s : List Char) : Line :=
  ⟨(s.takeWhile (· = ' ')).length, s.dropWhile (· = ' ')⟩

def isEmpty (l : Line) : Bool :=
  match l.text.dropWhile isBlank with
  | [] => true
  | c :: _ => c = '#'

def written (l : Line) : List Char :=
  List.replicate l.indent ' ' ++ l.text

/-- The text after the hyphen of an item of a list, and how far to the right it stands. -/
def item? (l : Line) : Option Line :=
  match l.text with
  | ['-'] => some ⟨l.indent + 1, []⟩
  | '-' :: c :: s =>
    if isBlank c then
      some ⟨l.indent + 2 + (s.takeWhile isBlank).length, s.dropWhile isBlank⟩
    else none
  | _ => none

/-- The name at the front of a line, and the text after its colon. -/
def entry? (l : Line) : Option (String × List Char) :=
  match (do
    let name ← orElse quoted (plain false)
    let _ ← takeWhile isBlank
    char ':'
    return name) l.text with
  | .ok (name, rest) =>
    match rest with
    | [] => some (String.ofList name, [])
    | c :: s => if isBlank c then some (String.ofList name, s.dropWhile isBlank) else none
  | .error _ => none

end Line

def skipEmpty (ls : List Line) : List Line :=
  ls.dropWhile Line.isEmpty

def joined (ls : List Line) : List Char :=
  (ls.map fun l => '\n' :: l.written).flatten

/-- The end of a value in its last line: there may be a comment after it. -/
def valueEnd : Reader Unit := do
  let blanks ← takeWhile isBlank
  if !blanks.isEmpty then
    let _ ← optional comment
  orElse finish (char '\n')

/-- The settings that go over line ends if need be: those in quotes or brackets. -/
def delimited : Reader Setting := fun s =>
  (orElse (do return .text (String.ofList (← quoted))) (flowWithin (s.length + 1))) s

def linesOf (s : List Char) : List Line :=
  (splitOn '\n' s).map Line.ofText

/-- Reads a value in quotes or brackets that begins with `s` and may go on in the lines after it. -/
def readDelimited? (s : List Char) (ls : List Line) : Option (Setting × List Line) :=
  match (do
    let v ← delimited
    valueEnd
    return v) (s ++ joined ls) with
  | .ok (v, rest) => some (v, if rest.isEmpty then [] else linesOf rest)
  | .error _ => none

/-- The lines in which a text without quotes goes on, which stand farther to the right than its
block, with the number of empty lines before each of them. -/
def continuation (indent : Nat) : Nat → List Line → List (Nat × List Char) × List Line
  | _, [] => ([], [])
  | empty, l :: ls =>
    if l.text.all isBlank then
      match continuation indent (empty + 1) ls with
      | ([], _) => ([], l :: ls)
      | r => r
    else if l.indent < indent || l.text.head? = some '#' then ([], l :: ls)
    else
      let (more, rest) := continuation indent 0 ls
      ((empty, l.text) :: more, rest)

/-- Reads a text without quotes that begins with `s` and may go on in the lines after it. -/
def readPlain? (indent : Nat) (s : List Char) (ls : List Line) : Option (Setting × List Line) :=
  let run? (t : List Char) : Option (List Char) :=
    match (do
      let run ← plain false
      valueEnd
      return run) t with
    | .ok (run, []) => some run
    | _ => none
  let hasComment := (plainRun false s).length < s.length
  let (more, rest) := if hasComment then ([], ls) else continuation indent 0 ls
  do
    let first ← run? s
    let runs ← more.mapM fun (empty, t) => do
      let run := plainRun false t
      if (t.drop run.length).head? = some ':' then none
      else some ((if empty = 0 then [' '] else List.replicate empty '\n') ++ stripped run)
    let v ← plainSetting? (first ++ runs.flatten)
    return (v, rest)

/-- How the line ends at the end of a block of text are kept: none, one, or all. -/
inductive Chomping where
  | strip
  | clip
  | keep
deriving DecidableEq

/-- The header of a block of text: whether its lines are joined, how it ends, and how far its lines
stand to the right of the block around it, if this is given. -/
def textHeader? (s : List Char) : Option (Bool × Chomping × Option Nat) :=
  match s with
  | style :: s =>
    let signs := s.takeWhile fun c => c = '-' || c = '+' || c.isDigit
    let rest := s.drop signs.length
    let chomping := if signs.contains '-' then .strip else if signs.contains '+' then .keep else .clip
    let digits := signs.filter Char.isDigit
    if (style = '|' || style = '>') && signs.length ≤ 2 && digits.length ≤ 1 &&
        (Line.ofText rest).isEmpty then
      some (style = '>', chomping, if digits.isEmpty then none else some (ofDigits 10 digits))
    else none
  | [] => none

/-- Joins lines with blanks; empty lines between them are line ends, and so are the ends of lines
that stand farther to the right. -/
def foldLines : List (List Char) → List Char
  | [] => []
  | [s] => s
  | s :: t :: rest =>
    let isText (s : List Char) := !s.isEmpty && !(s.head?.any isBlank)
    if isText s && isText t then s ++ ' ' :: foldLines (t :: rest)
    else if isText s && t.isEmpty then
      match rest.dropWhile List.isEmpty with
      | u :: _ => if isText u then s ++ foldLines (t :: rest) else s ++ '\n' :: foldLines (t :: rest)
      | [] => s ++ '\n' :: foldLines (t :: rest)
    else s ++ '\n' :: foldLines (t :: rest)

def readText (joinsLines : Bool) (chomping : Chomping) (indent : Nat) (ls : List Line) :
    Setting × List Line :=
  let isInside (l : Line) := l.text.isEmpty || indent ≤ l.indent
  let inside := ls.takeWhile isInside
  let texts := inside.map fun l => List.replicate (l.indent - indent) ' ' ++ l.text
  let body := (texts.reverse.dropWhile List.isEmpty).reverse
  let ends := texts.length - body.length
  let content := if joinsLines then foldLines body else ['\n'].intercalate body
  let tail := match chomping with
    | .strip => []
    | .clip => if body.isEmpty then [] else ['\n']
    | .keep => if body.isEmpty then List.replicate ends '\n' else List.replicate (ends + 1) '\n'
  (.text (String.ofList (content ++ tail)), ls.dropWhile isInside)

/-- Reads a value that begins in a line, of which the rest is `s`, in a block at `indent`. -/
def readInline? (indent : Nat) (s : List Char) (ls : List Line) : Option (Setting × List Line) :=
  match s with
  | [] => none
  | c :: _ =>
    if c = '|' || c = '>' then do
      let (joinsLines, chomping, given) ← textHeader? s
      let first := (skipEmpty ls).head?.map Line.indent
      let own := match given with
        | some n => indent + n
        | none => max (indent + 1) (first.getD 0)
      return readText joinsLines chomping own ls
    else if c = '"' || c = '\'' || c = '[' || c = '\x7b' then readDelimited? s ls
    else readPlain? (indent + 1) s ls

mutual

def readBlock? : Nat → Nat → List Line → Option (Setting × List Line)
  | 0, _, _ => none
  | fuel + 1, least, ls =>
    match skipEmpty ls with
    | [] => some (.absent, [])
    | l :: rest =>
      if l.indent < least then some (.absent, l :: rest)
      else if l.item?.isSome then
        (readItems? fuel l.indent (l :: rest)).map fun (items, rest) => (.list items, rest)
      else if l.entry?.isSome then
        (readEntries? fuel l.indent (l :: rest)).map fun (es, rest) => (.ofMembers es, rest)
      else readInline? (least - 1) l.text rest

def readItems? : Nat → Nat → List Line → Option (List Setting × List Line)
  | 0, _, _ => none
  | fuel + 1, indent, ls =>
    match skipEmpty ls with
    | [] => some ([], [])
    | l :: rest =>
      match l.item? with
      | none => if l.indent < indent then some ([], l :: rest) else if l.indent = indent then
          some ([], l :: rest) else none
      | some inner =>
        if l.indent < indent then some ([], l :: rest)
        else if indent < l.indent then none
        else do
          let (v, rest) ← readBlock? fuel (indent + 1) (if inner.isEmpty then rest else inner :: rest)
          let (items, rest) ← readItems? fuel indent rest
          return (v :: items, rest)

def readEntries? : Nat → Nat → List Line → Option (List (String × Setting) × List Line)
  | 0, _, _ => none
  | fuel + 1, indent, ls =>
    match skipEmpty ls with
    | [] => some ([], [])
    | l :: rest =>
      if l.indent < indent then some ([], l :: rest)
      else if indent < l.indent then none
      else do
        let (name, s) ← l.entry?
        let (v, rest) ←
          if (Line.ofText s).isEmpty then
            match skipEmpty rest with
            | next :: _ =>
              readBlock? fuel (if next.item?.isSome then indent else indent + 1) rest
            | [] => some (.absent, [])
          else readInline? indent s rest
        let (es, rest) ← readEntries? fuel indent rest
        return ((name, v) :: es, rest)

end

def Line.isStart (l : Line) : Bool :=
  l.indent = 0 && (stripped l.text) = ['-', '-', '-']

def Line.isEnd (l : Line) : Bool :=
  l.indent = 0 && (stripped l.text) = ['.', '.', '.']

/-- The setting in a text that holds at most one document; without one it is a table of nothing. -/
def read? (s : List Char) : Option Setting :=
  match skipEmpty (linesOf (s.filter (· ≠ '\r'))) with
  | [] => some (.table [])
  | l :: ls =>
    let (body, after) := (if l.isStart then ls else l :: ls).span fun l => !l.isEnd
    match readBlock? (2 * s.length + 2) 0 body with
    | some (v, rest) =>
      if (skipEmpty rest).isEmpty && (skipEmpty after.tail).isEmpty then some v else none
    | none => none

end PlainTables.Yaml
