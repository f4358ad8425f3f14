/-!
# Readers

A reader takes something off the front of a text or says where it cannot go on. When a reader misses,
the next alternative is tried at the same place; a fatal stop ends the whole reading.
-/

namespace PlainTables

inductive Stop where
  | miss (rest : List Char)
  | fatal (rest : List Char)
deriving DecidableEq

abbrev Reader (α : Type) := StateT (List Char) (Except Stop) α

namespace Reader

variable {α β : Type}

def miss : Reader α := fun s => .error (.miss s)

/-- The first reader, or if it misses the second one. What the second misses is what counts. -/
def orElse (p q : Reader α) : Reader α := fun s =>
  match p s with
  | .error (.miss _) => q s
  | r => r

def optional (p : Reader α) : Reader (Option α) := fun s =>
  match p s with
  | .ok (a, r) => .ok (some a, r)
  | .error (.miss _) => .ok (none, s)
  | .error stop => .error stop

/-- Misses at the start unless what was taken can be used. -/
def filterMap (p : Reader α) (f : α → Option β) : Reader β := fun s =>
  match p s with
  | .ok (a, r) => match f a with
    | some b => .ok (b, r)
    | none => .error (.miss s)
  | .error stop => .error stop

def finish : Reader Unit := fun
  | [] => .ok ((), [])
  | s => .error (.miss s)

/-- What a reader takes off a text, if it takes the whole text. -/
def whole? (p : Reader α) (s : List Char) : Option α :=
  match (do
    let a ← p
    finish
    return a) s with
  | .ok (a, _) => some a
  | .error _ => none

def satisfy (p : Char → Bool) : Reader Char := fun
  | c :: r => if p c then .ok (c, r) else .error (.miss (c :: r))
  | [] => .error (.miss [])

def char (c : Char) : Reader Unit := do
  let _ ← satisfy (· = c)

def takeWhile (p : Char → Bool) : Reader (List Char) := fun s =>
  .ok (s.takeWhile p, s.dropWhile p)

def takeWhile1 (p : Char → Bool) : Reader (List Char) :=
  filterMap (takeWhile p) fun cs => if cs.isEmpty then none else some cs

/-- Goes on only where no character of a class follows. -/
def notFollowedBy (p : Char → Bool) : Reader Unit := fun s =>
  match s with
  | c :: _ => if p c then .error (.miss s) else .ok ((), s)
  | [] => .ok ((), s)

/-- A given word of basic Latin capitals, in any case of these letters. No other letter stands for one of them: the
Kelvin sign, of which the small letter is that of K, is no K of a keyword. -/
def tag (word : String) : Reader Unit := fun s =>
  let n := word.length
  if (s.take n).map Char.toUpper = word.toList then .ok ((), s.drop n) else .error (.miss s)

def exactly (symbol : String) : Reader Unit := fun s =>
  if s.take symbol.length = symbol.toList then .ok ((), s.drop symbol.length)
  else .error (.miss s)

/-- The white space between tokens. -/
def isSpace (c : Char) : Bool :=
  c = ' ' || c = '\t' || c = '\r' || c = '\n'

def spaces : Reader Unit := fun s => .ok ((), s.dropWhile isSpace)

def within (gap : Reader Unit) (p : Reader α) : Reader α := do
  gap
  let a ← p
  gap
  return a

def spaced (p : Reader α) : Reader α := within spaces p

def times (p : Reader α) : Nat → Reader (List α)
  | 0 => pure []
  | n + 1 => do
    let a ← p
    return a :: (← times p n)

def manyUpTo (p : Reader α) : Nat → Reader (List α)
  | 0 => pure []
  | n + 1 => do
    match ← optional p with
    | none => pure []
    | some a => return a :: (← manyUpTo p n)

/-- As many as there are of something that takes at least one character. -/
def many (p : Reader α) : Reader (List α) := fun s => manyUpTo p s.length s

/-- One or more with separators between them. -/
def separated (separator : Reader Unit) (item : Reader α) : Reader (List α) := do
  let first ← item
  let rest ← many (do separator; item)
  return first :: rest

/-- Items with commas between them up to a closing bracket, and gaps around each. A comma may come
after the last item where this is allowed. -/
def itemsUpTo (gap : Reader Unit) (endComma : Bool) (last : Char) (item : Reader α) :
    Reader (List α) := do
  gap
  let items ← optional (separated (char ',') (within gap item))
  if endComma && items.isSome then
    let _ ← optional (char ',')
  gap
  char last
  return items.getD []

end Reader

end PlainTables
