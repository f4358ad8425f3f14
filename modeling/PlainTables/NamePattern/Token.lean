import PlainTables.NamePattern
import PlainTables.NamePattern.CaseVariant
import PlainTables.Text.Characters
import PlainTables.Text.Letter

/-!
# Tokens of a pattern

The signs that a pattern is written with. A class in brackets is one token, whatever stands in it.
-/

namespace PlainTables.NamePattern

inductive GroupKind where
  | plain
  | numbered
  | named (name : String)

/-- How the signs of a pattern are taken, up to the end of the group around them. -/
structure Flags where
  /-- Case variants of a character match each other. -/
  ignoreCase : Bool := false
  /-- The anchors stand for the start and the end of a line. -/
  multiLine : Bool := false
  /-- The point stands for the end of a line, too. -/
  pointIsAll : Bool := false
  /-- Repetitions take as little as they can unless a question mark follows. -/
  lazy : Bool := false
  /-- Blanks and comments do not count. -/
  spaced : Bool := false
  /-- A carriage return ends a line, too. -/
  returns : Bool := false
  /-- Classes, words and case are those of basic Latin. -/
  latin : Bool := false

def Flags.fold (f : Flags) (s : CharSet) : CharSet :=
  if !f.ignoreCase then s
  else if f.latin then s.withLatinCaseVariants
  else s.withCaseVariants

/-- Where only basic Latin counts, a set may have no other members. -/
def Flags.admits (f : Flags) (s : CharSet) : Bool :=
  !f.latin || s.isBasicLatin

/-- A sign of a pattern. A set comes with the number of classes and operations that are nested in it. -/
inductive Token where
  | literal (c : Char)
  | oneOf (set : CharSet) (height : Nat)
  | look (a : Assertion)
  | flags
  | opening (kind : GroupKind)
  | closing
  | bar
  | repeated (least : Nat) (most : Option Nat) (greedy : Bool)

abbrev TokenReader := StateT (List Char) Option

namespace TokenReader

def peek : TokenReader (Option Char) := do
  return (← get).head?

def skip (n : Nat) : TokenReader Unit :=
  modify (·.drop n)

def take : TokenReader Char := fun
  | c :: rest => some (c, rest)
  | [] => none

def run (p : Char → Bool) : TokenReader (List Char) := fun s =>
  some (s.span p)

def char (c : Char) : TokenReader Unit := do
  if (← take) = c then return () else failure

def skipText (t : String) : TokenReader Bool := do
  if t.toList.isPrefixOf (← get) then
    skip t.length
    return true
  else return false

end TokenReader

open TokenReader

/-- A text without the blanks and comments at its front; a comment goes up to the end of its line. -/
def dropSpace : Nat → List Char → List Char
  | 0, s => s
  | fuel + 1, s =>
    match s.dropWhile Text.isBlank with
    | '#' :: s => dropSpace fuel (s.dropWhile (· ≠ '\n'))
    | s => s

/-- Passes over blanks and comments if they do not count. -/
def skipSpace (f : Flags) : TokenReader Unit :=
  modify fun s => if f.spaced then dropSpace s.length s else s

/-- At most this many characters of a class, without the blanks and comments around them if these do not
count. -/
def runWithin (f : Flags) (p : Char → Bool) : Nat → TokenReader (List Char)
  | 0 => return []
  | n + 1 => do
    skipSpace f
    match ← peek with
    | some c =>
      if p c then
        skip 1
        return c :: (← runWithin f p n)
      else return []
    | none => return []

def braced (f : Flags) : TokenReader (List Char) := do
  char '\x7b'
  let s ← runWithin f (· ≠ '\x7d') (← get).length
  skipSpace f
  char '\x7d'
  return s

def ofHexDigits? (ds : List Char) : Option Char :=
  if ds.isEmpty || !ds.all (Text.isDigitOf 16) then none else Text.charAt? (Text.ofDigits 16 ds)

/-- A code point, in this many digits or in braces. Two digits stand for a byte, which has to be a character. -/
def codePoint (f : Flags) (digits : Nat) : TokenReader Char := do
  skipSpace f
  if (← peek) = some '\x7b' then ofHexDigits? (← braced f)
  else
    let ds ← runWithin f (fun _ => true) digits
    let c ← ofHexDigits? ds
    if ds.length < digits || (digits = 2 && !f.admits (.single c)) then failure else return c

def property (f : Flags) (negated : Bool) : TokenReader CharSet := do
  skipSpace f
  let name ← match ← peek with
    | some '\x7b' => braced f
    | some '\\' => failure
    | _ => pure [← take]
  let s ← CharSet.ofProperty? name
  if f.latin then failure
  else return if negated then (f.fold s).complement else f.fold s

inductive Escape where
  | char (c : Char)
  | set (s : CharSet)
  | look (a : Assertion)

/-- The boundary of a word, of which a side may be named in braces. Braces with anything else are the counts of a
repetition. -/
def boundary (f : Flags) : TokenReader Assertion := do
  let isNameChar (c : Char) := c.isAlpha || c = '-'
  let s ← get
  if s.head? ≠ some '\x7b' then return .wordBoundary f.latin
  else
    skip 1
    skipSpace f
    match ← peek with
    | none => failure
    | some c =>
      if isNameChar c then
        let name ← runWithin f isNameChar s.length
        skipSpace f
        char '\x7d'
        match String.ofList name with
        | "start" => return .wordStart f.latin
        | "end" => return .wordEnd f.latin
        | "start-half" => return .noWordBefore f.latin
        | "end-half" => return .noWordAfter f.latin
        | _ => failure
      else
        set s
        return .wordBoundary f.latin

def isEscapable (c : Char) : Bool :=
  c.toNat < 128 && !c.isAlphanum && c ≠ '<' && c ≠ '>'

def escape (f : Flags) : TokenReader Escape := do
  let c ← take
  match c with
  | 'x' => return .char (← codePoint f 2)
  | 'u' => return .char (← codePoint f 4)
  | 'U' => return .char (← codePoint f 8)
  | 'p' => return .set (← property f false)
  | 'P' => return .set (← property f true)
  | 'a' => return .char '\x07'
  | 'f' => return .char '\x0c'
  | 't' => return .char '\t'
  | 'n' => return .char '\n'
  | 'r' => return .char '\r'
  | 'v' => return .char '\x0b'
  | 'A' => return .look .textStart
  | 'z' => return .look .textEnd
  | 'b' => return .look (← boundary f)
  | 'B' => return .look (.noWordBoundary f.latin)
  | '<' => return .look (.wordStart f.latin)
  | '>' => return .look (.wordEnd f.latin)
  | c =>
    match if f.latin then CharSet.latinEscaped? c else CharSet.escaped? c with
    | some s => return .set s
    | none => if isEscapable c then return .char c else failure

inductive SetOperation where
  | intersection
  | difference
  | symmetricDifference

def SetOperation.apply : SetOperation → CharSet → CharSet → CharSet
  | intersection => .intersection
  | difference => .difference
  | symmetricDifference => .symmetricDifference

structure OpenClass where
  negated : Bool
  /-- What stands before the last operator: its value and how deep it nests. -/
  left : Option (SetOperation × CharSet × Nat) := none
  /-- The members since the last operator, their number, and how deep they nest. -/
  set : CharSet := .nothing
  count : Nat := 0
  height : Nat := 0

namespace OpenClass

def add (o : OpenClass) (s : CharSet) (height : Nat) : OpenClass :=
  { o with set := o.set.union s, count := o.count + 1, height := max o.height height }

def value (f : Flags) (o : OpenClass) : CharSet × Nat :=
  let height := if o.count < 2 then o.height else o.height + 1
  let set := f.fold o.set
  match o.left with
  | none => (set, height)
  | some (operation, s, leftHeight) =>
    (operation.apply s set, max leftHeight height + 1)

/-- Takes what has been read as the left side of an operation. -/
def operate (f : Flags) (o : OpenClass) (operation : SetOperation) : OpenClass :=
  let (s, height) := o.value f
  { negated := o.negated, left := some (operation, s, height) }

def close? (f : Flags) (o : OpenClass) : Option (CharSet × Nat) :=
  let (s, height) := o.value f
  let s := if o.negated then s.complement else s
  if f.admits s then some (s, height + 1) else none

end OpenClass

/-- The front of a class after its opening bracket: hyphens, or else a closing bracket, are members
there. -/
def openClass (f : Flags) : TokenReader OpenClass := do
  skipSpace f
  let negated ← skipText "^"
  skipSpace f
  let hyphens ← run (· = '-')
  skipSpace f
  let o := hyphens.foldl (fun o c => o.add (.single c) 0) { negated : OpenClass }
  if hyphens.isEmpty && (← peek) = some ']' then
    skip 1
    return o.add (.single ']') 0
  else return o

/-- A class of basic Latin between a bracket with a colon and a colon with a bracket, and whether its
complement is meant. -/
def latinClass? (s : List Char) : Option (Bool × CharSet × List Char) :=
  match s with
  | '[' :: ':' :: s =>
    let negated := s.head? = some '^'
    let s := if negated then s.tail else s
    match s.span (· ≠ ':') with
    | (name, ':' :: ']' :: rest) =>
      (CharSet.latin? (String.ofList name)).map fun set => (negated, set, rest)
    | _ => none
  | _ => none

/-- A character in a class that may begin a range, or a set. -/
def classItem (f : Flags) : TokenReader Escape := do
  let c ← take
  match ← if c = '\\' then escape f else pure (.char c) with
  | .char c => if f.admits (.single c) then return .char c else failure
  | item => return item

def classMembers (f : Flags) : TokenReader CharSet := do
  let first ← classItem f
  skipSpace f
  let isRange ← match ← get with
    | '-' :: s =>
      match if f.spaced then dropSpace s.length s else s with
      | c :: _ => pure (c ≠ ']' && c ≠ '-')
      | [] => failure
    | _ => pure false
  match first, isRange with
  | .char c, false => return .single c
  | .set s, false => return s
  | .char c, true =>
    skip 1
    skipSpace f
    match ← classItem f with
    | .char last => if c ≤ last then return .range c last else failure
    | _ => failure
  | _, _ => failure

/-- Reads a class on from an open one, inside others. -/
def classFrom (f : Flags) : Nat → OpenClass → List OpenClass → TokenReader (CharSet × Nat)
  | 0, _, _ => failure
  | fuel + 1, o, outer => do
    skipSpace f
    match ← get with
    | ']' :: rest =>
      set rest
      let (s, height) ← o.close? f
      match outer with
      | [] => return (s, height)
      | above :: outer => classFrom f fuel (above.add s height) outer
    | '&' :: '&' :: rest =>
      set rest
      classFrom f fuel (o.operate f .intersection) outer
    | '-' :: '-' :: rest =>
      set rest
      classFrom f fuel (o.operate f .difference) outer
    | '~' :: '~' :: rest =>
      set rest
      classFrom f fuel (o.operate f .symmetricDifference) outer
    | '[' :: rest =>
      match latinClass? (← get) with
      | some (negated, s, rest) =>
        set rest
        let s := if negated then (f.fold s).complement else f.fold s
        if f.admits s then classFrom f fuel (o.add s 0) outer else failure
      | none =>
        set rest
        classFrom f fuel (← openClass f) (o :: outer)
    | _ => classFrom f fuel (o.add (← classMembers f) 0) outer

/-- A class after its opening bracket. Every sign in it takes a character. -/
def charClass (f : Flags) : TokenReader Token := do
  let fuel := (← get).length + 1
  let (s, height) ← classFrom f fuel (← openClass f) []
  return .oneOf s height

/-- A number below 2^32 in decimal digits, with blanks around it. -/
def decimal : TokenReader Nat := do
  let _ ← run Text.isBlank
  let ds ← run Char.isDigit
  let _ ← run Text.isBlank
  let n := Nat.ofDigitChars 10 ds 0
  if ds.isEmpty || 4294967296 ≤ n then failure else return n

def counts (f : Flags) : TokenReader (Nat × Option Nat) := do
  skipSpace f
  let least ← decimal
  match ← take with
  | '\x7d' => return (least, some least)
  | ',' =>
    skipSpace f
    if (← peek) = some '\x7d' then
      skip 1
      return (least, none)
    else
      let most ← decimal
      char '\x7d'
      if least ≤ most then return (least, some most) else failure
  | _ => failure

/-- The counts of a repetition. A question mark after it turns round whether it takes as much or as
little as it can. -/
def quantifier (f : Flags) (least : Nat) (most : Option Nat) : TokenReader Token := do
  return .repeated least most ((← skipText "?") == f.lazy)

def groupName : TokenReader String := do
  let name ← run (· ≠ '>')
  char '>'
  let isNameChar (c : Char) :=
    Text.isAlphanumeric c || c = '_' || c = '.' || c = '[' || c = ']'
  match name with
  | [] => failure
  | c :: rest =>
    if (Text.isAlphabetic c || c = '_') && rest.all isNameChar then return String.ofList name
    else failure

/-- The flags after the letters of them: letters after a hyphen take flags away, and every letter
stands once. -/
def Flags.change? (f : Flags) (letters : List Char) : Option Flags :=
  let (added, removed) := letters.span (· ≠ '-')
  let all := added ++ removed.drop 1
  let set? (value : Bool) (f : Flags) : Char → Option Flags
    | 'i' => some { f with ignoreCase := value }
    | 'm' => some { f with multiLine := value }
    | 's' => some { f with pointIsAll := value }
    | 'U' => some { f with lazy := value }
    | 'x' => some { f with spaced := value }
    | 'R' => some { f with returns := value }
    | 'u' => some { f with latin := !value }
    | _ => none
  if removed.length = 1 || all.eraseDups.length < all.length then none
  else do
    let f ← added.foldlM (set? true) f
    (removed.drop 1).foldlM (set? false) f

/-- A group after its opening bracket, or flags for the rest of the group around them; with the
flags that count after it. -/
def opening (f : Flags) : TokenReader (Token × Flags) := do
  skipSpace f
  if ← skipText "?P<" then return (.opening (.named (← groupName)), f)
  else if ← skipText "?<" then return (.opening (.named (← groupName)), f)
  else if ← skipText "?" then
    let letters ← run fun c => c ≠ ':' && c ≠ ')'
    let g ← f.change? letters
    if (← take) = ':' then return (.opening .plain, g)
    else if letters.isEmpty then failure
    else return (.flags, g)
  else return (.opening .numbered, f)

def single (f : Flags) (c : Char) : Token :=
  if f.ignoreCase then .oneOf (f.fold (.single c)) 0 else .literal c

def point (f : Flags) : Option CharSet :=
  if f.latin then none
  else if f.pointIsAll then some CharSet.nothing.complement
  else if f.returns then some (CharSet.inLine.difference (.single '\r'))
  else some .inLine

/-- The next sign, with the flags that count after it if it changes them. -/
def token (f : Flags) : TokenReader (Token × Flags) := do
  match ← take with
  | '(' => opening f
  | c => do
    let t ← match c with
      | '^' => pure (.look (if f.multiLine then .lineStart f.returns else .textStart))
      | '$' => pure (.look (if f.multiLine then .lineEnd f.returns else .textEnd))
      | '.' => pure (.oneOf (← point f) 0)
      | '[' => charClass f
      | ')' => pure .closing
      | '|' => pure .bar
      | '*' => quantifier f 0 none
      | '+' => quantifier f 1 none
      | '?' => quantifier f 0 (some 1)
      | '\x7b' =>
        let (least, most) ← counts f
        skipSpace f
        quantifier f least most
      | '\\' =>
        match ← escape f with
        | .char c => pure (single f c)
        | .set s => pure (.oneOf s 0)
        | .look a => pure (.look a)
      | c => pure (single f c)
    return (t, f)

/-- Reads at most this many signs after those that have been read; `outer` are the flags of the groups
around the current one, the inner ones first. -/
def tokensFrom : Nat → Flags → List Flags → Array Token → List Char → Option (Array Token)
  | 0, _, _, _, _ => none
  | n + 1, f, outer, read, s =>
    match if f.spaced then dropSpace s.length s else s with
    | [] => some read
    | s => do
      let ((t, g), rest) ← token f s
      let read := read.push t
      match t with
      | .opening _ => tokensFrom n g (f :: outer) read rest
      | .closing => tokensFrom n (outer.head?.getD f) outer.tail read rest
      | _ => tokensFrom n g outer read rest

def tokens? (s : List Char) : Option (List Token) :=
  (tokensFrom (s.length + 1) {} [] #[] s).map Array.toList

end PlainTables.NamePattern
