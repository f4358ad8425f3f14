import PlainTables.NamePattern.CharClass

/-!
# Patterns of file names

Regular expressions that select files by their names and take parts of the names out. Patterns are
put together by functions that bring them into a simple form: neighbouring literals are one literal,
parts that match nothing but the empty text are not repeated, alternatives that are characters are a
set of characters, and what all alternatives begin with stands before them.
-/

namespace PlainTables

/-- A condition on a place in a text. A line may end with a carriage return, too, which belongs to a line feed
behind it, and words may be those of basic Latin only. -/
inductive Assertion where
  | textStart
  | textEnd
  | lineStart (returns : Bool)
  | lineEnd (returns : Bool)
  | wordBoundary (latin : Bool)
  | noWordBoundary (latin : Bool)
  | wordStart (latin : Bool)
  | wordEnd (latin : Bool)
  | noWordBefore (latin : Bool)
  | noWordAfter (latin : Bool)
deriving DecidableEq

/-- The condition holds between these two characters; there is none at an end of the text. -/
def Assertion.holds (before after : Option Char) : Assertion → Bool
  | textStart => before.isNone
  | textEnd => after.isNone
  | lineStart returns =>
    before.all fun c => c = '\n' || (returns && c = '\r' && after ≠ some '\n')
  | lineEnd returns =>
    after.all fun c => if returns then c = '\r' || (c = '\n' && before ≠ some '\r') else c = '\n'
  | wordBoundary latin => inWord latin before != inWord latin after
  | noWordBoundary latin => inWord latin before == inWord latin after
  | wordStart latin => !inWord latin before && inWord latin after
  | wordEnd latin => inWord latin before && !inWord latin after
  | noWordBefore latin => !inWord latin before
  | noWordAfter latin => !inWord latin after
where
  inWord (latin : Bool) (c : Option Char) : Bool :=
    c.any (CharSet.wordIn latin).contains

/-- A regular expression; groups are numbered from one. -/
inductive NamePattern where
  | empty
  | literal (text : List Char)
  | oneOf (set : CharSet)
  | look (a : Assertion)
  | repetition (p : NamePattern) (least : Nat) (most : Option Nat) (greedy : Bool)
  | group (index : Nat) (p : NamePattern)
  | sequence (first rest : NamePattern)
  | choice (first rest : NamePattern)
deriving DecidableEq

namespace NamePattern

def groupCount : NamePattern → Nat
  | sequence p q | choice p q => max p.groupCount q.groupCount
  | repetition p .. => p.groupCount
  | group i p => max i p.groupCount
  | _ => 0

def takesNothing : NamePattern → Bool
  | empty | look _ => true
  | literal _ | oneOf _ => false
  | repetition p _ most _ => most.isSome && p.takesNothing
  | group _ p => p.takesNothing
  | sequence p q | choice p q => p.takesNothing && q.takesNothing

/-- The least number of characters that a match takes; none if there is no match. -/
def leastLength : NamePattern → Option Nat
  | empty | look _ => some 0
  | literal s => some s.length
  | oneOf set => if set = .nothing then none else some 1
  | repetition p least _ _ => p.leastLength.map (· * least)
  | group _ p => p.leastLength
  | sequence p q => do return (← p.leastLength) + (← q.leastLength)
  | choice p q => do return min (← p.leastLength) (← q.leastLength)

def nodes : NamePattern → Nat
  | repetition p .. | group _ p => p.nodes + 1
  | sequence p q | choice p q => p.nodes + q.nodes + 1
  | _ => 1

def ofSet (set : CharSet) : NamePattern :=
  match set.single? with
  | some c => literal [c]
  | none => oneOf set

def parts : NamePattern → List NamePattern
  | empty => []
  | sequence p q => p :: q.parts
  | p => [p]

/-- A sequence of parts that need no simplification. -/
def ofParts : List NamePattern → NamePattern
  | [] => empty
  | [p] => p
  | p :: q :: ps => sequence p (ofParts (q :: ps))

def mergeLiterals : List NamePattern → List NamePattern
  | [] => []
  | literal s :: ps =>
    match mergeLiterals ps with
    | literal t :: rest => literal (s ++ t) :: rest
    | rest => literal s :: rest
  | p :: ps => p :: mergeLiterals ps

def inSequence (ps : List NamePattern) : NamePattern :=
  ofParts (mergeLiterals (ps.flatMap parts))

/-- A repetition. What takes no character is repeated at most once; once is no repetition, and never
is the empty pattern. -/
def repeated (p : NamePattern) (least : Nat) (most : Option Nat) (greedy : Bool) : NamePattern :=
  let least := if p.takesNothing then min least 1 else least
  let most := if p.takesNothing then some (min (most.getD 1) 1) else most
  if most = some 0 then empty
  else if least = 1 && most = some 1 then p
  else repetition p least most greedy

def alternatives : NamePattern → List NamePattern
  | choice p q => p :: q.alternatives
  | p => [p]

/-- Alternatives that need no simplification. -/
def ofAlternatives : List NamePattern → NamePattern
  | [] => oneOf .nothing
  | [p] => p
  | p :: q :: ps => choice p (ofAlternatives (q :: ps))

def asChar? : NamePattern → Option Char
  | literal [c] => some c
  | _ => none

def asSet? : NamePattern → Option CharSet
  | oneOf set => some set
  | _ => none

/-- The set of all characters that one of the patterns matches, if they are all characters or all
sets of characters. -/
def asOneSet? (ps : List NamePattern) : Option CharSet :=
  match ps.mapM asChar? with
  | some cs => some (.ofRanges (cs.map fun c => (c.toNat, c.toNat)))
  | none => (ps.mapM asSet?).map fun sets => sets.foldl .union .nothing

def commonFront : List NamePattern → List NamePattern → List NamePattern
  | p :: ps, q :: qs => if p = q then p :: commonFront ps qs else []
  | _, _ => []

def commonParts : List NamePattern → List NamePattern
  | [] => []
  | p :: ps =>
    let sequenceParts : NamePattern → List NamePattern
      | sequence p q => p :: q.parts
      | _ => []
    ps.foldl (fun front q => commonFront front (sequenceParts q)) (sequenceParts p)

/-- Alternatives in a simple form; what they have in common is taken out at most this many times. -/
def anyOfWithin : Nat → List NamePattern → NamePattern
  | 0, ps => ofAlternatives ps
  | fuel + 1, ps =>
    match ps.flatMap alternatives with
    | [] => oneOf .nothing
    | [p] => p
    | qs =>
      match asOneSet? qs with
      | some set => ofSet set
      | none =>
        match commonParts qs with
        | [] => ofAlternatives qs
        | front =>
          let rests := qs.map fun q => ofParts (q.parts.drop front.length)
          inSequence (front ++ [anyOfWithin fuel rests])

/-- The first of the patterns that leads to a match. -/
def anyOf (ps : List NamePattern) : NamePattern :=
  anyOfWithin (ps.foldl (fun n p => n + p.nodes) 1) ps

end NamePattern

end PlainTables
