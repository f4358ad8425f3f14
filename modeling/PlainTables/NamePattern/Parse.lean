import PlainTables.NamePattern.Storage
import PlainTables.NamePattern.Token

/-!
# Reading patterns of file names

A pattern is put together from its tokens. The groups that are open are kept in a list, the inner
ones first, so that only what is kept in a pattern bounds how deep it may nest.
-/

namespace PlainTables.NamePattern

/-- A part of a pattern with the number of constructs that are nested in it. -/
structure Part where
  pattern : NamePattern
  height : Nat
  /-- It is something to match, and not a change of how patterns are read. -/
  canRepeat : Bool := true

def heightAround (ps : List Part) : Nat :=
  ps.foldl (fun h p => max h p.height) 0 + 1

structure OpenGroup where
  /-- Its number, if it has one. -/
  index : Option Nat
  /-- The alternatives before the current one, the latest first. -/
  branches : List Part := []
  /-- The parts of the current alternative, the latest first. -/
  parts : List Part := []

namespace OpenGroup

def add (g : OpenGroup) (p : NamePattern) (height : Nat) : OpenGroup :=
  { g with parts := { pattern := p, height } :: g.parts }

def branch (g : OpenGroup) : Part :=
  match g.parts with
  | [] => { pattern := empty, height := 0 }
  | [p] => p
  | ps =>
    { pattern := inSequence (ps.reverse.map Part.pattern), height := heightAround ps }

def next (g : OpenGroup) : OpenGroup :=
  { g with branches := g.branch :: g.branches, parts := [] }

def all (g : OpenGroup) : Part :=
  match g.branches with
  | [] => g.branch
  | _ =>
    let bs := g.branch :: g.branches
    { pattern := anyOf (bs.reverse.map Part.pattern), height := heightAround bs }

def repeatLast? (g : OpenGroup) (least : Nat) (most : Option Nat) (greedy : Bool) :
    Option OpenGroup :=
  match g.parts with
  | [] => none
  | p :: ps =>
    if p.canRepeat then
      let p : Part := { pattern := repeated p.pattern least most greedy, height := p.height + 1 }
      some { g with parts := p :: ps }
    else none

end OpenGroup

/-- How many constructs may be nested in each other. -/
def nestingLimit : Nat := 250

structure Draft where
  current : OpenGroup := { index := none }
  /-- The groups around the current one, the inner ones first. -/
  outer : List OpenGroup := []
  /-- The number of the last group. -/
  groups : Nat := 0
  /-- The names of groups, which differ from each other. -/
  names : List String := []

namespace Draft

def openNumbered (d : Draft) : Draft :=
  { d with
    current := { index := some (d.groups + 1) }
    outer := d.current :: d.outer
    groups := d.groups + 1 }

def add? (d : Draft) : Token → Option Draft
  | .literal c => some { d with current := d.current.add (literal [c]) 0 }
  | .oneOf set height => some { d with current := d.current.add (ofSet set) height }
  | .look a => some { d with current := d.current.add (look a) 0 }
  | .flags =>
    let p : Part := { pattern := empty, height := 0, canRepeat := false }
    some { d with current := { d.current with parts := p :: d.current.parts } }
  | .bar => some { d with current := d.current.next }
  | .repeated least most greedy =>
    (d.current.repeatLast? least most greedy).map fun g => { d with current := g }
  | .opening .plain =>
    some { d with current := { index := none }, outer := d.current :: d.outer }
  | .opening .numbered => some d.openNumbered
  | .opening (.named name) =>
    if d.names.contains name then none
    else some { d.openNumbered with names := name :: d.names }
  | .closing =>
    match d.outer with
    | [] => none
    | g :: outer =>
      let p := d.current.all
      let q := match d.current.index with
        | some i => group i p.pattern
        | none => p.pattern
      if p.height < nestingLimit then
        some { d with current := g.add q (p.height + 1), outer }
      else none

def pattern? (d : Draft) : Option NamePattern :=
  let p := d.current.all
  if d.outer.isEmpty && p.height ≤ nestingLimit && p.pattern.fitsStorage then some p.pattern
  else none

end Draft

/-- Reads a pattern; none if it is malformed, nests too deep or takes too much storage. -/
def parse? (pattern : String) : Option NamePattern := do
  let tokens ← tokens? pattern.toList
  let d ← tokens.foldlM Draft.add? {}
  d.pattern?

def ofFileNames? (pattern : String) : Option NamePattern :=
  parse? ("^(?:" ++ pattern ++ ")$")

/-- A text in which no character has a meaning of its own. -/
def escaped (s : String) : String :=
  String.ofList (s.toList.flatMap fun c =>
    if "\\.+*?()|[]\x7b\x7d^$#&-~".toList.contains c then ['\\', c] else [c])

end PlainTables.NamePattern
