import PlainTables.NamePattern

/-!
# Matching of patterns

A pattern is matched by a program of steps. All ways to go on from a place in a text are followed at
once, in the order of preference, and of the ways that come to the same step only the preferred one
is kept, so that the work grows with the product of the sizes of the program and the text.
-/

namespace PlainTables.NamePattern

/-- A step of a program; steps are named by their places in it. -/
inductive Step where
  | literal (c : Char) (next : Nat)
  | oneOf (set : CharSet) (next : Nat)
  | look (a : Assertion) (next : Nat)
  /-- Notes where in the text the program is. -/
  | mark (name : Nat) (next : Nat)
  | split (preferred other : Nat)
  | accept

structure Program where
  steps : Array Step
  start : Nat
  groupCount : Nat

def startMark (group : Nat) : Nat := 2 * group

def endMark (group : Nat) : Nat := 2 * group + 1

def emit (s : Step) (steps : Array Step) : Nat × Array Step :=
  (steps.size, steps.push s)

def branch (greedy : Bool) (body leave : Nat) : Step :=
  if greedy then .split body leave else .split leave body

/-- Adds the steps of a pattern before the place `next`; with the place of the first one. The step that
repeats a pattern without an upper bound can also be the one that begins with it, unless the pattern
matches the empty text: then the two have to be reached apart from each other. -/
def emitBefore : NamePattern → Nat → Array Step → Nat × Array Step
  | empty, next, steps => (next, steps)
  | literal s, next, steps =>
    s.foldr (fun c (next, steps) => emit (.literal c next) steps) (next, steps)
  | oneOf set, next, steps => emit (.oneOf set next) steps
  | look a, next, steps => emit (.look a next) steps
  | group i p, next, steps =>
    let (last, steps) := emit (.mark (endMark i) next) steps
    let (body, steps) := p.emitBefore last steps
    emit (.mark (startMark i) body) steps
  | sequence p q, next, steps =>
    let (rest, steps) := q.emitBefore next steps
    p.emitBefore rest steps
  | choice p q, next, steps =>
    let (other, steps) := q.emitBefore next steps
    let (preferred, steps) := p.emitBefore next steps
    emit (.split preferred other) steps
  | repetition p least (some most) greedy, next, steps =>
    let optional := Nat.repeat (fun (place, steps) =>
      let (body, steps) := p.emitBefore place steps
      emit (branch greedy body next) steps) (most - least) (next, steps)
    Nat.repeat (fun (place, steps) => p.emitBefore place steps) least optional
  | repetition p least none greedy, next, steps =>
    let (again, steps) := emit .accept steps
    let (body, steps) := p.emitBefore again steps
    let steps := steps.setIfInBounds again (branch greedy body next)
    if least = 0 then
      if p.leastLength.any (0 < ·) then (again, steps) else emit (branch greedy body next) steps
    else Nat.repeat (fun (place, steps) => p.emitBefore place steps) (least - 1) (body, steps)

def program (p : NamePattern) : Program :=
  let (start, steps) := p.emitBefore 0 #[.accept]
  { steps, start, groupCount := p.groupCount }

namespace Program

/-- The names of the marks that have been set and their places in the text, the latest first. -/
abbrev Marks := List (Nat × Nat)

/-- A way to match: the step that comes next, and the marks on the way to it. -/
structure Thread where
  step : Nat
  marks : Marks := []

structure Place where
  offset : Nat
  before : Option Char
  after : Option Char

/-- The ways that wait for a character or have come to the end, in the order of preference, and
which steps have been reached. -/
abbrev Front := Array Thread × Array Bool

/-- Follows ways, the preferred ones first, up to steps that take a character or accept. Of every
step that is reached for the first time at most two are added to the ways. -/
def follow (p : Program) (place : Place) : Nat → List Thread → Front → Front
  | 0, _, front => front
  | _, [], front => front
  | fuel + 1, t :: ts, (threads, reached) =>
    if reached.getD t.step true then follow p place fuel ts (threads, reached)
    else
      let reached := reached.setIfInBounds t.step true
      match p.steps[t.step]? with
      | some (.split preferred other) =>
        follow p place fuel ({ t with step := preferred } :: { t with step := other } :: ts)
          (threads, reached)
      | some (.look a next) =>
        let ts := if a.holds place.before place.after then { t with step := next } :: ts else ts
        follow p place fuel ts (threads, reached)
      | some (.mark name next) =>
        follow p place fuel (⟨next, (name, place.offset) :: t.marks⟩ :: ts) (threads, reached)
      | _ => follow p place fuel ts (threads.push t, reached)

def enter (p : Program) (place : Place) (t : Thread) (front : Front) : Front :=
  follow p place (2 * p.steps.size + 1) [t] front

def noThreads (p : Program) : Front :=
  (#[], Array.replicate p.steps.size false)

def next? (p : Program) (step : Nat) (c : Char) : Option Nat :=
  match p.steps[step]? with
  | some (.literal d next) => if c = d then some next else none
  | some (.oneOf set next) => if set.contains c then some next else none
  | _ => none

/-- Takes a character, if there is one, on all ways up to the first one that has come to the end, of
which the marks are kept in `found`. The ways lead to `place`. -/
def advance (p : Program) (c : Option Char) (place : Place) :
    List Thread → Front → Option Marks → Front × Option Marks
  | [], front, found => (front, found)
  | t :: ts, front, found =>
    match p.steps[t.step]? with
    | some .accept => (front, some t.marks)
    | _ =>
      match c.bind (p.next? t.step) with
      | some next => advance p c place ts (p.enter place { t with step := next } front) found
      | none => advance p c place ts front found

/-- The marks of the preferred match in the rest of a text, which is `s`. As long as no match is
known, one may begin at every place. -/
def matchFrom (p : Program) : List Char → Place → Front → Option Marks → Option Marks
  | [], place, front, found =>
    let front := if found.isNone then p.enter place { step := p.start } front else front
    (p.advance none place front.1.toList p.noThreads found).2
  | c :: s, place, front, found =>
    let front := if found.isNone then p.enter place { step := p.start } front else front
    let place' : Place := { offset := place.offset + 1, before := some c, after := s.head? }
    let (front', found) := p.advance (some c) place' front.1.toList p.noThreads found
    matchFrom p s place' front' found

/-- The text between the marks of a group; a group that has taken no part is empty. -/
def groupText (s : List Char) (marks : Marks) (group : Nat) : String :=
  match marks.lookup (startMark group), marks.lookup (endMark group) with
  | some first, some last => String.ofList ((s.drop first).take (last - first))
  | _, _ => ""

def captures? (p : Program) (name : String) : Option (List String) :=
  let s := name.toList
  let place : Place := { offset := 0, before := none, after := s.head? }
  (p.matchFrom s place p.noThreads none).map fun marks =>
    (List.range p.groupCount).map fun i => groupText s marks (i + 1)

end Program

def captures? (p : NamePattern) (name : String) : Option (List String) :=
  p.program.captures? name

end PlainTables.NamePattern
