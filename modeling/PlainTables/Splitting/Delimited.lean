import PlainTables.Lines
import PlainTables.Text.Characters

/-!
# Delimited fields

Fields with separators between them. A field that starts with the quote character is quoted: a
doubled quote inside stands for one, the closing quote has to stand before a separator or at the end,
and a line that ends inside quotes goes on on the next one.
-/

namespace PlainTables

/-- The separator between fields, and the quote character if fields may be quoted. -/
structure Delimiters where
  separator : Char := ','
  quote : Option Char := some '"'
deriving DecidableEq

namespace Delimiters

/-- What has been read of a record: its complete fields, the characters of the field that is open,
and whether that field is inside quotes. -/
structure Progress where
  fields : List (List Char) := []
  value : List Char := []
  quoted : Bool := false
deriving DecidableEq

structure Misplaced where
  position : Nat
  fault : QuoteFault
deriving DecidableEq

/-- Reads the characters from `position` on. Every field ends at a separator. -/
def scan (d : Delimiters) (position : Nat) (p : Progress) : List Char → Except Misplaced Progress
  | [] => .ok p
  | c :: rest =>
    if some c = d.quote then
      if p.value.isEmpty && !p.quoted then d.scan (position + 1) { p with quoted := true } rest
      else
        match rest with
        | [] =>
          if p.quoted then .error ⟨position + 1, .expecting d.separator⟩
          else .error ⟨position, .unexpected c⟩
        | next :: rest =>
          if next = c then d.scan (position + 2) { p with value := p.value ++ [c] } rest
          else if !p.quoted then .error ⟨position, .unexpected c⟩
          else if next ≠ d.separator then .error ⟨position + 1, .expecting d.separator⟩
          else d.scan (position + 2) ⟨p.fields ++ [p.value], [], false⟩ rest
    else if c = d.separator && !p.quoted then
      d.scan (position + 1) { p with fields := p.fields ++ [p.value], value := [] } rest
    else d.scan (position + 1) { p with value := p.value ++ [c] } rest

/-- A line with a separator after it, which ends its last field. -/
def chunk (d : Delimiters) (line : List Char) : List Char :=
  line ++ [d.separator]

def Progress.finish (p : Progress) (trim : Bool) : List String :=
  p.fields.map fun f => String.ofList (if trim then Text.trim f else f)

def Misplaced.toError (line : Nat) (m : Misplaced) : QueryError :=
  .malformedQuote line m.position m.fault

def tokenize (d : Delimiters) (line : String) (trim : Bool) : Except QueryError (List String) :=
  match d.scan 0 {} (d.chunk line.toList) with
  | .error m => .error (m.toError 1)
  | .ok p => if p.quoted then .error (.unterminatedQuote line) else .ok (p.finish trim)

variable {ρ : Type} [LineSource ρ]

/-- Goes on with a record that is inside quotes, on the next line if there is one. The separator that
was put after the line does not belong to the field. `position` counts the characters so far. -/
def continueRecord (d : Delimiters) (line : String) (number : Nat) (trim : Bool) :
    Nat → Nat → Progress → ρ → Reading ρ (List String)
  | 0, _, _, r => (.error (.unterminatedQuote line), r)
  | fuel + 1, position, p, r =>
    match LineSource.readContinuation r with
    | (.error e, r) => (.error e, r)
    | (.ok none, r) => (.error (.unterminatedQuote line), r)
    | (.ok (some next), r) =>
      let text := '\n' :: next.toList
      match d.scan position { p with value := p.value.dropLast } (d.chunk text) with
      | .error m => (.error (m.toError number), r)
      | .ok p =>
        if p.quoted then d.continueRecord line number trim fuel (position + text.length) p r
        else (.ok (p.finish trim), r)

/-- The fields of the record that starts with a line that has just been read. -/
def tokenizeRecord (d : Delimiters) (line : String) (r : ρ) (trim : Bool) :
    Reading ρ (List String) :=
  let number := max 1 (LineSource.lineNumber r)
  match d.scan 0 {} (d.chunk line.toList) with
  | .error m => (.error (m.toError number), r)
  | .ok p =>
    if p.quoted then
      d.continueRecord line number trim (LineSource.remaining r + 1) line.length p r
    else (.ok (p.finish trim), r)

theorem remaining_continueRecord (d : Delimiters) (line : String) (number : Nat) (trim : Bool)
    (fuel position : Nat) (p : Progress) (r : ρ) :
    LineSource.remaining (d.continueRecord line number trim fuel position p r).2 ≤
      LineSource.remaining r := by
  induction fuel generalizing position p r with
  | zero => exact Nat.le_refl _
  | succ fuel ih =>
    have hr := LineSource.remaining_readContinuation_le r
    unfold continueRecord
    generalize LineSource.readContinuation r = reading at hr
    obtain ⟨result, s⟩ := reading
    match result with
    | .error e => exact hr
    | .ok none => exact hr
    | .ok (some next) =>
      simp only
      split
      · exact hr
      · split
        · exact Nat.le_trans (ih ..) hr
        · exact hr

theorem remaining_tokenizeRecord (d : Delimiters) (line : String) (r : ρ) (trim : Bool) :
    LineSource.remaining (d.tokenizeRecord line r trim).2 ≤ LineSource.remaining r := by
  unfold tokenizeRecord
  simp only
  split
  · exact Nat.le_refl _
  · split
    · exact remaining_continueRecord ..
    · exact Nat.le_refl _

end Delimiters

end PlainTables
