import PlainTables.Query.Plan
import PlainTables.Records

/-!
# Scans

A scan reads the records of a table as typed rows and keeps those that pass WHERE. The types of the
columns are settled by the first record.
-/

namespace PlainTables

structure ColumnType where
  type : DataType
  declared : Bool
deriving DecidableEq

/-- A table that is being scanned, with the types of its columns once they are settled. -/
structure Scan (σ : Type) where
  source : σ
  types : Option (List ColumnType) := none

namespace Scan

variable {σ : Type} [RecordSource σ]

def settleTypes (p : Plan) (s : σ) : List ColumnType :=
  (List.range p.source.size).map fun i =>
    match p.options.declared[i]? with
    | some type => ⟨type, true⟩
    | none => ⟨p.options.formats.infer ((RecordSource.field s i).getD ""), false⟩

def typedValue (formats : Formats) (t : ColumnType) : Option String → Except QueryError Value
  | none => .ok .null
  | some raw =>
    if t.declared then formats.coerce raw t.type else .ok (formats.coerceInferred raw t.type)

def typedRow (p : Plan) (types : List ColumnType) (s : σ) : Except QueryError Row := do
  let values ← types.zipIdx.mapM fun (t, i) =>
    typedValue p.options.formats t (RecordSource.field s i)
  return ⟨p.source, values⟩

/-- The next row that passes WHERE, looked for in as many records as the count. -/
def nextRowWithin (p : Plan) : Nat → Scan σ → Except QueryError (Option Row) × Scan σ
  | 0, scan => (.ok none, scan)
  | fuel + 1, scan =>
    match RecordSource.next scan.source with
    | (.error e, source) => (.error e, { scan with source })
    | (.ok false, source) => (.ok none, { scan with source })
    | (.ok true, source) =>
      let types := scan.types.getD (settleTypes p source)
      let scan : Scan σ := ⟨source, some types⟩
      match typedRow p types source with
      | .error e => (.error e, scan)
      | .ok row =>
        match p.passes row with
        | .error e => (.error e, scan)
        | .ok true => (.ok (some row), scan)
        | .ok false => nextRowWithin p fuel scan

def nextRow (p : Plan) (scan : Scan σ) : Except QueryError (Option Row) × Scan σ :=
  nextRowWithin p (RecordSource.remaining scan.source + 1) scan

/-- What a function makes of each of the next rows, as many as the count at most. -/
def collectWithin {β : Type} (p : Plan) (f : Row → Except QueryError β) :
    Nat → Scan σ → Except QueryError (List β) × Scan σ
  | 0, scan => (.ok [], scan)
  | fuel + 1, scan =>
    match scan.nextRow p with
    | (.error e, scan) => (.error e, scan)
    | (.ok none, scan) => (.ok [], scan)
    | (.ok (some row), scan) =>
      match f row with
      | .error e => (.error e, scan)
      | .ok b =>
        match collectWithin p f fuel scan with
        | (.ok bs, scan) => (.ok (b :: bs), scan)
        | (.error e, scan) => (.error e, scan)

/-- What a function makes of each of the rows that are left, up to the first error. -/
def collect {β : Type} (p : Plan) (f : Row → Except QueryError β) (scan : Scan σ) :
    Except QueryError (List β) × Scan σ :=
  collectWithin p f (RecordSource.remaining scan.source + 1) scan

end Scan

end PlainTables
