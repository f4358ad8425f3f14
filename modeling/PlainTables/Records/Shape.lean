import PlainTables.Lines.FileSet
import PlainTables.Records
import PlainTables.Records.Melted
import PlainTables.Records.Memory
import PlainTables.Records.Tagged
import PlainTables.Records.Text

/-!
# Shapes of tables

Tables are put together from records in memory, text in a file and text in a set of files: values of
file names may be added to a table, it may be melted, and it may be one of two.
-/

namespace PlainTables

inductive TableShape where
  | memory
  | text
  | fileSet
  | tagged (inner : TableShape)
  | melted (inner : TableShape)
  | choice (first second : TableShape)
deriving DecidableEq

namespace TableShape

def Source : TableShape → Type
  | memory => MemoryTable
  | text => TextTable ByteLines
  | fileSet => TextTable FileSetLines
  | tagged inner => TaggedTable inner.Source
  | melted inner => MeltedTable inner.Source
  | choice first second => first.Source ⊕ second.Source

@[reducible]
def recordSource : (shape : TableShape) → RecordSource shape.Source
  | memory => inferInstanceAs (RecordSource MemoryTable)
  | text => inferInstanceAs (RecordSource (TextTable ByteLines))
  | fileSet => inferInstanceAs (RecordSource (TextTable FileSetLines))
  | tagged inner =>
    have := inner.recordSource
    inferInstanceAs (RecordSource (TaggedTable inner.Source))
  | melted inner =>
    have := inner.recordSource
    inferInstanceAs (RecordSource (MeltedTable inner.Source))
  | choice first second =>
    have := first.recordSource
    have := second.recordSource
    inferInstanceAs (RecordSource (first.Source ⊕ second.Source))

instance (shape : TableShape) : RecordSource shape.Source :=
  shape.recordSource

/-- The shape of what a query runs over: a record in memory, a table in text, or a melted one. -/
def queried : TableShape :=
  .choice .memory (.choice (.choice .text (.tagged .fileSet))
    (.melted (.choice .text (.tagged .fileSet))))

end TableShape

end PlainTables
