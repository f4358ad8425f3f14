import PlainTables.Settings.Tree

/-!
# Tables of TOML in the making

A table of a TOML document is put together from headers, dotted keys and the keys under them. How a
table came about decides what may still be added to it: nothing is given twice, and a dotted key adds
only to tables that dotted keys or the headers of inner tables have made.
-/

namespace PlainTables.Toml

inductive TableOrigin where
  /-- By its own header, or as the table of the document. -/
  | header
  /-- As an outer table in the header of another one. -/
  | outer
  /-- By a dotted key. -/
  | dotted
deriving DecidableEq

/-- A part of a document that is being read. The tables of an array have all been closed but for the
last one. -/
inductive Draft where
  | value (v : Setting)
  | table (origin : TableOrigin) (entries : List (String × Draft))
  | tables (closed : List Setting) (last : List (String × Draft))

namespace Draft

mutual

def setting : Draft → Setting
  | value v => v
  | table _ es => .table (settings es)
  | tables closed last => .list (closed ++ [.table (settings last)])

def settings : List (String × Draft) → List (String × Setting)
  | [] => []
  | (name, d) :: es => (name, d.setting) :: settings es

end

def insert (name : String) (d : Draft) : List (String × Draft) → List (String × Draft)
  | [] => [(name, d)]
  | (own, old) :: es => if own = name then (name, d) :: es else (own, old) :: insert name d es

/-- Changes the entries of a table, or of the last table of an array. -/
def modify? (f : List (String × Draft) → Option (List (String × Draft))) : Draft → Option Draft
  | value _ => none
  | table origin es => (f es).map (table origin)
  | tables closed last => (f last).map (tables closed)

/-- A dotted key may go on into this part. -/
def isOpenToKeys : Draft → Bool
  | value _ => false
  | table origin _ => origin ≠ .header
  | tables .. => true

def isDotted : Draft → Bool
  | table origin _ => origin = .dotted
  | _ => false

/-- Gives a value to a key; the names before the last one lead to its table. -/
def addKey (v : Setting) :
    List String → List (String × Draft) → Option (List (String × Draft))
  | [], _ => none
  | [name], es => if (es.lookup name).isSome then none else some (es ++ [(name, value v)])
  | name :: inner :: path, es =>
    let child := (es.lookup name).getD (table .dotted [])
    if child.isOpenToKeys && (child.isDotted || !path.isEmpty) then do
      let child ← child.modify? (addKey v (inner :: path))
      return insert name child es
    else none

def openTable? : Option Draft → Option Draft
  | none => some (table .header [])
  | some (table .outer es) => some (table .header es)
  | some _ => none

def openItem? : Option Draft → Option Draft
  | none => some (tables [] [])
  | some (tables closed last) => some (tables (closed ++ [.table (settings last)]) [])
  | some _ => none

def openAt (start? : Option Draft → Option Draft) :
    List String → List (String × Draft) → Option (List (String × Draft))
  | [], _ => none
  | [name], es => (start? (es.lookup name)).map fun d => insert name d es
  | name :: inner :: path, es => do
    let child := (es.lookup name).getD (table .outer [])
    let child ← child.modify? (openAt start? (inner :: path))
    return insert name child es

def modifyAt (f : List (String × Draft) → Option (List (String × Draft))) :
    List String → List (String × Draft) → Option (List (String × Draft))
  | [], es => f es
  | name :: path, es => do
    let child ← es.lookup name
    let child ← child.modify? (modifyAt f path)
    return insert name child es

end Draft

end PlainTables.Toml
