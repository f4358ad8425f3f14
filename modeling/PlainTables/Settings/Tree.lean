import PlainTables.Double
import PlainTables.Text.Casing

/-!
# Settings as they are written

Before their meaning is known, settings form a tree: tables of named settings down to texts and
numbers. Names are kept in lower case. What is written later replaces what was there, but a table is
written name by name into the table that was there.
-/

namespace PlainTables

inductive Setting where
  | absent
  | text (s : String)
  | integer (i : Int64)
  | double (d : Double)
  | boolean (b : Bool)
  | list (items : List Setting)
  | table (entries : List (String × Setting))

/-- A step from a setting to one inside it. A negative index counts back from the end of a list. -/
inductive SettingStep where
  | name (s : String)
  | index (i : Int)
deriving DecidableEq

namespace Setting

def entries : Setting → List (String × Setting)
  | table es => es
  | _ => []

def items : Setting → List Setting
  | list xs => xs
  | _ => []

def get? (s : Setting) (name : String) : Option Setting :=
  s.entries.lookup name

def insert (name : String) (value : Setting) : List (String × Setting) → List (String × Setting)
  | [] => [(name, value)]
  | (own, old) :: es => if own = name then (name, value) :: es else (own, old) :: insert name value es

/-- The table of named settings; of those with one name the last one counts. -/
def ofMembers (members : List (String × Setting)) : Setting :=
  table (members.foldl (fun es (name, value) => insert name value es) [])

mutual

def overlay (old : Setting) : Setting → Setting
  | table es => table (overlayEntries old.entries es)
  | value => value

def overlayEntries (old : List (String × Setting)) : List (String × Setting) → List (String × Setting)
  | [] => old
  | (name, value) :: es =>
    let name := Text.lowercase name
    overlayEntries (insert name (overlay ((old.lookup name).getD absent) value) old) es

end

def place (size : Nat) (i : Int) : Nat :=
  if 0 ≤ i then i.toNat else size - i.natAbs

/-- Writes a setting at the end of a path. What is not a table or list where one is needed becomes
one, and lists are filled up to the place. -/
def write (value : Setting) : List SettingStep → Setting → Setting
  | [], old => overlay old value
  | .name s :: path, old =>
    let name := Text.lowercase s
    table (insert name (write value path ((old.get? name).getD absent)) old.entries)
  | .index i :: path, old =>
    let n := place old.items.length i
    let items := old.items ++ List.replicate (n + 1 - old.items.length) absent
    list (items.set n (write value path (items.getD n absent)))

end Setting

end PlainTables
