import PlainTables.NamePattern.Property

/-!
# Named classes of characters

The classes that a pattern names: digits, blanks and characters of words in all scripts, and the
classes of basic Latin that are written between colons.
-/

namespace PlainTables.CharSet

def digit : CharSet :=
  categories ["nd"]

/-- The characters of words: letters, marks, decimal digits, connectors and joiners. -/
def word : CharSet :=
  unionOf [(booleanProperty? "alphabetic").getD nothing, categories ["mn", "mc", "me", "nd", "pc"],
    (booleanProperty? "joincontrol").getD nothing]

def inLine : CharSet := (single '\n').complement

def latinRanges? : String → Option (List (Char × Char))
  | "alnum" => some [('0', '9'), ('A', 'Z'), ('a', 'z')]
  | "alpha" => some [('A', 'Z'), ('a', 'z')]
  | "ascii" => some [('\x00', '\x7f')]
  | "blank" => some [('\t', '\t'), (' ', ' ')]
  | "cntrl" => some [('\x00', '\x1f'), ('\x7f', '\x7f')]
  | "digit" => some [('0', '9')]
  | "graph" => some [('!', '~')]
  | "lower" => some [('a', 'z')]
  | "print" => some [(' ', '~')]
  | "punct" => some [('!', '/'), (':', '@'), ('[', '\x60'), ('\x7b', '~')]
  | "space" => some [('\t', '\r'), (' ', ' ')]
  | "upper" => some [('A', 'Z')]
  | "word" => some [('0', '9'), ('A', 'Z'), ('_', '_'), ('a', 'z')]
  | "xdigit" => some [('0', '9'), ('A', 'F'), ('a', 'f')]
  | _ => none

def latin? (name : String) : Option CharSet :=
  (latinRanges? name).map fun rs => ofRanges (rs.map fun (a, b) => (a.toNat, b.toNat))

/-- The characters of words, of which only those of basic Latin may count. -/
def wordIn (latin : Bool) : CharSet :=
  if latin then (latin? "word").getD nothing else word

/-- The class of a letter after a backslash; an upper case letter stands for the complement. -/
def escaped? : Char → Option CharSet
  | 'd' => some digit
  | 'D' => some digit.complement
  | 's' => some blank
  | 'S' => some blank.complement
  | 'w' => some word
  | 'W' => some word.complement
  | _ => none

/-- The class of a letter after a backslash where only basic Latin counts. There are no complements. -/
def latinEscaped? : Char → Option CharSet
  | 'd' => latin? "digit"
  | 's' => latin? "space"
  | 'w' => latin? "word"
  | _ => none

end PlainTables.CharSet
