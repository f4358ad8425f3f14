import PlainTables.Text.CharWidth

/-!
# Display width

How many columns of a terminal a text takes. Some characters are drawn together with those that
follow them: the parts of a picture, two letters of a flag, the ligatures of several scripts, a
character and the selector of its form. A text is therefore read from its end, and the width of a
character depends on what stands after it.
-/

namespace PlainTables.Text

inductive Presentation where
  | picture
  | plain
  | wide
deriving DecidableEq

/-- The last part of a ligature that may have begun before it; `joined` after a joiner. -/
inductive LigatureEnd where
  | alef
  | lamed (joined : Bool)
  | khmer
  | ya (joined : Bool)
  | yaWithVowel
  | tifinagh (joined : Bool)
  | tifinaghWithJoiner
  | lisu
  | orkhon (joined : Bool)
deriving DecidableEq

/-- The letters of flags that have been read of a flag after a joiner. -/
inductive FlagLetters where
  | one
  | even
  | odd
deriving DecidableEq

/-- What stands after a character, as far as the width of the character depends on it. -/
inductive Following where
  | nothing
  | lineFeed
  | selector (p : Presentation)
  | ligature (e : LigatureEnd) (selected : Option Presentation)
  | modifier
  | flag (several : Bool)
  | picture
  | joinedPicture (keycap selected : Bool)
  | joinedFlag (letters : FlagLetters)
  | tagLetters (count : Nat)
  | tagDigits (count : Nat)
  | kiratE
  | kiratAi
deriving DecidableEq

def selector? (c : Char) : Option Presentation :=
  if c = '\ufe0f' then some .picture
  else if c = '\ufe0e' then some .plain
  else if c = '\ufe01' then some .wide
  else none

def joiner : Char := '\u200d'

namespace LigatureEnd

def join : LigatureEnd → LigatureEnd
  | lamed _ => lamed true
  | ya _ => ya true
  | tifinagh _ => tifinagh true
  | orkhon _ => orkhon true
  | e => e

/-- The columns that a character adds to the ligature that it belongs to, and what it leaves for the
characters before it; none if it does not belong to the ligature. -/
def extend? (c : Char) : LigatureEnd → Option (Int × Following)
  | alef =>
    if isLam c then some (0, .nothing)
    else if isArabicTransparent c then some (0, .ligature alef none)
    else none
  | lamed true => if c = '\u05d0' then some (0, .nothing) else none
  | khmer => if c = '\u17d2' then some (-1, .nothing) else none
  | ya true => if c = '\u1a17' then some (0, .ligature yaWithVowel none) else none
  | yaWithVowel => if c = '\u1a15' then some (0, .nothing) else none
  | tifinagh joined =>
    if c = '\u2d7f' then some (1, .ligature tifinaghWithJoiner none)
    else if joined && isTifinaghConsonant c then some (0, .nothing)
    else none
  | tifinaghWithJoiner => if isTifinaghConsonant c then some (-1, .nothing) else none
  | lisu => if 0xa4f8 ≤ c.toNat && c.toNat ≤ 0xa4fb then some (0, .nothing) else none
  | orkhon true => if c.toNat = 0x10c32 then some (0, .nothing) else none
  | _ => none

end LigatureEnd

namespace Following

def selected : Following → Option Presentation
  | selector p => some p
  | ligature _ p => p
  | joinedPicture _ true => some .picture
  | _ => none

/-- What is left of it if the character before has no such form. -/
def unselected : Following → Following
  | ligature e _ => ligature e none
  | _ => nothing

def select (p : Presentation) : Following → Following
  | ligature e _ => ligature e (some p)
  | joinedPicture keycap false =>
    if p = .picture then joinedPicture keycap true else selector p
  | _ => selector p

/-- The columns of a character in the form that is asked of it, and what it leaves for the
characters before it; none if it has no such form. -/
def inForm? (c : Char) (f : Following) : Option (Int × Following) :=
  match f.selected with
  | some .picture =>
    if inRanges selectableRanges c then
      some (match f with
        | joinedPicture .. => (0, picture)
        | _ => (2, picture))
    else none
  | some .plain => if isTextPicture c then some (1, nothing) else none
  | some .wide => if isSelectableQuote c then some (2, nothing) else none
  | none => none

/-- The columns of a letter, and what it leaves, if it is the last of a flag or of a part of one. -/
def beforeFlag? : Following → Option (Int × Following)
  | flag _ => some (1, flag true)
  | joinedPicture false _ => some (1, joinedFlag .one)
  | joinedFlag .one => some (-1, joinedFlag .even)
  | joinedFlag .odd => some (-1, joinedFlag .even)
  | joinedFlag .even => some (3, joinedFlag .odd)
  | _ => none

/-- What a tag leaves before the end of a flag that is written in tags: up to three digits after
up to six letters, where digits follow at most four letters. -/
def tag? (c : Char) (f : Following) : Option Following :=
  let n := c.toNat
  if 0xe0061 ≤ n && n ≤ 0xe007a then
    match f with
    | tagLetters k => if k < 6 then some (tagLetters (k + 1)) else none
    | _ => none
  else if 0xe0030 ≤ n && n ≤ 0xe0039 then
    match f with
    | tagLetters k => if k ≤ 4 then some (tagDigits 1) else none
    | tagDigits k => if k < 3 then some (tagDigits (k + 1)) else none
    | _ => none
  else none

/-- A black flag stands before a sequence of tags that names a region. -/
def completesTags : Following → Bool
  | tagLetters k => 3 ≤ k
  | tagDigits k => k = 3
  | _ => false

/-- The columns of a character that is drawn together with what follows, and what it leaves; none
if it is drawn by itself. -/
def drawnWith? (c : Char) (f : Following) : Option (Int × Following) :=
  if c.toNat = 0x1f3f4 && f.completesTags then some (0, picture)
  else if isFlagLetter c then f.beforeFlag?
  else
    match tag? c f with
    | some g => some (0, g)
    | none =>
      match f with
      | ligature e _ => e.extend? c
      | modifier =>
        if inRanges modifierBaseRanges c then some (0, picture)
        else if c = joiner then some (0, joinedPicture false false)
        else none
      | picture | flag true | joinedFlag .even | joinedFlag .odd =>
        if c = joiner then some (0, joinedPicture false false) else none
      | joinedPicture false _ =>
        if c = '\u20e3' then some (0, joinedPicture true false)
        else if isModifier c then some (0, modifier)
        else if c.toNat = 0xe007f then some (0, tagLetters 0)
        else if inRanges pictureRanges c then some (0, picture)
        else none
      | kiratE =>
        if c.toNat = 0x16d63 || c.toNat = 0x16d69 then some (0, nothing)
        else if c.toNat = 0x16d67 then some (0, kiratAi)
        else if c.toNat = 0x16d68 then some (1, kiratE)
        else none
      | kiratAi => if c.toNat = 0x16d63 then some (0, nothing) else none
      | _ => none

/-- What a character leaves for those before it if it is drawn by itself. -/
def ofChar (c : Char) : Following :=
  let n := c.toNat
  match selector? c with
  | some p => selector p
  | none =>
    if n = 0x5dc then ligature (.lamed false) none
    else if isAlef c then ligature .alef none
    else if isSubscriptKhmer c then ligature .khmer none
    else if n = 0x1a10 then ligature (.ya false) none
    else if isTifinaghConsonant c then ligature (.tifinagh false) none
    else if n = 0xa4fc || n = 0xa4fd then ligature .lisu none
    else if n = 0x10c03 then ligature (.orkhon false) none
    else if n = 0x16d67 then kiratE
    else if n = 0x16d68 then kiratAi
    else if isFlagLetter c then flag false
    else if isModifier c then modifier
    else if inRanges pictureRanges c then picture
    else nothing

/-- The columns that a character beyond basic Latin adds to what asks for no form of it, and what it
leaves. A ligature, other than the Arabic one, passes over joiners and marks. -/
def beforeUnselected (c : Char) (f : Following) : Int × Following :=
  let drawn := (drawnWith? c f).getD (charWidth c, ofChar c)
  match f with
  | ligature .alef _ => drawn
  | ligature e _ =>
    if c = joiner then (0, ligature e.join none)
    else if isTransparent c then (0, f)
    else drawn
  | _ => drawn

def beforeOther (c : Char) (f : Following) : Int × Following :=
  match selector? c with
  | some p => (0, f.select p)
  | none =>
    match f.selected with
    | none => beforeUnselected c f
    | some _ => (inForm? c f).getD (beforeUnselected c f.unselected)

/-- The columns that a character adds to the text after it, and what it leaves for the characters
before it. -/
def before (c : Char) (f : Following) : Int × Following :=
  if c.toNat < 0xa1 then
    match f.selected, inForm? c f with
    | some .picture, some drawn => drawn
    | _, _ =>
      if c = '\n' then (1, lineFeed)
      else if c = '\r' && f = lineFeed then (0, nothing)
      else (1, nothing)
  else beforeOther c f

end Following

def measured (s : List Char) : Int × Following :=
  s.foldr (fun c (width, f) =>
    let (w, g) := f.before c
    (width + w, g)) (0, .nothing)

def displayWidth (s : List Char) : Nat :=
  (measured s).1.toNat

end PlainTables.Text
