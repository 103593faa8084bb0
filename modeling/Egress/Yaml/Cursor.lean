/-!
# Reading position in a YAML text

A cursor is the rest of a text with the position reached: the count of characters, the line and the
column.  Lines end at a line feed, a next-line character or a Unicode separator; other conventions
are unified before reading.  Past the end, a cursor shows the null character, which no YAML text
contains.
-/

namespace Egress.Yaml

/-- Why a text cannot be read. -/
inductive TextFlaw where
  | malformed
  /-- A number that is given for a character stands for none. -/
  | noSuchCharacter
  /-- It is even beyond all numbers that are tried. -/
  | numberTooLarge
  | tooDeep
  deriving Repr, DecidableEq, Inhabited

/-- The result of a step in reading a text. -/
abbrev Scan := Except TextFlaw

/-- Where a step gives nothing, the text is malformed. -/
def Scan.ofOption {β : Type} : Option β → Scan β
  | some result => .ok result
  | none => .error .malformed

/-- The characters that may stand in a YAML text. -/
def isPrintable (char : Char) : Bool :=
  let code := char.toNat
  code == 0x09 || code == 0x0A || code == 0x0D || code == 0x85 ||
    (0x20 ≤ code && code ≤ 0x7E) || (0xA0 ≤ code && code ≤ 0xD7FF) ||
    (0xE000 ≤ code && code ≤ 0xFFFD) || 0x10000 ≤ code

/-- Let every line end in one way: a carriage return, alone or with a line feed, and a next-line
character become a line feed. -/
def unifyLines : List Char → List Char
  | [] => []
  | '\r' :: '\n' :: rest => '\n' :: unifyLines rest
  | '\r' :: rest => '\n' :: unifyLines rest
  | '\u0085' :: rest => '\n' :: unifyLines rest
  | char :: rest => char :: unifyLines rest

/-- What a cursor shows at the end. -/
def finish : Char := '\x00'

def isBreak (char : Char) : Bool := char == '\n' || char == '\u2028' || char == '\u2029'

def isBreakOrEnd (char : Char) : Bool := char == finish || isBreak char

def isBlank (char : Char) : Bool := char == ' ' || char == '\t'

def isBlankOrEnd (char : Char) : Bool := isBlank char || isBreakOrEnd char

/-- Letters, digits, hyphen and underscore: what names are made of. -/
def isWord (char : Char) : Bool := char.isAlphanum || char == '-' || char == '_'

structure Cursor where
  /-- The number of characters of the whole text: no loop over the rest takes more turns. -/
  size : Nat
  rest : List Char
  index : Nat
  line : Nat
  column : Nat
  deriving Inhabited

namespace Cursor

def ofText (text : List Char) : Cursor := ⟨text.length, text, 0, 0, 0⟩

/-- The character some places ahead. -/
def peekAt (cursor : Cursor) (offset : Nat) : Char := (cursor.rest.drop offset).headD finish

def peek (cursor : Cursor) : Char := cursor.rest.headD finish

/-- One character on.  A byte order mark takes no column. -/
def next (cursor : Cursor) : Cursor :=
  match cursor.rest with
  | [] => cursor
  | char :: rest =>
    if isBreak char then ⟨cursor.size, rest, cursor.index + 1, cursor.line + 1, 0⟩
    else ⟨cursor.size, rest, cursor.index + 1, cursor.line,
      if char == '\uFEFF' then cursor.column else cursor.column + 1⟩

def skip (cursor : Cursor) : Nat → Cursor
  | 0 => cursor
  | count + 1 => cursor.next.skip count

/-- The characters up to the first that fails a test, and the cursor there. -/
def takeWhile (cursor : Cursor) (test : Char → Bool) : List Char × Cursor :=
  let taken := cursor.rest.takeWhile test
  (taken, cursor.skip taken.length)

def dropWhile (cursor : Cursor) (test : Char → Bool) : Cursor := (cursor.takeWhile test).2

/-- Past a line break, with its text; nothing if there is none. -/
def lineBreak (cursor : Cursor) : List Char × Cursor :=
  if isBreak cursor.peek then ([cursor.peek], cursor.next) else ([], cursor)

/-- Past the rest of a line that may hold a comment and nothing else. -/
def endLine? (cursor : Cursor) : Option Cursor :=
  let cursor := cursor.dropWhile (· == ' ')
  let cursor := if cursor.peek == '#' then cursor.dropWhile (!isBreak ·) else cursor
  if isBreakOrEnd cursor.peek then some cursor.lineBreak.2 else none

/-- Whether three equal characters stand here, followed by a blank or the end: a mark between
documents. -/
def atMark (cursor : Cursor) (char : Char) : Bool :=
  cursor.rest.take 3 == [char, char, char] && isBlankOrEnd (cursor.peekAt 3)

/-- Whether any mark between documents stands here. -/
def atAnyMark (cursor : Cursor) : Bool := cursor.atMark '-' || cursor.atMark '.'

end Cursor

end Egress.Yaml
