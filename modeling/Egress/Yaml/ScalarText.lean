import Egress.Yaml.Cursor

/-!
# Scalars as they are written

A scalar stands plain, in quotation marks, or as a block of lines.  Each reader takes a cursor at
the start of a scalar and gives its text with the cursor behind it, or else why it cannot be
read.  Line breaks inside plain and quoted scalars are folded: a single one becomes a space,
and of several the first is dropped.  Readers are given the length of the text as a bound on the
number of turns, since each turn reads at least one character.
-/

namespace Egress.Yaml

/-- What stands for a run of line breaks: a space for a single line feed, and otherwise the breaks
without a leading line feed. -/
def folded (first : List Char) (others : List Char) : List Char :=
  if first == ['\n'] then (if others.isEmpty then [' '] else others) else first ++ others

/-! ## Quoted scalars -/

/-- The meaning of a character after a backslash. -/
def escaped? : Char → Option Char
  | '0' => some '\x00'
  | 'a' => some '\x07'
  | 'b' => some '\x08'
  | 't' | '\t' => some '\t'
  | 'n' => some '\n'
  | 'v' => some '\x0b'
  | 'f' => some '\x0c'
  | 'r' => some '\r'
  | 'e' => some '\x1b'
  | ' ' => some ' '
  | '"' => some '"'
  | '/' => some '/'
  | '\\' => some '\\'
  | 'N' => some '\u0085'
  | '_' => some '\u00a0'
  | 'L' => some '\u2028'
  | 'P' => some '\u2029'
  | _ => none

/-- How many hexadecimal digits follow a character after a backslash. -/
def escapeDigits? : Char → Option Nat
  | 'x' => some 2
  | 'u' => some 4
  | 'U' => some 8
  | _ => none

def hexDigit? (char : Char) : Option Nat :=
  if char.isDigit then some (char.toNat - '0'.toNat)
  else if 'a' ≤ char ∧ char ≤ 'f' then some (char.toNat - 'a'.toNat + 10)
  else if 'A' ≤ char ∧ char ≤ 'F' then some (char.toNat - 'A'.toNat + 10)
  else none

/-- The number that hexadecimal digits stand for. -/
def hexNumber? (digits : List Char) : Option Nat :=
  digits.foldlM (fun sum char => (hexDigit? char).map (16 * sum + ·)) 0

/-- The character of a number. -/
def numberedChar (code : Nat) : Scan Char :=
  if code < 0x110000 then .ok (Char.ofNat code)
  else .error (if code < 0x80000000 then .noSuchCharacter else .numberTooLarge)

/-- Line breaks and the blanks around them, inside quotation marks. -/
def quotedBreaks (turns : Nat) (cursor : Cursor) (breaks : List Char) : Scan (List Char × Cursor) :=
  match turns with
  | 0 => .error .malformed
  | turns + 1 =>
    if cursor.atAnyMark then .error .malformed
    else
      let cursor := cursor.dropWhile isBlank
      if isBreak cursor.peek then
        let (taken, cursor) := cursor.lineBreak
        quotedBreaks turns cursor (breaks ++ taken)
      else .ok (breaks, cursor)

/-- What a backslash and the characters after it stand for. -/
def quotedEscape (turns : Nat) (cursor : Cursor) : Scan (List Char × Cursor) :=
  match escaped? cursor.peek with
  | some meaning => .ok ([meaning], cursor.next)
  | none =>
    match escapeDigits? cursor.peek with
    | some count => do
      let digits := cursor.next.rest.take count
      let code ← Scan.ofOption (if digits.length < count then none else hexNumber? digits)
      return ([← numberedChar code], cursor.skip (count + 1))
    | none =>
      if isBreak cursor.peek then quotedBreaks turns cursor.lineBreak.2 []
      else .error .malformed

/-- One piece of a quoted scalar; nothing at its end. -/
def quotedPiece (quote : Char) (turns : Nat) (cursor : Cursor) :
    Scan (Option (List Char) × Cursor) :=
  let double := quote == '"'
  let char := cursor.peek
  if char == finish then .error .malformed
  else if isBlank char then
    let (blanks, after) := cursor.takeWhile isBlank
    if after.peek == finish then .error .malformed
    else if isBreak after.peek then do
      let (first, after) := after.lineBreak
      let (others, after) ← quotedBreaks turns after []
      return (some (folded first others), after)
    else .ok (some blanks, after)
  else if isBreak char then do
    let (first, after) := cursor.lineBreak
    let (others, after) ← quotedBreaks turns after []
    return (some (folded first others), after)
  else if !double && char == quote && cursor.peekAt 1 == quote then
    .ok (some [quote], cursor.skip 2)
  else if char == quote then .ok (none, cursor.next)
  else if double && char == '\\' then do
    let (piece, after) ← quotedEscape turns cursor.next
    return (some piece, after)
  else .ok (some [char], cursor.next)

def quotedRest (quote : Char) (turns : Nat) (cursor : Cursor) (text : List Char) :
    Scan (List Char × Cursor) :=
  match turns with
  | 0 => .error .malformed
  | turns + 1 => do
    match ← quotedPiece quote (turns + 1) cursor with
    | (none, cursor) => return (text, cursor)
    | (some piece, cursor) => quotedRest quote turns cursor (text ++ piece)

/-- A scalar in quotation marks, from the opening mark on. -/
def quotedScalar (cursor : Cursor) : Scan (List Char × Cursor) :=
  quotedRest cursor.peek (cursor.size + 1) cursor.next []

/-! ## Plain scalars -/

/-- Whether a plain scalar ends before a character, given the one after it. -/
def endsPlain (inFlow : Bool) (char after : Char) : Bool :=
  isBlankOrEnd char ||
    (char == ':' && (isBlankOrEnd after || (inFlow && ",[]\x7b\x7d".contains after))) ||
    (inFlow && ",?[]\x7b\x7d".contains char)

/-- The characters of a plain scalar up to a blank or its end. -/
def plainWord (inFlow : Bool) : List Char → List Char
  | [] => []
  | char :: rest =>
    if endsPlain inFlow char (rest.headD finish) then [] else char :: plainWord inFlow rest

/-- Line breaks and spaces between the lines of a plain scalar.  Nothing if a mark between documents
follows. -/
def plainBreaks (turns : Nat) (cursor : Cursor) (breaks : List Char) :
    Option (List Char) × Cursor :=
  match turns with
  | 0 => (some breaks, cursor)
  | turns + 1 =>
    if cursor.peek == ' ' then plainBreaks turns cursor.next breaks
    else if isBreak cursor.peek then
      let (taken, cursor) := cursor.lineBreak
      if cursor.atAnyMark then (none, cursor) else plainBreaks turns cursor (breaks ++ taken)
    else (some breaks, cursor)

/-- What stands between two words of a plain scalar, and whether a line ended there. -/
def plainGap (cursor : Cursor) : List Char × Bool × Cursor :=
  let (spaces, cursor) := cursor.takeWhile (· == ' ')
  if isBreak cursor.peek then
    let (first, cursor) := cursor.lineBreak
    if cursor.atAnyMark then ([], true, cursor)
    else
      match plainBreaks (cursor.size + 1) cursor [] with
      | (none, cursor) => ([], true, cursor)
      | (some others, cursor) => (folded first others, true, cursor)
  else (spaces, false, cursor)

/-- The words of a plain scalar from here on.  The flag says whether the gap after the last word
went over a line. -/
def plainWords (inFlow : Bool) (indent : Int) (turns : Nat) (cursor : Cursor)
    (text gap : List Char) (overLine : Bool) : List Char × Bool × Cursor :=
  match turns with
  | 0 => (text, overLine, cursor)
  | turns + 1 =>
    if cursor.peek == '#' then (text, overLine, cursor)
    else
      let word := plainWord inFlow cursor.rest
      if word.isEmpty then (text, overLine, cursor)
      else
        let text := text ++ gap ++ word
        let (gap, overLine, cursor) := plainGap (cursor.skip word.length)
        if gap.isEmpty || cursor.peek == '#' || (!inFlow && decide (cursor.column < indent)) then
          (text, overLine, cursor)
        else plainWords inFlow indent turns cursor text gap overLine

/-- A plain scalar.  Outside flow collections its lines have at least the given indentation. -/
def plainScalar (inFlow : Bool) (indent : Int) (cursor : Cursor) : List Char × Bool × Cursor :=
  plainWords inFlow indent (cursor.size + 1) cursor [] [] false

/-! ## Block scalars -/

/-- What happens to the line breaks at the end of a block scalar. -/
inductive Chomping where
  | strip
  | clip
  | keep
  deriving Repr, DecidableEq

def chomping? : Char → Option Chomping
  | '+' => some .keep
  | '-' => some .strip
  | _ => none

/-- The indicators after the bar: chomping and indentation, in either order. -/
def blockIndicators (cursor : Cursor) : Option (Chomping × Option Nat × Cursor) :=
  let digit? (cursor : Cursor) : Option (Option Nat × Cursor) :=
    if cursor.peek.isDigit then
      if cursor.peek == '0' then none
      else some (some (cursor.peek.toNat - '0'.toNat), cursor.next)
    else some (none, cursor)
  match chomping? cursor.peek with
  | some chomping => do
    let (indent, cursor) ← digit? cursor.next
    return (chomping, indent, cursor)
  | none => do
    let (indent, cursor) ← digit? cursor
    match indent, chomping? cursor.peek with
    | some _, some chomping => return (chomping, indent, cursor.next)
    | _, _ => return (.clip, indent, cursor)

/-- The empty lines before a block whose indentation is not given, and the largest column of their
spaces and those of the first line. -/
def blockLead (turns : Nat) (cursor : Cursor) (breaks : List Char) (deepest : Nat) :
    List Char × Nat × Cursor :=
  match turns with
  | 0 => (breaks, deepest, cursor)
  | turns + 1 =>
    if cursor.peek == ' ' then
      let cursor := cursor.next
      blockLead turns cursor breaks (max deepest cursor.column)
    else if isBreak cursor.peek then
      let (taken, cursor) := cursor.lineBreak
      blockLead turns cursor (breaks ++ taken) deepest
    else (breaks, deepest, cursor)

/-- Past spaces, up to a column. -/
def toColumn (column : Nat) (turns : Nat) (cursor : Cursor) : Cursor :=
  match turns with
  | 0 => cursor
  | turns + 1 =>
    if cursor.column < column && cursor.peek == ' ' then toColumn column turns cursor.next
    else cursor

/-- Empty lines inside a block, and the indentation of the line after them. -/
def blockBreaks (column : Nat) (turns : Nat) (cursor : Cursor) (breaks : List Char) :
    List Char × Cursor :=
  let cursor := toColumn column column cursor
  match turns with
  | 0 => (breaks, cursor)
  | turns + 1 =>
    if isBreak cursor.peek then
      let (taken, cursor) := cursor.lineBreak
      blockBreaks column turns cursor (breaks ++ taken)
    else (breaks, cursor)

/-- The lines of a block: its text, the last line break and the empty lines after it. -/
def blockLines (folding : Bool) (column : Nat) (turns : Nat) (cursor : Cursor)
    (text breaks last : List Char) : List Char × List Char × List Char × Cursor :=
  match turns with
  | 0 => (text, last, breaks, cursor)
  | turns + 1 =>
    if cursor.column != column || cursor.peek == finish then (text, last, breaks, cursor)
    else
      let startsWord := !isBlank cursor.peek
      let (line, cursor) := cursor.takeWhile (!isBreak ·)
      let text := text ++ breaks ++ line
      let (last, cursor) := cursor.lineBreak
      let (breaks, cursor) := blockBreaks column (cursor.size + 1) cursor []
      if cursor.column == column && cursor.peek != finish then
        let joined :=
          if folding && last == ['\n'] && startsWord && !isBlank cursor.peek then
            if breaks.isEmpty then [' '] else []
          else last
        blockLines folding column turns cursor (text ++ joined) breaks last
      else (text, last, breaks, cursor)

/-- A block scalar from its bar on, inside a block of the given indentation.  A comment on its first
line stands apart from the indicators. -/
def blockScalar (indent : Int) (cursor : Cursor) : Option (List Char × Cursor) := do
  let folding := cursor.peek == '>'
  let (chomping, given, cursor) ← blockIndicators cursor.next
  if cursor.peek != ' ' && !isBreakOrEnd cursor.peek then failure
  let cursor ← cursor.endLine?
  let least := (max (indent + 1) 1).toNat
  let (breaks, column, cursor) := match given with
    | none =>
      let (breaks, deepest, cursor) := blockLead (cursor.size + 1) cursor [] 0
      (breaks, max least deepest, cursor)
    | some extra =>
      let column := least + extra - 1
      let (breaks, cursor) := blockBreaks column (cursor.size + 1) cursor []
      (breaks, column, cursor)
  let (text, last, trailing, cursor) :=
    blockLines folding column (cursor.size + 1) cursor [] breaks []
  return match chomping with
    | .strip => (text, cursor)
    | .clip => (text ++ last, cursor)
    | .keep => (text ++ last ++ trailing, cursor)

end Egress.Yaml
