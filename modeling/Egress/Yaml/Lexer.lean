import Egress.Yaml.ScalarText
import Egress.Yaml.Token

/-!
# From text to tokens

The lexer keeps the indentation of the open block collections, closes those that a line has left,
and opens new ones at dashes, question marks and keys.

That something is a key shows only at the colon behind it.  So the lexer remembers, for each level
of flow collections, where a key could have begun; at a colon it puts the key there, together with
the start of a mapping if the key is indented deeper than the open collections.  Such a candidate
ends with its line.  Where a block mapping leaves no choice the candidate is required, and a text in
which it does not become a key is refused.
-/

namespace Egress.Yaml

/-- A place where a key may have begun. -/
structure Candidate where
  /-- How many tokens stood before it. -/
  position : Nat
  required : Bool
  index : Nat
  line : Nat
  column : Nat
  deriving Inhabited

structure Lexer where
  cursor : Cursor
  /-- How many flow collections are open. -/
  flow : Nat
  /-- The indentation of the innermost block collection, and of those around it. -/
  indent : Int
  outer : List Int
  /-- Whether a key may begin here. -/
  keyAllowed : Bool
  /-- The candidate at each level of flow collections. -/
  candidates : List (Nat × Candidate)
  tokens : Array Token
  deriving Inhabited

namespace Lexer

def ofText (text : List Char) : Lexer := ⟨.ofText text, 0, -1, [], true, [], #[]⟩

def emit (lexer : Lexer) (token : Token) : Lexer :=
  { lexer with tokens := lexer.tokens.push token }

def inFlow (lexer : Lexer) : Bool := lexer.flow != 0

def column (lexer : Lexer) : Int := lexer.cursor.column

/-- A key can be this long at most. -/
def keyLength : Nat := 1024

/-- Drop candidates that have ended; a required one must not. -/
def dropStale (lexer : Lexer) : Option Lexer :=
  let stale := fun (_, candidate) =>
    candidate.line != lexer.cursor.line || lexer.cursor.index - candidate.index > keyLength
  if lexer.candidates.any fun entry => stale entry && entry.2.required then none
  else some { lexer with candidates := lexer.candidates.filter fun entry => !stale entry }

/-- Drop the candidate of this level; a required one must become a key. -/
def dropCandidate (lexer : Lexer) : Option Lexer :=
  match lexer.candidates.lookup lexer.flow with
  | some candidate =>
    if candidate.required then none
    else some { lexer with
      candidates := lexer.candidates.filter fun entry => entry.1 != lexer.flow }
  | none => some lexer

/-- Remember that a key may begin here. -/
def noteCandidate (lexer : Lexer) : Option Lexer :=
  if lexer.keyAllowed then do
    let lexer ← lexer.dropCandidate
    let candidate : Candidate := {
      position := lexer.tokens.size
      required := !lexer.inFlow && lexer.indent == lexer.column
      index := lexer.cursor.index
      line := lexer.cursor.line
      column := lexer.cursor.column }
    return { lexer with candidates := (lexer.flow, candidate) :: lexer.candidates }
  else some lexer

/-- Close the block collections indented deeper than a column, innermost first. -/
def closeTo (column : Int) : List Int → Lexer → Lexer
  | [], lexer => lexer
  | indent :: outer, lexer =>
    if column < lexer.indent then
      closeTo column outer { lexer.emit .blockEnd with indent, outer }
    else lexer

def unwind (lexer : Lexer) (column : Int) : Lexer :=
  if lexer.inFlow then lexer else closeTo column lexer.outer lexer

/-- Open a block collection at a column, unless one is open there already. -/
def openAt (lexer : Lexer) (column : Int) : Lexer × Bool :=
  if lexer.indent < column then
    ({ lexer with indent := column, outer := lexer.indent :: lexer.outer }, true)
  else (lexer, false)

def forward (lexer : Lexer) (count : Nat) : Lexer :=
  { lexer with cursor := lexer.cursor.skip count }

def allowKey (lexer : Lexer) (allowed : Bool) : Lexer := { lexer with keyAllowed := allowed }

/-- Past blanks, comments and line breaks.  A new line of a block may begin with a key. -/
def skipGap (turns : Nat) (lexer : Lexer) : Lexer :=
  match turns with
  | 0 => lexer
  | turns + 1 =>
    let cursor := lexer.cursor.dropWhile (· == ' ')
    let cursor := if cursor.peek == '#' then cursor.dropWhile (!isBreak ·) else cursor
    if isBreak cursor.peek then
      skipGap turns { lexer with
        cursor := cursor.lineBreak.2, keyAllowed := lexer.keyAllowed || !lexer.inFlow }
    else { lexer with cursor }

/-! ## Names and tags -/

/-- The name after an ampersand or an asterisk. -/
def anchorName (cursor : Cursor) : Option (String × Cursor) :=
  let (name, cursor) := cursor.next.takeWhile isWord
  if name.isEmpty then none
  else if isBlankOrEnd cursor.peek || "?:,]\x7d%@\x60".contains cursor.peek then
    some (String.ofList name, cursor)
  else none

/-- A handle of a tag: an exclamation mark, alone or with a name and another one. -/
def tagHandle (cursor : Cursor) : Option (String × Cursor) :=
  if cursor.peek != '!' then none
  else
    let after := cursor.next
    if after.peek == ' ' then some ("!", after)
    else
      let (name, after) := after.takeWhile isWord
      if after.peek == '!' then some ("!" ++ String.ofList name ++ "!", after.next) else none

def isUri (char : Char) : Bool :=
  char.isAlphanum || "-;/?:@&=+$,_.!~*'()[]".contains char

/-- The bytes that a run of percent signs stands for. -/
def uriBytes (turns : Nat) (cursor : Cursor) (bytes : List UInt8) : Option (List UInt8 × Cursor) :=
  match turns with
  | 0 => none
  | turns + 1 =>
    if cursor.peek == '%' then do
      let digits := cursor.next.rest.take 2
      if digits.length < 2 then none
      else
        let code ← hexNumber? digits
        uriBytes turns (cursor.skip 3) (bytes ++ [UInt8.ofNat code])
    else some (bytes, cursor)

def uriText (turns : Nat) (cursor : Cursor) (text : String) : Option (String × Cursor) :=
  match turns with
  | 0 => none
  | turns + 1 =>
    if isUri cursor.peek then uriText turns cursor.next (text.push cursor.peek)
    else if cursor.peek == '%' then do
      let (bytes, cursor) ← uriBytes (cursor.size + 1) cursor []
      let piece ← String.fromUTF8? ⟨bytes.toArray⟩
      uriText turns cursor (text ++ piece)
    else some (text, cursor)

/-- The part of a tag behind its handle; it is not empty. -/
def tagUri (cursor : Cursor) : Option (String × Cursor) := do
  let (text, after) ← uriText (cursor.size + 1) cursor ""
  if after.index == cursor.index then none else return (text, after)

/-- Whether an exclamation mark comes before the next space or line break. -/
def hasHandle (cursor : Cursor) : Bool :=
  (cursor.rest.takeWhile fun char => char != ' ' && !isBreak char).contains '!'

def tagToken (cursor : Cursor) : Option (Token × Cursor) := do
  let after := cursor.next
  let (token, after) ←
    if after.peek == '<' then do
      let (suffix, after) ← tagUri after.next
      if after.peek == '>' then some (Token.tag none suffix, after.next) else none
    else if isBlankOrEnd after.peek then some (Token.tag none "!", after)
    else if hasHandle after then do
      let (handle, after) ← tagHandle cursor
      let (suffix, after) ← tagUri after
      pure (Token.tag (some handle) suffix, after)
    else do
      let (suffix, after) ← tagUri after
      pure (Token.tag (some "!") suffix, after)
  if after.peek == ' ' || isBreakOrEnd after.peek then return (token, after) else none

/-! ## Directives -/

def spaces (cursor : Cursor) : Cursor := cursor.dropWhile (· == ' ')

/-- A number of a version. -/
def versionNumber (cursor : Cursor) : Option (Nat × Cursor) :=
  let (digits, after) := cursor.takeWhile Char.isDigit
  if digits.isEmpty then none
  else some (digits.foldl (fun sum char => 10 * sum + (char.toNat - '0'.toNat)) 0, after)

def directive (cursor : Cursor) : Option (Token × Cursor) := do
  let (name, cursor) := cursor.next.takeWhile isWord
  if name.isEmpty || !(cursor.peek == ' ' || isBreakOrEnd cursor.peek) then none
  else
    let (token, cursor) ←
      if name == "YAML".toList then do
        let (major, cursor) ← versionNumber (spaces cursor)
        if cursor.peek != '.' then none
        else
          let (_, cursor) ← versionNumber cursor.next
          if cursor.peek == ' ' || isBreakOrEnd cursor.peek then
            some (Token.version major, cursor)
          else none
      else if name == "TAG".toList then do
        let (handle, cursor) ← tagHandle (spaces cursor)
        if cursor.peek != ' ' then none
        else
          let (lead, cursor) ← tagUri (spaces cursor)
          if cursor.peek == ' ' || isBreakOrEnd cursor.peek then
            some (Token.tagShorthand handle lead, cursor)
          else none
      else some (Token.otherDirective, cursor.dropWhile (!isBreak ·))
    let cursor ← cursor.endLine?
    return (token, cursor)

/-! ## One token at a time -/

/-- A mark between documents, or a directive: all block collections end before it. -/
def topLevel (lexer : Lexer) : Option Lexer := do
  let lexer ← (lexer.unwind (-1)).dropCandidate
  return lexer.allowKey false

def openFlow (lexer : Lexer) (token : Token) : Option Lexer := do
  let lexer ← lexer.noteCandidate
  return ({ lexer with flow := lexer.flow + 1, keyAllowed := true }.emit token).forward 1

def closeFlow (lexer : Lexer) (token : Token) : Option Lexer := do
  let lexer ← lexer.dropCandidate
  if lexer.flow = 0 then none
  else return ({ lexer with flow := lexer.flow - 1, keyAllowed := false }.emit token).forward 1

/-- A token that may begin a key, ending at a cursor. -/
def piece (lexer : Lexer) (token : Token) (cursor : Cursor) : Option Lexer := do
  let lexer ← lexer.noteCandidate
  return { (lexer.allowKey false).emit token with cursor }

/-- A dash or a question mark in a block opens a collection where none is open. -/
def openBlock (lexer : Lexer) (token : Token) : Option Lexer :=
  if lexer.inFlow then some lexer
  else if lexer.keyAllowed then
    let (lexer, opened) := lexer.openAt lexer.column
    some (if opened then lexer.emit token else lexer)
  else none

def blockEntry (lexer : Lexer) : Option Lexer := do
  let lexer ← lexer.openBlock .blockSequence
  let lexer ← (lexer.allowKey true).dropCandidate
  return (lexer.emit .blockEntry).forward 1

def keyMark (lexer : Lexer) : Option Lexer := do
  let lexer ← lexer.openBlock .blockMapping
  let lexer ← (lexer.allowKey (!lexer.inFlow)).dropCandidate
  return (lexer.emit .key).forward 1

/-- Turn a candidate into a key. -/
def promote (lexer : Lexer) (candidate : Candidate) : Lexer :=
  let lexer := { lexer with
    candidates := lexer.candidates.filter fun entry => entry.1 != lexer.flow
    tokens := lexer.tokens.insertIdxIfInBounds candidate.position .key
    keyAllowed := false }
  if lexer.inFlow then lexer
  else
    let (lexer, opened) := lexer.openAt candidate.column
    if opened then
      { lexer with tokens := lexer.tokens.insertIdxIfInBounds candidate.position .blockMapping }
    else lexer

def valueMark (lexer : Lexer) : Option Lexer := do
  let lexer ← match lexer.candidates.lookup lexer.flow with
    | some candidate => some (lexer.promote candidate)
    | none => do
      let lexer ← lexer.openBlock .blockMapping
      (lexer.allowKey (!lexer.inFlow)).dropCandidate
  return (lexer.emit .value).forward 1

/-- Whether a dash, a question mark or a colon stands alone here. -/
def standsAlone (lexer : Lexer) : Bool := isBlankOrEnd (lexer.cursor.peekAt 1)

/-- Whether a plain scalar can begin here. -/
def beginsPlain (lexer : Lexer) : Bool :=
  let char := lexer.cursor.peek
  !(isBlankOrEnd char || "-?:,[]\x7b\x7d#&*!|>'\"%@\x60".contains char) ||
    (!lexer.standsAlone && (char == '-' || (!lexer.inFlow && (char == '?' || char == ':'))))

/-- The token that begins at the cursor, other than a scalar in quotation marks. -/
def unquoted (lexer : Lexer) : Option Lexer :=
  let cursor := lexer.cursor
  let char := cursor.peek
  let atStart := cursor.column == 0
  if char == '%' && atStart then do
    let lexer ← lexer.topLevel
    let (token, cursor) ← directive lexer.cursor
    return { lexer.emit token with cursor }
  else if atStart && cursor.atMark '-' then do
    return ((← lexer.topLevel).emit .documentStart).forward 3
  else if atStart && cursor.atMark '.' then do
    return ((← lexer.topLevel).emit .documentEnd).forward 3
  else if char == '[' then lexer.openFlow .flowSequence
  else if char == '\x7b' then lexer.openFlow .flowMapping
  else if char == ']' then lexer.closeFlow .flowSequenceEnd
  else if char == '\x7d' then lexer.closeFlow .flowMappingEnd
  else if char == ',' then do
    let lexer ← (lexer.allowKey true).dropCandidate
    return (lexer.emit .flowEntry).forward 1
  else if char == '-' && lexer.standsAlone then lexer.blockEntry
  else if char == '?' && (lexer.inFlow || lexer.standsAlone) then lexer.keyMark
  else if char == ':' && (lexer.inFlow || lexer.standsAlone) then lexer.valueMark
  else if char == '*' then do
    let (name, after) ← anchorName cursor
    lexer.piece (.alias name) after
  else if char == '&' then do
    let (name, after) ← anchorName cursor
    lexer.piece (.anchor name) after
  else if char == '!' then do
    let (token, after) ← tagToken cursor
    lexer.piece token after
  else if (char == '|' || char == '>') && !lexer.inFlow then do
    let lexer ← (lexer.allowKey true).dropCandidate
    let (text, after) ← blockScalar lexer.indent cursor
    return { lexer.emit (.scalar (String.ofList text) false) with cursor := after }
  else if lexer.beginsPlain then do
    let (text, overLine, after) := plainScalar lexer.inFlow (lexer.indent + 1) cursor
    let lexer ← lexer.piece (.scalar (String.ofList text) true) after
    return lexer.allowKey overLine
  else none

/-- The token that begins at the cursor. -/
def token (lexer : Lexer) : Scan Lexer := do
  let char := lexer.cursor.peek
  if char == '\'' || char == '"' then
    let (text, after) ← quotedScalar lexer.cursor
    Scan.ofOption (lexer.piece (.scalar (String.ofList text) false) after)
  else Scan.ofOption lexer.unquoted

/-- The tokens up to a flaw.  A token that could still turn out to be a key is not read before it is
clear what it is, so the flaw comes before it. -/
def breakOff (lexer : Lexer) (flaw : TextFlaw) : List Token :=
  let clear := lexer.candidates.foldl (fun least entry => min least entry.2.position)
    lexer.tokens.size
  lexer.tokens.toList.take clear ++ [.broken flaw]

/-- Where the next token begins, with the block collections before it closed. -/
def nextStart (lexer : Lexer) : Scan Lexer := do
  let lexer ← Scan.ofOption (lexer.skipGap (lexer.cursor.size + 1)).dropStale
  return lexer.unwind lexer.column

/-- Read tokens to the end of the text, or up to a flaw. -/
def run (turns : Nat) (lexer : Lexer) : List Token :=
  match turns with
  | 0 => lexer.breakOff .malformed
  | turns + 1 =>
    match lexer.nextStart with
    | .error flaw => lexer.breakOff flaw
    | .ok lexer =>
      if lexer.cursor.peek == finish then
        match (lexer.unwind (-1)).dropCandidate with
        | none => lexer.breakOff .malformed
        | some lexer => (lexer.emit .finish).tokens.toList
      else
        match lexer.token with
        | .error flaw => lexer.breakOff flaw
        | .ok lexer => run turns lexer

end Lexer

/-- The tokens of a text. -/
def tokens (text : String) : List Token :=
  let chars := text.toList
  if chars.all isPrintable then
    let chars := unifyLines chars
    let lexer := Lexer.ofText chars
    let lexer := if chars.head? = some '\uFEFF' then lexer.forward 1 else lexer
    lexer.run (chars.length + 1)
  else [.broken .malformed]

end Egress.Yaml
