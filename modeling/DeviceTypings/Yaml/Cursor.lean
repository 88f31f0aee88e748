import DeviceTypings.Text.Basic

namespace DeviceTypings.Yaml

/-!
# Reading positions

A cursor is what is left of a text, with the place that has been reached. The
end reads as NUL, a character that no text holds. Carriage returns do not occur
either, since they are read as line feeds.
-/

def isBreak (c : CodePoint) : Bool := c == '\n' || c == '\u0085' || c == '\u2028' || c == '\u2029'

def isBreakOrEnd (c : CodePoint) : Bool := isBreak c || c == '\x00'

def isSpaceOrTab (c : CodePoint) : Bool := c == ' ' || c == '\t'

/-- A space, a break or the end. -/
def isGap (c : CodePoint) : Bool := isBreakOrEnd c || c == ' '

/-- A gap or a tab. -/
def isSeparator (c : CodePoint) : Bool := isGap c || c == '\t'

/-- The characters of anchors and of the names of directives. -/
def isNameChar (c : CodePoint) : Bool := c.isAlphanum || c == '-' || c == '_'

def isHexDigit (c : CodePoint) : Bool :=
  c.isDigit || ('a' ≤ c && c ≤ 'f') || ('A' ≤ c && c ≤ 'F')

/-- What a text may hold: no control characters save tabs and breaks, no surrogates, and none
of the two last code points of the first plane. -/
def isAllowed (c : CodePoint) : Bool :=
  c == '\t' || c == '\n' || c == '\u0085' || ('\x20' ≤ c && c ≤ '\x7e') ||
    ('\u00a0' ≤ c && c ≤ '\ufffd' && !c.isSurrogate) || 0x10000 ≤ c.toNat

/-- Whether code points spell one of some words. -/
def isOneOf (words : List Text) (s : List CodePoint) : Bool := words.contains (.ofList s)

structure Cursor where
  rest : List CodePoint
  index : Nat := 0
  line : Nat := 0
  column : Nat := 0

namespace Cursor

def peek (c : Cursor) : CodePoint := c.rest.headD '\x00'

def peekAt (c : Cursor) (n : Nat) : CodePoint := c.rest.getD n '\x00'

/-- One character further. A byte order mark takes no column. -/
def next (c : Cursor) : Cursor :=
  match c.rest with
  | [] => c
  | ch :: rest =>
      if isBreak ch then { rest, index := c.index + 1, line := c.line + 1, column := 0 }
      else if ch == '\ufeff' then { c with rest, index := c.index + 1 }
      else { c with rest, index := c.index + 1, column := c.column + 1 }

def advance (c : Cursor) : Nat → Cursor
  | 0 => c
  | n + 1 => c.next.advance n

def fuel (c : Cursor) : Nat := c.rest.length + 1

/-- The characters that satisfy `p`, and the place after them. -/
def span (c : Cursor) (p : CodePoint → Bool) : List CodePoint × Cursor :=
  let cs := c.rest.takeWhile p
  (cs, c.advance cs.length)

def skip (c : Cursor) (p : CodePoint → Bool) : Cursor := (c.span p).2

def skipSpaces (c : Cursor) : Cursor := c.skip (· == ' ')

/-- Skips a comment if there is one. -/
def skipComment (c : Cursor) : Cursor :=
  if c.peek == '#' then c.skip (!isBreakOrEnd ·) else c

/-- A line break. The break of a next line counts as a line feed. -/
def lineBreak? (c : Cursor) : Option (CodePoint × Cursor) :=
  if isBreak c.peek then some (if c.peek == '\u0085' then '\n' else c.peek, c.next) else none

def skipBreak (c : Cursor) : Cursor := if isBreak c.peek then c.next else c

def startsWith (c : Cursor) (word : List CodePoint) : Bool := word.isPrefixOf c.rest

/-- Whether a line starts here that ends a document or starts another. -/
def atMarker (c : Cursor) : Bool :=
  (c.startsWith ['-', '-', '-'] || c.startsWith ['.', '.', '.']) && isSeparator (c.peekAt 3)

/-- The rest of a line that may hold a comment and nothing else. -/
def endOfLine? (c : Cursor) : Option Cursor :=
  let c := c.skipSpaces.skipComment
  if isBreakOrEnd c.peek then some c.skipBreak else none

end Cursor

end DeviceTypings.Yaml
