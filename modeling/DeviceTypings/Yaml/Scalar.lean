import DeviceTypings.Json.Token
import DeviceTypings.Value.Misread
import DeviceTypings.Yaml.Cursor

namespace DeviceTypings.Yaml

/-!
# Scalars

The text of quoted, plain and block scalars. In all but literal blocks a line
break between two lines is a space, and further breaks after it are kept.
-/

open Json (hexNumber?)

/-- How a break joins the lines around it, `breaks` being those of the empty
lines that follow. -/
def foldBreak (br : CodePoint) (breaks : List CodePoint) : List CodePoint :=
  if br != '\n' then br :: breaks else if breaks.isEmpty then [' '] else breaks

/-- The breaks of empty lines inside quotes. A document must not end there. -/
def quotedBreaks : Nat → Cursor → Option (List CodePoint × Cursor)
  | 0, _ => none
  | fuel + 1, c =>
      if c.atMarker then none
      else
        let c := c.skip isSpaceOrTab
        match c.lineBreak? with
        | none => some ([], c)
        | some (br, c) => do
            let (breaks, c) ← quotedBreaks fuel c
            return (br :: breaks, c)

def namedEscapes : List (CodePoint × CodePoint) :=
  [('0', '\x00'), ('a', '\x07'), ('b', '\x08'), ('t', '\t'), ('\t', '\t'), ('n', '\n'),
   ('v', '\x0b'), ('f', '\x0c'), ('r', '\r'), ('e', '\x1b'), (' ', ' '), ('"', '"'),
   ('\\', '\\'), ('/', '/'), ('N', '\u0085'), ('_', '\u00a0'), ('L', '\u2028'),
   ('P', '\u2029')]

/-- The count of hexadecimal digits that an escape takes. -/
def codeWidth? : CodePoint → Option Nat
  | .char 'x' => some 2
  | .char 'u' => some 4
  | .char 'U' => some 8
  | _ => none

/-- The code point that an escape spells. Two surrogates in a row stay as they are. -/
def codePoint (digits : List CodePoint) : Except Misread CodePoint := do
  let n ← Misread.require (hexNumber? digits)
  if 0x80000000 ≤ n then throw (.defect .codeNumber)
  else if 0x110000 ≤ n then throw (.defect .codePoint)
  else return .ofNat n

/-- The code points that an escape stands for, the cursor being after the
backslash. -/
def escape (c : Cursor) : Except Misread (List CodePoint × Cursor) :=
  match namedEscapes.lookup c.peek with
  | some ch => .ok ([ch], c.next)
  | none =>
      match codeWidth? c.peek with
      | some width => do
          let digits := c.next.rest.take width
          if digits.length != width then throw .invalid
          let n ← codePoint digits
          return ([n], c.next.advance width)
      | none => do
          let (_, d) ← Misread.require c.lineBreak?
          let (breaks, d) ← Misread.require (quotedBreaks d.fuel d)
          return (breaks, d)

/-- The code points up to the closing quote, and the place after that. -/
def quotedPoints (quote : CodePoint) : Nat → Cursor → Except Misread (List CodePoint × Cursor)
  | 0, _ => .error .invalid
  | fuel + 1, c => do
      let ch := c.peek
      if ch == '\x00' then throw .invalid
      else if ch == quote then
        if quote == '\'' && c.peekAt 1 == '\'' then
          let (cs, c) ← quotedPoints quote fuel (c.advance 2)
          return ('\'' :: cs, c)
        else return ([], c.next)
      else if ch == '\\' && quote == '"' then
        let (part, c) ← escape c.next
        let (cs, c) ← quotedPoints quote fuel c
        return (part ++ cs, c)
      else if isSpaceOrTab ch || isBreak ch then
        let (blanks, c) := c.span isSpaceOrTab
        match c.lineBreak? with
        | none =>
            let (cs, c) ← quotedPoints quote fuel c
            return (blanks ++ cs, c)
        | some (br, c) =>
            let (breaks, c) ← Misread.require (quotedBreaks c.fuel c)
            let (cs, c) ← quotedPoints quote fuel c
            return (foldBreak br breaks ++ cs, c)
      else
        let (cs, c) ← quotedPoints quote fuel c.next
        return (ch :: cs, c)

/-- The code points up to the closing quote, and the place after that. -/
def quoted (quote : CodePoint) (c : Cursor) : Except Misread (List CodePoint × Cursor) :=
  quotedPoints quote c.fuel c

def isFlowIndicator (c : CodePoint) : Bool :=
  c == ',' || c == '[' || c == ']' || c == '\x7b' || c == '\x7d'

/-- How many characters of plain text come next. A colon ends it if a gap
follows. Inside flow collections their indicators end it too. -/
def plainLength (inFlow : Bool) : List CodePoint → Nat
  | [] => 0
  | ch :: r =>
      let following := r.headD '\x00'
      if isSeparator ch ||
          (ch == ':' && (isSeparator following || (inFlow && isFlowIndicator following))) ||
          (inFlow && (isFlowIndicator ch || ch == '?')) then 0
      else plainLength inFlow r + 1

/-- The breaks of empty lines between the lines of plain text, or nothing where
the document ends. -/
def plainBreaks : Nat → Cursor → Option (List CodePoint) × Cursor
  | 0, c => (some [], c)
  | fuel + 1, c =>
      let c := c.skipSpaces
      match c.lineBreak? with
      | none => (some [], c)
      | some (br, c) =>
          if c.atMarker then (none, c)
          else
            let (breaks, c) := plainBreaks fuel c
            (breaks.map (br :: ·), c)

/-- The space between two runs of plain text, if the text can go on after it,
and whether it has a line break. -/
def plainGap (c : Cursor) : Option (List CodePoint) × Bool × Cursor :=
  let (blanks, c) := c.span (· == ' ')
  match c.lineBreak? with
  | none => (if blanks.isEmpty then none else some blanks, false, c)
  | some (br, c) =>
      if c.atMarker then (none, true, c)
      else
        let (breaks, c) := plainBreaks c.fuel c
        (breaks.map (foldBreak br), true, c)

/-- Plain text from a cursor on. Its lines are indented by `indent` at least,
unless it stands inside a flow collection. The truth value tells whether a line
break comes last. -/
def plain (inFlow : Bool) (indent : Int) : Nat → Cursor → List CodePoint × Bool × Cursor
  | 0, c => ([], false, c)
  | fuel + 1, c =>
      let n := if c.peek == '#' then 0 else plainLength inFlow c.rest
      let run := c.rest.take n
      let (gap, broken, d) := plainGap (c.advance n)
      match gap with
      | none => (run, broken, d)
      | some gap =>
          let stops := d.peek == '#' || (!inFlow && d.column < indent) ||
            plainLength inFlow d.rest == 0
          if stops then (run, broken, d)
          else
            let (more, broken, d) := plain inFlow indent fuel d
            (run ++ gap ++ more, broken, d)

/-- What is done with the line breaks at the end of a block. -/
inductive Chomping
  | strip
  | clip
  | keep
deriving DecidableEq

def chomping? : CodePoint → Option Chomping
  | .char '+' => some .keep
  | .char '-' => some .strip
  | _ => none

/-- An indentation from one to nine. -/
def increment? (c : CodePoint) : Option Nat :=
  if c.isDigit && c != '0' then some (c.toNat - '0'.toNat) else none

/-- The indicators of a block, in either order, and the rest of their line. -/
def blockHeader? (c : Cursor) : Option (Chomping × Option Nat × Cursor) := do
  let (chomping, increment, c) := match chomping? c.peek with
    | some chomping =>
        match increment? c.next.peek with
        | some n => (chomping, some n, c.advance 2)
        | none => (chomping, none, c.next)
    | none =>
        match increment? c.peek with
        | some n =>
            match chomping? c.next.peek with
            | some chomping => (chomping, some n, c.advance 2)
            | none => (.clip, some n, c.next)
        | none => (.clip, none, c)
  if !isGap c.peek then none
  let c ← c.endOfLine?
  return (chomping, increment, c)

/-- The breaks of the empty lines at the start of a block, and the deepest
indentation that they and the line after them have. -/
def leadingBreaks : Nat → Nat → Cursor → List CodePoint × Nat × Cursor
  | 0, deepest, c => ([], deepest, c)
  | fuel + 1, deepest, c =>
      let c := c.skipSpaces
      let deepest := max deepest c.column
      match c.lineBreak? with
      | none => ([], deepest, c)
      | some (br, c) =>
          let (breaks, deepest, c) := leadingBreaks fuel deepest c
          (br :: breaks, deepest, c)

/-- Skips the indentation of a line, up to `indent` columns. -/
def skipIndent (indent : Nat) : Nat → Cursor → Cursor
  | 0, c => c
  | fuel + 1, c => if c.column < indent && c.peek == ' ' then skipIndent indent fuel c.next else c

/-- The breaks of empty lines in a block, up to a line with text. -/
def blockBreaks (indent : Nat) : Nat → Cursor → List CodePoint × Cursor
  | 0, c => ([], c)
  | fuel + 1, c =>
      let c := skipIndent indent c.fuel c
      match c.lineBreak? with
      | none => ([], c)
      | some (br, c) =>
          let (breaks, c) := blockBreaks indent fuel c
          (br :: breaks, c)

/-- The lines of a block, `breaks` being those of the empty lines before. The
break after the last line and those of empty lines at the end come apart. -/
def blockLines (folded : Bool) (indent : Nat) :
    Nat → List CodePoint → Cursor → List CodePoint × List CodePoint × List CodePoint × Cursor
  | 0, breaks, c => ([], [], breaks, c)
  | fuel + 1, breaks, c =>
      if c.column != indent || c.peek == '\x00' then ([], [], breaks, c)
      else
        let indented := isSpaceOrTab c.peek
        let (text, c) := c.span (!isBreakOrEnd ·)
        let (br, c) := match c.lineBreak? with
          | some (br, c) => ([br], c)
          | none => ([], c)
        let (following, c) := blockBreaks indent c.fuel c
        if c.column != indent || c.peek == '\x00' then (breaks ++ text, br, following, c)
        else
          let joint : List CodePoint :=
            if folded && br == [.char '\n'] && !indented && !isSpaceOrTab c.peek then
              if following.isEmpty then [' '] else []
            else br
          let (more, last, tail, c) := blockLines folded indent fuel following c
          (breaks ++ text ++ joint ++ more, last, tail, c)

/-- A block after its `|` or `>`, inside a collection of the given indentation. -/
def block? (folded : Bool) (parentIndent : Int) (c : Cursor) :
    Option (List CodePoint × Cursor) := do
  let (chomping, increment, c) ← blockHeader? c
  let least := (max (parentIndent + 1) 1).toNat
  let (indent, breaks, c) := match increment with
    | some n =>
        let indent := least + n - 1
        let (breaks, c) := blockBreaks indent c.fuel c
        (indent, breaks, c)
    | none =>
        let (breaks, deepest, c) := leadingBreaks c.fuel 0 c
        (max least deepest, breaks, c)
  let (text, last, tail, c) := blockLines folded indent c.fuel breaks c
  return (text ++ (if chomping = .strip then [] else last) ++
    (if chomping = .keep then tail else []), c)

end DeviceTypings.Yaml
