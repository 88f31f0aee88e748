import DeviceTypings.Yaml.Scalar
import DeviceTypings.Yaml.Token

namespace DeviceTypings.Yaml

/-!
# From text to tokens

The lexer keeps the open indentations and, for each level of flow collections,
the last token that may turn out to be a key. When a colon shows that it is
one, the tokens that announce a key are put before it. A key of this kind has
at most 1024 characters on one line. Where the text cannot be read on, the
tokens up to there still count, since they can have an error of their own.
-/

/-- A place where a key may have started. `required` says that nothing but a
key can stand there. -/
structure PossibleKey where
  position : Nat
  required : Bool
  index : Nat
  line : Nat
  column : Nat

structure Lexer where
  cursor : Cursor
  tokens : Array Token := #[]
  flowLevel : Nat := 0
  indent : Int := -1
  outer : List Int := []
  /-- Whether a key may start at the next token. -/
  allowsKey : Bool := true
  keys : List (Nat × PossibleKey) := []

namespace Lexer

def inFlow (l : Lexer) : Bool := l.flowLevel != 0

def push (l : Lexer) (t : Token) : Lexer := { l with tokens := l.tokens.push t }

def insertAt (l : Lexer) (position : Nat) (t : Token) : Lexer :=
  { l with tokens := l.tokens.take position ++ #[t] ++ l.tokens.drop position }

def key? (l : Lexer) : Option PossibleKey := l.keys.lookup l.flowLevel

def dropKey (l : Lexer) : Lexer := { l with keys := l.keys.filter fun k => k.1 != l.flowLevel }

/-- Gives up the possible key of this level. -/
def discardKey (l : Lexer) : Option Lexer :=
  match l.key? with
  | some k => if k.required then none else some l.dropKey
  | none => some l

def isStale (l : Lexer) (k : PossibleKey) : Bool :=
  k.line != l.cursor.line || 1024 < l.cursor.index - k.index

/-- Gives up the possible keys that cannot be completed any more. -/
def discardStale (l : Lexer) : Option Lexer :=
  if l.keys.any fun k => k.2.required && l.isStale k.2 then none
  else some { l with keys := l.keys.filter fun k => !l.isStale k.2 }

/-- Notes that the next token may be a key. -/
def noteKey (l : Lexer) : Option Lexer :=
  if l.allowsKey then do
    let required := !l.inFlow && l.indent == l.cursor.column
    let l ← l.discardKey
    let c := l.cursor
    let k : PossibleKey := ⟨l.tokens.size, required, c.index, c.line, c.column⟩
    return { l with keys := (l.flowLevel, k) :: l.keys }
  else some l

/-- Closes the block collections that are indented deeper than `column`. -/
def closeBlocks (column : Int) : List Int → Lexer → Lexer
  | [], l => l
  | i :: outer, l =>
      if l.indent ≤ column then l
      else closeBlocks column outer { l with tokens := l.tokens.push .blockEnd, indent := i, outer }

def unwind (l : Lexer) (column : Int) : Lexer :=
  if l.inFlow then l else closeBlocks column l.outer l

/-- Opens a block collection at a column unless one is open there. -/
def openBlock (l : Lexer) (column : Nat) (position : Nat) (start : Token) : Lexer :=
  if l.indent < column then
    { l with indent := column, outer := l.indent :: l.outer }.insertAt position start
  else l

/-- Skips spaces, comments and breaks. A key may start on a new line, save in
flow collections. -/
def toNextToken : Nat → Lexer → Lexer
  | 0, l => l
  | fuel + 1, l =>
      let c := l.cursor.skipSpaces.skipComment
      match c.lineBreak? with
      | none => { l with cursor := c }
      | some (_, c) =>
          toNextToken fuel { l with cursor := c, allowsKey := l.allowsKey || !l.inFlow }

/-- A token that is its own indicator. -/
def indicator (l : Lexer) (width : Nat) (t : Token) : Lexer :=
  { l.push t with cursor := l.cursor.advance width }

def documentMarker (l : Lexer) (t : Token) : Option Lexer := do
  let l ← (l.unwind (-1)).discardKey
  return { l with allowsKey := false }.indicator 3 t

def flowStart (l : Lexer) (t : Token) : Option Lexer := do
  let l ← l.noteKey
  return { l with flowLevel := l.flowLevel + 1, allowsKey := true }.indicator 1 t

/-- Below the outermost level there is no level that could be closed, and what
follows cannot be part of a document. -/
def flowEnd (l : Lexer) (t : Token) : Option Lexer := do
  let l ← l.discardKey
  if l.flowLevel = 0 then none
  return { l with flowLevel := l.flowLevel - 1, allowsKey := false }.indicator 1 t

def flowSeparator (l : Lexer) : Option Lexer := do
  let l ← { l with allowsKey := true }.discardKey
  return l.indicator 1 .separator

def blockItem (l : Lexer) : Option Lexer := do
  if !l.inFlow && !l.allowsKey then none
  let l := if l.inFlow then l else l.openBlock l.cursor.column l.tokens.size .sequenceStart
  let l ← { l with allowsKey := true }.discardKey
  return l.indicator 1 .item

def explicitKey (l : Lexer) : Option Lexer := do
  if !l.inFlow && !l.allowsKey then none
  let l := if l.inFlow then l else l.openBlock l.cursor.column l.tokens.size .mappingStart
  let l ← { l with allowsKey := !l.inFlow }.discardKey
  return l.indicator 1 .key

/-- A colon makes the possible key of this level a key. Without one it stands
for an empty key. -/
def valueMark (l : Lexer) : Option Lexer := do
  match l.key? with
  | some k =>
      let l := l.dropKey.insertAt k.position .key
      let l := if l.inFlow then l else l.openBlock k.column k.position .mappingStart
      return { l with allowsKey := false }.indicator 1 .value
  | none =>
      if !l.inFlow && !l.allowsKey then none
      let l := if l.inFlow then l else l.openBlock l.cursor.column l.tokens.size .mappingStart
      let l ← { l with allowsKey := !l.inFlow }.discardKey
      return l.indicator 1 .value

/-- A part of a node that is read by `read`. -/
def part (l : Lexer) (read : Cursor → Except Misread (Token × Cursor)) : Except Misread Lexer := do
  let l ← Misread.require l.noteKey
  let (t, cursor) ← read l.cursor
  return { l.push t with cursor, allowsKey := false }

def part? (l : Lexer) (read : Cursor → Option (Token × Cursor)) : Except Misread Lexer :=
  l.part fun c => Misread.require (read c)

def afterName (c : CodePoint) : Bool :=
  isSeparator c || c == '?' || c == ':' || c == ',' || c == ']' || c == '\x7d' || c == '%' ||
    c == '@' || c == '\x60'

/-- The name of an anchor or alias, after its indicator. -/
def nodeName? (make : Text → Token) (c : Cursor) : Option (Token × Cursor) :=
  let (name, c) := c.next.span isNameChar
  if name.isEmpty || !afterName c.peek then none else some (make (Text.ofList name), c)

def isUriChar (c : CodePoint) : Bool :=
  c.isAlphanum || (Text.toList "-;/?:@&=+$,_.!~*'()[]").contains c

/-- The octets of escapes that follow each other. -/
def escapedOctets? : Nat → Cursor → Option (List UInt8 × Cursor)
  | 0, _ => none
  | fuel + 1, c =>
      if c.peek != '%' then some ([], c)
      else do
        let n ← Json.hexNumber? [c.peekAt 1, c.peekAt 2]
        let (octets, c) ← escapedOctets? fuel (c.advance 3)
        return (UInt8.ofNat n :: octets, c)

def uriChars? : Nat → Cursor → Option (List CodePoint × Cursor)
  | 0, _ => none
  | fuel + 1, c =>
      if c.peek == '%' then do
        let (octets, c) ← escapedOctets? c.fuel c
        let text ← String.fromUTF8? ⟨octets.toArray⟩
        let (cs, c) ← uriChars? fuel c
        return (Text.toList text ++ cs, c)
      else if isUriChar c.peek then do
        let (cs, d) ← uriChars? fuel c.next
        return (c.peek :: cs, d)
      else some ([], c)

/-- The part of a tag that names a type. It has at least one character. -/
def uri? (c : Cursor) : Option (Text × Cursor) := do
  let (cs, d) ← uriChars? c.fuel c
  if d.index = c.index then none
  return (Text.ofList cs, d)

/-- A handle: one or two exclamation marks, in the latter case with a name
between them that may be empty. -/
def tagHandle? (c : Cursor) : Option (Text × Cursor) :=
  if c.peek != '!' then none
  else if c.peekAt 1 == ' ' then some ("!", c.next)
  else
    let (name, d) := c.next.span isNameChar
    if d.peek == '!' then some (.ofList ('!' :: (name ++ [.char '!'])), d.next) else none

/-- Whether a handle is followed by a second exclamation mark before any gap. -/
def hasNamedHandle : List CodePoint → Bool
  | [] => false
  | c :: r => if isGap c then false else c == '!' || hasNamedHandle r

def tag? (c : Cursor) : Option (Token × Cursor) := do
  let following := c.peekAt 1
  let (t, c) ←
    if following == '<' then do
      let (suffix, c) ← uri? (c.advance 2)
      if c.peek != '>' then none
      some ((⟨none, suffix⟩ : WrittenTag), c.next)
    else if isSeparator following then some (⟨none, "!"⟩, c.next)
    else if hasNamedHandle c.next.rest then do
      let (handle, c) ← tagHandle? c
      let (suffix, c) ← uri? c
      some (⟨some handle, suffix⟩, c)
    else do
      let (suffix, c) ← uri? c.next
      some (⟨some "!", suffix⟩, c)
  if !isGap c.peek then none
  return (.tag t, c)

def number (c : Cursor) : Except Misread (Nat × Cursor) :=
  let (digits, c) := c.span CodePoint.isDigit
  if digits.isEmpty then .error .invalid
  else if Number.maxDigits < digits.length then .error (.defect (.tooManyDigits digits.length))
  else .ok (Json.digitsValue digits, c)

def version (c : Cursor) : Except Misread (Directive × Cursor) := do
  let (major, c) ← number c.skipSpaces
  if c.peek != '.' then throw .invalid
  let (minor, c) ← number c.next
  if !isGap c.peek then throw .invalid
  return (.version major minor, c)

def tagDirective? (c : Cursor) : Option (Directive × Cursor) := do
  let (handle, c) ← tagHandle? c.skipSpaces
  if c.peek != ' ' then none
  let (expansion, c) ← uri? c.skipSpaces
  if !isGap c.peek then none
  return (.tag handle expansion, c)

def directive (c : Cursor) : Except Misread (Directive × Cursor) := do
  let (name, c) := c.next.span isNameChar
  if name.isEmpty || !isGap c.peek then throw .invalid
  let (d, c) ←
    if isOneOf ["YAML"] name then version c
    else if isOneOf ["TAG"] name then Misread.require (tagDirective? c)
    else pure (.reserved, c.skip (!isBreakOrEnd ·))
  let c ← Misread.require c.endOfLine?
  return (d, c)

def directiveToken (l : Lexer) : Except Misread Lexer := do
  let l ← Misread.require (l.unwind (-1)).discardKey
  let (d, cursor) ← directive l.cursor
  return { l.push (.directive d) with cursor, allowsKey := false }

def blockScalar (l : Lexer) (folded : Bool) : Option Lexer := do
  let l ← { l with allowsKey := true }.discardKey
  let (text, cursor) ← block? folded l.indent l.cursor.next
  return { l.push (.scalar (.ofList text) false) with cursor }

def quotedScalar (l : Lexer) : Except Misread Lexer :=
  l.part fun c => do
    let (text, d) ← quoted c.peek c.next
    return (.scalar (.ofList text) false, d)

/-- After plain text a key may start if the text ended with a line break. -/
def plainScalar (l : Lexer) : Option Lexer := do
  let l ← l.noteKey
  let (text, broken, cursor) := plain l.inFlow (l.indent + 1) l.cursor.fuel l.cursor
  return { l.push (.scalar (.ofList text) true) with cursor, allowsKey := broken }

def isIndicator (c : CodePoint) : Bool := (Text.toList "-?:,[]\x7b\x7d#&*!|>'\"%@\x60").contains c

/-- Whether plain text can start here. Three indicators may start it if no gap
follows, two of them only outside of flow collections. -/
def startsPlain (l : Lexer) : Bool :=
  let c := l.cursor.peek
  (!isSeparator c && !isIndicator c) ||
    (!isSeparator (l.cursor.peekAt 1) && (c == '-' || (!l.inFlow && (c == '?' || c == ':'))))

/-- Reads a token that is no part of a node, or plain text or a block. -/
def otherToken? (l : Lexer) : Option Lexer :=
  let c := l.cursor
  let gapFollows := isSeparator (c.peekAt 1)
  let marker (word : List CodePoint) :=
    c.column = 0 && c.startsWith word && isSeparator (c.peekAt 3)
  if marker ['-', '-', '-'] then l.documentMarker .documentStart
  else if marker ['.', '.', '.'] then l.documentMarker .documentEnd
  else if c.peek == '[' then l.flowStart .flowSequenceStart
  else if c.peek == '\x7b' then l.flowStart .flowMappingStart
  else if c.peek == ']' then l.flowEnd .flowSequenceEnd
  else if c.peek == '\x7d' then l.flowEnd .flowMappingEnd
  else if c.peek == ',' then l.flowSeparator
  else if c.peek == '-' && gapFollows then l.blockItem
  else if c.peek == '?' && (l.inFlow || gapFollows) then l.explicitKey
  else if c.peek == ':' && (l.inFlow || gapFollows) then l.valueMark
  else if c.peek == '|' && !l.inFlow then l.blockScalar false
  else if c.peek == '>' && !l.inFlow then l.blockScalar true
  else if l.startsPlain then l.plainScalar
  else none

/-- Reads one token, which does not start with a gap and is not the end. -/
def token (l : Lexer) : Except Misread Lexer :=
  let c := l.cursor
  if c.peek == '%' && c.column = 0 then l.directiveToken
  else if c.peek == '*' then l.part? (nodeName? .reference)
  else if c.peek == '&' then l.part? (nodeName? .anchor)
  else if c.peek == '!' then l.part? tag?
  else if c.peek == '\'' || c.peek == '"' then l.quotedScalar
  else Misread.require l.otherToken?

/-- Reads one more token, unless the truth value says that the text ends. -/
def next (l : Lexer) : Except Misread (Bool × Lexer) := do
  let l ← Misread.require (toNextToken l.cursor.fuel l).discardStale
  let l := l.unwind l.cursor.column
  if l.cursor.peek == '\x00' then
    let l ← Misread.require (l.unwind (-1)).discardKey
    return (true, l)
  else
    let l ← l.token
    return (false, l)

/-- How many tokens are certain to stay: those before the first possible key. -/
def settled (l : Lexer) : Nat :=
  (l.keys.filter fun k => !l.isStale k.2).foldl (fun n k => min n k.2.position) l.tokens.size

end Lexer

/-- The tokens of a text. If the text cannot be read to its end, these are the
ones before that place, and `ending` tells what is wrong there. -/
structure Stream where
  tokens : List Token
  ending : Option Misread := none

/-- Reads tokens up to the end of the text. -/
def Lexer.run : Nat → Lexer → Stream
  | 0, _ => { tokens := [], ending := some .invalid }
  | fuel + 1, l =>
      match l.next with
      | .ok (true, l) => { tokens := l.tokens.toList }
      | .ok (false, l) => l.run fuel
      | .error e => { tokens := l.tokens.toList.take l.settled, ending := some e }

/-- The tokens of a text. A byte order mark may come first. -/
def Stream.ofText (s : Text) : Stream :=
  if s.toList.all isAllowed then
    let c : Cursor := { rest := s.toList }
    let c := if c.peek == '\ufeff' then c.next else c
    Lexer.run (c.fuel + 1) { cursor := c }
  else { tokens := [], ending := some .invalid }

end DeviceTypings.Yaml
