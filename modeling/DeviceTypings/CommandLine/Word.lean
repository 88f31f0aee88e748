import DeviceTypings.CommandLine.Flag
import DeviceTypings.Value.Text

namespace DeviceTypings.CommandLine

/-!
# Words of the command line

Each word is a flag, a value, or the mark after which every word is a value. A
long flag may be cut short as long as it is the only one that fits. Text can be
attached to a flag: after an equals sign, or right after a short flag.
-/

/-- The text that is attached to a flag, and whether an equals sign comes before
it. -/
structure Attached where
  assigned : Bool
  text : List CodePoint

structure FlagWord where
  flag : Flag
  isShort : Bool
  attached : Option Attached

inductive Word
  | value (s : Text)
  | flag (w : FlagWord)
  | unknown (s : Text)
  /-- Two dashes. -/
  | mark

/-- Why a command line is refused. -/
inductive UsageFault
  | ambiguous (word : Text) (names : List Text)
  | unexpectedText (flag : Flag) (text : List CodePoint)
  | missingValue (flag : Flag)
  | missingSchema
  | unrecognized (words : List Text)
deriving DecidableEq

namespace UsageFault

def message : UsageFault → Text
  | ambiguous word names =>
      "ambiguous option: " ++ word ++ " could match " ++ Text.intercalate ", " names
  | unexpectedText flag text =>
      "argument " ++ flag.title ++ ": ignored explicit argument " ++ Value.quotedText text
  | missingValue flag => "argument " ++ flag.title ++ ": expected one argument"
  | missingSchema => "the following arguments are required: schema"
  | unrecognized words => "unrecognized arguments: " ++ Text.intercalate " " words

end UsageFault

/-- Cuts a text at its first equals sign. -/
def cutAssignment (s : List CodePoint) : List CodePoint × Option Attached :=
  match s.dropWhile (· != CodePoint.char '=') with
  | [] => (s, none)
  | _ :: text => (s.takeWhile (· != CodePoint.char '='), some ⟨true, text⟩)

/-- The names that start with what comes before the equals sign. -/
def longMatches (s : List CodePoint) : List (Text × FlagWord) :=
  let (name, attached) := cutAssignment s
  (Flag.table.filter fun (n, _) => name.isPrefixOf n.toList).map fun (n, f) =>
    (n, ⟨f, false, attached⟩)

/-- The short flag that a word starts with, and the rest of the word. -/
def shortMatches (s : List CodePoint) : List (Text × FlagWord) :=
  (Flag.table.filter fun (n, _) => n == Text.ofList (s.take 2)).map fun (n, f) =>
    (n, ⟨f, true, some ⟨false, s.drop 2⟩⟩)

def isShortName (name : Text) : Bool := name.toList.length == 2

/-- Whether a word with a dash is a number: digits, or a point with digits
after it and perhaps before it. -/
def isNegativeNumber : List CodePoint → Bool
  | .char '-' :: r =>
      match r.dropWhile CodePoint.isDigit with
      | [] => !r.isEmpty
      | .char '.' :: f => !f.isEmpty && f.all CodePoint.isDigit
      | _ => false
  | _ => false

/-- Reads a word before the mark. -/
def Word.of (s : Text) : Except UsageFault Word :=
  let cs := s.toList
  if cs.head? != some (.char '-') || cs.length == 1 then .ok (.value s)
  else match Flag.ofName? s with
    | some f => .ok (.flag ⟨f, isShortName s, none⟩)
    | none =>
        let (name, attached) := cutAssignment cs
        let name := Text.ofList name
        match attached, Flag.ofName? name with
        | some a, some f => .ok (.flag ⟨f, isShortName name, some a⟩)
        | _, _ =>
            let found := if cs[1]? == some (.char '-') then longMatches cs else shortMatches cs
            match found with
            | [(_, w)] => .ok (.flag w)
            | _ :: _ => .error (.ambiguous s (found.map Prod.fst))
            | [] =>
                if isNegativeNumber cs || cs.contains (.char ' ') then .ok (.value s)
                else .ok (.unknown s)

/-- Reads all words. -/
def Word.ofList : List Text → Except UsageFault (List Word)
  | [] => .ok []
  | s :: ss =>
      if s == "--" then .ok (.mark :: ss.map .value)
      else do
        let w ← Word.of s
        let ws ← Word.ofList ss
        return w :: ws

end DeviceTypings.CommandLine
