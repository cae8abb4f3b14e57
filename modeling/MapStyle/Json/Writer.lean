import MapStyle.Fault
import MapStyle.Number.Shortest
import MapStyle.Value.Basic

/-!
# Writing JSON

Plain data is written on one line, or with every item on a line of its own under an
indent.  Characters are written as they are, except quotes, backslashes and controls.  Neither an
object of the library nor an integer with too many digits can be written; the first one in document
order is reported.  The live record of a layer is met only where it stands within itself, since all
others are resolved before.

* `Json.writeChars` writes a text between quotes.
* `Json.write` writes a value, `Json.writeText` does so for a given indent.
-/

namespace MapStyle.Json

/-! ## Texts -/

/-- The letter that stands for a control character after a backslash. -/
def controlLetter? (c : Char) : Option Char :=
  if c = '\n' then some 'n'
  else if c = '\r' then some 'r'
  else if c = '\t' then some 't'
  else if c = '\x0c' then some 'f'
  else if c = '\x08' then some 'b'
  else none

/-- One character inside quotes. -/
def writeChar (c : Char) : List Char :=
  if c = '\x22' ∨ c = '\\' then ['\\', c]
  else
    match controlLetter? c with
    | some letter => ['\\', letter]
    | none => if c.toNat < 0x20 then '\\' :: 'u' :: Text.hex 4 c.toNat else [c]

def writeChars (s : List Char) : List Char :=
  '\x22' :: (s.flatMap writeChar ++ ['\x22'])

/-- A text between quotes in which half of a character may stand alone. -/
def writeSymbols (symbols : List Text.Symbol) : List Char :=
  '\x22' :: (Text.showSymbols writeChar symbols ++ ['\x22'])

/-! ## Numbers -/

/-- An integer, unless it has too many digits. -/
def writeInteger (n : Int) : Except WriteProblem (List Char) :=
  if (decimalDigits n.natAbs).length ≤ Text.integerDigitLimit then .ok (integerDigits n)
  else .error .oversizedInteger

/-- A double as JSON has it: the infinities and nothing are spelled out. -/
def writeFloat : Binary64 → List Char
  | .nan _ => "NaN".toList
  | .infinite s => (if s then ['-'] else []) ++ "Infinity".toList
  | x => x.chars

def writeBool (b : Bool) : List Char := if b then "true".toList else "false".toList

/-! ## Values -/

/-- What stands before each item at a depth: nothing, or a new line and the indent. -/
def lineBreak (indent depth : Nat) : List Char :=
  if indent = 0 then [] else '\n' :: List.replicate (indent * depth) ' '

/-- What stands between two items at a depth. -/
def separator (indent depth : Nat) : List Char :=
  if indent = 0 then [',', ' '] else ',' :: lineBreak indent depth

/-- A key between quotes. -/
def writeKey : Value → Except WriteProblem (List Char)
  | .str s => .ok (writeChars s.toList)
  | .broken symbols => .ok (writeSymbols symbols)
  | .int n => (writeInteger n).map writeChars
  | .float x => .ok (writeChars (writeFloat x))
  | .bool b => .ok (writeChars (writeBool b))
  | .null => .ok (writeChars "null".toList)
  | other => .error (.badKey other.kindName)

mutual

def write (indent depth : Nat) : Value → Except WriteProblem (List Char)
  | .null => .ok "null".toList
  | .bool b => .ok (writeBool b)
  | .int n => writeInteger n
  | .float x => .ok (writeFloat x)
  | .str s => .ok (writeChars s.toList)
  | .broken symbols => .ok (writeSymbols symbols)
  | .list [] | .tuple [] => .ok ['[', ']']
  | .list (item :: items) | .tuple (item :: items) => do
    let inner ← writeItems indent (depth + 1) (item :: items)
    return '[' :: (lineBreak indent (depth + 1) ++ inner ++ lineBreak indent depth ++ [']'])
  | .map [] => .ok ['\x7b', '\x7d']
  | .map (entry :: entries) => do
    let inner ← writeEntries indent (depth + 1) (entry :: entries)
    return '\x7b' :: (lineBreak indent (depth + 1) ++ inner ++ lineBreak indent depth ++ ['\x7d'])
  | .record _ => .error .circular
  | other => .error (.unwritable other.kindName)

/-- The items of a list, with separators between them. -/
def writeItems (indent depth : Nat) : List Value → Except WriteProblem (List Char)
  | [] => .ok []
  | [item] => write indent depth item
  | item :: items => do
    let first ← write indent depth item
    let others ← writeItems indent depth items
    return first ++ separator indent depth ++ others

def writeEntries (indent depth : Nat) : List (Value × Value) → Except WriteProblem (List Char)
  | [] => .ok []
  | (key, value) :: entries => do
    let name ← writeKey key
    let first ← write indent depth value
    let head := name ++ [':', ' '] ++ first
    match entries with
    | [] => return head
    | _ :: _ => do
      let others ← writeEntries indent depth entries
      return head ++ separator indent depth ++ others

end

/-- The widest text that can be. -/
def greatestWidth : Int := Nat.pow 2 63 - 1

/-- What becomes of an indent that is too wide. -/
def indentFault? (indent : Int) : Option Fault :=
  if greatestWidth < indent then some .oversizedIndent else none

/-- A value as JSON text.  An indent of zero or less gives one line; a text needs none. -/
def writeText (value : Value) (indent : Int) : Except Fault String :=
  match value, indentFault? indent with
  | .str s, _ => .ok (String.ofList (writeChars s.toList))
  | .broken symbols, _ => .ok (String.ofList (writeSymbols symbols))
  | _, some fault => .error fault
  | value, none =>
    match write indent.toNat 0 value with
    | .ok chars => .ok (String.ofList chars)
    | .error problem => .error (.unserializable problem)

end MapStyle.Json
