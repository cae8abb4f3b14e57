/-!
# Style markup

A console line may hold style tags: a bracket, a letter or one of three signs, and text up to the
next bracket.  Backslashes before a tag take its meaning away.

* `Markup.pieces` cuts a line into tags, with the backslashes before them, and the text between.
* `Markup.escape` makes every tag of a text literal.
-/

namespace MapStyle.Markup

/-- A piece of a line: text without tags, or a tag with the backslashes before it. -/
inductive Piece where
  | plain (text : List Char)
  | tag (backslashes : Nat) (body : List Char)
deriving DecidableEq, Repr

def startsTag (c : Char) : Bool := ('a' ≤ c && c ≤ 'z') || c == '#' || c == '/' || c == '@'

/-- The body of a tag up to the bracket that closes it, if no bracket opens before. -/
def bodyEnd? : List Char → Option (List Char × List Char)
  | [] => none
  | c :: rest =>
    if c = ']' then some ([], rest)
    else if c = '[' then none
    else (bodyEnd? rest).map fun found => (c :: found.1, found.2)

/-- The body of the tag that a text starts with, and what follows the tag. -/
def tagAt? : List Char → Option (List Char × List Char)
  | '[' :: c :: rest =>
    if startsTag c then (bodyEnd? rest).map fun found => (c :: found.1, found.2) else none
  | _ => none

/-- Put text before the pieces of a line. -/
def addPlain (text : List Char) : List Piece → List Piece
  | .plain more :: pieces => .plain (text ++ more) :: pieces
  | pieces => .plain text :: pieces

/-- The pieces of a line, found in as many steps as the line has characters. -/
def piecesWithin : Nat → List Char → List Piece
  | 0, _ => []
  | fuel + 1, s =>
    let slashes := s.takeWhile (· == '\\')
    let rest := s.dropWhile (· == '\\')
    match tagAt? rest with
    | some (body, after) => .tag slashes.length body :: piecesWithin fuel after
    | none =>
      match slashes, rest with
      | [], [] => []
      | [], c :: more => addPlain [c] (piecesWithin fuel more)
      | _ :: _, _ => addPlain slashes (piecesWithin fuel rest)

def pieces (s : List Char) : List Piece := piecesWithin (s.length + 1) s

def bracketed (body : List Char) : List Char := '[' :: (body ++ [']'])

def backslashes (n : Nat) : List Char := List.replicate n '\\'

/-- A piece with its tag made literal: the backslashes before it twice, and one more. -/
def Piece.escaped : Piece → List Char
  | .plain text => text
  | .tag n body => backslashes (2 * n + 1) ++ bracketed body

/-- A text that ends with exactly one backslash gets another one. -/
def closeBackslash (s : List Char) : List Char :=
  match s.reverse with
  | '\\' :: '\\' :: _ => s
  | '\\' :: _ => s ++ ['\\']
  | _ => s

/-- A text in which no tag counts. -/
def escape (s : List Char) : List Char := closeBackslash ((pieces s).flatMap Piece.escaped)

end MapStyle.Markup
