import MapStyle.Fault
import MapStyle.Files.Tree
import MapStyle.Json.Reader

/-!
# Documents

A document is a value read from a file: the bytes must be UTF-8, line ends are made one, and the
text must be JSON.  `Document.read?` keeps the ways to fail apart; `Document.load` reports them to
a user.
-/

namespace MapStyle.Document

/-- Why a file holds no value. -/
inductive Failure where
  | file (problem : FileProblem)
  | undecodable
  | text (failure : Json.Failure)
deriving DecidableEq, Repr, Inhabited

def ofBytes (content : ByteArray) : Except Failure Value :=
  match String.fromUTF8? content with
  | none => .error .undecodable
  | some text =>
    match Json.read (Text.unifyLineEnds text.toList) with
    | .ok value => .ok value
    | .error failure => .error (.text failure)

/-- The value in a file. -/
def read? (files : FileSystem) (path : String) : Except Failure Value :=
  match files.read path with
  | .error problem => .error (.file problem)
  | .ok content => ofBytes content

/-- What a failure means to the user who named the file. -/
def Failure.toFault (path : String) : Failure → Fault
  | .file .missing => .usage (.fileNotFound path)
  | .file .denied => .usage (.permissionDenied path)
  | .file .badPath => .badPath
  | .file problem => .usage (.unreadable path problem)
  | .undecodable => .undecodable
  | .text (.malformed problem) => .usage (.badJson path problem)
  | .text .oversizedInteger => .oversizedInteger

/-- The value in a file that a user named. -/
def load (files : FileSystem) (path : String) : Except Fault Value :=
  (read? files path).mapError (Failure.toFault path)

end MapStyle.Document
