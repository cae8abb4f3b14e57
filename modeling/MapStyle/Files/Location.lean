import MapStyle.Text.Split

/-!
# Locations

The place that a name given by a user leads to: as it is if it starts at the top, else within the
working directory.  Doubled slashes and single points are dropped, a step up is kept.
-/

namespace MapStyle.Location

def names (path : List Char) : List (List Char) :=
  (Text.splitAt '/' path).filter fun name => !name.isEmpty && name != ['.']

/-- The names of a path with slashes between them. -/
def joined (path : List Char) : List Char :=
  ['/'].intercalate (names path)

/-- The slashes at the top of a path: exactly two are kept, any other number counts as one. -/
def top (path : List Char) : List Char :=
  match path with
  | '/' :: '/' :: '/' :: _ => ['/']
  | '/' :: '/' :: _ => ['/', '/']
  | _ => ['/']

/-- A path that starts at the top. -/
def isAbsolute (path : List Char) : Bool := path.head? == some '/'

/-- The path that a name leads to from a working directory. -/
def resolve (workingDirectory name : String) : String :=
  let path := name.toList
  if isAbsolute path then String.ofList (top path ++ joined path)
  else if (names path).isEmpty then workingDirectory
  else String.ofList (workingDirectory.toList ++ '/' :: joined path)

end MapStyle.Location
