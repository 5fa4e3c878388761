/-! Paths of files: the names from one directory to the next. Empty names and single dots say nothing and are
    dropped; a double dot stays, since where it leads depends on the files. -/

namespace SpannerSchema

/-- A path from `root`: the current directory if that is empty. -/
structure Path where
  root : String := ""
  names : List String := []
deriving DecidableEq, Repr

namespace Path

/-- The names between the slashes of a text. -/
def pieces (s : String) : List String := (s.splitToList (· == '/'))

/-- Does the name lead anywhere? -/
def isStep (name : String) : Bool := name != "" && name != "."

/-- The root of a path in text form. Exactly two slashes at the start are a root of their own. -/
def rootOf (s : String) : String :=
  match (s.toList.takeWhile (· == '/')).length with
  | 0 => ""
  | 2 => "//"
  | _ => "/"

/-- The path that a text denotes. -/
def ofText (s : String) : Path := ⟨rootOf s, (pieces s).filter isStep⟩

/-- The text of a path; a single dot for the current directory. -/
def text (p : Path) : String :=
  if p.root.isEmpty && p.names.isEmpty then "." else p.root ++ "/".intercalate p.names

/-- The name that stands for the root of all files. -/
def rootName : String := "/"

/-- Where a walk along a path starts. -/
def start (p : Path) : List String := if p.root.isEmpty then [] else [rootName]

/-- The path `q` as seen from `p`. -/
def append (p q : Path) : Path := if q.root.isEmpty then ⟨p.root, p.names ++ q.names⟩ else q

instance : Append Path := ⟨append⟩

/-- Does a NUL stand in the path? No file can be found under such a path. -/
def hasNul (p : Path) : Bool := p.text.toList.contains '\x00'

/-- Has the path more bytes than a path may have? -/
def isTooLong (p : Path) : Bool := 4096 ≤ p.text.utf8ByteSize

/-- Has the name more bytes than a file's name may have? -/
def isLongName (name : String) : Bool := 255 < name.utf8ByteSize

/-- The path without its last name. -/
def parent (p : Path) : Path := { p with names := p.names.dropLast }

end Path
end SpannerSchema
