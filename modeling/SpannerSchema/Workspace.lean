import SpannerSchema.Text.LineBreak
import SpannerSchema.Workspace.Path

/-! The files around a working directory. A path is walked name by name, so that every directory on its way has to
    exist, also before a double dot. -/

namespace SpannerSchema

/-- Why a file cannot be read or written. -/
inductive FileError where
  | missing
  | notDirectory
  | isDirectory
  | exists
  | notUnicode
  | nulInPath
  | longName
deriving DecidableEq, Repr

/-- What stands under a name. -/
inductive Entry where
  | file (content : ByteArray)
  | directory

/-- The files around a working directory, by the names that lead to them from it or from the root. -/
structure Workspace where
  entries : List (List String × Entry) := []

namespace Workspace

/-- A name that leads out of the working directory. -/
def isAnchor (name : String) : Bool := name == ".." || name == Path.rootName

/-- The entry under `names`. The working directory, those above it and the root are always there. -/
def entry? (w : Workspace) (names : List String) : Option Entry :=
  if names.all isAnchor then some .directory else w.entries.lookup names

/-- The names of the directory above the one under `names`. Nothing is above the root. -/
def above (names : List String) : List String :=
  if !names.all isAnchor then names.dropLast
  else if names.contains Path.rootName then names
  else names ++ [".."]

/-- The workspace with an entry put under `names`, in place of the one there. -/
def insert (w : Workspace) (names : List String) (e : Entry) : Workspace :=
  if w.entries.any fun f => f.1 == names then
    ⟨w.entries.map fun f => if f.1 == names then (names, e) else f⟩
  else ⟨w.entries ++ [(names, e)]⟩

/-- The workspace with every directory on the way to `names`. -/
def insertParents (w : Workspace) (names : List String) : Workspace :=
  (List.range names.length).foldl
    (fun w n => if (w.entry? (names.take n)).isSome then w else w.insert (names.take n) .directory) w

/-- The workspace with a file in it, and every directory on the way. -/
def insertFile (w : Workspace) (names : List String) (content : ByteArray) : Workspace :=
  (w.insertParents names).insert names (.file content)

/-- Where a walk of `steps` ends that starts at the names `here`. What stands there may be missing. -/
def walk (w : Workspace) (here : List String) : List String → Except FileError (List String)
  | [] => .ok here
  | step :: steps =>
    match w.entry? here with
    | none => .error .missing
    | some (.file _) => .error .notDirectory
    | some .directory =>
      if step == ".." then walk w (above here) steps
      else if Path.isLongName step then .error .longName
      else if Path.isStep step then walk w (here ++ [step]) steps
      else walk w here steps

/-- What is wrong with a path as it stands. -/
def pathFault? (p : Path) : Option FileError :=
  if p.hasNul then some .nulInPath else if p.isTooLong then some .longName else none

/-- Where a path leads. What stands there may be missing. -/
def reach (w : Workspace) (p : Path) : Except FileError (List String) :=
  match pathFault? p with
  | some e => .error e
  | none => w.walk p.start p.names

/-- The bytes of the file at a path. -/
def read (w : Workspace) (p : Path) : Except FileError ByteArray :=
  match w.reach p with
  | .error e => .error e
  | .ok names =>
    match w.entry? names with
    | none => .error .missing
    | some .directory => .error .isDirectory
    | some (.file content) => .ok content

/-- Is there a file at a path? -/
def isFile (w : Workspace) (p : Path) : Bool :=
  match w.read p with
  | .ok _ => true
  | .error _ => false

/-- The workspace with a directory at the end of a walk, unless something stands there. -/
def makeStep (w : Workspace) (start steps : List String) : Workspace :=
  match w.walk start steps with
  | .ok names => if (w.entry? names).isSome then w else w.insert names .directory
  | .error _ => w

/-- The workspace with a directory at a path, and every directory on the way. -/
def makeDirectory (w : Workspace) (p : Path) : Except FileError Workspace :=
  match pathFault? p with
  | some e => .error e
  | none =>
    let made := (List.range (p.names.length + 1)).foldl (fun w n => w.makeStep p.start (p.names.take n)) w
    match made.walk p.start p.names with
    | .error e => .error e
    | .ok names =>
      match made.entry? names with
      | some (.file _) => .error .exists
      | _ => .ok made

/-- The workspace with the file at a path replaced. Its directory has to exist. -/
def write (w : Workspace) (p : Path) (content : ByteArray) : Except FileError Workspace :=
  match w.reach p with
  | .error e => .error e
  | .ok names =>
    match w.entry? names with
    | some .directory => .error .isDirectory
    | _ => if (w.entry? names.dropLast).isSome then .ok (w.insert names (.file content)) else .error .missing

/-- The files that are new in `after` or hold something else than in `w`. -/
def changes (w after : Workspace) : List (List String × ByteArray) :=
  after.entries.filterMap fun (names, e) =>
    match e with
    | .directory => none
    | .file content =>
      match w.entry? names with
      | some (.file old) => if old == content then none else some (names, content)
      | _ => some (names, content)

/-- The text of the file at a path. -/
def readText (w : Workspace) (p : Path) : Except FileError String :=
  match w.read p with
  | .error e => .error e
  | .ok content =>
    match String.fromUTF8? content with
    | some s => .ok (String.ofList (Text.normalizeBreaks s.toList))
    | none => .error .notUnicode

/-- The workspace with the text of the file at a path replaced. -/
def writeText (w : Workspace) (p : Path) (s : String) : Except FileError Workspace := w.write p s.toUTF8

end Workspace
end SpannerSchema
