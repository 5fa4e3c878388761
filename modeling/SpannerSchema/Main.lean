import SpannerSchema.CommandLine

/-! The program. It reads its settings and the files that the words of its command line name, runs, shows the
    outcome and writes the files that changed. -/

namespace SpannerSchema
namespace Main

/-- The variables of the environment that set something, if their names are in capitals or in small letters. -/
def environment : IO (List (String × String)) := do
  let names := Settings.allNames.flatMap fun n => [n.own, n.own.toLower, n.plain, n.plain.toUpper]
  names.filterMapM fun name => do return (← IO.getEnv name).map (name, ·)

/-- The variables of the environment file in the working directory, if there is one. -/
def environmentFile (environment : List (String × String)) : IO (List (String × Option String)) := do
  try
    return EnvironmentFile.read environment (← IO.FS.readFile ".env")
  catch _ => return []

/-- The texts that a word of the command line may name a file by. -/
def candidates (word : String) : List String :=
  let value := (CommandLine.splitValue word).2.toList
  word :: (value ++ [String.ofList (word.toList.drop 2)])

/-- The workspace with what stands at a path, if anything does. -/
def load (w : Workspace) (name : String) : IO Workspace := do
  let path := Path.ofText name
  try
    let content ← IO.FS.readBinFile path.text
    return w.insertFile (path.start ++ path.names) content
  catch _ => return w

/-- Writes a file, and the directories on the way to it. -/
def save (names : List String) (content : ByteArray) : IO Unit := do
  let path : Path :=
    if names.head? == some Path.rootName then ⟨Path.rootName, names.drop 1⟩ else ⟨"", names⟩
  IO.FS.createDirAll path.parent.text
  IO.FS.writeBinFile path.text content

end Main
end SpannerSchema

open SpannerSchema in
def main (words : List String) : IO UInt32 := do
  let environment ← Main.environment
  let file ← Main.environmentFile environment
  match Settings.ofSources { environment, file } with
  | .error issues =>
    for i in issues do
      IO.eprintln ("Malformed setting: " ++ i.place)
    return 1
  | .ok settings =>
    let mut before : Workspace := {}
    for word in words do
      for name in Main.candidates word do
        before ← Main.load before name
    let outcome := CommandLine.run settings before words
    (← IO.getStdout).putStr outcome.output
    for (names, content) in before.changes outcome.workspace do
      Main.save names content
    match outcome.reported, outcome.escaped, outcome.usage with
    | some line, _, _ => IO.eprintln line
    | none, some f, _ => IO.eprintln (f.message?.getD "The work could not be done.")
    | none, none, some e => IO.eprintln e.message
    | none, none, none => pure ()
    return outcome.exitCode.toUInt32
