import OpticalBench.Command.Basic

/-!
# The command line

The first argument is the name of a command, the others are its arguments. This module reads what the
command asks for, runs it, and prints what it leaves behind. It has no network: a request that a
command makes is reported as not sent.
-/

namespace OpticalBench

namespace CommandLine

/-- What an error of the system says about a file. -/
def fileError : IO.Error → FileError
  | .permissionDenied .. => .denied
  | .inappropriateType _ code _ => if code = 21 then .folder else .notFolder
  | .invalidArgument .. => .nameTooLong
  | _ => .missing

/-- What is found under the name of a file. -/
def readFile (name : String) : IO FileContent := do
  try
    match String.fromUTF8? (← IO.FS.readBinFile name) with
    | some s => return .ok s
    | none => return .error .binary
  catch e => return .error (fileError e)

/-- The variables that commands look at, with their values. -/
def readEnvironment : IO (TextMap String) := do
  let mut found : TextMap String := .empty
  for name in Config.fileVariable :: Config.variableNames do
    if let some value ← IO.getEnv name then
      found := found.insert name value
  return found

/-- Files with their contents. -/
def readFiles (names : List String) : IO (TextMap FileContent) := do
  let mut found : TextMap FileContent := .empty
  for name in names do
    found := found.insert name (← readFile name)
  return found

/-- Identifiers that follow a random one. -/
def randomIds : IO (Nat → Uuid) := do
  let bytes ← IO.getRandomBytes 16
  let first := bytes.toList.foldl (fun n b => n * 256 + b.toNat) 0
  return fun n => ⟨(first + n) % 0x100000000000000000000000000000000, Nat.mod_lt _ (by decide)⟩

/-- Run a command and print what it leaves behind. -/
def run (command : Command) (arguments : List String) : IO UInt32 := do
  let environment ← readEnvironment
  let files ← readFiles (command.fileNames environment.get? arguments)
  let exit := command.run
    { files := fun name => (files.get? name).getD (.error .missing)
      environment := environment.get?
      transport := .unreachable
      ids := ← randomIds }
    arguments
  IO.print exit.output
  IO.eprint exit.errors
  return exit.code.toUInt32

/-- Name the commands that there are. -/
def unknown : IO UInt32 := do
  IO.eprintln ("commands: " ++ String.intercalate ", " (Command.all.map Command.name))
  return 2

end CommandLine

end OpticalBench

/-- Run the command that the first argument names. -/
def main (arguments : List String) : IO UInt32 :=
  match arguments with
  | name :: rest =>
    match OpticalBench.Command.ofName? name with
    | some command => OpticalBench.CommandLine.run command rest
    | none => OpticalBench.CommandLine.unknown
  | [] => OpticalBench.CommandLine.unknown
