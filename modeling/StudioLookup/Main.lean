import StudioLookup.CommandLine.Command
import StudioLookup.Files.Tree

set_option autoImplicit false

/-! # The program

The command on the machine it is started on. The command itself is run on a `Machine`, which
knows the current directory and keeps what is to be written; the file is then written in fact.

The program has no transport to the network linked in, so that every request that has to be
sent fails there.
-/

namespace StudioLookup

/-- What is known of the machine before the command runs, and the file it has to write. Whether
a file is replaced is not known, and the command does not say it. -/
structure Machine where
  directory : Except Failure Text
  pending : Option (Text × Text)

instance : Workspace Machine where
  currentDirectory m := m.directory
  holds _ _ := false
  write m path text := .ok { m with pending := some (path, text) }

namespace Machine

/-- The words of an error that has a number. -/
def numberedError (code : UInt32) (words : String) : Text :=
  words.toList ++ " (os error ".toList ++ Text.decimal code.toNat ++ [')']

/-- The words of an error of the machine. -/
def errorText : IO.Error → Text
  | .noFileOrDirectory _ code words | .interrupted _ code words => numberedError code words
  | .alreadyExists _ code words | .invalidArgument _ code words
  | .permissionDenied _ code words | .resourceExhausted _ code words
  | .inappropriateType _ code words | .noSuchThing _ code words => numberedError code words
  | .otherError code words | .resourceBusy code words | .resourceVanished code words
  | .unsupportedOperation code words | .hardwareFault code words
  | .unsatisfiedConstraints code words | .illegalOperation code words
  | .protocolError code words | .timeExpired code words => numberedError code words
  | .unexpectedEof => "end of file".toList
  | .userError words => words.toList

/-- The failure that an error of the machine is, with a note on what was tried. -/
def failureOf (note : Text) (e : IO.Error) : Failure :=
  (Failure.plain (errorText e)).withNote note

/-- The machine the program is started on. -/
def current : IO Machine := do
  try
    return ⟨.ok (← IO.currentDir).toString.toList, none⟩
  catch e =>
    return ⟨.error (failureOf "Failed to determine the current directory".toList e), none⟩

/-- Writes the file that is pending. -/
def commit (m : Machine) : IO (Except Failure Unit) := do
  match m.pending with
  | none => return .ok ()
  | some (path, text) =>
      if path.contains '\x00' then
        return .error (writeFailure path (Tree.writeFailure path .nullCharacter))
      try
        IO.FS.writeFile (String.ofList path) (String.ofList text)
        return .ok ()
      catch e =>
        let note := "Failed to write to ".toList ++ Text.quoted path
        return .error (writeFailure path (failureOf note e))

end Machine

/-- The variables of the environment. -/
def readEnvironment : IO CommandLine.Environment := do
  let value (name : Text) : IO (Option Text) := do
    return (← IO.getEnv (String.ofList name)).map String.toList
  return ⟨← value CommandLine.archiveUrlVariable, ← value CommandLine.toolDirectoryVariable⟩

/-- The version the program is built as. -/
def buildVersion : Text := "0.0.0-dev".toList

end StudioLookup

open StudioLookup in
/-- Runs the command and ends with its exit code. -/
def main (args : List String) : IO UInt32 := do
  let ending := CommandLine.run buildVersion .unreachable (← readEnvironment) (← Machine.current)
    (args.map String.toList)
  match ← ending.workspace.commit with
  | .error e =>
      (← IO.getStderr).putStr (String.ofList (CommandLine.failureMessage e))
      return 1
  | .ok () =>
      (← IO.getStdout).putStr (String.ofList ending.output)
      if !ending.errors.isEmpty then
        (← IO.getStderr).putStr (String.ofList ending.errors)
        if ending.exitCode = 2 then (← IO.getStderr).putStr "\n"
      return UInt32.ofNat ending.exitCode
