/-
# The program

The program takes a picture of the files in the scope of its command line, carries the command line
out on it, and makes the changes real. A service reads requests from its input, one on a line, and
writes a response on a line for each.
-/

import SfcLint.CommandLine.Scope
import SfcLint.Service.Basic
import Std.Time.DateTime.Timestamp

namespace SfcLint.Program

/-- The seconds since the start of 1970. -/
def currentSeconds : IO Nat := do
  return (← Std.Time.Timestamp.now).toSecondsSinceUnixEpoch.val.toNat

/-- The disk with the file or folder at a path. A folder is followed down if it is searched. -/
partial def record (searched : Bool) (disk : Disk) (path : Path) : IO Disk := do
  let place := (path.resolve disk.current).parts
  let real := (← IO.currentDir) / path.toString
  if !(← real.pathExists) then return disk
  else if ← real.isDir then
    let mut disk := { disk with folders := place :: disk.folders }
    if searched then
      for entry in ← real.readDir do
        let name := entry.fileName.toList
        let child := path.child name
        let kind := (← entry.path.symlinkMetadata).type
        if !Path.skipsName [] name then
          if kind == .dir || Search.hasSuffix Search.analyzable child then
            disk ← record (kind == .dir) disk child
          else disk := disk.put (place ++ [name]) []
    return disk
  else return disk.put place (← IO.FS.readBinFile real).toList

/-- The variables of the environment that settings are read from. -/
def readEnvironment : IO Environment := do
  let names := "HOME" :: Setting.every.map Setting.variableName
  let found ← names.mapM fun name => do return (← IO.getEnv name).map fun value => (name, value)
  return found.filterMap id

/-- Writes the files that differ from those of an earlier disk. -/
def writeChanges (before after : Disk) : IO Unit := do
  let root ← IO.currentDir
  for (place, bytes) in after.files do
    if before.files.lookup place != some bytes then
      IO.FS.writeBinFile (root / Path.toString ⟨['/'], place⟩) ⟨bytes.toArray⟩

/-- Answers requests until the input ends. -/
partial def answerRequests (service : Service) (input output : IO.FS.Stream) : IO Unit := do
  let line ← input.getLine
  if line.isEmpty then return
  let now : Rat := (← currentSeconds : Nat)
  let request := (Json.read line.toList).toOption.bind fun value => Request.ofJson? value now
  match request with
  | none =>
      output.putStr (Response.malformed.toJson.compact ++ "\n")
      output.flush
      answerRequests service input output
  | some request =>
      let (response, service) := service.handle request
      match response with
      | .ok response => output.putStr (response.toJson.compact ++ "\n")
      | .error failure => IO.eprintln failure.message
      output.flush
      answerRequests service input output

end SfcLint.Program

open SfcLint SfcLint.Program

/-- Carries out a command line. -/
def main (words : List String) : IO UInt32 := do
  let current := (Path.ofText (← IO.currentDir).toString.toList).parts
  let home := Path.ofText ((← IO.getEnv "HOME").getD "/").toList
  let scope := Scope.ofWords home words
  let mut disk : Disk := ⟨[], [], current, home.parts⟩
  for path in scope.visited do
    disk ← record false disk path
    disk ← record false disk path.parent
  for path in scope.searched do
    disk ← record true disk path
  let session : Session := ⟨disk, ← readEnvironment, Moment.ofSeconds (← currentSeconds)⟩
  match session.run words with
  | .error crash =>
      IO.eprintln crash.message
      return 1
  | .ok outcome =>
      IO.print outcome.out
      IO.eprint outcome.err
      writeChanges disk outcome.disk
      if let some served := outcome.served then
        answerRequests (Service.start served.settings) (← IO.getStdin) (← IO.getStdout)
      return UInt32.ofNat (outcome.status.getD 0)
