import LexReport.Command.Run
import Std.Time.DateTime.Timestamp

/-! The command: what it needs is read, the run is computed, and what it leaves is written. -/

set_option autoImplicit false

namespace LexReport.Command

open Files

def readEnvironment : IO Environment :=
  Environment.variables.filterMapM fun name => do
    return (← IO.getEnv name).map (name, ·)

def failureOf : IO.Error → Failure
  | .noFileOrDirectory _ _ _ => .notFound
  | .permissionDenied _ number text => ⟨some number.toNat, "PermissionDenied", text⟩
  | .inappropriateType _ number text => ⟨some number.toNat, "NotADirectory", text⟩
  | .resourceExhausted _ number text => ⟨some number.toNat, "StorageFull", text⟩
  | .resourceBusy number text => ⟨some number.toNat, "ResourceBusy", text⟩
  | .hardwareFault number text | .otherError number text =>
    ⟨some number.toNat, "Uncategorized", text⟩
  | error => ⟨none, "Other", error.toString⟩

def realPlace (path : String) : IO Location := do
  let path ← IO.FS.realPath path
  return (Path.pieces path.toString).filter (· != "")

def refuse (tree : Tree) (access : Access) (location : Location) (failure : Failure) : Tree :=
  { tree with refused := fun asked place =>
      if asked = access ∧ place = location then some failure else tree.refused asked place }

/-- Add what is at a place that is no link. A directory need not be open to be one, and what stands
among the devices is taken for one. -/
def addNode (tree : Tree) (location : Location) : IO Tree := do
  let path := Tree.absolutePath location
  try
    discard <| IO.FS.realPath (path ++ "/.")
    return tree.put location .directory
  catch
    | .permissionDenied _ _ _ => return tree.put location .directory
    | _ =>
      if location.dropLast = ["dev"] then return tree.put location (.device .empty [])
      try return tree.put location (.file (← IO.FS.readBinFile path))
      catch error =>
        return refuse (tree.put location (.file .empty)) .read location (failureOf error)

def addDirectories (tree : Tree) (location : Location) : Tree :=
  (List.range location.length).foldl
    (fun tree depth => tree.put (location.take (depth + 1)) .directory) tree

def addPlace (tree : Tree) (location : Location) : IO (Option Location × Tree) := do
  try
    let place ← realPlace (Tree.absolutePath location)
    let tree ← addNode (addDirectories tree place.dropLast) place
    return (some place, if place = location then tree else tree.put location (.link place))
  catch
    | .noFileOrDirectory _ _ _ => return (none, tree)
    | error => return (none, refuse tree .find location (failureOf error))

def addPieces (tree : Tree) (directory : Location) : List String → IO Tree
  | [] => return tree
  | piece :: rest => do
    if piece = "" ∨ piece = "." then addPieces tree directory rest
    else if piece = ".." then addPieces tree directory.dropLast rest
    else
      match ← addPlace tree (directory ++ [piece]) with
      | (some next, tree) => addPieces tree next rest
      | (none, tree) => return tree

def addPath (tree : Tree) (path : String) : IO Tree :=
  addPieces tree (tree.startOf path) (Path.pieces path)

def addNeeds (arguments : List String) (surroundings : Surroundings) : IO Surroundings := do
  let tree ← (neededPaths surroundings arguments).foldlM addPath surroundings.tree
  return { surroundings with tree }

/-- The preferences file may name a further path, so the needs are read twice. -/
def readSurroundings (arguments : List String) : IO Surroundings := do
  let started ← IO.monoNanosNow
  let now := (← Std.Time.Timestamp.now).toNanosecondsSinceUnixEpoch.val
  let moment : Instant := ⟨now / 1000000000, (now % 1000000000).toNat⟩
  let home ← realPlace "."
  let tree := addDirectories { home, nodes := [] } home
  let bare : Surroundings := ⟨← readEnvironment, tree, ⟨moment, 0, 0⟩⟩
  let surroundings ← addNeeds arguments (← addNeeds arguments bare)
  let elapsed := (← IO.monoNanosNow) - started
  return { surroundings with times := ⟨moment, elapsed, elapsed⟩ }

def makeChanges : List (Location × ByteArray) → IO (Option (Location × Failure))
  | [] => return none
  | (location, content) :: rest => do
    try
      IO.FS.withFile (Tree.absolutePath location) .write fun file => do
        file.write content
        file.flush
      makeChanges rest
    catch error => return some (location, failureOf error)

/-- Compute a run and make its changes. What the system refuses is known once it was tried, and then
the run is computed again. -/
def carryOut (arguments : List String) (surroundings : Surroundings) : Nat → IO Finish
  | 0 => return run .development .standard surroundings arguments
  | tries + 1 => do
    let finish := run .development .standard surroundings arguments
    match ← makeChanges (surroundings.tree.changesFrom finish.tree) with
    | none => return finish
    | some (location, failure) =>
      let tree := refuse surroundings.tree .write location failure
      carryOut arguments { surroundings with tree } tries

def perform (arguments : List String) : IO UInt32 := do
  let finish ← carryOut arguments (← readSurroundings arguments) 2
  (← IO.getStdout).putStr finish.output
  (← IO.getStderr).putStr finish.errors
  return .ofNat finish.exitCode

end LexReport.Command

def main (arguments : List String) : IO UInt32 :=
  LexReport.Command.perform arguments
