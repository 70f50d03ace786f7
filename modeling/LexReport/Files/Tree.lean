import LexReport.Files.Failure
import LexReport.Files.Path

/-! A tree of directories and files, as POSIX systems have them: how a path leads to a place in it,
and what reading and writing there do. What the system refuses for reasons of its own, such as
permissions or a broken disk, is given with the tree. -/

set_option autoImplicit false

namespace LexReport.Files

/-- The names on the way from the root to a place. -/
abbrev Location := List String

inductive Node where
  | directory
  | file (content : ByteArray)
  /-- What keeps no content, with what is read from it and what it was given to write. -/
  | device (source : ByteArray) (taken : List ByteArray)
  /-- Another name for a place. -/
  | link (place : Location)
  deriving Inhabited

namespace Node

def isDirectory : Node → Bool
  | directory => true
  | _ => false

def rewritten (content : ByteArray) : Option Node → Node
  | some (device source taken) => device source (taken ++ [content])
  | _ => file content

end Node

inductive Access where
  /-- To look up the last name of a place in the directory before it. -/
  | find
  | canonicalize
  | inspect
  | read
  | write
  deriving DecidableEq, Repr

/-- What the tree holds is listed by place; the root is always there. -/
structure Tree where
  /-- The directory from which relative paths start. -/
  home : Location
  nodes : List (Location × Node)
  refused : Access → Location → Option Failure := fun _ _ => none
  deriving Inhabited

namespace Tree

def node? (tree : Tree) (location : Location) : Option Node :=
  if location.isEmpty then some .directory else tree.nodes.lookup location

def put (tree : Tree) (location : Location) (node : Node) : Tree :=
  { tree with
    nodes := (location, node) :: tree.nodes.filter fun entry => entry.1 != location }

def maxNameSize : Nat := 255
def maxPathSize : Nat := 4095

/-- The place that something at a place stands for. A link leads to no further link. -/
def follow (tree : Tree) (location : Location) : Except Failure Location :=
  match tree.node? location with
  | some (.link place) =>
    match tree.node? place with
    | some (.link _) => .error .tooManyLinks
    | some _ => .ok place
    | none => .error .notFound
  | some _ => .ok location
  | none => .error .notFound

def enter (tree : Tree) (directory : Location) (name : String) : Except Failure Location :=
  match tree.refused .find (directory ++ [name]) with
  | some failure => .error failure
  | none =>
    if name = "." then .ok directory
    else if name = ".." then .ok directory.dropLast
    else if maxNameSize < name.utf8ByteSize then .error .nameTooLong
    else tree.follow (directory ++ [name])

/-- Follow the pieces of a path from a place. Each is looked up in a directory. -/
def walk (tree : Tree) (location : Location) : List String → Except Failure Location
  | [] => .ok location
  | piece :: rest =>
    match tree.node? location with
    | none => .error .notFound
    | some .directory =>
      if piece = "" then walk tree location rest
      else
        match tree.enter location piece with
        | .error failure => .error failure
        | .ok next => walk tree next rest
    | some _ => .error .notADirectory

def pathFailure? (path : String) : Option Failure :=
  if path.toList.contains '\x00' then some .zeroInPath
  else if path = "" then some .notFound
  else if maxPathSize < path.utf8ByteSize then some .nameTooLong
  else none

def startOf (tree : Tree) (path : String) : Location :=
  if Path.isAbsolute path then [] else tree.home

def resolve (tree : Tree) (path : String) : Except Failure Location :=
  match pathFailure? path with
  | some failure => .error failure
  | none => tree.walk (tree.startOf path) (Path.pieces path)

def status? (tree : Tree) (path : String) : Option Node :=
  match tree.resolve path with
  | .ok location => tree.node? location
  | .error _ => none

def absolutePath (location : Location) : String :=
  "/" ++ "/".intercalate location

def sizeAt (tree : Tree) (location : Location) : Except Failure Nat :=
  match tree.refused .inspect location, tree.node? location with
  | some failure, _ => .error failure
  | none, some (.file content) => .ok content.size
  | none, some _ => .ok 0
  | none, none => .error .notFound

def contentAt (tree : Tree) (location : Location) : Except Failure ByteArray :=
  match tree.refused .read location, tree.node? location with
  | some failure, _ => .error failure
  | none, some (.file content) | none, some (.device content _) => .ok content
  | none, some .directory => .error .isADirectory
  | none, some (.link _) | none, none => .error .notFound

def textOf (content : ByteArray) : Except Failure String :=
  match String.fromUTF8? content with
  | some text => .ok text
  | none => .error .notText

def textAt (tree : Tree) (location : Location) : Except Failure String := do
  let content ← tree.contentAt location
  textOf content

def readText (tree : Tree) (path : String) : Except Failure String := do
  let location ← tree.resolve path
  tree.textAt location

def dropTrailing (pieces : List String) : List String :=
  (pieces.reverse.dropWhile (· == "")).reverse

/-- The place where something is written that a place stands for. There need not be anything yet. -/
def aim (tree : Tree) (location : Location) : Except Failure Location :=
  match tree.node? location with
  | some (.link place) =>
    match tree.node? place, tree.node? place.dropLast with
    | some (.link _), _ => .error .tooManyLinks
    | _, some .directory => .ok place
    | _, _ => .error .notFound
  | _ => .ok location

def placeIn (tree : Tree) (pieces : List String) (directory : Location) :
    Except Failure Location :=
  match tree.node? directory, (dropTrailing pieces).getLast? with
  | _, none => .error .isADirectory
  | none, some _ => .error .notFound
  | some .directory, some name =>
    if dropTrailing pieces != pieces ∨ name = "." ∨ name = ".." then .error .isADirectory
    else
      match tree.refused .find (directory ++ [name]) with
      | some failure => .error failure
      | none =>
        if maxNameSize < name.utf8ByteSize then .error .nameTooLong
        else tree.aim (directory ++ [name])
  | some _, some _ => .error .notADirectory

/-- The place where a path lets a file be written: its last piece names the file, and the pieces
before lead to a directory. -/
def target (tree : Tree) (path : String) : Except Failure Location :=
  match pathFailure? path with
  | some failure => .error failure
  | none => do
    let pieces := Path.pieces path
    let directory ← tree.walk (tree.startOf path) (dropTrailing pieces).dropLast
    tree.placeIn pieces directory

def writeAt (tree : Tree) (location : Location) (text : String) : Except Failure Tree :=
  match tree.node? location, tree.refused .write location with
  | some .directory, _ => .error .isADirectory
  | _, some failure => .error failure
  | node, none => .ok (tree.put location (.rewritten text.toUTF8 node))

def writeText (tree : Tree) (path text : String) : Except Failure Tree := do
  let location ← tree.target path
  tree.writeAt location text

/-- What was written at a place since there was something else. -/
def writtenSince (old : Option Node) : Node → List ByteArray
  | .directory | .link _ => []
  | .file content =>
    match old with
    | some (.file held) => if held.data == content.data then [] else [content]
    | _ => [content]
  | .device _ taken =>
    match old with
    | some (.device _ before) => taken.drop before.length
    | _ => taken

def changesFrom (old new : Tree) : List (Location × ByteArray) :=
  new.nodes.reverse.flatMap fun (location, node) =>
    (writtenSince (old.node? location) node).map (location, ·)

end Tree

end LexReport.Files
