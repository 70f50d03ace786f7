/-! Paths as texts, and the parts they have. -/

set_option autoImplicit false

namespace LexReport.Files

/-- A part of a path. Empty parts and single dots say nothing, but for a dot at the start of a
path that does not start from the root. -/
inductive Part where
  | root
  | here
  | parent
  | name (text : String)
  deriving DecidableEq, Repr

namespace Part

def rank : Part → Nat
  | root => 0
  | here => 1
  | parent => 2
  | name _ => 3

def order : Part → Part → Ordering
  | name first, name second => compare first second
  | first, second => compare first.rank second.rank

def ofText? (text : String) : Option Part :=
  if text = "" ∨ text = "." then none
  else if text = ".." then some parent
  else some (name text)

end Part

namespace Path

def pieces (path : String) : List String :=
  (path.toList.splitOn '/').map String.ofList

def isAbsolute (path : String) : Bool :=
  path.toList.head? == some '/'

def parts (path : String) : List Part :=
  let named := (pieces path).filterMap Part.ofText?
  if isAbsolute path then .root :: named
  else if (pieces path).head? = some "." then .here :: named
  else named

/-- Paths are compared part by part, and one that ends first comes first. -/
def orderParts : List Part → List Part → Ordering
  | [], [] => .eq
  | [], _ :: _ => .lt
  | _ :: _, [] => .gt
  | first :: rest, second :: others =>
    match first.order second with
    | .eq => orderParts rest others
    | unequal => unequal

def order (first second : String) : Ordering :=
  orderParts (parts first) (parts second)

def join (directory path : String) : String :=
  if isAbsolute path then path
  else if directory = "" ∨ directory.toList.getLast? = some '/' then directory ++ path
  else directory ++ "/" ++ path

/-- The part of a file name after its last dot, if there is something before the dot. -/
def extension? (fileName : String) : Option String :=
  match fileName.splitOn "." with
  | [] | [_] | ["", _] => none
  | pieces => if fileName = ".." then none else pieces.getLast?

end Path

end LexReport.Files
