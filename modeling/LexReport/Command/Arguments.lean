import LexReport.Text.Similarity

/-! The arguments of the command: two paths, or a question about the command. -/

set_option autoImplicit false

namespace LexReport.Command

structure Arguments where
  input : String := "input_code.txt"
  output : String := "symbol_table_output.txt"
  deriving DecidableEq, Repr

inductive Flag where
  | help
  | version
  deriving DecidableEq, Repr

namespace Flag

def all : List Flag := [help, version]

def name : Flag → String
  | help => "help"
  | version => "version"

def spelling (flag : Flag) : String := "--" ++ flag.name

def ofName? (name : String) : Option Flag :=
  all.find? fun flag => flag.name == name

def ofLetter? (letter : Char) : Option Flag :=
  if letter = 'h' then some help
  else if letter = 'V' then some version
  else none

/-- How alike a name is to that of a flag. -/
def likeness (name : String) (flag : Flag) : Float :=
  Text.similarity name.toList flag.name.toList

/-- The flag most like a name, of those that are more than seven tenths like it; of equals the last
one. -/
def like? (name : String) : Option Flag :=
  (all.filter fun flag => decide (0.7 < likeness name flag)).foldl
    (fun best flag =>
      match best with
      | some found =>
        if likeness name found ≤ likeness name flag then some flag else some found
      | none => some flag)
    none

end Flag

def pathNames : List String := ["INPUT", "OUTPUT"]

inductive PathUsage where
  /-- Each path, the first ones as given and the others as ones that may be. -/
  | given (count : Nat)
  /-- Some path. -/
  | any
  deriving DecidableEq, Repr

structure Usage where
  flags : List Flag
  paths : PathUsage
  deriving DecidableEq, Repr

def Usage.plain : Usage := ⟨[], .given 0⟩

inductive Tip where
  | asValue (argument : String)
  | similar (flag : Flag)
  deriving DecidableEq, Repr

inductive Refusal where
  | unexpected (argument : String) (tip : Option Tip) (usage : Usage)
  /-- A flag with a value, which it does not take. -/
  | unexpectedValue (value : String) (flag : Flag) (usage : Usage)
  /-- A path is given as nothing. -/
  | emptyPath (name : String)
  deriving DecidableEq, Repr

inductive Reading where
  | analysis (arguments : Arguments)
  | question (flag : Flag)
  | refused (refusal : Refusal)
  deriving DecidableEq, Repr

/-- Refuse the newest of the paths if it is nothing. A path is looked at when something follows. -/
def emptyPath? (paths : List String) : Option Refusal :=
  match paths.getLast?, pathNames[paths.length - 1]? with
  | some "", some name => some (.emptyPath name)
  | _, _ => none

def afterPaths (paths : List String) (reading : Reading) : Reading :=
  match emptyPath? paths with
  | some refusal => .refused refusal
  | none => reading

def ofPaths : List String → Arguments
  | [] => {}
  | [input] => { input }
  | input :: output :: _ => { input, output }

def readNamed (paths : List String) (spelled : String) : Reading :=
  let name := (spelled.splitOn "=").headD ""
  match Flag.ofName? name with
  | some flag =>
    if name = spelled then afterPaths paths (.question flag)
    else
      let value := "=".intercalate ((spelled.splitOn "=").drop 1)
      let settled := if paths.length < 2 then .given 0 else .any
      .refused (.unexpectedValue value flag ⟨[flag], settled⟩)
  | none =>
    let argument := "--" ++ name
    let given := PathUsage.given paths.length
    match Flag.like? name with
    | some flag => .refused (.unexpected argument (some (.similar flag)) ⟨[flag], given⟩)
    | none => .refused (.unexpected argument (some (.asValue argument)) ⟨[], given⟩)

def readLetter (paths : List String) (letter : Char) : Reading :=
  match Flag.ofLetter? letter with
  | some flag => afterPaths paths (.question flag)
  | none =>
    let argument := "-" ++ letter.toString
    .refused (.unexpected argument (some (.asValue argument)) .plain)

/-- Read arguments after some paths. Nothing is a flag once two dashes stood alone. -/
def readAfter (paths : List String) (isPlain : Bool) : List String → Reading
  | [] => afterPaths paths (.analysis (ofPaths paths))
  | argument :: rest =>
    let readPath : Reading :=
      if pathNames.length ≤ paths.length then .refused (.unexpected argument none .plain)
      else afterPaths paths (readAfter (paths ++ [argument]) isPlain rest)
    if isPlain then readPath
    else
      match argument.toList with
      | ['-', '-'] => readAfter paths true rest
      | '-' :: '-' :: name => readNamed paths (String.ofList name)
      | '-' :: letter :: _ => readLetter paths letter
      | _ => readPath

def readArguments (arguments : List String) : Reading := readAfter [] false arguments

end LexReport.Command
