import LexReport.Files.Tree
import LexReport.Profile.Document
import LexReport.Profile.Problem
import LexReport.Toml.Reader

/-! The limits of a profile, from the file that describes it. -/

set_option autoImplicit false

namespace LexReport.Profile

open Files

/-- Which profile is wanted, and where profiles are: in a directory below a root. -/
structure Choice where
  root : String
  directory : String := "config"
  profile : String := "development"
  deriving DecidableEq, Repr

def Choice.fileName (choice : Choice) : String := choice.profile ++ ".toml"

def Choice.path (choice : Choice) : String :=
  Path.join (Path.join choice.root choice.directory) choice.fileName

inductive LoadError where
  | missing (choice : Choice)
  | unreadable (path : String) (failure : Failure)
  | malformed (path : String)
  | refused (problem : Problem)
  deriving DecidableEq, Repr

def LoadError.message : LoadError → String
  | missing choice =>
    "Configuration file not found: " ++ choice.path ++ "\nWorkspace root: " ++ choice.root ++
      "\nLooking for: " ++ choice.root ++ "/" ++ choice.directory ++ "/" ++ choice.fileName
  | unreadable path failure => "Failed to read " ++ path ++ ": " ++ failure.message
  | malformed path => "Invalid TOML in " ++ path
  | refused problem => problem.message

def load (tree : Tree) (choice : Choice) : Except LoadError Limits :=
  if (tree.status? choice.path).isNone then .error (.missing choice)
  else
    match tree.readText choice.path with
    | .error failure => .error (.unreadable choice.path failure)
    | .ok document =>
      match (Toml.read? document).bind Limits.ofDocument? with
      | none => .error (.malformed choice.path)
      | some limits =>
        match problem? choice.profile limits with
        | some problem => .error (.refused problem)
        | none => .ok limits

def watchLines (choice : Choice) : List String :=
  ["cargo:rerun-if-changed=build.rs", "cargo:rerun-if-env-changed=CLEX_BUILD_PROFILE",
    "cargo:rerun-if-env-changed=CLEX_CONFIG_DIR", "cargo:rerun-if-changed=" ++ choice.path]

end LexReport.Profile
