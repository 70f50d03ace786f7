/-! What a TOML document holds, and the ways in which a table may be extended. -/

set_option autoImplicit false

namespace LexReport.Toml

inductive TableForm where
  /-- Written as a value; it is complete. -/
  | inline
  /-- Named by a header of its own. -/
  | headed
  /-- Passed through by a header; it may get one of its own. -/
  | implied
  /-- Passed through by a dotted key; only dotted keys extend it. -/
  | dotted
  deriving DecidableEq, Repr

/-- Of numbers that are not whole, and of dates and times, nothing is kept. -/
inductive Item where
  | string (value : String)
  | integer (value : Int)
  | float
  | boolean (value : Bool)
  | dateTime
  | array (items : List Item)
  | table (form : TableForm) (entries : List (String × Item))
  /-- Tables with the same doubled header, in order; there is at least one. -/
  | tables (elements : List (List (String × Item)))
  deriving Repr, Inhabited

abbrev Entries := List (String × Item)

namespace Entries

def put (entries : Entries) (key : String) (item : Item) : Entries :=
  match entries with
  | [] => [(key, item)]
  | (other, kept) :: rest =>
    if other = key then (key, item) :: rest else (other, kept) :: put rest key item

def mayPass (isDotted : Bool) : TableForm → Bool
  | .inline => false
  | .headed => !isDotted
  | .implied | .dotted => true

/-- Change the table that a path of keys leads to. Tables that are missing on the way are made;
of tables with the same header the last is meant. -/
def changeAt (isDotted : Bool) (change : TableForm → Entries → Option Entries) (form : TableForm) :
    List String → Entries → Option Entries
  | [], entries => change form entries
  | key :: path, entries =>
    match entries.lookup key with
    | none =>
      let made := if isDotted then .dotted else .implied
      (changeAt isDotted change made path []).map fun inner => put entries key (.table made inner)
    | some (.table inForm inner) =>
      if mayPass isDotted inForm then
        (changeAt isDotted change inForm path inner).map fun inner =>
          put entries key (.table inForm inner)
      else none
    | some (.tables elements) =>
      match elements.getLast? with
      | some last =>
        (changeAt isDotted change .headed path last).map fun inner =>
          put entries key (.tables (elements.dropLast ++ [inner]))
      | none => none
    | some _ => none

/-- Add an item under a new key. A table that a dotted key made takes items by dotted keys only,
and any other only by plain ones. -/
def addNew (isDotted : Bool) (key : String) (item : Item) (form : TableForm) (entries : Entries) :
    Option Entries :=
  if (form == .dotted) != isDotted || (entries.lookup key).isSome then none
  else some (entries ++ [(key, item)])

def addAt (form : TableForm) (path : List String) (key : String) (item : Item)
    (entries : Entries) : Option Entries :=
  changeAt true (addNew (!path.isEmpty) key item) form path entries

def beginTable (key : String) (_ : TableForm) (entries : Entries) : Option Entries :=
  match entries.lookup key with
  | none => some (entries ++ [(key, .table .headed [])])
  | some (.table .implied inner) => some (put entries key (.table .headed inner))
  | some _ => none

def beginElement (key : String) (_ : TableForm) (entries : Entries) : Option Entries :=
  match entries.lookup key with
  | none => some (entries ++ [(key, .tables [[]])])
  | some (.tables elements) => some (put entries key (.tables (elements ++ [[]])))
  | some _ => none

end Entries

end LexReport.Toml
