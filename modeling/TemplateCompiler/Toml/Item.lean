namespace TemplateCompiler.Toml

/-- How a table has come about, which decides how it may be added to. -/
inductive Origin where
  /-- By a header of its own, or as the top table. -/
  | explicit
  /-- By the header of a table inside it. -/
  | implied
  /-- By a dotted key. -/
  | dotted
  /-- As a value in braces. -/
  | inline
  deriving DecidableEq, Repr

/-- A value of a TOML document. Of dates and times only the fact is kept. -/
inductive Item where
  | string (text : String)
  | integer (value : Int)
  | float (value : Float)
  | bool (value : Bool)
  | datetime
  | array (items : List Item)
  | table (origin : Origin) (entries : List (String × Item))
  /-- The tables with one header in double brackets. -/
  | tables (elements : List (List (String × Item)))

/-- The entries of a table, with distinct keys. -/
abbrev Entries := List (String × Item)

/-- A key, with the keys of the tables that it leads through. -/
structure Key where
  path : List String
  name : String
  deriving DecidableEq, Repr

namespace Entries

def replace (entries : Entries) (name : String) (item : Item) : Entries :=
  entries.map fun (other, old) => (other, if other = name then item else old)

/-- The way from a table to one inside it, along which tables that are missing come about. -/
def descend? (dotted : Bool) (edit : Origin → Entries → Option Entries) :
    List String → Origin → Entries → Option Entries
  | [], origin, entries => edit origin entries
  | name :: path, _, entries =>
    match entries.lookup name with
    | none =>
      let origin := if dotted then .dotted else .implied
      (descend? dotted edit path origin []).map fun inner =>
        entries ++ [(name, .table origin inner)]
    | some (.table origin inner) =>
      if origin = .inline || (dotted && origin = .explicit) then none
      else
        (descend? dotted edit path origin inner).map fun inner =>
          entries.replace name (.table origin inner)
    | some (.tables elements) =>
      match elements.getLast? with
      | none => none
      | some last =>
        (descend? dotted edit path .explicit last).map fun last =>
          entries.replace name (.tables (elements.dropLast ++ [last]))
    | some _ => none

/-- Adds a value. A dotted key may only add to a table that dotted keys have made. -/
def insert? (entries : Entries) (key : Key) (item : Item) : Option Entries :=
  let dotted := !key.path.isEmpty
  let add (origin : Origin) (entries : Entries) : Option Entries :=
    if dotted && origin != .dotted then none
    else if (entries.lookup key.name).isSome then none
    else some (entries ++ [(key.name, item)])
  descend? dotted add key.path .explicit entries

def insertAll? (entries : Entries) (added : List (Key × Item)) : Option Entries :=
  added.foldlM (fun entries (key, item) => entries.insert? key item) entries

/-- Adds a table under a header. A table that has come about on the way to another one may get its
header later. -/
def insertTable? (entries : Entries) (key : Key) (added : List (Key × Item)) : Option Entries :=
  let add (_ : Origin) (parent : Entries) : Option Entries :=
    match parent.lookup key.name with
    | none => (insertAll? [] added).map fun inner => parent ++ [(key.name, .table .explicit inner)]
    | some (.table .implied inner) =>
      (insertAll? inner added).map fun inner => parent.replace key.name (.table .explicit inner)
    | some _ => none
  descend? false add key.path .explicit entries

/-- Adds a table under a header in double brackets, after those that already have it. -/
def appendTable? (entries : Entries) (key : Key) (added : List (Key × Item)) : Option Entries :=
  let add (_ : Origin) (parent : Entries) : Option Entries :=
    match parent.lookup key.name with
    | none => (insertAll? [] added).map fun inner => parent ++ [(key.name, .tables [inner])]
    | some (.tables elements) =>
      (insertAll? [] added).map fun inner => parent.replace key.name (.tables (elements ++ [inner]))
    | some _ => none
  descend? false add key.path .explicit entries

end Entries

end TemplateCompiler.Toml
