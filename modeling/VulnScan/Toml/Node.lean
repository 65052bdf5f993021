/-! # Trees of configuration files

A configuration file describes a tree of tables. A table comes from a header, from a dotted key or
from a value written between braces, or it is implied because a header names a table inside it.
Where it comes from decides what may be added to it later: nothing to one between braces, by
dotted keys only to those that came from dotted keys or are implied, and a header may open an
implied table, once.
-/

set_option autoImplicit false

namespace VulnScan.Toml

/-- Where a table comes from. -/
inductive Origin where
  | header
  | implied
  | dotted
  | braces
deriving DecidableEq

/-- A node of the tree. Of a number with a fraction and of a date only the kind is kept, since no
setting is one. The last of several `tables` is the one that may still grow. -/
inductive Node where
  | string (s : String)
  | integer (n : Int)
  | bool (b : Bool)
  | float
  | date
  | array (items : List Node)
  | table (origin : Origin) (entries : List (String × Node))
  | tables (items : List (List (String × Node)))

instance : Inhabited Node := ⟨.float⟩

/-- The entries of a table. -/
abbrev Entries := List (String × Node)

/-- Replaces the entry of a key, or adds one at the end. -/
def put (key : String) (n : Node) : Entries → Entries
  | [] => [(key, n)]
  | e :: es => if e.1 = key then (key, n) :: es else e :: put key n es

/-- A way down the tree: where new tables come from, and which tables may be entered. -/
structure Way where
  fresh : Origin
  admits : Origin → Bool

/-- The way along the names of a header. -/
def Way.header : Way := ⟨.implied, fun o => o != .braces⟩

/-- The way along the parts of a dotted key. -/
def Way.dotted : Way := ⟨.dotted, fun o => o == .implied || o == .dotted⟩

/-- Goes down a path and changes the table at its end; nothing comes of it if the way is barred. -/
def descend (way : Way) (change : Origin → Entries → Option Entries) :
    (path : List String) → Origin → Entries → Option Entries
  | [], origin, es => change origin es
  | k :: ks, _, es =>
    match es.lookup k with
    | none =>
      (descend way change ks way.fresh []).map fun sub => es ++ [(k, .table way.fresh sub)]
    | some (.table origin sub) =>
      if way.admits origin then
        (descend way change ks origin sub).map fun sub => put k (.table origin sub) es
      else none
    | some (.tables ts) =>
      match ts.getLast? with
      | some sub =>
        (descend way change ks .header sub).map fun sub => put k (.tables (ts.dropLast ++ [sub])) es
      | none => none
    | some _ => none

/-- Adds an entry to the table at the end of a dotted path. The table has to be one of dotted keys
if and only if there is a path. -/
def assign (path : List String) (key : String) (n : Node) : Origin → Entries → Option Entries :=
  descend .dotted
    (fun origin es =>
      if (origin == .dotted) == path.isEmpty then none
      else if (es.lookup key).isSome then none
      else some (es ++ [(key, n)]))
    path

/-- Opens the table of a header. -/
def openTable (parents : List String) (key : String) : Entries → Option Entries :=
  descend .header
    (fun _ es =>
      match es.lookup key with
      | none => some (es ++ [(key, .table .header [])])
      | some (.table .implied sub) => some (put key (.table .header sub) es)
      | some _ => none)
    parents .header

/-- Opens one more table of a repeated header. -/
def openItem (parents : List String) (key : String) : Entries → Option Entries :=
  descend .header
    (fun _ es =>
      match es.lookup key with
      | none => some (es ++ [(key, .tables [[]])])
      | some (.tables ts) => some (put key (.tables (ts ++ [[]])) es)
      | some _ => none)
    parents .header

end VulnScan.Toml
