import GatewayTunnel.Config.Value

/-!
# The tree of a document

A document adds one entry at a time, below a path of keys. How a table came to be decides what may
still be added to it: a header opens a table once, and dotted keys only go on with tables that were
not opened by a header.
-/

namespace GatewayTunnel.Toml

open Config

inductive Origin where
  /-- It has a header of its own. -/
  | header
  /-- It lies on the path to another header. -/
  | implied
  /-- It lies on the path of a dotted key. -/
  | dotted
  deriving DecidableEq, Repr

inductive Node where
  | value (v : Value)
  | table (origin : Origin) (entries : List (String × Node))
  | tables (items : List (List (String × Node)))
  deriving Inhabited

abbrev Entries := List (String × Node)

namespace Entries

def find? (key : String) (entries : Entries) : Option Node :=
  (List.find? (fun entry => entry.1 == key) entries).map (·.2)

def put (key : String) (node : Node) : Entries → Entries
  | [] => [(key, node)]
  | entry :: rest => if entry.1 == key then (key, node) :: rest else entry :: put key node rest

def erase (key : String) (entries : Entries) : Entries :=
  List.filter (fun entry => entry.1 != key) entries

def modifyAt (made : Origin) (change : Origin → Entries → Option Entries) :
    Origin → List String → Entries → Option Entries
  | origin, [], entries => change origin entries
  | _, key :: path, entries =>
    match find? key entries with
    | none => do
      let inner ← modifyAt made change made path []
      return put key (.table made inner) entries
    | some (.value _) => none
    | some (.table origin inner) =>
      if made = .dotted ∧ origin = .header then none
      else do
        let inner ← modifyAt made change origin path inner
        return put key (.table origin inner) entries
    | some (.tables items) => do
      let last ← items.getLast?
      let last ← modifyAt made change .header path last
      return put key (.tables (items.dropLast ++ [last])) entries

def addValue (path : List String) (key : String) (value : Value) (entries : Entries) :
    Option Entries :=
  modifyAt .dotted (fun origin inner =>
    if path.isEmpty ∨ origin = .dotted then
      if (find? key inner).isSome then none else some (put key (.value value) inner)
    else none) .header path entries

end Entries

mutual

def Node.toValue : Node → Value
  | .value v => v
  | .table _ entries => .table (entryValues entries)
  | .tables items => .array (tableValues items)

def entryValues : List (String × Node) → List (String × Value)
  | [] => []
  | (key, node) :: rest => (key, node.toValue) :: entryValues rest

def tableValues : List (List (String × Node)) → List Value
  | [] => []
  | entries :: rest => .table (entryValues entries) :: tableValues rest

end

structure Draft where
  root : Entries
  path : List String
  inArray : Bool
  entries : Entries

namespace Draft

def empty : Draft := ⟨[], [], false, []⟩

def close (d : Draft) : Option Entries :=
  match d.path.getLast? with
  | none => some d.entries
  | some key =>
    Entries.modifyAt .implied (fun _ parent =>
      match d.inArray, Entries.find? key parent with
      | true, none => some (Entries.put key (.tables [d.entries]) parent)
      | true, some (.tables items) =>
        some (Entries.put key (.tables (items ++ [d.entries])) parent)
      | false, none => some (Entries.put key (.table .header d.entries) parent)
      | _, _ => none) .header d.path.dropLast d.root

def openTable (path : List String) (d : Draft) : Option Draft := do
  let root ← d.close
  let key ← path.getLast?
  let kept ← Entries.modifyAt .implied (fun _ parent =>
    match Entries.find? key parent with
    | none => some parent
    | some (.table .implied _) => some parent
    | some _ => none) .header path.dropLast root
  let found := entriesAt path.dropLast key kept
  let root ← Entries.modifyAt .implied (fun _ parent => some (Entries.erase key parent)) .header
    path.dropLast kept
  return ⟨root, path, false, found⟩
where
  entriesAt : List String → String → Entries → Entries
    | [], key, entries =>
      match Entries.find? key entries with
      | some (.table _ inner) => inner
      | _ => []
    | step :: path, key, entries =>
      match Entries.find? step entries with
      | some (.table _ inner) => entriesAt path key inner
      | some (.tables items) => entriesAt path key (items.getLast?.getD [])
      | _ => []

def openItem (path : List String) (d : Draft) : Option Draft := do
  let root ← d.close
  let key ← path.getLast?
  let root ← Entries.modifyAt .implied (fun _ parent =>
    match Entries.find? key parent with
    | none => some parent
    | some (.tables _) => some parent
    | some _ => none) .header path.dropLast root
  return ⟨root, path, true, []⟩

def addValue (path : List String) (key : String) (value : Value) (d : Draft) : Option Draft := do
  return { d with entries := ← Entries.addValue path key value d.entries }

end Draft

end GatewayTunnel.Toml
