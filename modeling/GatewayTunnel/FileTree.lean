import GatewayTunnel.Bytes
import GatewayTunnel.IoError
import GatewayTunnel.Text.Blank

/-!
# File trees

Files and directories with their permissions, and the names that lead to them. A path is walked name
by name; every name but the last has to lead to a directory. An operation that fails half way leaves
what it did before. The umask is 022; there are no symbolic links, and nobody is denied anything.
-/

namespace GatewayTunnel

inductive Node where
  | file (mode : Nat) (contents : Bytes)
  | directory (mode : Nat)
  deriving DecidableEq, Repr

namespace Node

def mode : Node → Nat
  | file mode _ => mode
  | directory mode => mode

def isDirectory : Node → Bool
  | file .. => false
  | directory _ => true

def withMode (mode : Nat) : Node → Node
  | file _ contents => file mode contents
  | directory _ => directory mode

end Node

abbrev Place := List String

/-- The nodes, and the place from which relative paths start. -/
structure FileTree where
  nodes : List (Place × Node)
  current : Place
  deriving DecidableEq, Repr

namespace FileTree

/-! ## Errors -/

def missing : IoError := .system 2

def present : IoError := .system 17

def notDirectory : IoError := .system 20

def isADirectory : IoError := .system 21

def nameTooLong : IoError := .system 36

/-! ## Nodes -/

/-- What the umask leaves of 777 for a new directory, and of 666 for a new file. -/
def directoryMode : Nat := 0o755

def fileMode : Nat := 0o644

def node? (t : FileTree) (place : Place) : Option Node :=
  (t.nodes.lookup place).or (if place.isEmpty then some (.directory directoryMode) else none)

def put (t : FileTree) (place : Place) (node : Node) : FileTree :=
  { t with nodes := (place, node) :: t.nodes.filter fun entry => entry.1 != place }

/-! ## Paths -/

def names (path : String) : List String :=
  (Text.splitWhere (· == '/') path.toList).map String.ofList

def isAbsolute (path : String) : Bool :=
  path.toList.head? == some '/'

def isIdle (name : String) : Bool :=
  name.isEmpty || name == "."

def maxName : Nat := 255

/-- Goes from a directory to the place that a name stands for, whether or not something is there. -/
def enter (t : FileTree) (place : Place) (name : String) : Except IoError Place :=
  match t.node? place with
  | none => .error missing
  | some (.file ..) => .error notDirectory
  | some (.directory _) =>
    if isIdle name then .ok place
    else if name == ".." then .ok place.dropLast
    else if maxName < name.utf8ByteSize then .error nameTooLong
    else .ok (place ++ [name])

def walk (t : FileTree) (path : String) (names : List String) : Except IoError Place :=
  names.foldlM t.enter (if isAbsolute path then [] else t.current)

def find (t : FileTree) (path : String) : Except IoError (Place × Node) := do
  if path.isEmpty then throw missing
  let place ← t.walk path (names path)
  match t.node? place with
  | some node => return (place, node)
  | none => throw missing

def isPresent (t : FileTree) (path : String) : Bool :=
  (t.find path).isOk

def isDirectory (t : FileTree) (path : String) : Bool :=
  match t.find path with
  | .ok (_, node) => node.isDirectory
  | .error _ => false

def contents (t : FileTree) (path : String) : Except IoError Bytes := do
  match ← t.find path with
  | (_, .file _ contents) => return contents
  | (_, .directory _) => throw isADirectory

/-! ## Changes -/

/-- A change that may fail, after parts of it are done. -/
abbrev Change := ExceptT IoError (StateM FileTree)

def ofExcept {α : Type} (r : Except IoError α) : Change α :=
  ExceptT.mk (return r)

def changeMode (path : String) (mode : Nat) : Change Unit := do
  let (place, node) ← ofExcept ((← get).find path)
  modify (·.put place (node.withMode mode))

def makeDirectory (path : String) : Change Unit := do
  let t ← get
  if path.isEmpty then throw missing
  let all := (names path).reverse.dropWhile (·.isEmpty)
  let place ← ofExcept (t.walk path (all.drop 1).reverse)
  let target ← ofExcept (t.enter place (all.headD ""))
  if all.headD "." == "." || all.headD ".." == ".." || (t.node? target).isSome then throw present
  modify (·.put target (.directory directoryMode))

def makeFile (path : String) : Change Unit := do
  let t ← get
  if path.isEmpty then throw missing
  let place ← ofExcept (t.walk path (names path))
  match t.node? place with
  | some (.directory _) => throw isADirectory
  | some (.file ..) => return
  | none => modify (·.put place (.file fileMode []))

def ancestors (path : String) : List String :=
  let absolute := isAbsolute path
  let all := names path
  let start := if !absolute && all.headD "" == "." then ["."] else []
  let parts := start ++ all.filter fun name => !isIdle name
  let ofParts (parts : List String) : String :=
    (if absolute then "/" else "") ++ String.intercalate "/" parts
  (List.range parts.length).reverse.map fun k => ofParts (parts.take k)

def makeOrKeep (path : String) : Change Unit := do
  try makeDirectory path
  catch e => if !(← get).isDirectory path then throw e

/-- Makes the directory of the first path, and those of the others as far as it needs them. An empty
path stands for the place where relative paths start. -/
def makeAll : List String → Change Unit
  | [] => return
  | path :: outer => do
    if path.isEmpty then return
    try makeDirectory path
    catch e =>
      if e.kind = .notFound then
        makeAll outer
        makeOrKeep path
      else if !(← get).isDirectory path then throw e

def makeWithParents (path : String) : Change Unit :=
  makeAll (path :: ancestors path)

end FileTree

end GatewayTunnel
