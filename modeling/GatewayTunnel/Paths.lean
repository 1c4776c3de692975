import GatewayTunnel.FileTree

namespace GatewayTunnel

structure Environment where
  home : Option String
  accountHome : Option String
  configHome : Option String
  logDir : Option String
  deriving DecidableEq, Repr

namespace Paths

def join (dir name : String) : String :=
  if dir.isEmpty || dir.toList.getLast? == some '/' then dir ++ name else dir ++ "/" ++ name

def home? (env : Environment) : Option String :=
  (env.home.filter fun dir => !dir.isEmpty).or env.accountHome

/-- The directory of the configuration. A relative setting does not count. -/
def configDir? (env : Environment) : Option String :=
  (home? env).map fun home =>
    let base := (env.configHome.filter FileTree.isAbsolute).getD (join home ".config")
    join base "sshtun"

def configFile? (env : Environment) : Option String :=
  (configDir? env).map (join · "sshtun.toml")

/-- The directory of the logs. A blank setting means that there is none. -/
def logDir? (env : Environment) : Option String :=
  match env.logDir with
  | some dir => some (Text.trim dir) |>.filter fun dir => !dir.isEmpty
  | none => (configDir? env).map (join · "logs")

def privateMode : Nat := 0o700

/-- Makes a directory that only its owner may use, unless something is there. -/
def ensurePrivate (dir : String) : FileTree.Change Unit := do
  if !(← get).isPresent dir then
    FileTree.makeWithParents dir
    FileTree.changeMode dir privateMode

def undetermined (what : String) : IoError :=
  .described .notFound ("Could not determine " ++ what ++ " directory")

def ensure (what : String) (dir? : Option String) : FileTree.Change String := do
  match dir? with
  | none => throw (undetermined what)
  | some dir =>
    ensurePrivate dir
    return dir

def ensureConfig (env : Environment) : FileTree.Change String :=
  ensure "config" (configDir? env)

def ensureLog (env : Environment) : FileTree.Change String :=
  ensure "log" (logDir? env)

end Paths

end GatewayTunnel
