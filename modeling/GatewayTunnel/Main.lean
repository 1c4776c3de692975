import GatewayTunnel.Command.Run

namespace GatewayTunnel.Command

def addPath (t : FileTree) (path : String) : IO FileTree := do
  let start := if FileTree.isAbsolute path then [] else t.current
  let all := start ++ (FileTree.names path).filter fun name => !FileTree.isIdle name
  let mut tree := t
  for k in List.range all.length do
    let place := all.take (k + 1)
    match ← (IO.FS.readBinFile ("/" ++ String.intercalate "/" place)).toBaseIO with
    | .ok contents => return tree.put place (.file FileTree.fileMode contents.toList)
    | .error (.inappropriateType ..) => tree := tree.put place (.directory FileTree.directoryMode)
    | .error _ => return tree
  return tree

def readFiles (a : Arguments) (env : Environment) : IO FileTree := do
  let current := FileTree.names (toString (← IO.currentDir))
  let mut tree : FileTree := ⟨[], current.filter fun name => !name.isEmpty⟩
  for path in [some ".", a.config.or (Paths.configFile? env), a.logDir.or (Paths.logDir? env)] do
    if let some path := path then tree ← addPath tree path
  return tree

def writeLog (before : FileTree) (dir : String) (lines : List String) : IO Unit := do
  if !before.isPresent dir then
    IO.FS.createDirAll dir
    IO.setAccessRights dir { user := { read := true, write := true, execution := true } }
  let file ← IO.FS.Handle.mk (Paths.join dir "sshtun.log") .append
  lines.forM file.putStrLn

def runHere (a : Arguments) : IO UInt32 := do
  let env : Environment := {
    home := ← IO.getEnv "HOME", accountHome := none
    configHome := ← IO.getEnv "XDG_CONFIG_HOME", logDir := ← IO.getEnv "SSHTUN_LOG_DIR" }
  let files ← readFiles a env
  let outcome := run a {
    environment := env, files, listeners := ⟨[], some (.bare .unsupported)⟩
    filter := .ofSetting (← IO.getEnv "RUST_LOG") }
  outcome.lines.forM fun line => IO.println line
  if let some dir := outcome.logDir then writeLog files dir outcome.lines
  if let some failure := outcome.failure then failure.lines.forM fun line => IO.eprintln line
  return UInt32.ofNat outcome.code

end GatewayTunnel.Command

open GatewayTunnel in
def main (arguments : List String) : IO UInt32 := do
  match Command.Invocation.ofArguments arguments with
  | .help => Command.helpLines.forM fun line => IO.println line; return 0
  | .version => IO.println Command.versionText; return 0
  | .refused =>
    Command.helpLines.forM fun line => IO.eprintln line
    return UInt32.ofNat Command.refusedCode
  | .run a => Command.runHere a
