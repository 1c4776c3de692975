import GatewayTunnel.Command.Arguments
import GatewayTunnel.Logging.Filter
import GatewayTunnel.Paths
import GatewayTunnel.Tunnel

namespace GatewayTunnel.Command

/-- A failure, with its causes from the outermost in. -/
structure Failure where
  message : String
  causes : List String
  deriving DecidableEq, Repr

namespace Failure

def marked (mark indent text : String) : List String :=
  match Text.splitWhere (· == '\n') text.toList with
  | [] => []
  | first :: rest =>
    (mark ++ String.ofList first) :: rest.map fun line => indent ++ String.ofList line

def blanks (n : Nat) : String :=
  String.ofList (List.replicate n ' ')

def numbered (n : Nat) (text : String) : List String :=
  let number := Text.Numeral.text n
  marked (blanks (5 - number.length) ++ number ++ ": ") (blanks 7) text

def lines (f : Failure) : List String :=
  let causes := match f.causes with
    | [] => []
    | [cause] => marked (blanks 4) (blanks 4) cause
    | causes => causes.zipIdx.flatMap fun (cause, n) => numbered n cause
  marked "Error: " "" f.message ++ (if causes.isEmpty then [] else "" :: "Caused by:" :: causes)

end Failure

structure Surroundings where
  environment : Environment
  files : FileTree
  listeners : Listeners
  filter : LogFilter

structure Outcome where
  files : FileTree
  logDir : Option String
  records : List LogRecord
  failure : Option Failure

structure Progress where
  files : FileTree
  records : List LogRecord

abbrev Step := ExceptT Failure (StateM Progress)

def log (r : LogRecord) : Step Unit :=
  modify fun s => { s with records := s.records ++ [r] }

def orFail {ε α : Type} (context : String) (causes : ε → List String) : Except ε α → Step α
  | .ok a => return a
  | .error e => throw ⟨context, causes e⟩

def change {α : Type} (c : FileTree.Change α) : Step (Except IoError α) := do
  let (r, files) := c.run.run (← get).files
  modify fun s => { s with files }
  return r

/-- Makes the directory of the log. One that was asked for has to be made; without one there may be
none. -/
def makeLogDir (a : Arguments) (env : Environment) : Step (Option String) := do
  match a.logDir with
  | some dir =>
    orFail ("creating log directory " ++ dir) (fun e => [IoError.message e])
      (← change (Paths.ensurePrivate dir))
    return some dir
  | none =>
    match ← change (Paths.ensureLog env) with
    | .ok dir => return some dir
    | .error _ => return none

def configFile (a : Arguments) (env : Environment) : Step String :=
  match a.config.or (Paths.configFile? env) with
  | some path => return path
  | none => throw ⟨"could not determine config directory", []⟩

def configCauses (e : ConfigError) : List String :=
  e.message :: e.sources

def loaded (path : String) (s : Config.Settings) : LogRecord :=
  ⟨.debug, "sshtun::config",
    "Loaded config from " ++ path ++ " (" ++ Text.Numeral.text s.forwards.length ++ " forwards)", []⟩

def loadSettings (path : String) : Step Config.Settings := do
  let settings ← orFail ("loading " ++ path) configCauses
    (Config.Settings.load path ((← get).files.contents path))
  log (loaded path settings)
  if settings.forwards.isEmpty then throw ⟨path ++ " defines no [[forward]] entries", []⟩
  return settings

def makeOutbound (s : Config.Settings) : Step Outbound := do
  let outbound ← orFail "configuring outbound" configCauses (Outbound.ofSettings s)
  outbound.warnings.forM fun warning => log ⟨.warn, "sshtun::outbound", warning, []⟩
  return outbound

def bindAll (l : Listeners) : List Config.Forward → Step (List LocalForward)
  | [] => return []
  | f :: rest => do
    let (forward, l) ← orFail ("binding " ++ f.listen) (fun e => [IoError.message e])
      (LocalForward.bind l f)
    return forward :: (← bindAll l rest)

def quietLife (forwards : Nat) : List Tunnel.Action :=
  let each (a : Forwarding.Action) := (List.range forwards).map fun i => Tunnel.Action.forward i a
  each .start ++ [.interrupt] ++ each .stop ++ each .finish ++
    [.proceed, .request (.manager (.proceed Tunnel.closeCall)),
      .request (.manager (.proceed Tunnel.closeCall)),
      .request (.manager (.proceed Tunnel.closeCall)), .proceed]

def serve (p : Tunnel.Plan) : Step Unit := do
  match Tunnel.run p (.start p) (quietLife p.forwards.length) with
  | some (s, events) =>
    (events.filterMap Tunnel.Event.record?).forM log
    match s.phase with
    | .done r => orFail "closing gateway transport" (fun e => TunnelError.message e :: e.sources) r
    | _ => return
  | none => return

def steps (a : Arguments) (s : Surroundings) (logDir : Option String) : Step Unit := do
  log (.program ("Starting " ++ versionText))
  logDir.forM fun dir => log (.program ("Logging to " ++ dir))
  let path ← configFile a s.environment
  let settings ← loadSettings path
  let outbound ← makeOutbound settings
  let forwards ← bindAll s.listeners settings.forwards
  serve ⟨outbound.gateway, forwards⟩

/-- A run that is interrupted as soon as it serves. Without a log directory that was asked for, nothing
is recorded. -/
def run (a : Arguments) (s : Surroundings) : Outcome :=
  let (made, progress) := (makeLogDir a s.environment).run.run ⟨s.files, []⟩
  match made with
  | .error failure => ⟨progress.files, none, [], some failure⟩
  | .ok logDir =>
    let (r, progress) := (steps a s logDir).run.run progress
    let failure := match r with
      | .ok () => none
      | .error failure => some failure
    ⟨progress.files, logDir, progress.records.filter s.filter.passes, failure⟩

def Outcome.code (o : Outcome) : Nat :=
  if o.failure.isSome then 1 else 0

def Outcome.lines (o : Outcome) : List String :=
  o.records.map LogRecord.line

def refusedCode : Nat := 2

end GatewayTunnel.Command
