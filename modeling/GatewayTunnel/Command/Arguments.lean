namespace GatewayTunnel.Command

structure Arguments where
  config : Option String
  logDir : Option String
  deriving DecidableEq, Repr

inductive Invocation where
  | run (a : Arguments)
  | help
  | version
  | refused
  deriving DecidableEq, Repr

inductive Choice where
  | config
  | logDir
  deriving DecidableEq, Repr

inductive Argument where
  | help
  | version
  | choice (option : Choice) (value : Option String)
  | escape
  | unknown
  deriving DecidableEq, Repr

namespace Argument

def ofLong (cs : List Char) : Argument :=
  let name := String.ofList (cs.takeWhile (· != '='))
  let value := match cs.dropWhile (· != '=') with
    | [] => none
    | _ :: value => some (String.ofList value)
  match name, value with
  | "help", none => help
  | "version", none => version
  | "config", value => choice .config value
  | "log-dir", value => choice .logDir value
  | _, _ => unknown

/-- An argument with a short name, from the text after the hyphen. An equals sign before the value does
not belong to it. -/
def ofShort : List Char → Argument
  | 'h' :: _ => help
  | 'V' :: _ => version
  | ['c'] => choice .config none
  | 'c' :: '=' :: value => choice .config (some (String.ofList value))
  | 'c' :: value => choice .config (some (String.ofList value))
  | _ => unknown

def ofText (s : String) : Argument :=
  match s.toList with
  | ['-', '-'] => escape
  | '-' :: '-' :: cs => ofLong cs
  | '-' :: cs => ofShort cs
  | _ => unknown

def isValue (s : String) : Bool :=
  match s.toList with
  | ['-'] => true
  | '-' :: _ => false
  | cs => !cs.isEmpty

end Argument

def Arguments.set (a : Arguments) (option : Choice) (value : String) : Option Arguments :=
  if value.isEmpty then none
  else
    match option with
    | .config => if a.config.isSome then none else some { a with config := some value }
    | .logDir => if a.logDir.isSome then none else some { a with logDir := some value }

def readArguments (a : Arguments) : List String → Invocation
  | [] => .run a
  | s :: rest =>
    match Argument.ofText s with
    | .help => .help
    | .version => .version
    | .escape => if rest.isEmpty then .run a else .refused
    | .unknown => .refused
    | .choice option (some value) =>
      match a.set option value with
      | some a => readArguments a rest
      | none => .refused
    | .choice option none =>
      match rest with
      | [] => .refused
      | value :: rest =>
        if Argument.isValue value then
          match a.set option value with
          | some a => readArguments a rest
          | none => .refused
        else .refused

def Invocation.ofArguments (arguments : List String) : Invocation :=
  readArguments ⟨none, none⟩ arguments

def versionText : String := "sshtun 0.1.0"

def helpLines : List String := [
  "Tunnel local TCP ports through an SSH gateway",
  "",
  "Usage: sshtun [OPTIONS]",
  "",
  "Options:",
  "  -c, --config <CONFIG>    Config file (defaults to the platform config directory)",
  "      --log-dir <LOG_DIR>  Directory for the rotating log file; overrides SSHTUN_LOG_DIR",
  "  -h, --help               Print help",
  "  -V, --version            Print version"]

end GatewayTunnel.Command
