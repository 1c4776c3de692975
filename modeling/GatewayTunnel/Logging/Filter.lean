import GatewayTunnel.Logging.Record

namespace GatewayTunnel

/-- The verbosities: nothing, then one more severity each, then everything. -/
abbrev Verbosity := Nat

def Severity.verbosity : Severity → Verbosity
  | error => 1
  | warn => 2
  | info => 3
  | debug => 4

namespace Verbosity

def all : Verbosity := 5

def names : List (String × Verbosity) :=
  [("off", 0), ("error", 1), ("warn", 2), ("info", 3), ("debug", 4), ("trace", 5)]

def ofText? (cs : List Char) : Option Verbosity :=
  (Text.Numeral.read all cs).or (names.lookup (String.ofList (cs.map Char.toLower)))

end Verbosity

structure Directive where
  target : Option String
  verbosity : Verbosity
  spans : Bool
  deriving DecidableEq, Repr

namespace Directive

def startsName (c : Char) : Bool :=
  c.isAlphanum || 0x80 ≤ c.toNat || c == '-' || c == ':' || c == '_'

def withVerbosity (target : Option String) (spans : Bool) (cs : List Char) : Option Directive :=
  if cs.isEmpty then some ⟨target, Verbosity.all, spans⟩
  else (Verbosity.ofText? cs).map (⟨target, ·, spans⟩)

def readEnd (target : Option String) (text trimmed : List Char) (place : Nat) : Option Directive :=
  match trimmed.drop place with
  | [] => some ⟨target, Verbosity.all, true⟩
  | '=' :: _ => withVerbosity target true (text.drop (place + 1))
  | _ => none

def readSpan (target : Option String) (text trimmed : List Char) (place : Nat) : Option Directive :=
  let name := (trimmed.drop place).takeWhile fun c => c != ']' && c != '\x7b'
  let place := place + name.length
  match trimmed.drop place with
  | ']' :: _ => readEnd target text trimmed (place + 1)
  | '\x7b' :: rest =>
    let fields := rest.takeWhile (· != '\x7d')
    match rest.drop fields.length with
    | '\x7d' :: ']' :: _ => readEnd target text trimmed (place + fields.length + 3)
    | _ => none
  | _ => none

def read? (text : List Char) : Option Directive :=
  let trimmed := Text.trimmed text
  match trimmed with
  | [] => none
  | '[' :: _ => readSpan none text trimmed 0
  | c :: _ =>
    let place := (trimmed.takeWhile fun c => c != '=' && c != '[').length
    let target := some (String.ofList (text.take place))
    if !startsName c then none
    else
      match trimmed.drop place with
      | '=' :: _ => withVerbosity target false (text.drop (place + 1))
      | '[' :: _ => readSpan target text trimmed place
      | _ =>
        match Verbosity.ofText? text with
        | some verbosity => some ⟨none, verbosity, false⟩
        | none => some ⟨some (String.ofList text), Verbosity.all, false⟩

def fits (d : Directive) (target : String) : Bool :=
  !d.spans && d.target.all fun name => name.toList.isPrefixOf target.toList

def specificity (d : Directive) : Nat :=
  match d.target with
  | some target => target.utf8ByteSize + 1
  | none => 0

end Directive

structure LogFilter where
  directives : List Directive
  deriving DecidableEq, Repr

namespace LogFilter

def standard : LogFilter := ⟨[⟨none, Severity.info.verbosity, false⟩]⟩

def empty : LogFilter := ⟨[⟨none, Severity.error.verbosity, false⟩]⟩

def read? (s : String) : Option LogFilter := do
  let pieces := (Text.splitWhere (· == ',') s.toList).filter fun piece => !piece.isEmpty
  let directives ← pieces.mapM Directive.read?
  return if directives.isEmpty then empty else ⟨directives⟩

def ofSetting (setting : Option String) : LogFilter :=
  (setting.bind read?).getD standard

/-- The more specific of two directives, or the second. -/
def prefer (best : Option Directive) (d : Directive) : Option Directive :=
  match best with
  | some b => if d.specificity < b.specificity then best else some d
  | none => some d

def passes (f : LogFilter) (r : LogRecord) : Bool :=
  match (f.directives.filter (·.fits r.target)).foldl prefer none with
  | some d => r.severity.verbosity ≤ d.verbosity
  | none => false

end LogFilter

end GatewayTunnel
