import GatewayTunnel.Text.Quoted

namespace GatewayTunnel.Text

def shownRecord (name : String) (fields : List (String × String)) : String :=
  let parts := fields.map fun (field, value) => field ++ ": " ++ value
  name ++ " \x7b " ++ String.intercalate ", " parts ++ " \x7d"

def shownList (items : List String) : String :=
  "[" ++ String.intercalate ", " items ++ "]"

def shownCase (name part : String) : String :=
  name ++ "(" ++ part ++ ")"

def shownOption : Option String → String
  | some part => shownCase "Some" part
  | none => "None"

def shownBool (b : Bool) : String :=
  if b then "true" else "false"

end GatewayTunnel.Text
