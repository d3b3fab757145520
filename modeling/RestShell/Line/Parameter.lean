import RestShell.Line.Fault
import RestShell.Text.Split

/-! Request parameters. A token names a value: `name` is true and `^name` false,
`name=text` a string, `name:=json` any value, `name+` a captured one. A dotted
name is a path through mappings. -/

namespace RestShell

open Json

namespace Parameter

/-- Puts a value at the end of a path of keys. Mappings on the way are made where
they are missing, and take the place of anything else. -/
def assign : List String → Value → Assoc Value → Assoc Value
  | [], _, m => m
  | [k], v, m => m.put k v
  | k :: j :: ks, v, m =>
    let inner : Assoc Value := match m.get? k with
      | some (.object fields) => fields
      | _ => []
    m.put k (.object (assign (j :: ks) v inner))

def lookup (data : Assoc Value) (name : String) : Except LineError Value :=
  match data.get? name with
  | some v => .ok v
  | none => .error (.unknownVariable name)

/-- The name and the value of a token, captured values looked up in `data`. -/
def read (data : Assoc Value) (token : String) : Except LineError (String × Value) := do
  let (name, value) ← match Text.cut '=' token with
    | none =>
      match Text.dropLast? '+' token with
      | some name => pure (name, ← lookup data name)
      | none =>
        match token.toList with
        | '^' :: r => pure (String.ofList (r.dropWhile (· == '^')), Value.bool false)
        | _ => pure (token, Value.bool true)
    | some (name, raw) =>
      match Text.dropLast? ':' name with
      | some name =>
        match Json.read raw with
        | .ok v => pure (name, v)
        | .error fault => throw (.grammar (.badParameter name fault))
      | none =>
        match Text.dropLast? '+' name with
        | some name => pure (name, ← lookup data name)
        | none => pure (name, Value.string raw)
  if name = "" then throw (.grammar (.namelessParameter token))
  return (name, value)

/-- The mapping with the token's value in it. -/
def add (data : Assoc Value) (token : String) (m : Assoc Value) : Except LineError (Assoc Value) :=
  (read data token).map fun (name, v) => assign (Text.split '.' name) v m

end Parameter
end RestShell
