/-! The flags of a command line. A switch stands alone; a value flag takes the
next word, whatever it looks like; a redirection names a file for the response. -/

namespace RestShell

/-- Whether a file is replaced or continued. -/
inductive WriteMode where
  | replace
  | continue
deriving DecidableEq, Repr

/-- Where a response goes instead of the screen. -/
structure Redirect where
  path : String
  mode : WriteMode
deriving DecidableEq, Repr

inductive Switch where
  | invert | insecure | color | noColor | verbose | form | help | shell | raw
deriving DecidableEq, Repr

inductive ValueFlag where
  | redirect (mode : WriteMode)
  | basic | file | query | header | json | url | capture | extract | exclude
deriving DecidableEq, Repr

/-- What a word is by its looks. -/
inductive Item where
  | blank
  | redirect (r : Redirect)
  | switch (s : Switch)
  | valued (f : ValueFlag)
  | bare
deriving DecidableEq, Repr

def Switch.ofWord? : String → Option Switch
  | "-i" | "--invert" => some .invert
  | "--insecure" => some .insecure
  | "-c" | "--color" => some .color
  | "-C" | "--no-color" => some .noColor
  | "-v" | "--verbose" => some .verbose
  | "-f" | "--form" => some .form
  | "-h" | "--help" => some .help
  | "-s" | "--shell" => some .shell
  | "-r" | "--raw" => some .raw
  | _ => none

def ValueFlag.ofWord? : String → Option ValueFlag
  | ">" => some (.redirect .replace)
  | ">>" => some (.redirect .continue)
  | "-B" | "--basic" => some .basic
  | "-F" | "--file" => some .file
  | "-Q" | "--query" => some .query
  | "-H" | "--header" => some .header
  | "-j" | "--json" => some .json
  | "-u" | "--url" => some .url
  | "-d" | "--data" => some .capture
  | "-x" | "--extract" => some .extract
  | "-X" | "--exclude" => some .exclude
  | _ => none

/-- A redirection with its file in the same word. -/
def Redirect.ofWord? (word : String) : Option Redirect :=
  match word.toList with
  | '>' :: '>' :: path => some ⟨.ofList path, .continue⟩
  | '>' :: path => some ⟨.ofList path, .replace⟩
  | _ => none

def Item.ofWord (word : String) : Item :=
  if word = "" then .blank
  else match ValueFlag.ofWord? word, Redirect.ofWord? word, Switch.ofWord? word with
    | some f, _, _ => .valued f
    | none, some r, _ => .redirect r
    | none, none, some s => .switch s
    | none, none, none => .bare

/-- A word of three characters or more that starts with a lone minus is a bundle:
`-rv` stands for `-r -v`. After `--`, `-+` and `-=` it is left alone. -/
def unbundle (word : String) : List String :=
  match word.toList with
  | '-' :: c :: d :: r =>
    if c = '-' ∨ c = '+' ∨ c = '=' then [word] else (c :: d :: r).map fun x => .ofList ['-', x]
  | _ => [word]

end RestShell
