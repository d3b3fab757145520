import RestShell.Line.Arguments
import RestShell.Settings.Profile

/-! The options of a session: what is built in, over it what the profile sets, and over
both what the words of the command line say. -/

namespace RestShell

open Json

structure Options where
  url : String := "https://localhost:443/"
  insecure : Bool := false
  color : Bool := false
  formatted : Bool := true
  verbose : Bool := false
  invert : Bool := false
  shell : Bool := false
  credential : Option String := none
  histfile : String
deriving DecidableEq, Repr

namespace Options

/-- The built-in options in a home folder. -/
def builtIn (home : String) : Options := { histfile := expandHome home "~/.resht_history" }

/-- The options with what a profile sets. -/
def withProfile (o : Options) (home : String) (p : Profile) : Options :=
  { o with
    url := p.url.getD o.url
    insecure := p.insecure.getD o.insecure
    color := p.color.getD o.color
    credential := p.credential <|> o.credential
    histfile := (p.histfile.map (expandHome home)).getD o.histfile }

/-- The options with what parsed words set. -/
def withArguments (o : Options) (a : Arguments) : Options :=
  { o with
    url := a.url.getD o.url
    credential := a.credential <|> o.credential
    insecure := o.insecure || a.insecure
    shell := o.shell || a.shell
    verbose := o.verbose || a.verbose
    invert := o.invert || a.invert
    color := a.color
    formatted := a.formatted }

/-- Reads the words of the command line, with nothing captured yet, into the options. -/
def readWords (o : Options) (words : List String) : Except LineError (Arguments × Options) :=
  (Arguments.read [] o.color o.formatted words).map fun a => (a, o.withArguments a)

/-- The options as they are listed; the credential is left out. -/
def listing (o : Options) : Value :=
  .object [("url", .string o.url), ("insecure", .bool o.insecure), ("color", .bool o.color),
    ("formatted", .bool o.formatted), ("verbose", .bool o.verbose),
    ("invert_color", .bool o.invert), ("shell", .bool o.shell), ("histfile", .string o.histfile)]

end Options
end RestShell
