/-! Terminal colours. A colour is an escape sequence: the escape character, `[`, digits
and semicolons, and a closing `m`. -/

namespace RestShell

/-- The parts of a JSON text that have colours of their own. -/
inductive Mark where
  | key | string | number | literal | punctuation
deriving DecidableEq, Repr

namespace Ansi

/-- The escape sequence of some attributes. -/
def sequence (attributes : String) : String := "\x1b[" ++ attributes ++ "m"

def reset : String := sequence "0"
def bold : String := sequence "1"
def red : String := sequence "31"
def green : String := sequence "32"
def yellow : String := sequence "33"
def blue : String := sequence "34"
def magenta : String := sequence "35"
def cyan : String := sequence "36"
def brightMagenta : String := sequence "95"
def brightWhite : String := sequence "97"
def orange : String := sequence "38;5;208"
def darkGray : String := sequence "38;5;240"
/-- Black on green and black on red, for a status. -/
def goodBadge : String := sequence "0;30;42"
def badBadge : String := sequence "0;30;41"
/-- Underlined green and red, for what stands behind a status. -/
def goodNote : String := sequence "4;32;40"
def badNote : String := sequence "4;31;40"

end Ansi

/-- A colour for every part. -/
abbrev Palette := Mark → String

namespace Palette
open Ansi

/-- For a dark background. -/
def dark : Palette
  | .key => cyan
  | .string => green
  | .number => yellow
  | .literal => brightMagenta
  | .punctuation => brightWhite

/-- For a light background. -/
def light : Palette
  | .key => blue
  | .string => red
  | .number => orange
  | .literal => magenta
  | .punctuation => darkGray

end Palette
end RestShell
