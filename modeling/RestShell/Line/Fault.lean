import RestShell.Line.Flag
import RestShell.Json.Reader

/-! What can be wrong with a line, as causes. The wording of each is in one place. -/

namespace RestShell

/-- A breach of the line's grammar. -/
inductive SyntaxFault where
  | openQuotation
  | danglingEscape
  | missingValue (flag : ValueFlag)
  | badCredential
  | badUpload
  | noUploads
  | badQuery
  | badHeader
  | badJson (fault : Json.Fault)
  | notMapping
  | badCapture
  | badParameter (name : String) (fault : Json.Fault)
  | namelessParameter (token : String)
  | badPath (path : String)
  | emptySet
  | badSwitch (name : String)
  | unknownOption (name : String)
  | noProgram
deriving DecidableEq, Repr

def ValueFlag.missing : ValueFlag → String
  | .redirect _ => "Missing file path to output result to."
  | .basic => "Missing HTTP basic auth user/pass parameter."
  | .file => "Missing value for file to upload."
  | .query => "Missing query name=value pair."
  | .header => "Missing value for HTTP header."
  | .json => "Missing value for JSON API params."
  | .url => "Missing value for URL."
  | .capture => "Missing value for --data."
  | .extract => "Missing value for --extract."
  | .exclude => "Missing value for --exclude."

def SyntaxFault.message : SyntaxFault → String
  | .openQuotation => "No closing quotation"
  | .danglingEscape => "No escaped character"
  | .missingValue flag => flag.missing
  | .badCredential => "Expected HTTP basic auth in format 'user:pass'."
  | .badUpload => "Invalid file name=file_path pair."
  | .noUploads => "File uploads are not supported."
  | .badQuery => "Invalid query name=value pair."
  | .badHeader => "Invalid HTTP header."
  | .badJson fault => "Invalid JSON: " ++ fault.message
  | .notMapping => "JSON values must be a dictionary of arguments."
  | .badCapture => "Invalid parameter for --data: expected format NAME[+]=PATH"
  | .badParameter name fault => "Invalid JSON value for \"" ++ name ++ "\": " ++ fault.message
  | .namelessParameter token => "Missing parameter name in \"" ++ token ++ "\""
  | .badPath path => "Invalid path: \"" ++ path ++ "\""
  | .emptySet => "Usage: set NAME=VALUE ..."
  | .badSwitch name => "Invalid value for \"" ++ name ++ "\": expected true or false."
  | .unknownOption name => "Unrecognized configuration option: " ++ name ++ "."
  | .noProgram => "Missing command to run."

/-- Why a line could not be understood. -/
inductive LineError where
  | grammar (fault : SyntaxFault)
  | unknownVariable (name : String)
deriving DecidableEq, Repr

def LineError.message : LineError → String
  | .grammar fault => fault.message
  | .unknownVariable name => "Variable \"" ++ name ++ "\" is not in memory"

end RestShell
