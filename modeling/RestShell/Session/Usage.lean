/-! The help text. -/

namespace RestShell

/-- What `help` shows. -/
def usage : String :=
  String.join <| List.map (· ++ "\n")
   ["resht - a shell for RESTful HTTP APIs",
    "",
    "USAGE:",
    "    resht [-p PROFILE] [OPTIONS] [VERB [PATH] [PARAM ...]]",
    "",
    "VERBS:",
    "    get, head, post, put, patch, delete (del), options (opts, opt)",
    "",
    "PARAMETERS:",
    "    foo            foo=true",
    "    ^foo           foo=false",
    "    foo=bar        string value; dotted names nest: a.b=c sends \x7b\"a\": \x7b\"b\": \"c\"\x7d\x7d",
    "    foo:=JSON      JSON value, e.g. ids:=[1,2]",
    "    foo+           value captured earlier with -d (also foo+=)",
    "",
    "OPTIONS:",
    "    -B, --basic USER:PASS     HTTP basic auth for this request",
    "    -c, --color               color output",
    "    -C, --no-color            no color output",
    "    -d, --data NAME[+]=PATH   capture PATH from the response as NAME ('+' also",
    "                              adds it to the env vars sent with each request)",
    "    -f, --form                send the body form-encoded",
    "    -h, --help                show this help",
    "    -H, --header 'NAME: VAL'  add an HTTP header",
    "    -i, --invert              colors for light backgrounds",
    "    --insecure                skip TLS certificate and hostname checks",
    "    -j, --json JSON           merge a JSON object into the parameters",
    "    -Q, --query NAME=VAL      add a query string parameter",
    "    -r, --raw                 unformatted output",
    "    -s, --shell               start the interactive shell",
    "    -u, --url URL             base URL, e.g. https://api.example.com/v1",
    "    -v, --verbose             log request and response details",
    "    -x, --extract PATH        show only PATH of the response, e.g. items.0.id",
    "    -X, --exclude PATH        remove PATH from the response",
    "    > FILE, >> FILE           write or append the response to FILE",
    "",
    "SHELL COMMANDS:",
    "    cd [PATH|-]               change the working path; '-' goes back",
    "    config                    show the session options",
    "    data [NAME|-=NAME ...]    list or remove captured values",
    "    env [NAME|-=NAME|+=NAME]  list, remove or add (from captured data) env vars",
    "    help, ?                   show this help",
    "    quit                      leave the shell (or Ctrl-D)",
    "    set NAME=VALUE ...        set color, formatted, verbose, invert_color or url",
    "    sh CMD [ARG ...]          run a system command",
    "    debug                     dump the shell state",
    "",
    "ENVIRONMENT:",
    "    RESHT_PROFILE_PATH        profile file (default ~/.resht/profile)",
    "    RESHT_LOG_LEVEL           log filter: trace, debug, info, warn, error"]

end RestShell
