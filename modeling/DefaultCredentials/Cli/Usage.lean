/-!
# Usage and help texts
-/

namespace DefaultCredentials.Cli

/-- The commands. -/
inductive CommandName
  | info
  | token
  | mtls
  deriving Repr, DecidableEq

namespace CommandName

def all : List CommandName :=
  [info, token, mtls]

def word : CommandName → String
  | info => "info"
  | token => "token"
  | mtls => "mtls"

def ofWord? (s : String) : Option CommandName :=
  all.find? (·.word == s)

end CommandName

def programName : String :=
  "adcred"

def usage : String :=
  "usage: adcred [-h] [--log-level LOG_LEVEL] [--json-logs] \x7binfo,token,mtls\x7d ...\n"

def help : String :=
  usage ++ "\nApplication Default Credentials - inspect credential discovery\n"
    ++ "\npositional arguments:\n"
    ++ "  \x7binfo,token,mtls\x7d\n"
    ++ "    info                Show the credential source\n"
    ++ "    token               Print a valid access token\n"
    ++ "    mtls                Show the client certificate decision\n"
    ++ "\noptions:\n"
    ++ "  -h, --help            show this help message and exit\n"
    ++ "  --log-level LOG_LEVEL\n"
    ++ "                        Minimum log level (or set ADCRED_LOG_LEVEL env var)\n"
    ++ "  --json-logs           Emit JSON log lines (or set ADCRED_JSON_LOGS env var)\n"

namespace CommandName

def usage : CommandName → String
  | info => "usage: adcred info [-h]\n"
  | token => "usage: adcred token [-h] [--scopes SCOPES]\n"
  | mtls => "usage: adcred mtls [-h]\n"

def help (c : CommandName) : String :=
  c.usage ++ "\noptions:\n" ++ match c with
    | token => "  -h, --help       show this help message and exit\n"
        ++ "  --scopes SCOPES  Comma-separated scopes for service account credentials\n"
    | _ => "  -h, --help  show this help message and exit\n"

end CommandName
end DefaultCredentials.Cli
