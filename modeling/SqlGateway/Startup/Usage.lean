/-
# What the command line is told

The wording of everything that keeps the command line from yielding settings.  A question for help or
for the version is answered on the standard output and is no failure; the rest is.
-/
import SqlGateway.Startup.CommandLine

namespace SqlGateway.Startup

/-- The name of the program. -/
def programName : String := "sgt-gateway"

/-- The version of the program. -/
def programVersion : String := "0.1.0"

/-- An option with its value, as it is shown. -/
def Setting.shown : Setting → String
  | config => "--config <CONFIG>"
  | port => "--port <PORT>"

/-- The wording of a port's fault. -/
def PortFault.message : PortFault → String
  | notNumber f => f.message
  | outOfRange n => toString n ++ " is not in 0..=65535"

/-- What has a name, as it is shown. -/
def Known.shown : Known → String
  | setting s => s.shown
  | switch w => "--" ++ (switch w).longName

/-- The line that shows how the program is used with the given names, or with any. -/
def usageOf (names : List Known) : String :=
  "Usage: " ++ programName ++ " " ++
    (if names.isEmpty then "[OPTIONS]" else String.intercalate " " (names.map Known.shown))

/-- The line that shows how the program is used. -/
def usageLine : String := usageOf []

/-- The line that points to the help. -/
def helpHint : String := "For more information, try '--help'."

/-- A variable and its value, as they are shown. -/
def variableNote (env : String → Option String) (s : Setting) : String :=
  "[env: " ++ s.variableName ++ "=" ++ (env s.variableName).getD "" ++ "]"

/-- The help. -/
def helpLines (env : String → Option String) : List String :=
  ["SQL template JSON gateway", "", usageLine, "", "Options:",
    "  -c, --config <CONFIG>  설정 파일 경로 " ++ variableNote env .config ++
      " [default: " ++ defaultConfig ++ "]",
    "  -p, --port <PORT>      서버 포트 (설정 파일 값보다 우선) " ++ variableNote env .port,
    "  -h, --help             Print help",
    "  -V, --version          Print version"]

namespace UsageError

/-- Whether the error is the answer to a question. -/
def isAnswer : UsageError → Bool
  | helpWanted => true
  | versionWanted => true
  | _ => false

/-- The exit code of the program. -/
def exitCode (e : UsageError) : Nat := if e.isAnswer then 0 else 2

/-- What the user is told. -/
def lines (env : String → Option String) : UsageError → List String
  | helpWanted => helpLines env
  | versionWanted => [programName ++ " " ++ programVersion]
  | unknownArgument shown =>
    ["error: unexpected argument '" ++ shown ++ "' found", "", usageLine, "", helpHint]
  | unknownName name near met =>
    let met := met.map Known.setting
    let names := met ++ near.toList.filter (!met.contains ·)
    ["error: unexpected argument '--" ++ name ++ "' found", ""] ++
      (near.map fun k => ["  tip: a similar argument exists: '--" ++ k.longName ++ "'", ""]).getD []
      ++ [usageOf names, "", helpHint]
  | missingValue s =>
    ["error: a value is required for '" ++ s.shown ++ "' but none was supplied", "", helpHint]
  | badPort value f =>
    ["error: invalid value '" ++ value ++ "' for '" ++ Setting.port.shown ++ "': " ++ f.message,
      "", helpHint]
  | unwantedValue value w met =>
    ["error: unexpected value '" ++ value ++ "' for '" ++ (Known.switch w).shown ++
      "' found; no more were expected", "", usageOf (met.map Known.setting ++ [.switch w]), "",
      helpHint]
  | repeated s =>
    ["error: the argument '" ++ s.shown ++ "' cannot be used multiple times", "", usageLine, "",
      helpHint]

end UsageError

end SqlGateway.Startup
