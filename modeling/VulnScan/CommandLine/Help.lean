import VulnScan.CommandLine.Arguments

/-! # Help for the command line -/

set_option autoImplicit false

namespace VulnScan.CommandLine

/-- The name of the program. -/
def programName : String := "riptide-scanner"

/-- Name and version of the program. -/
def versionText : String := programName ++ " 0.1.0"

namespace Key

/-- What an option is for. -/
def purpose : Key → String
  | .config => "Configuration file path"
  | .logLevel => "Log level (trace, debug, info, warn, error)"
  | .logFormat => "Log format (pretty, json, compact)"
  | .shortTarget => "IPv4 address of the scan target"
  | .longTarget => "IPv6 address of the scan target"
  | .hostnameTarget => "Hostname of the scan target"
  | .ports => "Ports to scan, e.g. \"22,80,8000-8100\" (default: top 100)"
  | .resultsFile => "Write scan results as JSON to this file"
  | .advisoriesFile => "Write the advisories of every detector to this file and exit"
  | .included => "Only run these detectors (comma separated)"
  | .excluded => "Never run these detectors (comma separated)"

/-- An option as it is typed. -/
def typed (k : Key) : String := "--" ++ k.name

end Key

/-- What the program does, and all its options. -/
def helpText : String :=
  let line (p : String × Key) : String := "  --" ++ p.1 ++ " <VALUE>\n          " ++ p.2.purpose
  Text.joinTexts "\n"
    (["Network vulnerability scanner", "", "Usage: " ++ programName ++ " [OPTIONS]", "",
      "Options:"] ++ Key.names.map line
      ++ ["  -h, --help", "          Print help", "  -V, --version",
        "          Print version"])

/-- What is said about a command line that is not read to its end. -/
def Stop.message : Stop → String
  | .help => helpText
  | .version => versionText
  | .unknown word => "unexpected argument '" ++ word ++ "' found"
  | .missing k => "a value is required for '" ++ k.typed ++ "' but none was supplied"
  | .repeated k => "the argument '" ++ k.typed ++ "' cannot be used multiple times"
  | .unreadable k value => "invalid value '" ++ value ++ "' for '" ++ k.typed ++ "'"
  | .surplus word => "unexpected value in '" ++ word ++ "'; no more were expected"

/-- Whether it was asked for. -/
def Stop.isAnswer : Stop → Bool
  | .help | .version => true
  | _ => false

end VulnScan.CommandLine
