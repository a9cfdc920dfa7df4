/-! # Usage and help -/

namespace FunctionMetrics.CommandLine

def programName : String := "kokwame"

def version : String := "0.2.0"

inductive Topic
  | program
  | info
  | diagnostics
deriving DecidableEq, Repr

namespace Topic

/-- The words that a command line on a topic starts with. -/
def title : Topic → String
  | .program => programName
  | .info => programName ++ " info"
  | .diagnostics => programName ++ " diagnostics"

def textOf (ls : List String) : String := String.join (ls.map (· ++ "\n"))

def usage : Topic → String
  | .program => textOf ["usage: kokwame [-h] [--version] \x7binfo,diagnostics\x7d ..."]
  | .info => textOf [
    "usage: kokwame info [-h] [--config CONFIG_PATH] [--low LOW] [--high HIGH] [-v]",
    "                    --line LINE [--column COLUMN]",
    "                    path"]
  | .diagnostics => textOf [
    "usage: kokwame diagnostics [-h] [--config CONFIG_PATH] [--low LOW]",
    "                           [--high HIGH] [-v] [--all] [--format \x7btext,json\x7d]",
    "                           [--output OUTPUT]",
    "                           path"]

def details : Topic → String
  | .program => textOf [
    "",
    "Code quality metrics for functions",
    "",
    "positional arguments:",
    "  \x7binfo,diagnostics\x7d",
    "    info              Show metrics of the function at a line",
    "    diagnostics       List functions that are too complex",
    "",
    "options:",
    "  -h, --help          show this help message and exit",
    "  --version           show program's version number and exit"]
  | .info => textOf [
    "",
    "positional arguments:",
    "  path                  Source file to analyze",
    "",
    "options:",
    "  -h, --help            show this help message and exit",
    "  --config CONFIG_PATH  Path to YAML/JSON config file",
    "  --low LOW             Low complexity threshold (overrides config)",
    "  --high HIGH           High complexity threshold (overrides config)",
    "  -v, --verbose         Verbose logging on stderr",
    "  --line LINE           Line number (1-based)",
    "  --column COLUMN       Column (0-based)"]
  | .diagnostics => textOf [
    "",
    "positional arguments:",
    "  path                  Source file to analyze",
    "",
    "options:",
    "  -h, --help            show this help message and exit",
    "  --config CONFIG_PATH  Path to YAML/JSON config file",
    "  --low LOW             Low complexity threshold (overrides config)",
    "  --high HIGH           High complexity threshold (overrides config)",
    "  -v, --verbose         Verbose logging on stderr",
    "  --all                 Include functions below the low threshold",
    "  --format \x7btext,json\x7d  Output format",
    "  --output OUTPUT       Write output to file instead of stdout"]

def help (t : Topic) : String := t.usage ++ t.details

end Topic

end FunctionMetrics.CommandLine
