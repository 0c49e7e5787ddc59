/-!
# Help

What the program says about itself.
-/

namespace Lightpath.CommandLine

/-- The name by which the program is called. -/
def programName : String := "roadmctl"

/-- The name of the program with its version. -/
def versionText : String := programName ++ " 0.1.0\n"

/-- What help can be about. -/
inductive HelpTopic where
  | program
  | plan
  | codec
  | portNumber
  | help
deriving DecidableEq, Repr, Inhabited

namespace HelpTopic

/-- The topic of the name of a command. -/
def ofCommand? : String → Option HelpTopic
  | "plan" => some plan
  | "codec" => some codec
  | "port-number" => some portNumber
  | "help" => some help
  | _ => none

/-- What a topic is about, in one line. -/
def summary : HelpTopic → String
  | program => "ROADM driver registry and the roadmctl operator tool"
  | plan => "Print the configuration documents for one cross-connect"
  | codec => "Show the window and grid encoding of a channel"
  | portNumber => "Show the port number synthesised from a device port name"
  | help => "Print this message or the help of the given subcommand(s)"

/-- How a command is called, behind the name of the program. -/
def usage : HelpTopic → String
  | program => "[OPTIONS] <COMMAND>"
  | plan =>
    "plan [OPTIONS] --inventory <INVENTORY> --in <IN_PORT> --out <OUT_PORT> " ++
      "--center-thz <CENTER_THZ>"
  | codec => "codec [OPTIONS] --center-thz <CENTER_THZ>"
  | portNumber => "port-number <NAME>"
  | help => "help [COMMAND]..."

/-- The lines that explain the words of a command. -/
def details : HelpTopic → List String
  | program =>
    ["Commands:",
      "  plan         " ++ plan.summary,
      "  codec        " ++ codec.summary,
      "  port-number  " ++ portNumber.summary,
      "  help         " ++ help.summary,
      "",
      "Options:",
      "  -c, --config <CONFIG>        Driver configuration (YAML)",
      "  -l, --log-level <LOG_LEVEL>  " ++
        "Log level (trace, debug, info, warn, error) [default: warn]",
      "  -h, --help                   Print help",
      "  -V, --version                Print version"]
  | plan =>
    ["Options:",
      "      --inventory <INVENTORY>    Port inventory (YAML)",
      "      --in <IN_PORT>             Input port number",
      "      --out <OUT_PORT>           Output port number",
      "      --center-thz <CENTER_THZ>  Channel center frequency in THz (e.g. 193.1)",
      "      --width-ghz <WIDTH_GHZ>    Channel width in GHz [default: 50]",
      "      --release                  Also print the teardown documents",
      "  -h, --help                     Print help"]
  | codec =>
    ["Options:",
      "      --center-thz <CENTER_THZ>  Channel center frequency in THz",
      "      --width-ghz <WIDTH_GHZ>    Channel width in GHz [default: 50]",
      "  -h, --help                     Print help"]
  | portNumber =>
    ["Arguments:",
      "  <NAME>  Port name (ext-txN, ext-rxN, int-txN, int-rxN or N-M)",
      "",
      "Options:",
      "  -h, --help  Print help"]
  | help =>
    ["Arguments:",
      "  [COMMAND]...  Print help for the subcommand(s)"]

/-- The help on a topic. -/
def text (topic : HelpTopic) : String :=
  "\n".intercalate
    ([topic.summary, "", "Usage: " ++ programName ++ " " ++ topic.usage, ""] ++ topic.details) ++
    "\n"

end HelpTopic

end Lightpath.CommandLine
