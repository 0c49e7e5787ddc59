import Lightpath.CommandLine.Arguments
import Lightpath.CommandLine.Help
import Lightpath.Config.Text
import Lightpath.Plan

/-!
# The command line

`plan` prints what would be sent to a node to make a connection, `codec` shows how a channel is
encoded, and `port-number` how a port is numbered; `help` says so. A command line is carried out as
a function of its words and of the files that it names. What the program logs is left out.
-/

namespace Lightpath.CommandLine

/-- What a command has printed, why it failed, and the status that it ends with. The complaint goes
    to the stream to which the log is written too; the log is no part of a report. -/
structure Report where
  status : Nat
  output : String := ""
  /-- The complaint of a command that failed. -/
  errors : String := ""
deriving DecidableEq, Repr, Inhabited

/-- The content of a file, or why it cannot be read. -/
abbrev Files := String → Except String String

/-- What the command line asks for. -/
inductive Command where
  | plan (config : Option String) (inventory : String) (inPort outPort : PortNumber)
      (center width : String) (release : Bool)
  | codec (center width : String)
  | portNumber (name : String)
  | version
  | help (topic : HelpTopic)
deriving Repr, Inhabited

/-- The files that a command reads. -/
def Command.files : Command → List String
  | .plan config inventory .. => config.toList ++ [inventory]
  | _ => []

/-- The width of a channel for which none is given. -/
def defaultWidth : String := "50"

/-- The value of an option that names a port. -/
def port? (a : Arguments) (name : String) : Option PortNumber :=
  (a.value? name).bind fun text => (Text.word? text.toList).map PortNumber.mk

/-- The options that say which channel is meant. -/
def channelOptions : List OptionName := [{ long := "center-thz" }, { long := "width-ghz" }]

/-- The wish for help. -/
def helpWish : Wish := ⟨"help", 'h'⟩

/-- The wish to know the version. -/
def versionWish : Wish := ⟨"version", 'V'⟩

/-- What `plan` takes. -/
def planGrammar : Grammar where
  options :=
    [{ long := "inventory", kind := .path }, { long := "in", kind := .number },
      { long := "out", kind := .number }] ++ channelOptions
  flags := ["release"]
  wishes := [helpWish]

/-- What `codec` takes. -/
def codecGrammar : Grammar where
  options := channelOptions
  wishes := [helpWish]

/-- What `port-number` takes. -/
def portNumberGrammar : Grammar where
  wishes := [helpWish]
  words := 1

/-- Reads what `plan` shall do. -/
def readPlan? (config : Option String) (a : Arguments) : Option Command := do
  let inventory ← a.value? "inventory"
  let inPort ← port? a "in"
  let outPort ← port? a "out"
  let center ← a.value? "center-thz"
  return .plan config inventory inPort outPort center ((a.value? "width-ghz").getD defaultWidth)
    (a.hasFlag "release")

/-- Reads what `codec` shall do. -/
def readCodec? (a : Arguments) : Option Command := do
  let center ← a.value? "center-thz"
  return .codec center ((a.value? "width-ghz").getD defaultWidth)

/-- Reads the words of a command that can be helped with. -/
def readWith? (g : Grammar) (topic : HelpTopic) (read? : Arguments → Option Command)
    (words : List String) : Option Command := do
  let a ← g.readAll? words
  if a.wish.isSome then return .help topic else read? a

/-- Reads the words behind the name of a command. -/
def readCommand? (config : Option String) : List String → Option Command
  | "plan" :: words => readWith? planGrammar .plan (readPlan? config) words
  | "codec" :: words => readWith? codecGrammar .codec readCodec? words
  | "port-number" :: words =>
    readWith? portNumberGrammar .portNumber (fun a => a.words.head?.map .portNumber) words
  | ["help"] => some (.help .program)
  | ["help", name] => (HelpTopic.ofCommand? name).map .help
  | _ => none

/-- What stands in front of the command. The level says how much is logged, which changes no report:
    the log is left out of them, though it goes to the stream of the complaints. -/
def rootGrammar : Grammar where
  options :=
    [{ long := "config", short := some 'c', kind := .path },
      { long := "log-level", short := some 'l' }]
  wishes := [helpWish, versionWish]

/-- Reads a command line. -/
def read? (words : List String) : Option Command :=
  match rootGrammar.read none {} words with
  | some (a, rest) =>
    match a.wish with
    | some wish => some (if wish = versionWish then .version else .help .program)
    | none => readCommand? (a.value? "config") rest
  | none => none

/-- Reads the configuration of a file; without one the default holds. -/
def loadConfig (files : Files) : Option String → Except String Config
  | none => .ok {}
  | some path =>
    let config := match files path with
      | .ok text => Config.read text
      | .error message => .error (.invalidConfig path message)
    config.mapError fun e => "loading configuration " ++ path ++ ": " ++ e.message

/-- Reads the inventory of a file. -/
def loadPorts (files : Files) (path : String) : Except String PortFile :=
  let file := match files path with
    | .ok text => PortFile.read text
    | .error message => .error (.invalidConfig PortFile.field (path ++ ": " ++ message))
  file.mapError (·.message)

/-- Reads a frequency that an option gives. -/
def readFrequency (unit : FrequencyUnit) (option text : String) : Except String Frequency :=
  (Frequency.read unit text).mapError fun e => "parsing --" ++ option ++ ": " ++ e.message

/-- Reads the center and the width of a channel. -/
def readChannel (center width : String) : Except String (Frequency × Frequency) := do
  let center ← readFrequency .terahertz "center-thz" center
  let width ← readFrequency .gigahertz "width-ghz" width
  return (center, width)

/-- How a channel is encoded, as far as it can be. -/
def showChannel (center width : Frequency) : Except Error Unit × String :=
  let window := Window.around center width
  let head :=
    "center:     " ++ center.thz ++ " THz\n" ++
    "width:      " ++ width.ghz ++ " GHz\n" ++
    "window:     " ++ window.min.thz ++ " - " ++ window.max.thz ++ " THz\n"
  match window.channel with
  | .error e => (.error e, head)
  | .ok channel =>
    (.ok (), head ++
      "grid:       " ++ channel.grid.display ++ " " ++ channel.spacing.display ++ "\n" ++
      "multiplier: " ++ toString channel.multiplier.toInt ++ "\n" ++
      "slots:      " ++ toString channel.slots.toNat ++ "\n")

/-- The report of a command that failed. -/
def failure (output message : String) : Report := ⟨1, output, "error: " ++ message ++ "\n"⟩

/-- The report of a command that printed and may have failed. -/
def report : Except Error Unit × String → Report
  | (.ok (), output) => ⟨0, output, ""⟩
  | (.error e, output) => failure output e.message

/-- Carries out a command. -/
def Command.run (files : Files) : Command → Report
  | .plan config inventory inPort outPort center width release =>
    let result : Except String Report := do
      let config ← loadConfig files config
      let (center, width) ← readChannel center width
      let ports ← loadPorts files inventory
      return report (Plan.rehearse ⟨inPort, outPort, center, width, release⟩ config ports)
    match result with
    | .ok r => r
    | .error message => failure "" message
  | .codec center width =>
    match readChannel center width with
    | .ok (center, width) => report (showChannel center width)
    | .error message => failure "" message
  | .portNumber name =>
    match PortNumber.ofName name with
    | .ok number => ⟨0, number.display ++ "\n", ""⟩
    | .error e => failure "" e.message
  | .version => ⟨0, versionText, ""⟩
  | .help topic => ⟨0, topic.text, ""⟩

/-- Carries out a command line. -/
def run (files : Files) (words : List String) : Report :=
  match read? words with
  | some command => command.run files
  | none => ⟨2, "", HelpTopic.program.text⟩

end Lightpath.CommandLine
