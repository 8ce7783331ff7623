import PacketProtection.Command.Esp
import PacketProtection.Command.Macsec
import PacketProtection.Command.PacketFile
import PacketProtection.CommandLine.Completion
import PacketProtection.Keygen

/-!
# The command line of the tool

Four subcommands: `esp` and `macsec` run a transform on a packet file, `keygen`
makes keys, and `sh-complete` writes the completion of a shell.  The tool itself
takes the level up to which messages are shown.
-/

namespace PacketProtection.Tool

open CommandLine

/-- The version of the tool. -/
def version : String := "0.3.0"

/-- Numbers of keys are below this limit. -/
def countLimit : Nat := UInt64.size

/-! ## Arguments -/

/-- Asks for the help of a command. -/
def helpFlag (command : String) : Argument where
  name := "help"
  short := some 'h'
  use := .help command
  about := "Print help"

/-- Asks for the version. -/
def versionFlag : Argument where
  name := "version"
  short := some 'V'
  use := .version
  about := "Print version"

/-- The level up to which messages are shown. -/
def logLevelOption : Argument where
  name := "log-level"
  use := .value (.oneOf (Level.all.map Level.name))
  fallback := some Level.info.name
  about := "Log level"

/-- The transform to run. -/
def actionPlace (actions : List String) : Argument where
  name := "action"
  use := .value (.oneOf actions)
  required := true
  about := "Transform to run"

/-- The files of a transform. -/
def packetOptions : List Argument :=
  [{ name := "sa", short := some 's', use := .value .path, required := true
     about := "Security associations file (YAML)" },
   { name := "input", short := some 'i', use := .value .path, required := true
     about := "File to read the packet from" },
   { name := "output", short := some 'o', use := .value .path
     about := "File to write the resulting packet to, if not dropped" },
   { name := "format", use := .value (.oneOf (PacketFile.Format.all.map PacketFile.Format.name))
     fallback := some PacketFile.Format.raw.name
     about := "Format of the input and output files" }]

/-! ## Commands -/

/-- Runs the ESP transforms. -/
def espSignature : Signature where
  name := "esp"
  about := "Encrypt or decrypt a packet with IPsec ESP."
  places := [actionPlace (Command.EspAction.all.map Command.EspAction.name)]
  options := packetOptions ++ [helpFlag "esp"]

/-- Runs the MACsec transforms. -/
def macsecSignature : Signature where
  name := "macsec"
  about := "Protect or validate an Ethernet frame with MACsec."
  places := [actionPlace (Command.MacsecAction.all.map Command.MacsecAction.name)]
  options := packetOptions ++
    [{ name := "include-ipv4", use := .flag, fallback := some "false"
       about := "Hand the IPv4 header over to the transform separately from the rest of the payload" },
     helpFlag "macsec"]

/-- Makes keys. -/
def keygenSignature : Signature where
  name := "keygen"
  about := "Generate key material."
  options :=
    [{ name := "algorithm", short := some 'a', use := .values (.oneOf (Algorithm.all.map Algorithm.name))
       required := true
       about := "Comma separated list of algorithms to generate keys for" },
     { name := "count", short := some 'c', use := .value (.number countLimit), fallback := some "1"
       about := "Number of keys to generate per algorithm" },
     { name := "json", use := .flag, fallback := some "false", about := "Print the keys as JSON" },
     helpFlag "keygen"]

/-- Writes the completion of a shell. -/
def completeSignature : Signature where
  name := "sh-complete"
  about := "Generate completion file for a specified shell"
  options :=
    [{ name := "shell", use := .value (.oneOf (Shell.all.map Shell.name)), required := true
       about := "Specify shell to complete for" },
     { name := "register", use := .value .path
       about := "Path to write completion-registration to" },
     helpFlag "sh-complete"]

/-- The commands of the tool. -/
def grammar : Grammar where
  tool :=
    { name := "p4sec"
      about := "Protect and validate packets with IPsec ESP and MACsec"
      options := [logLevelOption, helpFlag "p4sec", versionFlag] }
  subcommands := [espSignature, macsecSignature, keygenSignature, completeSignature]

end PacketProtection.Tool
