import PacketProtection.Association.Document
import PacketProtection.Command.Keygen
import PacketProtection.CommandLine.Help
import PacketProtection.Process.Basic
import PacketProtection.Tool.Invocation

/-!
# The program of the tool

A subcommand either ends well or with an error, whose text is reported and makes
the exit code 1.  Results are printed; messages are reported up to the chosen
level.

*Order of a transform.*  The associations are loaded and the one that is needed
is looked up before the packet is read.  The resulting packet is written before
the summary is printed, and nothing is printed after an error.
-/

namespace PacketProtection.Tool

open CommandLine

/-! ## Messages -/

/-- The line of a message.  Where debug messages are shown, every line says its
level; else warnings and errors do. -/
def messageLine (shown : Level) (message : Message) : String :=
  let label := message.level.label
  let isMarked := message.level.rank ≤ Level.warn.rank || Level.debug.rank ≤ shown.rank
  let mark := if isMarked then label ++ String.ofList (List.replicate (6 - label.length) ' ') else ""
  mark ++ message.text ++ "\n"

/-- Reports a message, unless it is less important than what is shown. -/
def say (shown : Level) (message : Message) : Process Unit :=
  if message.level.rank ≤ shown.rank then
    .report (Level.debug.rank ≤ shown.rank) (messageLine shown message) (.done ())
  else .done ()

/-- Reports messages in order. -/
def sayAll (shown : Level) : Log → Process Unit
  | [] => .done ()
  | message :: rest => do
      say shown message
      sayAll shown rest

/-! ## Steps that may fail -/

/-- A program that may end with the text of an error. -/
abbrev Step := ExceptT String Process

/-- Reports a message. -/
def note (shown : Level) (level : Level) (text : String) : Step Unit :=
  ExceptT.lift (say shown ⟨level, text⟩)

/-- Takes a result, and reports what was logged on the way to it. -/
def take {ε α : Type} (shown : Level) (message : ε → String) (traced : Traced ε α) : Step α := do
  ExceptT.lift (sayAll shown traced.log)
  ExceptT.mk (.done (traced.result.mapError message))

/-- Prints results. -/
def print (text : String) : Step Unit :=
  ExceptT.lift (.print text (.done ()))

/-! ## Files -/

/-- What is said about a file that could not be read. -/
def unreadable (path reason : String) : String :=
  s!"Could not read {path}: {reason}"

/-- Reads a file. -/
def readFile (path : String) : Step Bytes :=
  ExceptT.mk <| .readFile path fun answer =>
    .done (answer.mapError fun fault => unreadable path fault.message)

/-- Reads a file of text. -/
def readText (path : String) : Step String := do
  let contents ← readFile path
  match String.fromUTF8? ⟨contents.toArray⟩ with
  | some text => return text
  | none => throw (unreadable path "stream did not contain valid UTF-8")

/-- Writes a file; `explain` says what went wrong. -/
def writeFile (path : String) (contents : Bytes) (explain : String → String) : Step Unit :=
  ExceptT.mk <| .writeFile path contents fun answer =>
    .done (answer.mapError fun fault => explain fault.message)

/-- Loads the associations of a transform. -/
def loadAssociations (shown : Level) (options : PacketOptions) : Step Association.Config := do
  let text ← readText options.sa
  take shown Association.Error.message (Association.load text)

/-- An association that has to be there. -/
def required {α : Type} (value : Option α) (missing : String) : Step α :=
  match value with
  | some value => pure value
  | none => throw missing

/-- Reads the packet of a transform. -/
def readPacket (shown : Level) (options : PacketOptions) : Step Bytes := do
  let contents ← readFile options.input
  let packet ← ExceptT.mk (.done ((PacketFile.decode options.format contents).mapError
    Hex.Error.message))
  note shown .debug s!"Read a {packet.length} bytes packet from {options.input}"
  return packet

/-- Writes the packet of a transform, if it is to be written. -/
def writePacket (shown : Level) (options : PacketOptions) (packet : Bytes) : Step Unit := do
  match options.output with
  | none => return ()
  | some path =>
      writeFile path (PacketFile.encode options.format packet)
        fun reason => s!"Could not write {path}: {reason}"
      note shown .debug s!"Wrote a {packet.length} bytes packet to {path}"

/-- Ends a transform: the packet is written, if there still is one, and the
summary printed. -/
def finish (shown : Level) (options : PacketOptions) (packet : Option Bytes)
    (processed dropped : String) (summary : Json) : Step Unit := do
  match packet with
  | some packet =>
      writePacket shown options packet
      note shown .info s!"{packet.length} bytes {processed}"
  | none => note shown .warn dropped
  print (summary.pretty ++ "\n")

/-! ## Subcommands -/

/-- Random bytes. -/
def random (count : Nat) : Step (Octets count) :=
  ExceptT.lift (.random count .done)

/-- Runs an ESP transform. -/
def runEsp (shown : Level) (action : Command.EspAction) (options : PacketOptions) :
    Step Unit := do
  let config ← loadAssociations shown options
  let association ← required config.esp Association.noEspMessage
  let packet ← readPacket shown options
  let traced ← match action with
    | .encrypt => do
        let iv ← random Esp.ivLength
        pure (Command.espEncrypt association packet iv)
    | .decrypt => pure (Command.espDecrypt association packet)
  let summary ← take shown Command.EspError.message traced
  finish shown options summary.packet "packet processed" "Packet dropped" summary.toJson

/-- Runs a MACsec transform. -/
def runMacsec (shown : Level) (action : Command.MacsecAction) (options : PacketOptions)
    (includeIpv4 : Bool) : Step Unit := do
  let config ← loadAssociations shown options
  let association ← required config.macsec Association.noMacsecMessage
  let frame ← readPacket shown options
  let traced := match action with
    | .protect => Command.macsecProtect association frame includeIpv4
    | .validate => Command.macsecValidate association frame
  let summary ← take shown Command.MacsecError.message traced
  finish shown options summary.packet "frame processed" "Frame dropped" summary.toJson

/-- Makes keys. -/
def runKeygen (algorithms : List Algorithm) (count : Nat) (json : Bool) : Step Unit := do
  let bytes := (← random (keyBytes (keyAlgorithms algorithms count))).toList.toArray
  match keygen? (fun i => bytes.getD i 0) algorithms count with
  | none => throw "At least one key must be generated"
  | some keys => print (if json then Command.keysJson keys else Command.keyLines keys)

/-- Writes the completion of a shell, to a file if there is a path.  In a
directory, the file has the name that the shell looks for. -/
def runComplete (shown : Level) (shell : Shell) (register : Option String) : Step Unit := do
  let script := shell.script grammar
  match register with
  | none => print script
  | some path =>
      let inside ← ExceptT.lift (.isDirectory path .done)
      let name := shell.fileName grammar.tool.name
      let target :=
        if !inside then path
        else if path.endsWith "/" then path ++ name
        else path ++ "/" ++ name
      writeFile target (Bytes.ofString script) id
      note shown .info s!"Completion file written to {target}"

/-- Carries out an invocation. -/
def runInvocation (shown : Level) : Invocation → Step Unit
  | .esp action options => runEsp shown action options
  | .macsec action options includeIpv4 => runMacsec shown action options includeIpv4
  | .keygen algorithms count json => runKeygen algorithms count json
  | .complete shell register => runComplete shown shell register

/-! ## The tool -/

/-- Ends a run whose command line is not carried out. -/
def refuse (failure : Failure) : Process Nat :=
  match failure with
  | .help command => .print (grammar.help command) (.done failure.exitCode)
  | .version => .print s!"{grammar.tool.name} {version}\n" (.done failure.exitCode)
  | _ => .report false (grammar.explain failure) (.done failure.exitCode)

/-- Ends a run with an error. -/
def abort (message : String) : Process Nat :=
  .report false s!"Error: {message}\n" (.done 1)

/-- Runs the tool on the words of a command line; gives the exit code. -/
def run (words : List String) : Process Nat := do
  match firstRound words with
  | .error failure => refuse failure
  | .ok first =>
    match first.level with
    | .error message => abort message
    | .ok shown =>
        say shown ⟨.debug, "Resulting CLI arguments: " ++ " ".intercalate (grammar.tool.name :: words)⟩
        match secondRound first words with
        | .error failure => refuse failure
        | .ok invocation =>
            match ← (runInvocation shown invocation).run with
            | .ok () => return 0
            | .error message => abort message

end PacketProtection.Tool
