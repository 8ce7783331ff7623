import PacketProtection.CommandLine.Reading
import PacketProtection.Tool.Grammar

/-!
# What a command line asks for

An invocation is a subcommand with its arguments as values of their types.  It
is found in two rounds: the first finds the subcommand that was meant and the
log level, the second reads everything strictly.

Paths, names and log level are texts, as the words that they are read from:
invocations with arguments that are not UTF-8 are left out.
-/

namespace PacketProtection.Tool

open CommandLine

/-- The files of a transform. -/
structure PacketOptions where
  /-- The path of the security associations. -/
  sa : String
  /-- The path of the packet. -/
  input : String
  /-- The path that the resulting packet is written to. -/
  output : Option String
  format : PacketFile.Format
deriving DecidableEq, Repr

/-- A subcommand with its arguments. -/
inductive Invocation where
  | esp (action : Command.EspAction) (packet : PacketOptions)
  | macsec (action : Command.MacsecAction) (packet : PacketOptions) (includeIpv4 : Bool)
  | keygen (algorithms : List Algorithm) (count : Nat) (json : Bool)
  | complete (shell : Shell) (register : Option String)
deriving DecidableEq, Repr

/-- The name of the subcommand. -/
def Invocation.command : Invocation → String
  | .esp .. => espSignature.name
  | .macsec .. => macsecSignature.name
  | .keygen .. => keygenSignature.name
  | .complete .. => completeSignature.name

/-! ## Values of arguments -/

/-- The value of an argument; none if it was not given. -/
def text? (found : Matches) (name : String) : Option String :=
  (found.get? name).bind List.head?

/-- The value of an argument as a value of its type. -/
def value {α : Type} (found : Matches) (name : String) (ofText? : String → Option α) :
    Except Failure α :=
  match (text? found name).bind ofText? with
  | some value => .ok value
  | none => .error (.argumentMissing name)

/-- Was a flag given? -/
def isOn (found : Matches) (name : String) : Bool :=
  text? found name = some "true"

/-- The files of a transform. -/
def packetOptionsOf (found : Matches) : Except Failure PacketOptions := do
  return {
    sa := ← value found "sa" some
    input := ← value found "input" some
    output := text? found "output"
    format := ← value found "format" PacketFile.Format.ofName? }

/-- The algorithms of a key generation. -/
def algorithmsOf (found : Matches) : Except Failure (List Algorithm) :=
  match ((found.get? "algorithm").getD []).mapM Algorithm.ofName? with
  | some algorithms => .ok algorithms
  | none => .error (.argumentMissing "algorithm")

/-- The invocation of a subcommand with its arguments. -/
def Invocation.ofMatches (command : String) (found : Matches) : Except Failure Invocation :=
  if command = espSignature.name then do
    return .esp (← value found "action" Command.EspAction.ofName?) (← packetOptionsOf found)
  else if command = macsecSignature.name then do
    return .macsec (← value found "action" Command.MacsecAction.ofName?) (← packetOptionsOf found)
      (isOn found "include-ipv4")
  else if command = keygenSignature.name then do
    return .keygen (← algorithmsOf found) (← value found "count" decimal?) (isOn found "json")
  else if command = completeSignature.name then do
    return .complete (← value found "shell" Shell.ofName?) (text? found "register")
  else .error (.unknownSubcommand command)

/-! ## The two rounds -/

/-- What the first round finds. -/
structure FirstRound where
  /-- The name of the subcommand that was meant. -/
  command : String
  /-- The log level as it was written; empty if it cannot be told. -/
  levelText : String
deriving DecidableEq, Repr

/-- Finds the subcommand and the log level. -/
def firstRound (words : List String) : Except Failure FirstRound := do
  let choice ← grammar.choose words
  match choice.options.get? logLevelOption.name with
  | none => return ⟨choice.command, ""⟩
  | some [] => throw (.argumentMissing logLevelOption.name)
  | some (text :: _) => return ⟨choice.command, text⟩

/-- The log level of a first round. -/
def FirstRound.level (first : FirstRound) : Except String Level :=
  match Level.ofName? first.levelText with
  | some level => .ok level
  | none => .error s!"Invalid log_level: {first.levelText}"

/-- Reads everything strictly.  The subcommand has to be that of the first
round. -/
def secondRound (first : FirstRound) (words : List String) : Except Failure Invocation := do
  let parsed ← grammar.parse words
  match parsed.command with
  | some (command, found) =>
      if command = first.command then Invocation.ofMatches command found
      else throw (.unknownSubcommand command)
  | none => throw .missingSubcommand

end PacketProtection.Tool
