import PacketProtection.Hex

/-!
# What a command line may say

A command line is a list of words.  A *grammar* says what the words may be: the
options of the tool itself and its subcommands.  A *signature* is what one
command takes: arguments that are told by their place, and options that are
told by their name.

*Words.*  A word is a text.  A system may hand over any bytes as an argument, a
path for instance; arguments that are not UTF-8 are left out here.

*Names.*  An option is written `--name`, and with one letter `-n` where it has a
short form.  A subcommand may be cut short, as long as only one subcommand
starts that way.
-/

namespace PacketProtection.CommandLine

/-! ## Values -/

/-- What the value of an argument may be. -/
inductive ValueKind where
  /-- One of these words, letter by letter. -/
  | oneOf (words : List String)
  /-- Any text that is not empty. -/
  | path
  /-- A number below the limit. -/
  | number (limit : Nat)
deriving DecidableEq, Repr

/-- The number that a text is in decimal; a plus sign may stand in front. -/
def decimal? (text : String) : Option Nat :=
  let digits := match text.toList with
    | '+' :: rest => rest
    | chars => chars
  if digits.isEmpty then none
  else
    digits.foldlM
      (fun number c =>
        if c.isDigit then some (10 * number + (c.toNat - '0'.toNat)) else none)
      0

/-! ## Failures -/

/-- Why a command line is not carried out. -/
inductive Failure where
  /-- The help of a command was asked for. -/
  | help (command : String)
  /-- The version was asked for. -/
  | version
  | missingSubcommand
  | unknownSubcommand (word : String)
  | unknownArgument (word : String)
  /-- An option that needs a value stands without one. -/
  | valueMissing (argument : String)
  /-- A value is none of those that are allowed. -/
  | valueRefused (argument value : String)
  /-- A value is not a number, or too large. -/
  | notANumber (argument value : String)
  /-- A flag stands with a value. -/
  | valueUnwanted (argument value : String)
  /-- An argument is given again that can be given once. -/
  | repeated (argument : String)
  /-- An argument that has to be given is not. -/
  | argumentMissing (argument : String)
deriving DecidableEq, Repr

namespace Failure

/-- Is something to be shown that was asked for, and nothing wrong? -/
def isRequest : Failure → Bool
  | .help _ | .version => true
  | _ => false

/-- The exit code of the tool. -/
def exitCode (failure : Failure) : Nat :=
  if failure.isRequest then 0 else 2

/-- What is said about a command line that cannot be carried out. -/
def message : Failure → String
  | .help command => s!"help of {command} requested"
  | .version => "version requested"
  | .missingSubcommand => "a subcommand is required but was not provided"
  | .unknownSubcommand word => s!"unrecognized subcommand '{word}'"
  | .unknownArgument word => s!"unexpected argument '{word}' found"
  | .valueMissing argument => s!"a value is required for '{argument}' but none was supplied"
  | .valueRefused argument value => s!"invalid value '{value}' for '{argument}'"
  | .notANumber argument value => s!"invalid value '{value}' for '{argument}': not a number in range"
  | .valueUnwanted argument value => s!"unexpected value '{value}' for '{argument}' found"
  | .repeated argument => s!"the argument '{argument}' cannot be used multiple times"
  | .argumentMissing argument => s!"the required argument '{argument}' was not provided"

end Failure

/-- Why a value of an argument is refused; none if it is not. -/
def ValueKind.refusal? (kind : ValueKind) (argument value : String) : Option Failure :=
  match kind with
  | .oneOf words => if value ∈ words then none else some (.valueRefused argument value)
  | .path => if value.isEmpty then some (.valueRefused argument value) else none
  | .number limit =>
      match decimal? value with
      | some parsed => if parsed < limit then none else some (.notANumber argument value)
      | none => some (.notANumber argument value)

/-! ## Arguments and commands -/

/-- What giving an argument does. -/
inductive Use where
  /-- Sets its one value. -/
  | value (kind : ValueKind)
  /-- Adds values, separated by commas. -/
  | values (kind : ValueKind)
  /-- Turns something on. -/
  | flag
  /-- Asks for the help of a command. -/
  | help (command : String)
  /-- Asks for the version. -/
  | version
deriving DecidableEq, Repr

/-- An argument of a command. -/
structure Argument where
  /-- The name of an option, or what the value at a place is called. -/
  name : String
  use : Use
  /-- The letter of the short form. -/
  short : Option Char := none
  required : Bool := false
  /-- The value when the argument is not given. -/
  fallback : Option String := none
  /-- What the argument is for. -/
  about : String
deriving DecidableEq, Repr

/-- Is an option followed by a value? -/
def Argument.takesValue (argument : Argument) : Bool :=
  match argument.use with
  | .value _ | .values _ => true
  | .flag | .help _ | .version => false

/-- What a command takes. -/
structure Signature where
  name : String
  /-- What the command is for. -/
  about : String
  /-- The arguments that are told by their place, in order. -/
  places : List Argument := []
  options : List Argument
deriving DecidableEq, Repr

namespace Signature

/-- All arguments of a command. -/
def arguments (signature : Signature) : List Argument :=
  signature.places ++ signature.options

/-- The option of a name. -/
def option? (signature : Signature) (name : String) : Option Argument :=
  signature.options.find? (·.name = name)

/-- The option of a letter. -/
def letter? (signature : Signature) (letter : Char) : Option Argument :=
  signature.options.find? (·.short = some letter)

end Signature

/-- The commands of a tool. -/
structure Grammar where
  /-- The tool itself: its name and its options. -/
  tool : Signature
  subcommands : List Signature
deriving DecidableEq, Repr

/-- The subcommand that a word means: the only one that starts with the word, or
else the one of exactly that name. -/
def subcommand? (subcommands : List Signature) (word : String) : Option Signature :=
  match subcommands.filter fun signature => word.toList.isPrefixOf signature.name.toList with
  | [only] => some only
  | _ => subcommands.find? (·.name = word)

/-! ## Words -/

/-- What a word looks like. -/
inductive Word where
  /-- Two dashes: every later word is a value. -/
  | escape
  /-- An option by name, maybe with a value behind an equals sign. -/
  | long (name : String) (value : Option String)
  /-- Options by letter, the last maybe with a value. -/
  | letters (chars : List Char)
  /-- Anything else. -/
  | plain
deriving DecidableEq, Repr

/-- What a word looks like by its first characters. -/
def Word.ofString (text : String) : Word :=
  match text.toList with
  | ['-', '-'] => .escape
  | '-' :: '-' :: rest =>
      let name := String.ofList (rest.takeWhile (· != '='))
      match rest.dropWhile (· != '=') with
      | [] => .long name none
      | _ :: value => .long name (some (String.ofList value))
  | ['-'] => .plain
  | '-' :: rest => .letters rest
  | _ => .plain

end PacketProtection.CommandLine
