import PacketProtection.CommandLine.Grammar

/-!
# Reading a command line

The words are read one after the other.  What has been matched is kept in
`Matches`; a word that needs a value leaves its argument *pending*, and the
argument is settled when the next argument starts or the words end.  A
subcommand ends the words of the tool itself: what follows is read by the
subcommand, and only then the pending argument of the tool is settled.

*Two ways of reading.*  A strict reading stops at the first fault.  A lenient
reading is for finding out what was meant: it accepts an option that stands
without its value, passes over the faults of the subcommand, and leaves to its
caller what was matched before a fault of the tool.  Requests for help or the
version count in both.

*Two rounds.*  `Grammar.choose` finds the subcommand by a lenient reading, and
falls back to the strict one for the failure to report.  `Grammar.parse` is the
strict reading.
-/

namespace PacketProtection.CommandLine

/-! ## Matches -/

/-- The arguments that were given, each with its values. -/
structure Matches where
  entries : List (String × List String) := []
deriving DecidableEq, Repr

namespace Matches

/-- The values of an argument; none if it was not given. -/
def get? (found : Matches) (name : String) : Option (List String) :=
  found.entries.lookup name

/-- Was an argument given? -/
def has (found : Matches) (name : String) : Bool :=
  (found.get? name).isSome

/-- Forgets an argument. -/
def erase (found : Matches) (name : String) : Matches :=
  ⟨found.entries.filter fun (other, _) => other ≠ name⟩

/-- Adds values to those of an argument. -/
def add (found : Matches) (name : String) (values : List String) : Matches :=
  if found.has name then
    ⟨found.entries.map fun (other, old) => (other, if other = name then old ++ values else old)⟩
  else ⟨found.entries ++ [(name, values)]⟩

end Matches

/-- A reading that stopped: why, and what was matched before. -/
structure Stopped (α : Type) where
  failure : Failure
  matched : α
deriving DecidableEq, Repr

/-- How faults are treated. -/
inductive Mode where
  | strict
  | lenient
deriving DecidableEq, Repr

/-! ## Giving values to an argument -/

namespace Matches

/-- Adds values to an argument up to the first that is refused. -/
def addAllowed (found : Matches) (name : String) (kind : ValueKind) :
    List String → Except (Stopped Matches) Matches
  | [] => .ok found
  | value :: rest =>
      match kind.refusal? name value with
      | some failure => .error ⟨failure, found⟩
      | none => (found.add name [value]).addAllowed name kind rest

/-- Gives an argument, with the words that stand for its values.  An argument
that is given again is forgotten, unless it gathers values. -/
def give (mode : Mode) (found : Matches) (argument : Argument) (words : List String) :
    Except (Stopped Matches) Matches :=
  let name := argument.name
  let wanting := argument.takesValue && words.isEmpty && mode = .strict
  match argument.use with
  | .help command => .error ⟨.help command, found⟩
  | .version => .error ⟨.version, found⟩
  | .flag =>
      if found.has name then .error ⟨.repeated name, found.erase name⟩
      else .ok (found.add name ["true"])
  | .value kind =>
      if wanting then .error ⟨.valueMissing name, found⟩
      else if found.has name then .error ⟨.repeated name, found.erase name⟩
      else (found.add name []).addAllowed name kind words
  | .values kind =>
      if wanting then .error ⟨.valueMissing name, found⟩
      else (found.add name []).addAllowed name kind (words.flatMap fun word => word.splitOn ",")

end Matches

/-! ## Words of one command -/

/-- Where the reading of a command stands. -/
structure State where
  /-- What is settled. -/
  matched : Matches := {}
  /-- The last argument, as long as it is not settled, and the words that stand
  for its values. -/
  pending : Option (Argument × List String) := none
  /-- Was the escape read? -/
  escaped : Bool := false
  /-- How many places are taken. -/
  taken : Nat := 0
deriving DecidableEq, Repr

namespace State

/-- Does an option wait for its value? -/
def isAwaiting (state : State) : Bool :=
  match state.pending with
  | some (_, []) => true
  | _ => false

/-- Settles the pending argument. -/
def settle (mode : Mode) (state : State) : Except (Stopped Matches) State :=
  match state.pending with
  | none => .ok state
  | some (argument, words) => do
      let matched ← state.matched.give mode argument words
      return { state with matched, pending := none }

/-- Stops at a word that nothing can be made of.  The pending argument is
settled before, and what is wrong with it does not count. -/
def stop {α : Type} (mode : Mode) (state : State) (failure : Failure) :
    Except (Stopped Matches) α :=
  match state.settle mode with
  | .ok settled => .error ⟨failure, settled.matched⟩
  | .error stopped => .error ⟨failure, stopped.matched⟩

/-- Starts an argument whose values may follow. -/
def start (mode : Mode) (state : State) (argument : Argument) (words : List String) :
    Except (Stopped Matches) State := do
  let settled ← state.settle mode
  return { settled with pending := some (argument, words) }

/-- Gives an argument that is complete. -/
def give (mode : Mode) (state : State) (argument : Argument) (words : List String) :
    Except (Stopped Matches) State := do
  let settled ← state.settle mode
  let matched ← settled.matched.give mode argument words
  return { settled with matched }

/-- Reads an option by name. -/
def readLong (mode : Mode) (signature : Signature) (state : State) (word name : String)
    (value : Option String) : Except (Stopped Matches) State :=
  match signature.option? name with
  | none => state.stop mode (.unknownArgument word)
  | some argument =>
      match argument.takesValue, value with
      | true, some value => state.give mode argument [value]
      | true, none => state.start mode argument []
      | false, some value => state.stop mode (.valueUnwanted name value)
      | false, none => state.give mode argument []

/-- Reads options by letter.  What follows the letter of an option that needs a
value is the value, less an equals sign in front. -/
def readLetters (mode : Mode) (signature : Signature) (state : State) :
    List Char → Except (Stopped Matches) State
  | [] => .ok state
  | letter :: rest =>
      match signature.letter? letter with
      | none => state.stop mode (.unknownArgument (String.ofList ['-', letter]))
      | some argument =>
          if argument.takesValue then
            match rest with
            | [] => state.start mode argument []
            | '=' :: value => state.give mode argument [String.ofList value]
            | value => state.give mode argument [String.ofList value]
          else
            match state.give mode argument [] with
            | .error stopped => .error stopped
            | .ok next => next.readLetters mode signature rest

/-- Reads a word at the next place. -/
def readPlace (mode : Mode) (signature : Signature) (subcommands : List Signature)
    (state : State) (word : String) : Except (Stopped Matches) State :=
  match signature.places[state.taken]? with
  | some argument => do
      let started ← state.start mode argument [word]
      return { started with taken := state.taken + 1 }
  | none =>
      if subcommands.isEmpty || state.escaped && (subcommand? subcommands word).isSome then
        state.stop mode (.unknownArgument word)
      else state.stop mode (.unknownSubcommand word)

/-- Reads a word that is no subcommand. -/
def read (mode : Mode) (signature : Signature) (subcommands : List Signature) (state : State)
    (word : String) : Except (Stopped Matches) State :=
  if state.escaped then state.readPlace mode signature subcommands word
  else
    match Word.ofString word, state.pending with
    | .escape, _ => .ok { state with escaped := true }
    | .long name value, _ => state.readLong mode signature word name value
    | .letters chars, _ => state.readLetters mode signature chars
    | .plain, some (argument, []) => .ok { state with pending := some (argument, [word]) }
    | .plain, _ => state.readPlace mode signature subcommands word

/-- Reads words up to the first that is a subcommand; also gives what follows
that word. -/
def readAll (mode : Mode) (signature : Signature) (subcommands : List Signature)
    (state : State) :
    List String → Except (Stopped Matches) (State × Option (Signature × List String))
  | [] => .ok (state, none)
  | word :: rest =>
      match if state.escaped || state.isAwaiting then none else subcommand? subcommands word with
      | some subcommand => .ok (state, some (subcommand, rest))
      | none =>
          match state.read mode signature subcommands word with
          | .error stopped => .error stopped
          | .ok next => next.readAll mode signature subcommands rest

end State

/-! ## Whole commands -/

namespace Signature

/-- What was matched, and the values of the arguments that were not given. -/
def complete (signature : Signature) (found : Matches) : Matches :=
  signature.arguments.foldl
    (fun found argument =>
      match argument.fallback with
      | some value => if found.has argument.name then found else found.add argument.name [value]
      | none => found)
    found

/-- Ends the reading of a command. -/
def finish (mode : Mode) (signature : Signature) (state : State) :
    Except (Stopped Matches) Matches := do
  let settled ← state.settle mode
  let found := signature.complete settled.matched
  match signature.arguments.find? fun argument => argument.required && !found.has argument.name with
  | some argument => throw ⟨.argumentMissing argument.name, found⟩
  | none => return found

/-- Reads the words of a subcommand. -/
def read (mode : Mode) (signature : Signature) (words : List String) :
    Except (Stopped Matches) Matches := do
  let (state, _) ← State.readAll mode signature [] {} words
  signature.finish mode state

/-- What the words of a subcommand say.  A lenient reading keeps what was
matched before a fault. -/
def parse (mode : Mode) (signature : Signature) (words : List String) :
    Except Failure Matches :=
  match signature.read mode words with
  | .ok found => .ok found
  | .error stopped =>
      if mode = .strict || stopped.failure.isRequest then .error stopped.failure
      else .ok stopped.matched

end Signature

/-- What the words of a tool say. -/
structure Parsed where
  /-- The options of the tool. -/
  options : Matches
  /-- The subcommand and its arguments. -/
  command : Option (String × Matches)
deriving DecidableEq, Repr

/-- What the first round finds. -/
structure Choice where
  command : String
  /-- The options of the tool. -/
  options : Matches
deriving DecidableEq, Repr

namespace Grammar

/-- Reads the words of a tool. -/
def read (mode : Mode) (grammar : Grammar) (words : List String) :
    Except (Stopped Parsed) Parsed :=
  let alone (stopped : Stopped Matches) : Stopped Parsed :=
    ⟨stopped.failure, ⟨stopped.matched, none⟩⟩
  match State.readAll mode grammar.tool grammar.subcommands {} words with
  | .error stopped => .error (alone stopped)
  | .ok (state, none) =>
      match state.settle mode with
      | .error stopped => .error (alone stopped)
      | .ok settled =>
          .error ⟨.missingSubcommand, ⟨grammar.tool.complete settled.matched, none⟩⟩
  | .ok (state, some (subcommand, rest)) =>
      match subcommand.parse mode rest with
      | .error failure => .error ⟨failure, ⟨state.matched, none⟩⟩
      | .ok found =>
          let command := some (subcommand.name, found)
          match grammar.tool.finish mode state with
          | .ok options => .ok ⟨options, command⟩
          | .error stopped => .error ⟨stopped.failure, ⟨stopped.matched, command⟩⟩

/-- What the words say, by a strict reading. -/
def parse (grammar : Grammar) (words : List String) : Except Failure Parsed :=
  (grammar.read .strict words).mapError (·.failure)

/-- What the words were meant to say, by a lenient reading. -/
def guess (grammar : Grammar) (words : List String) : Except Failure Parsed :=
  match grammar.read .lenient words with
  | .ok parsed => .ok parsed
  | .error stopped =>
      if stopped.failure.isRequest then .error stopped.failure else .ok stopped.matched

/-- The subcommand that was meant, and the options of the tool.  Without a
subcommand, the failure is that of a strict reading. -/
def choose (grammar : Grammar) (words : List String) : Except Failure Choice := do
  let guessed ← grammar.guess words
  match guessed.command with
  | some (command, _) => return ⟨command, guessed.options⟩
  | none =>
      let _ ← grammar.parse words
      throw .missingSubcommand

end Grammar

end PacketProtection.CommandLine
