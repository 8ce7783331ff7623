import PacketProtection.CommandLine.Grammar

/-!
# Help

The help of a command says what it is for, how it is called, and lists its
subcommands, its arguments and its options, each with what it is for.
-/

namespace PacketProtection.CommandLine

/-- How an argument is written. -/
def Argument.spelling (argument : Argument) : String :=
  let letter := match argument.short with
    | some letter => String.ofList ['-', letter, ',', ' ']
    | none => "    "
  let value := if argument.takesValue then s!" <{argument.name}>" else ""
  letter ++ "--" ++ argument.name ++ value

/-- What is said about an argument besides what it is for: its fallback and the
words that it may be. -/
def Argument.remarks (argument : Argument) : String :=
  let fallback := match argument.use, argument.fallback with
    | .value _, some value => s!" [default: {value}]"
    | _, _ => ""
  let choices := match argument.use with
    | .value (.oneOf words) | .values (.oneOf words) =>
        " [possible values: " ++ ", ".intercalate words ++ "]"
    | _ => ""
  fallback ++ choices

/-- Lines of two columns under a heading; nothing without lines. -/
def helpTable (heading : String) (rows : List (String × String)) : String :=
  let width := rows.foldl (fun width (left, _) => max width left.length) 0
  let line : String × String → String := fun (left, right) =>
    "  " ++ left ++ String.ofList (List.replicate (width + 2 - left.length) ' ') ++ right ++ "\n"
  if rows.isEmpty then "" else "\n" ++ heading ++ ":\n" ++ String.join (rows.map line)

/-- The line that shows how a command is called. -/
def Signature.usage (signature : Signature) (path : String) (subcommands : List Signature) :
    String :=
  let needed := signature.options.filter (·.required)
  let words := ["Usage:", path, "[OPTIONS]"]
    ++ needed.map (fun option => s!"--{option.name} <{option.name}>")
    ++ signature.places.map (fun place => s!"<{place.name}>")
    ++ if subcommands.isEmpty then [] else ["<COMMAND>"]
  " ".intercalate words

/-- The help of a command. -/
def Grammar.help (grammar : Grammar) (command : String) : String :=
  let tool := grammar.tool
  let page (signature : Signature) (path : String) (subcommands : List Signature) : String :=
    signature.about ++ "\n\n" ++ signature.usage path subcommands ++ "\n"
      ++ helpTable "Commands" (subcommands.map fun sub => (sub.name, sub.about))
      ++ helpTable "Arguments"
        (signature.places.map fun place => (s!"<{place.name}>", place.about ++ place.remarks))
      ++ helpTable "Options"
        (signature.options.map fun option => (option.spelling, option.about ++ option.remarks))
  match grammar.subcommands.find? (·.name = command) with
  | some signature => page signature (tool.name ++ " " ++ signature.name) []
  | none => page tool tool.name grammar.subcommands

/-- What is said about a command line that is not carried out. -/
def Grammar.explain (grammar : Grammar) (failure : Failure) : String :=
  "error: " ++ failure.message ++ "\n\n"
    ++ grammar.tool.usage grammar.tool.name grammar.subcommands
    ++ "\n\nFor more information, try '--help'.\n"

end PacketProtection.CommandLine
