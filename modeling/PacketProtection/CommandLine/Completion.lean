import PacketProtection.CommandLine.Grammar

/-!
# Completion of shells

A completion tells a shell which words may follow on a command line.  It is made
of the grammar alone: before a subcommand the words are the subcommands and the
options of the tool, behind one they are the options of the subcommand and the
words that its arguments may be.
-/

namespace PacketProtection.CommandLine

/-- The words that an argument may be. -/
def Argument.choices (argument : Argument) : List String :=
  match argument.use with
  | .value (.oneOf words) | .values (.oneOf words) => words
  | _ => []

/-- How an option is written by name. -/
def Argument.longForm (argument : Argument) : String :=
  "--" ++ argument.name

namespace Signature

/-- The words that may follow a command. -/
def candidates (signature : Signature) : List String :=
  signature.places.flatMap Argument.choices
    ++ signature.options.flatMap fun option => option.longForm :: option.choices

end Signature

/-- The words that may stand before a subcommand. -/
def Grammar.candidates (grammar : Grammar) : List String :=
  grammar.subcommands.map (·.name) ++ grammar.tool.candidates

/-- A shell that a completion can be made for. -/
inductive Shell where
  | bash
  | elvish
  | fish
  | powershell
  | zsh
deriving DecidableEq, Repr

namespace Shell

/-- The name of a shell. -/
def name : Shell → String
  | .bash => "bash"
  | .elvish => "elvish"
  | .fish => "fish"
  | .powershell => "powershell"
  | .zsh => "zsh"

/-- All shells. -/
def all : List Shell :=
  [.bash, .elvish, .fish, .powershell, .zsh]

/-- The shell of a name. -/
def ofName? (name : String) : Option Shell :=
  all.find? (·.name = name)

/-- The name that a shell looks for the completion of a tool under. -/
def fileName (shell : Shell) (tool : String) : String :=
  match shell with
  | .bash => tool ++ ".bash"
  | .elvish => tool ++ ".elv"
  | .fish => tool ++ ".fish"
  | .powershell => "_" ++ tool ++ ".ps1"
  | .zsh => "_" ++ tool

/-! ## Scripts -/

/-- Lines, each ended. -/
def lines (texts : List String) : String :=
  String.join (texts.map (· ++ "\n"))

/-- A text between single quotes. -/
def quoted (text : String) : String :=
  "'" ++ text ++ "'"

/-- The completion of bash. -/
def bashScript (grammar : Grammar) : String :=
  let tool := grammar.tool.name
  lines <|
    ["_" ++ tool ++ "() \x7b",
     "    local word words",
     "    words=" ++ quoted (" ".intercalate grammar.candidates),
     "    for word in \"$\x7bCOMP_WORDS[@]:1:COMP_CWORD-1\x7d\"; do",
     "        case \"$word\" in"]
    ++ grammar.subcommands.map (fun sub =>
      "            " ++ sub.name ++ ") words=" ++ quoted (" ".intercalate sub.candidates)
        ++ "; break ;;")
    ++ ["        esac",
        "    done",
        "    COMPREPLY=($(compgen -W \"$words\" -- \"$\x7bCOMP_WORDS[COMP_CWORD]\x7d\"))",
        "\x7d",
        "complete -o default -F _" ++ tool ++ " " ++ tool]

/-- The completion of zsh. -/
def zshScript (grammar : Grammar) : String :=
  lines <|
    ["#compdef " ++ grammar.tool.name,
     "local word",
     "local -a candidates",
     "candidates=(" ++ " ".intercalate grammar.candidates ++ ")",
     "for word in $\x7bwords[2,CURRENT-1]\x7d; do",
     "    case $word in"]
    ++ grammar.subcommands.map (fun sub =>
      "        " ++ sub.name ++ ") candidates=(" ++ " ".intercalate sub.candidates
        ++ "); break ;;")
    ++ ["    esac",
        "done",
        "compadd -- $candidates",
        "_files"]

/-- The completion of fish. -/
def fishScript (grammar : Grammar) : String :=
  let entry (condition : String) (argument : Argument) : String :=
    let letter := match argument.short with
      | some letter => String.ofList [' ', '-', 's', ' ', letter]
      | none => ""
    let values := match argument.choices with
      | [] => ""
      | words => " -x -a " ++ quoted (" ".intercalate words)
    let needed := if argument.takesValue then " -r" else ""
    "complete -c " ++ grammar.tool.name ++ " -n " ++ quoted condition ++ " -l " ++ argument.name
      ++ letter ++ needed ++ values ++ " -d " ++ quoted argument.about
  let first := "__fish_use_subcommand"
  let behind (sub : Signature) := "__fish_seen_subcommand_from " ++ sub.name
  lines <|
    grammar.tool.options.map (entry first)
    ++ grammar.subcommands.map (fun sub =>
      "complete -c " ++ grammar.tool.name ++ " -n " ++ quoted first ++ " -f -a " ++ sub.name
        ++ " -d " ++ quoted sub.about)
    ++ grammar.subcommands.flatMap (fun sub =>
      (sub.places.flatMap Argument.choices).map (fun word =>
        "complete -c " ++ grammar.tool.name ++ " -n " ++ quoted (behind sub) ++ " -a " ++ word)
      ++ sub.options.map (entry (behind sub)))

/-- The completion of elvish. -/
def elvishScript (grammar : Grammar) : String :=
  lines <|
    ["set edit:completion:arg-completer[" ++ grammar.tool.name ++ "] = \x7b|@words|",
     "    var candidates = [" ++ " ".intercalate grammar.candidates ++ "]",
     "    for word $words \x7b"]
    ++ grammar.subcommands.map (fun sub =>
      "        if (eq $word " ++ sub.name ++ ") \x7b set candidates = ["
        ++ " ".intercalate sub.candidates ++ "] \x7d")
    ++ ["    \x7d",
        "    all $candidates",
        "\x7d"]

/-- The completion of PowerShell. -/
def powershellScript (grammar : Grammar) : String :=
  let words (texts : List String) : String := "@(" ++ ", ".intercalate (texts.map quoted) ++ ")"
  lines <|
    ["Register-ArgumentCompleter -Native -CommandName " ++ quoted grammar.tool.name
        ++ " -ScriptBlock \x7b",
     "    param($wordToComplete, $commandAst, $cursorPosition)",
     "    $candidates = " ++ words grammar.candidates,
     "    foreach ($element in $commandAst.CommandElements) \x7b",
     "        switch ($element.ToString()) \x7b"]
    ++ grammar.subcommands.map (fun sub =>
      "            " ++ quoted sub.name ++ " \x7b $candidates = " ++ words sub.candidates ++ " \x7d")
    ++ ["        \x7d",
        "    \x7d",
        "    $candidates | Where-Object \x7b $_ -like \"$wordToComplete*\" \x7d",
        "\x7d"]

/-- The completion of a tool. -/
def script (shell : Shell) (grammar : Grammar) : String :=
  match shell with
  | .bash => bashScript grammar
  | .elvish => elvishScript grammar
  | .fish => fishScript grammar
  | .powershell => powershellScript grammar
  | .zsh => zshScript grammar

end Shell

end PacketProtection.CommandLine
