import PacketProtection.Yaml.Lexer

/-!
# Events

The structure of a YAML text as a list of events: a mapping is a start, its keys
and values in turn, and an end; a sequence is a start, its elements, and an end.
A value that is not written is an empty plain scalar.

The list breaks off where the text is not well formed.  What was read before
stays in the list: whoever reads it may find a fault there that comes first.
-/

namespace PacketProtection.Yaml

/-- A scalar and what is known of it. -/
structure Scalar where
  text : String
  style : ScalarStyle
  tag : Option Bytes := none
deriving DecidableEq, Repr

/-- An event; an alias is known by its name. -/
inductive RawEvent where
  | scalar (anchor : Option String) (scalar : Scalar)
  | sequenceStart (anchor : Option String)
  | sequenceEnd
  | mappingStart (anchor : Option String)
  | mappingEnd
  | alias (name : String)
deriving DecidableEq, Repr

/-! ## From tokens to events -/

/-- Where a node stands. -/
inductive Setting where
  /-- Inside braces or brackets, where indentation has no meaning. -/
  | inFlow
  /-- In a mapping, where a sequence need not be indented. -/
  | inMapping
  /-- Anywhere else. -/
  | inBlock
deriving DecidableEq, Repr

/-- What the parser expects next. -/
inductive Goal where
  | node (setting : Setting)
  /-- A key of a block mapping, or its end. -/
  | blockKey
  /-- The value of a key of a block mapping. -/
  | blockValue
  /-- An element of a block sequence, or its end. -/
  | blockElement
  /-- An element of a sequence that is not indented, or its end. -/
  | dashElement
  /-- A key of a mapping in braces, or its end; a comma comes before all keys but
  the first. -/
  | flowKey (first : Bool)
  /-- The value of a key of a mapping in braces. -/
  | flowValue
  /-- The value of a key in braces that stands alone. -/
  | flowNothing
  /-- An element in brackets, or their end; a comma comes before all elements but
  the first. -/
  | flowElement (first : Bool)
  /-- The key of a pair in brackets, which is a mapping of its own. -/
  | pairKey
  /-- The value of a pair in brackets. -/
  | pairValue
  | pairEnd
deriving DecidableEq, Repr

/-- The tag handles that a document declares. -/
abbrev TagHandles := List (String × Bytes)

/-- The handles that are always declared, unless a document declares them
otherwise. -/
def standardHandles : TagHandles :=
  [("!", nonSpecificTag), ("!!", Bytes.ofString "tag:yaml.org,2002:")]

/-- The full tag of a handle and a suffix. -/
def resolveTag? (handles : TagHandles) (handle : String) (suffix : Bytes) : Option Bytes :=
  if handle.isEmpty then some suffix
  else (handles.lookup handle).map (· ++ suffix)

/-- Anchor and tag in front of a node. -/
structure Properties where
  anchor : Option String := none
  tag : Option Bytes := none

/-- Tokens and where they start. -/
abbrev Tokens := List (Placed Token)

/-- The anchor and the tag in front of a node, in either order, and the rest;
none if the tag has an unknown handle. -/
def properties? (handles : TagHandles) : Tokens → Option (Properties × Tokens)
  | ⟨.anchor anchor, _⟩ :: ⟨.tag handle suffix, _⟩ :: rest =>
      (resolveTag? handles handle suffix).map fun tag =>
        ({ anchor := some anchor, tag := some tag }, rest)
  | ⟨.anchor anchor, _⟩ :: rest => some ({ anchor := some anchor }, rest)
  | ⟨.tag handle suffix, _⟩ :: ⟨.anchor anchor, _⟩ :: rest =>
      (resolveTag? handles handle suffix).map fun tag =>
        ({ anchor := some anchor, tag := some tag }, rest)
  | ⟨.tag handle suffix, _⟩ :: rest =>
      (resolveTag? handles handle suffix).map fun tag => ({ tag := some tag }, rest)
  | rest => some ({}, rest)

/-- A value that is not written. -/
def emptyScalar (properties : Properties) : RawEvent :=
  .scalar properties.anchor { text := "", style := .plain, tag := properties.tag }

/-- One step of the parser. -/
structure Step where
  events : List (Placed RawEvent)
  /-- What to expect next, before what was expected anyway. -/
  goals : List Goal
  tokens : Tokens

/-- A node.  It starts at its anchor or tag.  A sequence or a mapping starts where
its place allows one; what is behind anchor or tag and starts nothing is left to
whoever comes next. -/
def nodeStep? (handles : TagHandles) (setting : Setting) (tokens : Tokens) : Option Step :=
  match tokens with
  | [] => none
  | ⟨.alias name, start⟩ :: rest => some ⟨[⟨.alias name, start⟩], [], rest⟩
  | ⟨_, start⟩ :: _ => do
      let (properties, rest) ← properties? handles tokens
      let anchor := properties.anchor
      match rest with
      | [] => none
      | ⟨token, _⟩ :: after =>
          match token, setting with
          | .scalar text style, _ =>
              some ⟨[⟨.scalar anchor { text, style, tag := properties.tag }, start⟩], [], after⟩
          | .flowSequenceStart, _ =>
              some ⟨[⟨.sequenceStart anchor, start⟩], [.flowElement true], after⟩
          | .flowMappingStart, _ => some ⟨[⟨.mappingStart anchor, start⟩], [.flowKey true], after⟩
          | .blockEntry, .inMapping => some ⟨[⟨.sequenceStart anchor, start⟩], [.dashElement], rest⟩
          | .blockSequenceStart, .inMapping | .blockSequenceStart, .inBlock =>
              some ⟨[⟨.sequenceStart anchor, start⟩], [.blockElement], after⟩
          | .blockMappingStart, .inMapping | .blockMappingStart, .inBlock =>
              some ⟨[⟨.mappingStart anchor, start⟩], [.blockKey], after⟩
          | _, _ =>
              if anchor.isSome || properties.tag.isSome then
                some ⟨[⟨emptyScalar properties, start⟩], [], rest⟩
              else none

/-- A node, unless one of some tokens comes first and there is none.  Then an
empty scalar stands at `place`, or else where that token starts. -/
def optionalNode (setting : Setting) (stops : List Token) (next : Goal) (place : Option Place)
    (tokens : Tokens) : Option Step :=
  match tokens with
  | [] => none
  | ⟨token, start⟩ :: _ =>
      if stops.contains token then some ⟨[⟨emptyScalar {}, place.getD start⟩], [next], tokens⟩
      else some ⟨[], [.node setting, next], tokens⟩

/-- An empty scalar where the next token starts. -/
def missingNode (next : Goal) : Tokens → Option Step
  | [] => none
  | ⟨token, start⟩ :: rest => some ⟨[⟨emptyScalar {}, start⟩], [next], ⟨token, start⟩ :: rest⟩

/-- A key in braces, after the comma if there has to be one. -/
def flowKeyStep? : Tokens → Option Step
  | [] => none
  | ⟨.key, _⟩ :: rest =>
      optionalNode .inFlow [.value, .flowEntry, .flowMappingEnd] .flowValue none rest
  | ⟨.flowMappingEnd, start⟩ :: rest => some ⟨[⟨.mappingEnd, start⟩], [], rest⟩
  | tokens => some ⟨[], [.node .inFlow, .flowNothing], tokens⟩

/-- An element in brackets, after the comma if there has to be one. -/
def flowElementStep? : Tokens → Option Step
  | [] => none
  | ⟨.key, start⟩ :: rest =>
      some ⟨[⟨.mappingStart none, start⟩], [.pairKey, .flowElement false], rest⟩
  | ⟨.flowSequenceEnd, start⟩ :: rest => some ⟨[⟨.sequenceEnd, start⟩], [], rest⟩
  | tokens => some ⟨[], [.node .inFlow, .flowElement false], tokens⟩

/-- The key of a pair in brackets.  Where there is none, the token that tells so
is passed over. -/
def pairKeyStep? : Tokens → Option Step
  | [] => none
  | ⟨token, start⟩ :: rest =>
      if token = .value ∨ token = .flowEntry ∨ token = .flowSequenceEnd then
        some ⟨[⟨emptyScalar {}, start.next⟩], [.pairValue], rest⟩
      else some ⟨[], [.node .inFlow, .pairValue], ⟨token, start⟩ :: rest⟩

/-- One step towards a goal. -/
def step? (handles : TagHandles) (goal : Goal) (tokens : Tokens) : Option Step :=
  match goal with
  | .node setting => nodeStep? handles setting tokens
  | .blockKey =>
      match tokens with
      | ⟨.key, start⟩ :: rest =>
          optionalNode .inMapping [.key, .value, .blockEnd] .blockValue (some start.next) rest
      | ⟨.blockEnd, start⟩ :: rest => some ⟨[⟨.mappingEnd, start⟩], [], rest⟩
      | _ => none
  | .blockValue =>
      match tokens with
      | ⟨.value, start⟩ :: rest =>
          optionalNode .inMapping [.key, .value, .blockEnd] .blockKey (some start.next) rest
      | _ => missingNode .blockKey tokens
  | .blockElement =>
      match tokens with
      | ⟨.blockEntry, start⟩ :: rest =>
          optionalNode .inBlock [.blockEntry, .blockEnd] .blockElement (some start.next) rest
      | ⟨.blockEnd, start⟩ :: rest => some ⟨[⟨.sequenceEnd, start⟩], [], rest⟩
      | _ => none
  | .dashElement =>
      match tokens with
      | [] => none
      | ⟨.blockEntry, start⟩ :: rest =>
          optionalNode .inBlock [.blockEntry, .key, .value, .blockEnd] .dashElement
            (some start.next) rest
      | ⟨_, start⟩ :: _ => some ⟨[⟨.sequenceEnd, start⟩], [], tokens⟩
  | .flowKey true => flowKeyStep? tokens
  | .flowKey false =>
      match tokens with
      | ⟨.flowMappingEnd, start⟩ :: rest => some ⟨[⟨.mappingEnd, start⟩], [], rest⟩
      | ⟨.flowEntry, _⟩ :: rest => flowKeyStep? rest
      | _ => none
  | .flowValue =>
      match tokens with
      | ⟨.value, _⟩ :: rest =>
          optionalNode .inFlow [.flowEntry, .flowMappingEnd] (.flowKey false) none rest
      | _ => missingNode (.flowKey false) tokens
  | .flowNothing => missingNode (.flowKey false) tokens
  | .flowElement true => flowElementStep? tokens
  | .flowElement false =>
      match tokens with
      | ⟨.flowSequenceEnd, start⟩ :: rest => some ⟨[⟨.sequenceEnd, start⟩], [], rest⟩
      | ⟨.flowEntry, _⟩ :: rest => flowElementStep? rest
      | _ => none
  | .pairKey => pairKeyStep? tokens
  | .pairValue =>
      match tokens with
      | ⟨.value, _⟩ :: rest =>
          optionalNode .inFlow [.flowEntry, .flowSequenceEnd] .pairEnd none rest
      | _ => missingNode .pairEnd tokens
  | .pairEnd =>
      match tokens with
      | [] => none
      | ⟨_, start⟩ :: _ => some ⟨[⟨.mappingEnd, start⟩], [], tokens⟩

/-- The events of a node, and the tokens behind it unless the list breaks off.
`fuel` bounds the number of steps. -/
def nodeEvents (handles : TagHandles) :
    (fuel : Nat) → List Goal → Tokens → List (Placed RawEvent) × Option Tokens
  | _, [], tokens => ([], some tokens)
  | 0, _ :: _, _ => ([], none)
  | fuel + 1, goal :: goals, tokens =>
      match step? handles goal tokens with
      | none => ([], none)
      | some step =>
          let (events, rest) := nodeEvents handles fuel (step.goals ++ goals) step.tokens
          (step.events ++ events, rest)

/-! ## Documents -/

/-- The handles declared by the directives in front of a document, and the rest.
A document of another major version is refused, and so is a second declaration
of the version or of a handle. -/
def directives? : (versionSeen : Bool) → TagHandles → Tokens → Option (TagHandles × Tokens)
  | versionSeen, handles, ⟨.versionDirective major minor, _⟩ :: rest =>
      if versionSeen || major ≠ 1 || (minor ≠ 1 && minor ≠ 2) then none
      else directives? true handles rest
  | versionSeen, handles, ⟨.tagDirective handle meaning, _⟩ :: rest =>
      if (handles.lookup handle).isSome then none
      else directives? versionSeen (handles ++ [(handle, meaning)]) rest
  | _, handles, rest => some (handles, rest)

/-- What is behind the first document of a text. -/
inductive Ending where
  /-- Nothing but marks that end it. -/
  | closed
  /-- Something else, well formed or not. -/
  | followed
  /-- The document itself is not well formed. -/
  | broken
deriving DecidableEq, Repr

/-- Is there nothing but marks that end a document? -/
def endsStream : Tokens → Bool
  | ⟨.documentEnd, _⟩ :: rest => endsStream rest
  | [⟨.streamEnd, _⟩] => true
  | _ => false

/-- What the tokens behind the node of a document are; none, if they could not be
read or there is no node. -/
def endingOf : Option Tokens → Ending
  | none | some [] => .broken
  | some rest => if endsStream rest then .closed else .followed

/-- The first document of a text: its events, and what is behind it. -/
abbrev Reading := List (Placed RawEvent) × Ending

/-- A document whose content comes next. -/
def readContent (handles : TagHandles) (explicit : Bool) (tokens : Tokens) : Reading :=
  let isEmpty := match tokens with
    | ⟨.versionDirective .., _⟩ :: _ | ⟨.tagDirective .., _⟩ :: _ | ⟨.documentStart, _⟩ :: _
    | ⟨.documentEnd, _⟩ :: _ | ⟨.streamEnd, _⟩ :: _ => explicit
    | _ => false
  if isEmpty then
    let start := (tokens.head?.map (·.place)).getD {}
    ([⟨emptyScalar {}, start⟩], endingOf (some tokens))
  else
    let (events, rest) :=
      nodeEvents (handles ++ standardHandles) (8 * tokens.length + 8) [.node .inBlock] tokens
    (events, endingOf rest)

/-- The first document of a list of tokens.  A text without any has no events. -/
def readDocument (tokens : Tokens) : Reading :=
  match tokens.drop 1 with
  | [] => ([], .broken)
  | ⟨.streamEnd, _⟩ :: _ => ([], .closed)
  | ⟨token, start⟩ :: rest =>
      let explicit := match token with
        | .versionDirective .. | .tagDirective .. | .documentStart => true
        | _ => false
      if explicit then
        match directives? false [] (⟨token, start⟩ :: rest) with
        | some (handles, ⟨.documentStart, _⟩ :: rest) => readContent handles true rest
        | _ => ([], .broken)
      else readContent [] false (⟨token, start⟩ :: rest)

end PacketProtection.Yaml
