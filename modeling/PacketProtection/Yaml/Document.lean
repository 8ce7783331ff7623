import PacketProtection.Yaml.Event

/-!
# Documents

The first document of a text, with a number in place of the name of each alias.

*Anchors.*  An anchor has the number of different anchor names before it, and an
alias the number of the latest anchor of its name.  A name that is used again
takes a new number, but not a new place among the names, so two anchors may have
one number.  An alias repeats the last node of the document with its number.
That node may stand behind the alias.  An alias without an anchor in front of it
ends what can be read of the document.
-/

namespace PacketProtection.Yaml

/-- An event; an alias is known by its number. -/
inductive Event where
  | scalar (scalar : Scalar)
  | sequenceStart
  | sequenceEnd
  | mappingStart
  | mappingEnd
  | alias (number : Nat)
deriving DecidableEq, Repr

/-! ## Anchors -/

/-- The number of each anchor name, and how many names there are. -/
abbrev Anchors := List (String × Nat)

/-- The anchor of an event. -/
def RawEvent.anchor? : RawEvent → Option String
  | .scalar anchor _ => anchor
  | .sequenceStart anchor => anchor
  | .mappingStart anchor => anchor
  | _ => none

/-- The anchors after an event. -/
def Anchors.add (anchors : Anchors) (event : RawEvent) : Anchors :=
  match event.anchor? with
  | none => anchors
  | some name => (name, anchors.length) :: anchors.filter (·.1 ≠ name)

/-- An event with a number in place of the name of an alias. -/
def RawEvent.numbered? (anchors : Anchors) : RawEvent → Option Event
  | .scalar _ content => some (.scalar content)
  | .sequenceStart _ => some .sequenceStart
  | .sequenceEnd => some .sequenceEnd
  | .mappingStart _ => some .mappingStart
  | .mappingEnd => some .mappingEnd
  | .alias name => (anchors.lookup name).map .alias

/-! ## Documents -/

/-- Events and where they start. -/
abbrev Events := List (Placed Event)

/-- The first document of a text, as far as it can be read. -/
structure Document where
  events : Events := []
  /-- The number of each anchor, and the events from its node on. -/
  targets : List (Nat × Events) := []
  ending : Ending

namespace Document

/-- The document of some events behind others that hold some anchors. -/
def ofEvents (ending : Ending) : Anchors → List (Placed RawEvent) → Document
  | _, [] => { ending }
  | anchors, ⟨event, place⟩ :: rest =>
      match event.numbered? anchors with
      | none => { ending := .broken }
      | some numbered =>
          let behind := ofEvents ending (anchors.add event) rest
          let events := ⟨numbered, place⟩ :: behind.events
          let targets :=
            if event.anchor?.isSome then (anchors.length, events) :: behind.targets
            else behind.targets
          { behind with events, targets }

/-- The first document of a text. -/
def ofText (text : String) : Document :=
  let (events, ending) := readDocument (tokens text)
  ofEvents ending [] events

/-- The events from a node on, or from the node that it repeats. -/
def resolve (document : Document) : Events → Events
  | ⟨.alias number, _⟩ :: _ => (document.targets.reverse.lookup number).getD []
  | events => events

/-- Is the node that some events start with an alias? -/
def startsAlias : Events → Bool
  | ⟨.alias _, _⟩ :: _ => true
  | _ => false

end Document

end PacketProtection.Yaml
