import PacketProtection.Proofs.Association.File
import PacketProtection.Proofs.Yaml.Block

/-!
# Files written out

A file of plain words can be written out as a block mapping, with one line for each key and
the keys of a section further right (`File.text`).  The text holds the file (`holds_text`),
so what can be said of a text that holds it can be said of this one.
-/

namespace PacketProtection.Association

variable {κ : Type} {document : Yaml.Document}

/-! ## Names -/

/-- The name of a key. -/
def nameOf [DecidableEq κ] (named : List (String × κ)) (key : κ) : String :=
  ((named.find? fun entry => entry.2 = key).map (·.1)).getD ""

/-- Each key is known by its name, which can be written as a key. -/
def Writable [DecidableEq κ] (named : List (String × κ)) : Prop :=
  ∀ key, named.lookup (nameOf named key) = some key ∧ Yaml.IsKey (nameOf named key)

/-! ## Texts -/

/-- A scalar that is written as a plain word. -/
structure IsPlainScalar (scalar : Yaml.Scalar) : Prop where
  written : scalar = Yaml.Block.scalar scalar.text
  plain : Yaml.IsPlain scalar.text.toList

/-- Entries as a block mapping. -/
def blockOf [DecidableEq κ] (named : List (String × κ)) : List (κ × Yaml.Scalar) → Yaml.Block
  | [] => .nil
  | (key, scalar) :: entries => .word (nameOf named key) scalar.text (blockOf named entries)

/-- Some entries, all of them plain. -/
structure IsPlainEntries (entries : List (κ × Yaml.Scalar)) : Prop where
  ne_nil : entries ≠ []
  plain : ∀ key scalar, (key, scalar) ∈ entries → IsPlainScalar scalar

/-- A file as a block mapping. -/
def File.block : File → Yaml.Block
  | [] => .nil
  | (key, .scalar scalar) :: file => .word (nameOf RootKey.named key) scalar.text (block file)
  | (key, .esp entries) :: file =>
      .mapping (nameOf RootKey.named key) (blockOf EspKey.named entries) (block file)
  | (key, .macsec entries) :: file =>
      .mapping (nameOf RootKey.named key) (blockOf MacsecKey.named entries) (block file)

/-- A file written out. -/
def File.text (file : File) : String :=
  file.block.text

/-- All words of a section are plain. -/
def Section.IsPlain : Section → Prop
  | .scalar word => IsPlainScalar word
  | .esp entries => IsPlainEntries entries
  | .macsec entries => IsPlainEntries entries

/-- All words of a file are plain. -/
structure File.IsPlain (file : File) : Prop where
  ne_nil : file ≠ []
  plain : ∀ key value, (key, value) ∈ file → value.IsPlain

/-! ## Blocks -/

section Blocks

variable [DecidableEq κ] {named : List (String × κ)} {entries : List (κ × Yaml.Scalar)}

theorem isPlain_blockOf (writable : Writable named)
    (plain : ∀ key scalar, (key, scalar) ∈ entries → IsPlainScalar scalar) :
    (blockOf named entries).IsPlain := by
  induction entries with
  | nil => trivial
  | cons entry entries ih =>
      obtain ⟨key, scalar⟩ := entry
      exact ⟨(writable key).2, (plain key scalar List.mem_cons_self).plain,
        ih fun key scalar member => plain key scalar (List.mem_cons_of_mem _ member)⟩

theorem blockOf_ne_nil (nonempty : entries ≠ []) : blockOf named entries ≠ .nil := by
  cases entries with
  | nil => exact absurd rfl nonempty
  | cons entry entries => exact fun same => by cases same

end Blocks

/-! ## Entries -/

theorem scalarAt_of_contents {scalar : Yaml.Scalar} {events : Yaml.Events}
    {more : List Yaml.Event} (contents : events.map (·.content) = .scalar scalar :: more) :
    ∃ rest : Yaml.Events, rest.map (·.content) = more ∧
      ScalarAt document scalar events rest := by
  obtain ⟨⟨_, place⟩, rest, rfl, rfl, behind⟩ := List.map_eq_cons_iff.mp contents
  exact ⟨rest, behind, ⟨place, rest, rfl⟩, rfl⟩

section Entries

variable [DecidableEq κ] {named : List (String × κ)} {entries : List (κ × Yaml.Scalar)}
  {events : Yaml.Events} {more : List Yaml.Event}

/-- The events of a block are its entries. -/
theorem entries_blockOf (writable : Writable named)
    (plain : ∀ key scalar, (key, scalar) ∈ entries → IsPlainScalar scalar)
    (contents : events.map (·.content) = (blockOf named entries).events ++ more) :
    ∃ rest : Yaml.Events, rest.map (·.content) = more ∧
      Entries document named (ScalarAt document) entries events rest := by
  induction entries generalizing events with
  | nil =>
      obtain ⟨⟨_, place⟩, rest, rfl, rfl, behind⟩ := List.map_eq_cons_iff.mp contents
      exact ⟨rest, behind, .ended⟩
  | cons entry entries ih =>
      obtain ⟨key, scalar⟩ := entry
      obtain ⟨_, fromValue, name, rfl⟩ := scalarAt_of_contents contents
      obtain ⟨others, fromOthers, value⟩ := scalarAt_of_contents fromValue
      obtain ⟨rest, behind, read⟩ :=
        ih (fun key scalar member => plain key scalar (List.mem_cons_of_mem _ member)) fromOthers
      rw [← (plain key scalar List.mem_cons_self).written] at value
      exact ⟨rest, behind, .entry name (writable key).1 value read⟩

/-- A section that is written as a mapping stands at the events of its entries. -/
theorem mappingAt_blockOf (writable : Writable named) (plain : IsPlainEntries entries)
    (contents : events.map (·.content) =
      .mappingStart :: ((blockOf named entries).events ++ more)) :
    ∃ rest : Yaml.Events, rest.map (·.content) = more ∧
      MappingAt document named entries events rest := by
  obtain ⟨⟨_, place⟩, inside, rfl, rfl, fromEntries⟩ := List.map_eq_cons_iff.mp contents
  obtain ⟨rest, behind, read⟩ := entries_blockOf writable plain.plain fromEntries
  exact ⟨rest, behind, place, inside, rest, rfl, read, rfl⟩

end Entries

/-! ## Files -/

theorem writable_root : Writable RootKey.named := by
  intro key
  cases key <;> exact ⟨by decide, by decide⟩

theorem writable_esp : Writable EspKey.named := by
  intro key
  cases key <;> exact ⟨by decide, by decide⟩

theorem writable_macsec : Writable MacsecKey.named := by
  intro key
  cases key <;> exact ⟨by decide, by decide⟩

section Files

variable {file : File}

theorem isPlain_block (plain : ∀ key value, (key, value) ∈ file → value.IsPlain) :
    file.block.IsPlain := by
  induction file with
  | nil => trivial
  | cons entry file ih =>
      obtain ⟨key, value⟩ := entry
      have name := (writable_root key).2
      have first := plain key value List.mem_cons_self
      have others := ih fun key value member => plain key value (List.mem_cons_of_mem _ member)
      cases value with
      | scalar word => exact ⟨name, first.plain, others⟩
      | esp entries =>
          exact ⟨name, blockOf_ne_nil first.ne_nil, isPlain_blockOf writable_esp first.plain,
            others⟩
      | macsec entries =>
          exact ⟨name, blockOf_ne_nil first.ne_nil, isPlain_blockOf writable_macsec first.plain,
            others⟩

/-- The events of a file as a block mapping are the entries of the file. -/
theorem entries_block (plain : ∀ key value, (key, value) ∈ file → value.IsPlain)
    {events : Yaml.Events} (contents : events.map (·.content) = file.block.events) :
    Entries document RootKey.named (SectionAt document) file events [] := by
  induction file generalizing events with
  | nil =>
      obtain ⟨⟨_, place⟩, rest, rfl, rfl, behind⟩ := List.map_eq_cons_iff.mp contents
      obtain rfl := List.map_eq_nil_iff.mp behind
      exact .ended
  | cons entry file ih =>
      obtain ⟨key, value⟩ := entry
      have known := (writable_root key).1
      have first := plain key value List.mem_cons_self
      have below : ∀ key value, (key, value) ∈ file → value.IsPlain := fun key value member =>
        plain key value (List.mem_cons_of_mem _ member)
      cases value with
      | scalar word =>
          obtain ⟨_, fromValue, name, rfl⟩ := scalarAt_of_contents contents
          obtain ⟨rest, behind, value⟩ := scalarAt_of_contents fromValue
          rw [← first.written] at value
          exact .entry name known value (ih below behind)
      | esp entries =>
          obtain ⟨_, fromValue, name, rfl⟩ := scalarAt_of_contents contents
          obtain ⟨rest, behind, value⟩ := mappingAt_blockOf writable_esp first fromValue
          exact .entry name known value (ih below behind)
      | macsec entries =>
          obtain ⟨_, fromValue, name, rfl⟩ := scalarAt_of_contents contents
          obtain ⟨rest, behind, value⟩ := mappingAt_blockOf writable_macsec first fromValue
          exact .entry name known value (ih below behind)

/-- The text of a file holds the file. -/
theorem holds_text (plain : file.IsPlain) : Holds (.ofText file.text) file := by
  have nonempty : file.block ≠ .nil := by
    match file, plain.ne_nil with
    | (_, .scalar _) :: _, _ | (_, .esp _) :: _, _ | (_, .macsec _) :: _, _ =>
        exact fun same => by cases same
  obtain ⟨events, read, contents⟩ := Yaml.Block.ofText_text nonempty (isPlain_block plain.plain)
  obtain ⟨⟨_, place⟩, inside, rfl, rfl, fromEntries⟩ := List.map_eq_cons_iff.mp contents
  rw [File.text, read]
  exact ⟨place, inside, [], rfl, entries_block plain.plain fromEntries, rfl⟩

end Files

end PacketProtection.Association
