import Mathlib.Data.List.Nodup
import Mathlib.Data.List.Perm.Subperm
import PacketProtection.Association.Document

/-!
# Mappings of an association file

A node *stands for* a scalar if it is that scalar or an alias of it.  The *entries* of a
mapping are its keys with what their values stand for, in the order of the file
(`Entries`).

*Filling a draft.*  Reading starts with a draft of no key and each entry adds its own,
whatever the order (`Fills`).  As no key is repeated, the entries cannot be more than
the keys that there are, and reading does not give up before the mapping ends
(`Fills.readMapping`).
-/

namespace PacketProtection.Association

variable {α κ ν δ : Type} {document : Yaml.Document}

/-! ## Scalars -/

/-- The node at the front of some events is a scalar, or repeats one. -/
def StandsFor (document : Yaml.Document) (events : Yaml.Events) (scalar : Yaml.Scalar) : Prop :=
  ∃ place behind, document.resolve events = ⟨.scalar scalar, place⟩ :: behind

theorem StandsFor.readField {events : Yaml.Events} {scalar : Yaml.Scalar} {field : Field α}
    {value : α} (stands : StandsFor document events scalar) (fits : field.read scalar = .ok value)
    (path : List String) :
    readField document path field events = .ok (value, events.drop 1) := by
  obtain ⟨place, behind, resolved⟩ := stands
  simp only [Association.readField, resolved, fits]

/-- The end of a mapping stands for nothing. -/
theorem StandsFor.ne_end {events rest : Yaml.Events} {scalar : Yaml.Scalar} {place : Yaml.Place}
    (stands : StandsFor document events scalar) : events ≠ ⟨.mappingEnd, place⟩ :: rest := by
  rintro rfl
  obtain ⟨place, behind, resolved⟩ := stands
  cases resolved

/-! ## Entries -/

/-- What the value of an entry is at some events, and the events behind it. -/
abbrev ValueAt (ν : Type) := ν → Yaml.Events → Yaml.Events → Prop

/-- A value that is a scalar. -/
def ScalarAt (document : Yaml.Document) : ValueAt Yaml.Scalar := fun scalar events behind =>
  StandsFor document events scalar ∧ behind = events.drop 1

/-- The entries of a mapping up to its end, each known by its key, and the events behind
the mapping. -/
inductive Entries (document : Yaml.Document) (named : List (String × κ)) (valueAt : ValueAt ν) :
    List (κ × ν) → Yaml.Events → Yaml.Events → Prop
  | ended {place : Yaml.Place} {rest : Yaml.Events} :
      Entries document named valueAt [] (⟨.mappingEnd, place⟩ :: rest) rest
  | entry {name : Yaml.Scalar} {key : κ} {value : ν} {entries : List (κ × ν)}
      {events behind rest : Yaml.Events} (key_stands : StandsFor document events name)
      (known : named.lookup name.text = some key)
      (value_stands : valueAt value (events.drop 1) behind)
      (others : Entries document named valueAt entries behind rest) :
      Entries document named valueAt ((key, value) :: entries) events rest

/-- The keys of some entries. -/
def keys (entries : List (κ × ν)) : List κ :=
  entries.map (·.1)

/-- Entries spell something out: no key is there twice, each value fits, and for a key
that is left out the default is right. -/
structure Spells (fits : κ → ν → Prop) (isDefault : κ → Prop) (entries : List (κ × ν)) :
    Prop where
  once : (keys entries).Nodup
  fits : ∀ key value, (key, value) ∈ entries → fits key value
  left_out : ∀ key, key ∉ keys entries → isDefault key

/-- Entries with other values for the same keys. -/
def mapValues (change : κ → ν → ν) (entries : List (κ × ν)) : List (κ × ν) :=
  entries.map fun entry => (entry.1, change entry.1 entry.2)

theorem exists_of_mem_mapValues {change : κ → ν → ν} {entries : List (κ × ν)} {key : κ} {value : ν}
    (member : (key, value) ∈ mapValues change entries) :
    ∃ old, (key, old) ∈ entries ∧ value = change key old := by
  obtain ⟨⟨key, old⟩, oldMember, new⟩ := List.mem_map.mp member
  obtain ⟨rfl, rfl⟩ := Prod.mk.inj new
  exact ⟨old, oldMember, rfl⟩

/-- Entries with other values spell what the other values are read as. -/
theorem Spells.mapValues {fits fits' : κ → ν → Prop} {isDefault isDefault' : κ → Prop}
    {entries : List (κ × ν)} (spells : Spells fits isDefault entries) {change : κ → ν → ν}
    (fit : ∀ key value, fits key value → fits' key (change key value))
    (default : ∀ key, isDefault key → isDefault' key) :
    Spells fits' isDefault' (mapValues change entries) := by
  have same : keys (Association.mapValues change entries) = keys entries := by
    rw [keys, keys, Association.mapValues, List.map_map]
    rfl
  refine ⟨same ▸ spells.once, ?_, fun key missing => ?_⟩
  · intro key value member
    obtain ⟨old, oldMember, rfl⟩ := exists_of_mem_mapValues member
    exact fit key old (spells.fits key old oldMember)
  · exact default key (spells.left_out key (same ▸ missing))

section Reading

variable {named : List (String × κ)} {valueAt : ValueAt ν} {entries : List (κ × ν)}
  {events rest : Yaml.Events}

theorem mem_of_lookup {name : String} {key : κ} (known : named.lookup name = some key) :
    key ∈ named.map (·.2) := by
  obtain ⟨front, back, rfl, -⟩ := List.lookup_eq_some_iff.mp known
  simp

theorem Entries.keys_subset (read : Entries document named valueAt entries events rest) :
    keys entries ⊆ named.map (·.2) := by
  induction read with
  | ended => exact List.nil_subset _
  | entry key_stands known value_stands others ih =>
      exact List.cons_subset.mpr ⟨mem_of_lookup known, ih⟩

/-- Where no key is repeated, there are not more entries than keys. -/
theorem Entries.length_le (read : Entries document named valueAt entries events rest)
    (once : (keys entries).Nodup) : entries.length ≤ named.length := by
  have fewer := (List.subperm_of_subset once read.keys_subset).length_le
  simpa [keys] using fewer

end Reading

/-! ## Filling a draft -/

/-- Drafts by the keys that they hold: reading the value of a key that fits adds the key. -/
structure Shape.Fills (shape : Shape κ δ) (document : Yaml.Document) (valueAt : ValueAt ν)
    (fits : κ → ν → Prop) (draft : List κ → δ) : Prop where
  has : ∀ seen key, shape.has (draft seen) key = true ↔ key ∈ seen
  read : ∀ {key value}, fits key value → ∀ {events behind}, valueAt value events behind →
    ∀ path seen, shape.read document path (draft seen) key events =
      .ok (draft (key :: seen), behind)

theorem Shape.readEntries_of_ne_end (shape : Shape κ δ) (path : List String) (fuel : Nat)
    (draft : δ) {events : Yaml.Events}
    (more : ∀ place rest, events ≠ ⟨.mappingEnd, place⟩ :: rest) :
    shape.readEntries document path (fuel + 1) draft events = (do
      let ((name, key), events) ← readField document path (keyField shape.named) events
      if shape.has draft key then
        throw { cause := .repeatedKey name }
      let (draft, events) ← shape.read document (path ++ [name]) draft key events
      shape.readEntries document path fuel draft events) := by
  rw [readEntries]
  exact more

namespace Shape.Fills

variable {shape : Shape κ δ} {valueAt : ValueAt ν} {fits : κ → ν → Prop} {draft : List κ → δ}
  {entries : List (κ × ν)} {events rest : Yaml.Events} {seen : List κ}

/-- An entry is read by reading its key and then its value. -/
theorem readEntry (fills : shape.Fills document valueAt fits draft) {name : Yaml.Scalar}
    {key : κ} {value : ν} {behind : Yaml.Events} (key_stands : StandsFor document events name)
    (known : shape.named.lookup name.text = some key)
    (value_stands : valueAt value (events.drop 1) behind) (fit : fits key value)
    (new : key ∉ seen) (path : List String) (fuel : Nat) :
    shape.readEntries document path (fuel + 1) (draft seen) events =
      shape.readEntries document path fuel (draft (key :: seen)) behind := by
  have keyRead : readField document path (keyField shape.named) events =
      .ok ((name.text, key), events.drop 1) :=
    key_stands.readField (by simp only [keyField, known]) path
  have fresh : ¬shape.has (draft seen) key = true := mt (fills.has seen key).mp new
  rw [shape.readEntries_of_ne_end path fuel _ fun _ _ => key_stands.ne_end, keyRead]
  simp only [bind, Except.bind, if_neg fresh, fills.read fit value_stands]

/-- Reading entries adds their keys to the draft, the last in front. -/
theorem readEntries (fills : shape.Fills document valueAt fits draft)
    (read : Entries document shape.named valueAt entries events rest)
    (fit : ∀ key value, (key, value) ∈ entries → fits key value)
    (new : ((keys entries).reverse ++ seen).Nodup) (path : List String)
    {fuel : Nat} (enough : entries.length < fuel) :
    shape.readEntries document path fuel (draft seen) events =
      .ok (draft ((keys entries).reverse ++ seen), rest) := by
  obtain ⟨fuel, rfl⟩ := Nat.exists_eq_succ_of_ne_zero (Nat.ne_of_gt (Nat.zero_lt_of_lt enough))
  induction read generalizing seen fuel with
  | ended => rfl
  | @entry name key value entries events behind rest key_stands known value_stands others ih =>
      have order : (keys ((key, value) :: entries)).reverse ++ seen =
          (keys entries).reverse ++ key :: seen := by
        rw [keys, List.map_cons, List.reverse_cons, List.append_assoc]
        rfl
      rw [order] at new ⊢
      have fresh := (List.nodup_cons.mp new.of_append_right).1
      have inside : entries.length < fuel := Nat.lt_of_succ_lt_succ enough
      obtain ⟨fuel, rfl⟩ := Nat.exists_eq_succ_of_ne_zero (Nat.ne_of_gt (Nat.zero_lt_of_lt inside))
      rw [fills.readEntry key_stands known value_stands
        (fit key value List.mem_cons_self) fresh]
      exact ih (fun key value member => fit key value (List.mem_cons_of_mem _ member)) new fuel
        inside

/-- A mapping is read up to its end, if a draft is complete that lacks no key but such as
have their default. -/
theorem readMapping (fills : shape.Fills document valueAt fits draft)
    (read : Entries document shape.named valueAt entries events rest)
    {isDefault : κ → Prop} (spells : Spells fits isDefault entries)
    {finish : δ → Except Cause α} {value : α}
    (finished : ∀ {seen}, (∀ key, key ∉ seen → isDefault key) → finish (draft seen) = .ok value)
    (location : Location) :
    shape.readMapping (draft []) finish document location events = .ok (value, rest) := by
  have once : ((keys entries).reverse ++ []).Nodup := by
    rw [List.append_nil, List.nodup_reverse]
    exact spells.once
  have enough : entries.length < shape.named.length + 1 :=
    Nat.lt_succ_of_le (read.length_le spells.once)
  have complete : finish (draft (keys entries).reverse) = .ok value :=
    finished fun key lack => spells.left_out key (mt List.mem_reverse.mpr lack)
  simp only [Shape.readMapping, fills.readEntries read spells.fits once location.path enough,
    bind, Except.bind, List.append_nil, complete]
  rfl

end Shape.Fills

end PacketProtection.Association
