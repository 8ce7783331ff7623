import PacketProtection.Keygen
import PacketProtection.Proofs.Association.HexValue
import PacketProtection.Proofs.Association.Written

/-!
# Keys in association files

Each algorithm has a *slot* in a file: the cipher key and the authentication key of the
ESP association, and the key of the MACsec association (`Config.key?`).

*Putting a key into a file.*  Take any file that spells associations and write another
text into a slot, instead of the key that is there.  If the text is read as a key, the
file spells the same associations with this key (`spell_withKeyText`).  If all words of the
file are plain they stay so, as a value in hexadecimal is plain (`isPlain_withKeyText`).

*Warnings.*  A warning about a slot is logged exactly where its key has not the length
that its algorithm uses (`isAbout_warnings_iff`).
-/

namespace PacketProtection.Association

/-! ## Slots -/

/-- The key of a file that an algorithm uses. -/
def Config.key? (config : Config) : Algorithm → Option Bytes
  | .aesCtr => config.esp.map (·.cipherKey)
  | .hmacMd5 => config.esp.map (·.authKey)
  | .gcmAes128 => config.macsec.map (·.sak)

/-- The associations with another key. -/
def Config.withKey (config : Config) (key : GeneratedKey) : Config :=
  match key.algorithm with
  | .aesCtr => { config with esp := config.esp.map ({ · with cipherKey := key.key }) }
  | .hmacMd5 => { config with esp := config.esp.map ({ · with authKey := key.key }) }
  | .gcmAes128 => { config with macsec := config.macsec.map ({ · with sak := key.key }) }

/-- Entries with another text as the value for a key. -/
def withText {κ : Type} [DecidableEq κ] (slot : κ) (text : String) :
    List (κ × Yaml.Scalar) → List (κ × Yaml.Scalar) :=
  mapValues fun key scalar => if key = slot then { scalar with text } else scalar

/-- A section with another text as the key that an algorithm uses. -/
def Section.withKeyText (algorithm : Algorithm) (text : String) : Section → Section
  | .esp entries =>
      match algorithm with
      | .aesCtr => .esp (withText .cipherKey text entries)
      | .hmacMd5 => .esp (withText .authKey text entries)
      | .gcmAes128 => .esp entries
  | .macsec entries =>
      match algorithm with
      | .gcmAes128 => .macsec (withText .sak text entries)
      | _ => .macsec entries
  | value => value

/-- A file with another text as the key that an algorithm uses. -/
def withKeyText (algorithm : Algorithm) (text : String) : File → File :=
  mapValues fun _ value => value.withKeyText algorithm text

/-! ## Putting a key into a file -/

variable {text : String} {bytes : Bytes}

theorem EspKey.Spell.withCipherKey {esp : EspAssociation} {entries : List (EspKey × Yaml.Scalar)}
    (spell : EspKey.Spell esp entries) (read : decodeHex text = .ok bytes) :
    EspKey.Spell { esp with cipherKey := bytes } (withText .cipherKey text entries) :=
  spell.mapValues
    (fun key scalar fit => by
      cases key with
      | cipherKey => exact read
      | _ => exact fit)
    fun key => by cases key <;> exact id

theorem EspKey.Spell.withAuthKey {esp : EspAssociation} {entries : List (EspKey × Yaml.Scalar)}
    (spell : EspKey.Spell esp entries) (read : decodeHex text = .ok bytes) :
    EspKey.Spell { esp with authKey := bytes } (withText .authKey text entries) :=
  spell.mapValues
    (fun key scalar fit => by
      cases key with
      | authKey => exact read
      | _ => exact fit)
    fun key => by cases key <;> exact id

theorem MacsecKey.Spell.withSak {macsec : MacsecAssociation}
    {entries : List (MacsecKey × Yaml.Scalar)} (spell : MacsecKey.Spell macsec entries)
    (read : decodeHex text = .ok bytes) :
    MacsecKey.Spell { macsec with sak := bytes } (withText .sak text entries) :=
  spell.mapValues
    (fun key scalar fit => by
      cases key with
      | sak => exact read
      | _ => exact fit)
    fun key => by cases key <;> exact id

/-- A text that is read as a key puts the key into a file. -/
theorem spell_withKeyText {config : Config} {file : File} {key : GeneratedKey}
    (spell : RootKey.Spell config file) (read : decodeHex text = .ok key.key) :
    RootKey.Spell (config.withKey key) (withKeyText key.algorithm text file) := by
  obtain ⟨algorithm, bytes⟩ := key
  refine spell.mapValues (fun name value fit => ?_) fun name => ?_
  · match name, value, fit with
    | .version, .scalar scalar, fit => cases algorithm <;> exact fit
    | .esp, .scalar scalar, ⟨unset, absent⟩ =>
        cases algorithm <;> exact ⟨unset, by simp [Config.withKey, absent]⟩
    | .esp, .esp entries, ⟨esp, present, inside⟩ =>
        cases algorithm with
        | aesCtr => exact ⟨_, by simp [Config.withKey, present], inside.withCipherKey read⟩
        | hmacMd5 => exact ⟨_, by simp [Config.withKey, present], inside.withAuthKey read⟩
        | gcmAes128 => exact ⟨esp, present, inside⟩
    | .macsec, .scalar scalar, ⟨unset, absent⟩ =>
        cases algorithm <;> exact ⟨unset, by simp [Config.withKey, absent]⟩
    | .macsec, .macsec entries, ⟨macsec, present, inside⟩ =>
        cases algorithm with
        | gcmAes128 => exact ⟨_, by simp [Config.withKey, present], inside.withSak read⟩
        | _ => exact ⟨macsec, present, inside⟩
  · cases name <;> cases algorithm <;> simp +contextual [RootKey.IsDefault, Config.withKey]

/-- What is read as some bytes is a plain word. -/
theorem isPlain_of_decodeHex (read : decodeHex text = .ok bytes) (nonempty : bytes ≠ []) :
    Yaml.IsPlain text.toList := by
  have plain : ∀ c ∈ 'x' :: Hex.readable, c ∈ Yaml.plainChars :=
    Hex.forall_mem_of_all (by decide)
  have hex : IsHexValue text := (exists_decodeHex_iff text).mp ⟨bytes, read⟩
  refine ⟨fun empty => ?_, fun c member => plain c (hex.mem member)⟩
  obtain rfl : text = "" := String.toList_inj.mp empty
  have none : decodeHex "" = .ok [] := decodeHex_of_encode (hasDigits_self "")
  exact nonempty (Except.ok.inj (read.symm.trans none))

theorem IsPlainEntries.withText {κ : Type} [DecidableEq κ] {entries : List (κ × Yaml.Scalar)}
    (plain : IsPlainEntries entries) (slot : κ) (word : Yaml.IsPlain text.toList) :
    IsPlainEntries (Association.withText slot text entries) := by
  refine ⟨mt List.map_eq_nil_iff.mp plain.ne_nil, fun key scalar member => ?_⟩
  obtain ⟨old, oldMember, rfl⟩ := exists_of_mem_mapValues member
  have oldPlain := plain.plain key old oldMember
  split
  · exact ⟨congrArg (fun scalar : Yaml.Scalar => { scalar with text }) oldPlain.written, word⟩
  · exact oldPlain

/-- A file of plain words stays one with another plain word as a key. -/
theorem isPlain_withKeyText {file : File} (plain : file.IsPlain) (algorithm : Algorithm)
    (word : Yaml.IsPlain text.toList) : (withKeyText algorithm text file).IsPlain := by
  refine ⟨mt List.map_eq_nil_iff.mp plain.ne_nil, fun key value member => ?_⟩
  obtain ⟨old, oldMember, rfl⟩ := exists_of_mem_mapValues member
  have oldPlain := plain.plain key old oldMember
  cases old with
  | scalar scalar => exact oldPlain
  | esp entries =>
      cases algorithm with
      | aesCtr => exact IsPlainEntries.withText oldPlain .cipherKey word
      | hmacMd5 => exact IsPlainEntries.withText oldPlain .authKey word
      | gcmAes128 => exact oldPlain
  | macsec entries =>
      cases algorithm with
      | gcmAes128 => exact IsPlainEntries.withText oldPlain .sak word
      | _ => exact oldPlain

theorem Config.IsSound.withKey {config : Config} (sound : config.IsSound) (key : GeneratedKey) :
    (config.withKey key).IsSound := by
  obtain ⟨algorithm, bytes⟩ := key
  refine ⟨?_, fun macsec member => ?_⟩
  · cases algorithm <;> exact sound.version
  · cases algorithm with
    | gcmAes128 =>
        obtain ⟨old, oldMember, rfl⟩ := Option.map_eq_some_iff.mp member
        exact sound.number old oldMember
    | _ => exact sound.number macsec member

theorem Config.key?_withKey {config : Config} {key : GeneratedKey}
    (used : (config.key? key.algorithm).isSome) :
    (config.withKey key).key? key.algorithm = some key.key := by
  obtain ⟨algorithm, bytes⟩ := key
  cases algorithm <;> simpa [withKey, key?, Option.isSome_iff_exists] using used

/-! ## Warnings -/

/-- A log has a message that starts with a label. -/
def IsAbout (label : String) (log : Log) : Prop :=
  ∃ message ∈ log, label.toList <+: message.text.toList

/-- How a warning about the key that an algorithm uses starts. -/
def slotName : Algorithm → String
  | .aesCtr => "ESP cipher key"
  | .hmacMd5 => "ESP auth key"
  | .gcmAes128 => "MACsec SAK"

section Warnings

variable {label what : String} {key : Bytes} {expected : Nat}

@[simp] theorem isAbout_nil : ¬IsAbout label [] := by simp [IsAbout]

@[simp] theorem isAbout_append {log more : Log} :
    IsAbout label (log ++ more) ↔ IsAbout label log ∨ IsAbout label more := by
  simp [IsAbout, or_and_right, exists_or]

/-- A warning starts with the name of what it is about. -/
theorem exists_lengthWarning (what : String) {key : Bytes} (other : key.length ≠ expected) :
    ∃ rest, lengthWarning what key expected = [⟨.warn, what ++ rest⟩] := by
  simp only [lengthWarning, if_neg other, toString, String.append_assoc]
  exact ⟨_, rfl⟩

theorem isAbout_lengthWarning_self :
    IsAbout what (lengthWarning what key expected) ↔ key.length ≠ expected := by
  by_cases same : key.length = expected
  · simp [lengthWarning, same]
  · obtain ⟨rest, warned⟩ := exists_lengthWarning what same
    simp [IsAbout, warned, same]

/-- A warning is not about anything with an unlike name. -/
theorem not_isAbout_lengthWarning (notLonger : ¬label.toList <+: what.toList)
    (notShorter : ¬what.toList <+: label.toList) :
    ¬IsAbout label (lengthWarning what key expected) := by
  by_cases same : key.length = expected
  · simp [lengthWarning, same]
  · obtain ⟨rest, warned⟩ := exists_lengthWarning what same
    rw [warned]
    rintro ⟨message, member, about⟩
    obtain rfl := List.mem_singleton.mp member
    have prefixed : what.toList <+: (what ++ rest).toList := by
      rw [String.toList_append]
      exact List.prefix_append _ _
    exact (List.prefix_or_prefix_of_prefix about prefixed).elim notLonger notShorter

/-- No two names of warnings are alike. -/
theorem isAbout_lengthWarning_iff {algorithm : Algorithm}
    (named : what ∈ ["ESP cipher key", "ESP auth key", "MACsec SAK", "MACsec SCI"]) :
    IsAbout (slotName algorithm) (lengthWarning what key expected) ↔
      what = slotName algorithm ∧ key.length ≠ expected := by
  by_cases same : what = slotName algorithm
  · rw [same, isAbout_lengthWarning_self]
    simp
  · have apart : ∀ what ∈ ["ESP cipher key", "ESP auth key", "MACsec SAK", "MACsec SCI"],
        ∀ algorithm, what = slotName algorithm ∨
          (¬(slotName algorithm).toList <+: what.toList ∧
            ¬what.toList <+: (slotName algorithm).toList) := by
      rintro what named (- | - | -) <;> revert what <;> decide
    obtain ⟨notLonger, notShorter⟩ := (apart what named algorithm).resolve_left same
    simp only [not_isAbout_lengthWarning notLonger notShorter, same, false_and]

theorem isAbout_espWarnings_iff {esp : EspAssociation} {algorithm : Algorithm} :
    IsAbout (slotName algorithm) (espWarnings esp) ↔
      (algorithm = .aesCtr ∧ esp.cipherKey.length ≠ 20) ∨
      (algorithm = .hmacMd5 ∧ esp.authKey.length ≠ 16) := by
  rw [espWarnings, isAbout_append, isAbout_lengthWarning_iff (by decide),
    isAbout_lengthWarning_iff (by decide)]
  cases algorithm <;> simp [slotName, Esp.cipherBlobSize, Esp.authKeySize]

theorem isAbout_macsecWarnings_iff {macsec : MacsecAssociation} {algorithm : Algorithm} :
    IsAbout (slotName algorithm) (macsecWarnings macsec) ↔
      algorithm = .gcmAes128 ∧ macsec.sak.length ≠ 16 := by
  have sci : ¬IsAbout (slotName algorithm)
      ((macsec.sci.map fun sci => lengthWarning "MACsec SCI" sci 8).getD []) := by
    cases macsec.sci with
    | none => exact isAbout_nil
    | some sci =>
        rw [Option.map_some, Option.getD_some, isAbout_lengthWarning_iff (by decide)]
        cases algorithm <;> simp [slotName]
  simp only [macsecWarnings, isAbout_append, sci, or_false]
  rw [isAbout_lengthWarning_iff (by decide)]
  cases algorithm <;> simp [slotName]

/-- A warning about a slot is logged where its key has not the length that is used. -/
theorem isAbout_warnings_iff {config : Config} {algorithm : Algorithm} :
    IsAbout (slotName algorithm) config.warnings ↔
      ∃ key, config.key? algorithm = some key ∧ key.length ≠ algorithm.keyLength := by
  obtain ⟨version, esp, macsec⟩ := config
  simp only [Config.warnings, isAbout_append]
  cases algorithm <;> cases esp <;> cases macsec <;>
    simp [Config.key?, isAbout_espWarnings_iff, isAbout_macsecWarnings_iff, Algorithm.keyLength]

end Warnings

end PacketProtection.Association
