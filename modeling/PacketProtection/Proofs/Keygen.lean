import PacketProtection.Macsec.Channel
import PacketProtection.Proofs.Association.HexValue
import PacketProtection.Proofs.Association.KeySlot

/-!
# Generated keys

Every generated key has the length that its algorithm uses (`length_of_mem_generateKeys`),
so the transforms work with its own bytes, neither completed nor cut
(`GeneratedKey.usedAsIs_of_length`).  What is printed of a key is read as the key, with or
without `0x` in front, and can be put into an association file wherever a key stands, as a
plain word that needs no quotes (`generated_keys_load_exact`).

*Order.*  Keys come in groups, one for each entry of the list of algorithms
(`exists_groups`), and are made of the random bytes one behind the other
(`flatMap_key_generateKeys`).
-/

namespace PacketProtection

/-! ## Lengths -/

theorem length_of_mem_generateKeys {stream : Nat → UInt8} {start : Nat}
    {algorithms : List Algorithm} {key : GeneratedKey}
    (generated : key ∈ generateKeys stream start algorithms) :
    key.key.length = key.algorithm.keyLength := by
  induction algorithms generalizing start with
  | nil => cases generated
  | cons algorithm rest ih =>
      rcases List.mem_cons.mp generated with rfl | generated
      · simp
      · exact ih generated

/-- A key is used without any change, and without a word about it. -/
def GeneratedKey.UsedAsIs (key : GeneratedKey) : Prop :=
  match key.algorithm with
  | .aesCtr =>
      (Esp.CipherKey.ofBlob key.key).key.toList ++ (Esp.CipherKey.ofBlob key.key).nonce.toList =
          key.key ∧
        normalizeLog Esp.cipherBlobSize key.key.length = []
  | .hmacMd5 =>
      (Esp.authKey key.key).toList = key.key ∧ normalizeLog Esp.authKeySize key.key.length = []
  | .gcmAes128 =>
      ∀ channel : Macsec.RawChannel, channel.sak = key.key →
        channel.normalize.sak.toList = key.key ∧
        channel.normalizeLog = { channel with sak := List.replicate 16 0 }.normalizeLog

theorem GeneratedKey.usedAsIs_of_length {key : GeneratedKey}
    (length : key.key.length = key.algorithm.keyLength) : key.UsedAsIs := by
  obtain ⟨algorithm, bytes⟩ := key
  cases algorithm with
  | aesCtr =>
      refine ⟨?_, ?_⟩
      · exact (Esp.CipherKey.toList_split _).trans (toList_normalize_of_length length)
      · exact length ▸ normalizeLog_self _
  | hmacMd5 => exact ⟨toList_normalize_of_length length, length ▸ normalizeLog_self _⟩
  | gcmAes128 =>
      rintro channel rfl
      refine ⟨toList_normalize_of_length length, ?_⟩
      have sixteen : channel.sak.length = 16 := length
      simp only [Macsec.RawChannel.normalizeLog, sixteen, List.length_replicate]

theorem GeneratedKey.ne_nil_of_length {key : GeneratedKey}
    (length : key.key.length = key.algorithm.keyLength) : key.key ≠ [] := by
  rw [← List.length_pos_iff, length]
  cases key.algorithm <;> decide

/-! ## Order -/

theorem generateKeys_append (stream : Nat → UInt8) (start : Nat) (front back : List Algorithm) :
    generateKeys stream start (front ++ back) =
      generateKeys stream start front ++ generateKeys stream (start + keyBytes front) back := by
  induction front generalizing start with
  | nil => rfl
  | cons algorithm rest ih =>
      rw [List.cons_append, generateKeys, ih, generateKeys, keyBytes, Nat.add_assoc]
      rfl

theorem map_algorithm_generateKeys (stream : Nat → UInt8) (start : Nat)
    (algorithms : List Algorithm) :
    (generateKeys stream start algorithms).map (·.algorithm) = algorithms := by
  induction algorithms generalizing start with
  | nil => rfl
  | cons algorithm rest ih => rw [generateKeys, List.map_cons, ih]

/-- The keys are the random bytes from the first one on, none left out and none twice. -/
theorem flatMap_key_generateKeys (stream : Nat → UInt8) (start : Nat)
    (algorithms : List Algorithm) :
    (generateKeys stream start algorithms).flatMap (·.key) =
      (List.range' start (keyBytes algorithms)).map stream := by
  induction algorithms generalizing start with
  | nil => rfl
  | cons algorithm rest ih =>
      have key : (List.range algorithm.keyLength).map (fun i => stream (start + i)) =
          (List.range' start algorithm.keyLength).map stream := by
        rw [List.range'_eq_map_range, List.map_map]
        rfl
      rw [generateKeys, List.flatMap_cons, ih, key, keyBytes, ← List.map_append,
        List.range'_append_1]

/-- Each entry of a list has its keys in a group of its own, and the groups follow each
other as the entries do. -/
theorem exists_groups (stream : Nat → UInt8) (start : Nat) (algorithms : List Algorithm)
    (count : Nat) :
    ∃ groups : List (List GeneratedKey),
      generateKeys stream start (keyAlgorithms algorithms count) = groups.flatten ∧
      List.Forall₂ (fun algorithm group => group.length = count ∧
        ∀ key ∈ group, key.algorithm = algorithm ∧ key.key.length = algorithm.keyLength)
        algorithms groups := by
  induction algorithms generalizing start with
  | nil => exact ⟨[], rfl, .nil⟩
  | cons algorithm rest ih =>
      let first := List.replicate count algorithm
      obtain ⟨groups, others, grouped⟩ := ih (start + keyBytes first)
      have named := map_algorithm_generateKeys stream start first
      have size : (generateKeys stream start first).length = count := by
        rw [← List.length_map (·.algorithm), named, List.length_replicate]
      have own : ∀ key ∈ generateKeys stream start first,
          key.algorithm = algorithm ∧ key.key.length = algorithm.keyLength := by
        intro key member
        have inFirst : key.algorithm ∈ first := named ▸ List.mem_map_of_mem member
        have same : key.algorithm = algorithm := List.eq_of_mem_replicate inFirst
        exact ⟨same, same ▸ length_of_mem_generateKeys member⟩
      refine ⟨generateKeys stream start first :: groups, ?_, .cons ⟨size, own⟩ grouped⟩
      rw [List.flatten_cons, ← others]
      exact generateKeys_append stream start first _

theorem keyBytes_append (front back : List Algorithm) :
    keyBytes (front ++ back) = keyBytes front + keyBytes back := by
  induction front with
  | nil => exact (Nat.zero_add _).symm
  | cons algorithm rest ih => rw [List.cons_append, keyBytes, ih, keyBytes, Nat.add_assoc]

theorem keyBytes_replicate (count : Nat) (algorithm : Algorithm) :
    keyBytes (List.replicate count algorithm) = count * algorithm.keyLength := by
  induction count with
  | zero => exact (Nat.zero_mul _).symm
  | succ count ih => rw [List.replicate_succ, keyBytes, ih, Nat.add_comm, Nat.succ_mul]

/-- Number of random bytes for `count` keys each. -/
theorem keyBytes_keyAlgorithms (algorithms : List Algorithm) (count : Nat) :
    keyBytes (keyAlgorithms algorithms count) = count * keyBytes algorithms := by
  induction algorithms with
  | nil => rfl
  | cons algorithm rest ih =>
      rw [keyAlgorithms, List.flatMap_cons, ← keyAlgorithms, keyBytes_append, keyBytes_replicate,
        ih, keyBytes, Nat.mul_add]

/-- **Keys are taken from the random bytes in order.**  For each entry of the list there are
as many keys of its algorithm as are asked for, in the order of the list, and each has the
length of its algorithm.  What the printed keys stand for is, put together, the beginning of
the random bytes: none is left out, and none is in two keys. -/
theorem generated_keys_in_order (stream : Nat → UInt8) (algorithms : List Algorithm)
    (count : Nat) (asked : 1 ≤ count) :
    ∃ (keys : List GeneratedKey) (groups : List (List GeneratedKey)) (decoded : List Bytes),
      keygen? stream algorithms count = some keys ∧ keys = groups.flatten ∧
      List.Forall₂ (fun algorithm group => group.length = count ∧
        ∀ key ∈ group, key.algorithm = algorithm ∧ key.key.length = algorithm.keyLength)
        algorithms groups ∧
      List.Forall₂ (fun key bytes => Association.decodeHex (Hex.encode key.key) = .ok bytes)
        keys decoded ∧
      decoded.flatten = (List.range (count * keyBytes algorithms)).map stream := by
  obtain ⟨groups, whole, grouped⟩ := exists_groups stream 0 algorithms count
  refine ⟨generateKeys stream 0 (keyAlgorithms algorithms count), groups,
    (generateKeys stream 0 (keyAlgorithms algorithms count)).map (·.key), if_neg (by omega), whole,
    grouped, ?_, ?_⟩
  · rw [List.forall₂_map_right_iff, List.forall₂_same]
    intro key _
    exact Association.decodeHex_of_encode (Association.hasDigits_self _)
  · rw [← List.flatMap_def, flatMap_key_generateKeys, keyBytes_keyAlgorithms,
      List.range_eq_range']

/-- Two keys each for an algorithm, another one, and the first one again. -/
theorem generated_keys_in_order_repeated :
    ∃ (keys first second third : List GeneratedKey) (decoded : List Bytes),
      keygen? UInt8.ofNat [.aesCtr, .hmacMd5, .aesCtr] 2 = some keys ∧
      keys = first ++ (second ++ third) ∧
      first.length = 2 ∧ (∀ key ∈ second, key.algorithm = .hmacMd5) ∧ third.length = 2 ∧
      List.Forall₂ (fun key bytes => Association.decodeHex (Hex.encode key.key) = .ok bytes)
        keys decoded ∧
      decoded.flatten = (List.range 112).map UInt8.ofNat := by
  obtain ⟨keys, groups, decoded, generated, whole, grouped, read, bytes⟩ :=
    generated_keys_in_order UInt8.ofNat [.aesCtr, .hmacMd5, .aesCtr] 2 (by decide)
  obtain _ | ⟨⟨two, -⟩, _ | ⟨⟨-, named⟩, _ | ⟨⟨alsoTwo, -⟩, ⟨⟩⟩⟩⟩ := grouped
  rw [List.flatten_cons, List.flatten_cons, List.flatten_cons, List.flatten_nil,
    List.append_nil] at whole
  exact ⟨keys, _, _, _, decoded, generated, whole, two, fun key member => (named key member).1,
    alsoTwo, read, bytes⟩

/-! ## Keys in files -/

open Association

/-- **Generated keys load back unchanged.**  The values that are read as byte strings are
exactly those of an even number of digits with at most one mark `0x` in front: no other
character stands in one, so no white space, and neither a mark `0X` nor a second mark.  A
byte string is read from what is written of it.  Hence every key that is generated may be
put into the slot of its algorithm in any file, whatever key was there before and however
the file is written; a file of plain words can be written out with it, without quotes, and
the text holds the file.  The file is loaded as before but for this key, which has exactly
the generated bytes, is not warned about, and is used as it is. -/
theorem generated_keys_load_exact :
    (∀ text, (∃ bytes, decodeHex text = .ok bytes) ↔ IsHexValue text) ∧
    (∀ text, IsHexValue text → text.length % 2 = 0 ∧
      (¬['0', 'X'] <+: text.toList ∧ ¬['0', 'x', '0', 'x'] <+: text.toList) ∧
      ∀ c ∈ text.toList, c ∈ 'x' :: Hex.readable) ∧
    (∀ bytes, decodeHex (Hex.encode bytes) = .ok bytes ∧
      decodeHex ("0x" ++ Hex.encode bytes) = .ok bytes) ∧
    ∀ (stream : Nat → UInt8) (algorithms : List Algorithm) (count : Nat), 1 ≤ count →
      ∃ keys, keygen? stream algorithms count = some keys ∧ ∀ key ∈ keys,
        key.UsedAsIs ∧
        ∀ (printed : String),
          printed = Hex.encode key.key ∨ printed = "0x" ++ Hex.encode key.key →
        ∀ (config : Config) (file : File),
          config.IsSound → RootKey.Spell config file → (config.key? key.algorithm).isSome →
          (file.IsPlain → Holds (.ofText (withKeyText key.algorithm printed file).text)
            (withKeyText key.algorithm printed file)) ∧
          ∀ text, Holds (.ofText text) (withKeyText key.algorithm printed file) →
            (load text).result = .ok (config.withKey key) ∧
            (config.withKey key).key? key.algorithm = some key.key ∧
            ¬IsAbout (slotName key.algorithm) (load text).log := by
  refine ⟨exists_decodeHex_iff, fun text hex => ⟨hex.even, hex.mark, fun c => hex.mem⟩,
    fun bytes => ⟨decodeHex_of_encode (hasDigits_self _), decodeHex_of_encode (hasDigits_marked _)⟩,
    ?_⟩
  intro stream algorithms count some
  refine ⟨generateKeys stream 0 (keyAlgorithms algorithms count), if_neg (by omega), ?_⟩
  intro key generated
  have length := length_of_mem_generateKeys generated
  refine ⟨GeneratedKey.usedAsIs_of_length length, ?_⟩
  intro printed spelled config file sound spell used
  have read : decodeHex printed = .ok key.key := by
    rcases spelled with rfl | rfl
    · exact decodeHex_of_encode (hasDigits_self _)
    · exact decodeHex_of_encode (hasDigits_marked _)
  refine ⟨fun plain => holds_text (isPlain_withKeyText plain _ ?_), fun text holds => ?_⟩
  · exact isPlain_of_decodeHex read (key.ne_nil_of_length length)
  · have kept := Config.key?_withKey used
    rw [load_of_holds holds (spell_withKeyText spell read) (sound.withKey key)]
    refine ⟨rfl, kept, ?_⟩
    rw [isAbout_warnings_iff]
    rintro ⟨bytes, found, other⟩
    obtain rfl := Option.some.inj (kept.symm.trans found)
    exact other length

/-! ### A key that could be a number -/

/-- A file with a key of one byte. -/
def digitsFile : File :=
  [(.version, .scalar ⟨"1.0", .plain, none⟩),
   (.macsec, .macsec [(.sak, ⟨"00", .plain, none⟩), (.an, ⟨"2", .plain, none⟩)])]

/-- The same file with a key whose digits could be read as a number. -/
def digitsText : String :=
  "version: 1.0\nmacsec:\n  sak: 31313131313131313131313131313131\n  an: 2\n"

theorem text_digitsFile :
    File.text (withKeyText .gcmAes128 "31313131313131313131313131313131" digitsFile) =
      digitsText := by
  decide +kernel

theorem isPlain_digitsFile : digitsFile.IsPlain where
  ne_nil := List.cons_ne_nil _ _
  plain := by
    rintro key value (_ | ⟨_, _ | ⟨_, ⟨⟩⟩⟩)
    · exact ⟨rfl, by decide⟩
    · refine ⟨List.cons_ne_nil _ _, ?_⟩
      rintro key value (_ | ⟨_, _ | ⟨_, ⟨⟩⟩⟩)
      · exact ⟨rfl, by decide⟩
      · exact ⟨rfl, by decide⟩

/-- What the file is read as. -/
def digitsConfig : Config where
  version := "1.0"
  esp := none
  macsec := some
    { sak := [0], sci := none, systemMac := none, channelNumber := Macsec.defaultChannelNumber
      pn := 1, an := 2, secTag := none }

theorem spell_digitsFile : RootKey.Spell digitsConfig digitsFile where
  once := by decide
  fits := by
    rintro key value (_ | ⟨_, _ | ⟨_, ⟨⟩⟩⟩)
    · rfl
    · refine ⟨_, rfl, by decide, ?_, fun key missing => ?_⟩
      · rintro key value (_ | ⟨_, _ | ⟨_, ⟨⟩⟩⟩)
        · rfl
        · rfl
      · cases key with
        | sak | an => exact absurd (by decide) missing
        | _ => rfl
  left_out := by
    intro key missing
    cases key with
    | esp => rfl
    | _ => exact absurd (by decide) missing

/-- Digits that could be read as a number are read as a key. -/
theorem generated_keys_load_exact_for_digits :
    (load digitsText).result = .ok
      { version := "1.0", esp := none
        macsec := some
          { sak := List.replicate 16 0x31, sci := none, systemMac := none
            channelNumber := Macsec.defaultChannelNumber, pn := 1, an := 2, secTag := none } } ∧
    ¬IsAbout "MACsec SAK" (load digitsText).log ∧
    (GeneratedKey.mk .gcmAes128 (List.replicate 16 0x31)).UsedAsIs := by
  obtain ⟨keys, generated, each⟩ :=
    generated_keys_load_exact.2.2.2 (fun _ => 0x31) [.gcmAes128] 1 (Nat.le_refl 1)
  obtain rfl := Option.some.inj generated
  obtain ⟨used, loads⟩ := each ⟨.gcmAes128, List.replicate 16 0x31⟩ List.mem_cons_self
  have sound : digitsConfig.IsSound := ⟨by decide, by rintro macsec ⟨⟩; decide⟩
  obtain ⟨written, loads⟩ := loads "31313131313131313131313131313131" (.inl (by decide +kernel))
    digitsConfig digitsFile sound spell_digitsFile rfl
  have holds := written isPlain_digitsFile
  rw [text_digitsFile] at holds
  obtain ⟨loaded, -, silent⟩ := loads digitsText holds
  exact ⟨loaded, silent, used⟩

end PacketProtection
