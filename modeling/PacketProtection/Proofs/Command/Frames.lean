import PacketProtection.Command.Macsec
import PacketProtection.Proofs.Macsec.RoundTrip
import PacketProtection.Proofs.View.SecTag

/-!
# Frames of the MACsec command

A frame is two addresses and what follows them, and a *protected* frame goes on
with a security tag that carries its SCI.  Which frames these are shows in a few
of their bytes (`typed?_eq_some`, `parseProtected_eq_ok`, `isProtected_iff`).

*The channel of a frame.*  A protected frame tells its receiver everything but
the key: addresses, security tag, SCI and packet number (`frameChannel`).  Nonce
and associated data of that channel are pieces of the frame
(`nonce_frameChannel`, `associated_frameChannel`).

*Validation.*  Once a frame is parsed, the command hands the frame's channel to
the transform and reports what it finds (`result_macsecValidate`).  So nothing
of the association has a say but its key (`result_macsecValidate_congr`).
-/

namespace PacketProtection.Command

open View (SecTag)

/-! ## Addresses -/

namespace Ethernet

variable {frame : Bytes} {ethernet : Ethernet}

/-- The addresses written out, and what follows them. -/
def toBytes (ethernet : Ethernet) : Bytes :=
  ethernet.dst.toList ++ ethernet.src.toList ++ ethernet.rest

theorem length_toBytes (ethernet : Ethernet) :
    ethernet.toBytes.length = 12 + ethernet.rest.length := by
  rw [toBytes, List.length_append, List.length_append, Octets.length_toList,
    Octets.length_toList]

theorem length_addresses (ethernet : Ethernet) :
    (ethernet.dst.toList ++ ethernet.src.toList).length = 12 := by
  rw [List.length_append, Octets.length_toList, Octets.length_toList]

theorem take_toBytes (ethernet : Ethernet) :
    ethernet.toBytes.take 12 = ethernet.dst.toList ++ ethernet.src.toList :=
  List.take_left' ethernet.length_addresses

theorem drop_toBytes (ethernet : Ethernet) : ethernet.toBytes.drop 12 = ethernet.rest :=
  List.drop_left' ethernet.length_addresses

theorem take_src (ethernet : Ethernet) :
    (ethernet.toBytes.drop 6).take 6 = ethernet.src.toList := by
  rw [toBytes, List.append_assoc, List.drop_left' ethernet.dst.length_toList,
    List.take_left' ethernet.src.length_toList]

theorem parse?_toBytes (ethernet : Ethernet) : parse? ethernet.toBytes = some ethernet := by
  have enough : addressesLength ≤ ethernet.toBytes.length := by
    rw [length_toBytes, addressesLength]
    omega
  have dst : ethernet.toBytes.take 6 = ethernet.dst.toList := by
    rw [toBytes, List.append_assoc, List.take_left' ethernet.dst.length_toList]
  rw [parse?, dif_pos enough, Option.some_inj]
  cases ethernet
  rw [mk.injEq]
  exact ⟨Octets.ext dst, Octets.ext (take_src _), drop_toBytes _⟩

theorem toBytes_of_parse? (parsed : parse? frame = some ethernet) : ethernet.toBytes = frame := by
  unfold parse? at parsed
  split at parsed
  · cases parsed
    show frame.take 6 ++ (frame.drop 6).take 6 ++ frame.drop (6 + 6) = frame
    rw [← List.take_add, List.take_append_drop]
  · cases parsed

/-- Addresses are read from their own bytes only. -/
theorem parse?_eq_some : parse? frame = some ethernet ↔ frame = ethernet.toBytes := by
  constructor
  · intro parsed
    exact (toBytes_of_parse? parsed).symm
  · rintro rfl
    exact parse?_toBytes ethernet

theorem exists_parse? (frame : Bytes) (enough : addressesLength ≤ frame.length) :
    ∃ ethernet, parse? frame = some ethernet :=
  ⟨_, dif_pos enough⟩

/-- A frame with an EtherType is addresses, EtherType and payload. -/
theorem typed?_eq_some {etherType : Octets 2} {payload : Bytes} :
    typed? frame = some (ethernet, etherType, payload) ↔
      frame = ethernet.toBytes ∧ ethernet.rest = etherType.toList ++ payload := by
  constructor
  · intro typed
    unfold typed? at typed
    obtain ⟨found, parsed, typed⟩ := Option.bind_eq_some_iff.mp typed
    split at typed
    · cases typed
      exact ⟨parse?_eq_some.mp parsed, (List.take_append_drop 2 _).symm⟩
    · cases typed
  · rintro ⟨whole, rest⟩
    have enough : 2 ≤ ethernet.rest.length := by
      rw [rest, List.length_append, etherType.length_toList]
      omega
    have front : Octets.first 2 ethernet.rest enough = etherType := by
      apply Octets.ext
      show ethernet.rest.take 2 = _
      rw [rest, List.take_left' etherType.length_toList]
    have back : ethernet.rest.drop 2 = payload := by
      rw [rest, List.drop_left' etherType.length_toList]
    rw [typed?, parse?_eq_some.mpr whole]
    show (if h : 2 ≤ ethernet.rest.length then
      some (ethernet, Octets.first 2 ethernet.rest h, ethernet.rest.drop 2) else none) = _
    rw [dif_pos enough, front, back]

end Ethernet

/-! ## Protected frames -/

section Parsed

variable {frame : Bytes} {ethernet : Ethernet} {view : SecTag}

/-- A protected frame is addresses and a security tag that carries its SCI. -/
theorem parseProtected_eq_ok :
    parseProtected frame = .ok (ethernet, view) ↔
      frame = ethernet.toBytes ∧ ethernet.rest = view.toBytes ∧ 8 ≤ view.rest.length ∧
        view.etherType = View.EtherType.macsec ∧ view.hasSci = true := by
  constructor
  · intro parsed
    unfold parseProtected at parsed
    split at parsed
    · cases parsed
    next found whole =>
      split at parsed
      · cases parsed
      next enough =>
        split at parsed
        · cases parsed
        next tag read =>
          split at parsed
          · cases parsed
          next isMacsec =>
            split at parsed
            · cases parsed
            next carries =>
              cases parsed
              have rest := SecTag.parse?_eq_some.mp read
              have long := Nat.le_of_not_lt enough
              rw [rest, SecTag.length_toBytes, SecTag.fullLength] at long
              exact ⟨Ethernet.parse?_eq_some.mp whole, rest, by omega, not_not.mp isMacsec,
                not_not.mp carries⟩
  · rintro ⟨whole, rest, long, isMacsec, carries⟩
    have enough : ¬ethernet.rest.length < SecTag.fullLength := by
      rw [rest, SecTag.length_toBytes, SecTag.fullLength]
      omega
    rw [parseProtected, Ethernet.parse?_eq_some.mpr whole]
    simp only
    rw [if_neg enough, SecTag.parse?_eq_some.mpr rest]
    simp only
    rw [if_neg (not_not.mpr isMacsec), if_neg (not_not.mpr carries)]

/-- A frame is long enough for a security tag and has one that carries its SCI. -/
structure IsProtected (frame : Bytes) : Prop where
  enough : 28 ≤ frame.length
  isMacsec : (frame.drop 12).take 2 = [0x88, 0xe5]
  carriesSci : frame.getD 14 0 &&& 0x20 ≠ 0

/-- Its length and three of its bytes make a frame a protected one. -/
theorem isProtected_iff :
    IsProtected frame ↔ ∃ ethernet view, parseProtected frame = .ok (ethernet, view) := by
  have third (ethernet : Ethernet) :
      ethernet.toBytes.getD 14 0 = ethernet.rest.getD 2 0 := by
    rw [← ethernet.drop_toBytes, List.getD_eq_getElem?_getD, List.getD_eq_getElem?_getD,
      List.getElem?_drop]
  constructor
  · rintro ⟨long, isMacsec, carries⟩
    obtain ⟨ethernet, parsed⟩ := Ethernet.exists_parse? frame
      (by rw [addressesLength]; omega)
    obtain rfl := Ethernet.parse?_eq_some.mp parsed
    rw [ethernet.length_toBytes] at long
    rw [ethernet.drop_toBytes] at isMacsec
    rw [third] at carries
    obtain ⟨view, read⟩ := SecTag.exists_parse? ethernet.rest
      (by rw [SecTag.fixedLength]; omega)
    have rest := SecTag.parse?_eq_some.mp read
    rw [rest] at isMacsec carries
    rw [rest, view.length_toBytes] at long
    exact ⟨ethernet, view, parseProtected_eq_ok.mpr ⟨rfl, rest, by omega,
      view.etherType_eq_macsec_iff.mpr isMacsec, view.hasSci_iff.mpr carries⟩⟩
  · rintro ⟨ethernet, view, parsed⟩
    obtain ⟨rfl, rest, long, isMacsec, carries⟩ := parseProtected_eq_ok.mp parsed
    constructor
    · rw [ethernet.length_toBytes, rest, view.length_toBytes]
      omega
    · rw [ethernet.drop_toBytes, rest]
      exact view.etherType_eq_macsec_iff.mp isMacsec
    · rw [third, rest]
      exact view.hasSci_iff.mp carries

/-! ## The channel of a frame -/

theorem normalize_rawChannel (association : MacsecAssociation) (ethernet : Ethernet)
    (secTag sci : Bytes) (pn : UInt32) :
    (rawChannel association ethernet secTag sci pn).normalize =
      { sak := normalize 16 association.sak, sci := normalize 8 sci, pn := .ofNat 4 pn.toNat
        srcMac := ethernet.src, dstMac := ethernet.dst, secTag := normalize 16 secTag } := by
  rw [Macsec.RawChannel.normalize, Macsec.Channel.mk.injEq]
  exact ⟨rfl, rfl, normalize_toList (.ofNat 4 pn.toNat), normalize_toList _, normalize_toList _,
    rfl⟩

/-- The channel that a frame tells to whoever has the key. -/
def frameChannel (key : Octets 16) (ethernet : Ethernet) (view : SecTag) : Macsec.Channel where
  sak := key
  sci := normalize 8 view.sci
  pn := .ofNat 4 view.packetNumber.toNat
  srcMac := ethernet.src
  dstMac := ethernet.dst
  secTag := normalize 16 (ethernet.rest.take SecTag.fullLength)

theorem normalize_rawChannel_frame (association : MacsecAssociation) (ethernet : Ethernet)
    (view : SecTag) :
    (rawChannel association ethernet (ethernet.rest.take SecTag.fullLength) view.sci
      view.packetNumber).normalize =
        frameChannel (normalize 16 association.sak) ethernet view :=
  normalize_rawChannel _ _ _ _ _

theorem length_sci (parsed : parseProtected frame = .ok (ethernet, view)) :
    view.sci.length = 8 := by
  obtain ⟨-, -, long, -, carries⟩ := parseProtected_eq_ok.mp parsed
  rw [SecTag.sci, SecTag.announcedSci_of_hasSci carries, List.length_take]
  omega

theorem sci_of_parsed (parsed : parseProtected frame = .ok (ethernet, view)) :
    view.sci = (frame.drop 20).take 8 := by
  obtain ⟨rfl, rest, -, -, carries⟩ := parseProtected_eq_ok.mp parsed
  rw [view.sci_eq_take carries, ← rest, ← ethernet.drop_toBytes, List.drop_drop]

theorem packetNumber_of_parsed (parsed : parseProtected frame = .ok (ethernet, view)) :
    Bytes.ofNat 4 view.packetNumber.toNat = (frame.drop 16).take 4 := by
  obtain ⟨rfl, rest, -, -, -⟩ := parseProtected_eq_ok.mp parsed
  rw [← view.take_packetNumber, ← rest, ← ethernet.drop_toBytes, List.drop_drop]

variable (key : Octets 16)

/-- The nonce is the SCI and the packet number as the tag has them. -/
theorem nonce_frameChannel (parsed : parseProtected frame = .ok (ethernet, view)) :
    (frameChannel key ethernet view).nonce.toList =
      view.sci ++ Bytes.ofNat 4 view.packetNumber.toNat := by
  show (normalize 8 view.sci).toList ++ _ = _
  rw [toList_normalize_of_length (length_sci parsed)]
  rfl

/-- Addresses and security tag are the front of the frame. -/
theorem associated_frameChannel (parsed : parseProtected frame = .ok (ethernet, view)) :
    (frameChannel key ethernet view).associated.toList = frame.take 28 := by
  obtain ⟨rfl, rest, long, -, -⟩ := parseProtected_eq_ok.mp parsed
  have tagLength : (ethernet.rest.take SecTag.fullLength).length = 16 := by
    rw [List.length_take, rest, view.length_toBytes, SecTag.fullLength]
    omega
  have front : ethernet.toBytes.take (12 + 16) =
      ethernet.toBytes.take 12 ++ (ethernet.toBytes.drop 12).take 16 := List.take_add
  show ethernet.dst.toList ++ ethernet.src.toList ++
    (normalize 16 (ethernet.rest.take SecTag.fullLength)).toList = _
  rw [toList_normalize_of_length tagLength]
  show _ = ethernet.toBytes.take (12 + 16)
  rw [front, ethernet.take_toBytes, ethernet.drop_toBytes]
  rfl

theorem drop_fullLength_of_parsed (parsed : parseProtected frame = .ok (ethernet, view)) :
    ethernet.rest.drop SecTag.fullLength = frame.drop 28 := by
  obtain ⟨rfl, -, -, -, -⟩ := parseProtected_eq_ok.mp parsed
  rw [← ethernet.drop_toBytes, List.drop_drop]
  rfl

end Parsed

/-! ## Validation -/

/-- What is reported of a parsed frame once it is validated. -/
def validated (frame : Bytes) (ethernet : Ethernet) (view : SecTag) :
    Macsec.Validation → MacsecSummary
  | .rejected =>
      { action := .validate, src := ethernet.src, dst := ethernet.dst, sci := view.sci
        pn := view.packetNumber, an := view.associationNumber.toNat, valid := some false
        etherType := none, packet := none }
  | .accepted etherType payload =>
      { action := .validate, src := ethernet.src, dst := ethernet.dst, sci := view.sci
        pn := view.packetNumber, an := view.associationNumber.toNat, valid := some true
        etherType := some etherType
        packet := some (frame.take addressesLength ++ etherType.toList ++ payload) }

section Validate

variable {association other : MacsecAssociation} {frame : Bytes} {ethernet : Ethernet}
  {view : SecTag}

theorem result_macsecValidate_of_error {error : MacsecError}
    (failed : parseProtected frame = .error error) :
    (macsecValidate association frame).result = .error error := by
  rw [macsecValidate, Traced.result_bind, Traced.ofExcept, failed]
  rfl

/-- A parsed frame is validated under the channel it tells; whether the
association expects that channel is only logged. -/
theorem result_macsecValidate (parsed : parseProtected frame = .ok (ethernet, view)) :
    (macsecValidate association frame).result =
      ((Macsec.validate (rawChannel association ethernet
          (ethernet.rest.take SecTag.fullLength) view.sci view.packetNumber)
        (ethernet.rest.drop SecTag.fullLength)).result.mapError .transform).map
          (validated frame ethernet view) := by
  rw [macsecValidate, Traced.result_bind, Traced.ofExcept, parsed]
  simp only [Except.bind, apply_ite Traced.result, Traced.result_say_bind, ite_self]
  rw [Traced.result_bind, Traced.mapError]
  cases (Macsec.validate _ _).result with
  | error cause => rfl
  | ok found =>
      cases found with
      | rejected => rfl
      | accepted etherType payload => rfl

/-- A frame whose data opens under the channel it tells is accepted. -/
theorem result_macsecValidate_of_open? {etherType : Octets 2} {payload : Bytes}
    (parsed : parseProtected frame = .ok (ethernet, view))
    (enough : Macsec.tagLength ≤ (frame.drop 28).length)
    (opened : (frameChannel (normalize 16 association.sak) ethernet view).open? (frame.drop 28)
      enough = some (etherType.toList ++ payload)) :
    (macsecValidate association frame).result =
      .ok (validated frame ethernet view (.accepted etherType payload)) := by
  rw [← normalize_rawChannel_frame] at opened
  rw [result_macsecValidate parsed, drop_fullLength_of_parsed parsed,
    Macsec.result_validate_of_open? enough opened]
  rfl

/-- Associations with the same key validate every frame alike. -/
theorem result_macsecValidate_congr
    (sameKey : normalize 16 association.sak = normalize 16 other.sak) (frame : Bytes) :
    (macsecValidate association frame).result = (macsecValidate other frame).result := by
  cases parsed : parseProtected frame with
  | error error =>
      rw [result_macsecValidate_of_error parsed, result_macsecValidate_of_error parsed]
  | ok parts =>
      obtain ⟨ethernet, view⟩ := parts
      have same : (rawChannel association ethernet (ethernet.rest.take SecTag.fullLength) view.sci
          view.packetNumber).normalize =
            (rawChannel other ethernet (ethernet.rest.take SecTag.fullLength) view.sci
              view.packetNumber).normalize := by
        rw [normalize_rawChannel_frame, normalize_rawChannel_frame, sameKey]
      rw [result_macsecValidate parsed, result_macsecValidate parsed,
        Macsec.result_validate_congr same]

end Validate

end PacketProtection.Command
