import PacketProtection.Association.Document
import PacketProtection.Proofs.Command.SelfDescription

/-!
# The IPv4 header handed over apart

A frame can be protected in one piece, or with its IPv4 header handed over apart
from the rest of the payload.  On the wire there is no difference: the transform
puts the header back where it was (`macsecProtect_same`).

*Refusals.*  The difference lies in which frames are refused.  Some are refused
either way: those without an EtherType, those that are protected already, and all
frames if the association has a security tag that is not a full one (`Refused`).
A frame with nothing to hand over is refused besides when a header is asked for
(`exists_error_of_noHeader`).

*Everything else goes through* (`exists_ok_of_not_refused`).  Building a security
tag fails for an association number of more than two bits only, and no such number
gets past loading (`Association.an_le_of_load`).  Sealing fails only beyond the
limit of the cipher mode.
-/

namespace PacketProtection

open View (SecTag)

/-! ## Loaded associations -/

namespace Association

/-- A loaded association number has two bits. -/
theorem an_le_of_load {text : String} {config : Config} {macsec : MacsecAssociation}
    (loaded : (load text).result = .ok config) (defined : config.macsec = some macsec) :
    macsec.an ≤ 3 := by
  unfold load at loaded
  split at loaded
  · cases loaded
  next found parsed =>
    split at loaded
    · cases loaded
    · split at loaded
      · cases loaded
      next fits =>
        cases loaded
        rw [defined, Option.any_some, decide_eq_true_iff] at fits
        exact UInt8.not_lt.mp fits

end Association

namespace Command

/-! ## Full security tags -/

/-- A configured security tag can be put into a frame. -/
structure IsFullTag (secTag : Bytes) : Prop where
  length_eq : secTag.length = 16
  isMacsec : secTag.take 2 = [0x88, 0xe5]
  carriesSci : secTag.getD 2 0 &&& 0x20 ≠ 0

theorem TagChannel.exists_ofSecTag?_iff {secTag : Bytes} :
    (∃ channel, ofSecTag? secTag = some channel) ↔ IsFullTag secTag := by
  constructor
  · rintro ⟨channel, found⟩
    obtain ⟨view, parses, found⟩ := Option.bind_eq_some_iff.mp found
    obtain ⟨⟨length_eq, isMacsec, carriesSci⟩, -⟩ := Option.ite_none_right_eq_some.mp found
    obtain rfl := SecTag.parse?_eq_some.mp parses
    exact ⟨length_eq, view.etherType_eq_macsec_iff.mp isMacsec, view.hasSci_iff.mp carriesSci⟩
  · rintro ⟨length_eq, isMacsec, carriesSci⟩
    obtain ⟨view, parses⟩ := SecTag.exists_parse? secTag
      (by rw [length_eq, SecTag.fixedLength]; omega)
    obtain rfl := SecTag.parse?_eq_some.mp parses
    have accepted : view.toBytes.length = SecTag.fullLength ∧
        view.etherType = View.EtherType.macsec ∧ view.hasSci :=
      ⟨length_eq, view.etherType_eq_macsec_iff.mpr isMacsec, view.hasSci_iff.mpr carriesSci⟩
    rw [ofSecTag?, parses]
    exact ⟨_, if_pos accepted⟩

/-- A channel is found unless the association has a tag that is not full. -/
theorem TagChannel.exists_choose {association : MacsecAssociation} (fits : association.an ≤ 3)
    (full : ∀ secTag, association.secTag = some secTag → IsFullTag secTag) (src : MacAddress)
    (length : Nat) : ∃ channel, (choose association src length).result = .ok channel := by
  cases configured : association.secTag with
  | none =>
      have narrow : ¬3 < (builder association src length).associationNumber :=
        UInt8.not_lt.mpr fits
      rw [result_choose_built configured, Macsec.SecTagBuilder.build, if_neg narrow]
      exact ⟨_, rfl⟩
  | some secTag =>
      obtain ⟨channel, found⟩ := exists_ofSecTag?_iff.mpr (full secTag configured)
      rw [result_choose_configured configured, found]
      exact ⟨channel, rfl⟩

/-! ## The EtherType of a frame -/

section Frame

variable {association : MacsecAssociation} {frame : Bytes} {ethernet : Ethernet}
  {etherType : Octets 2} {payload : Bytes}

theorem Ethernet.exists_typed? (enough : 14 ≤ frame.length) :
    ∃ ethernet etherType payload, typed? frame = some (ethernet, etherType, payload) := by
  obtain ⟨ethernet, parsed⟩ := exists_parse? frame (by rw [addressesLength]; omega)
  obtain rfl := parse?_eq_some.mp parsed
  have room : 2 ≤ ethernet.rest.length := by
    rw [length_toBytes] at enough
    omega
  exact ⟨ethernet, .first 2 ethernet.rest room, ethernet.rest.drop 2,
    typed?_eq_some.mpr ⟨rfl, (List.take_append_drop 2 _).symm⟩⟩

theorem Ethernet.length_of_typed? (typed : typed? frame = some (ethernet, etherType, payload)) :
    frame.length = 14 + payload.length := by
  obtain ⟨rfl, rest⟩ := typed?_eq_some.mp typed
  rw [length_toBytes, rest, List.length_append, etherType.length_toList]
  omega

/-- The EtherType stands behind the addresses. -/
theorem Ethernet.take_etherType (typed : typed? frame = some (ethernet, etherType, payload)) :
    (frame.drop 12).take 2 = etherType.toList := by
  obtain ⟨rfl, rest⟩ := typed?_eq_some.mp typed
  rw [ethernet.drop_toBytes, rest, List.take_left' etherType.length_toList]

theorem isMacsec_iff (typed : Ethernet.typed? frame = some (ethernet, etherType, payload)) :
    etherType.toNat = View.EtherType.macsec.toNat ↔ (frame.drop 12).take 2 = [0x88, 0xe5] := by
  rw [Ethernet.take_etherType typed]
  exact (Octets.toNat_eq_iff etherType ⟨[0x88, 0xe5], rfl⟩).trans Octets.ext_iff

/-- A header can be handed over from an IPv4 frame that has room for one. -/
theorem exists_handOver_iff (typed : Ethernet.typed? frame = some (ethernet, etherType, payload)) :
    (∃ parts, handOver true etherType payload = .ok parts) ↔
      (frame.drop 12).take 2 = [8, 0] ∧ 34 ≤ frame.length := by
  have isIpv4 : etherType.toNat = View.EtherType.ipv4.toNat ↔ etherType.toList = [8, 0] :=
    (Octets.toNat_eq_iff etherType ⟨[8, 0], rfl⟩).trans Octets.ext_iff
  have room : 34 ≤ 14 + payload.length ↔ ¬payload.length < Macsec.ipv4HeaderLength := by
    rw [Macsec.ipv4HeaderLength]
    omega
  rw [Ethernet.take_etherType typed, Ethernet.length_of_typed? typed, ← isIpv4, room, handOver,
    if_pos rfl]
  split
  next missing => exact iff_of_false (by simp) fun found => missing.elim (· found.1) found.2
  next found => exact iff_of_true ⟨_, rfl⟩ (by simpa using found)

/-! ## Refused frames -/

/-- A frame that is not protected, whether or not a header is handed over. -/
inductive Refused (association : MacsecAssociation) (frame : Bytes) : Prop
  | short : frame.length < 14 → Refused association frame
  | alreadyProtected : (frame.drop 12).take 2 = [0x88, 0xe5] → Refused association frame
  | badSecTag {secTag : Bytes} : association.secTag = some secTag → ¬IsFullTag secTag →
      Refused association frame

/-- Without a configured tag only length and EtherType decide. -/
theorem not_refused_of_unset (unset : association.secTag = none) (enough : 14 ≤ frame.length)
    (bare : (frame.drop 12).take 2 ≠ [0x88, 0xe5]) : ¬Refused association frame := by
  intro refused
  cases refused with
  | short short => exact absurd enough (Nat.not_le.mpr short)
  | alreadyProtected alreadyProtected => exact bare alreadyProtected
  | badSecTag configured _ => cases unset.symm.trans configured

theorem exists_error_of_refused (refused : Refused association frame) (includeIpv4 : Bool) :
    ∃ error, (macsecProtect association frame includeIpv4).result = .error error := by
  cases result : (macsecProtect association frame includeIpv4).result with
  | error error => exact ⟨error, rfl⟩
  | ok summary =>
      obtain ⟨ethernet, etherType, payload, channel, _, typed, chosen, -, -⟩ :=
        protectedAs_of_macsecProtect result
      cases refused with
      | short short =>
          have long := Ethernet.length_of_typed? typed
          omega
      | alreadyProtected alreadyProtected =>
          rw [result_macsecProtect_of_macsec typed ((isMacsec_iff typed).mpr alreadyProtected)]
            at result
          cases result
      | badSecTag configured notFull =>
          rw [TagChannel.result_choose_configured configured] at chosen
          split at chosen
          · cases chosen
          next found => exact absurd (TagChannel.exists_ofSecTag?_iff.mp ⟨_, found⟩) notFull

/-- There has to be a header to hand over. -/
theorem exists_error_of_noHeader
    (noHeader : (frame.drop 12).take 2 ≠ [8, 0] ∨ frame.length < 34) :
    ∃ error, (macsecProtect association frame true).result = .error error := by
  cases typed : Ethernet.typed? frame with
  | none => exact ⟨_, result_macsecProtect_of_untyped typed⟩
  | some parts =>
      obtain ⟨ethernet, etherType, payload⟩ := parts
      by_cases isMacsec : etherType.toNat = View.EtherType.macsec.toNat
      · exact ⟨_, result_macsecProtect_of_macsec typed isMacsec⟩
      · rw [result_macsecProtect typed isMacsec]
        cases handed : handOver true etherType payload with
        | error cause => exact ⟨cause, rfl⟩
        | ok split =>
            obtain ⟨isIpv4, room⟩ := (exists_handOver_iff typed).mp ⟨split, handed⟩
            exact absurd isIpv4 (noHeader.resolve_right (Nat.not_lt.mpr room))

theorem exists_sealWhole (fits : association.an ≤ 3)
    (full : ∀ secTag, association.secTag = some secTag → IsFullTag secTag)
    (limit : ethernet.rest.length ≤ Gcm.maxPlaintext) :
    ∃ summary, sealWhole association frame ethernet etherType = .ok summary := by
  obtain ⟨channel, chosen⟩ :=
    TagChannel.exists_choose fits full ethernet.src ethernet.rest.length
  obtain ⟨sealed, sealing, -⟩ := Macsec.Channel.seal?_of_le
    (rawChannel association ethernet channel.secTag channel.sci channel.pn).normalize limit
  exact ⟨_, sealWhole_eq_ok.mpr ⟨channel, sealed, chosen, sealing, rfl⟩⟩

/-- A frame that is not refused goes through, unless a header is missing. -/
theorem exists_ok_of_not_refused (includeIpv4 : Bool) (fits : association.an ≤ 3)
    (limit : frame.length ≤ 2 ^ 36 + 12) (accepted : ¬Refused association frame)
    (header : includeIpv4 = true → (frame.drop 12).take 2 = [8, 0] ∧ 34 ≤ frame.length) :
    ∃ summary, (macsecProtect association frame includeIpv4).result = .ok summary := by
  have enough : 14 ≤ frame.length := Nat.le_of_not_lt fun short => accepted (.short short)
  have full (secTag : Bytes) (configured : association.secTag = some secTag) :
      IsFullTag secTag := by
    by_contra notFull
    exact accepted (.badSecTag configured notFull)
  obtain ⟨ethernet, etherType, payload, typed⟩ := Ethernet.exists_typed? enough
  have bare : etherType.toNat ≠ View.EtherType.macsec.toNat := fun isMacsec =>
    accepted (.alreadyProtected ((isMacsec_iff typed).mp isMacsec))
  have split : ∃ parts, handOver includeIpv4 etherType payload = .ok parts := by
    cases includeIpv4 with
    | false => exact ⟨_, rfl⟩
    | true => exact (exists_handOver_iff typed).mpr (header rfl)
  obtain ⟨parts, handed⟩ := split
  have within : ethernet.rest.length ≤ Gcm.maxPlaintext := by
    obtain ⟨rfl, -⟩ := Ethernet.typed?_eq_some.mp typed
    rw [ethernet.length_toBytes, Nat.add_comm] at limit
    exact Nat.le_of_add_le_add_right limit
  rw [result_macsecProtect typed bare, handed]
  exact exists_sealWhole fits full within

end Frame

/-! ## One frame on the wire -/

/-- Where both ways succeed they report the same, the frame included. -/
theorem macsecProtect_same {association : MacsecAssociation} {frame : Bytes}
    {plain apart : MacsecSummary}
    (inOnePiece : (macsecProtect association frame false).result = .ok plain)
    (handedOver : (macsecProtect association frame true).result = .ok apart) : plain = apart := by
  obtain ⟨ethernet, etherType, _, channel, sealed, typed, chosen, sealing, rfl⟩ :=
    protectedAs_of_macsecProtect inOnePiece
  obtain ⟨_, _, _, _, _, typedAgain, chosenAgain, sealingAgain, rfl⟩ :=
    protectedAs_of_macsecProtect handedOver
  cases typed.symm.trans typedAgain
  cases chosen.symm.trans chosenAgain
  cases sealing.symm.trans sealingAgain
  rfl

/-- **Handing the IPv4 header over apart changes nothing on the wire.**  Under an
association number of two bits, as every loaded one is, a frame within the limit of
the cipher mode fails only if it is refused, or if a header is asked for that is not
there. -/
theorem macsecProtect_handOver :
    (∀ (text : String) (config : Association.Config) (macsec : MacsecAssociation),
      (Association.load text).result = .ok config → config.macsec = some macsec →
        macsec.an ≤ 3) ∧
    ∀ (association : MacsecAssociation) (frame : Bytes), association.an ≤ 3 →
      frame.length ≤ 2 ^ 36 + 12 →
      ((∃ error, (macsecProtect association frame false).result = .error error) ↔
        Refused association frame) ∧
      ((∃ error, (macsecProtect association frame true).result = .error error) ↔
        Refused association frame ∨ (frame.drop 12).take 2 ≠ [8, 0] ∨ frame.length < 34) ∧
      (∀ plain apart, (macsecProtect association frame false).result = .ok plain →
        (macsecProtect association frame true).result = .ok apart → plain = apart) := by
  refine ⟨fun _ _ _ => Association.an_le_of_load, fun association frame fits limit =>
    ⟨⟨?_, fun refused => exists_error_of_refused refused false⟩, ⟨?_, ?_⟩,
      fun _ _ => macsecProtect_same⟩⟩
  · rintro ⟨error, failed⟩
    by_contra accepted
    obtain ⟨summary, succeeded⟩ := exists_ok_of_not_refused false fits limit
      accepted (fun asked => by cases asked)
    cases failed.symm.trans succeeded
  · rintro ⟨error, failed⟩
    by_contra accepted
    simp only [not_or, not_not, Nat.not_lt] at accepted
    obtain ⟨summary, succeeded⟩ := exists_ok_of_not_refused true fits limit accepted.1
      (fun _ => accepted.2)
    cases failed.symm.trans succeeded
  · rintro (refused | noHeader)
    · exact exists_error_of_refused refused true
    · exact exists_error_of_noHeader noHeader

/-- A loaded association, a frame with room for its IPv4 header to the byte, and
the same frame with a byte less. -/
theorem macsecProtect_handOver_header_alone :
    ∃ (text : String) (config : Association.Config) (association : MacsecAssociation)
        (frame : Bytes) (summary : MacsecSummary),
      text = "version: 1.0\nmacsec:\n  sak: 5a\n  an: 3\n" ∧
      (Association.load text).result = .ok config ∧ config.macsec = some association ∧
      association.an ≤ 3 ∧
      frame = List.replicate 12 7 ++ [8, 0, 0x45] ++ List.replicate 19 6 ∧
      frame.length ≤ 2 ^ 36 + 12 ∧ ¬Refused association frame ∧
      (macsecProtect association frame false).result = .ok summary ∧
      (macsecProtect association frame true).result = .ok summary ∧
      (frame.take 33).length ≤ 2 ^ 36 + 12 ∧ ¬Refused association (frame.take 33) ∧
      (∃ error, (macsecProtect association (frame.take 33) true).result = .error error) ∧
      ¬∃ error, (macsecProtect association (frame.take 33) false).result = .error error := by
  let text : String := "version: 1.0\nmacsec:\n  sak: 5a\n  an: 3\n"
  let association : MacsecAssociation :=
    { sak := [0x5a], sci := none, systemMac := none, channelNumber := 1, pn := 1, an := 3
      secTag := none }
  let frame : Bytes := List.replicate 12 7 ++ [8, 0, 0x45] ++ List.replicate 19 6
  have loaded : (Association.load text).result =
      .ok { version := "1.0", esp := none, macsec := some association } := by
    decide +kernel
  have accepted : ¬Refused association frame :=
    not_refused_of_unset rfl (by decide) (by decide)
  have cutAccepted : ¬Refused association (frame.take 33) :=
    not_refused_of_unset rfl (by decide) (by decide)
  obtain ⟨fits, sealing⟩ := macsecProtect_handOver
  have narrow : association.an ≤ 3 := fits text _ association loaded rfl
  have limit : frame.length ≤ 2 ^ 36 + 12 := by decide
  have cutLimit : (frame.take 33).length ≤ 2 ^ 36 + 12 := by decide
  obtain ⟨onePiece, handedOver, same⟩ := sealing association frame narrow limit
  obtain ⟨cutOnePiece, cutHandedOver, -⟩ := sealing association (frame.take 33) narrow cutLimit
  have header : ¬(Refused association frame ∨ (frame.drop 12).take 2 ≠ [8, 0] ∨
      frame.length < 34) := by
    rintro (refused | missing)
    · exact accepted refused
    · revert missing
      decide
  cases plain : (macsecProtect association frame false).result with
  | error error => exact absurd (onePiece.mp ⟨error, plain⟩) accepted
  | ok summary =>
      cases apart : (macsecProtect association frame true).result with
      | error error => exact absurd (handedOver.mp ⟨error, apart⟩) header
      | ok other =>
          obtain rfl := same summary other plain apart
          exact ⟨text, _, association, frame, summary, rfl, loaded, rfl, narrow, rfl, limit,
            accepted, plain, apart, cutLimit, cutAccepted,
            cutHandedOver.mpr (.inr (.inr (by decide))), fun failed =>
              cutAccepted (cutOnePiece.mp failed)⟩

end Command

end PacketProtection
