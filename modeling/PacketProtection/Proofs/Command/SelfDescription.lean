import PacketProtection.Proofs.Command.Frames
import PacketProtection.Proofs.Macsec.Image
import PacketProtection.Proofs.Macsec.TagBuilder

/-!
# Frames that describe themselves

The receiver of a MACsec frame knows the key and the frame, and nothing of the
association that the sender used.  So everything else that went into the tag has
to stand in the frame.

*Security tags.*  The sender has its tag from a configured one, or builds it from
its settings.  Either way the tag is *complete*: its SCI and packet number are
the ones that the sender's nonce is made of (`TagChannel.Complete`,
`TagChannel.complete_of_choose`).  So the channel that the sender hands to the
transform is the one its frame tells (`frameChannel_of_complete`).

*Frames.*  A successful protection is undone piece by piece in
`macsecProtect_eq_ok`.  The frame that comes out describes itself
(`macsecProtect_describes`), and whoever has the key gets the original back from
it (`macsecValidate_macsecProtect`).
-/

namespace PacketProtection

open View (SecTag)

/-! ## Control bits that are never set -/

namespace View.Tci

/-- Version of the format, zero for the first. -/
def v : BitVec 6 := 0b100000#6

/-- The sender is an end station, and its SCI follows from its address. -/
def es : BitVec 6 := 0b010000#6

/-- The channel is a single copy broadcast. -/
def scb : BitVec 6 := 0b000100#6

end View.Tci

namespace Command

/-! ## Complete tags -/

namespace TagChannel

/-- The security tag of a channel tells the rest of the channel. -/
structure Complete (channel : TagChannel) (view : SecTag) : Prop where
  parses : SecTag.parse? channel.secTag = some view
  length_eq : channel.secTag.length = 16
  isMacsec : view.etherType = View.EtherType.macsec
  carriesSci : view.hasSci = true
  sci_eq : (normalize 8 channel.sci).toList = view.sci
  pn_eq : channel.pn = view.packetNumber

theorem Complete.length_rest {channel : TagChannel} {view : SecTag}
    (complete : channel.Complete view) : view.rest.length = 8 := by
  have total := congrArg List.length (SecTag.parse?_eq_some.mp complete.parses)
  rw [complete.length_eq, view.length_toBytes] at total
  omega

/-- The builder of the tag for a frame from a source address, when none is
configured. -/
def builder (association : MacsecAssociation) (src : MacAddress) (length : Nat) :
    Macsec.SecTagBuilder where
  sci := normalize 8 (association.sciFor src)
  packetNumber := association.pn
  associationNumber := association.an
  secureDataLength := some length

variable {association : MacsecAssociation} {src : MacAddress} {length : Nat}
  {channel : TagChannel}

theorem result_choose_configured {secTag : Bytes} (configured : association.secTag = some secTag) :
    (choose association src length).result =
      match ofSecTag? secTag with
      | none => .error .badSecTag
      | some channel => .ok channel := by
  rw [choose, configured]
  simp only
  cases ofSecTag? secTag with
  | none => rfl
  | some channel =>
      simp only [apply_ite Traced.result, Traced.result_say_bind, ite_self]
      rfl

theorem result_choose_built (unset : association.secTag = none) :
    (choose association src length).result =
      match (builder association src length).build with
      | .error cause => .error (.transform cause)
      | .ok secTag =>
          .ok ⟨secTag.toList, association.sciFor src, association.pn, association.an.toNat⟩ := by
  rw [choose, unset]
  show Traced.result (match (builder association src length).build with
    | .error cause => _
    | .ok secTag => _) = _
  cases (builder association src length).build <;> rfl

theorem complete_of_ofSecTag? {secTag : Bytes} (found : ofSecTag? secTag = some channel) :
    ∃ view, channel.Complete view := by
  obtain ⟨view, parses, found⟩ := Option.bind_eq_some_iff.mp found
  split at found
  next accepted =>
    obtain ⟨length_eq, isMacsec, carriesSci⟩ := accepted
    cases found
    have long : view.rest.length = 8 := by
      have total := congrArg List.length (SecTag.parse?_eq_some.mp parses)
      rw [view.length_toBytes, length_eq, SecTag.fullLength] at total
      omega
    have whole : view.sci.length = 8 := by
      rw [SecTag.sci, SecTag.announcedSci_of_hasSci carriesSci, List.length_take, long]
      rfl
    exact ⟨view, parses, length_eq, isMacsec, carriesSci, toList_normalize_of_length whole, rfl⟩
  · cases found

/-- Without a configured tag everything is the association's. -/
theorem choose_eq_built (unset : association.secTag = none)
    (chosen : (choose association src length).result = .ok channel) :
    association.an ≤ 3 ∧
      channel = ⟨(builder association src length).view.toBytes, association.sciFor src,
        association.pn, association.an.toNat⟩ := by
  rw [result_choose_built unset] at chosen
  cases built : (builder association src length).build with
  | error cause =>
      rw [built] at chosen
      cases chosen
  | ok secTag =>
      rw [built] at chosen
      cases chosen
      obtain ⟨fits, bytes⟩ := Macsec.SecTagBuilder.build_eq_ok.mp built
      rw [bytes]
      exact ⟨fits, rfl⟩

/-- What is chosen without a configured tag, and the tag that goes with it. -/
theorem choose_built (unset : association.secTag = none)
    (chosen : (choose association src length).result = .ok channel) :
    (builder association src length).associationNumber ≤ 3 ∧
      channel.secTag = (builder association src length).view.toBytes ∧
      channel.sci = association.sciFor src ∧ channel.pn = association.pn := by
  obtain ⟨fits, rfl⟩ := choose_eq_built unset chosen
  exact ⟨fits, rfl, rfl, rfl⟩

theorem complete_of_built (unset : association.secTag = none)
    (chosen : (choose association src length).result = .ok channel) :
    channel.Complete (builder association src length).view := by
  obtain ⟨-, secTag, sci, pn⟩ := choose_built unset chosen
  have tail : (builder association src length).view.rest.length = 8 := Octets.length_toList _
  constructor
  · rw [secTag, SecTag.parse?_toBytes]
  · rw [secTag, SecTag.length_toBytes, tail]
  · rfl
  · exact Macsec.SecTagBuilder.hasSci_view _
  · rw [sci, Macsec.SecTagBuilder.sci_view]
    rfl
  · exact pn

/-- Wherever the channel comes from, its tag is complete. -/
theorem complete_of_choose (chosen : (choose association src length).result = .ok channel) :
    ∃ view, channel.Complete view := by
  cases configured : association.secTag with
  | none => exact ⟨_, complete_of_built configured chosen⟩
  | some secTag =>
      rw [result_choose_configured configured] at chosen
      cases found : ofSecTag? secTag with
      | none =>
          rw [found] at chosen
          cases chosen
      | some other =>
          rw [found] at chosen
          cases chosen
          exact complete_of_ofSecTag? found

end TagChannel

/-! ## Protection undone piece by piece -/

/-- What is handed over to the transform is what stood in the payload. -/
theorem userBody_handOver {includeIpv4 : Bool} {etherType : Octets 2}
    {payload header body : Bytes} {flag : String}
    (handed : handOver includeIpv4 etherType payload = .ok (flag, header, body)) :
    Macsec.userBody flag header body = payload := by
  unfold handOver at handed
  split at handed
  · split at handed
    · cases handed
    next room =>
      cases handed
      have enough := Nat.le_of_not_lt (not_or.mp room).2
      have whole : (payload.take Macsec.ipv4HeaderLength).length = Macsec.ipv4HeaderLength := by
        rw [List.length_take]
        omega
      rw [Macsec.userBody, if_pos rfl, toList_normalize_of_length whole, List.take_append_drop]
  · cases handed
    rfl

/-- What is reported of a frame once its data is sealed under a channel. -/
def protectedAs (frame : Bytes) (ethernet : Ethernet) (etherType : Octets 2)
    (channel : TagChannel) (sealed : Bytes) : MacsecSummary where
  action := .protect
  src := ethernet.src
  dst := ethernet.dst
  sci := channel.sci
  pn := channel.pn
  an := channel.an
  etherType := some etherType
  packet := some (frame.take addressesLength ++ channel.secTag ++ sealed)

/-- Protection of everything after the addresses of a frame, in one piece. -/
def sealWhole (association : MacsecAssociation) (frame : Bytes) (ethernet : Ethernet)
    (etherType : Octets 2) : Except MacsecError MacsecSummary :=
  (TagChannel.choose association ethernet.src ethernet.rest.length).result.bind fun channel =>
    match (rawChannel association ethernet channel.secTag channel.sci channel.pn).normalize.seal?
        ethernet.rest with
    | none => .error (.transform (.crypto "GCM-AES-128 encryption"))
    | some sealed => .ok (protectedAs frame ethernet etherType channel sealed)

section Protect

variable {association : MacsecAssociation} {frame : Bytes} {includeIpv4 : Bool}
  {ethernet : Ethernet} {etherType : Octets 2} {payload : Bytes} {summary : MacsecSummary}

theorem result_macsecProtect_of_untyped (untyped : Ethernet.typed? frame = none) :
    (macsecProtect association frame includeIpv4).result =
      .error (.noEthernetHeader frame.length) := by
  rw [macsecProtect, untyped]
  rfl

theorem result_macsecProtect_of_macsec
    (typed : Ethernet.typed? frame = some (ethernet, etherType, payload))
    (isMacsec : etherType.toNat = View.EtherType.macsec.toNat) :
    (macsecProtect association frame includeIpv4).result = .error .alreadyProtected := by
  rw [macsecProtect, typed]
  simp only [if_pos isMacsec]
  rfl

/-- What is handed over apart is put back in its place, so it only has a say in
whether the frame is protected. -/
theorem result_macsecProtect
    (typed : Ethernet.typed? frame = some (ethernet, etherType, payload))
    (bare : etherType.toNat ≠ View.EtherType.macsec.toNat) :
    (macsecProtect association frame includeIpv4).result =
      (handOver includeIpv4 etherType payload).bind fun _ =>
        sealWhole association frame ethernet etherType := by
  obtain ⟨-, rest⟩ := Ethernet.typed?_eq_some.mp typed
  have kind : normalize Macsec.etherTypeLength etherType.toList = etherType :=
    normalize_toList etherType
  rw [macsecProtect, typed]
  simp only [if_neg bare]
  rw [Traced.result_bind, Traced.ofExcept]
  cases handed : handOver includeIpv4 etherType payload with
  | error cause => rfl
  | ok split =>
      obtain ⟨flag, header, body⟩ := split
      simp only [Except.bind]
      rw [Traced.result_bind, sealWhole]
      cases (TagChannel.choose association ethernet.src ethernet.rest.length).result with
      | error cause => rfl
      | ok channel =>
          simp only [Except.bind]
          rw [Traced.result_bind, Traced.mapError, Macsec.result_protect, kind,
            userBody_handOver handed, ← rest]
          cases (rawChannel association ethernet channel.secTag channel.sci
            channel.pn).normalize.seal? ethernet.rest <;> rfl

theorem sealWhole_eq_ok :
    sealWhole association frame ethernet etherType = .ok summary ↔
      ∃ (channel : TagChannel) (sealed : Bytes),
        (TagChannel.choose association ethernet.src ethernet.rest.length).result = .ok channel ∧
        (rawChannel association ethernet channel.secTag channel.sci channel.pn).normalize.seal?
          ethernet.rest = some sealed ∧
        summary = protectedAs frame ethernet etherType channel sealed := by
  rw [sealWhole]
  cases (TagChannel.choose association ethernet.src ethernet.rest.length).result with
  | error cause => simp [Except.bind]
  | ok channel =>
      simp only [Except.bind, Except.ok.injEq]
      constructor
      · intro succeeds
        split at succeeds
        · cases succeeds
        next sealed sealing =>
          cases succeeds
          exact ⟨channel, sealed, rfl, sealing, rfl⟩
      · rintro ⟨_, sealed, rfl, sealing, rfl⟩
        rw [sealing]

/-- A successful protection chose a channel and sealed everything after the
addresses under it. -/
theorem protectedAs_of_macsecProtect
    (succeeds : (macsecProtect association frame includeIpv4).result = .ok summary) :
    ∃ (ethernet : Ethernet) (etherType : Octets 2) (payload : Bytes) (channel : TagChannel)
        (sealed : Bytes),
      Ethernet.typed? frame = some (ethernet, etherType, payload) ∧
      (TagChannel.choose association ethernet.src ethernet.rest.length).result = .ok channel ∧
      (rawChannel association ethernet channel.secTag channel.sci channel.pn).normalize.seal?
        ethernet.rest = some sealed ∧
      summary = protectedAs frame ethernet etherType channel sealed := by
  cases typed : Ethernet.typed? frame with
  | none =>
      rw [result_macsecProtect_of_untyped typed] at succeeds
      cases succeeds
  | some parts =>
      obtain ⟨ethernet, etherType, payload⟩ := parts
      by_cases isMacsec : etherType.toNat = View.EtherType.macsec.toNat
      · rw [result_macsecProtect_of_macsec typed isMacsec] at succeeds
        cases succeeds
      · rw [result_macsecProtect typed isMacsec] at succeeds
        cases handed : handOver includeIpv4 etherType payload with
        | error cause =>
            rw [handed] at succeeds
            cases succeeds
        | ok split =>
            rw [handed] at succeeds
            obtain ⟨channel, sealed, chosen, sealing, same⟩ := sealWhole_eq_ok.mp succeeds
            exact ⟨ethernet, etherType, payload, channel, sealed, rfl, chosen, sealing, same⟩

end Protect

/-- What a successful protection did, with the frame taken apart. -/
theorem macsecProtect_eq_ok {association : MacsecAssociation} {frame : Bytes}
    {includeIpv4 : Bool} {summary : MacsecSummary}
    (succeeds : (macsecProtect association frame includeIpv4).result = .ok summary) :
    ∃ (ethernet : Ethernet) (etherType : Octets 2) (payload : Bytes) (channel : TagChannel)
        (sealed : Bytes),
      frame = ethernet.toBytes ∧ ethernet.rest = etherType.toList ++ payload ∧
      (TagChannel.choose association ethernet.src ethernet.rest.length).result = .ok channel ∧
      (rawChannel association ethernet channel.secTag channel.sci channel.pn).normalize.seal?
        ethernet.rest = some sealed ∧
      summary.etherType = some etherType ∧
      summary.packet = some (frame.take 12 ++ channel.secTag ++ sealed) := by
  obtain ⟨ethernet, etherType, payload, channel, sealed, typed, chosen, sealing, rfl⟩ :=
    protectedAs_of_macsecProtect succeeds
  obtain ⟨whole, rest⟩ := Ethernet.typed?_eq_some.mp typed
  exact ⟨ethernet, etherType, payload, channel, sealed, whole, rest, chosen, sealing, rfl, rfl⟩

/-! ## The frame on the wire -/

section Wire

variable {channel : TagChannel} {view : SecTag}

theorem length_front (complete : channel.Complete view) (ethernet : Ethernet) :
    (ethernet.dst.toList ++ ethernet.src.toList ++ channel.secTag).length = 28 := by
  rw [List.length_append, ethernet.length_addresses, complete.length_eq]

/-- Addresses, complete security tag and sealed data make a protected frame. -/
theorem parseProtected_of_complete (complete : channel.Complete view) (ethernet : Ethernet)
    (sealed : Bytes) :
    parseProtected (ethernet.dst.toList ++ ethernet.src.toList ++ channel.secTag ++ sealed) =
      .ok ({ ethernet with rest := channel.secTag ++ sealed },
        { view with rest := view.rest ++ sealed }) := by
  refine parseProtected_eq_ok.mpr ⟨List.append_assoc _ _ _, ?_, ?_, complete.isMacsec,
    complete.carriesSci⟩
  · show channel.secTag ++ sealed = _
    rw [SecTag.parse?_eq_some.mp complete.parses]
    exact List.append_assoc _ _ _
  · show 8 ≤ (view.rest ++ sealed).length
    rw [List.length_append, complete.length_rest]
    exact Nat.le_add_right _ _

/-- The SCI stands whole before the sealed data. -/
theorem sci_of_complete (complete : channel.Complete view) (sealed : Bytes) :
    ({ view with rest := view.rest ++ sealed } : SecTag).sci = view.sci := by
  have whole : view.announcedSci = view.rest.length := by
    rw [SecTag.announcedSci_of_hasSci complete.carriesSci, complete.length_rest]
  exact SecTag.sci_append (Nat.le_of_eq whole) sealed

/-- The channel that was handed over is the one that the frame tells. -/
theorem frameChannel_of_complete (complete : channel.Complete view)
    (association : MacsecAssociation) (ethernet : Ethernet) (sealed : Bytes) :
    (rawChannel association ethernet channel.secTag channel.sci channel.pn).normalize =
      frameChannel (normalize 16 association.sak)
        { ethernet with rest := channel.secTag ++ sealed }
        { view with rest := view.rest ++ sealed } := by
  have sci : normalize 8 channel.sci = normalize 8 view.sci := by
    rw [← complete.sci_eq, normalize_toList]
  have secTag : (channel.secTag ++ sealed).take SecTag.fullLength = channel.secTag :=
    List.take_left' complete.length_eq
  rw [normalize_rawChannel, frameChannel, sci_of_complete complete, secTag, sci, complete.pn_eq]

end Wire

/-- A protected frame tells the channel under which what followed its addresses
was sealed. -/
theorem sealed_of_macsecProtect {association : MacsecAssociation} {frame : Bytes}
    {includeIpv4 : Bool} {summary : MacsecSummary}
    (succeeds : (macsecProtect association frame includeIpv4).result = .ok summary) :
    ∃ (out : Bytes) (ethernet : Ethernet) (view : SecTag) (etherType : Octets 2) (payload : Bytes),
      summary.packet = some out ∧ summary.etherType = some etherType ∧
      parseProtected out = .ok (ethernet, view) ∧
      frame = out.take 12 ++ (etherType.toList ++ payload) ∧
      (frameChannel (normalize 16 association.sak) ethernet view).seal?
        (etherType.toList ++ payload) = some (out.drop 28) := by
  obtain ⟨ethernet, etherType, payload, channel, sealed, rfl, rest, chosen, sealing, etherTypeSet,
    packet⟩ := macsecProtect_eq_ok succeeds
  obtain ⟨view, complete⟩ := TagChannel.complete_of_choose chosen
  rw [ethernet.take_toBytes] at packet
  have parsed := parseProtected_of_complete complete ethernet sealed
  have front := length_front complete ethernet
  refine ⟨_, _, _, etherType, payload, packet, etherTypeSet, parsed, ?_, ?_⟩
  · rw [List.append_assoc _ channel.secTag, List.take_left' ethernet.length_addresses, ← rest]
    rfl
  · rw [frameChannel_of_complete complete, rest] at sealing
    rw [List.drop_left' front]
    exact sealing

/-! ## What a frame tells -/

/-- The command gives this channel to the transform when it protects a frame. -/
def HandsOver (association : MacsecAssociation) (frame : Bytes) (channel : Macsec.Channel) : Prop :=
  ∃ ethernet tag, Ethernet.parse? frame = some ethernet ∧
    (TagChannel.choose association ethernet.src ethernet.rest.length).result = .ok tag ∧
    channel = (rawChannel association ethernet tag.secTag tag.sci tag.pn).normalize

/-- A protected frame carries what stood after the addresses of another, and
tells everything but the key that it was sealed with. -/
structure Describes (association : MacsecAssociation) (frame out : Bytes) (view : SecTag) :
    Prop where
  length_eq : out.length = frame.length + 32
  addresses_eq : out.take 12 = frame.take 12
  parses : SecTag.parse? ((out.drop 12).take 16) = some view
  isMacsec : view.etherType = View.EtherType.macsec
  carriesSci : view.tci &&& View.Tci.sc ≠ 0
  /-- Nonce and associated data are the frame's, and so are data and tag. -/
  sealing : ∃ channel ciphertext tag, HandsOver association frame channel ∧
    channel.nonce.toList = view.sci ++ Bytes.ofNat 4 view.packetNumber.toNat ∧
    channel.associated.toList = out.take 28 ∧
    Gcm.seal? (normalize 16 association.sak) channel.nonce (out.take 28) (frame.drop 12) =
      some (ciphertext, tag) ∧
    out.drop 28 = ciphertext ++ tag.toList

/-- The security tag was built from the settings of an association. -/
structure BuiltFrom (association : MacsecAssociation) (src : MacAddress) (length : Nat)
    (view : SecTag) : Prop where
  an_eq : view.associationNumber.toNat = association.an.toNat
  pn_eq : view.packetNumber = association.pn
  sci_eq : view.sci = (normalize 8 (association.sciFor src)).toList
  e_set : view.tci &&& View.Tci.e ≠ 0
  c_set : view.tci &&& View.Tci.c ≠ 0
  v_clear : view.tci &&& View.Tci.v = 0
  es_clear : view.tci &&& View.Tci.es = 0
  scb_clear : view.tci &&& View.Tci.scb = 0
  reserved_clear : view.reserved = 0
  shortLength_eq : view.shortLength.toNat = if length < 48 then length else 0

theorem tci_builder (association : MacsecAssociation) (src : MacAddress) (length : Nat) :
    (TagChannel.builder association src length).view.tci =
      View.Tci.sc ||| View.Tci.e ||| View.Tci.c := rfl

theorem builtFrom_builder {association : MacsecAssociation} {src : MacAddress} {length : Nat}
    (fits : (TagChannel.builder association src length).associationNumber ≤ 3) :
    BuiltFrom association src length (TagChannel.builder association src length).view := by
  refine
    { an_eq := Macsec.SecTagBuilder.toNat_associationNumber_view fits
      pn_eq := rfl
      sci_eq := Macsec.SecTagBuilder.sci_view _
      e_set := ?_
      c_set := ?_
      v_clear := ?_
      es_clear := ?_
      scb_clear := ?_
      reserved_clear := rfl
      shortLength_eq := Macsec.SecTagBuilder.toNat_shortLength_view _ }
  -- Which control bits are set does not depend on the association.
  all_goals
    rw [tci_builder]
    decide

/-- A frame sealed under a channel with a complete tag describes itself. -/
theorem describes_of_complete {association : MacsecAssociation} {ethernet : Ethernet}
    {channel : TagChannel} {view : SecTag} {sealed : Bytes} (complete : channel.Complete view)
    (chosen : (TagChannel.choose association ethernet.src ethernet.rest.length).result =
      .ok channel)
    (sealing : (rawChannel association ethernet channel.secTag channel.sci
      channel.pn).normalize.seal? ethernet.rest = some sealed) :
    Describes association ethernet.toBytes
      (ethernet.dst.toList ++ ethernet.src.toList ++ channel.secTag ++ sealed) view := by
  have parsed := parseProtected_of_complete complete ethernet sealed
  have front := length_front complete ethernet
  have same := frameChannel_of_complete complete association ethernet sealed
  obtain ⟨ciphertext, tag, inner, split⟩ := Macsec.Channel.gcm_of_seal? sealing
  constructor
  · rw [List.length_append, front, Macsec.Channel.length_of_seal? sealing,
      ethernet.length_toBytes, Macsec.tagLength]
    omega
  · rw [List.append_assoc _ channel.secTag, List.take_left' ethernet.length_addresses,
      ethernet.take_toBytes]
  · rw [List.append_assoc _ channel.secTag, List.drop_left' ethernet.length_addresses,
      List.take_left' complete.length_eq]
    exact complete.parses
  · exact complete.isMacsec
  · exact bne_iff_ne.mp complete.carriesSci
  · refine ⟨_, ciphertext, tag, ⟨ethernet, channel, Ethernet.parse?_toBytes _, chosen, rfl⟩, ?_, ?_,
      ?_, ?_⟩
    · rw [same, nonce_frameChannel _ parsed, sci_of_complete complete]
    · rw [same, associated_frameChannel _ parsed]
    · rw [same, associated_frameChannel _ parsed, ← same] at inner
      rw [ethernet.drop_toBytes]
      exact inner
    · rw [List.drop_left' front, split]

/-- **Every frame that is sent describes itself.**  Whatever the tag came from,
and whether or not the IPv4 header was handed over apart, the frame tells the
nonce and the associated data it was sealed with.  A tag that was not configured
tells the settings of the association. -/
theorem macsecProtect_describes {association : MacsecAssociation} {frame : Bytes}
    {includeIpv4 : Bool} {summary : MacsecSummary}
    (succeeds : (macsecProtect association frame includeIpv4).result = .ok summary) :
    ∃ out view, summary.packet = some out ∧ Describes association frame out view ∧
      (association.secTag = none → ∃ src : MacAddress, src.toList = (frame.drop 6).take 6 ∧
        BuiltFrom association src (out.length - 44) view) := by
  obtain ⟨ethernet, etherType, payload, channel, sealed, rfl, -, chosen, sealing, -, packet⟩ :=
    macsecProtect_eq_ok succeeds
  obtain ⟨view, complete⟩ := TagChannel.complete_of_choose chosen
  have describes := describes_of_complete complete chosen sealing
  rw [ethernet.take_toBytes] at packet
  refine ⟨_, view, packet, describes, fun unset => ⟨ethernet.src, ethernet.take_src.symm, ?_⟩⟩
  obtain ⟨fits, -⟩ := TagChannel.choose_built unset chosen
  have own := (TagChannel.complete_of_built unset chosen).parses
  obtain rfl := Option.some.inj (own.symm.trans complete.parses)
  rw [describes.length_eq, ethernet.length_toBytes, Nat.add_right_comm, Nat.add_sub_cancel_left]
  exact builtFrom_builder fits

/-- One byte after the EtherType, and a tag built from a short SCI. -/
theorem macsecProtect_describes_one_byte :
    ∃ (association : MacsecAssociation) (frame out : Bytes) (src : MacAddress)
        (summary : MacsecSummary) (view : SecTag),
      association = { sak := [0x5a], sci := some [1, 2], systemMac := none, channelNumber := 1
                      pn := 3, an := 1, secTag := none } ∧
      frame = List.replicate 12 7 ++ [8, 0, 0x45] ∧
      out = List.replicate 12 7 ++
        [136, 229, 45, 3, 0, 0, 0, 3, 0, 0, 0, 0, 0, 0, 1, 2, 213, 100, 175, 0, 245, 169, 50, 51,
          222, 231, 137, 196, 126, 221, 250, 178, 73, 210, 50] ∧
      src.toList = List.replicate 6 7 ∧
      (macsecProtect association frame false).result = .ok summary ∧
      summary.packet = some out ∧ association.secTag = none ∧
      Describes association frame out view ∧ BuiltFrom association src 3 view := by
  let association : MacsecAssociation :=
    { sak := [0x5a], sci := some [1, 2], systemMac := none, channelNumber := 1, pn := 3, an := 1
      secTag := none }
  let frame : Bytes := List.replicate 12 7 ++ [8, 0, 0x45]
  let sent : Bytes := List.replicate 12 7 ++
    [136, 229, 45, 3, 0, 0, 0, 3, 0, 0, 0, 0, 0, 0, 1, 2, 213, 100, 175, 0, 245, 169, 50, 51,
      222, 231, 137, 196, 126, 221, 250, 178, 73, 210, 50]
  have succeeds : (macsecProtect association frame false).result =
      .ok { action := .protect, src := .replicate 6 7, dst := .replicate 6 7, sci := [1, 2], pn := 3
            an := 1, etherType := some ⟨[8, 0], rfl⟩, packet := some sent } := by
    decide +kernel
  obtain ⟨out, view, packet, describes, built⟩ := macsecProtect_describes succeeds
  obtain rfl : sent = out := Option.some.inj packet
  obtain ⟨src, address, builtFrom⟩ := built rfl
  exact ⟨association, frame, sent, src, _, view, rfl, rfl, rfl, address, succeeds, packet, rfl,
    describes, builtFrom⟩

/-! ## Back at the receiver -/

/-- **Whoever has the key gets the frame back.**  The settings of the receiver,
its key apart, have no say. -/
theorem macsecValidate_macsecProtect {sender receiver : MacsecAssociation} {frame : Bytes}
    {includeIpv4 : Bool} {sent : MacsecSummary}
    (sameKey : normalize 16 sender.sak = normalize 16 receiver.sak)
    (succeeds : (macsecProtect sender frame includeIpv4).result = .ok sent) :
    ∃ out received, sent.packet = some out ∧
      (macsecValidate receiver out).result = .ok received ∧ received.valid = some true ∧
      received.etherType = sent.etherType ∧ received.packet = some frame := by
  obtain ⟨out, ethernet, view, etherType, payload, packet, etherTypeSet, parsed, whole, sealing⟩ :=
    sealed_of_macsecProtect succeeds
  have enough : Macsec.tagLength ≤ (out.drop 28).length :=
    (Macsec.Channel.hasTag_of_seal? sealing).enough
  rw [sameKey] at sealing
  have accepted := result_macsecValidate_of_open? parsed enough
    (Macsec.Channel.open?_of_seal? sealing enough)
  refine ⟨out, _, packet, accepted, rfl, etherTypeSet.symm, ?_⟩
  show some (out.take 12 ++ etherType.toList ++ payload) = some frame
  rw [whole, List.append_assoc]

/-- A configured tag with its own SCI and packet number, the IPv4 header handed
over apart, and a receiver that shares nothing but the key. -/
theorem macsecValidate_macsecProtect_configured_tag :
    ∃ (sender receiver : MacsecAssociation) (frame out : Bytes) (sent received : MacsecSummary),
      sender = { sak := [0x5a], sci := none, systemMac := none, channelNumber := 1, pn := 3, an := 1
                 secTag := some ([0x88, 0xe5, 0x2d, 0, 0, 0, 0, 9] ++ List.replicate 8 1) } ∧
      receiver = { sak := [0, 0x5a], sci := some [4, 5], systemMac := some (.replicate 6 6)
                   channelNumber := 2, pn := 70, an := 3, secTag := some [] } ∧
      frame = List.replicate 12 7 ++ [8, 0, 0x45] ++ List.replicate 19 6 ∧
      normalize 16 sender.sak = normalize 16 receiver.sak ∧
      (macsecProtect sender frame true).result = .ok sent ∧ sent.packet = some out ∧
      (macsecValidate receiver out).result = .ok received ∧ received.valid = some true ∧
      received.etherType = some ⟨[8, 0], rfl⟩ ∧ received.packet = some frame := by
  let sender : MacsecAssociation :=
    { sak := [0x5a], sci := none, systemMac := none, channelNumber := 1, pn := 3, an := 1
      secTag := some ([0x88, 0xe5, 0x2d, 0, 0, 0, 0, 9] ++ List.replicate 8 1) }
  let receiver : MacsecAssociation :=
    { sak := [0, 0x5a], sci := some [4, 5], systemMac := some (.replicate 6 6), channelNumber := 2
      pn := 70, an := 3, secTag := some [] }
  let frame : Bytes := List.replicate 12 7 ++ [8, 0, 0x45] ++ List.replicate 19 6
  have sameKey : normalize 16 sender.sak = normalize 16 receiver.sak := by decide
  have succeeds : (macsecProtect sender frame true).result =
      .ok { action := .protect, src := .replicate 6 7, dst := .replicate 6 7
            sci := List.replicate 8 1, pn := 9, an := 1, etherType := some ⟨[8, 0], rfl⟩
            packet := some (List.replicate 12 7 ++
              [136, 229, 45, 0, 0, 0, 0, 9, 1, 1, 1, 1, 1, 1, 1, 1, 129, 141, 10, 217, 49, 149,
                196, 184, 238, 89, 206, 164, 151, 119, 16, 178, 33, 246, 118, 219, 215, 241, 180,
                102, 136, 144, 62, 149, 193, 2, 207, 6, 49, 65, 32, 17, 38, 96]) } := by
    decide +kernel
  obtain ⟨out, received, packet, accepted, valid, etherType, restored⟩ :=
    macsecValidate_macsecProtect sameKey succeeds
  exact ⟨sender, receiver, frame, out, _, received, rfl, rfl, rfl, sameKey, succeeds, packet,
    accepted, valid, etherType, restored⟩

end Command

end PacketProtection
