import PacketProtection.Proofs.Command.SelfDescription

/-!
# The channel in the reports of both ends

The sender reports the channel it chose, and the receiver the channel it finds in
the frame.  When both have the same association the reports agree on everything
(`SameChannel`), and the receiver has nothing to warn of, unless a configured
security tag names another channel than the association (`WarnsDuly`).

*Up to a width.*  There is one exception.  An SCI of any length is brought to
eight bytes for the frame, but it is reported and compared as it was configured.
So both statements hold exactly for associations with a *whole* SCI (`WholeSci`),
and a configured security tag, which decides over the SCI, has one.

*Own frames.*  What the receiver makes of a frame of its own association is worked
out once (`result_macsecValidate_own`, `warnings_macsecValidate_own`).
-/

namespace PacketProtection

open View (SecTag)

/-! ## Warnings -/

/-- The warnings in a log. -/
def warnings (log : Log) : Log :=
  log.filter (·.level = .warn)

theorem warnings_append (log more : Log) : warnings (log ++ more) = warnings log ++ warnings more :=
  List.filter_append ..

theorem warnings_warn (text : String) (log : Log) :
    warnings (⟨.warn, text⟩ :: log) = ⟨.warn, text⟩ :: warnings log := rfl

theorem warnings_debug (text : String) (log : Log) :
    warnings (⟨.debug, text⟩ :: log) = warnings log := rfl

/-- Nobody is warned of a byte string that is brought to its width. -/
theorem warnings_normalizeLog (width length : Nat) : warnings (normalizeLog width length) = [] := by
  rw [normalizeLog]
  split
  · rfl
  · split
    · rfl
    · rfl

theorem Macsec.warnings_validate_of_accepted {raw : RawChannel} {payload body : Bytes}
    {etherType : Octets etherTypeLength}
    (accepted : (validate raw payload).result = .ok (.accepted etherType body)) :
    warnings (validate raw payload).log = [] := by
  have silent : warnings raw.normalizeLog = [] := by
    simp only [RawChannel.normalizeLog, warnings_append, warnings_normalizeLog, List.append_nil]
  rw [validate] at accepted ⊢
  split at accepted
  next enough =>
    rw [dif_pos enough]
    simp only at accepted ⊢
    split at accepted
    · cases accepted
    · split at accepted
      · cases accepted
      · rw [warnings_append, silent]
        rfl
  · cases accepted

namespace Command

/-- The warning about an SCI that is not the association's. -/
def sciWarning (sci : Bytes) : Message :=
  let text := Hex.encode sci
  ⟨.warn, s!"SCI {text} does not match the secure association"⟩

/-- Of a frame that it accepts, the receiver warns only if the SCI is not as the
association has it. -/
theorem warnings_macsecValidate_of_open? {association : MacsecAssociation} {frame payload : Bytes}
    {ethernet : Ethernet} {view : SecTag} {etherType : Octets 2}
    (parsed : parseProtected frame = .ok (ethernet, view))
    (enough : Macsec.tagLength ≤ (frame.drop 28).length)
    (opened : (frameChannel (normalize 16 association.sak) ethernet view).open? (frame.drop 28)
      enough = some (etherType.toList ++ payload)) :
    warnings (macsecValidate association frame).log =
      if view.sci = association.sciFor ethernet.src then [] else [sciWarning view.sci] := by
  rw [← normalize_rawChannel_frame] at opened
  have accepted := Macsec.result_validate_of_open? enough opened
  have silent := Macsec.warnings_validate_of_accepted accepted
  rw [← drop_fullLength_of_parsed parsed] at accepted silent
  have given : (Traced.ofExcept (parseProtected frame)).result = .ok (ethernet, view) := parsed
  have validated : (Traced.mapError MacsecError.transform _).result = _ :=
    Traced.result_mapError_eq_ok.mpr accepted
  rw [macsecValidate, Traced.log_bind_of_ok given]
  simp only [Traced.log_ofExcept, List.nil_append, apply_ite Traced.log, Traced.log_say_bind,
    Traced.log_bind_of_ok validated, Traced.log_mapError, Traced.log_pure, List.append_nil]
  -- The debug message about the packet number is no warning.
  simp only [apply_ite warnings, warnings_warn, warnings_debug, silent, ite_self, ite_not]
  rfl

/-! ## Where the channel comes from -/

namespace TagChannel

variable {association : MacsecAssociation} {src : MacAddress} {length : Nat}
  {channel : TagChannel} {view : SecTag} {secTag : Bytes}

theorem choose_eq_configured (configured : association.secTag = some secTag)
    (chosen : (choose association src length).result = .ok channel) :
    ∃ view, SecTag.parse? secTag = some view ∧
      channel = ⟨secTag, view.sci, view.packetNumber, view.associationNumber.toNat⟩ := by
  rw [result_choose_configured configured] at chosen
  split at chosen
  · cases chosen
  next found =>
    cases chosen
    obtain ⟨view, parses, found⟩ := Option.bind_eq_some_iff.mp found
    obtain ⟨-, same⟩ := Option.ite_none_right_eq_some.mp found
    exact ⟨view, parses, (Option.some.inj same).symm⟩

/-- The association number is the tag's, too. -/
theorem an_of_choose (chosen : (choose association src length).result = .ok channel)
    (complete : channel.Complete view) : channel.an = view.associationNumber.toNat := by
  have parses := complete.parses
  cases configured : association.secTag with
  | none =>
      obtain ⟨fits, rfl⟩ := choose_eq_built configured chosen
      obtain rfl := Option.some.inj ((SecTag.parse?_toBytes _).symm.trans parses)
      have narrow : (builder association src length).associationNumber ≤ 3 := fits
      exact (Macsec.SecTagBuilder.toNat_associationNumber_view narrow).symm
  | some secTag =>
      obtain ⟨own, ownParses, rfl⟩ := choose_eq_configured configured chosen
      obtain rfl := Option.some.inj (ownParses.symm.trans parses)
      rfl

/-- A configured tag decides over the SCI. -/
theorem sci_of_choose_configured (configured : association.secTag = some secTag)
    (chosen : (choose association src length).result = .ok channel)
    (complete : channel.Complete view) :
    channel.sci = view.sci ∧ view.sci = (secTag.drop 8).take 8 := by
  have parses := complete.parses
  obtain ⟨own, ownParses, rfl⟩ := choose_eq_configured configured chosen
  obtain rfl := Option.some.inj (ownParses.symm.trans parses)
  refine ⟨rfl, ?_⟩
  rw [own.sci_eq_take complete.carriesSci, ← SecTag.parse?_eq_some.mp ownParses]

end TagChannel

/-! ## Own frames -/

section Own

variable {association : MacsecAssociation} {ethernet : Ethernet} {channel : TagChannel}
  {view : SecTag} {etherType : Octets 2} {payload sealed : Bytes}

/-- The frame that is made of the addresses of another, a security tag and sealed
data. -/
def ownFrame (ethernet : Ethernet) (channel : TagChannel) (sealed : Bytes) : Bytes :=
  ethernet.dst.toList ++ ethernet.src.toList ++ channel.secTag ++ sealed

variable (complete : channel.Complete view) (rest : ethernet.rest = etherType.toList ++ payload)
  (sealing : (rawChannel association ethernet channel.secTag channel.sci
    channel.pn).normalize.seal? ethernet.rest = some sealed)
include complete rest sealing

theorem open?_ownFrame :
    ∃ enough : Macsec.tagLength ≤ ((ownFrame ethernet channel sealed).drop 28).length,
      (frameChannel (normalize 16 association.sak)
        { ethernet with rest := channel.secTag ++ sealed }
        { view with rest := view.rest ++ sealed }).open?
          ((ownFrame ethernet channel sealed).drop 28) enough =
            some (etherType.toList ++ payload) := by
  have back : (ownFrame ethernet channel sealed).drop 28 = sealed :=
    List.drop_left' (length_front complete ethernet)
  rw [frameChannel_of_complete complete, rest] at sealing
  rw [back]
  have enough := (Macsec.Channel.hasTag_of_seal? sealing).enough
  exact ⟨enough, Macsec.Channel.open?_of_seal? sealing enough⟩

/-- The receiver reports what the security tag tells. -/
theorem result_macsecValidate_own :
    ∃ received, (macsecValidate association (ownFrame ethernet channel sealed)).result =
        .ok received ∧
      received.src = ethernet.src ∧ received.dst = ethernet.dst ∧ received.sci = view.sci ∧
      received.pn = view.packetNumber ∧ received.an = view.associationNumber.toNat ∧
      received.etherType = some etherType := by
  obtain ⟨enough, opened⟩ := open?_ownFrame complete rest sealing
  have parsed := parseProtected_of_complete complete ethernet sealed
  exact ⟨_, result_macsecValidate_of_open? parsed enough opened, rfl, rfl,
    sci_of_complete complete sealed, rfl, rfl, rfl⟩

theorem warnings_macsecValidate_own :
    warnings (macsecValidate association (ownFrame ethernet channel sealed)).log =
      if view.sci = association.sciFor ethernet.src then [] else [sciWarning view.sci] := by
  obtain ⟨enough, opened⟩ := open?_ownFrame complete rest sealing
  have parsed := parseProtected_of_complete complete ethernet sealed
  have found := warnings_macsecValidate_of_open? parsed enough opened
  rw [sci_of_complete complete] at found
  exact found

end Own

/-! ## Reports -/

/-- Both reports tell of the same channel. -/
structure SameChannel (sent received : MacsecSummary) : Prop where
  src_eq : received.src = sent.src
  dst_eq : received.dst = sent.dst
  sci_eq : received.sci = sent.sci
  pn_eq : received.pn = sent.pn
  an_eq : received.an = sent.an
  etherType_eq : received.etherType = sent.etherType

/-- There is no warning about an SCI, unless a configured security tag has another
one than the association. -/
def WarnsDuly (association : MacsecAssociation) (src : MacAddress) (log : Log) : Prop :=
  ∀ sci, sciWarning sci ∈ log → ∃ secTag, association.secTag = some secTag ∧
    (secTag.drop 8).take 8 ≠ association.sciFor src

/-- The SCI that decides has eight bytes. -/
def WholeSci (association : MacsecAssociation) : Prop :=
  association.secTag = none → ∀ sci, association.sci = some sci → sci.length = 8

theorem wholeSci_iff {association : MacsecAssociation} (src : MacAddress) :
    WholeSci association ↔ (association.secTag = none → (association.sciFor src).length = 8) := by
  refine imp_congr_right fun _ => ?_
  rw [MacsecAssociation.sciFor]
  cases association.sci with
  | none => simp
  | some sci => simp

/-- Whatever it accepts, the receiver reports an SCI of eight bytes. -/
theorem length_sci_of_macsecValidate {association : MacsecAssociation} {frame : Bytes}
    {received : MacsecSummary}
    (accepted : (macsecValidate association frame).result = .ok received) :
    received.sci.length = 8 := by
  cases parsed : parseProtected frame with
  | error error =>
      rw [result_macsecValidate_of_error parsed] at accepted
      cases accepted
  | ok parts =>
      obtain ⟨ethernet, view⟩ := parts
      rw [result_macsecValidate parsed] at accepted
      cases found : (Macsec.validate _ _).result with
      | error cause =>
          rw [found] at accepted
          cases accepted
      | ok validation =>
          rw [found] at accepted
          cases accepted
          cases validation with
          | rejected => exact length_sci parsed
          | accepted => exact length_sci parsed

theorem toList_normalize_eq_iff {width : Nat} {bytes : Bytes} :
    (normalize width bytes).toList = bytes ↔ bytes.length = width := by
  constructor
  · intro same
    rw [← same, Octets.length_toList]
  · exact toList_normalize_of_length

theorem mem_warnings_iff {sci : Bytes} {log : Log} :
    sciWarning sci ∈ warnings log ↔ sciWarning sci ∈ log := by
  rw [warnings, List.mem_filter]
  exact and_iff_left rfl

section Chosen

variable {association : MacsecAssociation} {src : MacAddress} {length : Nat}
  {channel : TagChannel} {view : SecTag}
  (chosen : (TagChannel.choose association src length).result = .ok channel)
include chosen

/-- Only an SCI of the association can be short or long. -/
theorem wholeSci_iff_of_choose (complete : channel.Complete view) :
    WholeSci association ↔ channel.sci.length = 8 := by
  rw [wholeSci_iff src]
  cases configured : association.secTag with
  | none =>
      obtain ⟨-, rfl⟩ := TagChannel.choose_eq_built configured chosen
      exact ⟨fun whole => whole rfl, fun whole _ => whole⟩
  | some secTag =>
      obtain ⟨own, -⟩ := TagChannel.sci_of_choose_configured configured chosen complete
      have whole : channel.sci.length = 8 := by
        rw [own, ← complete.sci_eq, Octets.length_toList]
      exact ⟨fun _ => whole, fun _ unset => by cases unset⟩

theorem warnsDuly_iff (complete : channel.Complete view) {log : Log}
    (warned : warnings log =
      if view.sci = association.sciFor src then [] else [sciWarning view.sci]) :
    WarnsDuly association src log ↔ WholeSci association := by
  constructor
  · intro duly unset
    refine (wholeSci_iff src).mpr (fun _ => ?_) unset
    by_contra notWhole
    -- The SCI in the frame has eight bytes, so it is not the association's.
    have other : view.sci ≠ association.sciFor src := by
      intro same
      rw [← same, ← complete.sci_eq, Octets.length_toList] at notWhole
      exact notWhole rfl
    rw [if_neg other] at warned
    have member : sciWarning view.sci ∈ log :=
      mem_warnings_iff.mp (warned ▸ List.mem_singleton_self _)
    obtain ⟨secTag, configured, -⟩ := duly _ member
    cases unset.symm.trans configured
  · intro whole sci member
    have other : view.sci ≠ association.sciFor src := by
      intro same
      rw [← mem_warnings_iff, warned, if_pos same] at member
      cases member
    cases configured : association.secTag with
    | none =>
        obtain ⟨-, rfl⟩ := TagChannel.choose_eq_built configured chosen
        have kept := toList_normalize_of_length ((wholeSci_iff_of_choose chosen complete).mp whole)
        exact absurd (complete.sci_eq.symm.trans kept) other
    | some secTag =>
        obtain ⟨-, place⟩ := TagChannel.sci_of_choose_configured configured chosen complete
        exact ⟨secTag, rfl, place ▸ other⟩

end Chosen

/-- **The receiver reports the channel that the sender reports, up to the width of
the SCI.**  It tells the SCI in eight bytes, and warns exactly if these are not
the association's.  So for an association whose SCI has another length, and only
for such a one, the two reports differ and the warning is undue. -/
theorem macsecValidate_reports {association : MacsecAssociation} {frame : Bytes}
    {includeIpv4 : Bool} {sent : MacsecSummary}
    (succeeds : (macsecProtect association frame includeIpv4).result = .ok sent) :
    ∃ out received, sent.packet = some out ∧
      (macsecValidate association out).result = .ok received ∧
      received.src = sent.src ∧ received.dst = sent.dst ∧ received.pn = sent.pn ∧
      received.an = sent.an ∧ received.etherType = sent.etherType ∧
      received.sci = (normalize 8 sent.sci).toList ∧
      warnings (macsecValidate association out).log =
        (if received.sci = association.sciFor received.src then []
          else [sciWarning received.sci]) ∧
      (SameChannel sent received ↔ WholeSci association) ∧
      (WarnsDuly association received.src (macsecValidate association out).log ↔
        WholeSci association) := by
  obtain ⟨ethernet, etherType, payload, channel, sealed, typed, chosen, sealing, rfl⟩ :=
    protectedAs_of_macsecProtect succeeds
  obtain ⟨rfl, rest⟩ := Ethernet.typed?_eq_some.mp typed
  obtain ⟨view, complete⟩ := TagChannel.complete_of_choose chosen
  obtain ⟨received, accepted, src, dst, sci, pn, an, kind⟩ :=
    result_macsecValidate_own complete rest sealing
  have warned := warnings_macsecValidate_own complete rest sealing
  have whole := wholeSci_iff_of_choose chosen complete
  have packet : ethernet.toBytes.take addressesLength ++ channel.secTag ++ sealed =
      ownFrame ethernet channel sealed := by
    rw [addressesLength, ethernet.take_toBytes, ownFrame]
  have normalized : received.sci = (normalize 8 channel.sci).toList :=
    sci.trans complete.sci_eq.symm
  have samePn : received.pn = channel.pn := pn.trans complete.pn_eq.symm
  have sameAn : received.an = channel.an :=
    an.trans (TagChannel.an_of_choose chosen complete).symm
  refine ⟨_, received, congrArg some packet, accepted, src, dst, samePn, sameAn, kind, normalized,
    ?_, ?_, ?_⟩
  · rw [sci, src]
    exact warned
  · rw [whole]
    constructor
    · intro same
      exact toList_normalize_eq_iff.mp (normalized.symm.trans same.sci_eq)
    · intro eight
      exact ⟨src, dst, normalized.trans (toList_normalize_of_length eight), samePn, sameAn, kind⟩
  · rw [src]
    exact warnsDuly_iff chosen complete warned

/-- A configured security tag decides over a short SCI, and names another channel. -/
theorem macsecValidate_reports_configured_tag :
    ∃ (association : MacsecAssociation) (frame out : Bytes) (sent received : MacsecSummary),
      association = { sak := [0x5a], sci := some [1, 2], systemMac := none, channelNumber := 1
                      pn := 3, an := 1
                      secTag := some ([0x88, 0xe5, 0x2d, 0, 0, 0, 0, 9] ++ List.replicate 8 1) } ∧
      frame = List.replicate 12 7 ++ [8, 0, 0x45] ∧
      (macsecProtect association frame false).result = .ok sent ∧ sent.packet = some out ∧
      (macsecValidate association out).result = .ok received ∧
      received.sci = List.replicate 8 1 ∧ received.pn = 9 ∧ SameChannel sent received ∧
      warnings (macsecValidate association out).log = [sciWarning (List.replicate 8 1)] ∧
      WarnsDuly association received.src (macsecValidate association out).log := by
  let association : MacsecAssociation :=
    { sak := [0x5a], sci := some [1, 2], systemMac := none, channelNumber := 1, pn := 3, an := 1
      secTag := some ([0x88, 0xe5, 0x2d, 0, 0, 0, 0, 9] ++ List.replicate 8 1) }
  let frame : Bytes := List.replicate 12 7 ++ [8, 0, 0x45]
  have configured : WholeSci association := fun unset => by cases unset
  have succeeds : (macsecProtect association frame false).result =
      .ok { action := .protect, src := .replicate 6 7, dst := .replicate 6 7
            sci := List.replicate 8 1, pn := 9, an := 1, etherType := some ⟨[8, 0], rfl⟩
            packet := some (List.replicate 12 7 ++
              [136, 229, 45, 0, 0, 0, 0, 9, 1, 1, 1, 1, 1, 1, 1, 1, 129, 141, 10, 109, 210, 182,
                41, 227, 83, 113, 194, 30, 244, 219, 96, 230, 95, 152, 117]) } := by
    decide +kernel
  obtain ⟨out, received, packet, accepted, -, -, pn, -, -, sci, warned, same, duly⟩ :=
    macsecValidate_reports succeeds
  have own : received.sci = List.replicate 8 1 := sci
  rw [own] at warned
  exact ⟨association, frame, out, _, received, rfl, rfl, succeeds, packet, accepted, own, pn,
    same.mpr configured, warned, duly.mpr configured⟩

/-- A short SCI is reported by the sender as it was configured, and by the
receiver in eight bytes. -/
theorem macsecValidate_reports_short_sci :
    ¬∀ (association : MacsecAssociation) (frame : Bytes) (includeIpv4 : Bool)
        (sent : MacsecSummary),
      (macsecProtect association frame includeIpv4).result = .ok sent →
        ∃ out received, sent.packet = some out ∧
          (macsecValidate association out).result = .ok received ∧ SameChannel sent received ∧
          WarnsDuly association received.src (macsecValidate association out).log := by
  intro alike
  let association : MacsecAssociation :=
    { sak := [0x5a], sci := some [1, 2], systemMac := none, channelNumber := 1, pn := 3, an := 1
      secTag := none }
  let frame : Bytes := List.replicate 12 7 ++ [8, 0, 0x45]
  let sent : Bytes := List.replicate 12 7 ++
    [136, 229, 45, 3, 0, 0, 0, 3, 0, 0, 0, 0, 0, 0, 1, 2, 213, 100, 175, 0, 245, 169, 50, 51,
      222, 231, 137, 196, 126, 221, 250, 178, 73, 210, 50]
  have succeeds : (macsecProtect association frame false).result =
      .ok { action := .protect, src := .replicate 6 7, dst := .replicate 6 7, sci := [1, 2], pn := 3
            an := 1, etherType := some ⟨[8, 0], rfl⟩, packet := some sent } := by
    decide +kernel
  obtain ⟨out, received, -, accepted, same, -⟩ := alike association frame false _ succeeds
  have whole := length_sci_of_macsecValidate accepted
  rw [same.sci_eq] at whole
  cases whole

end Command

end PacketProtection
