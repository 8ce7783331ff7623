import PacketProtection.Proofs.CommandLine.Leniency
import PacketProtection.Tool.Invocation

/-!
# The two rounds are one strict reading

The first round reads the words leniently, for the subcommand and the log level; the
second reads them strictly.  What it needs beyond a strict reading is there whenever that
ends well: the arguments of the subcommand have values of their types
(`Invocation.exists_ofMatches`), and the log level is one of the levels
(`exists_level`).

So the two rounds together carry out exactly the command lines that one strict reading
accepts, with its subcommand, its log level and its arguments
(`rounds_iff_strict`).
-/

namespace PacketProtection.Tool

open CommandLine

/-! ## The grammar of the tool -/

theorem grammar_proper : grammar.Proper where
  tool := ⟨by decide, by decide⟩
  subcommands := by
    intro subcommand member
    simp only [grammar, List.mem_cons, List.not_mem_nil, or_false] at member
    rcases member with rfl | rfl | rfl | rfl
    · exact ⟨by decide, by decide⟩
    · exact ⟨by decide, by decide⟩
    · exact ⟨by decide, by decide +kernel⟩
    · exact ⟨by decide, by decide⟩

/-! ## Values of arguments -/

/-- Does a signature have an argument of a name that is due, of one value of a kind? -/
def Demands (signature : Signature) (name : String) (kind : ValueKind) : Prop :=
  ∃ argument ∈ signature.arguments,
    argument.name = name ∧ argument.use = .value kind ∧ argument.Due

instance (signature : Signature) (name : String) (kind : ValueKind) :
    Decidable (Demands signature name kind) :=
  inferInstanceAs (Decidable (∃ argument ∈ signature.arguments, _))

theorem exists_of_demands {signature : Signature} {found : Matches} {name : String}
    {kind : ValueKind} (fills : found.Fills signature) (demands : Demands signature name kind) :
    ∃ text, found.get? name = some [text] ∧ kind.refusal? name text = none := by
  obtain ⟨argument, member, rfl, use, due⟩ := demands
  obtain ⟨values, given⟩ := Option.isSome_iff_exists.mp (fills.present argument member due)
  have allows := fills.allowed argument member values given
  simp only [Argument.Allows, use] at allows
  obtain ⟨text, rfl⟩ := List.length_eq_one_iff.mp allows.1
  exact ⟨text, given, allows.2 text (List.mem_singleton_self _)⟩

theorem exists_value {α : Type} {signature : Signature} {found : Matches} {name : String}
    {kind : ValueKind} (ofText? : String → Option α) (fills : found.Fills signature)
    (demands : Demands signature name kind)
    (reads : ∀ text, kind.refusal? name text = none → ∃ read, ofText? text = some read) :
    ∃ read, value found name ofText? = .ok read := by
  obtain ⟨text, given, accepted⟩ := exists_of_demands fills demands
  obtain ⟨read, done⟩ := reads text accepted
  refine ⟨read, ?_⟩
  rw [value, text?, given]
  simp [done]

/-- A word that is one of some names is the name of something. -/
theorem exists_of_oneOf {α : Type} {all : List α} {nameOf : α → String} {argument text : String}
    (accepted : (ValueKind.oneOf (all.map nameOf)).refusal? argument text = none) :
    ∃ found, all.find? (nameOf · = text) = some found := by
  have member : text ∈ all.map nameOf := by
    by_contra absent
    simp [ValueKind.refusal?, absent] at accepted
  obtain ⟨found, inAll, named⟩ := List.mem_map.mp member
  rw [← Option.isSome_iff_exists, List.find?_isSome]
  exact ⟨found, inAll, by simpa using named⟩

theorem exists_decimal {limit : Nat} {argument text : String}
    (accepted : (ValueKind.number limit).refusal? argument text = none) :
    ∃ number, decimal? text = some number := by
  rw [ValueKind.refusal?] at accepted
  split at accepted
  next number read => exact ⟨number, read⟩
  · cases accepted

/-! ## Invocations -/

section Invocations

variable {found : Matches}

theorem exists_packetOptions {signature : Signature} (fills : found.Fills signature)
    (sa : Demands signature "sa" .path) (input : Demands signature "input" .path)
    (format : Demands signature "format"
      (.oneOf (PacketFile.Format.all.map PacketFile.Format.name))) :
    ∃ options, packetOptionsOf found = .ok options := by
  obtain ⟨saPath, saRead⟩ := exists_value some fills sa fun text _ => ⟨text, rfl⟩
  obtain ⟨inputPath, inputRead⟩ := exists_value some fills input fun text _ => ⟨text, rfl⟩
  obtain ⟨form, formRead⟩ :=
    exists_value PacketFile.Format.ofName? fills format fun _ => exists_of_oneOf
  refine ⟨⟨saPath, inputPath, text? found "output", form⟩, ?_⟩
  rw [packetOptionsOf, saRead, inputRead, formRead]
  rfl

theorem exists_algorithms (fills : found.Fills keygenSignature) :
    ∃ algorithms, algorithmsOf found = .ok algorithms := by
  have named : ∀ text ∈ (found.get? "algorithm").getD [],
      ∃ algorithm, Algorithm.ofName? text = some algorithm := by
    intro text member
    cases given : found.get? "algorithm" with
    | none =>
        rw [given] at member
        cases member
    | some values =>
        rw [given] at member
        exact exists_of_oneOf (fills.allowed _ (.head _) values given text member)
  have read (values : List String) (all : ∀ text ∈ values,
      ∃ algorithm, Algorithm.ofName? text = some algorithm) :
      ∃ algorithms, values.mapM Algorithm.ofName? = some algorithms := by
    induction values with
    | nil => exact ⟨[], rfl⟩
    | cons text rest ih =>
        obtain ⟨algorithm, here⟩ := all text (.head _)
        obtain ⟨algorithms, later⟩ := ih fun other member => all other (.tail _ member)
        exact ⟨algorithm :: algorithms, by rw [List.mapM_cons, here, later]; rfl⟩
  obtain ⟨algorithms, done⟩ := read _ named
  exact ⟨algorithms, by rw [algorithmsOf, done]⟩

/-- The arguments that a strict reading finds are those of an invocation. -/
theorem Invocation.exists_ofMatches {subcommand : Signature}
    (member : subcommand ∈ grammar.subcommands) (fills : found.Fills subcommand) :
    ∃ invocation, Invocation.ofMatches subcommand.name found = .ok invocation := by
  simp only [grammar, List.mem_cons, List.not_mem_nil, or_false] at member
  rcases member with rfl | rfl | rfl | rfl
  case inl =>
    obtain ⟨action, actionRead⟩ := exists_value Command.EspAction.ofName? fills
      (show Demands espSignature "action" _ by decide) fun _ => exists_of_oneOf
    obtain ⟨options, optionsRead⟩ := exists_packetOptions fills (by decide) (by decide) (by decide)
    refine ⟨.esp action options, ?_⟩
    rw [ofMatches, if_pos rfl, actionRead, optionsRead]
    rfl
  case inr.inl =>
    obtain ⟨action, actionRead⟩ := exists_value Command.MacsecAction.ofName? fills
      (show Demands macsecSignature "action" _ by decide) fun _ => exists_of_oneOf
    obtain ⟨options, optionsRead⟩ := exists_packetOptions fills (by decide) (by decide) (by decide)
    refine ⟨.macsec action options (isOn found "include-ipv4"), ?_⟩
    rw [ofMatches, if_neg (by decide), if_pos rfl, actionRead, optionsRead]
    rfl
  case inr.inr.inl =>
    obtain ⟨algorithms, algorithmsRead⟩ := exists_algorithms fills
    obtain ⟨count, countRead⟩ := exists_value decimal? fills
      (show Demands keygenSignature "count" (.number countLimit) by decide) fun _ => exists_decimal
    refine ⟨.keygen algorithms count (isOn found "json"), ?_⟩
    rw [ofMatches, if_neg (by decide), if_neg (by decide), if_pos rfl, algorithmsRead, countRead]
    rfl
  case inr.inr.inr =>
    obtain ⟨shell, shellRead⟩ := exists_value Shell.ofName? fills
      (show Demands completeSignature "shell" _ by decide) fun _ => exists_of_oneOf
    refine ⟨.complete shell (text? found "register"), ?_⟩
    rw [ofMatches, if_neg (by decide), if_neg (by decide), if_neg (by decide), if_pos rfl,
      shellRead]
    rfl

end Invocations

/-! ## Rounds -/

theorem exists_level {options : Matches} (fills : options.Fills grammar.tool) :
    ∃ text level, options.get? logLevelOption.name = some [text] ∧
      Level.ofName? text = some level := by
  obtain ⟨text, given, accepted⟩ := exists_of_demands fills
    (show Demands grammar.tool logLevelOption.name (.oneOf (Level.all.map Level.name)) by decide)
  obtain ⟨level, read⟩ := exists_of_oneOf accepted
  exact ⟨text, level, given, read⟩

section Rounds

variable {words : List String}

theorem firstRound_of_choose {choice : Choice} {text : String}
    (chosen : grammar.choose words = .ok choice)
    (given : choice.options.get? logLevelOption.name = some [text]) :
    firstRound words = .ok ⟨choice.command, text⟩ := by
  rw [firstRound, chosen]
  simp only [bind, Except.bind, given]
  rfl

theorem choose_of_firstRound {first : FirstRound} (done : firstRound words = .ok first) :
    ∃ choice, grammar.choose words = .ok choice := by
  rw [firstRound] at done
  cases chosen : grammar.choose words with
  | error failure =>
      rw [chosen] at done
      cases done
  | ok choice => exact ⟨choice, rfl⟩

theorem secondRound_of_parse {first : FirstRound} {parsed : Parsed} {found : Matches}
    (read : grammar.parse words = .ok parsed)
    (same : parsed.command = some (first.command, found)) :
    secondRound first words = Invocation.ofMatches first.command found := by
  rw [secondRound, read]
  simp only [bind, Except.bind, same, if_true]

theorem secondRound_of_parse_error {first : FirstRound} {failure : Failure}
    (failed : grammar.parse words = .error failure) :
    secondRound first words = .error failure := by
  rw [secondRound, failed]
  rfl

/-- A strict reading that ends well is found in both rounds. -/
theorem exists_rounds_of_parse {parsed : Parsed} (read : grammar.parse words = .ok parsed) :
    ∃ first found level invocation,
      firstRound words = .ok first ∧ secondRound first words = .ok invocation ∧
      parsed.command = some (first.command, found) ∧
      parsed.options.get? logLevelOption.name = some [first.levelText] ∧
      first.level = .ok level ∧ Invocation.ofMatches first.command found = .ok invocation := by
  obtain ⟨guessed, subcommand, found, member, command, fills, options⟩ :=
    Grammar.guess_of_parse grammar_proper read
  obtain ⟨text, level, given, named⟩ := exists_level options
  obtain ⟨invocation, made⟩ := Invocation.exists_ofMatches member fills
  have chosen : grammar.choose words = .ok ⟨subcommand.name, parsed.options⟩ :=
    Grammar.choose_eq_ok.mpr ⟨parsed, found, guessed, command, rfl⟩
  refine ⟨⟨subcommand.name, text⟩, found, level, invocation, firstRound_of_choose chosen given,
    (secondRound_of_parse read command).trans made, command, given, ?_, made⟩
  rw [FirstRound.level, named]

/-- After a first round, no word is an unknown subcommand to the second. -/
theorem secondRound_ne {first : FirstRound} (found : firstRound words = .ok first)
    (word : String) : secondRound first words ≠ .error (.unknownSubcommand word) := by
  cases read : grammar.parse words with
  | error failure =>
      obtain ⟨choice, chosen⟩ := choose_of_firstRound found
      obtain ⟨guessed, _, guessing, meant, -⟩ := Grammar.choose_eq_ok.mp chosen
      rw [secondRound_of_parse_error read]
      intro same
      cases same
      exact Grammar.parse_ne_of_guess grammar_proper guessing meant word read
  | ok parsed =>
      obtain ⟨again, _, _, invocation, foundAgain, done, -⟩ := exists_rounds_of_parse read
      cases found.symm.trans foundAgain
      rw [done]
      simp

end Rounds

/-- **The two rounds carry out what one strict reading accepts.**  They end well on the
same words, with the subcommand, the log level and the arguments of the strict reading,
and the second round never finds another subcommand than the first. -/
theorem rounds_iff_strict (words : List String) :
    ((∃ first invocation,
        firstRound words = .ok first ∧ secondRound first words = .ok invocation) ↔
      ∃ parsed, grammar.parse words = .ok parsed) ∧
    (∀ parsed, grammar.parse words = .ok parsed →
      ∃ first found level invocation,
        firstRound words = .ok first ∧ secondRound first words = .ok invocation ∧
        parsed.command = some (first.command, found) ∧
        parsed.options.get? logLevelOption.name = some [first.levelText] ∧
        first.level = .ok level ∧ Invocation.ofMatches first.command found = .ok invocation) ∧
    (∀ first, firstRound words = .ok first →
      ∀ word, secondRound first words ≠ .error (.unknownSubcommand word)) := by
  refine ⟨⟨?_, ?_⟩, fun parsed read => exists_rounds_of_parse read,
    fun first found => secondRound_ne found⟩
  · rintro ⟨first, invocation, -, done⟩
    cases read : grammar.parse words with
    | error failure =>
        rw [secondRound_of_parse_error read] at done
        cases done
    | ok parsed => exact ⟨parsed, rfl⟩
  · rintro ⟨parsed, read⟩
    obtain ⟨first, _, _, invocation, found, done, -⟩ := exists_rounds_of_parse read
    exact ⟨first, invocation, found, done⟩

/-- A subcommand cut short, after an option of the tool. -/
theorem rounds_iff_strict_abbreviated :
    ∃ words first,
      words = ["--log-level", "debug", "es", "-sa.yaml", "encrypt", "--input=p"] ∧
      firstRound words = .ok first ∧ first = ⟨"esp", "debug"⟩ ∧
      secondRound first words = .ok (.esp .encrypt ⟨"a.yaml", "p", none, .raw⟩) := by
  obtain ⟨parsed, found, read, command, level, arguments⟩ : ∃ parsed found,
      grammar.parse ["--log-level", "debug", "es", "-sa.yaml", "encrypt", "--input=p"] =
        .ok parsed ∧
      parsed.command = some ("esp", found) ∧
      parsed.options.get? logLevelOption.name = some ["debug"] ∧
      Invocation.ofMatches "esp" found = .ok (.esp .encrypt ⟨"a.yaml", "p", none, .raw⟩) :=
    ⟨_, _, rfl, rfl, rfl, rfl⟩
  obtain ⟨⟨name, text⟩, _, -, _, foundFirst, done, meant, given, -, made⟩ :=
    (rounds_iff_strict _).2.1 parsed read
  cases command.symm.trans meant
  cases level.symm.trans given
  cases arguments.symm.trans made
  exact ⟨_, _, rfl, foundFirst, rfl, done⟩

end PacketProtection.Tool
