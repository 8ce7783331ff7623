import PacketProtection.Proofs.CommandLine.Matches

/-!
# Strict and lenient readings of one command line

A lenient reading forgives one thing where it stands: an option without its value.  So
each step of it *relaxes* the strict step (`Relaxes`): they give the same, or both stop,
or the strict one stops at a missing value.  What a strict step gives is *ready* for the
next (`State.Ready`): all values are allowed, and the pending argument is one of the
command, with one word at most.

*Commands.*  The two readings of a subcommand's words are related in the same way
(`Signature.read_relaxes`), and a strict reading that ends well fills the signature.

*Tools.*  What a strict reading of a tool's words says is what a lenient one finds
(`Grammar.guess_of_parse`).  Where a subcommand is found leniently, a strict reading may
fail for another reason, but not because there is no such subcommand
(`Grammar.parse_ne_of_guess`).
-/

namespace PacketProtection.CommandLine

/-! ## Steps -/

/-- What a lenient step may do where a strict one is known.  A word is taken for an
unknown subcommand only if there are subcommands. -/
inductive Relaxes (subcommands : List Signature) {α : Type} (holds : α → Prop) :
    (strict lenient : Except (Stopped Matches) α) → Prop
  | same {value : α} : holds value → Relaxes subcommands holds (.ok value) (.ok value)
  | excused {argument : String} {matched : Matches} {lenient : Except (Stopped Matches) α} :
      Relaxes subcommands holds (.error ⟨.valueMissing argument, matched⟩) lenient
  | stopped {strict lenient : Stopped Matches} :
      (subcommands = [] → ∀ word, strict.failure ≠ .unknownSubcommand word) →
      Relaxes subcommands holds (.error strict) (.error lenient)

namespace Relaxes

variable {subcommands : List Signature} {α β : Type} {holds : α → Prop} {after : β → Prop}
  {strict lenient : Except (Stopped Matches) α}

theorem bind {strictNext lenientNext : α → Except (Stopped Matches) β}
    (first : Relaxes subcommands holds strict lenient)
    (next : ∀ value, holds value →
      Relaxes subcommands after (strictNext value) (lenientNext value)) :
    Relaxes subcommands after (strict >>= strictNext) (lenient >>= lenientNext) := by
  cases first with
  | same holding => exact next _ holding
  | excused => exact .excused
  | stopped known => exact .stopped known

theorem ok_of_strict (relaxes : Relaxes subcommands holds strict lenient) {value : α}
    (done : strict = .ok value) : lenient = .ok value ∧ holds value := by
  cases relaxes with
  | same holding =>
      cases done
      exact ⟨rfl, holding⟩
  | excused => cases done
  | stopped => cases done

theorem strict_of_ok (relaxes : Relaxes subcommands holds strict lenient) {value : α}
    (done : lenient = .ok value) :
    strict = .ok value ∨ ∃ argument matched, strict = .error ⟨.valueMissing argument, matched⟩ := by
  cases relaxes with
  | same holding => exact .inl done
  | excused => exact .inr ⟨_, _, rfl⟩
  | stopped => cases done

theorem failure_ne (relaxes : Relaxes [] holds strict lenient) {stopped : Stopped Matches}
    (failed : strict = .error stopped) (word : String) :
    stopped.failure ≠ .unknownSubcommand word := by
  cases relaxes with
  | same holding => cases failed
  | excused =>
      cases failed
      intro impossible
      cases impossible
  | stopped known =>
      cases failed
      exact known rfl word

end Relaxes

/-! ## Words of one command -/

namespace Matches

theorem give_error {found : Matches} {argument : Argument} {words : List String}
    {stopped : Stopped Matches} (failed : found.give .strict argument words = .error stopped)
    (word : String) : stopped.failure ≠ .unknownSubcommand word := by
  unfold give at failed
  cases use : argument.use <;> simp only [use] at failed
  case help command => cases failed; simp
  case version => cases failed; simp
  case flag =>
    split at failed <;> cases failed
    simp
  case value kind =>
    split at failed
    · cases failed; simp
    · split at failed
      · cases failed; simp
      · exact addAllowed_eq_error failed word
  case values kind =>
    split at failed
    · cases failed; simp
    · exact addAllowed_eq_error failed word

/-- Only an option without its value is given differently. -/
theorem give_relaxes {subcommands : List Signature} {signature : Signature} {found : Matches}
    {argument : Argument} (proper : signature.Proper) (allowed : found.Allowed signature)
    (member : argument ∈ signature.arguments) {words : List String} (single : words.length ≤ 1) :
    Relaxes subcommands (Matches.Allowed signature) (found.give .strict argument words)
      (found.give .lenient argument words) := by
  by_cases wanting : argument.takesValue && words.isEmpty
  · have missing : found.give .strict argument words =
        .error ⟨.valueMissing argument.name, found⟩ := by
      unfold give
      cases use : argument.use <;> simp_all [Argument.takesValue]
    rw [missing]
    exact .excused
  · have alike : found.give .lenient argument words = found.give .strict argument words := by
      simp only [give, wanting, Bool.false_and]
    rw [alike]
    cases given : found.give .strict argument words with
    | error stopped => exact .stopped fun _ => give_error given
    | ok next => exact .same (allowed.give proper member single given)

end Matches

namespace State

/-- All values are allowed, and what is pending is an argument of the command. -/
structure Ready (signature : Signature) (state : State) : Prop where
  allowed : state.matched.Allowed signature
  pending : ∀ argument words, state.pending = some (argument, words) →
    argument ∈ signature.arguments ∧ words.length ≤ 1

section Reading

variable {subcommands : List Signature} {signature : Signature} {state : State}
  {argument : Argument} {words : List String}

theorem Ready.empty : Ready signature {} :=
  ⟨.empty, fun _ _ impossible => by cases impossible⟩

theorem Ready.pend (ready : Ready signature state) (member : argument ∈ signature.arguments)
    (single : words.length ≤ 1) :
    Ready signature { state with pending := some (argument, words) } where
  allowed := ready.allowed
  pending := by
    rintro _ _ ⟨rfl, rfl⟩
    exact ⟨member, single⟩

theorem stop_eq {α : Type} (mode : Mode) (state : State) (failure : Failure) :
    ∃ matched, state.stop (α := α) mode failure = .error ⟨failure, matched⟩ := by
  unfold stop
  split
  · exact ⟨_, rfl⟩
  · exact ⟨_, rfl⟩

theorem stop_relaxes {α : Type} {holds : α → Prop} {failure : Failure}
    (known : subcommands = [] → ∀ word, failure ≠ .unknownSubcommand word) :
    Relaxes subcommands holds (state.stop .strict failure) (state.stop .lenient failure) := by
  obtain ⟨strictMatched, strict⟩ := stop_eq (α := α) .strict state failure
  obtain ⟨lenientMatched, lenient⟩ := stop_eq (α := α) .lenient state failure
  rw [strict, lenient]
  exact .stopped known

variable (proper : signature.Proper) (ready : Ready signature state)
include proper ready

theorem settle_relaxes :
    Relaxes subcommands (Ready signature) (state.settle .strict) (state.settle .lenient) := by
  unfold settle
  split
  · exact .same ready
  next argument words waiting =>
    obtain ⟨member, single⟩ := ready.pending argument words waiting
    apply (Matches.give_relaxes proper ready.allowed member single).bind
    intro matched allowed
    exact .same ⟨allowed, fun _ _ impossible => by cases impossible⟩

theorem start_relaxes (member : argument ∈ signature.arguments) (single : words.length ≤ 1) :
    Relaxes subcommands (Ready signature) (state.start .strict argument words)
      (state.start .lenient argument words) := by
  apply (settle_relaxes proper ready).bind
  intro settled settledReady
  exact .same (settledReady.pend member single)

theorem give_relaxes (member : argument ∈ signature.arguments) (single : words.length ≤ 1) :
    Relaxes subcommands (Ready signature) (state.give .strict argument words)
      (state.give .lenient argument words) := by
  apply (settle_relaxes proper ready).bind
  intro settled settledReady
  apply (Matches.give_relaxes proper settledReady.allowed member single).bind
  intro matched allowed
  exact .same ⟨allowed, settledReady.pending⟩

theorem readLong_relaxes (word name : String) (value : Option String) :
    Relaxes subcommands (Ready signature) (state.readLong .strict signature word name value)
      (state.readLong .lenient signature word name value) := by
  unfold readLong
  split
  · exact stop_relaxes fun _ _ => by simp
  next argument found =>
    have member : argument ∈ signature.arguments :=
      List.mem_append_right _ (List.mem_of_find?_eq_some found)
    split
    · exact give_relaxes proper ready member (by simp)
    · exact start_relaxes proper ready member (by simp)
    · exact stop_relaxes fun _ _ => by simp
    · exact give_relaxes proper ready member (by simp)

theorem readLetters_relaxes (letters : List Char) :
    Relaxes subcommands (Ready signature) (state.readLetters .strict signature letters)
      (state.readLetters .lenient signature letters) := by
  induction letters generalizing state with
  | nil => exact .same ready
  | cons letter rest ih =>
      rw [readLetters, readLetters]
      split
      · exact stop_relaxes fun _ _ => by simp
      next argument found =>
        have member : argument ∈ signature.arguments :=
          List.mem_append_right _ (List.mem_of_find?_eq_some found)
        split
        · split
          · exact start_relaxes proper ready member (by simp)
          · exact give_relaxes proper ready member (by simp)
          · exact give_relaxes proper ready member (by simp)
        · have first : Relaxes subcommands _ (state.give .strict argument []) _ :=
            give_relaxes proper ready member (by simp)
          generalize state.give .strict argument [] = strict,
            state.give .lenient argument [] = lenient at first ⊢
          cases first with
          | same nextReady => exact ih nextReady
          | excused => exact .excused
          | stopped known => exact .stopped known

theorem readPlace_relaxes (word : String) :
    Relaxes subcommands (Ready signature) (state.readPlace .strict signature subcommands word)
      (state.readPlace .lenient signature subcommands word) := by
  unfold readPlace
  split
  next argument found =>
    have member : argument ∈ signature.arguments :=
      List.mem_append_left _ (List.mem_of_getElem? found)
    apply (start_relaxes proper ready member (Nat.le_refl [word].length)).bind
    intro started startedReady
    exact .same ⟨startedReady.allowed, startedReady.pending⟩
  · split
    · exact stop_relaxes fun _ _ => by simp
    next some =>
      refine stop_relaxes fun none => absurd ?_ some
      rw [none]
      rfl

theorem read_relaxes (word : String) :
    Relaxes subcommands (Ready signature) (state.read .strict signature subcommands word)
      (state.read .lenient signature subcommands word) := by
  unfold read
  split
  · exact readPlace_relaxes proper ready word
  · split
    · exact .same ⟨ready.allowed, ready.pending⟩
    · exact readLong_relaxes proper ready _ _ _
    · exact readLetters_relaxes proper ready _
    next argument _ waiting =>
      exact .same (ready.pend (ready.pending argument [] waiting).1 (by simp))
    · exact readPlace_relaxes proper ready word

end Reading

theorem subcommand?_mem {subcommands : List Signature} {word : String} {found : Signature}
    (meant : subcommand? subcommands word = some found) : found ∈ subcommands := by
  unfold subcommand? at meant
  split at meant
  next only alone =>
    cases meant
    exact List.mem_of_mem_filter (alone ▸ List.mem_singleton_self _)
  · exact List.mem_of_find?_eq_some meant

/-- The words of a command are read alike, up to the first that is a subcommand. -/
theorem readAll_relaxes {subcommands : List Signature} {signature : Signature} {state : State}
    (proper : signature.Proper) (ready : Ready signature state) (words : List String) :
    Relaxes subcommands
      (fun (next, rest) => Ready signature next ∧ ∀ found ∈ rest, found.1 ∈ subcommands)
      (state.readAll .strict signature subcommands words)
      (state.readAll .lenient signature subcommands words) := by
  induction words generalizing state with
  | nil => exact .same ⟨ready, fun _ impossible => by cases impossible⟩
  | cons word rest ih =>
      rw [readAll, readAll]
      split
      next subcommand meant =>
        refine .same ⟨ready, ?_⟩
        rintro _ ⟨rfl⟩
        split at meant
        · cases meant
        · exact subcommand?_mem meant
      · have first : Relaxes subcommands _ _ _ := read_relaxes proper ready word
        generalize state.read .strict signature subcommands word = strict,
          state.read .lenient signature subcommands word = lenient at first ⊢
        cases first with
        | same nextReady => exact ih nextReady
        | excused => exact .excused
        | stopped known => exact .stopped known

end State

/-! ## Whole commands -/

namespace Signature

variable {signature : Signature} (proper : signature.Proper)
include proper

theorem finish_relaxes {subcommands : List Signature} {state : State}
    (ready : State.Ready signature state) :
    Relaxes subcommands (Matches.Fills signature) (signature.finish .strict state)
      (signature.finish .lenient state) := by
  apply (State.settle_relaxes proper ready).bind
  intro settled settledReady
  dsimp only
  split
  · exact .stopped fun _ _ => by simp
  next complete =>
    refine .same ⟨settledReady.allowed.complete proper, fun argument member due => ?_⟩
    rcases due with required | own
    · have present := List.find?_eq_none.mp complete argument member
      simpa [required] using present
    · exact has_complete_of_fallback _ member own

theorem read_relaxes (words : List String) :
    Relaxes [] (Matches.Fills signature) (signature.read .strict words)
      (signature.read .lenient words) := by
  apply (State.readAll_relaxes proper .empty words).bind
  rintro ⟨state, rest⟩ ⟨ready, -⟩
  exact finish_relaxes proper ready

end Signature

/-! ## Whole tools -/

/-- Proper are the signatures of the tool and of all its subcommands. -/
structure Grammar.Proper (grammar : Grammar) : Prop where
  tool : grammar.tool.Proper
  subcommands : ∀ subcommand ∈ grammar.subcommands, subcommand.Proper

/-- A subcommand with its arguments, and the options of the tool. -/
structure Parsed.Of (grammar : Grammar) (parsed : Parsed) (subcommand : Signature)
    (found : Matches) : Prop where
  member : subcommand ∈ grammar.subcommands
  command : parsed.command = some (subcommand.name, found)
  arguments : found.Fills subcommand
  options : parsed.options.Fills grammar.tool

namespace Signature

variable {signature : Signature} {words : List String} {found : Matches}

theorem parse_strict_eq_ok :
    signature.parse .strict words = .ok found ↔ signature.read .strict words = .ok found := by
  rw [parse]
  cases signature.read .strict words <;> simp

theorem parse_lenient_of_read (done : signature.read .lenient words = .ok found) :
    signature.parse .lenient words = .ok found := by
  rw [parse, done]

end Signature

namespace Grammar

variable {grammar : Grammar} {words : List String}

theorem parse_eq_ok {parsed : Parsed} :
    grammar.parse words = .ok parsed ↔ grammar.read .strict words = .ok parsed := by
  rw [parse]
  cases grammar.read .strict words <;> simp [Except.mapError]

/-- A reading that ends well read a subcommand and then the rest of the tool's options. -/
theorem read_eq_ok {mode : Mode} {parsed : Parsed} :
    grammar.read mode words = .ok parsed ↔
      ∃ state subcommand rest found,
        State.readAll mode grammar.tool grammar.subcommands {} words =
          .ok (state, some (subcommand, rest)) ∧
        subcommand.parse mode rest = .ok found ∧
        grammar.tool.finish mode state = .ok parsed.options ∧
        parsed.command = some (subcommand.name, found) := by
  unfold read
  rcases State.readAll mode grammar.tool grammar.subcommands {} words with
    stopped | ⟨state, _ | ⟨subcommand, rest⟩⟩
  · simp
  · simp only
    split <;> simp
  · simp only
    cases read : subcommand.parse mode rest with
    | error failure => simp [read]
    | ok found =>
        cases finished : grammar.tool.finish mode state with
        | error stopped => simp [read, finished]
        | ok options =>
            obtain ⟨parsedOptions, parsedCommand⟩ := parsed
            simp [read, finished, eq_comm]

/-- What a strict reading says is what a lenient one finds. -/
theorem guess_of_parse (proper : grammar.Proper) {parsed : Parsed}
    (done : grammar.parse words = .ok parsed) :
    grammar.guess words = .ok parsed ∧
      ∃ subcommand found, parsed.Of grammar subcommand found := by
  obtain ⟨state, subcommand, rest, found, reached, read, finished, command⟩ :=
    read_eq_ok.mp (parse_eq_ok.mp done)
  obtain ⟨reachedAgain, ready, members⟩ :=
    (State.readAll_relaxes proper.tool .empty words).ok_of_strict reached
  have member : subcommand ∈ grammar.subcommands := members _ rfl
  obtain ⟨readAgain, fills⟩ :=
    (Signature.read_relaxes (proper.subcommands _ member) rest).ok_of_strict
      (Signature.parse_strict_eq_ok.mp read)
  have finishing : Relaxes grammar.subcommands _ _ _ :=
    Signature.finish_relaxes proper.tool ready
  obtain ⟨finishedAgain, options⟩ := finishing.ok_of_strict finished
  have guessed : grammar.read .lenient words = .ok parsed :=
    read_eq_ok.mpr ⟨state, subcommand, rest, found, reachedAgain,
      Signature.parse_lenient_of_read readAgain, finishedAgain, command⟩
  refine ⟨?_, subcommand, found, member, command, fills, options⟩
  rw [guess, guessed]

/-- A choice is the subcommand of a lenient reading, with the options of the tool. -/
theorem choose_eq_ok {choice : Choice} :
    grammar.choose words = .ok choice ↔
      ∃ guessed found, grammar.guess words = .ok guessed ∧
        guessed.command = some (choice.command, found) ∧ guessed.options = choice.options := by
  obtain ⟨command, options⟩ := choice
  unfold choose
  cases guessing : grammar.guess words with
  | error failure => simp [bind, Except.bind]
  | ok guessed =>
      obtain ⟨guessedOptions, guessedCommand⟩ := guessed
      rcases guessedCommand with _ | ⟨meant, found⟩
      · cases grammar.parse words <;> simp [bind, Except.bind, throw, throwThe, MonadExceptOf.throw]
      · simp [bind, Except.bind, pure, Except.pure]

/-- Where a lenient reading finds a subcommand, it got to its word. -/
theorem exists_reached_of_guess {guessed : Parsed} {command : String × Matches}
    (done : grammar.guess words = .ok guessed) (meant : guessed.command = some command) :
    ∃ state subcommand rest,
      State.readAll .lenient grammar.tool grammar.subcommands {} words =
        .ok (state, some (subcommand, rest)) := by
  have ended : grammar.read .lenient words = .ok guessed ∨
      ∃ failure, grammar.read .lenient words = .error ⟨failure, guessed⟩ := by
    unfold guess at done
    split at done
    next parsed read =>
      cases done
      exact .inl read
    next stopped read =>
      split at done
      · cases done
      · cases done
        exact .inr ⟨_, read⟩
  rcases ended with read | ⟨failure, read⟩
  · obtain ⟨state, subcommand, rest, -, reached, -⟩ := read_eq_ok.mp read
    exact ⟨state, subcommand, rest, reached⟩
  · unfold Grammar.read at read
    rcases reached : State.readAll .lenient grammar.tool grammar.subcommands {} words with
      stopped | ⟨state, _ | ⟨subcommand, rest⟩⟩
    · rw [reached] at read
      cases read
      cases meant
    · simp only [reached] at read
      split at read <;> cases read <;> cases meant
    · exact ⟨state, subcommand, rest, rfl⟩

/-- Where a lenient reading finds a subcommand, a strict one does not fail for its word. -/
theorem parse_ne_of_guess (proper : grammar.Proper) {guessed : Parsed}
    {command : String × Matches} (done : grammar.guess words = .ok guessed)
    (meant : guessed.command = some command) (word : String) :
    grammar.parse words ≠ .error (.unknownSubcommand word) := by
  obtain ⟨state, subcommand, rest, reached⟩ := exists_reached_of_guess done meant
  have reading : Relaxes grammar.subcommands _ _ _ :=
    State.readAll_relaxes proper.tool .empty words
  rw [parse, Grammar.read]
  rcases reading.strict_of_ok reached with same | ⟨argument, matched, missing⟩
  · obtain ⟨-, ready, members⟩ := reading.ok_of_strict same
    have subcommandProper := proper.subcommands subcommand (members _ rfl)
    simp only [same]
    cases read : subcommand.read .strict rest with
    | error stopped =>
        simp only [Signature.parse, read, Except.mapError]
        intro impossible
        exact (Signature.read_relaxes subcommandProper rest).failure_ne read word
          (by simpa using impossible)
    | ok found =>
        simp only [Signature.parse, read]
        cases finished : grammar.tool.finish .strict state with
        | error stopped =>
            intro impossible
            exact (Signature.finish_relaxes proper.tool ready).failure_ne finished word
              (by simpa [Except.mapError] using impossible)
        | ok options => simp [Except.mapError]
  · simp [missing, Except.mapError]

end Grammar

end PacketProtection.CommandLine
