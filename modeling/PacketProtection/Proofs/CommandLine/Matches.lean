import Mathlib.Data.List.Nodup
import PacketProtection.CommandLine.Reading

/-!
# What may be matched

Giving values to an argument changes that argument only (`Matches.get?_add_of_ne`),
and no value that is refused is kept (`Matches.addAllowed_eq_ok`).

*Signatures.*  A signature is *proper* when its arguments have different names and
the value of an argument that is not given is one it may have.  Matches are *allowed*
by a signature when each argument has values it may have, and they *fill* it when also
no argument is missing that has to be there.  Completing allowed matches with the
values of what was not given keeps them allowed (`Matches.Allowed.complete`).
-/

namespace PacketProtection.CommandLine

/-! ## Values by name -/

namespace Matches

section Names

variable {found : Matches} {name other : String} {values : List String}

theorem lookup_map_values (change : String → List String → List String)
    (entries : List (String × List String)) :
    (entries.map fun (key, old) => (key, change key old)).lookup name =
      (entries.lookup name).map (change name) := by
  induction entries with
  | nil => rfl
  | cons entry rest ih =>
      rw [List.map_cons, List.lookup_cons, List.lookup_cons]
      by_cases here : name = entry.1
      · simp [here]
      · simp [beq_false_of_ne here, ih]

theorem get?_add_self :
    (found.add name values).get? name = some ((found.get? name).getD [] ++ values) := by
  rw [add]
  split
  next present =>
    obtain ⟨old, given⟩ := Option.isSome_iff_exists.mp present
    rw [get?] at given
    rw [get?, get?, lookup_map_values fun key old => if key = name then old ++ values else old,
      given]
    simp
  next absent =>
    rw [has, Option.isSome_iff_ne_none, not_not, get?] at absent
    rw [get?, get?, List.lookup_append, absent]
    simp

theorem get?_add_of_ne (different : other ≠ name) :
    (found.add name values).get? other = found.get? other := by
  rw [add]
  split
  · rw [get?, get?, lookup_map_values fun key old => if key = name then old ++ values else old]
    simp [different]
  · rw [get?, get?, List.lookup_append]
    simp [List.lookup_cons, beq_false_of_ne different]

theorem has_add_of_has (present : found.has other) : (found.add name values).has other := by
  rw [has] at *
  by_cases same : other = name
  · rw [same, get?_add_self]
    rfl
  · rw [get?_add_of_ne same]
    exact present

end Names

/-! ## Refused values -/

theorem refusal?_ne {kind : ValueKind} {argument value word : String} :
    kind.refusal? argument value ≠ some (.unknownSubcommand word) := by
  unfold ValueKind.refusal?
  repeat' split
  all_goals simp

section Values

variable {found : Matches} {name : String} {kind : ValueKind} {values : List String}

/-- Values that are added were not refused, and no other argument changes. -/
theorem addAllowed_eq_ok {next : Matches} {old : List String}
    (before : found.get? name = some old)
    (done : found.addAllowed name kind values = .ok next) :
    next.get? name = some (old ++ values) ∧
      (∀ text ∈ values, kind.refusal? name text = none) ∧
      ∀ other ≠ name, next.get? other = found.get? other := by
  induction values generalizing found old with
  | nil =>
      cases done
      simp [before]
  | cons value rest ih =>
      rw [addAllowed] at done
      split at done
      · cases done
      next accepted =>
        have after : (found.add name [value]).get? name = some (old ++ [value]) := by
          rw [get?_add_self, before]
          rfl
        obtain ⟨kept, laterAccepted, others⟩ := ih after done
        refine ⟨by rw [kept, List.append_assoc]; rfl, ?_, ?_⟩
        · intro text member
          rcases List.mem_cons.mp member with rfl | later
          · exact accepted
          · exact laterAccepted text later
        · intro other different
          rw [others other different, get?_add_of_ne different]

theorem addAllowed_eq_error {stopped : Stopped Matches}
    (failed : found.addAllowed name kind values = .error stopped) (word : String) :
    stopped.failure ≠ .unknownSubcommand word := by
  induction values generalizing found with
  | nil => cases failed
  | cons value rest ih =>
      rw [addAllowed] at failed
      split at failed
      next failure refused =>
        cases failed
        exact fun same => refusal?_ne (refused.trans (congrArg some same))
      · exact ih failed

end Values

end Matches

/-! ## Signatures -/

/-- Are these values that an argument may have? -/
def Argument.Allows (argument : Argument) (values : List String) : Prop :=
  match argument.use with
  | .value kind => values.length = 1 ∧ ∀ text ∈ values, kind.refusal? argument.name text = none
  | .values kind => ∀ text ∈ values, kind.refusal? argument.name text = none
  | .flag | .help _ | .version => True

instance (argument : Argument) (values : List String) : Decidable (argument.Allows values) :=
  match argument with
  | { use := .value _, .. } => inferInstanceAs (Decidable (_ ∧ _))
  | { use := .values kind, name, .. } =>
      inferInstanceAs (Decidable (∀ text ∈ values, kind.refusal? name text = none))
  | { use := .flag, .. } | { use := .help _, .. } | { use := .version, .. } => isTrue trivial

/-- Has an argument a value, or the reading stops? -/
def Argument.Due (argument : Argument) : Prop :=
  argument.required = true ∨ argument.fallback.isSome = true

instance (argument : Argument) : Decidable argument.Due :=
  inferInstanceAs (Decidable (_ ∨ _))

/-- The arguments have different names, and values of their own that they may have. -/
structure Signature.Proper (signature : Signature) : Prop where
  names_nodup : (signature.arguments.map (·.name)).Nodup
  fallback_allowed : ∀ argument ∈ signature.arguments, ∀ text ∈ argument.fallback,
    argument.Allows [text]

/-- Every argument has values that it may have. -/
def Matches.Allowed (signature : Signature) (found : Matches) : Prop :=
  ∀ argument ∈ signature.arguments, ∀ values,
    found.get? argument.name = some values → argument.Allows values

/-- Every argument has values that it may have, and none is missing that is due. -/
structure Matches.Fills (signature : Signature) (found : Matches) : Prop where
  allowed : found.Allowed signature
  present : ∀ argument ∈ signature.arguments, argument.Due → found.has argument.name

namespace Matches.Allowed

variable {signature : Signature} {found next : Matches} {argument : Argument}

theorem empty : Matches.Allowed signature {} := by
  intro argument _ values given
  cases given

/-- Matches stay allowed when one argument gets values it may have. -/
theorem store (allowed : found.Allowed signature) (proper : signature.Proper)
    (member : argument ∈ signature.arguments) {values : List String}
    (stored : next.get? argument.name = some values) (allows : argument.Allows values)
    (others : ∀ other ≠ argument.name, next.get? other = found.get? other) :
    next.Allowed signature := by
  intro one oneMember oneValues given
  by_cases same : one.name = argument.name
  · have sameArgument : one = argument :=
      List.inj_on_of_nodup_map proper.names_nodup oneMember member same
    rw [same, stored] at given
    cases given
    rw [sameArgument]
    exact allows
  · rw [others _ same] at given
    exact allowed one oneMember oneValues given

/-- What a strict reading gives to an argument is allowed. -/
theorem give (allowed : found.Allowed signature) (proper : signature.Proper)
    (member : argument ∈ signature.arguments) {words : List String} (single : words.length ≤ 1)
    (given : found.give .strict argument words = .ok next) : next.Allowed signature := by
  unfold Matches.give at given
  cases use : argument.use with
  | help command =>
      rw [use] at given
      cases given
  | version =>
      rw [use] at given
      cases given
  | flag =>
      simp only [use] at given
      split at given
      · cases given
      · cases given
        refine allowed.store proper member get?_add_self ?_ fun other => get?_add_of_ne
        simp only [Argument.Allows, use]
  | value kind =>
      simp only [use] at given
      split at given
      · cases given
      next supplied =>
        split at given
        · cases given
        next fresh =>
          have unset : found.get? argument.name = none := by
            simpa [has] using fresh
          obtain ⟨stored, accepted, others⟩ := addAllowed_eq_ok get?_add_self given
          refine allowed.store proper member stored ?_ fun other different =>
            (others other different).trans (get?_add_of_ne different)
          simp only [Argument.Allows, use, unset, Option.getD_none, List.nil_append]
          refine ⟨?_, accepted⟩
          cases words with
          | nil => simp [Argument.takesValue, use] at supplied
          | cons word rest =>
              rw [List.length_cons] at single ⊢
              omega
  | values kind =>
      simp only [use] at given
      split at given
      · cases given
      · obtain ⟨stored, accepted, others⟩ := addAllowed_eq_ok get?_add_self given
        refine allowed.store proper member stored ?_ fun other different =>
          (others other different).trans (get?_add_of_ne different)
        have before := allowed argument member
        simp only [Argument.Allows, use] at before ⊢
        intro text inStored
        rw [List.append_nil] at inStored
        rcases List.mem_append.mp inStored with old | new
        · cases already : found.get? argument.name with
          | none =>
              rw [already] at old
              cases old
          | some values =>
              rw [already] at old
              exact before values already text old
        · exact accepted text new

end Matches.Allowed

/-! ## Values that were not given -/

namespace Signature

/-- Gives an argument its own value, if it has one and was not given. -/
def fillIn (found : Matches) (argument : Argument) : Matches :=
  match argument.fallback with
  | some value => if found.has argument.name then found else found.add argument.name [value]
  | none => found

theorem complete_eq (signature : Signature) (found : Matches) :
    signature.complete found = signature.arguments.foldl fillIn found := rfl

theorem has_fillIn {found : Matches} {argument : Argument} {name : String}
    (present : found.has name) : (fillIn found argument).has name := by
  unfold fillIn
  split
  · split
    · exact present
    · exact Matches.has_add_of_has present
  · exact present

theorem has_fillIn_self {found : Matches} {argument : Argument}
    (own : argument.fallback.isSome) : (fillIn found argument).has argument.name := by
  obtain ⟨value, fallback⟩ := Option.isSome_iff_exists.mp own
  simp only [fillIn, fallback]
  split
  next present => exact present
  next => rw [Matches.has, Matches.get?_add_self, Option.isSome_some]

theorem has_foldl_fillIn {found : Matches} {name : String} (present : found.has name)
    (arguments : List Argument) : (arguments.foldl fillIn found).has name := by
  induction arguments generalizing found with
  | nil => exact present
  | cons argument rest ih => exact ih (has_fillIn present)

theorem has_complete_of_fallback {signature : Signature} (found : Matches) {argument : Argument}
    (member : argument ∈ signature.arguments) (own : argument.fallback.isSome) :
    (signature.complete found).has argument.name := by
  rw [complete_eq]
  obtain ⟨before, after, split⟩ := List.append_of_mem member
  rw [split, List.foldl_append, List.foldl_cons]
  exact has_foldl_fillIn (has_fillIn_self own) after

end Signature

theorem Matches.Allowed.complete {signature : Signature} {found : Matches}
    (allowed : found.Allowed signature) (proper : signature.Proper) :
    (signature.complete found).Allowed signature := by
  rw [Signature.complete_eq]
  refine List.foldlRecOn signature.arguments Signature.fillIn allowed ?_
  intro found allowed argument member
  unfold Signature.fillIn
  split
  next value fallback =>
    split
    · exact allowed
    next absent =>
      have unset : found.get? argument.name = none := by
        simpa [Matches.has] using absent
      refine allowed.store proper member Matches.get?_add_self ?_ fun other =>
        Matches.get?_add_of_ne
      rw [unset]
      exact proper.fallback_allowed argument member value fallback
  · exact allowed

end PacketProtection.CommandLine
