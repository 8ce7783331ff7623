/-!
# Log messages

The transforms and commands report what they do through log messages.  A
message is data: a level and a text.  Which messages are shown, and in which
form, is decided by whoever runs the program.

*Traced results.*  `Traced ε α` is a result, or an error, together with the
messages logged on the way to it.  A failing step keeps the messages that were
logged before the failure.
-/

namespace PacketProtection

/-- How important a message is, most important first. -/
inductive Level where
  | error
  | warn
  | info
  | debug
  | trace
deriving DecidableEq, Repr

namespace Level

/-- Position in the order of levels: the higher, the less important. -/
def rank : Level → Nat
  | .error => 1
  | .warn => 2
  | .info => 3
  | .debug => 4
  | .trace => 5

/-- The name of a level as shown in front of a message. -/
def label : Level → String
  | .error => "ERROR"
  | .warn => "WARN"
  | .info => "INFO"
  | .debug => "DEBUG"
  | .trace => "TRACE"

/-- The name of a level as it is chosen by. -/
def name : Level → String
  | .error => "error"
  | .warn => "warn"
  | .info => "info"
  | .debug => "debug"
  | .trace => "trace"

/-- All levels. -/
def all : List Level :=
  [.error, .warn, .info, .debug, .trace]

/-- The level of a name. -/
def ofName? (name : String) : Option Level :=
  all.find? (·.name = name)

end Level

/-- A logged message. -/
structure Message where
  level : Level
  text : String
deriving DecidableEq, Repr

/-- Messages in the order in which they were logged. -/
abbrev Log := List Message

/-- A changed error is no result. -/
theorem mapError_eq_ok {ε ε' α : Type} {f : ε → ε'} {result : Except ε α} {value : α} :
    result.mapError f = .ok value ↔ result = .ok value := by
  cases result with
  | error cause => exact ⟨fun same => (by cases same), fun same => (by cases same)⟩
  | ok found => exact ⟨fun same => (by cases same; rfl), fun same => (by cases same; rfl)⟩

/-- A result or an error, and what was logged on the way. -/
structure Traced (ε α : Type) where
  result : Except ε α
  log : Log

namespace Traced

variable {ε α β : Type}

/-- A result without any message. -/
def ofExcept (result : Except ε α) : Traced ε α := ⟨result, []⟩

/-- An error without any message. -/
def fail (error : ε) : Traced ε α := ⟨.error error, []⟩

/-- Logs one message. -/
def say (level : Level) (text : String) : Traced ε Unit := ⟨.ok (), [⟨level, text⟩]⟩

/-- Continues with the result, unless there is none. -/
def andThen (first : Traced ε α) (next : α → Traced ε β) : Traced ε β :=
  match first.result with
  | .ok value => ⟨(next value).result, first.log ++ (next value).log⟩
  | .error error => ⟨.error error, first.log⟩

instance : Monad (Traced ε) where
  pure value := ⟨.ok value, []⟩
  bind := andThen

@[simp] theorem result_pure (value : α) : (pure value : Traced ε α).result = .ok value := rfl

@[simp] theorem log_pure (value : α) : (pure value : Traced ε α).log = [] := rfl

theorem result_bind (first : Traced ε α) (next : α → Traced ε β) :
    (first >>= next).result = first.result.bind fun value => (next value).result := by
  show (andThen first next).result = _
  unfold andThen
  cases first.result <;> rfl

/-- Two steps succeed together if each does, the second from what the first gave. -/
theorem result_bind_eq_ok {first : Traced ε α} {next : α → Traced ε β} {value : β} :
    (first >>= next).result = .ok value ↔
      ∃ given, first.result = .ok given ∧ (next given).result = .ok value := by
  rw [result_bind]
  cases first.result <;> simp [Except.bind]

/-- A message leaves no trace in the result. -/
@[simp] theorem result_say_bind (level : Level) (text : String) (next : Unit → Traced ε β) :
    (say level text >>= next).result = (next ()).result :=
  result_bind _ _

/-- Changes the error of a result. -/
def mapError {ε' : Type} (f : ε → ε') (traced : Traced ε α) : Traced ε' α :=
  ⟨traced.result.mapError f, traced.log⟩

theorem result_mapError_eq_ok {ε' : Type} {f : ε → ε'} {traced : Traced ε α} {value : α} :
    (traced.mapError f).result = .ok value ↔ traced.result = .ok value :=
  mapError_eq_ok

theorem log_ofExcept (result : Except ε α) : (ofExcept result).log = [] := rfl

theorem log_mapError {ε' : Type} (f : ε → ε') (traced : Traced ε α) :
    (traced.mapError f).log = traced.log := rfl

theorem log_bind_of_ok {first : Traced ε α} {next : α → Traced ε β} {value : α}
    (given : first.result = .ok value) : (first >>= next).log = first.log ++ (next value).log := by
  show (andThen first next).log = _
  rw [andThen, given]

/-- A message comes before what is logged after it. -/
theorem log_say_bind (level : Level) (text : String) (next : Unit → Traced ε β) :
    (say level text >>= next).log = ⟨level, text⟩ :: (next ()).log :=
  log_bind_of_ok rfl

end Traced

end PacketProtection
