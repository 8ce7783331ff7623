import PacketProtection.Bytes

/-!
# Programs and their surroundings

A program reads and writes files, draws random bytes and prints.  Here it is
data: a tree with one node for each of these acts, whose branches are the
answers that the surroundings may give.  So a program can be reasoned about
without running it, and run in any surroundings: on a real system, or over a
directory that is a value.

*Surroundings.*  A record of what each act does in a monad.  `Process.run` is the
only interpreter; it performs the acts in order.
-/

namespace PacketProtection

/-- Why a file could not be read or written. -/
inductive FileFault where
  | notFound
  | notADirectory
  | isADirectory
  | nameTooLong
  | noSpace
  | other (text : String)
deriving DecidableEq, Repr

/-- The fault of a system's error number and text. -/
def FileFault.ofCode (code : Nat) (text : String) : FileFault :=
  if code = 2 then .notFound
  else if code = 20 then .notADirectory
  else if code = 21 then .isADirectory
  else if code = 36 then .nameTooLong
  else if code = 28 then .noSpace
  else .other s!"{text} (os error {code})"

/-- What is said about a fault. -/
def FileFault.message : FileFault → String
  | .notFound => "No such file or directory (os error 2)"
  | .notADirectory => "Not a directory (os error 20)"
  | .isADirectory => "Is a directory (os error 21)"
  | .nameTooLong => "File name too long (os error 36)"
  | .noSpace => "No space left on device (os error 28)"
  | .other text => text

/-- A program that ends with a value. -/
inductive Process (α : Type) : Type where
  | done (value : α)
  | readFile (path : String) (next : Except FileFault Bytes → Process α)
  | writeFile (path : String) (contents : Bytes) (next : Except FileFault Unit → Process α)
  | isDirectory (path : String) (next : Bool → Process α)
  | random (count : Nat) (next : Octets count → Process α)
  /-- Prints results. -/
  | print (text : String) (next : Process α)
  /-- Prints a text for whoever runs the program, maybe behind the time. -/
  | report (timed : Bool) (text : String) (next : Process α)

namespace Process

variable {α β : Type}

/-- Goes on with the value of a program. -/
def andThen : Process α → (α → Process β) → Process β
  | .done value, f => f value
  | .readFile path next, f => .readFile path fun answer => (next answer).andThen f
  | .writeFile path contents next, f =>
      .writeFile path contents fun answer => (next answer).andThen f
  | .isDirectory path next, f => .isDirectory path fun answer => (next answer).andThen f
  | .random count next, f => .random count fun answer => (next answer).andThen f
  | .print text next, f => .print text (next.andThen f)
  | .report timed text next, f => .report timed text (next.andThen f)

instance : Monad Process where
  pure := .done
  bind := andThen

theorem pure_bind (value : α) (f : α → Process β) : (pure value : Process α) >>= f = f value := rfl

theorem bind_pure (program : Process α) : program >>= pure = program := by
  show program.andThen .done = program
  induction program with
  | done value => rfl
  | readFile path next ih => exact congrArg (Process.readFile path) (funext ih)
  | writeFile path contents next ih =>
      exact congrArg (Process.writeFile path contents) (funext ih)
  | isDirectory path next ih => exact congrArg (Process.isDirectory path) (funext ih)
  | random count next ih => exact congrArg (Process.random count) (funext ih)
  | print text next ih => exact congrArg (Process.print text) ih
  | report timed text next ih => exact congrArg (Process.report timed text) ih

/-! ## Running -/

/-- What each act does. -/
structure Surroundings (m : Type → Type) where
  readFile : String → m (Except FileFault Bytes)
  writeFile : String → Bytes → m (Except FileFault Unit)
  isDirectory : String → m Bool
  random : (count : Nat) → m (Octets count)
  print : String → m Unit
  report : Bool → String → m Unit

/-- Runs a program. -/
def run {m : Type → Type} [Monad m] (surroundings : Surroundings m) : Process α → m α
  | .done value => pure value
  | .readFile path next => do
      let answer ← surroundings.readFile path
      (next answer).run surroundings
  | .writeFile path contents next => do
      let answer ← surroundings.writeFile path contents
      (next answer).run surroundings
  | .isDirectory path next => do
      let answer ← surroundings.isDirectory path
      (next answer).run surroundings
  | .random count next => do
      let answer ← surroundings.random count
      (next answer).run surroundings
  | .print text next => do
      surroundings.print text
      next.run surroundings
  | .report timed text next => do
      surroundings.report timed text
      next.run surroundings

end Process

end PacketProtection
