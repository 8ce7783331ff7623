import Mathlib.Data.List.TakeWhile
import PacketProtection.Proofs.Yaml.PlainWord

/-!
# Steps of the lexer

What a lexer hands out is said step by step (`Lexes`): tokens, a bound for the number of
steps, and the lexer that goes on.  Where the tokens stand in the text is left out.

*Fetching.*  Behind the blanks the lexer reads on (`fetch_of_ready`), and what it has read
is handed out at once if no key is pending (`lexes_fetched`).  A pending key holds back its
own token and all behind it, but none in front of it (`lexes_queue`, `lexes_held`).

*Indentation.*  The collections around a place are given by their columns, innermost
first (`around`).  All that are further right than a column are closed there
(`closeFrom_around`).
-/

namespace PacketProtection.Yaml.Lexer

/-! ## Handing out tokens -/

/-- A lexer hands out tokens in at most a number of steps, and goes on as another one. -/
def Lexes (lexer : Lexer) (tokens : List Token) (budget : Nat) (next : Lexer) : Prop :=
  ∃ steps ≤ budget, ∃ placed : List (Placed Token), placed.map (·.content) = tokens ∧
    ∀ fuel, run (fuel + steps) lexer = placed ++ run fuel next

section Lexes

variable {lexer middle next : Lexer} {tokens others : List Token} {budget more : Nat}

theorem Lexes.trans (first : Lexes lexer tokens budget middle)
    (second : Lexes middle others more next) :
    Lexes lexer (tokens ++ others) (budget + more) next := by
  obtain ⟨steps, within, placed, rfl, runs⟩ := first
  obtain ⟨stepsMore, withinMore, placedMore, rfl, runsMore⟩ := second
  refine ⟨steps + stepsMore, Nat.add_le_add within withinMore, placed ++ placedMore,
    List.map_append, fun fuel => ?_⟩
  rw [Nat.add_comm steps, ← Nat.add_assoc, runs, runsMore, List.append_assoc]

theorem Lexes.mono (lexes : Lexes lexer tokens budget next) (enough : budget ≤ more) :
    Lexes lexer tokens more next := by
  obtain ⟨steps, within, found⟩ := lexes
  exact ⟨steps, Nat.le_trans within enough, found⟩

/-- The colon of every pending key can still come. -/
def Fresh (lexer : Lexer) : Prop :=
  ∀ key, some key ∈ lexer.keys → isStale lexer.cursor key = false

theorem Fresh.dropStaleKeys (fresh : lexer.Fresh) : lexer.dropStaleKeys = some lexer := by
  have none : (lexer.keys.any fun key => key.any (isStale lexer.cursor)) = false := by
    rw [List.any_eq_false]
    rintro (- | key) member
    · exact Bool.false_ne_true
    · rw [Option.any_some, fresh key member]
      exact Bool.false_ne_true
  rw [Lexer.dropStaleKeys]
  exact if_pos (by rw [none]; rfl)

theorem fresh_of_none (keys : lexer.keys = [none]) : lexer.Fresh := fun key member => by
  simp [keys] at member

/-- A lexer that has nothing to hand out reads on. -/
theorem lexes_fetch (empty : lexer.queue = []) (unended : lexer.ended = false)
    (fetched : lexer.fetch = some next) : Lexes lexer [] 1 next := by
  refine ⟨1, Nat.le_refl 1, [], rfl, fun fuel => ?_⟩
  rw [run, empty, unended]
  simp only [fetched]
  rfl

/-- A token that is held back makes the lexer read on. -/
theorem lexes_held (fresh : lexer.Fresh) (waiting : lexer.queue ≠ [])
    (held : lexer.isHeldBack = true) (fetched : lexer.fetch = some next) :
    Lexes lexer [] 1 next := by
  obtain ⟨token, queue, queued⟩ := List.exists_cons_of_ne_nil waiting
  refine ⟨1, Nat.le_refl 1, [], rfl, fun fuel => ?_⟩
  rw [run, queued]
  simp only [fresh.dropStaleKeys, held, fetched]
  rfl

/-- Tokens in front of all pending keys are handed out. -/
theorem lexes_queue (front back : List (Placed Token)) (fresh : lexer.Fresh)
    (queued : lexer.queue = front ++ back)
    (behind : ∀ key, some key ∈ lexer.keys → lexer.handedOut + front.length ≤ key.number) :
    Lexes lexer (front.map (·.content)) front.length
      { lexer with queue := back, handedOut := lexer.handedOut + front.length } := by
  refine ⟨front.length, Nat.le_refl _, front, rfl, fun fuel => ?_⟩
  -- No pending key has the number of a token in front, and handing one out keeps it so.
  induction front generalizing lexer with
  | nil =>
      obtain rfl := queued
      rfl
  | cons token front ih =>
      have free : lexer.isHeldBack = false := by
        rw [isHeldBack, List.any_eq_false]
        rintro (- | key) member
        · exact Bool.false_ne_true
        · have later := behind key member
          rw [List.length_cons] at later
          simp only [Option.any_some, decide_eq_true_eq]
          omega
      have step : run (fuel + front.length + 1) lexer = token ::
          run (fuel + front.length)
            { lexer with queue := front ++ back, handedOut := lexer.handedOut + 1 } := by
        rw [run, queued]
        simp only [List.cons_append, fresh.dropStaleKeys, free]
        rfl
      have rest := @ih
        { lexer with queue := front ++ back, handedOut := lexer.handedOut + 1 } fresh rfl
        fun key member => by
          have later := behind key member
          rw [List.length_cons] at later
          show lexer.handedOut + 1 + front.length ≤ key.number
          omega
      rw [List.length_cons, ← Nat.add_assoc, step, rest]
      simp only [Nat.add_assoc, Nat.add_comm 1]
      rfl

/-- Without a pending key all tokens are handed out. -/
theorem lexes_all (keys : lexer.keys = [none]) :
    Lexes lexer (lexer.queue.map (·.content)) lexer.queue.length
      { lexer with queue := [], handedOut := lexer.handedOut + lexer.queue.length } :=
  lexes_queue lexer.queue [] (fresh_of_none keys) (List.append_nil _).symm fun key member => by
    simp [keys] at member

/-- A lexer that has nothing to hand out reads on, and hands out what it has read. -/
theorem lexes_fetched (empty : lexer.queue = []) (unended : lexer.ended = false)
    (fetched : lexer.fetch = some next) (keys : next.keys = [none]) :
    Lexes lexer (next.queue.map (·.content)) (1 + next.queue.length)
      { next with queue := [], handedOut := next.handedOut + next.queue.length } :=
  (lexes_fetch empty unended fetched).trans (lexes_all keys)

end Lexes

/-! ## Indentation -/

/-- What is around each of some columns, innermost first. -/
def around : (columns : List Nat) → List (Option Nat)
  | [] => []
  | _ :: columns => columns.head? :: around columns

/-- A lexer inside block mappings, the innermost first, that has handed out a number of
tokens and waits for none. -/
def inside (columns : List Nat) (cursor : Cursor) (keyAllowed : Bool) (count : Nat) : Lexer where
  cursor
  indent := columns.head?
  outer := around columns
  keyAllowed
  handedOut := count

/-- A column is to the right of a place, or there is no such place. -/
def isRightOf (place : Option Nat) (column : Nat) : Bool :=
  place.all fun place => place < column

section Indentation

variable {lexer : Lexer}

/-- One collection is closed at a time. -/
theorem closeFrom_cons {column : Nat} {next : Option Nat} {outer : List (Option Nat)}
    (place : Option Nat) (indent : lexer.indent = some column) :
    closeFrom place (next :: outer) lexer =
      if isRightOf place column then
        closeFrom place outer { lexer.push .blockEnd with indent := next, outer }
      else lexer := by
  cases place <;> simp [closeFrom, indent, isRightOf]

/-- All collections to the right of a place are closed there. -/
theorem closeFrom_around (columns : List Nat) (place : Option Nat)
    (indent : lexer.indent = columns.head?) (outer : lexer.outer = around columns) :
    closeFrom place (around columns) lexer =
      { lexer with
        indent := (columns.dropWhile (isRightOf place)).head?
        outer := around (columns.dropWhile (isRightOf place))
        queue := lexer.queue ++ List.replicate (columns.takeWhile (isRightOf place)).length
          ⟨.blockEnd, lexer.cursor.toPlace⟩ } := by
  induction columns generalizing lexer with
  | nil =>
      rw [around, closeFrom]
      cases lexer
      simp_all [around]
  | cons column columns ih =>
      rw [around, closeFrom_cons place indent]
      by_cases right : isRightOf place column = true
      · rw [if_pos right, ih rfl rfl, List.dropWhile_cons_of_pos right,
          List.takeWhile_cons_of_pos right]
        simp [push, List.replicate_succ]
      · rw [if_neg right, List.dropWhile_cons_of_neg right, List.takeWhile_cons_of_neg right]
        cases lexer
        simp_all

/-- Nothing is closed where the innermost collection starts further left. -/
theorem closeTo_of_le (columns : List Nat) {place : Nat} (indent : lexer.indent = columns.head?)
    (outer : lexer.outer = around columns) (left : ∀ column ∈ columns.head?, column ≤ place) :
    lexer.closeTo (some place) = lexer := by
  rw [closeTo, outer]
  split
  · cases columns with
    | nil => rfl
    | cons column columns =>
        rw [around, closeFrom_cons _ indent, if_neg]
        simpa [isRightOf] using left column rfl
  · rfl

/-- At the end of a text all collections are closed. -/
theorem fetchEnd_around (columns : List Nat) (indent : lexer.indent = columns.head?)
    (outer : lexer.outer = around columns) (block : lexer.depth = 0)
    (keys : lexer.keys = [none]) (start : lexer.cursor.column = 0) :
    lexer.fetchEnd = some
      { lexer with
        indent := none
        outer := []
        keyAllowed := false
        queue := lexer.queue ++ List.replicate columns.length ⟨.blockEnd, lexer.cursor.toPlace⟩ ++
          [⟨.streamEnd, lexer.cursor.toPlace⟩]
        ended := true } := by
  have right : ∀ column ∈ columns, isRightOf none column = true := fun _ _ => rfl
  have closed : lexer.closeTo none =
      { lexer with
        indent := none
        outer := []
        queue := lexer.queue ++
          List.replicate columns.length ⟨.blockEnd, lexer.cursor.toPlace⟩ } := by
    have closed := closeFrom_around columns none indent outer
    rw [List.takeWhile_eq_self_iff.mpr right, List.dropWhile_eq_nil_iff.mpr right] at closed
    rw [closeTo, if_pos block, outer, closed]
    rfl
  have document : lexer.closeDocument = some
      { lexer with
        indent := none
        outer := []
        keyAllowed := false
        queue := lexer.queue ++
          List.replicate columns.length ⟨.blockEnd, lexer.cursor.toPlace⟩ } := by
    simp only [closeDocument, closed, dropKey, keys]
    rfl
  simp only [fetchEnd, document, Option.bind_eq_bind, Option.bind_some, push, start, if_true]
  rfl

end Indentation

/-! ## Fetching -/

section Fetching

variable {lexer ready : Lexer}

/-- Behind the blanks the next token is read from its first character. -/
theorem fetch_of_ready {c : Char} {rest : List Char}
    (passed : skipBlanks lexer.cursor.bound lexer = ready) (fresh : ready.Fresh)
    (ahead : ready.cursor.rest = c :: rest) :
    lexer.fetch = (ready.closeTo (some ready.cursor.column)).fetchFrom c rest := by
  simp only [fetch, passed, fresh.dropStaleKeys, Option.bind_eq_bind, Option.bind_some, ahead]

/-- The pending key that a token at the cursor becomes. -/
def keyHere (lexer : Lexer) : PendingKey where
  required := lexer.depth = 0 && lexer.indent = some lexer.cursor.column
  number := lexer.handedOut + lexer.queue.length
  place := lexer.cursor.toPlace
  offset := lexer.cursor.offset

/-- Where a key may start, a word becomes a pending key. -/
theorem fetchPlain_of_keyAllowed {text : List Char} {crossed : Bool} {next : Cursor}
    (allowed : lexer.keyAllowed = true) (keys : lexer.keys = [none])
    (read : ∀ indent, plainScalar (lexer.depth ≠ 0) indent lexer.cursor =
      some (text, crossed, next)) :
    lexer.fetchPlain = some
      { lexer with
        cursor := next
        keyAllowed := crossed
        keys := [some lexer.keyHere]
        queue := lexer.queue ++
          [⟨.scalar (String.ofList text) .plain, lexer.cursor.toPlace⟩] } := by
  have saved : lexer.saveKey = some { lexer with keys := [some lexer.keyHere] } := by
    cases lexer
    cases allowed
    cases keys
    rfl
  simp only [fetchPlain, saved, read, Option.bind_eq_bind, Option.bind_some]
  rfl

/-- Elsewhere a word is a value. -/
theorem fetchPlain_of_not_keyAllowed {text : List Char} {crossed : Bool} {next : Cursor}
    (allowed : lexer.keyAllowed = false)
    (read : plainScalar (lexer.depth ≠ 0) ((lexer.indent.map (· + 1)).getD 0) lexer.cursor =
      some (text, crossed, next)) :
    lexer.fetchPlain = some
      { lexer with
        cursor := next
        keyAllowed := crossed
        queue := lexer.queue ++
          [⟨.scalar (String.ofList text) .plain, lexer.cursor.toPlace⟩] } := by
  simp only [fetchPlain, saveKey, allowed, Bool.false_eq_true, if_false, Option.bind_eq_bind,
    Option.bind_some, read]
  rfl

/-- A colon makes the pending key a key.  A mapping starts there if the key is further right
than the innermost collection. -/
theorem fetchValue_of_key (key : PendingKey) (keys : lexer.keys = [some key])
    (block : lexer.depth = 0) (number : key.number = lexer.handedOut) :
    lexer.fetchValue = some
      { lexer with
        cursor := lexer.cursor.skip 1
        indent :=
          if isDeeper lexer.indent key.place.column then some key.place.column else lexer.indent
        outer :=
          if isDeeper lexer.indent key.place.column then lexer.indent :: lexer.outer
          else lexer.outer
        keyAllowed := false
        keys := [none]
        queue :=
          (if isDeeper lexer.indent key.place.column then [⟨.blockMappingStart, key.place⟩]
            else []) ++
          ⟨.key, key.place⟩ :: lexer.queue ++ [⟨.value, lexer.cursor.toPlace⟩] } := by
  cases deeper : isDeeper lexer.indent key.place.column <;>
    simp [fetchValue, keys, insert, openAt, pushSkip, push, number, block, deeper]

end Fetching

/-! ## Blanks -/

section Blanks

variable {lexer : Lexer} {cursor : Cursor} {rest : List Char} {count : Nat}

/-- Of spaces in front of something that is no blank, all are passed over. -/
theorem skip_spaces (ahead : cursor.rest = List.replicate count ' ' ++ rest)
    (stops : ∀ c ∈ rest.head?, isBlank c = false ∧ c ≠ '#' ∧ c ≠ orderMark) (tabs : Bool) :
    (cursor.skipOrderMark.skipWhile fun c => c = ' ' || (tabs && c = '\t')).skipComment =
      cursor.pass (List.replicate count ' ') rest := by
  have noMark : cursor.skipOrderMark = cursor := by
    have other : cursor.rest.head? ≠ some orderMark := by
      intro mark
      rw [ahead] at mark
      cases count with
      | zero => exact (stops _ mark).2.2 rfl
      | succ count => exact absurd (Option.some.inj mark) (by decide)
    exact if_neg (by simp [other])
  have passed : (cursor.skipWhile fun c => c = ' ' || (tabs && c = '\t')) =
      cursor.pass (List.replicate count ' ') rest := by
    refine Cursor.skipWhile_of_append ahead (fun c member => ?_) fun c first => ?_
    · simp [List.eq_of_mem_replicate member]
    · have notBlank := (stops c first).1
      simp only [isBlank, Bool.or_eq_false_iff, decide_eq_false_iff_not] at notBlank
      simp [notBlank]
  rw [noMark, passed, Cursor.skipComment]
  split
  · next behind comment => exact absurd rfl (stops '#' (congrArg List.head? comment)).2.1
  · rfl

/-- The spaces in front of a word are passed over. -/
theorem skipBlanks_spaces (ahead : lexer.cursor.rest = List.replicate count ' ' ++ rest)
    (starts : StartsWord rest) (fuel : Nat) :
    skipBlanks (fuel + 1) lexer =
      { lexer with cursor := lexer.cursor.pass (List.replicate count ' ') rest } := by
  have passed := skip_spaces ahead fun c first =>
    have free := stays_of_word c (starts c first)
    ⟨free.1, free.2.2⟩
  rw [skipBlanks]
  simp only [passed, Cursor.rest_pass]
  cases rest with
  | nil => rfl
  | cons c rest => simp only [(stays_of_word c (starts c rfl)).2.1, Bool.false_eq_true, if_false]

/-- In front of a word there is nothing to be passed over. -/
theorem skipBlanks_word (starts : StartsWord lexer.cursor.rest) (fuel : Nat) :
    skipBlanks (fuel + 1) lexer = lexer := by
  have none : lexer.cursor.rest = List.replicate 0 ' ' ++ lexer.cursor.rest := rfl
  exact skipBlanks_spaces none starts fuel

/-- After a break a key may start. -/
theorem skipBlanks_lineFeed
    (ahead : lexer.cursor.rest = '\n' :: (List.replicate count ' ' ++ rest))
    (block : lexer.depth = 0) (starts : StartsWord rest) (fuel : Nat) :
    ∃ next, skipBlanks (fuel + 2) lexer = { lexer with cursor := next, keyAllowed := true } ∧
      next.At count rest ∧ next.bound = lexer.cursor.bound := by
  have broken := Cursor.takeBreak_lineFeed ahead
  have passed (tabs : Bool) :
      (lexer.cursor.skipOrderMark.skipWhile fun c => c = ' ' || (tabs && c = '\t')).skipComment =
        lexer.cursor := by
    have none : lexer.cursor.rest = List.replicate 0 ' ' ++ lexer.cursor.rest := rfl
    refine skip_spaces none (fun c first => ?_) tabs
    rw [ahead] at first
    obtain rfl := Option.some.inj first
    decide
  refine ⟨lexer.cursor.takeBreak.2.pass (List.replicate count ' ') rest, ?_, ⟨?_, rfl⟩, ?_⟩
  · have below : lexer.cursor.takeBreak.2.rest = List.replicate count ' ' ++ rest := by
      rw [broken]
    have feed : isBreak '\n' = true := rfl
    have below := @skipBlanks_spaces
      { lexer with cursor := lexer.cursor.takeBreak.2, keyAllowed := true } rest count below starts
    rw [skipBlanks]
    simp only [passed, ahead, decide_eq_true block, Bool.or_true, feed, if_true]
    exact below fuel
  · rw [broken, Cursor.column_pass, List.length_replicate, Nat.zero_add]
  · rw [broken]
    rfl

end Blanks

end PacketProtection.Yaml.Lexer
