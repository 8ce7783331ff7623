/-!
# Transform errors

What a transform reports to the pipeline that runs it.  A failed integrity
check is none of these: it is a verdict, carried by the packet metadata (ESP)
or by a validity flag (MACsec), and the pipeline decides what becomes of the
packet.

An error is *malformed* when the frame itself cannot be decoded.  Such packets
have to be dropped; the other errors tell of a pipeline that hands over fields
of the wrong shape.
-/

namespace PacketProtection

/-- Why a transform did not take place. -/
inductive TransformError where
  /-- A part of a frame needs more bytes than there are. -/
  | truncated (part : String) (needed available : Nat)
  /-- The pad length of an ESP trailer exceeds what precedes the trailer. -/
  | badPadding (padLength available : Nat)
  /-- A host has no field of this name. -/
  | unknownField (name : String)
  /-- A field value has the wrong number of bytes. -/
  | fieldWidth (name : String) (expected got : Nat)
  /-- A value needs more bits than the field has. -/
  | fieldOverflow (name : String) (bits : Nat)
  /-- A part of a frame came out with the wrong length. -/
  | lengthMismatch (part : String) (expected got : Nat)
  /-- A cryptographic primitive or the random source failed. -/
  | crypto (what : String)
deriving DecidableEq, Repr

namespace TransformError

/-- The text of an error. -/
def message : TransformError → String
  | .truncated part needed available =>
      s!"malformed frame: {part} needs {needed} bytes, {available} available"
  | .badPadding padLength available =>
      s!"malformed frame: pad length {padLength} exceeds the {available} decrypted bytes"
  | .unknownField name => s!"unknown header field ({name})"
  | .fieldWidth name expected got =>
      s!"header field {name} is {expected} bytes wide, got {got}"
  | .fieldOverflow name bits =>
      s!"value does not fit in the {bits} bits of header field {name}"
  | .lengthMismatch part expected got => s!"{part}: expected {expected} bytes, got {got}"
  | .crypto what => s!"cryptographic primitive failure: {what}"

/-- Is the frame itself undecodable, so that the packet must be dropped? -/
def isMalformed : TransformError → Bool
  | .truncated .. | .badPadding .. => true
  | _ => false

/-- Ensures that a part of a frame has the bytes it needs. -/
def require (part : String) (needed available : Nat) : Except TransformError Unit :=
  if available < needed then .error (.truncated part needed available) else .ok ()

theorem require_of_le {needed available : Nat} (enough : needed ≤ available) (part : String) :
    require part needed available = .ok () :=
  if_neg (Nat.not_lt.mpr enough)

theorem require_of_lt {needed available : Nat} (short : available < needed) (part : String) :
    require part needed available = .error (.truncated part needed available) :=
  if_pos short

/-- What is missing is missing in the frame. -/
theorem require_error {part : String} {needed available : Nat} {cause : TransformError}
    (failed : require part needed available = .error cause) : cause.isMalformed = true := by
  unfold require at failed
  split at failed
  · cases failed
    rfl
  · cases failed

theorem require_eq_ok {part : String} {needed available : Nat} :
    require part needed available = .ok () ↔ needed ≤ available := by
  constructor
  · intro done
    apply Nat.le_of_not_lt
    intro short
    cases done.symm.trans (require_of_lt short part)
  · intro enough
    exact require_of_le enough part

/-- Ensures that a part of a frame came out with its length. -/
def requireLength (part : String) (expected got : Nat) : Except TransformError Unit :=
  if got = expected then .ok () else .error (.lengthMismatch part expected got)

theorem requireLength_of_eq {expected got : Nat} (same : got = expected) (part : String) :
    requireLength part expected got = .ok () :=
  if_pos same

end TransformError

end PacketProtection
