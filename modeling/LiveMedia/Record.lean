import LiveMedia.Bytes
import LiveMedia.Error

set_option autoImplicit false

/-!
# Decoder configuration records

A configuration record is read from front to back. Parameter sets stand in it behind a two-byte
length; bytes behind the last field are allowed and ignored.

## Main definitions

* `LiveMedia.Record.Reader` — reads the front of a record and leaves the rest.
* `LiveMedia.Record.sized` — a byte string behind its length.
* `LiveMedia.Record.times` — a given number of items.
-/

namespace LiveMedia.Record

/-- Reads the front of a record and leaves the rest. -/
abbrev Reader (α : Type) := StateT Bytes (Except MediaError) α

/-- The next `n` bytes; `short` if there are fewer. -/
def take (n : Nat) (short : MediaError) : Reader Bytes := fun data =>
  if data.length < n then .error short else .ok (data.take n, data.drop n)

/-- A big-endian number of `width` bytes. -/
def number (width : Nat) : Reader Nat := do
  let field ← take width .truncated
  pure (Bytes.toNatBE field)

/-- A byte string behind its length, a number of two bytes. -/
def sized (tooLong : Defect) : Reader Bytes := do
  let length ← number 2
  take length (.invalid tooLong)

/-- The next `n` items. -/
def times {α : Type} (item : Reader α) : (n : Nat) → Reader (List α)
  | 0 => pure []
  | n + 1 => do
    let x ← item
    let xs ← times item n
    pure (x :: xs)

end LiveMedia.Record
