import FileTrace.Record

namespace FileTrace.TypeInformation

inductive Fault where
  | header
  | types
  | kind (number : Nat)
  deriving DecidableEq, Repr

def Fault.message : Fault → String
  | .header => "error parsing BTF header"
  | .types => "invalid BTF type info segment"
  | .kind number => "invalid BTF type kind \x60" ++ toString number ++ "\x60"

def headerSize : Nat := 24

def word (offset : Nat) (raw : List UInt8) : Nat :=
  Record.littleEndian (Record.slice offset 4 raw)

def typeSize : Nat := 12

def lastKind : Nat := 19

def extraSize (kind count : Nat) : Nat :=
  match kind with
  | 1 => 4
  | 3 => 12
  | 4 => 12 * count
  | 5 => 12 * count
  | 6 => 8 * count
  | 13 => 8 * count
  | 14 => 4
  | 15 => 12 * count
  | 17 => 4
  | 19 => 12 * count
  | _ => 0

/-- Goes through types. A type takes twelve bytes at least, so that `n` rounds are enough for `n`
bytes. -/
def typesFault? : Nat → List UInt8 → Option Fault
  | 0, _ => none
  | n + 1, raw =>
    if raw.isEmpty then none
    else if raw.length < typeSize then some .types
    else
      let info := word 4 raw
      let kind := info / 0x1000000 % 32
      let size := typeSize + extraSize kind (info % 0x10000)
      if lastKind < kind then some (.kind kind)
      else if raw.length < size then some .types
      else typesFault? n (raw.drop size)

def fault? (raw : List UInt8) : Option Fault :=
  let types := word 4 raw + word 8 raw
  let names := word 4 raw + word 16 raw
  if raw.length < headerSize || raw.length < names + word 20 raw then some .header
  else if raw.length < types + word 12 raw then some .types
  else typesFault? raw.length (Record.slice types (word 12 raw) raw)

end FileTrace.TypeInformation
