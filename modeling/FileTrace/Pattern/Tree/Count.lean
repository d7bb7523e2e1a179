import FileTrace.Pattern.Tree
import FileTrace.Text.Numeral

namespace FileTrace.Pattern.Count

structure Range where
  least : Nat
  most : Option Nat
  deriving DecidableEq, Repr

def Range.isValid (r : Range) : Bool :=
  match r.most with
  | none => true
  | some most => r.least ≤ most

def readNumber (spaced : Bool) (c : Cursor) : Except Fault Nat × Cursor :=
  let start := (c.gather false Text.isBlank).2
  let (digits, behind) := start.gather spaced (·.isDigit)
  let last := (behind.gather spaced Text.isBlank).2
  match Numeral.read Numeral.word32 digits with
  | .ok n => (.ok n, last)
  | .error .empty => (fail .countEmpty (start.upTo behind), last)
  | .error _ => (fail .decimalInvalid (start.upTo behind), last)

def close (spaced : Bool) (start c : Cursor) (r : Range) : Except Fault (Range × Cursor) :=
  if c.head? = some '\x7d' then
    let behind := c.advance spaced
    let last := if behind.head? = some '?' then behind.next else behind
    if r.isValid then .ok (r, last) else fail .countInvalid (start.upTo last)
  else fail .countUnclosed (start.upTo c)

def readMost (spaced : Bool) (start c : Cursor) (least : Except Fault Nat) :
    Except Fault (Range × Cursor) :=
  match c.head?, least with
  | none, _ => fail .countUnclosed (start.upTo c)
  | _, .error e => .error e
  | some '\x7d', .ok least => close spaced start c ⟨least, none⟩
  | some _, .ok least =>
    match readNumber spaced c with
    | (.error e, _) => .error e
    | (.ok most, last) => close spaced start last ⟨least, some most⟩

def read (spaced : Bool) (start : Cursor) : Except Fault (Range × Cursor) :=
  let c := start.advance spaced
  if c.atEnd then fail .countUnclosed (start.upTo c)
  else
    let (least, behind) := readNumber spaced c
    match behind.head?, least with
    | none, _ => fail .countUnclosed (start.upTo behind)
    | some ',', _ => readMost spaced start (behind.advance spaced) least
    | some _, .error e => .error e
    | some _, .ok n => close spaced start behind ⟨n, some n⟩

end FileTrace.Pattern.Count
