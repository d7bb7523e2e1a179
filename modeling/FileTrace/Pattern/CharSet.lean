import FileTrace.Pattern.Tree

namespace FileTrace.Pattern

inductive CharSet where
  | none
  | range (first last : Char)
  | union (a b : CharSet)
  | combined (operation : SetOperation) (a b : CharSet)
  | complement (a : CharSet)
  | anyCase (a : CharSet)
  deriving DecidableEq, Repr

namespace CharSet

def otherCase (c : Char) : Char :=
  if c.isUpper then c.toLower else c.toUpper

def SetOperation.apply (a b : Bool) : SetOperation → Bool
  | .intersection => a && b
  | .difference => a && !b
  | .symmetricDifference => a != b

def holds (c : Char) : CharSet → Bool
  | none => false
  | range first last => first ≤ c && c ≤ last
  | union a b => a.holds c || b.holds c
  | combined operation a b => SetOperation.apply (a.holds c) (b.holds c) operation
  | complement a => !a.holds c
  | anyCase a => a.holds c || a.holds (otherCase c)

def isAscii : CharSet → Bool
  | none => true
  | range _ last => last < '\x80'
  | union a b => a.isAscii && b.isAscii
  | combined _ a b => a.isAscii && b.isAscii
  | complement _ => false
  | anyCase a => a.isAscii

def rangeCount : CharSet → Nat
  | none => 0
  | range _ _ => 1
  | union a b => a.rangeCount + b.rangeCount
  | combined _ a b => a.rangeCount + b.rangeCount
  | complement a => a.rangeCount + 1
  | anyCase a => 2 * a.rangeCount

def room (s : CharSet) : Nat :=
  match s with
  | range first last => if first = last then 32 * first.utf8Size else wide
  | _ => wide
where
  wide : Nat :=
    if s.isAscii then (if s.rangeCount ≤ 1 then 32 else 32 + 8 * s.rangeCount) else 424

def single (c : Char) : CharSet := range c c

def ofRanges : List (Char × Char) → CharSet
  | [] => none
  | (first, last) :: rest => union (range first last) (ofRanges rest)

end CharSet

def NamedSet.ranges : NamedSet → List (Char × Char)
  | .alnum => [('0', '9'), ('A', 'Z'), ('a', 'z')]
  | .alpha => [('A', 'Z'), ('a', 'z')]
  | .ascii => [('\x00', '\x7f')]
  | .blank => [('\t', '\t'), (' ', ' ')]
  | .cntrl => [('\x00', '\x1f'), ('\x7f', '\x7f')]
  | .digit => [('0', '9')]
  | .graph => [('!', '~')]
  | .lower => [('a', 'z')]
  | .print => [(' ', '~')]
  | .punct => [('!', '/'), (':', '@'), ('[', '\x60'), ('\x7b', '~')]
  | .space => [('\t', '\r'), (' ', ' ')]
  | .upper => [('A', 'Z')]
  | .word => [('0', '9'), ('A', 'Z'), ('_', '_'), ('a', 'z')]
  | .xdigit => [('0', '9'), ('A', 'F'), ('a', 'f')]

def NamedSet.chars (name : NamedSet) : CharSet := .ofRanges name.ranges

end FileTrace.Pattern
