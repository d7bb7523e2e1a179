import FileTrace.Pattern.Tree.Escape

namespace FileTrace.Pattern

structure Bracket where
  span : Span
  negated : Bool
  left : Option (SetOperation × Members)
  members : Members
  deriving DecidableEq, Repr

namespace Bracket

def all (b : Bracket) : Members :=
  match b.left with
  | none => b.members
  | some (operation, left) => .combined operation left b.members

def push (m : Members) (b : Bracket) : Bracket := { b with members := b.members.push m }

def combine (operation : SetOperation) (c : Cursor) (b : Bracket) : Bracket :=
  { b with left := some (operation, b.all), members := .nothing c.place }

def hyphens (spaced : Bool) (start : Cursor) : Nat → Cursor → Members →
    Except Fault (Members × Cursor)
  | 0, c, m => .ok (m, c)
  | n + 1, c, m =>
    if c.head? = some '-' then
      let last := c.advance spaced
      if last.atEnd then fail .classUnclosed start.here
      else hyphens spaced start n last (m.push (.one (.literal ⟨'-', c.headSpan, false⟩)))
    else .ok (m, c)

def closingFirst (spaced : Bool) (start c : Cursor) (m : Members) :
    Except Fault (Members × Cursor) :=
  match m, c.head? with
  | .nothing _, some ']' =>
    let last := c.advance spaced
    if last.atEnd then fail .classUnclosed (start.upTo last)
    else .ok (.one (.literal ⟨']', c.headSpan, false⟩), last)
  | _, _ => .ok (m, c)

def firstMembers (spaced negated : Bool) (start c : Cursor) : Except Fault (Bracket × Cursor) :=
  match hyphens spaced start c.rest.length c (.nothing c.place) with
  | .error e => .error e
  | .ok (m, c) =>
    (closingFirst spaced start c m).map fun (m, c) => (⟨start.upTo c, negated, none, m⟩, c)

def begin (spaced : Bool) (start : Cursor) : Except Fault (Bracket × Cursor) :=
  let c := start.advance spaced
  if c.atEnd then fail .classUnclosed (start.upTo c)
  else if c.head? = some '^' then
    let d := c.advance spaced
    if d.atEnd then fail .classUnclosed (start.upTo d) else firstMembers spaced true start d
  else firstMembers spaced false start c

def named? (start : Cursor) : Option (Item × Cursor) :=
  match start.take? "[:" with
  | none => none
  | some c =>
    let negated := c.head? = some '^'
    let (name, e) := (if negated then c.next else c).gather false (· ≠ ':')
    match e.take? ":]", NamedSet.ofName? (String.ofList name) with
    | some last, some set => some (.named (start.upTo last) negated set, last)
    | _, _ => none

def readAtom (spaced : Bool) (c : Cursor) (d : Char) : Except Fault (Atom × Cursor) :=
  if d = '\\' then Escape.read spaced c
  else .ok (.literal ⟨d, c.headSpan, false⟩, c.next)

def itemOf (a : Atom) : Except Fault Item :=
  match a with
  | .literal l => .ok (.literal l)
  | .short span negated name => .ok (.short span negated name)
  | .property span negated name => .ok (.property span negated name)
  | _ => fail .classEscapeInvalid a.span

def endOf (a : Atom) : Except Fault Literal :=
  match a with
  | .literal l => .ok l
  | _ => fail .classRangeLiteral a.span

def rangeOf (first last : Atom) : Except Fault Item :=
  match endOf first, endOf last with
  | .error e, _ => .error e
  | _, .error e => .error e
  | .ok a, .ok b =>
    let span : Span := ⟨a.span.start, b.span.stop⟩
    if b.char < a.char then fail .classRangeInvalid span else .ok (.range span a b)

/-- What comes behind the next character. In a spaced pattern blanks are passed over, and one hash
sign among them. -/
def peek (spaced : Bool) (c : Cursor) : Option Char :=
  if spaced then
    match c.rest.tail.dropWhile Text.isBlank with
    | '#' :: rest => (rest.dropWhile Text.isBlank).head?
    | rest => rest.head?
  else c.second?

def isRange (spaced : Bool) (c : Cursor) : Bool :=
  c.head? = some '-' && peek spaced c ≠ some ']' && peek spaced c ≠ some '-'

def readItem (spaced : Bool) (unclosed : Fault) (c : Cursor) (d : Char) :
    Except Fault (Item × Cursor) :=
  match readAtom spaced c d with
  | .error e => .error e
  | .ok (first, behind) =>
    let c := behind.skip spaced
    if c.atEnd then .error unclosed
    else if isRange spaced c then
      let second := c.advance spaced
      match second.head? with
      | none => .error unclosed
      | some d =>
        match readAtom spaced second d with
        | .error e => .error e
        | .ok (last, c) => (rangeOf first last).map (·, c)
    else (itemOf first).map (·, c)

def operation? (c : Cursor) : Option SetOperation :=
  if c.head? ≠ c.second? then none
  else
    match c.head? with
    | some '&' => some .intersection
    | some '-' => some .difference
    | some '~' => some .symmetricDifference
    | _ => none

def whole (b : Bracket) (last : Cursor) : Span × Bool × Members :=
  (⟨b.span.start, last.place⟩, b.negated, b.all)

def unclosed (b : Bracket) : Fault := ⟨.classUnclosed, b.span, none⟩

/-- Reads the rest of a bracket and of those around it. Every round reads at least one character, so
that `n` rounds are enough for `n` characters. -/
def readRest (spaced : Bool) : Nat → Bracket → List Bracket → Cursor →
    Except Fault ((Span × Bool × Members) × Cursor)
  | 0, b, _, _ => .error b.unclosed
  | n + 1, b, outer, before =>
    let c := before.skip spaced
    match c.head? with
    | none => .error b.unclosed
    | some '[' =>
      match named? c with
      | some (item, last) => readRest spaced n (b.push (.one item)) outer last
      | none =>
        match begin spaced c with
        | .error e => .error e
        | .ok (inner, last) => readRest spaced n inner (b :: outer) last
    | some ']' =>
      match outer with
      | [] => .ok (b.whole c.next, c.next)
      | parent :: outer =>
        let (span, negated, members) := b.whole c.next
        readRest spaced n (parent.push (.nested span negated members)) outer c.next
    | some d =>
      match operation? c with
      | some operation =>
        readRest spaced n (b.combine operation c.next.next) outer c.next.next
      | none =>
        match readItem spaced b.unclosed c d with
        | .error e => .error e
        | .ok (item, last) => readRest spaced n (b.push (.one item)) outer last

def read (spaced : Bool) (start : Cursor) : Except Fault (Tree × Cursor) :=
  match begin spaced start with
  | .error e => .error e
  | .ok (b, c) =>
    (readRest spaced (c.rest.length + 1) b [] c).map fun ((span, negated, members), last) =>
      (.set span negated members, last)

end Bracket

end FileTrace.Pattern
