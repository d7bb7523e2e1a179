import FileTrace.Pattern.Tree

namespace FileTrace.Pattern.Escape

def isMeta (c : Char) : Bool := "\\.+*?()|[]\x7b\x7d^$#&-~".toList.contains c

def isPlain (c : Char) : Bool :=
  isMeta c || (c.toNat < 0x80 && !c.isAlphanum && c ≠ '<' && c ≠ '>')

def isHex (c : Char) : Bool := c.isDigit || ('a' ≤ c && c ≤ 'f') || ('A' ≤ c && c ≤ 'F')

def hexValue (c : Char) : Nat :=
  if c.isDigit then c.toNat - '0'.toNat
  else if 'a' ≤ c then c.toNat - 'a'.toNat + 10
  else c.toNat - 'A'.toNat + 10

def charOf? (n : Nat) : Option Char :=
  if n < 0xD800 ∨ (0xDFFF < n ∧ n < 0x110000) then some (Char.ofNat n) else none

def hexChar (digits : List Char) (span : Span) : Except Fault Char :=
  match charOf? (digits.foldl (fun n c => n * 16 + hexValue c) 0) with
  | some c => .ok c
  | none => fail .hexInvalid span

def hexDigits (spaced : Bool) : Nat → Cursor → Except Fault (List Char × Cursor)
  | 0, c => .ok ([], c)
  | n + 1, c =>
    match c.head? with
    | none => fail .escapeUnfinished c.here
    | some d =>
      if isHex d then (hexDigits spaced n (c.advance spaced)).map fun (ds, e) => (d :: ds, e)
      else fail .hexInvalidDigit c.headSpan

def hexInBraces (spaced : Bool) (start c : Cursor) : Except Fault (Atom × Cursor) :=
  let (digits, e) := (c.advance spaced).gather spaced isHex
  match e.head? with
  | none => fail .escapeUnfinished (c.upTo e)
  | some '\x7d' =>
    let last := e.advance spaced
    if digits.isEmpty then fail .hexEmpty (c.upTo last)
    else (hexChar digits (c.next.upTo e)).map fun d => (.literal ⟨d, start.upTo last, false⟩, last)
  | some _ => fail .hexInvalidDigit e.headSpan

def hexCount (letter : Char) : Nat :=
  if letter = 'x' then 2 else if letter = 'u' then 4 else 8

def hex (spaced : Bool) (start c : Cursor) (letter : Char) : Except Fault (Atom × Cursor) :=
  let first := c.advance spaced
  match first.head? with
  | none => fail .escapeUnfinished first.here
  | some '\x7b' => hexInBraces spaced start first
  | some _ =>
    match hexDigits spaced (hexCount letter) first with
    | .error e => .error e
    | .ok (digits, last) =>
      (hexChar digits (first.upTo last)).map fun d =>
        (.literal ⟨d, start.upTo last, letter = 'x'⟩, last)

def property (spaced : Bool) (start c : Cursor) (negated : Bool) : Except Fault (Atom × Cursor) :=
  let first := c.advance spaced
  match first.head? with
  | none => fail .escapeUnfinished first.here
  | some '\x7b' =>
    let (name, e) := (first.advance spaced).gather spaced (· ≠ '\x7d')
    if e.atEnd then fail .escapeUnfinished e.here
    else .ok (.property (start.upTo e.next) negated (String.ofList name), e.next)
  | some '\\' => fail .propertyInvalid first.headSpan
  | some d =>
    let last := first.advance spaced
    .ok (.property (start.upTo last) negated (String.ofList [d]), last)

def isBoundaryLetter (c : Char) : Bool := c.isAlpha || c = '-'

def boundaryOfName? (name : String) : Option Mark :=
  if name = "start" then some .wordStart
  else if name = "end" then some .wordEnd
  else if name = "start-half" then some .wordStartHalf
  else if name = "end-half" then some .wordEndHalf
  else none

/-- Reads the name in braces that may follow a boundary; the cursor is at the opening brace. None
if a count of repetitions stands there. -/
def boundaryName (spaced : Bool) (start c : Cursor) : Except Fault (Option (Mark × Cursor)) :=
  let first := c.advance spaced
  match first.head? with
  | none => fail .boundaryUnfinished (start.upTo first)
  | some d =>
    if isBoundaryLetter d then
      let (name, e) := first.gather spaced isBoundaryLetter
      if e.head? ≠ some '\x7d' then fail .boundaryUnclosed (c.upTo e)
      else
        match boundaryOfName? (String.ofList name) with
        | some mark => .ok (some (mark, e.next))
        | none => fail .boundaryUnrecognized (first.upTo e)
    else .ok none

def boundary (spaced : Bool) (start c : Cursor) : Except Fault (Atom × Cursor) :=
  if c.head? = some '\x7b' then
    (boundaryName spaced start c).map fun
      | some (mark, last) => (.mark (start.upTo last) mark, last)
      | none => (.mark (start.upTo c) .boundary, c)
  else .ok (.mark (start.upTo c) .boundary, c)

def control? : Char → Option Char
  | 'a' => some '\x07'
  | 'f' => some '\x0c'
  | 't' => some '\t'
  | 'n' => some '\n'
  | 'r' => some '\r'
  | 'v' => some '\x0b'
  | _ => none

def mark? : Char → Option Mark
  | 'A' => some .textStart
  | 'z' => some .textEnd
  | 'B' => some .inside
  | '<' => some .wordStart
  | '>' => some .wordEnd
  | _ => none

def short? : Char → Option (Bool × NamedSet)
  | 'd' => some (false, .digit)
  | 'D' => some (true, .digit)
  | 's' => some (false, .space)
  | 'S' => some (true, .space)
  | 'w' => some (false, .word)
  | 'W' => some (true, .word)
  | _ => none

def ofLetter (spaced : Bool) (start c : Cursor) (letter : Char) : Except Fault (Atom × Cursor) :=
  if isPlain letter then .ok (.literal ⟨letter, start.upTo c, false⟩, c)
  else if letter = 'b' then boundary spaced start c
  else
    match control? letter, mark? letter, short? letter with
    | some d, _, _ => .ok (.literal ⟨d, start.upTo c, false⟩, c)
    | _, some mark, _ => .ok (.mark (start.upTo c) mark, c)
    | _, _, some (negated, name) => .ok (.short (start.upTo c) negated name, c)
    | none, none, none => fail .escapeUnrecognized (start.upTo c)

def read (spaced : Bool) (start : Cursor) : Except Fault (Atom × Cursor) :=
  let c := start.next
  match c.head? with
  | none => fail .escapeUnfinished (start.upTo c)
  | some letter =>
    if letter.isDigit then fail .backreference (start.upTo c.next)
    else if letter = 'x' ∨ letter = 'u' ∨ letter = 'U' then hex spaced start c letter
    else if letter = 'p' ∨ letter = 'P' then property spaced start c (letter = 'P')
    else ofLetter spaced start c.next letter

end FileTrace.Pattern.Escape
