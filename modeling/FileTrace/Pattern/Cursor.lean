import FileTrace.Text.Blank

namespace FileTrace.Pattern

structure Place where
  line : Nat
  column : Nat
  deriving DecidableEq, Repr

namespace Place

def first : Place := ⟨1, 1⟩

def after (p : Place) (c : Char) : Place :=
  if c = '\n' then ⟨p.line + 1, 1⟩ else ⟨p.line, p.column + 1⟩

def before (p q : Place) : Bool :=
  p.line < q.line || (p.line == q.line && p.column < q.column)

end Place

structure Span where
  start : Place
  stop : Place
  deriving DecidableEq, Repr

structure Cursor where
  rest : List Char
  place : Place
  deriving DecidableEq, Repr

namespace Cursor

def start (text : String) : Cursor := ⟨text.toList, .first⟩

def atEnd (c : Cursor) : Bool := c.rest.isEmpty

def head? (c : Cursor) : Option Char := c.rest.head?

def second? (c : Cursor) : Option Char := c.rest.tail.head?

def next (c : Cursor) : Cursor :=
  match c.rest with
  | [] => c
  | d :: rest => ⟨rest, c.place.after d⟩

def skipFrom (remark : Bool) (place : Place) : List Char → Cursor
  | [] => ⟨[], place⟩
  | d :: rest =>
    if remark then skipFrom (d ≠ '\n') (place.after d) rest
    else if Text.isBlank d then skipFrom false (place.after d) rest
    else if d = '#' then skipFrom true (place.after d) rest
    else ⟨d :: rest, place⟩

def skip (spaced : Bool) (c : Cursor) : Cursor :=
  if spaced then skipFrom false c.place c.rest else c

def advance (spaced : Bool) (c : Cursor) : Cursor := c.next.skip spaced

def take? (word : String) (c : Cursor) : Option Cursor :=
  if word.toList.isPrefixOf c.rest then some (word.toList.foldl (fun c _ => c.next) c) else none

def gatherAtMost (spaced : Bool) (p : Char → Bool) : Nat → Cursor → List Char × Cursor
  | 0, c => ([], c)
  | n + 1, c =>
    match c.rest with
    | [] => ([], c)
    | d :: _ =>
      if p d then
        let (found, last) := gatherAtMost spaced p n (c.advance spaced)
        (d :: found, last)
      else ([], c)

def gather (spaced : Bool) (p : Char → Bool) (c : Cursor) : List Char × Cursor :=
  gatherAtMost spaced p c.rest.length c

def here (c : Cursor) : Span := ⟨c.place, c.place⟩

def headSpan (c : Cursor) : Span := ⟨c.place, c.next.place⟩

def upTo (c d : Cursor) : Span := ⟨c.place, d.place⟩

end Cursor

end FileTrace.Pattern
