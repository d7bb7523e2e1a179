import FileTrace.Pattern.Fault

namespace FileTrace.Pattern

structure Literal where
  char : Char
  span : Span
  byte : Bool
  deriving DecidableEq, Repr

inductive NamedSet where
  | alnum
  | alpha
  | ascii
  | blank
  | cntrl
  | digit
  | graph
  | lower
  | print
  | punct
  | space
  | upper
  | word
  | xdigit
  deriving DecidableEq, Repr

def NamedSet.all : List (String × NamedSet) :=
  [("alnum", .alnum), ("alpha", .alpha), ("ascii", .ascii), ("blank", .blank), ("cntrl", .cntrl),
    ("digit", .digit), ("graph", .graph), ("lower", .lower), ("print", .print), ("punct", .punct),
    ("space", .space), ("upper", .upper), ("word", .word), ("xdigit", .xdigit)]

def NamedSet.ofName? (name : String) : Option NamedSet :=
  (all.find? (·.1 == name)).map (·.2)

inductive Mark where
  | lineStart
  | lineEnd
  | textStart
  | textEnd
  | boundary
  | inside
  | wordStart
  | wordEnd
  | wordStartHalf
  | wordEndHalf
  deriving DecidableEq, Repr

inductive Atom where
  | literal (l : Literal)
  | any (span : Span)
  | mark (span : Span) (mark : Mark)
  | short (span : Span) (negated : Bool) (name : NamedSet)
  | property (span : Span) (negated : Bool) (name : String)
  deriving DecidableEq, Repr

def Atom.span : Atom → Span
  | .literal l => l.span
  | .any span => span
  | .mark span _ => span
  | .short span _ _ => span
  | .property span _ _ => span

inductive Item where
  | literal (l : Literal)
  | range (span : Span) (first last : Literal)
  | named (span : Span) (negated : Bool) (name : NamedSet)
  | short (span : Span) (negated : Bool) (name : NamedSet)
  | property (span : Span) (negated : Bool) (name : String)
  deriving DecidableEq, Repr

def Item.span : Item → Span
  | .literal l => l.span
  | .range span _ _ => span
  | .named span _ _ => span
  | .short span _ _ => span
  | .property span _ _ => span

inductive SetOperation where
  | intersection
  | difference
  | symmetricDifference
  deriving DecidableEq, Repr

inductive Members where
  | nothing (place : Place)
  | one (item : Item)
  | nested (span : Span) (negated : Bool) (inner : Members)
  | both (first second : Members)
  | combined (operation : SetOperation) (first second : Members)
  deriving DecidableEq, Repr

namespace Members

def start : Members → Place
  | nothing place => place
  | one item => item.span.start
  | nested span _ _ => span.start
  | both first _ => first.start
  | combined _ first _ => first.start

def stop : Members → Place
  | nothing place => place
  | one item => item.span.stop
  | nested span _ _ => span.stop
  | both _ second => second.stop
  | combined _ _ second => second.stop

def span (m : Members) : Span := ⟨m.start, m.stop⟩

def push (members last : Members) : Members :=
  match members with
  | nothing _ => last
  | _ => both members last

def hasItem : Members → Bool
  | nothing _ => false
  | one _ => true
  | nested .. => false
  | both first second => first.hasItem || second.hasItem
  | combined _ first second => first.hasItem || second.hasItem

end Members

inductive Flag where
  | anyCase
  | manyLines
  | anyChar
  | greedless
  | beyondAscii
  | carriageReturns
  | spaced
  deriving DecidableEq, Repr

abbrev Switches := List (Flag × Bool)

inductive Tree where
  | empty
  | atom (a : Atom)
  | set (span : Span) (negated : Bool) (members : Members)
  | flags (switches : Switches)
  | group (switches : Switches) (inner : Tree)
  | repeated (inner : Tree) (least : Nat) (most : Option Nat)
  | seq (first second : Tree)
  | alt (first second : Tree)
  deriving DecidableEq, Repr

namespace Tree

def ofParts : List Tree → Tree
  | [] => empty
  | [t] => t
  | t :: rest => seq t (ofParts rest)

def ofBranches : List Tree → Tree
  | [] => empty
  | [t] => t
  | t :: rest => alt t (ofBranches rest)

def isRepeatable : Tree → Bool
  | empty => false
  | flags _ => false
  | _ => true

end Tree

end FileTrace.Pattern
