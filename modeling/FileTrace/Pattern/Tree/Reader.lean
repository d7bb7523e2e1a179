import FileTrace.Pattern.Tree.Bracket
import FileTrace.Pattern.Tree.Count
import FileTrace.Pattern.Tree.Group

namespace FileTrace.Pattern

structure Level where
  branches : List Tree
  parts : List Tree
  deriving DecidableEq, Repr

namespace Level

def empty : Level := ⟨[], []⟩

def branch (l : Level) : Tree := Tree.ofParts l.parts.reverse

def tree (l : Level) : Tree := Tree.ofBranches (l.branch :: l.branches).reverse

def push (t : Tree) (l : Level) : Level := { l with parts := t :: l.parts }

def split (l : Level) : Level := ⟨l.branch :: l.branches, []⟩

def lastPart? (l : Level) : Option (Tree × List Tree) :=
  match l.parts with
  | last :: parts => if last.isRepeatable then some (last, parts) else none
  | [] => none

def repeated (span : Span) (r : Count.Range) (l : Level) : Except Fault Level :=
  match l.lastPart? with
  | some (last, parts) => .ok { l with parts := .repeated last r.least r.most :: parts }
  | none => fail .repetitionMissing span

end Level

structure OpenGroup where
  span : Span
  switches : Switches
  outer : Level
  spaced : Bool
  deriving DecidableEq, Repr

structure Reader where
  cursor : Cursor
  level : Level
  groups : List OpenGroup
  names : Group.Names
  spaced : Bool
  deriving DecidableEq, Repr

namespace Reader

def start (text : String) : Reader := ⟨.start text, .empty, [], [], false⟩

def push (t : Tree) (last : Cursor) (r : Reader) : Reader :=
  { r with cursor := last, level := r.level.push t }

def spacedBy (switches : Switches) (r : Reader) : Bool :=
  (Group.switch? .spaced switches).getD r.spaced

def openGroup (r : Reader) : Except Fault Reader :=
  match Group.read r.spaced r.names r.cursor with
  | .error e => .error e
  | .ok (.flags switches, names, last) =>
    .ok { r.push (.flags switches) last with names, spaced := r.spacedBy switches }
  | .ok (.group switches, names, last) =>
    .ok ⟨last, .empty, ⟨r.cursor.headSpan, switches, r.level, r.spaced⟩ :: r.groups, names,
      r.spacedBy switches⟩

def closeGroup (r : Reader) : Except Fault Reader :=
  match r.groups with
  | [] => fail .groupUnopened r.cursor.headSpan
  | g :: groups =>
    .ok ⟨r.cursor.next, g.outer.push (.group g.switches r.level.tree), groups, r.names, g.spaced⟩

def repeatBy (range : Count.Range) (r : Reader) : Except Fault Reader :=
  let behind := r.cursor.next
  let last := if behind.head? = some '?' then behind.next else behind
  (r.level.repeated r.cursor.here range).map fun level => { r with cursor := last, level }

def repeatCounted (r : Reader) : Except Fault Reader :=
  if r.level.lastPart?.isSome then
    match Count.read r.spaced r.cursor with
    | .error e => .error e
    | .ok (range, last) =>
      (r.level.repeated r.cursor.here range).map fun level => { r with cursor := last, level }
  else fail .repetitionMissing r.cursor.here

def pushAtom (a : Atom) (r : Reader) : Reader := r.push (.atom a) r.cursor.next

def readPart (r : Reader) (d : Char) : Except Fault Reader :=
  let span := r.cursor.headSpan
  match d with
  | '(' => r.openGroup
  | ')' => r.closeGroup
  | '|' => .ok { r with cursor := r.cursor.next, level := r.level.split }
  | '[' => (Bracket.read r.spaced r.cursor).map fun (t, last) => r.push t last
  | '?' => r.repeatBy ⟨0, some 1⟩
  | '*' => r.repeatBy ⟨0, none⟩
  | '+' => r.repeatBy ⟨1, none⟩
  | '\x7b' => r.repeatCounted
  | '\\' => (Escape.read r.spaced r.cursor).map fun (a, last) => r.push (.atom a) last
  | '.' => .ok (r.pushAtom (.any span))
  | '^' => .ok (r.pushAtom (.mark span .lineStart))
  | '$' => .ok (r.pushAtom (.mark span .lineEnd))
  | _ => .ok (r.pushAtom (.literal ⟨d, span, false⟩))

def finish (r : Reader) : Except Fault Tree :=
  match r.groups with
  | [] => .ok r.level.tree
  | g :: _ => fail .groupUnclosed g.span

/-- Reads on to the end. Every round reads at least one character, so that `n` rounds are enough for
`n` characters. -/
def readAll : Nat → Reader → Except Fault Tree
  | 0, r => r.finish
  | n + 1, r =>
    let r := { r with cursor := r.cursor.skip r.spaced }
    match r.cursor.head? with
    | none => r.finish
    | some d =>
      match r.readPart d with
      | .error e => .error e
      | .ok r => r.readAll n

end Reader

def Tree.read (text : String) : Except Fault Tree :=
  (Reader.start text).readAll (text.length + 1)

end FileTrace.Pattern
