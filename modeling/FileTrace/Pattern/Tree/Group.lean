import FileTrace.Pattern.Tree
import FileTrace.Text.Letter

namespace FileTrace.Pattern.Group

abbrev Names := List (String × Span)

inductive Opening where
  | group (switches : Switches)
  | flags (switches : Switches)
  deriving DecidableEq, Repr

def flag? : Char → Option Flag
  | 'i' => some .anyCase
  | 'm' => some .manyLines
  | 's' => some .anyChar
  | 'U' => some .greedless
  | 'u' => some .beyondAscii
  | 'R' => some .carriageReturns
  | 'x' => some .spaced
  | _ => none

def switch? (flag : Flag) (switches : Switches) : Option Bool :=
  (switches.find? (·.1 == flag)).map (·.2)

structure Found where
  switches : List ((Flag × Bool) × Span)
  hyphen : Option Span
  dangling : Bool
  deriving DecidableEq, Repr

namespace Found

def none : Found := ⟨[], Option.none, false⟩

def addHyphen (span : Span) (f : Found) : Except Fault Found :=
  match f.hyphen with
  | some earlier => .error ⟨.flagRepeatedNegation, span, some earlier⟩
  | Option.none => .ok { f with hyphen := some span, dangling := true }

def addFlag (flag : Flag) (span : Span) (f : Found) : Except Fault Found :=
  match f.switches.find? (·.1.1 == flag) with
  | some (_, earlier) => .error ⟨.flagDuplicate, span, some earlier⟩
  | Option.none =>
    .ok { f with switches := f.switches ++ [((flag, f.hyphen.isNone), span)], dangling := false }

def add (d : Char) (span : Span) (f : Found) : Except Fault Found :=
  if d = '-' then f.addHyphen span
  else
    match flag? d with
    | some flag => f.addFlag flag span
    | Option.none => fail .flagUnrecognized span

def finish (f : Found) : Except Fault Switches :=
  match f.dangling, f.hyphen with
  | true, some span => fail .flagDanglingNegation span
  | _, _ => .ok (f.switches.map (·.1))

end Found

def readFlags : Nat → Found → Cursor → Except Fault (Switches × Cursor)
  | 0, _, c => fail .flagUnfinished c.here
  | n + 1, f, c =>
    match c.head? with
    | none => fail .flagUnfinished c.here
    | some d =>
      if d = ':' ∨ d = ')' then f.finish.map (·, c)
      else
        match f.add d c.headSpan with
        | .error e => .error e
        | .ok f => readFlags n f c.next

def ofFlags (start : Span) (switches : Switches) (c : Cursor) : Except Fault (Opening × Cursor) :=
  if c.head? = some ':' then .ok (.group switches, c.next)
  else if switches.isEmpty then fail .repetitionMissing start
  else .ok (.flags switches, c.next)

def isNameStart (c : Char) : Bool := c = '_' || Text.isAlphabetic c

def isNamePart (c : Char) : Bool :=
  isNameStart c || c = '.' || c = '[' || c = ']' || Text.isNumeric c

def nameAt (start : Cursor) : List Char × Cursor :=
  match start.head? with
  | none => ([], start)
  | some d =>
    if isNameStart d then
      let (parts, last) := start.next.gather false isNamePart
      (d :: parts, last)
    else ([], start)

def addName (name : String) (span : Span) (names : Names) : Except Fault Names :=
  match names.find? (·.1 == name) with
  | some (_, earlier) => .error ⟨.groupNameDuplicate, span, some earlier⟩
  | none => .ok ((name, span) :: names)

def readName (names : Names) (start : Cursor) : Except Fault (Names × Cursor) :=
  let (name, c) := nameAt start
  match c.head? with
  | none => fail .groupNameUnfinished c.here
  | some '>' =>
    if name.isEmpty then fail .groupNameEmpty start.here
    else (addName (String.ofList name) (start.upTo c) names).map (·, c.next)
  | some _ => fail .groupNameInvalid c.headSpan

def lookArounds : List String := ["?=", "?!", "?<=", "?<!"]

def read (spaced : Bool) (names : Names) (start : Cursor) :
    Except Fault (Opening × Names × Cursor) :=
  let c := start.advance spaced
  match lookArounds.findSome? fun word => c.take? word with
  | some last => fail .lookAround (start.upTo last)
  | none =>
    match (c.take? "?P<").or (c.take? "?<"), c.take? "?" with
    | some inside, _ => (readName names inside).map fun (names, last) => (.group [], names, last)
    | none, some inside =>
      if inside.atEnd then fail .groupUnclosed start.headSpan
      else
        match readFlags (inside.rest.length + 1) .none inside with
        | .error e => .error e
        | .ok (switches, last) => (ofFlags c.here switches last).map fun (o, last) =>
          (o, names, last)
    | none, none => .ok (.group [], names, c)

end FileTrace.Pattern.Group
