import FileTrace.Pattern.Expression

namespace FileTrace.Pattern

structure Mode where
  anyCase : Bool
  manyLines : Bool
  anyChar : Bool
  carriageReturns : Bool
  beyondAscii : Bool
  deriving DecidableEq, Repr

namespace Mode

def start : Mode := ⟨false, false, false, false, true⟩

def switch (m : Mode) (s : Flag × Bool) : Mode :=
  match s.1 with
  | .anyCase => { m with anyCase := s.2 }
  | .manyLines => { m with manyLines := s.2 }
  | .anyChar => { m with anyChar := s.2 }
  | .carriageReturns => { m with carriageReturns := s.2 }
  | .beyondAscii => { m with beyondAscii := s.2 }
  | .greedless => m
  | .spaced => m

def switchAll (m : Mode) (switches : Switches) : Mode := switches.foldl switch m

end Mode

namespace Meaning

def isLoneByte (m : Mode) (l : Literal) : Bool :=
  !m.beyondAscii && l.byte && !decide (l.char < '\x80')

def finishSet (m : Mode) (span : Span) (negated hasItem : Bool) (s : CharSet) :
    Except Fault CharSet :=
  match m.beyondAscii, m.anyCase, negated with
  | true, true, _ =>
    if hasItem then fail .caseTableMissing span
    else .ok (if negated then .complement s else s)
  | true, false, true => .ok (.complement s)
  | false, _, true => fail .brokenText span
  | false, true, false => .ok (.anyCase s)
  | _, false, false => .ok s

def ofShort (m : Mode) (span : Span) (negated : Bool) (name : NamedSet) : Except Fault CharSet :=
  if m.beyondAscii then fail .classTableMissing span
  else if negated then fail .brokenText span
  else .ok name.chars

def propertyKey (name : String) : List Char :=
  let letters := name.toList
  let stem :=
    match letters with
    | 'i' :: 's' :: rest => rest
    | 'I' :: 's' :: rest => rest
    | 'i' :: 'S' :: rest => rest
    | 'I' :: 'S' :: rest => rest
    | _ => letters
  (stem.filter fun c => c < '\x80' && c ≠ ' ' && c ≠ '-' && c ≠ '_').map Char.toLower

def propertyCause (name : String) : Cause :=
  if ["cf".toList, "sc".toList, "lc".toList].contains (propertyKey name) then .propertyValueUnknown
  else .propertyUnknown

def ofProperty {α : Type} (m : Mode) (span : Span) (name : String) : Except Fault α :=
  if m.beyondAscii then fail (propertyCause name) span else fail .beyondAsciiNotAllowed span

def member (m : Mode) (l : Literal) : Except Fault Char :=
  if isLoneByte m l then fail .brokenText l.span
  else if !m.beyondAscii && !decide (l.char < '\x80') then fail .beyondAsciiNotAllowed l.span
  else .ok l.char

def ofItem (m : Mode) : Item → Except Fault CharSet
  | .literal l => (member m l).map .single
  | .range _ first last =>
    match member m first, member m last with
    | .error e, _ => .error e
    | _, .error e => .error e
    | .ok a, .ok b => .ok (.range a b)
  | .named span negated name => finishSet m span negated true name.chars
  | .short span negated name => ofShort m span negated name
  | .property span _ name => ofProperty m span name

def combine (m : Mode) (operation : SetOperation) (first second : Members) (a b : CharSet) :
    Except Fault CharSet :=
  match finishSet m second.span false second.hasItem b with
  | .error e => .error e
  | .ok b => (finishSet m first.span false first.hasItem a).map (.combined operation · b)

def ofMembers (m : Mode) : Members → Except Fault CharSet
  | .nothing _ => .ok .none
  | .one item => ofItem m item
  | .nested span negated inner =>
    match ofMembers m inner with
    | .error e => .error e
    | .ok s => finishSet m span negated inner.hasItem s
  | .both first second =>
    match ofMembers m first with
    | .error e => .error e
    | .ok a => (ofMembers m second).map (.union a)
  | .combined operation first second =>
    match ofMembers m first with
    | .error e => .error e
    | .ok a =>
      match ofMembers m second with
      | .error e => .error e
      | .ok b => combine m operation first second a b

def ofLiteral (m : Mode) (l : Literal) : Except Fault CharSet :=
  if isLoneByte m l then fail .brokenText l.span
  else if m.anyCase && m.beyondAscii then fail .caseTableMissing l.span
  else if m.anyCase && l.char.isAlpha then .ok (.anyCase (.single l.char))
  else .ok (.single l.char)

def ofAny (m : Mode) (span : Span) : Except Fault CharSet :=
  if !m.beyondAscii then fail .brokenText span
  else if m.anyChar then .ok (.complement .none)
  else if m.carriageReturns then .ok (.complement (.union (.single '\r') (.single '\n')))
  else .ok (.complement (.single '\n'))

def lineLook (m : Mode) (whole line withReturns : Look) : Look :=
  if !m.manyLines then whole else if m.carriageReturns then withReturns else line

def wordLook (m : Mode) (l : Look) : Expression :=
  if m.beyondAscii then .beyondAscii else .look l

def ofMark (m : Mode) : Mark → Expression
  | .lineStart => .look (lineLook m .textStart .lineStart .returnStart)
  | .lineEnd => .look (lineLook m .textEnd .lineEnd .returnEnd)
  | .textStart => .look .textStart
  | .textEnd => .look .textEnd
  | .boundary => wordLook m .boundary
  | .inside => wordLook m .inside
  | .wordStart => wordLook m .wordStart
  | .wordEnd => wordLook m .wordEnd
  | .wordStartHalf => wordLook m .wordStartHalf
  | .wordEndHalf => wordLook m .wordEndHalf

def ofAtom (m : Mode) : Atom → Except Fault Expression
  | .literal l => (ofLiteral m l).map .char
  | .any span => (ofAny m span).map .char
  | .mark _ mark => .ok (ofMark m mark)
  | .short span negated name => (ofShort m span negated name).map .char
  | .property span _ name => ofProperty m span name

def repeated (inner : Expression) (least : Nat) (most : Option Nat) : Expression :=
  if most = some 0 then .empty else .repeated inner least most

def ofTree (m : Mode) : Tree → Except Fault (Expression × Mode)
  | .empty => .ok (.empty, m)
  | .atom a => (ofAtom m a).map (·, m)
  | .set span negated members =>
    match ofMembers m members with
    | .error e => .error e
    | .ok s => (finishSet m span negated members.hasItem s).map (.char ·, m)
  | .flags switches => .ok (.empty, m.switchAll switches)
  | .group switches inner => (ofTree (m.switchAll switches) inner).map fun (e, _) => (e, m)
  | .repeated inner least most =>
    (ofTree m inner).map fun (e, m) => (repeated e least most, m)
  | .seq first second =>
    match ofTree m first with
    | .error e => .error e
    | .ok (a, m) => (ofTree m second).map fun (b, m) => (.seq a b, m)
  | .alt first second =>
    match ofTree m first with
    | .error e => .error e
    | .ok (a, m) => (ofTree m second).map fun (b, m) => (.alt a b, m)

end Meaning

end FileTrace.Pattern
