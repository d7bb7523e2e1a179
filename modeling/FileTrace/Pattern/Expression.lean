import FileTrace.Pattern.CharSet

namespace FileTrace.Pattern

inductive Look where
  | textStart
  | textEnd
  | lineStart
  | lineEnd
  | returnStart
  | returnEnd
  | boundary
  | inside
  | wordStart
  | wordEnd
  | wordStartHalf
  | wordEndHalf
  deriving DecidableEq, Repr

namespace Look

def isWord (c : Option Char) : Bool := c.any fun c => c.isAlphanum || c = '_'

def holds (before after : Option Char) : Look → Bool
  | textStart => before.isNone
  | textEnd => after.isNone
  | lineStart => before.isNone || before = some '\n'
  | lineEnd => after.isNone || after = some '\n'
  | returnStart =>
    before.isNone || before = some '\n' || (before = some '\r' && after ≠ some '\n')
  | returnEnd => after.isNone || after = some '\r' || (after = some '\n' && before ≠ some '\r')
  | boundary => isWord before != isWord after
  | inside => isWord before == isWord after
  | wordStart => !isWord before && isWord after
  | wordEnd => isWord before && !isWord after
  | wordStartHalf => !isWord before
  | wordEndHalf => !isWord after

end Look

inductive Expression where
  | empty
  | char (set : CharSet)
  | look (look : Look)
  | beyondAscii
  | seq (first second : Expression)
  | alt (first second : Expression)
  | repeated (inner : Expression) (least : Nat) (most : Option Nat)
  deriving DecidableEq, Repr

namespace Expression

def isMet (before after : Option Char) : Expression → Bool
  | empty => true
  | char _ => false
  | look l => l.holds before after
  | beyondAscii => false
  | seq first second => first.isMet before after && second.isMet before after
  | alt first second => first.isMet before after || second.isMet before after
  | repeated inner least _ => least == 0 || inner.isMet before after

def followedBy (second : Expression) : Expression → Expression
  | empty => second
  | first => seq first second

/-- What may still be asked for behind a character. Rounds of a repetition that need no character
count as well, so where there are such, no further round is needed. -/
def remainders (before : Option Char) (c : Char) : Expression → List Expression
  | empty => []
  | char set => if set.holds c then [empty] else []
  | look _ => []
  | beyondAscii => []
  | seq first second =>
    (first.remainders before c).map second.followedBy ++
      if first.isMet before (some c) then second.remainders before c else []
  | alt first second => first.remainders before c ++ second.remainders before c
  | repeated inner least most =>
    if most = some 0 then []
    else
      let left := if inner.isMet before (some c) then 0 else least - 1
      (inner.remainders before c).map (repeated inner left (most.map (· - 1))).followedBy

def search (e : Expression) (before : Option Char) (asked : List Expression) :
    List Char → Bool
  | [] => (e :: asked).any (·.isMet before none)
  | c :: rest =>
    let asked := (e :: asked).eraseDups
    asked.any (·.isMet before (some c)) ||
      search e (some c) (asked.flatMap (·.remainders before c)) rest

def isFound (e : Expression) (text : List Char) : Bool := e.search none [] text

def isAscii : Expression → Bool
  | beyondAscii => false
  | seq first second => first.isAscii && second.isAscii
  | alt first second => first.isAscii && second.isAscii
  | repeated inner _ _ => inner.isAscii
  | _ => true

def room : Expression → Nat
  | empty => 32
  | char set => set.room
  | look _ => 32
  | beyondAscii => 32
  | seq first second => first.room + second.room
  | alt first second => first.room + second.room + 40
  | repeated inner least none => max 1 least * inner.room + 40
  | repeated inner least (some most) => most * inner.room + (most - least) * 40

end Expression

end FileTrace.Pattern
