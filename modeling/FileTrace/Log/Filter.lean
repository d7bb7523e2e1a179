import FileTrace.Log
import FileTrace.Pattern
import FileTrace.Text.Blank

namespace FileTrace.Log

structure Directive where
  name : Option String
  verbosity : Nat
  deriving DecidableEq, Repr

structure Filter where
  directives : List Directive
  pattern : Option Pattern.Expression
  deriving DecidableEq, Repr

namespace Filter

inductive Fault where
  | part (text : String)
  | slashes (text : String)
  | pattern (text : String) (refusal : Pattern.Refusal)
  deriving DecidableEq, Repr

def Fault.message : Fault → String
  | .part text => "invalid logging spec '" ++ text ++ "'"
  | .slashes text => "invalid logging spec '" ++ text ++ "' (too many '/'s)"
  | .pattern text refusal => "invalid regex filter - " ++ refusal.message text

def most : Nat := 5

def levels : List (String × Nat) :=
  [("off", 0), ("error", 1), ("warn", 2), ("info", 3), ("debug", 4), ("trace", most)]

def readLevel? (text : String) : Option Nat :=
  (levels.find? (·.1.toList == text.toList.map Char.toLower)).map (·.2)

def trimmed (text : String) : String := String.ofList (Text.trim text.toList)

def readDirective (text : String) : Except Fault Directive :=
  match text.splitOn "=" with
  | [word] =>
    match readLevel? word with
    | some level => .ok ⟨none, level⟩
    | none => .ok ⟨some word, most⟩
  | [name, word] =>
    if (trimmed word).isEmpty then .ok ⟨some name, most⟩
    else
      match readLevel? (trimmed word) with
      | some level => .ok ⟨some name, level⟩
      | none => .error (.part (trimmed word))
  | _ => .error (.part text)

def parts (text : String) : List String :=
  ((text.splitOn ",").map trimmed).filter (!·.isEmpty)

def readAll : List String → List Directive × List Fault
  | [] => ([], [])
  | part :: rest =>
    let (directives, faults) := readAll rest
    match readDirective part with
    | .ok d => (d :: directives, faults)
    | .error fault => (directives, fault :: faults)

def insert (d : Directive) : List Directive → List Directive
  | [] => [d]
  | e :: rest => if e.name = d.name then d :: rest else e :: insert d rest

def settle (directives : List Directive) : List Directive :=
  if directives.isEmpty then [⟨none, Level.error.verbosity⟩]
  else directives.foldl (fun settled d => insert d settled) []

def readPattern : Option String → Option Pattern.Expression × List Fault
  | none => (none, [])
  | some text =>
    match Pattern.compile text with
    | .ok e => (some e, [])
    | .error refusal => (none, [.pattern text refusal])

def parse (text : String) : Filter × List Fault :=
  match text.splitOn "/" with
  | levels :: rest =>
    if rest.length ≤ 1 then
      let (directives, faults) := readAll (parts levels)
      let (pattern, patternFaults) := readPattern rest.head?
      (⟨settle directives, pattern⟩, faults ++ patternFaults)
    else (⟨settle [], none⟩, [.slashes text])
  | [] => (⟨settle [], none⟩, [])

def nameLength (d : Directive) : Nat := (d.name.map (·.utf8ByteSize)).getD 0

def covers (d : Directive) (topic : Topic) : Bool :=
  d.name.all fun name => name.toList.isPrefixOf topic.path.toList

def deciding? (topic : Topic) (f : Filter) : Option Directive :=
  f.directives.foldl (fun best d =>
    if covers d topic then
      match best with
      | some b => if nameLength d < nameLength b then some b else some d
      | none => some d
    else best) none

def letsLevel (f : Filter) (line : Line) : Bool :=
  match f.deciding? line.topic with
  | some d => line.level.verbosity ≤ d.verbosity
  | none => false

def lets (f : Filter) (line : Line) : Bool :=
  f.letsLevel line && f.pattern.all (·.isFound line.text.toList)

end Filter

end FileTrace.Log
