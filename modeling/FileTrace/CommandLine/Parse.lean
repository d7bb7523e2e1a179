import FileTrace.CommandLine.Fault

namespace FileTrace.CommandLine

structure Settings where
  verbose : Bool
  object : String
  btf : Option String
  target : Target
  pages : Nat
  pollTimeout : Nat
  layout : LayoutChoice
  threshold : Release
  json : Bool
  deriving DecidableEq, Repr

def Settings.policy (s : Settings) : LayoutPolicy :=
  match s.layout with
  | .auto => .auto s.threshold
  | .legacy => .fixed .legacy
  | .current => .fixed .current

def Settings.config (s : Settings) : Config where
  request := ⟨s.object, s.btf, s.verbose⟩
  target := s.target
  pages := s.pages
  pollTimeout := s.pollTimeout
  layout := s.policy

inductive Form where
  | short
  | long
  deriving DecidableEq, Repr

inductive Ending where
  | help (form : Form)
  | version
  | faulty (fault : Fault)
  deriving DecidableEq, Repr

inductive Assignment where
  | verbose
  | json
  | object (path : String)
  | btf (path : String)
  | target (target : Target)
  | pages (count : Nat)
  | pollTimeout (milliseconds : Nat)
  | layout (choice : LayoutChoice)
  | threshold (release : Release)
  deriving DecidableEq, Repr

def fail {α : Type} (fault : Fault) : Except Ending α := .error (.faulty fault)

namespace Assignment

def parameter : Assignment → Parameter
  | .verbose => .flag .verbose
  | .json => .flag .json
  | .object _ => .setting .object
  | .btf _ => .setting .btf
  | .target _ => .setting .target
  | .pages _ => .setting .pages
  | .pollTimeout _ => .setting .pollTimeout
  | .layout _ => .setting .layout
  | .threshold _ => .setting .threshold

def readPath (s : Setting) (value : String) : Except Ending String :=
  if value.isEmpty then fail (.missingValue s) else .ok value

def readNumber (s : Setting) (value : String) : Except Ending Nat :=
  match Numeral.read Numeral.word64 value.toList with
  | .ok n => .ok n
  | .error fault => fail (.malformed s value (.numeral fault))

def readChoice {α : Type} (s : Setting) (value : String) (found : Option α) : Except Ending α :=
  match found with
  | some choice => .ok choice
  | none => if value.isEmpty then fail (.missingValue s) else fail (.notAChoice s value)

def readRelease (s : Setting) (value : String) : Except Ending Release :=
  match Release.parse? value with
  | some release => .ok release
  | none => fail (.malformed s value (.release value))

def ofValue (s : Setting) (value : String) : Except Ending Assignment :=
  match s with
  | .object => (readPath s value).map .object
  | .btf => (readPath s value).map .btf
  | .target => (readChoice s value (Target.ofName? value)).map .target
  | .pages => (readNumber s value).map .pages
  | .pollTimeout => (readNumber s value).map .pollTimeout
  | .layout => (readChoice s value (LayoutChoice.ofName? value)).map .layout
  | .threshold => (readRelease s value).map .threshold

def ofFlag (form : Form) : Flag → Except Ending Assignment
  | .verbose => .ok .verbose
  | .json => .ok .json
  | .help => .error (.help form)
  | .version => .error .version

end Assignment

abbrev Given := List Assignment

namespace Given

def parameters (g : Given) : List Parameter := g.map (·.parameter)

def has (g : Given) (p : Parameter) : Bool := g.parameters.contains p

def add (p : Parameter) (read : Except Ending Assignment) (g : Given) : Except Ending Given :=
  if g.has p then fail (.repeated p) else read.map fun a => g ++ [a]

def take (form : Form) (f : Flag) (g : Given) : Except Ending Given :=
  g.add (.flag f) (Assignment.ofFlag form f)

def assign (s : Setting) (value : String) (g : Given) : Except Ending Given :=
  g.add (.setting s) (Assignment.ofValue s value)

def object? (g : Given) : Option String :=
  g.findSome? fun | .object path => some path | _ => none

def btf? (g : Given) : Option String :=
  g.findSome? fun | .btf path => some path | _ => none

def target? (g : Given) : Option Target :=
  g.findSome? fun | .target target => some target | _ => none

def pages? (g : Given) : Option Nat :=
  g.findSome? fun | .pages count => some count | _ => none

def pollTimeout? (g : Given) : Option Nat :=
  g.findSome? fun | .pollTimeout milliseconds => some milliseconds | _ => none

def layout? (g : Given) : Option LayoutChoice :=
  g.findSome? fun | .layout choice => some choice | _ => none

def threshold? (g : Given) : Option Release :=
  g.findSome? fun | .threshold release => some release | _ => none

def btfOr (environment : Option String) (g : Given) : Except Ending (Option String) :=
  match g.btf?, environment with
  | some path, _ => .ok (some path)
  | none, none => .ok none
  | none, some value => (Assignment.readPath .btf value).map some

def complete (environment : Option String) (g : Given) : Except Ending Settings :=
  (g.btfOr environment).map fun btf =>
    { verbose := g.has (.flag .verbose)
      object := g.object?.getD "example.bpf.o"
      btf := btf
      target := g.target?.getD .openat
      pages := g.pages?.getD 16
      pollTimeout := g.pollTimeout?.getD 100
      layout := g.layout?.getD .auto
      threshold := g.threshold?.getD defaultThreshold
      json := g.has (.flag .json) }

end Given

inductive Pending where
  | none
  | awaiting (s : Setting)
  | held (s : Setting) (value : String)
  deriving DecidableEq, Repr

structure Reader where
  given : Given
  pending : Pending
  deriving DecidableEq, Repr

namespace Reader

def start : Reader := ⟨[], .none⟩

def settle (r : Reader) : Except Ending Given :=
  match r.pending with
  | .none => .ok r.given
  | .awaiting s => fail (.missingValue s)
  | .held s value => r.given.assign s value

/-- The parameters that were named so far. A value that is held counts, whether it can be read or
not, and takes its setting away again where that was given before. -/
def named (r : Reader) : List Parameter :=
  match r.pending with
  | .held s _ =>
    if r.given.has (.setting s) then r.given.parameters.erase (.setting s)
    else r.given.parameters ++ [.setting s]
  | _ => r.given.parameters

def takeFlag (form : Form) (f : Flag) (r : Reader) : Except Ending Reader :=
  match r.settle with
  | .error e => .error e
  | .ok given => (given.take form f).map (⟨·, .none⟩)

def await (s : Setting) (r : Reader) : Except Ending Reader :=
  r.settle.map (⟨·, .awaiting s⟩)

def assign (s : Setting) (value : String) (r : Reader) : Except Ending Reader :=
  match r.settle with
  | .error e => .error e
  | .ok given => (given.assign s value).map (⟨·, .none⟩)

def similarParameter? (name : String) : Option Parameter :=
  mostSimilar? name (Parameter.all.map fun p => (p.long, p))

def readLong (name : String) (value : Option String) (r : Reader) : Except Ending Reader :=
  match Parameter.ofLong? name, value with
  | none, _ => fail (.unknownArgument ("--" ++ name) (similarParameter? name) r.named)
  | some (.flag f), some value => fail (.unexpectedValue f value (!r.given.isEmpty))
  | some (.flag f), none => r.takeFlag .long f
  | some (.setting s), some value => r.assign s value
  | some (.setting s), none => r.await s

def readLetters (r : Reader) : List Char → Except Ending Reader
  | [] => .ok r
  | c :: rest =>
    match Parameter.ofShort? c with
    | none => fail (.unknownArgument (String.ofList ['-', c]) none [])
    | some (.flag f) =>
      match r.takeFlag .short f with
      | .error e => .error e
      | .ok r => r.readLetters rest
    | some (.setting s) =>
      match rest with
      | [] => r.await s
      | '=' :: value => r.assign s (String.ofList value)
      | value => r.assign s (String.ofList value)

def readPlain (text : String) (r : Reader) : Except Ending Reader :=
  match r.pending with
  | .awaiting s => .ok { r with pending := .held s text }
  | _ => fail (.unknownArgument text none [])

def splitValue (text : List Char) : String × Option String :=
  (String.ofList (text.takeWhile (· != '=')),
    match text.dropWhile (· != '=') with
    | [] => none
    | _ :: value => some (String.ofList value))

def readArgument (argument : String) (r : Reader) : Except Ending Reader :=
  match argument.toList with
  | '-' :: '-' :: text => r.readLong (splitValue text).1 (splitValue text).2
  | '-' :: c :: letters => r.readLetters (c :: letters)
  | _ => r.readPlain argument

def readAll (r : Reader) : List String → Except Ending Reader
  | [] => .ok r
  | argument :: rest =>
    if argument = "--" then
      match rest with
      | [] => .ok r
      | extra :: _ => fail (.unknownArgument extra none [])
    else
      match r.readArgument argument with
      | .error e => .error e
      | .ok r => r.readAll rest

end Reader

def parse (environment : Option String) (arguments : List String) : Except Ending Settings :=
  match Reader.start.readAll arguments with
  | .error e => .error e
  | .ok r =>
    match r.settle with
    | .error e => .error e
    | .ok given => given.complete environment

end FileTrace.CommandLine
