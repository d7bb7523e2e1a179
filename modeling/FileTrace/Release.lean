import FileTrace.Text.Blank
import FileTrace.Text.Numeral
import FileTrace.Text.Quoted
import FileTrace.Record

namespace FileTrace

structure Release where
  text : String
  parts : List UInt32
  deriving DecidableEq, Repr

namespace Release

def isSeparator (c : Char) : Bool := c == '.' || c == '-' || c == '~'

def number? (component : List Char) : Option UInt32 :=
  match Numeral.read Numeral.word32 component with
  | .ok n => some (UInt32.ofNat n)
  | .error _ => none

def leadingNumbers : List (List Char) → List UInt32
  | [] => []
  | component :: rest =>
    match number? component with
    | some n => n :: leadingNumbers rest
    | none => []

def parse? (text : String) : Option Release :=
  match leadingNumbers (text.toList.splitOnP isSeparator) with
  | [] => none
  | n :: parts => some ⟨text, n :: parts⟩

def invalidMessage (text : String) : String :=
  "Invalid kernel release " ++ Text.quote text

def compareParts : List UInt32 → List UInt32 → Ordering
  | [], [] => .eq
  | [], b :: bs => (compare 0 b).then (compareParts [] bs)
  | a :: as, [] => (compare a 0).then (compareParts as [])
  | a :: as, b :: bs => (compare a b).then (compareParts as bs)

def cmp (a b : Release) : Ordering := compareParts a.parts b.parts

def same (a b : Release) : Bool := (a.cmp b).isEq

def before (a b : Release) : Bool := (a.cmp b).isLT

def atLeast (a b : Release) : Bool := (a.cmp b).isGE

def sort (releases : List Release) : List Release :=
  releases.mergeSort fun a b => (a.cmp b).isLE

def distinct : List Release → List Release
  | [] => []
  | r :: rest =>
    match distinct rest with
    | [] => [r]
    | s :: kept => if r.same s then r :: kept else r :: s :: kept

end Release

def OpenLayout.forKernel (running threshold : Release) : OpenLayout :=
  if running.before threshold then .legacy else .current

end FileTrace
