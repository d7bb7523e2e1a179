import FileTrace.Event
import FileTrace.Text.Blank
import FileTrace.Text.Quoted

namespace FileTrace.CpuList

inductive Fault where
  | badRange (text : String) (cause : Numeral.Fault)
  | badId (text : String) (cause : Numeral.Fault)
  | empty
  deriving DecidableEq, Repr

namespace Fault

def chain : Fault → List String
  | .badRange text cause => ["Bad CPU range " ++ Text.quote text, cause.message]
  | .badId text cause => ["Bad CPU id " ++ Text.quote text, cause.message]
  | .empty => ["Empty CPU list"]

def message (f : Fault) : String := ": ".intercalate f.chain

end Fault

def range (first last : Nat) : List CpuId :=
  (List.range' first (last + 1 - first)).map fun n => ⟨UInt32.ofNat n⟩

def readId (piece : List Char) : Except Fault (List CpuId) :=
  match Numeral.read Numeral.word32 piece with
  | .ok n => .ok [⟨UInt32.ofNat n⟩]
  | .error cause => .error (.badId (String.ofList piece) cause)

def readRange (piece first last : List Char) : Except Fault (List CpuId) :=
  match Numeral.read Numeral.word32 first with
  | .error cause => .error (.badRange (String.ofList piece) cause)
  | .ok a =>
    match Numeral.read Numeral.word32 last with
    | .error cause => .error (.badRange (String.ofList piece) cause)
    | .ok b => .ok (range a b)

def readPiece (piece : List Char) : Except Fault (List CpuId) :=
  match piece.dropWhile (· != '-') with
  | [] => readId piece
  | _ :: last => readRange piece (piece.takeWhile (· != '-')) last

def readPieces : List (List Char) → Except Fault (List CpuId)
  | [] => .ok []
  | piece :: rest =>
    match readPiece piece with
    | .error fault => .error fault
    | .ok cpus =>
      match readPieces rest with
      | .error fault => .error fault
      | .ok more => .ok (cpus ++ more)

def pieces (content : List Char) : List (List Char) :=
  ((Text.trim content).splitOnP (· == ',')).filter (!·.isEmpty)

def parse (content : String) : Except Fault (List CpuId) :=
  match readPieces (pieces content.toList) with
  | .error fault => .error fault
  | .ok [] => .error .empty
  | .ok (cpu :: cpus) => .ok (cpu :: cpus)

end FileTrace.CpuList
