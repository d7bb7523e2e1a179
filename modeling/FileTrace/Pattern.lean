import FileTrace.Pattern.Meaning
import FileTrace.Pattern.Report
import FileTrace.Pattern.Tree.Reader

namespace FileTrace.Pattern

inductive Refusal where
  | faulty (fault : Fault)
  | tooLarge
  | noTables
  deriving DecidableEq, Repr

def roomLimit : Nat := 10485760

def Refusal.message (pattern : String) : Refusal → String
  | .faulty fault => Report.text pattern fault
  | .tooLarge => "Compiled regex exceeds size limit of " ++ toString roomLimit ++ " bytes."
  | .noTables => "error building NFA"

def compile (pattern : String) : Except Refusal Expression :=
  match Tree.read pattern with
  | .error fault => .error (.faulty fault)
  | .ok tree =>
    match Meaning.ofTree .start tree with
    | .error fault => .error (.faulty fault)
    | .ok (e, _) =>
      if roomLimit < e.room then .error .tooLarge
      else if e.isAscii then .ok e
      else .error .noTables

end FileTrace.Pattern
