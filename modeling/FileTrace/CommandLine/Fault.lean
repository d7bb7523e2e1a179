import FileTrace.CommandLine.Parameter
import FileTrace.CommandLine.Similarity
import FileTrace.Text.Terminal

namespace FileTrace.CommandLine

inductive ValueFault where
  | numeral (fault : Numeral.Fault)
  | release (text : String)
  deriving DecidableEq, Repr

def ValueFault.message : ValueFault → String
  | .numeral fault => fault.message
  | .release text => Release.invalidMessage text

inductive Fault where
  | unknownArgument (text : String) (similar : Option Parameter) (named : List Parameter)
  | repeated (parameter : Parameter)
  | unexpectedValue (flag : Flag) (value : String) (used : Bool)
  | missingValue (setting : Setting)
  | notAChoice (setting : Setting) (value : String)
  | malformed (setting : Setting) (value : String) (cause : ValueFault)
  deriving DecidableEq, Repr

def isOfRun : Parameter → Bool
  | .flag f => !f.isQuestion
  | .setting _ => true

def runParameters : String :=
  "<" ++ "|".intercalate ((Parameter.all.filter isOfRun).map (·.display)) ++ ">"

def usage (arguments : List String) : String :=
  "Usage: " ++ " ".intercalate ("snoop" :: arguments)

def generalUsage : String := usage ["[OPTIONS]"]

namespace Fault

def usageOf : List Parameter → String
  | [] => generalUsage
  | parameters => usage (parameters.map (·.display))

def atHand (named : List Parameter) (meant : Option Parameter) : List Parameter :=
  named ++ meant.toList.filter (!named.contains ·)

def usageOfFlag (f : Flag) (used : Bool) : String :=
  match used, f.isQuestion with
  | false, _ => usageOf [.flag f]
  | true, false => usage [runParameters]
  | true, true => usage [(Parameter.flag f).display, runParameters]

def usage? : Fault → Option String
  | .unknownArgument _ similar named => some (usageOf (atHand named similar))
  | .repeated _ => some generalUsage
  | .unexpectedValue f _ used => some (usageOfFlag f used)
  | _ => none

def choicesText (s : Setting) : String :=
  match s.choices with
  | [] => ""
  | choices => "\n  [possible values: " ++ ", ".intercalate (choices.map (·.1)) ++ "]"

def shown (text : String) : String := "'" ++ Text.Terminal.coloured text ++ "'"

def headline : Fault → String
  | .unknownArgument text _ _ => "unexpected argument " ++ shown text ++ " found"
  | .repeated p => "the argument '" ++ p.display ++ "' cannot be used multiple times"
  | .unexpectedValue f value _ =>
    "unexpected value " ++ shown value ++ " for '" ++ (Parameter.flag f).display ++
      "' found; no more were expected"
  | .missingValue s =>
    "a value is required for '" ++ (Parameter.setting s).display ++ "' but none was supplied" ++
      choicesText s
  | .notAChoice s value =>
    "invalid value " ++ shown value ++ " for '" ++ (Parameter.setting s).display ++ "'" ++
      choicesText s
  | .malformed s value cause =>
    "invalid value " ++ shown value ++ " for '" ++ (Parameter.setting s).display ++ "': " ++
      cause.message

def similarText (kind word : String) : String :=
  "\n\n  tip: a similar " ++ kind ++ " exists: '" ++ word ++ "'"

def tip : Fault → String
  | .unknownArgument _ (some p) _ => similarText "argument" ("--" ++ p.long)
  | .notAChoice s value =>
    match mostSimilar? value (s.choices.map fun c => (c.1, c.1)) with
    | some choice => similarText "value" choice
    | none => ""
  | _ => ""

def message (f : Fault) : String :=
  Text.Terminal.plain ("error: " ++ f.headline ++ f.tip ++
    (f.usage?.map ("\n\n" ++ ·)).getD "" ++ "\n\nFor more information, try '--help'.\n")

end Fault

end FileTrace.CommandLine
