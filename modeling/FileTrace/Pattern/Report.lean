import FileTrace.Pattern.Fault

namespace FileTrace.Pattern.Report

def linesOf (text : String) : List String :=
  match (text.splitOn "\n").reverse with
  | last :: ended =>
    (ended.map fun line => String.ofList (withoutReturn line.toList)).reverse ++
      if last.isEmpty then [] else [last]
  | [] => []
where
  withoutReturn (line : List Char) : List Char :=
    if line.getLast? = some '\r' then line.dropLast else line

def carets (column : Nat) : List Span → List Char
  | [] => []
  | s :: rest =>
    let width := max 1 (s.stop.column - s.start.column)
    List.replicate (s.start.column - column) ' ' ++ List.replicate width '^' ++
      carets (max column s.start.column + width) rest

def spans (f : Fault) : List Span :=
  match f.earlier with
  | none => [f.span]
  | some s => if f.span.start.before s.start then [f.span, s] else [s, f.span]

def isWithinLine (s : Span) : Bool := s.start.line == s.stop.line

def numberWidth (text : String) : Nat :=
  let count := (text.splitOn "\n").length
  if count ≤ 1 then 0 else (toString count).length

def margin (width line : Nat) : String :=
  if width = 0 then "    "
  else
    let number := toString line
    String.ofList (List.replicate (width - number.length) ' ') ++ number ++ ": "

def marginBlanks (width : Nat) : List Char :=
  List.replicate (if width = 0 then 4 else width + 2) ' '

def notated (width : Nat) (f : Fault) : Nat → List String → List String
  | _, [] => []
  | line, text :: rest =>
    let below := (spans f).filter fun s => isWithinLine s && s.start.line == line
    let notes := if below.isEmpty then []
      else [String.ofList (marginBlanks width ++ carets 1 below)]
    (margin width line ++ text) :: notes ++ notated width f (line + 1) rest

def divider : String := String.ofList (List.replicate 79 '~')

def longSpan (s : Span) : String :=
  "on line " ++ toString s.start.line ++ " (column " ++ toString s.start.column ++
    ") through line " ++ toString s.stop.line ++ " (column " ++ toString (s.stop.column - 1) ++ ")"

def text (pattern : String) (f : Fault) : String :=
  let shown := notated (numberWidth pattern) f 1 (linesOf pattern)
  let long := ((spans f).filter (!isWithinLine ·)).map longSpan
  let body := if pattern.contains '\n' then [divider] ++ shown ++ [divider] ++ long else shown
  "\n".intercalate (["regex parse error:"] ++ body ++ ["error: " ++ f.cause.message])

end FileTrace.Pattern.Report
