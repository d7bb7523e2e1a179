import FileTrace.CommandLine.Parse

namespace FileTrace.CommandLine

def programVersion : String := "0.1.0"

def versionText : String := "snoop " ++ programVersion ++ "\n"

def btfVariable : String := "EXAMPLE_BTF_FILE"

namespace Help

def blanks (n : Nat) : String := String.ofList (List.replicate n ' ')

def padRight (width : Nat) (text : String) : String := text ++ blanks (width - text.length)

def indentRest (width : Nat) (text : String) : String :=
  ("\n" ++ blanks width).intercalate (text.splitOn "\n")

def label (p : Parameter) : String :=
  match p.short? with
  | some c => String.ofList ['-', c] ++ ", " ++ p.display
  | none => "    " ++ p.display

def shownLabel (p : Parameter) : String :=
  match p.short? with
  | some _ => Text.Terminal.coloured (label p)
  | none => "    " ++ Text.Terminal.coloured p.display

def values (environment : Option String) : Parameter → List String
  | .setting .btf => ["[env: " ++ btfVariable ++ "=" ++ environment.getD "" ++ "]"]
  | .setting s => (s.default?.map fun value => "[default: " ++ value ++ "]").toList
  | .flag _ => []

def choices : Parameter → List (String × String)
  | .setting s => s.choices
  | .flag _ => []

def widest (texts : List String) : Nat := (texts.map (·.length)).foldl max 0

def column : Nat := widest (Parameter.all.map label)

def shortChoices (p : Parameter) : List String :=
  match choices p with
  | [] => []
  | cs => ["[possible values: " ++ ", ".intercalate (cs.map (·.1)) ++ "]"]

def summary (form : Form) (p : Parameter) : String :=
  match p, form with
  | .flag .help, .short => p.summary ++ " (see more with '--help')"
  | .flag .help, .long => p.summary ++ " (see a summary with '-h')"
  | _, _ => p.summary

def shortEntry (environment : Option String) (p : Parameter) : String :=
  "  " ++ shownLabel p ++ blanks (column + 2 - (label p).length) ++
    indentRest (column + 4)
      (" ".intercalate (summary .short p :: values environment p ++ shortChoices p))

def choiceLine (width : Nat) (choice : String × String) : String :=
  "\n          - " ++ padRight (width + 1) (choice.1 ++ ":") ++ " " ++ choice.2

def longChoices (p : Parameter) : String :=
  match choices p with
  | [] => ""
  | cs =>
    "\n\n          Possible values:" ++
      String.join (cs.map (choiceLine (widest (cs.map (·.1)))))

def longValues (environment : Option String) (p : Parameter) : String :=
  match values environment p with
  | [] => ""
  | vs => indentRest 10 ("\n\n" ++ " ".intercalate vs)

def longEntry (environment : Option String) (p : Parameter) : String :=
  "  " ++ shownLabel p ++ "\n          " ++ summary .long p ++ longChoices p ++
    longValues environment p

def entries (form : Form) (environment : Option String) : String :=
  match form with
  | .short => "\n".intercalate (Parameter.all.map (shortEntry environment))
  | .long => "\n\n".intercalate (Parameter.all.map (longEntry environment))

def examples : String :=
  "EXAMPLES:\n" ++
  "    sudo snoop                                  Trace openat(2) with ./example.bpf.o\n" ++
  "    sudo snoop -t sync --json                   Trace sync(2) as JSON lines\n" ++
  "    sudo snoop -o build/example.bpf.o --btf /sys/kernel/btf/vmlinux\n"

def text (form : Form) (environment : Option String) : String :=
  Text.Terminal.plain ("Trace file opens and sync calls with eBPF\n\n" ++ generalUsage ++
    "\n\nOptions:\n" ++ entries form environment ++ "\n\n" ++ examples)

end Help

end FileTrace.CommandLine
