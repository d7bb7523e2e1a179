import FileTrace.Session

namespace FileTrace.CommandLine

inductive Flag where
  | verbose
  | json
  | help
  | version
  deriving DecidableEq, Repr

inductive Setting where
  | object
  | btf
  | target
  | pages
  | pollTimeout
  | layout
  | threshold
  deriving DecidableEq, Repr

inductive Parameter where
  | flag (f : Flag)
  | setting (s : Setting)
  deriving DecidableEq, Repr

inductive LayoutChoice where
  | auto
  | legacy
  | current
  deriving DecidableEq, Repr

def LayoutChoice.all : List LayoutChoice := [.auto, .legacy, .current]

def LayoutChoice.name : LayoutChoice → String
  | .auto => "auto"
  | .legacy => "legacy"
  | .current => "current"

def LayoutChoice.meaning : LayoutChoice → String
  | .auto => "Pick by comparing the running kernel with --layout-threshold"
  | .legacy => "Raw flags and mode words"
  | .current => "Flags and mode read from `open_how`"

def LayoutChoice.ofName? (name : String) : Option LayoutChoice :=
  all.find? (·.name == name)

def targetMeaning : Target → String
  | .openat => "`openat(2)` via the `syscalls/sys_enter_openat` tracepoint"
  | .openat2 => "`openat2(2)` and friends via a kprobe on `do_sys_openat2`"
  | .sync => "`sync(2)` via the `syscalls/sys_enter_sync` tracepoint"
  | .ksysSync => "`sync(2)` via a kprobe on `ksys_sync`"

def defaultThreshold : Release := ⟨"5.9.0", [5, 9, 0]⟩

namespace Flag

def long : Flag → String
  | .verbose => "verbose"
  | .json => "json"
  | .help => "help"
  | .version => "version"

def short? : Flag → Option Char
  | .verbose => some 'v'
  | .json => none
  | .help => some 'h'
  | .version => some 'V'

def isQuestion : Flag → Bool
  | .help => true
  | .version => true
  | _ => false

end Flag

namespace Setting

def long : Setting → String
  | .object => "object"
  | .btf => "btf"
  | .target => "target"
  | .pages => "pages"
  | .pollTimeout => "poll-timeout-ms"
  | .layout => "layout"
  | .threshold => "layout-threshold"

def short? : Setting → Option Char
  | .object => some 'o'
  | .target => some 't'
  | _ => none

def valueName : Setting → String
  | .object => "PATH"
  | .btf => "PATH"
  | .target => "TARGET"
  | .pages => "PAGES"
  | .pollTimeout => "MS"
  | .layout => "LAYOUT"
  | .threshold => "RELEASE"

def choices : Setting → List (String × String)
  | .target => Target.all.map fun t => (t.name, targetMeaning t)
  | .layout => LayoutChoice.all.map fun l => (l.name, l.meaning)
  | _ => []

def default? : Setting → Option String
  | .object => some "example.bpf.o"
  | .btf => none
  | .target => some Target.openat.name
  | .pages => some "16"
  | .pollTimeout => some "100"
  | .layout => some LayoutChoice.auto.name
  | .threshold => some defaultThreshold.text

end Setting

namespace Parameter

def all : List Parameter :=
  [.flag .verbose, .setting .object, .setting .btf, .setting .target, .setting .pages,
    .setting .pollTimeout, .setting .layout, .setting .threshold, .flag .json, .flag .help,
    .flag .version]

def long : Parameter → String
  | .flag f => f.long
  | .setting s => s.long

def short? : Parameter → Option Char
  | .flag f => f.short?
  | .setting s => s.short?

def display : Parameter → String
  | .flag f => "--" ++ f.long
  | .setting s => "--" ++ s.long ++ " <" ++ s.valueName ++ ">"

def ofLong? (name : String) : Option Parameter := all.find? (·.long == name)

def ofShort? (c : Char) : Option Parameter := all.find? (·.short? == some c)

def summary : Parameter → String
  | .flag .verbose => "Debug logging and a verbose verifier log"
  | .flag .json => "Print events as JSON lines"
  | .flag .help => "Print help"
  | .flag .version => "Print version"
  | .setting .object => "Compiled instrumentation object"
  | .setting .btf => "BTF file used for CO-RE relocations instead of the kernel's"
  | .setting .target => "What to trace"
  | .setting .pages => "Perf buffer pages per CPU (power of two)"
  | .setting .pollTimeout => "Upper bound on one poll wait, in milliseconds"
  | .setting .layout => "Open record layout"
  | .setting .threshold =>
    "First kernel release whose open records carry open_how (with --layout auto)"

end Parameter

end FileTrace.CommandLine
