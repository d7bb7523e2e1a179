namespace FileTrace.Log

inductive Level where
  | error
  | warn
  | info
  | debug
  deriving DecidableEq, Repr

namespace Level

def name : Level → String
  | .error => "error"
  | .warn => "warn"
  | .info => "info"
  | .debug => "debug"

def verbosity : Level → Nat
  | .error => 1
  | .warn => 2
  | .info => 3
  | .debug => 4

end Level

inductive Topic where
  | program
  | preflight
  | lifecycle
  | loader
  | decoding
  | consumer
  | session
  | sink
  deriving DecidableEq, Repr

def Topic.path : Topic → String
  | .program => "snoop"
  | .preflight => "snoop::preflight"
  | .lifecycle => "snoop::lifecycle"
  | .loader => "snoop::lifecycle::aya_unit"
  | .decoding => "snoop::decode"
  | .consumer => "snoop::consumer"
  | .session => "snoop::orchestrator"
  | .sink => "snoop::sink"

structure Line where
  level : Level
  topic : Topic
  text : String
  deriving DecidableEq, Repr

end FileTrace.Log
