import FileTrace.Program

namespace FileTrace.Main

def readText? (path : String) : IO (Option String) := do
  match ← (IO.FS.readFile path).toBaseIO with
  | .ok text => return some text
  | .error _ => return none

def readBytes? (path : String) : IO (Option (String × FileContent)) := do
  match ← (IO.FS.readBinFile path).toBaseIO with
  | .ok content => return some (path, .bytes content.toList)
  | .error _ => return none

def userOf (status : String) : Nat :=
  match (status.splitOn "\n").find? fun line => "Uid:".toList.isPrefixOf line.toList with
  | some line => ((line.splitOn "\t")[2]?.bind (·.toNat?)).getD 0
  | none => 0

def machine (paths : List String) : IO Host := do
  let files ← paths.filterMapM readBytes?
  let release ← readText? Host.releasePath
  let online ← readText? Host.onlinePath
  let status ← readText? "/proc/self/status"
  return {
    files := files
    release := release
    online := online
    uid := userOf (status.getD "")
    memlockFault := none
    mapsFail := false
    rejections := []
    tracepoints := none
    hasKprobes := false
    symbols := []
    eventsFail := false
    bindingFails := false
    enablingFails := false
    ringFaults := [] }

def wanted (environment : Option String) (arguments : List String) : List String :=
  match CommandLine.parse environment arguments with
  | .ok settings => settings.object :: settings.btf.toList
  | .error _ => []

end FileTrace.Main

open FileTrace in
def main (arguments : List String) : IO UInt32 := do
  let environment ← IO.getEnv CommandLine.btfVariable
  let host ← Main.machine (Main.wanted environment arguments)
  match Program.run host ⟨arguments, environment, none⟩ .epoch [] with
  | none => return 1
  | some run =>
    let stdout ← IO.getStdout
    let stderr ← IO.getStderr
    stdout.write ⟨run.output.toArray⟩
    stderr.putStr run.errors
    return UInt32.ofNat run.exitCode
