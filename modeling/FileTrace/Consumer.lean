import FileTrace.Journal
import FileTrace.Ring.Feed

namespace FileTrace

structure Stats where
  polls : Nat
  timeouts : Nat
  records : Nat
  emitted : Nat
  suppressed : Nat
  decodeErrors : Nat
  lost : Nat
  deriving DecidableEq, Repr

def Stats.zero : Stats := ⟨0, 0, 0, 0, 0, 0, 0⟩

inductive PollResult where
  | processed (records lost : Nat)
  | timeout
  deriving DecidableEq, Repr

structure Consumer where
  rings : List CpuId
  decoder : Decoder
  stats : Stats
  deriving DecidableEq, Repr

namespace Consumer

def logged (level : Log.Level) (text : String) : Journal := Journal.log level .consumer text

def releaseRings (rings : List CpuId) : Journal :=
  rings.map fun cpu => .ring (.release cpu)

def openRings (channel : Channel) (pages : Nat) :
    Nat → List CpuId → Except ConsumerError Unit × List CpuId × Journal
  | _, [] => (.ok (), [], [])
  | place, cpu :: rest =>
    match channel.openFault place cpu with
    | some reason => (.error (.ringNotOpened cpu reason), [], [.ring (.opening cpu pages reason)])
    | none =>
      let (answer, opened, later) := openRings channel pages (place + 1) rest
      (answer, cpu :: opened, .ring (.opening cpu pages none) :: later)

def isPowerOfTwo (n : Nat) : Bool := n != 0 && n &&& (n - 1) == 0

def releasedText (opened : Nat) (cpu : CpuId) : String :=
  "Releasing " ++ toString opened ++ " perf buffers opened before CPU " ++ cpu.display ++ " failed"

def openedText (opened pages : Nat) : String :=
  "Opened " ++ toString opened ++ " perf buffers (" ++ toString pages ++ " pages each)"

def setbackText (opened : Nat) : ConsumerError → Journal
  | .ringNotOpened cpu _ => logged .debug (releasedText opened cpu)
  | _ => []

def create (channel : Channel) (pages : Nat) (decoder : Decoder) :
    Except ConsumerError Consumer × Journal :=
  if isPowerOfTwo pages then
    match channel.cpus with
    | .error reason => (.error (.cpusUnknown reason), [.ring (.cpus (.error reason))])
    | .ok cpus =>
      match openRings channel pages 0 cpus with
      | (.ok (), opened, journal) =>
        (.ok ⟨opened, decoder, .zero⟩,
          .ring (.cpus (.ok cpus)) :: journal ++ logged .info (openedText opened.length pages))
      | (.error e, opened, journal) =>
        (.error e,
          .ring (.cpus (.ok cpus)) :: journal ++ setbackText opened.length e ++
            releaseRings opened)
  else (.error (.invalidPageCount pages), [])

def takeSample (decoder : Decoder) (cpu : CpuId) (raw : List UInt8) (stats : Stats) :
    Stats × Journal :=
  let stats := { stats with records := stats.records + 1 }
  match decoder.decode raw with
  | .ok (some event) => ({ stats with emitted := stats.emitted + 1 }, [.delivery (.emit event)])
  | .ok none => ({ stats with suppressed := stats.suppressed + 1 }, [])
  | .error e =>
    ({ stats with decodeErrors := stats.decodeErrors + 1 },
      logged .warn ("Skipping record from CPU " ++ cpu.display ++ ": " ++ e.message))

def takeSamples (decoder : Decoder) (cpu : CpuId) : List (List UInt8) → Stats → Stats × Journal
  | [], stats => (stats, [])
  | raw :: rest, stats =>
    let (stats, now) := takeSample decoder cpu raw stats
    let (stats, later) := takeSamples decoder cpu rest stats
    (stats, now ++ later)

def takeLoss (cpu : CpuId) (count : Nat) (stats : Stats) : Stats × Journal :=
  if count = 0 then (stats, [])
  else ({ stats with lost := stats.lost + count }, [.delivery (.loss cpu count)])

def takeBatch (decoder : Decoder) (cpu : CpuId) (batch : Batch) (stats : Stats) :
    Stats × Journal :=
  let (stats, losses) := takeLoss cpu batch.lost stats
  let (stats, events) := takeSamples decoder cpu batch.samples stats
  (stats, .ring (.read cpu batch) :: losses ++ events)

def takeBatches (decoder : Decoder) (cpu : CpuId) : List Batch → Stats → Stats × Journal
  | [], stats => (stats, [])
  | batch :: rest, stats =>
    let (stats, now) := takeBatch decoder cpu batch stats
    let (stats, later) := takeBatches decoder cpu rest stats
    (stats, now ++ later)

structure Polled where
  result : Except ConsumerError PollResult
  consumer : Consumer
  feed : Feed
  journal : Journal

def samplesOf (batches : List Batch) : Nat :=
  batches.foldr (fun b n => b.samples.length + n) 0

def lossOf (batches : List Batch) : Nat :=
  batches.foldr (fun b n => b.lost + n) 0

def drainRings (records lost : Nat) (c : Consumer) (f : Feed) : List CpuId → Polled
  | [] => ⟨.ok (.processed records lost), c, f, []⟩
  | cpu :: rest =>
    let drained := Queue.drain (f.queue cpu)
    let (stats, journal) := takeBatches c.decoder cpu drained.batches c.stats
    let c := { c with stats := stats }
    let f := f.setQueue cpu drained.rest
    match drained.fault with
    | some reason =>
      ⟨.error (.pollFailed reason), c, f, journal ++ [.ring (.readFault cpu reason)]⟩
    | none =>
      let later := drainRings (records + samplesOf drained.batches)
        (lost + lossOf drained.batches) c f rest
      { later with journal := journal ++ later.journal }

def noRings : ConsumerError := .pollFailed "consumer has no open buffers"

def countPoll (c : Consumer) : Consumer :=
  { c with stats := { c.stats with polls := c.stats.polls + 1 } }

def countTimeout (c : Consumer) : Consumer :=
  { c with stats := { c.stats with timeouts := c.stats.timeouts + 1 } }

def poll (timeout : Nat) (c : Consumer) (f : Feed) : Polled :=
  if c.rings.isEmpty then ⟨.error noRings, c, f, []⟩
  else
    match f.await c.rings (f.now + timeout) with
    | (.timedOut, f) => ⟨.ok .timeout, c.countPoll.countTimeout, f, []⟩
    | (.failed cpu reason, f) =>
      ⟨.error (.pollFailed reason), c.countPoll, f, [.ring (.waitFault cpu reason)]⟩
    | (.ready cpus, f) => drainRings 0 0 c.countPoll f cpus

def destroy (c : Consumer) : Consumer × Journal :=
  if c.rings.isEmpty then (c, [])
  else
    ({ c with rings := [] },
      logged .debug ("Releasing " ++ toString c.rings.length ++ " perf buffers") ++
        releaseRings c.rings)

end Consumer

end FileTrace
