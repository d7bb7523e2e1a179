import FileTrace.Main
import FileTrace.Proofs.Consumer.Accounting
import FileTrace.Proofs.Consumer.DrainLoop
import FileTrace.Proofs.Consumer.Ownership
import FileTrace.Proofs.Consumer.Resumption
import FileTrace.Proofs.Consumer.SinglePass
import FileTrace.Proofs.Consumer.Waiting
import FileTrace.Proofs.Lifecycle.Atomicity
import FileTrace.Proofs.Lifecycle.Discipline
import FileTrace.Proofs.Lifecycle.Reset
import FileTrace.Proofs.Record.Decoding
import FileTrace.Proofs.Release.Grammar
import FileTrace.Proofs.Release.Order
import FileTrace.Proofs.Session.Layouts
import FileTrace.Proofs.Session.Orderly
import FileTrace.Proofs.Session.Summary
import FileTrace.Proofs.Sink.ConsoleLines
import FileTrace.Proofs.Sink.Fragments
import FileTrace.Scripted
import FileTrace.Scripted.Notes
import FileTrace.Target
import FileTrace.Proofs.CpuList.Grammar
import FileTrace.Proofs.CpuList.Rendering
import FileTrace.Proofs.Record.Meaningful
import FileTrace.Proofs.Sink.Failures
import FileTrace.Proofs.Record.Texts
import FileTrace.Proofs.CommandLine.Order
import FileTrace.Proofs.Host.Lookups
import FileTrace.Proofs.Sink.ConsoleTail
