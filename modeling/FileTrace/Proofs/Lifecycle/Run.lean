import FileTrace.Lifecycle

namespace FileTrace

def Outcome.map {W α β : Type} (f : α → β) (o : Outcome W α) : Outcome W β :=
  ⟨o.result.map f, o.state, o.journal⟩

namespace Lifecycle

variable {W : Type}

inductive Action where
  | openObject (request : OpenRequest)
  | select (name : String)
  | load
  | attach (program : SelectedProgram) (point : AttachPoint)
  | resolveMap (name : String)
  | startPolling
  | close
  | renew
  deriving DecidableEq

inductive Answer where
  | done
  | program (program : SelectedProgram)
  | channel (channel : Channel)

def Action.perform (k : Kernel W) : Action → Lifecycle W → Outcome W Answer
  | .openObject request, s => (s.openObject k request).map fun _ => .done
  | .select name, s => (s.select k name).map .program
  | .load, s => (s.load k).map fun _ => .done
  | .attach program point, s => (s.attach k program point).map fun _ => .done
  | .resolveMap name, s => (s.resolveMap k name).map .channel
  | .startPolling, s => s.startPolling.map fun _ => .done
  | .close, s => ⟨.ok .done, (s.close k).1, (s.close k).2⟩
  | .renew, s => ⟨.ok .done, fresh (s.close k).1.kernel, (s.close k).2⟩

def final (k : Kernel W) (actions : List Action) (s : Lifecycle W) : Lifecycle W :=
  actions.foldl (fun s action => (action.perform k s).state) s

def history (k : Kernel W) : List Action → Lifecycle W → Journal
  | [], _ => []
  | action :: rest, s => (action.perform k s).journal ++ history k rest (action.perform k s).state

theorem history_append (k : Kernel W) (xs ys : List Action) (s : Lifecycle W) :
    history k (xs ++ ys) s = history k xs s ++ history k ys (final k xs s) := by
  induction xs generalizing s with
  | nil => rfl
  | cons action rest ih =>
    rw [List.cons_append, history, ih, history, List.append_assoc]
    rfl

end Lifecycle

end FileTrace
