import Descent.Report.Emission

/-!
# Queues of diagnostics

Diagnostics are collected and emitted together, in the order of what they are about.  To emit them
they are all taken out of the queue first, and then written one after another up to the first that
does not come out as a whole.  Those behind it are not put back.

Everything that is said about what is written is said of one list of pieces, since the room that is
left after a diagnostic is what the next one finds: `emitEach_eq_write`.
-/

namespace Descent.Report

/-- Diagnostics in the order in which they were registered. -/
structure Queue where
  /-- The diagnostics. -/
  pending : List Diagnostic
deriving DecidableEq, Repr

/-- Whether one thing, if it is there, does not come after another.  What is missing comes
first. -/
def optionLe {α : Type} (le : α → α → Bool) : Option α → Option α → Bool
  | none, _ => true
  | some _, none => false
  | some a, some b => le a b

/-- Whether a diagnostic may be emitted before another: its source comes first, or it is the same
and its place does not come after the other's. -/
def Diagnostic.precedes (a b : Diagnostic) : Bool :=
  if a.source = b.source then
    optionLe (fun (p q : Caret) => decide (p ≤ q)) a.location b.location
  else optionLe (fun (s t : SourceId) => decide (s ≤ t)) a.source b.source

namespace Queue

/-- The queue without diagnostics. -/
def empty : Queue := ⟨[]⟩

/-- The queue with one more diagnostic. -/
def register (queue : Queue) (diagnostic : Diagnostic) : Queue :=
  ⟨queue.pending ++ [diagnostic]⟩

/-- Whether there are no diagnostics. -/
def isEmpty (queue : Queue) : Bool := queue.pending.isEmpty

/-- Whether a diagnostic is an error. -/
def hasErrors (queue : Queue) : Bool :=
  queue.pending.any fun diagnostic => diagnostic.level == .error

/-- The diagnostics by source and place.  Those with the same ones keep their order. -/
def sorted (queue : Queue) : List Diagnostic :=
  queue.pending.mergeSort Diagnostic.precedes

/-- The diagnostics in the order in which they are emitted, and the queue once they are taken out
of it. -/
def drain (queue : Queue) : List Diagnostic × Queue := (queue.sorted, empty)

@[simp] theorem pending_register (queue : Queue) (diagnostic : Diagnostic) :
    (queue.register diagnostic).pending = queue.pending ++ [diagnostic] := rfl

@[simp] theorem pending_empty : empty.pending = [] := rfl

/-- Sorting neither loses nor adds a diagnostic. -/
theorem perm_sorted (queue : Queue) : queue.sorted.Perm queue.pending :=
  List.mergeSort_perm _ _

end Queue

variable [Text.Typography]

/-- Writes diagnostics one after another where there is room for some number of bytes, or for all.
The first of which not everything is written is the last. -/
def emitEach (layout : Layout) (sources : Sources) (room : Option Nat) :
    List Diagnostic → Written
  | [] => .complete ""
  | diagnostic :: diagnostics =>
    match write room (layout.pieces sources diagnostic) with
    | .complete text =>
      (emitEach layout sources (room.map (· - text.utf8ByteSize)) diagnostics).prepend text
    | .full text => .full text
    | .overflow text => .overflow text

namespace Queue

/-- Writes all diagnostics where there is room for some number of bytes, or for all. -/
def emit (queue : Queue) (layout : Layout) (sources : Sources) (room : Option Nat) :
    Written × Queue :=
  let (diagnostics, queue) := queue.drain
  (emitEach layout sources room diagnostics, queue)

/-- All diagnostics are written one after another, and none is left. -/
theorem emit_eq (queue : Queue) (layout : Layout) (sources : Sources) (room : Option Nat) :
    queue.emit layout sources room = (emitEach layout sources room queue.sorted, empty) := rfl

end Queue

/-- **Emitting diagnostics one after another** is writing the pieces of all of them. -/
theorem emitEach_eq_write (layout : Layout) (sources : Sources) (room : Option Nat)
    (diagnostics : List Diagnostic) :
    emitEach layout sources room diagnostics =
      write room (diagnostics.flatMap (layout.pieces sources)) := by
  induction diagnostics generalizing room with
  | nil => cases room <;> rfl
  | cons diagnostic diagnostics ih =>
    rw [emitEach, List.flatMap_cons, write_append]
    cases write room (layout.pieces sources diagnostic) with
    | complete text => exact congrArg (Written.prepend text) (ih _)
    | full text => rfl
    | overflow text => rfl

end Descent.Report
