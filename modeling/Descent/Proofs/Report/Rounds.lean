import Mathlib.Data.Prod.Lex
import Mathlib.Order.WithBot
import Descent.Proofs.Report.Quote
import Descent.Proofs.Report.Writing
import Descent.Report.Queue
import Descent.Text.Unicode

/-!
# Rounds of diagnostics

Whatever is done with a queue, it is done in rounds: diagnostics are registered, and then all of
them are emitted.  Each round starts with the empty queue, so it emits what was registered in it
and nothing else.  A round that runs out of room has written a beginning of that, and what is left
of it is gone.

The order is by source and place, and where both are the same as it was registered.  `Ordered`
says so without sorting: the list is sorted by its keys, and for each key it has the diagnostics
of that key in the order in which they came.  There is only one such list.
-/

namespace Descent.Report

/-! ### The order of diagnostics -/

/-- What is missing, before everything that is there. -/
def missingFirst {α : Type} : Option α → WithBot α
  | none => ⊥
  | some a => a

/-- What diagnostics are ordered by: the source, and then the place. -/
def Diagnostic.key (diagnostic : Diagnostic) : WithBot SourceId ×ₗ WithBot (ℕ ×ₗ ℕ) :=
  toLex (missingFirst diagnostic.source,
    missingFirst (diagnostic.location.map fun caret => toLex (caret.line, caret.column)))

@[simp] theorem missingFirst_inj {α : Type} {a b : Option α} :
    missingFirst a = missingFirst b ↔ a = b := by
  cases a <;> cases b <;> simp [missingFirst]

/-- Comparing what may be missing puts what is missing first. -/
theorem optionLe_iff {α β : Type} [LE β] {le : α → α → Bool} {f : α → β}
    (h : ∀ a b, le a b = true ↔ f a ≤ f b) (a b : Option α) :
    optionLe le a b = true ↔ missingFirst (a.map f) ≤ missingFirst (b.map f) := by
  cases a with
  | none => exact iff_of_true rfl bot_le
  | some a =>
    cases b with
    | none => exact iff_of_false Bool.false_ne_true (WithBot.not_coe_le_bot (f a))
    | some b => exact (h a b).trans WithBot.coe_le_coe.symm

/-- Pairs are compared by what comes second only where the first is the same. -/
theorem toLex_le_toLex_iff {α β : Type} [PartialOrder α] [DecidableEq α] [LE β] (s t : α)
    (p q : β) : toLex (s, p) ≤ toLex (t, q) ↔ if s = t then p ≤ q else s ≤ t := by
  rw [Prod.Lex.toLex_le_toLex]
  split
  · simp [*]
  · simp [*, le_iff_lt_or_eq]

/-- Diagnostics precede each other as their keys do. -/
theorem Diagnostic.precedes_iff (a b : Diagnostic) : a.precedes b = true ↔ a.key ≤ b.key := by
  have places (p q : Caret) : decide (p ≤ q) = true ↔
      toLex (p.line, p.column) ≤ toLex (q.line, q.column) := by
    rw [decide_eq_true_iff, Prod.Lex.toLex_le_toLex, Caret.le_iff]
  have sources (s t : SourceId) : decide (s ≤ t) = true ↔ id s ≤ id t := decide_eq_true_iff
  rw [Diagnostic.key, Diagnostic.key, toLex_le_toLex_iff]
  simp only [Diagnostic.precedes, missingFirst_inj]
  split
  · exact optionLe_iff places a.location b.location
  · simpa using optionLe_iff sources a.source b.source

/-- `Ordered registered order` says that `order` is the order in which registered diagnostics are
emitted. -/
structure Ordered (registered order : List Diagnostic) : Prop where
  /-- Every diagnostic is there as often as it was registered. -/
  perm : order.Perm registered
  /-- They are ordered by source and place. -/
  sorted : order.Pairwise fun a b => a.key ≤ b.key
  /-- Those with the same source and place stay in the order in which they were registered. -/
  stable : ∀ key, order.filter (·.key = key) = registered.filter (·.key = key)

/-- **A queue is sorted** by source and place, with ties in the order of registration. -/
theorem ordered_sorted (queue : Queue) : Ordered queue.pending queue.sorted := by
  have trans (a b c : Diagnostic) (hab : a.precedes b) (hbc : b.precedes c) : a.precedes c := by
    rw [Diagnostic.precedes_iff] at *
    exact hab.trans hbc
  have total (a b : Diagnostic) : (a.precedes b || b.precedes a) = true := by
    simpa [Diagnostic.precedes_iff] using le_total a.key b.key
  refine ⟨queue.perm_sorted, ?_, fun key => ?_⟩
  · exact (List.pairwise_mergeSort trans total queue.pending).imp fun h =>
      (Diagnostic.precedes_iff _ _).mp h
  · -- Those with one key are in order already, so that sorting leaves them as they are.
    have alike : (queue.pending.filter (·.key = key)).Pairwise fun a b => a.precedes b := by
      refine List.pairwise_of_forall_mem_list fun a ha b hb => ?_
      have ha := (List.mem_filter.mp ha).2
      have hb := (List.mem_filter.mp hb).2
      simp_all [Diagnostic.precedes_iff]
    have kept := (List.sublist_mergeSort trans total alike List.filter_sublist).filter (·.key = key)
    have length := (queue.perm_sorted.filter (·.key = key)).length_eq
    simp only [List.filter_filter, Bool.and_self] at kept
    exact (kept.eq_of_length length.symm).symm

/-- A list that is in order stays as it is. -/
theorem Ordered.eq_of_pairwise {registered order : List Diagnostic} (h : Ordered registered order)
    (sorted : registered.Pairwise fun a b => a.key ≤ b.key) : order = registered := by
  induction order generalizing registered with
  | nil => exact h.perm.nil_eq
  | cons a order ih =>
    cases registered with
    | nil => exact h.perm.eq_nil
    | cons b registered =>
      have above := List.pairwise_cons.mp h.sorted
      rw [List.pairwise_cons] at sorted
      -- Both lists start with the least key, and those with this key are in the same order.
      have key : a.key = b.key := by
        refine le_antisymm ?_ ?_
        · rcases List.mem_cons.mp (h.perm.mem_iff.mpr List.mem_cons_self) with same | mem
          · rw [same]
          · exact above.1 b mem
        · rcases List.mem_cons.mp (h.perm.mem_iff.mp List.mem_cons_self) with same | mem
          · rw [same]
          · exact sorted.1 a mem
      obtain rfl : a = b := by
        simpa [key] using congrArg List.head? (h.stable b.key)
      refine congrArg (a :: ·) (ih ⟨(List.perm_cons a).mp h.perm, above.2, fun key => ?_⟩ sorted.2)
      have whole := h.stable key
      rw [List.filter_cons, List.filter_cons] at whole
      split at whole
      · exact (List.cons.inj whole).2
      · exact whole

/-- **There is only one such order.** -/
theorem Ordered.unique {registered order other : List Diagnostic} (h : Ordered registered order)
    (h' : Ordered registered other) : order = other :=
  have both : Ordered other order :=
    ⟨h.perm.trans h'.perm.symm, h.sorted, fun key => (h.stable key).trans (h'.stable key).symm⟩
  both.eq_of_pairwise h'.sorted

/-! ### Calls -/

/-- A call on a queue. -/
inductive Queue.Call where
  /-- A diagnostic is registered. -/
  | register (diagnostic : Diagnostic)
  /-- All diagnostics are emitted. -/
  | emit (layout : Layout) (sources : Sources) (room : Option Nat)
deriving DecidableEq, Repr

variable [Text.Typography] in
/-- What comes of calls, one after the other: what each emit writes together with the queue that it
leaves, and the queue after all of them. -/
def Queue.run (queue : Queue) : List Queue.Call → List (Written × Queue) × Queue
  | [] => ([], queue)
  | .register diagnostic :: calls => (queue.register diagnostic).run calls
  | .emit layout sources room :: calls =>
    let emitted := queue.emit layout sources room
    let (later, last) := emitted.2.run calls
    (emitted :: later, last)

variable [Text.Typography] in
/-- `layout.Shows sources diagnostic text` says that `text` is written for a diagnostic. -/
def Layout.Shows (layout : Layout) (sources : Sources) (diagnostic : Diagnostic) (text : String) :
    Prop :=
  write none (layout.pieces sources diagnostic) = .complete text

/-- Diagnostics that are registered one after the other, and then emitted. -/
structure Round where
  /-- The diagnostics. -/
  registered : List Diagnostic
  /-- The layout in which they are emitted. -/
  layout : Layout
  /-- The sources that they are about. -/
  sources : Sources
  /-- The room there is for them, if it is limited. -/
  room : Option Nat
deriving DecidableEq, Repr

namespace Round

variable [Text.Typography]

/-- The calls of a round. -/
def calls (round : Round) : List Queue.Call :=
  round.registered.map .register ++ [.emit round.layout round.sources round.room]

/-- What is emitted if there is nothing else in the queue. -/
def emitted (round : Round) : Written × Queue :=
  Queue.emit ⟨round.registered⟩ round.layout round.sources round.room

/-- Every diagnostic of the round can be shown. -/
def Showable (round : Round) : Prop :=
  ∀ diagnostic ∈ round.registered, diagnostic.Showable round.sources

instance (round : Round) : Decidable round.Showable :=
  inferInstanceAs (Decidable (∀ _ ∈ _, _))

/-- `round.Presented emitted` says that an emit presents the diagnostics of a round, each of them
once and in order, as far as there is room for them, and leaves nothing in the queue. -/
structure Presented (round : Round) (emitted : Written × Queue) : Prop where
  /-- The queue is empty. -/
  drained : emitted.2 = Queue.empty
  /-- The texts of the diagnostics are written one after the other, as they are where there is room
  for anything. -/
  written : ∃ order texts, Ordered round.registered order ∧
    List.Forall₂ (round.layout.Shows round.sources) order texts ∧
    ({ round with room := none } : Round).emitted.1 = .complete (String.join texts) ∧
    WrittenUpTo (String.join texts) round.room emitted.1

/-- **A queue presents its diagnostics**, if all of them can be shown. -/
theorem presented_emitted {round : Round} (showable : round.Showable) :
    round.Presented round.emitted where
  drained := rfl
  written := by
    let order := (Queue.mk round.registered).sorted
    have ordered : Ordered round.registered order := ordered_sorted ⟨round.registered⟩
    have shown : ∀ diagnostic ∈ order, ∃ text,
        round.layout.Shows round.sources diagnostic text := fun diagnostic mem =>
      exists_write_eq_complete fun overflow =>
        (overflow_mem_pieces_iff _ _ _).mp overflow
          (showable diagnostic (ordered.perm.mem_iff.mp mem))
    choose! text shown using shown
    have each : List.Forall₂ (round.layout.Shows round.sources) order (order.map text) :=
      List.forall₂_map_right_iff.mpr (List.forall₂_same.mpr shown)
    have whole := write_flatMap each
    have emitted (room : Option Nat) : (Queue.emit ⟨round.registered⟩ round.layout round.sources
        room).1 = write room (order.flatMap (round.layout.pieces round.sources)) :=
      emitEach_eq_write round.layout round.sources room order
    exact ⟨order, order.map text, ordered, each, (emitted none).trans whole,
      (emitted round.room) ▸ writtenUpTo_write whole round.room⟩

end Round

/-- Calls, taken apart into rounds. -/
structure History where
  /-- The rounds. -/
  rounds : List Round
  /-- What is registered after the last of them. -/
  pending : List Diagnostic
deriving DecidableEq, Repr

namespace History

/-- The calls, one after the other. -/
def calls (history : History) : List Queue.Call :=
  history.rounds.flatMap Round.calls ++ history.pending.map .register

/-- What is registered first of all belongs to the first round. -/
def register (diagnostic : Diagnostic) : History → History
  | ⟨[], pending⟩ => ⟨[], diagnostic :: pending⟩
  | ⟨round :: later, pending⟩ =>
    ⟨{ round with registered := diagnostic :: round.registered } :: later, pending⟩

/-- The rounds that calls make up. -/
def ofCalls : List Queue.Call → History
  | [] => ⟨[], []⟩
  | .register diagnostic :: calls => (ofCalls calls).register diagnostic
  | .emit layout sources room :: calls =>
    ⟨⟨[], layout, sources, room⟩ :: (ofCalls calls).rounds, (ofCalls calls).pending⟩

theorem calls_register (diagnostic : Diagnostic) (history : History) :
    (history.register diagnostic).calls = .register diagnostic :: history.calls := by
  obtain ⟨rounds, pending⟩ := history
  cases rounds <;> rfl

/-- **All calls make up rounds**, with what is registered after the last of them. -/
theorem calls_ofCalls (calls : List Queue.Call) : (ofCalls calls).calls = calls := by
  induction calls with
  | nil => rfl
  | cons call calls ih =>
    cases call with
    | register diagnostic => rw [ofCalls, calls_register, ih]
    | emit layout sources room => exact congrArg (Queue.Call.emit layout sources room :: ·) ih

end History

namespace Queue

variable [Text.Typography]

/-- What is registered is put behind what is there. -/
theorem run_register_append (queue : Queue) (diagnostics : List Diagnostic) (calls : List Call) :
    queue.run (diagnostics.map .register ++ calls) =
      Queue.run ⟨queue.pending ++ diagnostics⟩ calls := by
  induction diagnostics generalizing queue with
  | nil => rw [List.append_nil]; rfl
  | cons diagnostic diagnostics ih =>
    rw [List.map_cons, List.cons_append, run, ih, pending_register, List.append_assoc,
      List.singleton_append]

/-- A round that starts with the empty queue leaves it empty. -/
theorem run_round_append (round : Round) (calls : List Call) :
    empty.run (round.calls ++ calls) =
      (round.emitted :: (empty.run calls).1, (empty.run calls).2) := by
  rw [Round.calls, List.append_assoc, run_register_append]
  rfl

/-- **Each round starts with the empty queue**, and what is registered after the last round stays in
it. -/
theorem run_calls (history : History) :
    empty.run history.calls = (history.rounds.map Round.emitted, ⟨history.pending⟩) := by
  obtain ⟨rounds, pending⟩ := history
  induction rounds with
  | nil => simpa [History.calls, run] using run_register_append empty pending []
  | cons round rounds ih =>
    rw [History.calls] at ih
    rw [History.calls, List.flatMap_cons, List.append_assoc, run_round_append, ih, List.map_cons]

/-- **Every diagnostic is emitted once, in its round.**  Whatever calls there are on a queue that
is empty at first, they make up rounds; the emit of each round presents the diagnostics that were
registered since the emit before it, as far as there is room for them; and what is registered
after the last emit is what is left. -/
theorem emitted_exact (calls : List Call)
    (showable : ∀ round ∈ (History.ofCalls calls).rounds, round.Showable) :
    (History.ofCalls calls).calls = calls ∧
      List.Forall₂ Round.Presented (History.ofCalls calls).rounds (empty.run calls).1 ∧
      (empty.run calls).2.pending = (History.ofCalls calls).pending := by
  have run := run_calls (History.ofCalls calls)
  rw [History.calls_ofCalls] at run
  refine ⟨History.calls_ofCalls calls, ?_, by rw [run]⟩
  rw [run, List.forall₂_map_right_iff, List.forall₂_same]
  exact fun round mem => Round.presented_emitted (showable round mem)

end Queue

/-- Two diagnostics on the lines of a text, registered in the other order, and one about nothing
for which there is too little room. -/
theorem Queue.emitted_exact_lines :
    let sources : Sources := #[⟨.argument, "one\ntwo\n"⟩]
    let calls : List Queue.Call :=
      [.register { text := "second", source := some 0, span := some (Span.point ⟨1, 0⟩) },
        .register { text := "first", source := some 0, span := some (Span.point ⟨0, 0⟩) },
        .emit .plain sources none, .register (.ofText "third"), .emit .plain sources (some 3),
        .register (.ofText "fourth")]
    (∀ round ∈ (History.ofCalls calls).rounds, round.Showable) ∧
      (History.ofCalls calls).calls = calls ∧
      List.Forall₂ Round.Presented (History.ofCalls calls).rounds (empty.run calls).1 ∧
      (empty.run calls).2.pending = (History.ofCalls calls).pending := by
  intro sources calls
  have showable : ∀ round ∈ (History.ofCalls calls).rounds, round.Showable := by decide +kernel
  exact ⟨showable, Queue.emitted_exact calls showable⟩

/-! ### A line that is too wide -/

variable [Text.Typography] in
/-- A diagnostic cannot be shown behind too many letters. -/
theorem not_showable_of_letters {columns : Nat} (wide : maxPadding < columns) (text : String) :
    ¬ Diagnostic.Showable #[⟨.argument, String.ofList (List.replicate columns 'a')⟩]
      { text, source := some 0, span := some (Span.point ⟨0, columns⟩) } := by
  have letters : ∀ c ∈ List.replicate columns 'a', c = 'a' := fun c => List.eq_of_mem_replicate
  have nonempty : List.replicate columns 'a' ≠ [] :=
    List.ne_nil_of_length_pos (by rw [List.length_replicate]; omega)
  obtain ⟨tail, others, lines⟩ := Text.exists_lines_eq_cons nonempty
    (fun mem => absurd (letters _ mem) (by decide))
    (by rw [letters _ (List.getLast_mem nonempty)]; decide) []
  rw [List.append_nil] at lines
  refine Diagnostic.not_showable_of_wide (by rw [String.toList_ofList]; exact lines) ?_ text
  rw [List.take_left' List.length_replicate,
    Text.displayWidth_of_printed fun _ => Text.isPrinted_of_mem_replicate, List.length_replicate]
  exact wide

variable [Text.Typography] in
/-- A diagnostic that is alone in the queue is all that is written. -/
theorem Queue.run_single (layout : Layout) (sources : Sources) (diagnostic : Diagnostic) :
    (Queue.empty.run [.register diagnostic, .emit layout sources none]).1 =
      [(write none (layout.pieces sources diagnostic), Queue.empty)] := by
  simp [Queue.run, Queue.emit_eq, emitEach_eq_write, Queue.sorted]

/-- **Not everything is presented** if there are more columns before the underline than can be
padded: the writing stops there, although the place can be counted from one. -/
theorem not_presented_wide :
    let line := String.ofList (List.replicate 65536 'a')
    let diagnostic : Diagnostic :=
      { text := "x", source := some 0, span := some (Span.point ⟨0, 65536⟩) }
    let calls : List Queue.Call := [.register diagnostic, .emit .plain #[⟨.argument, line⟩] none]
    (∀ caret ∈ diagnostic.location, caret.line < Caret.last ∧ caret.column < Caret.last) ∧
      (∃ text, (Queue.empty.run calls).1 = [(.overflow text, Queue.empty)]) ∧
      ¬ List.Forall₂ Round.Presented (History.ofCalls calls).rounds (Queue.empty.run calls).1 := by
  intro line diagnostic calls
  have wide : maxPadding < 65536 := by decide
  obtain ⟨text, overflow⟩ := exists_write_eq_overflow <|
    (overflow_mem_pieces_iff .plain _ _).mpr (not_showable_of_letters wide "x")
  have emitted : (Queue.empty.run calls).1 = [(.overflow text, Queue.empty)] := by
    rw [Queue.run_single, overflow]
  refine ⟨by decide, ⟨text, emitted⟩, fun presented => ?_⟩
  rw [emitted] at presented
  obtain ⟨⟨_, order, texts, _, _, _, written⟩, _⟩ := List.forall₂_cons.mp presented
  cases written

end Descent.Report
