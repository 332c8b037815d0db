import Descent.Proofs.Grammar.Sections

/-!
# Lines that are not read

The words of a line say alone whether it is read, once it is known which names are declared as
nonterminals: names of terminals must not be among them, and a production line must have an arrow
with one of them before it and something on each side of every bar after it.  Of several flaws one
is to blame, and which one is said here by the words, not by how they are gone through.

Each case of `Document.Malformed` therefore also says that the flaws of the cases before it are
not there.
-/

namespace Descent

open Document

variable {draft : Draft} {left name : Symbol} {names nonterminals terminals : List Symbol}
  {cause : GrammarError}

namespace Document

variable {declared : Symbol → Prop} {words : List Symbol}

/-! ### What can be wrong with a line -/

/-- Among names of terminals there is one that is declared as a nonterminal, and the first such is
to blame. -/
inductive Overlapping (declared : Symbol → Prop) : List Symbol → GrammarError → Prop
  /-- The name is declared as both kinds. -/
  | bothKinds {before after : List Symbol} {name : Symbol}
      (fresh : ∀ earlier ∈ before, ¬ declared earlier) (known : declared name) :
      Overlapping declared (before ++ name :: after) (.bothKinds name)

/-- The words are not those of a production line.  Where more than one thing is wrong, the first of
these is to blame. -/
inductive Malformed (declared : Symbol → Prop) : List Symbol → GrammarError → Prop
  /-- There is no arrow. -/
  | arrowMissing {words : List Symbol} (missing : arrow ∉ words) :
      Malformed declared words .arrowMissing
  /-- What stands before the first arrow is not one word. -/
  | leftSideNotOneSymbol {left right : List Symbol} (first : arrow ∉ left)
      (other : left.length ≠ 1) :
      Malformed declared (left ++ arrow :: right) .leftSideNotOneSymbol
  /-- The left-hand side is not declared as a nonterminal. -/
  | unknownLeftSide {left : Symbol} {right : List Symbol} (first : left ≠ arrow)
      (unknown : ¬ declared left) :
      Malformed declared (left :: arrow :: right) (.unknownLeftSide left)
  /-- An alternative is empty: there is nothing between two bars, before the first of them, after
  the last, or after the arrow where there is no bar. -/
  | emptyAlternative {left : Symbol} {right : List Symbol} (first : left ≠ arrow)
      (known : declared left) (empty : [] ∈ right.splitOn bar) :
      Malformed declared (left :: arrow :: right) (.emptyAlternative left)

/-! ### Names of terminals -/

theorem not_overlapping_nil : ¬ Overlapping declared [] cause := by
  intro overlapping
  generalize whole : ([] : List Symbol) = words at overlapping
  cases overlapping
  exact List.append_ne_nil_of_right_ne_nil _ (List.cons_ne_nil _ _) whole.symm

theorem overlapping_cons_iff :
    Overlapping declared (name :: names) cause ↔
      declared name ∧ cause = .bothKinds name ∨
        ¬ declared name ∧ Overlapping declared names cause := by
  constructor
  · intro overlapping
    generalize whole : name :: names = words at overlapping
    obtain @⟨before, after, other, fresh, known⟩ := overlapping
    cases before with
    | nil =>
      obtain ⟨rfl, rfl⟩ := List.cons.inj whole
      exact .inl ⟨known, rfl⟩
    | cons first before =>
      obtain ⟨rfl, rfl⟩ := List.cons.inj whole
      rw [List.forall_mem_cons] at fresh
      exact .inr ⟨fresh.1, .bothKinds fresh.2 known⟩
  · rintro (⟨known, rfl⟩ | ⟨new, ⟨fresh, known⟩⟩)
    · exact @Overlapping.bothKinds _ [] names name (List.forall_mem_nil _) known
    · exact .bothKinds (List.forall_mem_cons.mpr ⟨new, fresh⟩) known

/-- **Names cannot be declared as terminals** if one of them is a nonterminal. -/
theorem declareAll_terminal_eq_error_iff :
    (Draft.ofNames nonterminals terminals).declareAll .terminal names = .error cause ↔
      Overlapping (· ∈ nonterminals) names cause := by
  induction names generalizing terminals with
  | nil => exact iff_of_false nofun not_overlapping_nil
  | cons name names ih =>
    rw [overlapping_cons_iff]
    by_cases known : name ∈ nonterminals
    · have failed : (Draft.ofNames nonterminals terminals).declare .terminal name =
          .error (.bothKinds name) := by
        rw [Draft.declare, Draft.kind?_ofNames_eq_nonterminal_iff.mpr known]
        rfl
      rw [Draft.declareAll, Except.bind_eq_error_iff, failed]
      simp [known, eq_comm]
    · have done : (Draft.ofNames nonterminals terminals).declare .terminal name =
          .ok (Draft.ofNames nonterminals (terminals ++ [name])) :=
        Draft.declare_terminal_eq_ok_iff.mpr ⟨known, rfl⟩
      rw [Draft.declareAll, Except.bind_eq_error_iff, done]
      simpa [known] using ih

/-! ### Production lines -/

section

variable {front back right : List Symbol}

theorem takeWhile_append_arrow (first : arrow ∉ front) :
    (front ++ arrow :: back).takeWhile (· != arrow) = front := by
  rw [List.takeWhile_append_of_pos fun word mem => bne_iff_ne.mpr (ne_of_mem_of_not_mem mem first)]
  simp

theorem dropWhile_append_arrow (first : arrow ∉ front) :
    (front ++ arrow :: back).dropWhile (· != arrow) = arrow :: back := by
  rw [List.dropWhile_append_of_pos fun word mem => bne_iff_ne.mpr (ne_of_mem_of_not_mem mem first)]
  simp

/-- Words are cut at the first arrow in one way. -/
theorem append_arrow_inj {left : List Symbol} (first : arrow ∉ front) (other : arrow ∉ left) :
    front ++ arrow :: back = left ++ arrow :: right ↔ front = left ∧ back = right := by
  constructor
  · intro same
    have fronts := congrArg (List.takeWhile (· != arrow)) same
    rw [takeWhile_append_arrow first, takeWhile_append_arrow other] at fronts
    subst fronts
    exact ⟨rfl, (List.cons.inj (List.append_cancel_left same)).2⟩
  · rintro ⟨rfl, rfl⟩
    rfl

/-- What is wrong with a line that has an arrow. -/
theorem malformed_append_iff (first : arrow ∉ front) :
    Malformed declared (front ++ arrow :: back) cause ↔
      front.length ≠ 1 ∧ cause = .leftSideNotOneSymbol ∨
      ∃ left, front = [left] ∧ (¬ declared left ∧ cause = .unknownLeftSide left ∨
        declared left ∧ [] ∈ back.splitOn bar ∧ cause = .emptyAlternative left) := by
  constructor
  · intro malformed
    generalize whole : front ++ arrow :: back = words at malformed
    cases malformed with
    | arrowMissing missing => simp [← whole] at missing
    | leftSideNotOneSymbol absent other =>
      obtain ⟨rfl, rfl⟩ := (append_arrow_inj first absent).mp whole
      exact .inl ⟨other, rfl⟩
    | @unknownLeftSide left right other unknown =>
      have absent : arrow ∉ [left] := by simpa using other.symm
      obtain ⟨rfl, rfl⟩ := (append_arrow_inj first absent).mp whole
      exact .inr ⟨left, rfl, .inl ⟨unknown, rfl⟩⟩
    | @emptyAlternative left right other known empty =>
      have absent : arrow ∉ [left] := by simpa using other.symm
      obtain ⟨rfl, rfl⟩ := (append_arrow_inj first absent).mp whole
      exact .inr ⟨left, rfl, .inr ⟨known, empty, rfl⟩⟩
  · rintro (⟨other, rfl⟩ | ⟨left, rfl, ⟨unknown, rfl⟩ | ⟨known, empty, rfl⟩⟩)
    · exact .leftSideNotOneSymbol first other
    · exact .unknownLeftSide (fun same => first (List.mem_singleton.mpr same.symm)) unknown
    · exact .emptyAlternative (fun same => first (List.mem_singleton.mpr same.symm)) known empty

end

/-- Adding an alternative fails where the left-hand side is no nonterminal, and else where there is
no symbol. -/
theorem addAlternative_eq_error_iff {symbols : List Symbol} :
    draft.addAlternative left symbols = .error cause ↔
      draft.kind? left ≠ some .nonterminal ∧ cause = .unknownLeftSide left ∨
      draft.kind? left = some .nonterminal ∧ symbols = [] ∧ cause = .emptyAlternative left := by
  unfold Draft.addAlternative
  split
  · cases symbols <;> simp_all [Production.ofSymbols?, eq_comm]
  · simp_all [eq_comm]

/-- Adding alternatives to what is no nonterminal fails. -/
theorem addAlternatives_eq_error_iff_of_ne {list : List (List Symbol)} (nonempty : list ≠ [])
    (undeclared : draft.kind? left ≠ some .nonterminal) :
    draft.addAlternatives left list = .error cause ↔ cause = .unknownLeftSide left := by
  obtain ⟨symbols, others, rfl⟩ := List.exists_cons_of_ne_nil nonempty
  rw [Draft.addAlternatives, Except.bind_eq_error_iff, addAlternative_eq_error_iff]
  simp [Draft.addAlternative_eq_ok_iff, undeclared]

/-- **Adding alternatives to a nonterminal fails** where one of them is empty. -/
theorem addAlternatives_eq_error_iff {list : List (List Symbol)}
    (known : draft.kind? left = some .nonterminal) :
    draft.addAlternatives left list = .error cause ↔
      [] ∈ list ∧ cause = .emptyAlternative left := by
  induction list generalizing draft with
  | nil =>
    constructor
    · intro failed
      cases failed
    · rintro ⟨empty, -⟩
      cases empty
  | cons symbols others ih =>
    rw [Draft.addAlternatives, Except.bind_eq_error_iff, addAlternative_eq_error_iff]
    simp only [Draft.addAlternative_eq_ok_iff, known, true_and, ne_eq, not_true_eq_false, false_and,
      false_or]
    cases symbols with
    | nil => simp [Production.symbols]
    | cons first rest =>
      have spelled : first :: rest = (Production.mk first rest).symbols := rfl
      have further := @ih (draft.extend [⟨left, [⟨first, rest⟩]⟩]) (by rwa [Draft.kind?_extend])
      constructor
      · rintro (⟨⟨⟩, -⟩ | ⟨_, ⟨production, same, rfl⟩, failed⟩)
        obtain ⟨empty, blamed⟩ := (ih (by rwa [Draft.kind?_extend])).mp failed
        exact ⟨List.mem_cons_of_mem _ empty, blamed⟩
      · rintro ⟨empty, rfl⟩
        refine .inr ⟨_, ⟨_, spelled, rfl⟩, further.mpr ⟨?_, rfl⟩⟩
        exact (List.mem_cons.mp empty).resolve_left (List.cons_ne_nil first rest).symm

/-- **Which production lines are not read, and why.** -/
theorem readProduction_eq_error_iff
    (names : ∀ name, draft.kind? name = some .nonterminal ↔ declared name) :
    readProduction draft words = .error cause ↔ Malformed declared words cause := by
  by_cases mem : arrow ∈ words
  · obtain ⟨front, back, rfl, first⟩ := List.eq_append_cons_of_mem mem
    rw [malformed_append_iff first, readProduction, if_pos (by simp), takeWhile_append_arrow first,
      dropWhile_append_arrow first, List.drop_succ_cons, List.drop_zero, Text.pieces_eq_splitOnP]
    split
    · rename_i left
      by_cases known : draft.kind? left = some .nonterminal
      · rw [addAlternatives_eq_error_iff known]
        simp [(names left).mp known, List.splitOn]
      · rw [addAlternatives_eq_error_iff_of_ne (List.splitOnP_ne_nil _ _) known]
        simp [mt (names left).mpr known]
    · rename_i other
      have length : front.length ≠ 1 := fun one => by
        obtain ⟨left, rfl⟩ := List.length_eq_one_iff.mp one
        exact other left rfl
      constructor
      · rintro ⟨⟩
        exact .inl ⟨length, rfl⟩
      · rintro (⟨-, rfl⟩ | ⟨left, rfl, -⟩)
        · rfl
        · exact absurd rfl (other left)
  · rw [readProduction, if_neg (by simpa using mem)]
    constructor
    · rintro ⟨⟩
      exact .arrowMissing mem
    · intro malformed
      cases malformed with
      | arrowMissing => rfl
      | leftSideNotOneSymbol | unknownLeftSide | emptyAlternative => simp at mem

end Document

end Descent
