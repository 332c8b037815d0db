import Descent.Proofs.Grammar.Leftmost
import Descent.Tree

/-!
# Derivations as forests

A leftmost derivation lists its alternatives in the order in which they are taken, which is the
order of the nodes of its tree, each before those below it and those to its left before it.  So a
derivation is the same as a tree whose nodes spell alternatives.

A line of symbols is derived by a line of trees, and a `Forest` has its trees side by side and
below each node another forest, so that one induction goes over both.  `Forest.plant` puts the
nodes of a forest into a `DerivationTree`, the children of a node together and before what is
below them, which is how a search adds them.
-/

namespace Descent

/-- Trees side by side, from left to right.  A node with a nonterminal holds the number of the
alternative that is spelled by the roots of the trees below it. -/
inductive Forest where
  /-- No trees. -/
  | nil
  /-- A terminal, and the trees to the right of it. -/
  | leaf (terminal : Symbol) (others : Forest)
  /-- A nonterminal, the trees below it, and those to the right of it. -/
  | branch (nonterminal : Symbol) (alternative : Nat) (below others : Forest)
deriving DecidableEq, Repr

namespace Forest

/-- The symbols of the roots. -/
def roots : Forest → List Symbol
  | .nil => []
  | .leaf terminal others => terminal :: others.roots
  | .branch nonterminal _ _ others => nonterminal :: others.roots

/-- The terminals from left to right. -/
def yield : Forest → List Symbol
  | .nil => []
  | .leaf terminal others => terminal :: others.yield
  | .branch _ _ below others => below.yield ++ others.yield

/-- The numbers of the alternatives, each before those below it and those to the right. -/
def choices : Forest → List Nat
  | .nil => []
  | .leaf _ others => others.choices
  | .branch _ alternative below others => alternative :: (below.choices ++ others.choices)

/-- Two forests side by side. -/
def append : Forest → Forest → Forest
  | .nil, right => right
  | .leaf terminal others, right => .leaf terminal (others.append right)
  | .branch nonterminal alternative below others, right =>
    .branch nonterminal alternative below (others.append right)

/-- Puts a forest into a tree: its roots are the nodes of a list, and what is below each root is
added at the end, root by root. -/
def plant : Forest → List Index → DerivationTree → DerivationTree
  | .nil, _, tree => tree
  | .leaf _ others, nodes, tree => others.plant nodes.tail tree
  | .branch _ _ below others, nodes, tree =>
    let children := DerivationTree.indicesFrom tree.nextIndex below.roots.length
    let node := nodes.headD Index.first
    others.plant nodes.tail (below.plant children (tree.append node below.roots))

variable {left right : Forest}

@[simp] theorem choices_append : (left.append right).choices = left.choices ++ right.choices := by
  induction left with
  | nil => rfl
  | leaf _ _ ih => exact ih
  | branch _ _ _ _ _ ih => simp [append, choices, ih]

@[simp] theorem yield_append : (left.append right).yield = left.yield ++ right.yield := by
  induction left with
  | nil => rfl
  | leaf _ _ ih => simp [append, yield, ih]
  | branch _ _ _ _ _ ih => simp [append, yield, ih]

/-- A forest is cut where its roots are. -/
theorem exists_append_of_roots {forest : Forest} {first second : List Symbol}
    (h : forest.roots = first ++ second) :
    ∃ left right : Forest,
      forest = left.append right ∧ left.roots = first ∧ right.roots = second := by
  induction forest generalizing first with
  | nil =>
    obtain ⟨rfl, rfl⟩ := List.append_eq_nil_iff.mp h.symm
    exact ⟨.nil, .nil, rfl, rfl, rfl⟩
  | leaf terminal others ih =>
    cases first with
    | nil => exact ⟨.nil, .leaf terminal others, rfl, rfl, h⟩
    | cons symbol first =>
      rw [roots, List.cons_append, List.cons.injEq] at h
      obtain ⟨left, right, rfl, rfl, rfl⟩ := ih h.2
      exact ⟨.leaf terminal left, right, rfl, by rw [roots, h.1], rfl⟩
  | branch nonterminal alternative below others _ ih =>
    cases first with
    | nil => exact ⟨.nil, .branch nonterminal alternative below others, rfl, rfl, h⟩
    | cons symbol first =>
      rw [roots, List.cons_append, List.cons.injEq] at h
      obtain ⟨left, right, rfl, rfl, rfl⟩ := ih h.2
      exact ⟨.branch nonterminal alternative below left, right, rfl, by rw [roots, h.1], rfl⟩

/-- Two forests side by side are planted one after the other. -/
theorem plant_append {first second : List Index} {tree : DerivationTree}
    (h : first.length = left.roots.length) :
    (left.append right).plant (first ++ second) tree =
      right.plant second (left.plant first tree) := by
  induction left generalizing first tree with
  | nil =>
    rw [List.length_eq_zero_iff.mp h]
    rfl
  | leaf terminal others ih =>
    cases first with
    | nil => cases h
    | cons node first => exact ih (Nat.succ.inj h)
  | branch nonterminal alternative below others _ ih =>
    cases first with
    | nil => cases h
    | cons node first => exact ih (Nat.succ.inj h)

end Forest

namespace Grammar

variable {grammar : Grammar} {form tokens : List Symbol} {choices : List Nat}
  {forest other left right : Forest}

/-- `grammar.Licenses forest` says that the leaves of a forest are terminals, and that below every
other node stands the alternative with the number that it holds. -/
def Licenses (grammar : Grammar) : Forest → Prop
  | .nil => True
  | .leaf terminal others => grammar.isTerminal terminal ∧ grammar.Licenses others
  | .branch nonterminal alternative below others =>
    (∃ index production, alternative = index + 1 ∧
      (grammar.alternatives nonterminal)[index]? = some production ∧
      below.roots = production.symbols) ∧ grammar.Licenses below ∧ grammar.Licenses others

/-- A node with trees below it has no terminal. -/
theorem Licenses.not_isTerminal {nonterminal : Symbol} {alternative : Nat} {below others : Forest}
    (h : grammar.Licenses (.branch nonterminal alternative below others)) :
    ¬ grammar.isTerminal nonterminal := by
  intro kind
  obtain ⟨⟨index, production, -, chosen, -⟩, -, -⟩ := h
  exact not_isNonterminal_of_isTerminal kind (isNonterminal_of_alternatives_getElem? chosen)

theorem licenses_append_iff :
    grammar.Licenses (left.append right) ↔ grammar.Licenses left ∧ grammar.Licenses right := by
  induction left with
  | nil => simp [Forest.append, Licenses]
  | leaf terminal others ih => simp only [Forest.append, Licenses, ih, and_assoc]
  | branch nonterminal alternative below others _ ih =>
    simp only [Forest.append, Licenses, ih, and_assoc]

/-! ### Forests and leftmost derivations -/

/-- A licensed forest is a leftmost derivation of its leaves from its roots. -/
theorem Licenses.leftDerives (h : grammar.Licenses forest) :
    grammar.LeftDerives forest.roots forest.choices forest.yield := by
  induction forest with
  | nil => exact .done
  | leaf terminal others ih => exact .terminal h.1 (ih h.2)
  | branch nonterminal alternative below others ihBelow ihOthers =>
    obtain ⟨⟨index, production, rfl, chosen, spelled⟩, below, others⟩ := h
    refine .nonterminal chosen ?_
    rw [← spelled]
    exact (ihBelow below).append (ihOthers others)

/-- **Leftmost derivations are licensed forests.** -/
theorem leftDerives_iff_exists_forest :
    grammar.LeftDerives form choices tokens ↔
      ∃ forest, grammar.Licenses forest ∧ forest.roots = form ∧ forest.choices = choices ∧
        forest.yield = tokens := by
  constructor
  · intro h
    induction h with
    | done => exact ⟨.nil, trivial, rfl, rfl, rfl⟩
    | @terminal token _ _ _ kind _ ih =>
      obtain ⟨forest, licensed, rfl, rfl, rfl⟩ := ih
      exact ⟨.leaf token forest, ⟨kind, licensed⟩, rfl, rfl, rfl⟩
    | @nonterminal symbol _ _ _ index production chosen _ ih =>
      obtain ⟨forest, licensed, roots, rfl, rfl⟩ := ih
      obtain ⟨below, others, rfl, spelled, rfl⟩ := Forest.exists_append_of_roots roots
      obtain ⟨licensedBelow, licensedOthers⟩ := licenses_append_iff.mp licensed
      refine ⟨.branch symbol (index + 1) below others, ⟨⟨index, production, rfl, chosen, spelled⟩,
        licensedBelow, licensedOthers⟩, rfl, ?_, ?_⟩
      · rw [Forest.choices, Forest.choices_append]
      · rw [Forest.yield, Forest.yield_append]
  · rintro ⟨forest, licensed, rfl, rfl, rfl⟩
    exact licensed.leftDerives

/-- A licensed forest is known by its roots and the alternatives in it, whatever follows these. -/
theorem Licenses.eq_of_choices {rest rest' : List Nat} (h : grammar.Licenses forest)
    (h' : grammar.Licenses other) (roots : forest.roots = other.roots)
    (same : forest.choices ++ rest = other.choices ++ rest') : forest = other ∧ rest = rest' := by
  induction forest generalizing other rest rest' with
  | nil =>
    cases other with
    | nil => exact ⟨rfl, same⟩
    | leaf | branch => cases roots
  | leaf terminal others ih =>
    cases other with
    | nil => cases roots
    | leaf terminal' others' =>
      obtain ⟨rfl, beside⟩ := List.cons.inj roots
      obtain ⟨rfl, rfl⟩ := ih h.2 h'.2 beside same
      exact ⟨rfl, rfl⟩
    | branch nonterminal' alternative' below' others' =>
      obtain ⟨rfl, -⟩ := List.cons.inj roots
      exact absurd h.1 h'.not_isTerminal
  | branch nonterminal alternative below others ihBelow ihOthers =>
    cases other with
    | nil => cases roots
    | leaf terminal' others' =>
      obtain ⟨rfl, -⟩ := List.cons.inj roots
      exact absurd h'.1 h.not_isTerminal
    | branch nonterminal' alternative' below' others' =>
      obtain ⟨rfl, beside⟩ := List.cons.inj roots
      simp only [Forest.choices, List.cons_append, List.cons.injEq, List.append_assoc] at same
      obtain ⟨rfl, same⟩ := same
      obtain ⟨⟨index, production, rfl, chosen, spelled⟩, below, others⟩ := h
      obtain ⟨⟨index', production', number, chosen', spelled'⟩, below', others'⟩ := h'
      obtain rfl := Nat.succ.inj number
      obtain rfl := Option.some.inj (chosen.symm.trans chosen')
      -- The trees below are settled first; what is left of the list belongs to those beside.
      obtain ⟨rfl, after⟩ := ihBelow below below' (spelled.trans spelled'.symm) same
      obtain ⟨rfl, rfl⟩ := ihOthers others others' beside after
      exact ⟨rfl, rfl⟩

/-! ### Trees of derivations -/

/-- The tree of the leftmost derivation that takes the alternatives with some numbers. -/
def TreeOf (grammar : Grammar) (choices : List Nat) (tree : DerivationTree) : Prop :=
  ∃ forest, grammar.Licenses forest ∧ forest.roots = [grammar.start] ∧ forest.choices = choices ∧
    tree = forest.plant [Index.first] (.ofRoot grammar.start)

/-- **A leftmost derivation has one tree.** -/
theorem TreeOf.unique {tree tree' : DerivationTree} (h : grammar.TreeOf choices tree)
    (h' : grammar.TreeOf choices tree') : tree = tree' := by
  obtain ⟨forest, licensed, roots, rfl, rfl⟩ := h
  obtain ⟨other, licensed', roots', same, rfl⟩ := h'
  obtain ⟨rfl, -⟩ := licensed.eq_of_choices licensed' (roots.trans roots'.symm)
    (congrArg (· ++ []) same.symm)
  rfl

end Grammar

end Descent
