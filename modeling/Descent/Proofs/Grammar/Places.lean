import Descent.Proofs.Grammar.Loading

/-!
# Where lines stand

Every line of a text has a number, which skipped lines and headers share in, and the section of a
line is that of the last header above it.  Telling the lines of a text apart comes to an end at
the first line that is in no section, and else gives each line with content its number, its
section and its words.

## First flaws

Each pass over a text comes to an end at the first line with a flaw.  What a flaw is differs from
pass to pass, so `Document.First` and `Document.Blames` take it as a parameter, and what is proved
of them is used for all passes.
-/

namespace Descent.Document

variable {part : Part} {current : Option Part} {n number : Nat} {numbers : List Nat}
  {line : List Char} {before after lines : List (List Char)} {entries : List Entry}
  {words others : List Symbol} {cause : GrammarError} {flaw : Nat → GrammarError → Prop}

/-! ### First flaws -/

/-- A line has a flaw, and no line before it has one. -/
def First (flaw : Nat → GrammarError → Prop) (n : Nat) (cause : GrammarError) : Prop :=
  flaw n cause ∧ ∀ m < n, ∀ other, ¬ flaw m other

/-- No line has a flaw. -/
def Clear (flaw : Nat → GrammarError → Prop) : Prop := ∀ n cause, ¬ flaw n cause

/-- Where there are flaws, there is a first one. -/
theorem exists_first (h : flaw n cause) : ∃ m other, First flaw m other := by
  induction n using Nat.strong_induction_on generalizing cause with
  | _ n ih =>
    by_cases earlier : ∃ m < n, ∃ other, flaw m other
    · obtain ⟨m, before, other, flawed⟩ := earlier
      exact ih m before flawed
    · refine ⟨n, cause, h, fun m before other flawed => ?_⟩
      exact earlier ⟨m, before, other, flawed⟩

/-- Of the lines with these numbers, taken in their order, line `n` is the first with a flaw. -/
inductive FirstAmong (flaw : Nat → GrammarError → Prop) : List Nat → Nat → GrammarError → Prop
  /-- The first line has a flaw. -/
  | here {n : Nat} {cause : GrammarError} {rest : List Nat} (flawed : flaw n cause) :
      FirstAmong flaw (n :: rest) n cause
  /-- The first line is clear. -/
  | later {m n : Nat} {cause : GrammarError} {rest : List Nat} (clear : ∀ other, ¬ flaw m other)
      (first : FirstAmong flaw rest n cause) : FirstAmong flaw (m :: rest) n cause

/-- Where numbers go up, the first line with a flaw is the one with the least number. -/
theorem firstAmong_iff (sorted : numbers.Pairwise (· < ·)) :
    FirstAmong flaw numbers n cause ↔
      n ∈ numbers ∧ flaw n cause ∧ ∀ m ∈ numbers, m < n → ∀ other, ¬ flaw m other := by
  constructor
  · intro first
    induction first with
    | here flawed =>
      refine ⟨List.mem_cons_self, flawed, fun m mem below => ?_⟩
      rcases List.mem_cons.mp mem with rfl | mem
      · exact absurd below (Nat.lt_irrefl _)
      · exact absurd below (Nat.lt_asymm (List.rel_of_pairwise_cons sorted mem))
    | later clear first ih =>
      obtain ⟨mem, flawed, others⟩ := ih (List.Pairwise.of_cons sorted)
      refine ⟨List.mem_cons_of_mem _ mem, flawed, fun m mem => ?_⟩
      rcases List.mem_cons.mp mem with rfl | mem
      · exact fun _ => clear
      · exact others m mem
  · rintro ⟨mem, flawed, clear⟩
    induction numbers with
    | nil => cases mem
    | cons m rest ih =>
      rcases List.mem_cons.mp mem with rfl | mem
      · exact .here flawed
      · refine .later (clear m List.mem_cons_self (List.rel_of_pairwise_cons sorted mem)) ?_
        exact ih (List.Pairwise.of_cons sorted) mem
          fun m mem => clear m (List.mem_cons_of_mem _ mem)

/-- A result blames the first line with a flaw. -/
def Blames {α : Type} (result : Except LoadError α) (flaw : Nat → GrammarError → Prop) : Prop :=
  ∀ error, result = .error error ↔ ∃ n cause, First flaw n cause ∧ error = ⟨some n, cause⟩

/-- A result blames the first line with a flaw among the lines with these numbers. -/
def BlamesAmong {α : Type} (numbers : List Nat) (result : Except LoadError α)
    (flaw : Nat → GrammarError → Prop) : Prop :=
  ∀ error, result = .error error ↔
    ∃ n cause, FirstAmong flaw numbers n cause ∧ error = ⟨some n, cause⟩

section

variable {α : Type} {result : Except LoadError α}

theorem BlamesAmong.nil (value : α) : BlamesAmong [] (.ok value) flaw := by
  intro error
  refine iff_of_false nofun ?_
  rintro ⟨n, cause, first, -⟩
  cases first

/-- The first line is blamed where it has a flaw. -/
theorem BlamesAmong.here (h : ∀ other, flaw n other ↔ other = cause) :
    BlamesAmong (n :: numbers) (.error ⟨some n, cause⟩ : Except LoadError α) flaw := by
  intro error
  constructor
  · rintro ⟨⟩
    exact ⟨n, cause, .here ((h cause).mpr rfl), rfl⟩
  · rintro ⟨m, other, first, rfl⟩
    cases first with
    | here flawed => rw [(h other).mp flawed]
    | later clear first => exact absurd ((h cause).mpr rfl) (clear cause)

/-- Where the first line is clear, one of the others is blamed. -/
theorem BlamesAmong.later (clear : ∀ other, ¬ flaw n other) (h : BlamesAmong numbers result flaw) :
    BlamesAmong (n :: numbers) result flaw := by
  intro error
  rw [h error]
  constructor
  · rintro ⟨m, cause, first, rfl⟩
    exact ⟨m, cause, .later clear first, rfl⟩
  · rintro ⟨m, cause, first, rfl⟩
    cases first with
    | here flawed => exact absurd flawed (clear cause)
    | later _ first => exact ⟨m, cause, first, rfl⟩

/-- It is the same to blame a line among all that can have a flaw. -/
theorem BlamesAmong.blames (h : BlamesAmong numbers result flaw)
    (sorted : numbers.Pairwise (· < ·)) (among : ∀ n cause, flaw n cause → n ∈ numbers) :
    Blames result flaw := by
  intro error
  simp only [h error, firstAmong_iff sorted]
  constructor
  · rintro ⟨n, cause, ⟨-, flawed, clear⟩, rfl⟩
    exact ⟨n, cause, ⟨flawed, fun m below other earlier =>
      clear m (among m other earlier) below other earlier⟩, rfl⟩
  · rintro ⟨n, cause, ⟨flawed, clear⟩, rfl⟩
    exact ⟨n, cause, ⟨among n cause flawed, flawed, fun m _ => clear m⟩, rfl⟩

/-- Where no line has a flaw, there is no error. -/
theorem Blames.exists_ok_iff (h : Blames result flaw) :
    (∃ value, result = .ok value) ↔ Clear flaw := by
  constructor
  · rintro ⟨value, done⟩ n cause flawed
    obtain ⟨m, other, first⟩ := exists_first flawed
    have failed := (h ⟨some m, other⟩).mpr ⟨m, other, first, rfl⟩
    rw [done] at failed
    cases failed
  · intro clear
    cases result with
    | ok value => exact ⟨value, rfl⟩
    | error error =>
      obtain ⟨n, cause, first, -⟩ := (h error).mp rfl
      exact absurd first.1 (clear n cause)

end

/-! ### Sections of lines -/

/-- All lines of a text, without their outer blanks. -/
def trimmedLines (text : String) : List (List Char) := (Text.lines text.toList).map Text.trim

/-- Line `n` belongs to a section and has these words: it is neither skipped nor a header, and the
last header above it is that of the section. -/
def Under (lines : List (List Char)) (part : Part) (n : Nat) (words : List Symbol) : Prop :=
  ∃ line, lines[n]? = some line ∧ ¬ isSkipped line ∧ ¬ isHeading line ∧
    lastHeading? (lines.take n) = some part.header.toList ∧ words = lineWords line

/-- Line `n` is in no section, and the cause says why. -/
inductive Misplaced (lines : List (List Char)) (n : Nat) : GrammarError → Prop
  /-- The line looks like a header, but is none. -/
  | unknownHeader {line : List Char} (place : lines[n]? = some line) (heading : isHeading line)
      (other : ∀ part : Part, line ≠ part.header.toList) :
      Misplaced lines n (.unknownHeader (String.ofList line))
  /-- The line has content, and there is no header above it. -/
  | contentBeforeHeader {line : List Char} (place : lines[n]? = some line)
      (counts : ¬ isSkipped line) (content : ¬ isHeading line)
      (first : lastHeading? (lines.take n) = none) :
      Misplaced lines n .contentBeforeHeader

theorem getElem?_append_cons : (before ++ line :: after)[before.length]? = some line := by
  rw [List.getElem?_append_right (Nat.le_refl _), Nat.sub_self, List.getElem?_cons_zero]

/-- A skipped line is no header. -/
theorem not_isHeading_of_isSkipped (h : isSkipped line) : ¬ isHeading line := by
  cases line with
  | nil => decide
  | cons c rest =>
    simp only [isSkipped, List.isEmpty_cons, Bool.false_or, List.isPrefixOf_iff_prefix] at h
    intro heading
    have number : c = '#' := Option.some.inj (isHeading_iff.mp heading)
    have slash : '/' = c := (List.cons_prefix_cons.mp h).1
    rw [number] at slash
    revert slash
    decide

theorem under_iff :
    Under (before ++ line :: after) part before.length words ↔
      ¬ isSkipped line ∧ ¬ isHeading line ∧ lastHeading? before = some part.header.toList ∧
        words = lineWords line := by
  rw [Under, getElem?_append_cons, List.take_left]
  simp

/-- A line is in one section and has its words. -/
theorem Under.unique {part other : Part} (h : Under lines part n words)
    (h' : Under lines other n others) : part = other ∧ words = others := by
  obtain ⟨line, place, -, -, header, rfl⟩ := h
  obtain ⟨_, place', -, -, header', rfl⟩ := h'
  obtain rfl := Option.some.inj (place.symm.trans place')
  exact ⟨Part.header_injective (Option.some.inj (header.symm.trans header')), rfl⟩

theorem Under.lt_length (h : Under lines part n words) : n < lines.length := by
  obtain ⟨line, place, -⟩ := h
  exact (List.getElem?_eq_some_iff.mp place).1

theorem misplaced_iff :
    Misplaced (before ++ line :: after) before.length cause ↔
      isHeading line ∧ (∀ part : Part, line ≠ part.header.toList) ∧
        cause = .unknownHeader (String.ofList line) ∨
      ¬ isSkipped line ∧ ¬ isHeading line ∧ lastHeading? before = none ∧
        cause = .contentBeforeHeader := by
  constructor
  · rintro (⟨place, heading, other⟩ | ⟨place, counts, content, first⟩)
    · obtain rfl := Option.some.inj (getElem?_append_cons.symm.trans place)
      exact .inl ⟨heading, other, rfl⟩
    · obtain rfl := Option.some.inj (getElem?_append_cons.symm.trans place)
      rw [List.take_left] at first
      exact .inr ⟨counts, content, first, rfl⟩
  · rintro (⟨heading, other, rfl⟩ | ⟨counts, content, first, rfl⟩)
    · exact .unknownHeader getElem?_append_cons heading other
    · exact .contentBeforeHeader getElem?_append_cons counts content (by rwa [List.take_left])

theorem Misplaced.lt_length (h : Misplaced lines n cause) : n < lines.length := by
  obtain ⟨place, -, -⟩ | ⟨place, -, -, -⟩ := h <;> exact (List.getElem?_eq_some_iff.mp place).1

/-- A skipped line counts for nothing. -/
theorem not_misplaced_of_isSkipped (h : isSkipped line) :
    ¬ Misplaced (before ++ line :: after) before.length cause := by
  rw [misplaced_iff]
  rintro (⟨heading, -⟩ | ⟨counts, -⟩)
  · exact not_isHeading_of_isSkipped h heading
  · exact counts h

/-- A header is in its place everywhere. -/
theorem not_misplaced_header :
    ¬ Misplaced (before ++ part.header.toList :: after) before.length cause := by
  rw [misplaced_iff]
  rintro (⟨-, other, -⟩ | ⟨-, content, -⟩)
  · exact other part rfl
  · cases part <;> exact content rfl

/-- Content is in its place below a header. -/
theorem not_misplaced_of_content (content : ¬ isHeading line)
    (begun : lastHeading? before = some part.header.toList) :
    ¬ Misplaced (before ++ line :: after) before.length cause := by
  rw [misplaced_iff]
  rintro (⟨heading, -⟩ | ⟨-, -, first, -⟩)
  · exact content heading
  · rw [begun] at first
    cases first

/-! ### Telling lines apart -/

/-- **Which line is to blame if lines cannot be told apart**: the first that is in no section. -/
theorem blamesAmong_entriesFrom (reached : number = before.length)
    (begun : lastHeading? before = current.map (·.header.toList)) :
    BlamesAmong (List.range' number lines.length) (entriesFrom current number lines)
      (Misplaced (before ++ lines.map Text.trim)) := by
  -- The lines before are kept together with those to come, so that the flaws stay the same.
  induction lines generalizing current number before with
  | nil => exact .nil []
  | cons line lines ih =>
    rw [List.length_cons, List.range'_succ, List.map_cons]
    have further (next : Option Part)
        (begun : lastHeading? (before ++ [Text.trim line]) = next.map (·.header.toList)) :
        BlamesAmong (List.range' (number + 1) lines.length) (entriesFrom next (number + 1) lines)
          (Misplaced (before ++ Text.trim line :: lines.map Text.trim)) := by
      have shown := @ih next (number + 1) (before ++ [Text.trim line])
        (by rw [List.length_append, reached]; rfl) begun
      rwa [List.append_assoc] at shown
    subst reached
    rw [lastHeading?_concat] at further
    unfold entriesFrom
    dsimp only
    split
    · rename_i skipped
      rw [if_neg (not_isHeading_of_isSkipped skipped)] at further
      exact .later (fun _ => not_misplaced_of_isSkipped skipped) (further current begun)
    · rename_i counts
      split
      · rename_i heading
        have heading := isHeading_iff.mpr heading
        rw [if_pos heading] at further
        split
        · rename_i unknown
          have other : ∀ part : Part, Text.trim line ≠ part.header.toList := by
            intro part same
            rw [ofHeader?_eq_some_iff.mpr same] at unknown
            cases unknown
          refine .here fun cause => ?_
          simp [misplaced_iff, heading, other]
        · rename_i part known
          have header := ofHeader?_eq_some_iff.mp known
          refine .later (fun cause => ?_) (further (some part) (congrArg some header))
          rw [header]
          exact not_misplaced_header
      · rename_i content
        have content := mt isHeading_iff.mp content
        rw [if_neg content] at further
        cases current with
        | none =>
          refine .here fun cause => ?_
          simp [misplaced_iff, counts, content, begun]
        | some part =>
          have rest := (further (some part) begun).later fun cause =>
            not_misplaced_of_content content begun
          dsimp only
          split
          · rename_i failed
            rwa [failed] at rest
          · rename_i others read
            rw [read] at rest
            intro error
            rw [← rest error]
            constructor
            · intro failed
              cases failed
            · intro failed
              cases failed

/-- The lines of a text are told apart unless one of them is in no section, and then the first such
line is to blame. -/
theorem blames_entries (text : String) :
    Blames (Document.entries text) (Misplaced (trimmedLines text)) := by
  have among := @blamesAmong_entriesFrom none 0 [] (Text.lines text.toList) rfl rfl
  refine among.blames List.pairwise_lt_range' fun n cause misplaced => ?_
  have counted := misplaced.lt_length
  rw [List.nil_append, List.length_map] at counted
  exact List.mem_range'_1.mpr ⟨Nat.zero_le n, by omega⟩

/-! ### Lines that are told apart -/

/-- These are the lines with content from line `k` on, in their order. -/
structure Tells (lines : List (List Char)) (k : Nat) (entries : List Entry) : Prop where
  /-- Each line with content is there, with its number, its section and its words. -/
  mem_iff : ∀ entry, entry ∈ entries ↔
    k ≤ entry.number ∧ Under lines entry.part entry.number entry.words
  /-- Numbers go up. -/
  sorted : (entries.map (·.number)).Pairwise (· < ·)

/-- A line that is in no section is passed over. -/
theorem Tells.later (h : Tells lines (n + 1) entries)
    (clear : ∀ part words, ¬ Under lines part n words) : Tells lines n entries := by
  refine ⟨fun entry => ?_, h.sorted⟩
  rw [h.mem_iff]
  constructor
  · rintro ⟨above, under⟩
    exact ⟨Nat.le_of_succ_le above, under⟩
  · rintro ⟨above, under⟩
    rcases Nat.eq_or_lt_of_le above with rfl | above
    · exact absurd under (clear _ _)
    · exact ⟨above, under⟩

/-- A line with content comes before those after it. -/
theorem Tells.cons (h : Tells lines (n + 1) entries)
    (here : ∀ other others, Under lines other n others ↔ other = part ∧ others = words) :
    Tells lines n (⟨n, part, words⟩ :: entries) := by
  constructor
  · rintro ⟨m, other, others⟩
    rw [List.mem_cons, h.mem_iff]
    constructor
    · rintro (same | ⟨above, under⟩)
      · cases same
        exact ⟨Nat.le_refl n, (here part words).mpr ⟨rfl, rfl⟩⟩
      · exact ⟨Nat.le_of_succ_le above, under⟩
    · rintro ⟨above, under⟩
      rcases Nat.eq_or_lt_of_le above with rfl | above
      · obtain ⟨rfl, rfl⟩ := (here other others).mp under
        exact .inl rfl
      · exact .inr ⟨above, under⟩
  · refine List.pairwise_cons.mpr ⟨fun m mem => ?_, h.sorted⟩
    obtain ⟨entry, inside, rfl⟩ := List.mem_map.mp mem
    exact ((h.mem_iff entry).mp inside).1

/-- **What lines are read if they can be told apart.** -/
theorem tells_of_entriesFrom (read : entriesFrom current number lines = .ok entries)
    (reached : number = before.length)
    (begun : lastHeading? before = current.map (·.header.toList)) :
    Tells (before ++ lines.map Text.trim) number entries := by
  induction lines generalizing current number before entries with
  | nil =>
    cases read
    refine ⟨fun entry => iff_of_false (List.not_mem_nil) ?_, .nil⟩
    rintro ⟨above, line, place, -⟩
    have below := (List.getElem?_eq_some_iff.mp place).1
    rw [List.map_nil, List.append_nil] at below
    omega
  | cons line lines ih =>
    rw [entriesFrom_cons_eq_ok_iff] at read
    have further {next : Option Part} {entries : List Entry}
        (read : entriesFrom next (number + 1) lines = .ok entries)
        (begun : lastHeading? (before ++ [Text.trim line]) = next.map (·.header.toList)) :
        Tells (before ++ (line :: lines).map Text.trim) (number + 1) entries := by
      have shown := ih read (by rw [List.length_append, reached]; rfl) begun
      rwa [List.append_assoc] at shown
    subst reached
    rw [lastHeading?_concat] at further
    rw [List.map_cons] at further ⊢
    split at read
    · rename_i skipped
      rw [if_neg (not_isHeading_of_isSkipped skipped)] at further
      refine (further read begun).later fun part words under => ?_
      exact (under_iff.mp under).1 skipped
    · rename_i counts
      split at read
      · rename_i heading
        obtain ⟨part, header, read⟩ := read
        have heading := isHeading_iff.mpr heading
        rw [if_pos heading] at further
        refine (further read (congrArg some header)).later fun part words under => ?_
        exact (under_iff.mp under).2.1 heading
      · rename_i content
        obtain ⟨part, others, rfl, read, rfl⟩ := read
        have content := mt isHeading_iff.mp content
        rw [if_neg content] at further
        refine (further read begun).cons fun other words => ?_
        rw [under_iff, begun, lineWords_trim]
        constructor
        · rintro ⟨-, -, header, rfl⟩
          exact ⟨Part.header_injective (Option.some.inj header).symm, rfl⟩
        · rintro ⟨rfl, rfl⟩
          exact ⟨counts, content, rfl, rfl⟩

theorem tells_of_entries {text : String} (told : Document.entries text = .ok entries) :
    Tells (trimmedLines text) 0 entries :=
  @tells_of_entriesFrom none 0 [] _ _ told rfl rfl

end Descent.Document
