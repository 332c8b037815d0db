import Descent.Proofs.Lexeme.Layout
import Descent.Report.Excerpt

/-!
# Quoting the line of a word

A report quotes the line on which a word starts and underlines the word.  Three ways of counting
have to agree for that: places count line feeds and the characters since the last of them, lines
are cut at line feeds together with a carriage return before each, and an excerpt cuts a line at
columns.

They do not agree on every text, since a carriage return counts as a character of its line but may
be missing in the line that is quoted.  They agree on whatever has no blank in it: it does not go
on over the end of a line, and no carriage return before it is part of a line ending on the same
line.
-/

namespace Descent

namespace Text

variable {text line body rest : List Char} {c : Char}

/-! ### Lines after a line feed -/

/-- A carriage return is dropped only before a line feed. -/
theorem dropReturns_cons_cons {next : Char} (h : next ≠ '\n') (rest : List Char) :
    dropReturns (c :: next :: rest) = c :: dropReturns (next :: rest) := by
  rw [dropReturns]
  rintro others rfl same
  exact absurd (List.cons.inj same).1 h

/-- Dropping carriage returns goes on after a line feed as if the text started there. -/
theorem exists_dropReturns_append (upper text : List Char) :
    ∃ kept, kept.count '\n' = upper.count '\n' ∧
      dropReturns (upper ++ '\n' :: text) = kept ++ '\n' :: dropReturns text := by
  induction upper using dropReturns.induct with
  | case1 => exact ⟨[], rfl, dropReturns_cons (by decide) text⟩
  | case2 rest ih =>
    obtain ⟨kept, count, dropped⟩ := ih
    refine ⟨'\n' :: kept, by simp [count], ?_⟩
    rw [List.cons_append, List.cons_append, dropReturns, dropped, List.cons_append]
  | case3 c rest other ih =>
    obtain ⟨kept, count, dropped⟩ := ih
    cases rest with
    | nil =>
      by_cases ending : c = '\r'
      · subst ending
        exact ⟨[], rfl, by rw [List.singleton_append, dropReturns, List.nil_append]⟩
      · refine ⟨[c], rfl, ?_⟩
        rw [List.singleton_append, dropReturns_cons ending, dropReturns_cons (by decide),
          List.singleton_append]
    | cons next rest =>
      refine ⟨c :: kept, by simp only [List.count_cons, count], ?_⟩
      rw [List.cons_append] at dropped
      rw [List.cons_append, List.cons_append, List.cons_append, ← dropped]
      by_cases feed : next = '\n'
      · subst feed
        exact dropReturns_cons (fun same => other rest same rfl) _
      · exact dropReturns_cons_cons feed _

/-- A character that is no line feed is put before the first stretch. -/
theorem feeds_cons_of_ne (h : c ≠ '\n') (text : List Char) :
    feeds (c :: text) = (c :: (feeds text).headD []) :: (feeds text).tail := by
  rw [feeds, if_neg h]
  cases feeds text <;> rfl

/-- A line feed ends a stretch. -/
theorem exists_feeds_append (upper text : List Char) :
    ∃ stretches, stretches.length = upper.count '\n' + 1 ∧
      feeds (upper ++ '\n' :: text) = stretches ++ feeds text := by
  induction upper with
  | nil => exact ⟨[[]], rfl, by rw [List.nil_append, feeds, if_pos rfl, List.singleton_append]⟩
  | cons c upper ih =>
    obtain ⟨stretches, length, cut⟩ := ih
    by_cases feed : c = '\n'
    · refine ⟨[] :: stretches, by simp [feed, length], ?_⟩
      rw [List.cons_append, feeds, if_pos feed, cut, List.cons_append]
    · obtain ⟨first, others, rfl⟩ := List.exists_cons_of_length_eq_add_one length
      refine ⟨(c :: first) :: others, by simpa [List.count_cons_of_ne feed] using length, ?_⟩
      rw [List.cons_append, feeds_cons_of_ne feed, cut]
      rfl

/-- **The lines after a line feed** are those of what comes after it. -/
theorem exists_lines_append (upper text : List Char) :
    ∃ above, above.length = upper.count '\n' + 1 ∧
      lines (upper ++ '\n' :: text) = above ++ lines text := by
  obtain ⟨kept, count, dropped⟩ := exists_dropReturns_append upper text
  obtain ⟨above, length, cut⟩ := exists_feeds_append kept (dropReturns text)
  exact ⟨above, length.trans (congrArg (· + 1) count), by rw [lines, dropped, cut, lines]⟩

/-! ### The line of a word -/

/-- Characters without a line feed start the first line, if the last of them is not taken for part
of a line ending. -/
theorem exists_lines_eq_cons (nonempty : line ≠ []) (solid : '\n' ∉ line)
    (last : line.getLast nonempty ≠ '\r') (rest : List Char) :
    ∃ tail others, lines (line ++ rest) = (line ++ tail) :: others := by
  induction line with
  | nil => exact absurd rfl nonempty
  | cons c line ih =>
    obtain ⟨other, solid⟩ := List.ne_and_not_mem_of_not_mem_cons solid
    cases line with
    | nil =>
      have kept : dropReturns (c :: rest) = c :: dropReturns rest := dropReturns_cons last rest
      refine ⟨(feeds (dropReturns rest)).headD [], (feeds (dropReturns rest)).tail, ?_⟩
      rw [lines, List.singleton_append, kept, feeds_cons_of_ne other.symm]
      rfl
    | cons next line =>
      obtain ⟨tail, others, cut⟩ := ih (List.cons_ne_nil _ _) solid last
      have inside : next ≠ '\n' := fun feed => solid (feed ▸ List.mem_cons_self)
      refine ⟨tail, others, ?_⟩
      rw [lines, List.cons_append] at cut
      rw [lines, List.cons_append, List.cons_append, dropReturns_cons_cons inside,
        feeds_cons_of_ne other.symm, cut]
      rfl

/-- A text has no line feed, or goes on after the last one. -/
theorem exists_eq_append_feed (text : List Char) :
    '\n' ∉ text ∧ text.rtakeWhile (· ≠ '\n') = text ∨
      ∃ upper, text = upper ++ '\n' :: text.rtakeWhile (· ≠ '\n') := by
  induction text using List.reverseRecOn with
  | nil => exact .inl ⟨List.not_mem_nil, rfl⟩
  | append_singleton text c ih =>
    by_cases feed : c = '\n'
    · subst feed
      rw [List.rtakeWhile_concat_neg _ _ _ (by decide)]
      exact .inr ⟨text, rfl⟩
    · rw [List.rtakeWhile_concat_pos _ _ _ (by simpa using feed)]
      rcases ih with ⟨none, whole⟩ | ⟨upper, whole⟩
      · exact .inl ⟨by simpa [none] using Ne.symm feed, by rw [whole]⟩
      · refine .inr ⟨upper, ?_⟩
        rw [← List.cons_append, ← List.append_assoc, ← whole]

/-- **The line on which a word starts** has before the word what comes after the last line feed. -/
theorem exists_getElem?_lines (solid : IsWord body) (before rest : List Char) :
    ∃ tail, (lines (before ++ (body ++ rest)))[before.count '\n']? =
      some (before.rtakeWhile (· ≠ '\n') ++ (body ++ tail)) := by
  have free : '\n' ∉ before.rtakeWhile (· ≠ '\n') := fun mem => by
    simpa using List.mem_rtakeWhile_imp mem
  have within : '\n' ∉ before.rtakeWhile (· ≠ '\n') ++ body := fun mem =>
    (List.mem_append.mp mem).elim free fun mem => (solid.ne_of_mem mem).1 rfl
  have last : (before.rtakeWhile (· ≠ '\n') ++ body).getLast (by simp [solid.1]) ≠ '\r' := by
    rw [List.getLast_append_of_right_ne_nil _ _ solid.1]
    exact (solid.ne_of_mem (List.getLast_mem solid.1)).2
  obtain ⟨tail, others, first⟩ := exists_lines_eq_cons _ within last rest
  rw [List.append_assoc, List.append_assoc] at first
  refine ⟨tail, ?_⟩
  rcases exists_eq_append_feed before with ⟨none, whole⟩ | ⟨upper, whole⟩
  · rw [whole] at first ⊢
    rw [List.count_eq_zero.mpr none, first, List.getElem?_cons_zero]
  · -- The lines above are as many as the line feeds before the word.
    obtain ⟨above, length, cut⟩ :=
      exists_lines_append upper (before.rtakeWhile (· ≠ '\n') ++ (body ++ rest))
    have count : before.count '\n' = above.length := by
      rw [whole, List.count_append, List.count_cons_self, List.count_eq_zero.mpr free, length]
    have split : before ++ (body ++ rest) =
        upper ++ '\n' :: (before.rtakeWhile (· ≠ '\n') ++ (body ++ rest)) := by
      conv_lhs => rw [whole]
      rw [List.append_assoc, List.cons_append]
    rw [count, split, cut, first, List.getElem?_append_right (Nat.le_refl _), Nat.sub_self,
      List.getElem?_cons_zero]

end Text

/-- What has no line feed in it moves a place on within its line. -/
theorem Caret.ofText_append_of_not_mem {body : List Char} (solid : '\n' ∉ body)
    (before : List Char) :
    ofText (before ++ body) =
      ⟨(ofText before).line, (ofText before).column + body.length⟩ := by
  induction body using List.reverseRecOn with
  | nil => rw [List.append_nil, List.length_nil, Nat.add_zero]
  | append_singleton body c ih =>
    rw [List.mem_append, not_or] at solid
    have other : c ≠ '\n' := fun feed => solid.2 (List.mem_singleton.mpr feed.symm)
    rw [← List.append_assoc, ofText_concat, ih solid.1, advance, if_neg other,
      List.length_append, List.length_singleton, Nat.add_assoc]

/-! ### Words with their places -/

/-- `WordsAt before text words` says that `words` are the words of `text`, which stands after
`before`, each with the stretch that it takes up there. -/
inductive WordsAt : List Char → List Char → List LocatedWord → Prop
  /-- Nothing is left. -/
  | done (before : List Char) : WordsAt before [] []
  /-- A blank is passed over. -/
  | blank {before rest : List Char} {c : Char} {words : List LocatedWord} (h : Text.isBlank c)
      (others : WordsAt (before ++ [c]) rest words) : WordsAt before (c :: rest) words
  /-- A word goes on up to a blank, or to the end. -/
  | word {before body rest : List Char} {words : List LocatedWord} (solid : Text.IsWord body)
      (ends : ∀ c ∈ rest.head?, Text.isBlank c) (others : WordsAt (before ++ body) rest words) :
      WordsAt before (body ++ rest) (⟨String.ofList body, Span.stretch before body⟩ :: words)

/-- A word that is read so far, and what is still to come. -/
theorem wordsAt_locatedWordsFrom (text : List Char) :
    (∀ before, WordsAt before text (locatedWordsFrom (Caret.ofText before) none text)) ∧
    ∀ before read, Text.IsWord read → WordsAt before (read ++ text)
      (locatedWordsFrom (Caret.ofText (before ++ read)) (some (Caret.ofText before, read.reverse))
        text) := by
  -- Between words nothing is read yet, so both are shown at once, by induction on what is to come.
  induction text with
  | nil =>
    refine ⟨.done, fun before read solid => ?_⟩
    rw [locatedWordsFrom, List.reverse_reverse, Span.between_ofText]
    exact .word solid (by simp) (.done _)
  | cons c rest ih =>
    obtain ⟨between, inside⟩ := ih
    by_cases blank : Text.isBlank c
    · refine ⟨fun before => ?_, fun before read solid => ?_⟩
      · rw [locatedWordsFrom, if_pos blank, ← Caret.ofText_concat]
        exact .blank blank (between _)
      · rw [locatedWordsFrom, if_pos blank, ← Caret.ofText_concat,
          List.reverse_reverse, Span.between_ofText]
        exact .word solid (by simpa using blank) (.blank blank (between _))
    · refine ⟨fun before => ?_, fun before read solid => ?_⟩
      · rw [locatedWordsFrom, if_neg blank, ← Caret.ofText_concat]
        exact inside before [c] ⟨List.cons_ne_nil c [], by simpa using blank⟩
      · rw [locatedWordsFrom, if_neg blank, ← Caret.ofText_concat]
        have longer : Text.IsWord (read ++ [c]) :=
          ⟨by simp, List.forall_mem_append.mpr ⟨solid.2, List.forall_mem_singleton.mpr blank⟩⟩
        have next := inside before (read ++ [c]) longer
        rwa [List.reverse_concat, ← List.append_cons, ← List.append_assoc] at next

/-- **The words of a text are located where they stand.** -/
theorem wordsAt_locatedWords (text : String) : WordsAt [] text.toList (locatedWords text) :=
  (wordsAt_locatedWordsFrom text.toList).1 []

section

variable {before text : List Char} {words : List LocatedWord} {word : LocatedWord} {index : Nat}

/-- Words with their places are the words. -/
theorem WordsAt.map_word (h : WordsAt before text words) :
    words.map (·.word) = (Text.words text).map String.ofList := by
  induction h with
  | done => rfl
  | blank h _ ih => rw [ih, Text.words_cons_blank h]
  | word solid ends _ ih => rw [solid.words_append ends, List.map_cons, List.map_cons, ih]

/-- **Each word stands where its span says**, after as many words as its index says. -/
theorem WordsAt.exists_split (h : WordsAt before text words) (found : words[index]? = some word) :
    ∃ above rest, text = above ++ (word.word.toList ++ rest) ∧ Text.IsWord word.word.toList ∧
      word.span = Span.stretch (before ++ above) word.word.toList ∧
      Text.words above = (Text.words text).take index := by
  induction h generalizing index with
  | done => cases found
  | @blank before _ c _ blank _ ih =>
    obtain ⟨above, rest, rfl, solid, span, taken⟩ := ih found
    rw [List.append_assoc, List.singleton_append] at span
    refine ⟨c :: above, rest, rfl, solid, span, ?_⟩
    rw [Text.words_cons_blank blank, Text.words_cons_blank blank, taken]
  | @word before body rest words solid ends _ ih =>
    cases index with
    | zero =>
      cases found
      rw [String.toList_ofList]
      exact ⟨[], rest, rfl, solid, by rw [List.append_nil], rfl⟩
    | succ index =>
      obtain ⟨above, rest, rfl, solid', span, taken⟩ := ih found
      have ended : ∀ c ∈ above.head?, Text.isBlank c := by
        cases above with
        | nil => simp
        | cons => exact ends
      rw [List.append_assoc] at span
      refine ⟨body ++ above, rest, (List.append_assoc ..).symm, solid', span, ?_⟩
      rw [solid.words_append ends, solid.words_append ended, taken, List.take_succ_cons]

end

/-! ### What a report underlines -/

namespace Report

variable {sources : Sources} {source : SourceId} {text : String} {before body rest : List Char}

/-- `Underlines sources source span body` says that the span of a source lies on one line, that a
report can quote this line, and that the line has `body` in the columns of the span, and before it
what the source has there after the last line feed. -/
structure Underlines (sources : Sources) (source : SourceId) (span : Span) (body : List Char) :
    Prop where
  /-- The span lies on one line. -/
  singleLine : span.isSingleLine
  /-- The line is there, and shows what is meant. -/
  quoted : ∃ before rest line,
    sources.text? source = some (String.ofList (before ++ (body ++ rest))) ∧
    span = Span.stretch before body ∧ sources.line? source span.start.line = some line ∧
    Excerpt.before line span.start.column = before.rtakeWhile (· ≠ '\n') ∧
    Excerpt.selected line span = body

/-- **A report underlines a word where its span says.** -/
theorem underlines_stretch (stored : sources.text? source = some text)
    (whole : text.toList = before ++ (body ++ rest)) (solid : Text.IsWord body) :
    Underlines sources source (Span.stretch before body) body := by
  have stop : (Span.stretch before body).stop = _ :=
    Caret.ofText_append_of_not_mem (fun mem => (solid.ne_of_mem mem).1 rfl) before
  obtain ⟨tail, found⟩ := Text.exists_getElem?_lines solid before rest
  refine ⟨?_, before, rest, String.ofList (before.rtakeWhile (· ≠ '\n') ++ (body ++ tail)),
    ?_, rfl, ?_, ?_, ?_⟩
  · rw [Span.isSingleLine, stop]
    exact beq_self_eq_true _
  · rw [stored, ← whole, String.ofList_toList]
  · rw [Sources.line?, stored, Option.bind_eq_bind, Option.bind_some, whole]
    exact congrArg (Option.bind · (some <| String.ofList ·)) found
  · rw [Excerpt.before, String.toList_ofList]
    exact List.take_left
  · rw [Excerpt.selected, String.toList_ofList, stop]
    dsimp only [Span.stretch, Caret.ofText]
    rw [List.drop_left, Nat.add_sub_cancel_left, List.take_left]

end Report

end Descent
