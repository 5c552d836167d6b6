import TypeTest.Proofs.Lines

/-!
# Lines and the breaks between them

The line starts of a source are found in one sweep over its text, while the end of a line is looked
for afresh each time it is asked for.  Both go by the same rule: CR LF, a lone CR and a lone LF each
end a line, and of a CR LF the CR alone does not.

The rule itself looks at two characters only.  A break ends at an offset if there is an LF just
before it, or a CR that no LF follows (`BreakEndsAt`).  The line starts are the beginning of the
text and these offsets (`lineStarts_eq_breaks`), however the CRs and LFs are mixed, and the line of
an offset is the number of breaks that end at or before it (`lineAt_natCast`).

The main result (`lines_partition`) is that the lines and the breaks between them partition the
text.  Going through it line by line (`startsAfterBreaks_cases`), each line starts where the one
before it, with its break, ends.
-/

namespace TypeTest

open Unicode (isLineEnd)

/-! ## Line breaks -/

/-- The line breaks. -/
def lineBreaks : List (List Char) := [['\r', '\n'], ['\r'], ['\n']]

/-- A line break ends at an offset: the character before it is an LF, or a CR which is not the first
half of a CR LF. -/
def BreakEndsAt (text : List Char) : Nat → Prop
  | 0 => False
  | place + 1 => text[place]? = some '\n' ∨ text[place]? = some '\r' ∧ text[place + 1]? ≠ some '\n'

instance (text : List Char) : DecidablePred (BreakEndsAt text)
  | 0 => inferInstanceAs (Decidable False)
  | _ + 1 => inferInstanceAs (Decidable (_ ∨ _ ∧ _))

lemma le_length_of_breakEndsAt {text : List Char} {place : Nat} (hends : BreakEndsAt text place) :
    place ≤ text.length := by
  cases place with
  | zero => exact Nat.zero_le _
  | succ place =>
    rcases hends with hlf | ⟨hcr, -⟩
    · exact (List.getElem?_eq_some_iff.1 hlf).1
    · exact (List.getElem?_eq_some_iff.1 hcr).1

/-- A line break ends behind the first character of a text, or it is one of the rest. -/
lemma breakEndsAt_cons {c : Char} {rest : List Char} {place : Nat} :
    BreakEndsAt (c :: rest) (place + 1) ↔
      place = 0 ∧ (c = '\n' ∨ c = '\r' ∧ '\n' ∉ rest.head?) ∨ BreakEndsAt rest place := by
  cases place with
  | zero => simp [BreakEndsAt, List.head?_eq_getElem?]
  | succ place => simp [BreakEndsAt]

lemma exists_breakEndsAt_cons {c : Char} {rest : List Char} {offset start : Nat} :
    (∃ place, start = offset + place ∧ BreakEndsAt (c :: rest) place) ↔
      start = offset + 1 ∧ (c = '\n' ∨ c = '\r' ∧ '\n' ∉ rest.head?) ∨
        ∃ place, start = offset + 1 + place ∧ BreakEndsAt rest place := by
  constructor
  · rintro ⟨place, hstart, hends⟩
    cases place with
    | zero => exact hends.elim
    | succ place =>
      rcases breakEndsAt_cons.1 hends with ⟨rfl, hhere⟩ | hlater
      · exact .inl ⟨hstart, hhere⟩
      · exact .inr ⟨place, by omega, hlater⟩
  · rintro (⟨hstart, hhere⟩ | ⟨place, hstart, hlater⟩)
    · exact ⟨1, hstart, breakEndsAt_cons.2 (.inl ⟨rfl, hhere⟩)⟩
    · exact ⟨place + 1, by omega, breakEndsAt_cons.2 (.inr hlater)⟩

/-- The sweep over a text finds the offsets at which a line break ends. -/
lemma mem_startsAfterBreaks_iff {offset start : Nat} {text : List Char} :
    start ∈ startsAfterBreaks offset text ↔
      ∃ place, start = offset + place ∧ BreakEndsAt text place := by
  fun_induction startsAfterBreaks offset text with
  | case1 offset =>
    refine iff_of_false List.not_mem_nil ?_
    rintro ⟨place, -, hends⟩
    obtain rfl := Nat.le_zero.1 (le_length_of_breakEndsAt hends)
    exact hends
  | case2 offset rest ih =>
    rw [List.mem_cons, ih, exists_breakEndsAt_cons, exists_breakEndsAt_cons]
    simp
  | case3 offset c rest hpair hc ih =>
    have hhere : c = '\n' ∨ c = '\r' ∧ '\n' ∉ rest.head? := by
      simp only [isLineEnd, Bool.or_eq_true, beq_iff_eq] at hc
      rcases hc with rfl | rfl
      · refine .inr ⟨rfl, fun hlf => ?_⟩
        obtain ⟨more, rfl⟩ := List.head?_eq_some_iff.1 hlf
        exact hpair more rfl rfl
      · exact .inl rfl
    rw [List.mem_cons, ih, exists_breakEndsAt_cons, and_iff_left hhere]
  | case4 offset c rest hpair hc ih =>
    have hnot : ¬ (c = '\n' ∨ c = '\r' ∧ '\n' ∉ rest.head?) := by
      rintro (rfl | ⟨rfl, -⟩)
      · exact hc rfl
      · exact hc rfl
    rw [ih, exists_breakEndsAt_cons, or_iff_right fun hhere => hnot hhere.2]

/-! ## One line after the other -/

/-- A run of characters is a line break where it stands: it is one of the three, and if it is a CR
then no LF follows. -/
def IsBreakBefore (ending rest : List Char) : Prop :=
  ending ∈ lineBreaks ∧ (ending = ['\r'] → '\n' ∉ rest.head?)

/-- The first line of a text is all of it, or it ends with a line break, and the next line starts
there. -/
lemma startsAfterBreaks_cases (offset : Nat) (text : List Char) :
    ∃ content : List Char, (∀ c ∈ content, isLineEnd c = false) ∧
      (text = content ∧ startsAfterBreaks offset text = [] ∨
        ∃ ending rest, IsBreakBefore ending rest ∧ text = content ++ (ending ++ rest) ∧
          startsAfterBreaks offset text = (offset + (content.length + ending.length)) ::
            startsAfterBreaks (offset + (content.length + ending.length)) rest) := by
  fun_induction startsAfterBreaks offset text with
  | case1 offset => exact ⟨[], List.forall_mem_nil _, .inl ⟨rfl, rfl⟩⟩
  | case2 offset rest ih =>
    have hbreak : IsBreakBefore ['\r', '\n'] rest :=
      ⟨by decide, fun hcr => absurd hcr (by decide)⟩
    exact ⟨[], List.forall_mem_nil _, .inr ⟨['\r', '\n'], rest, hbreak, rfl, rfl⟩⟩
  | case3 offset c rest hpair hc ih =>
    refine ⟨[], List.forall_mem_nil _, .inr ⟨[c], rest, ⟨?_, fun hcr hlf => ?_⟩, rfl, rfl⟩⟩
    · simp only [isLineEnd, Bool.or_eq_true, beq_iff_eq] at hc
      rcases hc with rfl | rfl <;> decide
    · obtain ⟨more, rfl⟩ := List.head?_eq_some_iff.1 hlf
      exact hpair more (List.cons.inj hcr).1 rfl
  | case4 offset c rest hpair hc ih =>
    obtain ⟨content, hcontent, hrest⟩ := ih
    have hline : ∀ d ∈ c :: content, isLineEnd d = false :=
      List.forall_mem_cons.2 ⟨Bool.eq_false_iff.2 hc, hcontent⟩
    refine ⟨c :: content, hline, ?_⟩
    rcases hrest with ⟨rfl, hnone⟩ | ⟨ending, rest', hbreak, rfl, hnext⟩
    · exact .inl ⟨rfl, hnone⟩
    · refine .inr ⟨ending, rest', hbreak, rfl, ?_⟩
      rw [hnext, List.length_cons]
      simp only [Nat.add_assoc, Nat.add_comm, Nat.add_left_comm]

/-- Up to its end a line holds no line end, and what follows is a line break or nothing. -/
lemma takeWhile_content {content rest : List Char} (hcontent : ∀ c ∈ content, isLineEnd c = false)
    (hrest : ∀ c ∈ rest.head?, isLineEnd c = true) :
    (content ++ rest).takeWhile (fun c => !isLineEnd c) = content := by
  rw [List.takeWhile_append_of_pos fun c hc => by simp [hcontent c hc]]
  cases rest with
  | nil => simp
  | cons c rest => simp [hrest c rfl]

lemma IsBreakBefore.isLineEnd_head {ending rest : List Char} (hbreak : IsBreakBefore ending rest) :
    ∀ c ∈ (ending ++ rest).head?, isLineEnd c = true := by
  have hhead : ∀ brk ∈ lineBreaks, ∃ c more, brk = c :: more ∧ isLineEnd c = true := by
    simp [lineBreaks, isLineEnd]
  obtain ⟨c, more, rfl, hc⟩ := hhead ending hbreak.1
  simpa using hc

namespace Source

/-! ## Line starts -/

/-- The line starts are the beginning of the text and the offsets at which a line break ends. -/
lemma lineStarts_eq_breaks (source : Source) :
    source.lineStarts =
      0 :: (List.range (source.length + 1)).filter (BreakEndsAt source.chars ·) := by
  have hstarts : startsAfterBreaks 0 source.chars =
      (List.range (source.length + 1)).filter (BreakEndsAt source.chars ·) := by
    refine eq_of_ascending (startsAfterBreaks_ascending 0 source.chars)
      (List.pairwise_lt_range.filter _) fun start => ?_
    rw [mem_startsAfterBreaks_iff, List.mem_filter, decide_eq_true_iff, List.mem_range]
    simp only [Nat.zero_add, exists_eq_left']
    exact ⟨fun hends => ⟨Nat.lt_succ_of_le (le_length_of_breakEndsAt hends), hends⟩, And.right⟩
  rw [lineStarts_eq, hstarts]

/-- No offset in the text is before the first line, so only the breaks count. -/
lemma lineAt_natCast (source : Source) (offset : Nat) :
    source.lineAt offset =
      ((List.range (offset + 1)).countP (BreakEndsAt source.chars ·) : Nat) := by
  have hbreaks : (startsAfterBreaks 0 source.chars).filter (fun start : Nat => start ≤ offset) =
      (List.range (offset + 1)).filter (BreakEndsAt source.chars ·) := by
    refine eq_of_ascending ((startsAfterBreaks_ascending 0 source.chars).filter _)
      (List.pairwise_lt_range.filter _) fun start => ?_
    simp only [List.mem_filter, mem_startsAfterBreaks_iff, List.mem_range, Nat.zero_add,
      exists_eq_left', decide_eq_true_iff, Nat.lt_succ_iff]
    exact And.comm
  rw [lineAt_eq_countP, lineStarts_eq, List.countP_cons_of_pos (by simp)]
  simp only [Int.ofNat_le]
  rw [List.countP_eq_length_filter, hbreaks, ← List.countP_eq_length_filter]
  omega

-- between the CR and the LF, at the start of a line, and behind the end of the text
example : [2, 3, 9].map (ofString "a\r\nb").lineAt = [0, 1, 1] := by decide +kernel

lemma length_lineStarts (source : Source) : source.lineStarts.length = source.lineCount := by
  rw [lineStarts, lineCount, Array.length_toList]

lemma startOfLine?_natCast {source : Source} {line start : Nat}
    (hstart : source.lineStarts[line]? = some start) :
    source.startOfLine? line = some start := by
  have hcount : ¬ (source.lineCount : Int) ≤ line := by
    have hline := (List.getElem?_eq_some_iff.1 hstart).1
    rw [length_lineStarts] at hline
    omega
  rw [startOfLine?, if_neg hcount, Text.signedGet?_natCast, hstart]

/-! ## Lines -/

/-- The content of the line that starts at an offset, up to the break that ends it. -/
def contentAt (source : Source) (start : Nat) : List Char :=
  (source.chars.drop start).takeWhile fun c => !isLineEnd c

/-- What stands between the lines of a source: from the end of the content of each line but the last
one to the start of the next line. -/
def terminators (source : Source) : List (List Char) :=
  List.zipWith (fun start next =>
      source.chars.extract (start + (source.contentAt start).length) next)
    source.lineStarts source.lineStarts.tail

lemma lineCount_of_drop {source : Source} {line start : Nat}
    (hdrop : source.lineStarts.drop line = [start]) : line + 1 = source.lineCount := by
  have hlength := congrArg List.length hdrop
  rw [List.length_drop, length_lineStarts, List.length_singleton] at hlength
  omega

/-- A line starts at a place of the text and the lines after it start where the sweep goes on. -/
lemma exists_drop_lineStarts (source : Source) {line : Nat} (hline : line < source.lineCount) :
    ∃ before rest, source.chars = before ++ rest ∧
      source.lineStarts.drop line = before.length :: startsAfterBreaks before.length rest := by
  induction line with
  | zero => exact ⟨[], source.chars, rfl, source.lineStarts_eq⟩
  | succ line ih =>
    obtain ⟨before, rest, hchars, hdrop⟩ := ih (Nat.lt_of_succ_lt hline)
    obtain ⟨content, hcontent, ⟨-, hnone⟩ | ⟨ending, later, hbreak, hrest, hnext⟩⟩ :=
      startsAfterBreaks_cases before.length rest
    · have hlast := lineCount_of_drop (hnone ▸ hdrop)
      exact absurd hline (hlast ▸ Nat.lt_irrefl _)
    · refine ⟨before ++ (content ++ ending), later, by simp [hchars, hrest], ?_⟩
      rw [← List.tail_drop, hdrop, List.tail_cons, hnext, List.length_append, List.length_append]

/-- What stands in the middle of a text is cut out by the offsets at its ends. -/
lemma extract_append (before middle after : List Char) :
    (before ++ (middle ++ after)).extract before.length (before.length + middle.length) =
      middle := by
  rw [List.extract_eq_take_drop, List.drop_left, Nat.add_sub_cancel_left, List.take_left]

lemma contentAt_of_split {source : Source} {before content rest : List Char}
    (hchars : source.chars = before ++ (content ++ rest))
    (hcontent : ∀ c ∈ content, isLineEnd c = false)
    (hrest : ∀ c ∈ rest.head?, isLineEnd c = true) :
    source.contentAt before.length = content := by
  rw [contentAt, hchars, List.drop_left, takeWhile_content hcontent hrest]

/-- The terminator of a line is cut out by the end of its content and the start of the next line. -/
lemma extract_terminator {source : Source} {before content ending later : List Char}
    (hchars : source.chars = before ++ (content ++ (ending ++ later))) :
    source.chars.extract (before.length + content.length)
      (before.length + (content.length + ending.length)) = ending := by
  rw [hchars, ← List.append_assoc, ← Nat.add_assoc, ← List.length_append]
  exact extract_append ..

/-- Where the next line starts, what stands behind the terminator goes on. -/
lemma getElem?_behind {source : Source} {before content ending later : List Char}
    (hchars : source.chars = before ++ (content ++ (ending ++ later))) :
    source.chars[before.length + (content.length + ending.length)]? = later.head? := by
  rw [hchars, ← List.append_assoc, ← List.append_assoc, ← Nat.add_assoc, ← List.length_append,
    ← List.length_append, List.getElem?_append_right (Nat.le_refl _), Nat.sub_self,
    List.head?_eq_getElem?]

/-- What a line is made of: a content without line ends, and behind it the end of the text or a line
break that ends where the next line starts. -/
lemma exists_line (source : Source) {line : Nat} (hline : line < source.lineCount) :
    ∃ before content rest, source.chars = before ++ (content ++ rest) ∧
      source.lineStarts[line]? = some before.length ∧
      source.contentAt before.length = content ∧ (∀ c ∈ content, isLineEnd c = false) ∧
      (rest = [] ∧ line + 1 = source.lineCount ∨
        ∃ ending later, rest = ending ++ later ∧ IsBreakBefore ending later ∧
          source.lineStarts[line + 1]? =
            some (before.length + (content.length + ending.length))) := by
  obtain ⟨before, rest, hchars, hdrop⟩ := source.exists_drop_lineStarts hline
  have hstart : source.lineStarts[line]? = some before.length := by
    rw [← List.head?_drop, hdrop, List.head?_cons]
  obtain ⟨content, hcontent, ⟨rfl, hnone⟩ | ⟨ending, later, hbreak, rfl, hnext⟩⟩ :=
    startsAfterBreaks_cases before.length rest
  · have hlast := lineCount_of_drop (hnone ▸ hdrop)
    rw [← List.append_nil rest] at hchars
    exact ⟨before, rest, [], hchars, hstart, contentAt_of_split hchars hcontent nofun, hcontent,
      .inl ⟨rfl, hlast⟩⟩
  · have hnext' : source.lineStarts[line + 1]? =
        some (before.length + (content.length + ending.length)) := by
      rw [← List.head?_drop, ← List.tail_drop, hdrop, List.tail_cons, hnext, List.head?_cons]
    exact ⟨before, content, ending ++ later, hchars, hstart,
      contentAt_of_split hchars hcontent hbreak.isLineEnd_head, hcontent,
      .inr ⟨ending, later, rfl, hbreak, hnext'⟩⟩

/-- From the start of a line on, the contents of lines and the terminators make up the text. -/
lemma flatten_lines {source : Source} {starts : List Nat} (before rest : List Char)
    (hchars : source.chars = before ++ rest)
    (hstarts : startsAfterBreaks before.length rest = starts) :
    (List.zipWith (· ++ ·) ((before.length :: starts).map source.contentAt)
      (List.zipWith (fun start next =>
          source.chars.extract (start + (source.contentAt start).length) next)
        (before.length :: starts) starts ++ [[]])).flatten = rest := by
  induction starts generalizing before rest with
  | nil =>
    obtain ⟨content, hcontent, ⟨rfl, -⟩ | ⟨_, _, -, -, hnext⟩⟩ :=
      startsAfterBreaks_cases before.length rest
    · rw [← List.append_nil rest] at hchars
      simp [contentAt_of_split hchars hcontent nofun]
    · cases hstarts.symm.trans hnext
  | cons next starts ih =>
    obtain ⟨content, hcontent, ⟨-, hnone⟩ | ⟨ending, later, hbreak, rfl, hnext⟩⟩ :=
      startsAfterBreaks_cases before.length rest
    · cases hstarts.symm.trans hnone
    · obtain ⟨rfl, hlater⟩ := List.cons.inj (hstarts.symm.trans hnext)
      have hline := contentAt_of_split hchars hcontent hbreak.isLineEnd_head
      have hlength : (before ++ (content ++ ending)).length =
          before.length + (content.length + ending.length) := by simp
      have hrest := ih (before ++ (content ++ ending)) later (by simp [hchars])
        (by rw [hlength, hlater])
      rw [hlength] at hrest
      rw [List.map_cons, List.zipWith_cons_cons, List.cons_append, List.zipWith_cons_cons,
        List.flatten_cons, hrest, hline, extract_terminator hchars, List.append_assoc]

lemma length_terminators (source : Source) :
    source.terminators.length + 1 = source.lineCount := by
  have hcount := source.lineCount_pos
  rw [terminators, List.length_zipWith, List.length_tail, length_lineStarts]
  omega

/-- A line goes from `start` to `stop`, and to the break that ends it, unless it is the last one. -/
structure IsLine (source : Source) (line start stop : Nat) : Prop where
  start_eq : source.lineStarts[line]? = some start
  span_eq : source.spanOfLine? line = some (start, stop)
  start_le : start ≤ stop
  content_eq : source.lines[line]? = some (String.ofList (source.chars.extract start stop))
  content : ∀ c ∈ source.chars.extract start stop, c ≠ '\r' ∧ c ≠ '\n'
  last : line + 1 = source.lineCount → stop = source.length
  terminator : line + 1 < source.lineCount → ∃ next, source.lineStarts[line + 1]? = some next ∧
    source.terminators[line]? = some (source.chars.extract stop next) ∧
    source.chars.extract stop next ∈ lineBreaks ∧
    (source.chars.extract stop next = ['\r'] → source.chars[next]? ≠ some '\n')

/-- What the queries about a line say, by its start. -/
lemma line_queries {source : Source} {line start : Nat}
    (hstart : source.lineStarts[line]? = some start) :
    source.spanOfLine? line = some (start, start + (source.contentAt start).length) ∧
      source.lines[line]? = some (String.ofList (source.contentAt start)) := by
  constructor
  · rw [spanOfLine?, startOfLine?_natCast hstart]
    rfl
  · rw [lines, List.getElem?_map, hstart]
    rfl

lemma getElem?_terminators {source : Source} {line start next : Nat}
    (hstart : source.lineStarts[line]? = some start)
    (hnext : source.lineStarts[line + 1]? = some next) :
    source.terminators[line]? =
      some (source.chars.extract (start + (source.contentAt start).length) next) := by
  rw [terminators, List.getElem?_zipWith, List.getElem?_tail, hstart, hnext]

lemma exists_isLine (source : Source) {line : Nat} (hline : line < source.lineCount) :
    ∃ start stop, source.IsLine line start stop := by
  obtain ⟨before, content, rest, hchars, hstart, hcontentAt, hcontent, hrest⟩ :=
    source.exists_line hline
  obtain ⟨hspan, hcontentLine⟩ := line_queries hstart
  rw [hcontentAt] at hspan hcontentLine
  have hextract :
      source.chars.extract before.length (before.length + content.length) = content := by
    rw [hchars]
    exact extract_append ..
  refine ⟨before.length, before.length + content.length, hstart, hspan, Nat.le_add_right .., ?_, ?_,
    fun hlast => ?_, fun hmore => ?_⟩
  · rw [hextract, hcontentLine]
  · rw [hextract]
    intro c hc
    simpa [isLineEnd] using hcontent c hc
  · rcases hrest with ⟨rfl, -⟩ | ⟨ending, later, -, -, hnext⟩
    · rw [length, hchars, List.append_nil, List.length_append]
    · have hnext' := (List.getElem?_eq_some_iff.1 hnext).1
      rw [length_lineStarts] at hnext'
      omega
  · rcases hrest with ⟨-, hlast⟩ | ⟨ending, later, rfl, hbreak, hnext⟩
    · omega
    · have hending := extract_terminator hchars
      have hterminator := getElem?_terminators hstart hnext
      rw [hcontentAt] at hterminator
      refine ⟨_, hnext, hterminator, hending.symm ▸ hbreak.1, fun hcr => ?_⟩
      rw [getElem?_behind hchars]
      exact hbreak.2 (hending.symm.trans hcr)

/-- **The lines of a text and the breaks between them partition it.**  Lines start at the beginning
of the text and just behind each line break, in ascending order.  Each line goes from its start to
an offset at which a line break begins, or to the end of the text if it is the last one; there is no
CR and no LF in it.  The break goes on to the start of the next line, and it is one of the three; it
is not a CR where an LF follows.  The contents of the lines with these breaks between them are the
text, and there is one line more than there are breaks. -/
theorem lines_partition (source : Source) :
    source.lineStarts =
        0 :: (List.range (source.length + 1)).filter (BreakEndsAt source.chars ·) ∧
      source.lineStarts.Pairwise (· < ·) ∧
      (∀ start ∈ source.lineStarts, start ≤ source.length) ∧
      (∀ line : Nat, line < source.lineCount → ∃ start stop, source.IsLine line start stop) ∧
      (List.zipWith (fun line terminator => line.toList ++ terminator) source.lines
        (source.terminators ++ [[]])).flatten = source.chars ∧
      source.lines.length = source.lineCount ∧
      source.lineCount = source.terminators.length + 1 := by
  have hlines : source.lines = source.lineStarts.map (String.ofList ∘ source.contentAt) := rfl
  refine ⟨source.lineStarts_eq_breaks, source.lineStarts_ascending, fun start hstart => ?_,
    fun line => source.exists_isLine, ?_, ?_, source.length_terminators.symm⟩
  · rw [lineStarts_eq_breaks, List.mem_cons, List.mem_filter, List.mem_range] at hstart
    omega
  · have hlater : startsAfterBreaks 0 source.chars = source.lineStarts.tail := by
      rw [lineStarts_eq, List.tail_cons]
    have hflatten := flatten_lines [] source.chars rfl hlater
    rw [List.length_nil, ← hlater, ← lineStarts_eq, hlater] at hflatten
    rw [hlines, ← List.map_map, List.zipWith_map_left]
    simp only [String.toList_ofList]
    exact hflatten
  · rw [hlines, List.length_map, length_lineStarts]

example : (ofString "a\r\r\nb\r").terminators = [['\r'], ['\r', '\n'], ['\r']] := by decide +kernel

end Source

end TypeTest
