import NamedSql.Proofs.Sql.Search

/-!
# Text around a clause

No clause which begins in a text goes on with another clause, apart from a negation right before
a clause without one, and none goes on with a comparison or begins in it.  Whatever stands around
a clause over a list, writing it anew therefore gives the text with the comparison in its place.
-/

namespace NamedSql.Sql

/-! ## Leads which end in leads -/

/-- The characters of a text which are not blank, in lowercase. -/
def visible (text : List Char) : List Char :=
  (text.filter (!Text.isBlank ·)).map Char.toLower

@[simp]
theorem visible_append (first second : List Char) :
    visible (first ++ second) = visible first ++ visible second := by
  rw [visible, List.filter_append, List.map_append]
  rfl

theorem mem_visible {c : Char} {text : List Char} (among : c ∈ text)
    (shown : Text.isBlank c = false) : c.toLower ∈ visible text :=
  List.mem_map_of_mem (List.mem_filter.mpr ⟨among, by rw [shown]; rfl⟩)

theorem Blanks.visible {text : List Char} (blank : Blanks text) : visible text = [] := by
  have none : text.filter (!Text.isBlank ·) = [] :=
    List.filter_eq_nil_iff.mpr fun c among => by rw [blank c among]; decide
  rw [Sql.visible, none, List.map_nil]

theorem Spells.visible {word text : List Char} (spells : Spells word text)
    (letters : word.all Char.isAlpha = true) : visible text = word := by
  have all : text.filter (!Text.isBlank ·) = text := by
    apply List.filter_eq_self.mpr
    intro c among
    have lower := List.all_eq_true.mp letters c.toLower (spells ▸ List.mem_map_of_mem among)
    rw [isBlank_of_toLower lower]
    rfl
  rw [Sql.visible, all]
  exact spells

theorem IsNot.visible {text : List Char} (isNot : IsNot text) :
    visible text = ['n', 'o', 't'] := by
  obtain ⟨word, blanks, spells, blank, _, rfl⟩ := isNot
  rw [visible_append, spells.visible rfl, blank.visible, List.append_nil]

namespace Lead

variable {negated negatedToo : Bool} {front lead : List Char}

theorem visible (isLead : Lead negated lead) :
    visible lead = if negated then ['n', 'o', 't', 'i', 'n'] else ['i', 'n'] := by
  cases isLead with
  | membership spells blank =>
      rw [visible_append, spells.visible rfl, blank.visible]
      rfl
  | negation isNot following =>
      cases following with
      | membership spells blank =>
          rw [visible_append, isNot.visible, visible_append, spells.visible rfl, blank.visible]
          rfl

theorem getLast?_visible (isLead : Lead negated lead) : (Sql.visible lead).getLast? = some 'n' := by
  rw [isLead.visible]
  split <;> rfl

/-- A lead consists of letters and blanks. -/
theorem notMem (isLead : Lead negated lead) {mark : Char} (shown : Text.isBlank mark = false)
    (unlike : mark.toLower ∉ ['n', 'o', 't', 'i', 'n']) : mark ∉ lead := by
  intro among
  have letter := mem_visible among shown
  rw [isLead.visible] at letter
  apply unlike
  split at letter
  · exact letter
  · exact List.mem_append_right ['n', 'o', 't'] letter

/-- No lead ends in a shorter one of its kind. -/
theorem eq_nil_of_append (whole : Lead negated (front ++ lead)) (part : Lead negated lead) :
    front = [] := by
  have same := whole.visible
  rw [visible_append, part.visible, List.append_left_eq_self] at same
  cases front with
  | nil => rfl
  | cons c front =>
      obtain ⟨_, _, first, lower⟩ := whole.exists_cons
      cases first
      have shown : Text.isBlank c = false := by
        apply isBlank_of_toLower
        rw [lower]
        cases negated <;> rfl
      have letter := mem_visible (List.mem_cons_self (a := c) (l := front)) shown
      rw [same] at letter
      cases letter

/-- A lead which ends in a shorter one is that one negated. -/
theorem isNot_of_append (whole : Lead negated (front ++ lead)) (part : Lead negatedToo lead)
    (nonempty : front ≠ []) : negatedToo = false ∧ IsNot front := by
  cases negatedToo with
  | true =>
      cases negated with
      | true => exact absurd (whole.eq_nil_of_append part) nonempty
      | false =>
          have short := congrArg List.length whole.visible
          rw [visible_append, part.visible, List.length_append] at short
          simp at short
  | false =>
      cases negated with
      | false => exact absurd (whole.eq_nil_of_append part) nonempty
      | true =>
          obtain ⟨negation, following, isNot, isLead, same⟩ := whole.exists_negation
          rcases List.append_eq_append_iff.mp same with
            ⟨between, rfl, rfl⟩ | ⟨between, rfl, rfl⟩
          · obtain rfl := part.eq_nil_of_append isLead
            rw [List.append_nil] at isNot
            exact ⟨rfl, isNot⟩
          · obtain rfl := isLead.eq_nil_of_append part
            rw [List.append_nil]
            exact ⟨rfl, isNot⟩

end Lead

/-! ## Parentheses -/

/-- What follows an opening parenthesis up to its closing one. -/
structure Closes (text : List Char) : Prop where
  unopened : '(' ∉ text
  closed : text.getLast? = some ')'

theorem Closes.of_append {first second : List Char} (closes : Closes (first ++ second))
    (nonempty : second ≠ []) : Closes second := by
  constructor
  · exact fun among => closes.unopened (List.mem_append_right first among)
  · have last := closes.closed
    have isLast := List.getLast?_eq_some_getLast nonempty
    rwa [List.getLast?_append, isLast, Option.some_or, ← isLast] at last

/-- No parenthesis is closed before one is opened. -/
theorem Closes.ne_append {text front following rest : List Char} (closes : Closes text)
    (unclosed : ')' ∉ front) : front ++ '(' :: following ≠ text ++ rest := by
  intro same
  have close := List.mem_of_getLast? closes.closed
  rcases List.append_eq_append_iff.mp same with ⟨between, rfl, opens⟩ | ⟨between, rfl, -⟩
  · cases between with
    | nil => exact unclosed (List.append_nil front ▸ close)
    | cons c between =>
        cases opens
        exact closes.unopened (List.mem_append_right front List.mem_cons_self)
  · exact unclosed (List.mem_append_left between close)

/-- A text is divided where a character stands first. -/
theorem eq_of_append_cons {c : Char} {first second rest others : List Char} (absent : c ∉ first)
    (absentToo : c ∉ second) (same : first ++ c :: rest = second ++ c :: others) :
    first = second ∧ rest = others := by
  have front : ∀ {text}, c ∉ text → ∀ more, (text ++ c :: more).takeWhile (· != c) = text := by
    intro text missing more
    refine (Text.span_append (fun other among => ?_) (by simp)).1
    rw [bne_iff_ne]
    rintro rfl
    exact missing among
  have equal : first = second := by rw [← front absent rest, same, front absentToo]
  subst equal
  exact ⟨rfl, (List.cons.inj (List.append_cancel_left same)).2⟩

/-- A text in parentheses which begins before another one ends before it, or they have the
parentheses in common. -/
theorem within_or_shared {tail lead inner rest front following : List Char}
    (unopened : '(' ∉ lead) (closes : Closes inner) (unopenedToo : '(' ∉ front)
    (unclosed : ')' ∉ front)
    (same : tail ++ (front ++ '(' :: following) = lead ++ '(' :: inner ++ rest) :
    (∃ between, tail = lead ++ '(' :: inner ++ between) ∨ lead = tail ++ front := by
  by_cases opened : '(' ∈ tail
  · left
    obtain ⟨begun, back, rfl, absent⟩ := List.eq_append_cons_of_mem opened
    rw [List.append_assoc, List.cons_append, List.append_assoc, List.cons_append] at same
    obtain ⟨rfl, afterwards⟩ := eq_of_append_cons absent unopened same
    rcases List.append_eq_append_iff.mp afterwards with
      ⟨between, rfl, goesOn⟩ | ⟨between, rfl, -⟩
    · by_cases ended : between = []
      · rw [ended, List.append_nil]
        exact ⟨[], (List.append_nil _).symm⟩
      · exact ((closes.of_append ended).ne_append unclosed goesOn).elim
    · exact ⟨between, by rw [List.append_assoc, List.cons_append]⟩
  · right
    have absent : '(' ∉ tail ++ front := by
      simp only [List.mem_append, not_or]
      exact ⟨opened, unopenedToo⟩
    rw [← List.append_assoc, List.append_assoc lead, List.cons_append] at same
    exact (eq_of_append_cons absent unopened same).1.symm

theorem Path.IsNamed.open_notMem {path : Path} (named : path.IsNamed isLetterInAnyCase) :
    '(' ∉ path.chars := by
  intro among
  rcases named.continuesName_or_dot among with continues | dot
  · cases continues
  · cases dot

theorem Enclosed.exists_closes {path : Path} {text : List Char}
    (named : path.IsNamed isLetterInAnyCase) (enclosed : Enclosed path text) :
    ∃ inner, Closes inner ∧ text = '(' :: inner := by
  obtain ⟨opening, closing, blankOpening, blankClosing, rfl⟩ := enclosed
  have unopened : ∀ {blanks}, Blanks blanks → '(' ∉ blanks := by
    intro blanks blank among
    cases blank '(' among
  refine ⟨_, ⟨?_, by simp [List.getLast?_cons]⟩, rfl⟩
  simp only [List.mem_append, List.mem_cons, List.not_mem_nil, or_false, not_or]
  exact ⟨unopened blankOpening, by decide, named.open_notMem, unopened blankClosing, by decide⟩

namespace InClause

variable {clause : InClause}

/-- The operator of a comparison. -/
def operator (clause : InClause) : List Char :=
  if clause.negated then ['!', '=', 'A', 'L', 'L'] else ['=', 'A', 'N', 'Y']

theorem comparison_eq (clause : InClause) :
    clause.comparison = clause.operator ++ '(' :: (':' :: (clause.path.chars ++ [')'])) := by
  rw [comparison, operator]
  split <;> rfl

theorem open_notMem_operator (clause : InClause) : '(' ∉ clause.operator := by
  rw [operator]
  split <;> decide

theorem close_notMem_operator (clause : InClause) : ')' ∉ clause.operator := by
  rw [operator]
  split <;> decide

theorem equals_mem_operator (clause : InClause) : '=' ∈ clause.operator := by
  rw [operator]
  split <;> decide

/-- No operator ends like a lead. -/
theorem getLast?_visible_operator (clause : InClause) :
    (visible clause.operator).getLast? ≠ some 'n' := by
  rw [operator]
  split <;> decide

theorem closes_comparison (named : clause.path.IsNamed isLetterInAnyCase) :
    Closes (':' :: (clause.path.chars ++ [')'])) := by
  constructor
  · simpa using named.open_notMem
  · rw [← List.cons_append, List.getLast?_concat]

end InClause

/-! ## Clauses and comparisons after a text -/

/-- The text ends in the word `NOT` with blanks after it. -/
def EndsInNot (text : List Char) : Prop :=
  ∃ head negation, IsNot negation ∧ head.getLast?.any Text.isWord = false ∧
    text = head ++ negation

theorem EndsInNot.suffix {text : List Char} (ends : EndsInNot text) :
    ['n', 'o', 't'] <:+ visible text := by
  obtain ⟨head, negation, isNot, -, rfl⟩ := ends
  exact ⟨visible head, by rw [visible_append, isNot.visible]⟩

section Surroundings

variable {text rest : List Char} {clause : InClause}

/-- A clause which begins before a parenthesis ends before it, or it is opened by the
parenthesis. -/
theorem InClause.within_or_lead {tail front following : List Char}
    (taken : take? (tail ++ (front ++ '(' :: following)) = some (clause, rest))
    (unopened : '(' ∉ front) (unclosed : ')' ∉ front) :
    (∃ between, tail = clause.written ++ between) ∨ Lead clause.negated (tail ++ front) := by
  obtain ⟨named, ⟨lead, enclosed, isLead, isEnclosed, written⟩, same⟩ := take?_eq_some_iff.mp taken
  obtain ⟨inner, closes, rfl⟩ := isEnclosed.exists_closes named
  rw [written] at same ⊢
  apply (within_or_shared (isLead.notMem rfl (by decide)) closes unopened unclosed same).imp_right
  rintro rfl
  exact isLead

/-- No clause which begins in a text goes on with a spelling of another one, unless the text ends
in a negation of it. -/
theorem apart_spelled {negated : Bool} {path : Path} {spelled : List Char}
    (named : path.IsNamed isLetterInAnyCase) (isSpelled : Spelled negated path spelled)
    (unnegated : negated = false → ¬EndsInNot text) : Apart none text (spelled ++ rest) := by
  rintro head tail found following rfl nonempty begins taken
  obtain ⟨lead, enclosed, isLead, isEnclosed, rfl⟩ := isSpelled
  obtain ⟨inner, -, rfl⟩ := isEnclosed.exists_closes named
  rw [List.append_assoc, List.cons_append] at taken
  rcases InClause.within_or_lead taken (isLead.notMem rfl (by decide))
    (isLead.notMem rfl (by decide)) with within | shared
  · exact within
  · obtain ⟨positive, isNot⟩ := shared.isNot_of_append isLead nonempty
    rw [lastFrom_none] at begins
    exact (unnegated positive ⟨head, tail, isNot, begins, rfl⟩).elim

/-- No clause which begins in a text goes on with a comparison. -/
theorem apart_comparison {before : Option Char} :
    Apart before text (clause.comparison ++ rest) := by
  rintro head tail found following rfl nonempty begins taken
  rw [clause.comparison_eq, List.append_assoc, List.cons_append] at taken
  rcases InClause.within_or_lead taken clause.open_notMem_operator clause.close_notMem_operator
    with within | shared
  · exact within
  · have equals := List.mem_append_right tail clause.equals_mem_operator
    exact (shared.notMem rfl (by decide) equals).elim

/-- No clause begins where a parenthesis is closed before one is opened. -/
theorem Closes.take?_eq_none {closing : List Char} (closes : Closes closing) :
    InClause.take? (closing ++ rest) = none := by
  rw [Option.eq_none_iff_forall_ne_some]
  rintro ⟨found, following⟩ taken
  obtain ⟨named, ⟨lead, enclosed, isLead, isEnclosed, written⟩, same⟩ :=
    InClause.take?_eq_some_iff.mp taken
  obtain ⟨inner, -, rfl⟩ := isEnclosed.exists_closes named
  rw [written, List.append_assoc, List.cons_append] at same
  exact closes.ne_append (isLead.notMem rfl (by decide)) same.symm

/-- No clause begins with the end of an operator. -/
theorem InClause.take?_operator {head back following : List Char}
    (operator : clause.operator = head ++ back) : take? (back ++ '(' :: following) = none := by
  rw [Option.eq_none_iff_forall_ne_some]
  rintro ⟨found, rest⟩ taken
  have unopened : '(' ∉ head ++ back := operator ▸ clause.open_notMem_operator
  have unclosed : ')' ∉ head ++ back := operator ▸ clause.close_notMem_operator
  rw [← List.nil_append (back ++ _)] at taken
  rcases within_or_lead taken (fun among => unopened (List.mem_append_right head among))
    (fun among => unclosed (List.mem_append_right head among)) with ⟨between, empty⟩ | isLead
  · have consumed := length_lt_of_take? taken
    rw [(take?_eq_some_iff.mp taken).2.2, (List.append_eq_nil_iff.mp empty.symm).1] at consumed
    exact absurd consumed (Nat.lt_irrefl _)
  · have last := clause.getLast?_visible_operator
    rw [List.nil_append] at isLead
    rw [operator, visible_append, List.getLast?_append, isLead.getLast?_visible] at last
    exact last rfl

/-- No clause begins in a comparison. -/
theorem InClause.take?_comparison (named : clause.path.IsNamed isLetterInAnyCase)
    {head tail : List Char} (same : clause.comparison = head ++ tail) (nonempty : tail ≠ []) :
    take? (tail ++ rest) = none := by
  have closes := closes_comparison named
  rw [clause.comparison_eq] at same
  rcases List.append_eq_append_iff.mp same with ⟨between, begun, later⟩ | ⟨between, operator, rfl⟩
  · cases between with
    | nil =>
        rw [List.append_nil] at begun
        rw [List.nil_append] at later
        have whole : clause.operator = head ++ [] := by rw [begun, List.append_nil]
        rw [← later, List.cons_append, ← List.nil_append ('(' :: _)]
        exact take?_operator whole
    | cons c between =>
        rw [(List.cons.inj later).2] at closes
        exact (closes.of_append nonempty).take?_eq_none
  · rw [List.append_assoc, List.cons_append]
    exact take?_operator operator

theorem segments_spelled {before : Option Char} (named : clause.path.IsNamed isLetterInAnyCase)
    (isSpelled : Spelled clause.negated clause.path clause.written)
    (begins : before.any Text.isWord = false) (rest : List Char) :
    segments before (clause.written ++ rest) = .clause clause :: segments (some ')') rest :=
  segments_clause (InClause.take?_spelled named isSpelled rest) begins

theorem segments_comparison (named : clause.path.IsNamed isLetterInAnyCase)
    (before : Option Char) (rest : List Char) :
    segments before (clause.comparison ++ rest) =
      clause.comparison.map .char ++ segments (some ')') rest := by
  rw [segments_chars fun head tail same nonempty =>
    InClause.take?_comparison named same nonempty, clause.comparison_eq, lastFrom_append,
    lastFrom_cons, lastFrom, (InClause.closes_comparison named).closed]
  rfl

end Surroundings

/-! ## Writing anew what surrounds a clause -/

section Writing

variable (isList : Path → Bool) {text : List Char}

/-- A clause over a list is written anew, whatever stands around it. -/
theorem replaceClauses_spelled (clause : InClause) (named : clause.path.IsNamed isLetterInAnyCase)
    (listed : isList clause.path = true)
    (isSpelled : Spelled clause.negated clause.path clause.written)
    (outside : Quotation.outside.after text = .outside)
    (begins : text.getLast?.any Text.isWord = false)
    (unnegated : clause.negated = false → ¬EndsInNot text) (rest : List Char) :
    replaceClauses isList (text ++ (clause.written ++ rest)) =
      replaceClauses isList text ++
        (clause.comparison ++ writeSegments isList .outside (segments (some ')') rest)) := by
  rw [(apart_spelled named isSpelled unnegated).replaceClauses_append isList outside,
    segments_spelled named isSpelled begins, writeSegments, if_pos ⟨rfl, listed⟩]

/-- A comparison stays as it is, whatever stands around it. -/
theorem replaceClauses_comparison (clause : InClause)
    (named : clause.path.IsNamed isLetterInAnyCase)
    (outside : Quotation.outside.after text = .outside) (rest : List Char) :
    replaceClauses isList (text ++ (clause.comparison ++ rest)) =
      replaceClauses isList text ++
        (clause.comparison ++ writeSegments isList .outside (segments (some ')') rest)) := by
  rw [apart_comparison.replaceClauses_append isList outside, segments_comparison named,
    writeSegments_chars, (clause.parenthesized_comparison.plain named).after]

end Writing

end NamedSql.Sql
