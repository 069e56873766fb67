import NamedSql.Proofs.Sql.Layout
import NamedSql.Proofs.Sql.Rewriting
import NamedSql.Query

/-!
# Positions of a parsed query

The declared text with its clauses written anew, the text with positions and the text with
numbers are one layout, written in three ways.  The binders of the query are the marks of the
layout, and all the texts have the quotations of the declared one.
-/

namespace NamedSql

open Sql

namespace Query

variable {method : String} {parameters : List Parameter}

/-- A sequence of steps which succeeds does so step by step. -/
theorem exists_of_bind_ok {ε α β : Type} {first : Except ε α} {next : α → Except ε β} {result : β}
    (succeeded : first >>= next = .ok result) :
    ∃ value, first = .ok value ∧ next value = .ok result := by
  cases first with
  | error error => cases succeeded
  | ok value => exact ⟨value, rfl, succeeded⟩

/-- A binder has the position and path it was made for, the source which the path addresses,
and the strategy for the kind which is found there. -/
theorem binderFor_eq_ok_iff {reversed : List Char} {position : Nat} {path : Path}
    {binder : Binder} :
    binderFor method parameters reversed position path = .ok binder ↔
      binder.position = position ∧ binder.path = path ∧
        ∃ kind, resolve? parameters path = some (binder.source, kind) ∧
          BindStrategy.forKind? kind (isArrayContext reversed) = some binder.strategy := by
  rw [binderFor]
  constructor
  · intro made
    split at made
    · cases made
    · next source kind resolved =>
      split at made
      · next strategy chosen =>
        cases made
        exact ⟨rfl, rfl, kind, resolved, chosen⟩
      · cases made
  · rintro ⟨rfl, rfl, kind, resolved, chosen⟩
    simp only [resolved, chosen]

theorem binderFor_ok {reversed : List Char} {position : Nat} {path : Path} {binder : Binder}
    (made : binderFor method parameters reversed position path = .ok binder) :
    binder.position = position ∧ binder.path = path ∧
      ∃ kind, resolve? parameters path = some (binder.source, kind) := by
  obtain ⟨samePosition, samePath, kind, resolved, -⟩ := binderFor_eq_ok_iff.mp made
  exact ⟨samePosition, samePath, kind, resolved⟩

/-- The binders of positions were made one by one. -/
theorem made_of_positional {reversed : List Char} {count : Nat} {tokens : List Token}
    {text : List Char} {binders : List Binder}
    (resolved : positional method parameters reversed count tokens = .ok (text, binders)) :
    ∀ binder ∈ binders, ∃ preceding position path,
      binderFor method parameters preceding position path = .ok binder := by
  induction tokens generalizing reversed count text binders with
  | nil =>
      cases resolved
      exact fun _ among => nomatch among
  | cons token rest inductionHypothesis =>
      cases token with
      | text chars =>
          obtain ⟨_, done, same⟩ := exists_of_bind_ok resolved
          cases same
          exact inductionHypothesis done
      | placeholder path =>
          obtain ⟨first, made, remaining⟩ := exists_of_bind_ok resolved
          obtain ⟨_, done, same⟩ := exists_of_bind_ok remaining
          cases same
          exact List.forall_mem_cons.mpr ⟨⟨_, _, _, made⟩, inductionHypothesis done⟩

/-- The binders of a parsed query were made one by one. -/
theorem made_of_parse {sql : String} {query : Query}
    (parsed : parse method sql parameters = .ok query) :
    ∀ binder ∈ query.binders, ∃ preceding position path,
      binderFor method parameters preceding position path = .ok binder := by
  rw [parse] at parsed
  split at parsed
  · cases parsed
  · obtain ⟨_, done, same⟩ := exists_of_bind_ok parsed
    cases same
    exact made_of_positional done

/-- Binders for the marks of a layout, after a count of earlier ones. -/
structure Aligned (parameters : List Parameter) (count : Nat) (layout : Layout)
    (binders : List Binder) : Prop where
  paths : binders.map (·.path) = layout.marks.map (·.1)
  positions : binders.map (·.position) = List.range' (count + 1) layout.marks.length
  resolved : ∀ binder ∈ binders,
    ∃ kind, resolve? parameters binder.path = some (binder.source, kind)

/-- Positions are laid out like the tokens, and have binders in order. -/
theorem positional_ok {reversed : List Char} {count : Nat} {tokens : List Token}
    {text : List Char} {binders : List Binder}
    (resolved : positional method parameters reversed count tokens = .ok (text, binders)) :
    text = (Layout.ofTokens tokens).writeFrom Layout.unnamed count ∧
      Aligned parameters count (Layout.ofTokens tokens) binders := by
  induction tokens generalizing reversed count text binders with
  | nil =>
      cases resolved
      exact ⟨rfl, rfl, rfl, fun _ among => nomatch among⟩
  | cons token rest inductionHypothesis =>
      cases token with
      | text chars =>
          obtain ⟨⟨following, others⟩, done, same⟩ := exists_of_bind_ok resolved
          cases same
          obtain ⟨written, aligned⟩ := inductionHypothesis done
          constructor
          · rw [written, Layout.ofTokens, Layout.writeFrom, Layout.writeFrom, List.append_assoc]
          · exact ⟨aligned.paths, aligned.positions, aligned.resolved⟩
      | placeholder path =>
          obtain ⟨binder, made, remaining⟩ := exists_of_bind_ok resolved
          obtain ⟨⟨following, others⟩, done, same⟩ := exists_of_bind_ok remaining
          cases same
          obtain ⟨position, rfl, found⟩ := binderFor_ok made
          obtain ⟨written, aligned⟩ := inductionHypothesis done
          constructor
          · rw [written]
            rfl
          · constructor
            · rw [List.map_cons, aligned.paths]
              rfl
            · rw [List.map_cons, position, aligned.positions]
              rfl
            · intro other among
              rcases List.mem_cons.mp among with rfl | later
              · exact found
              · exact aligned.resolved other later

/-- The binder of a placeholder is made where the tokens before it have been written. -/
theorem positional_placeholder {reversed : List Char} {count : Nat} {first rest : List Token}
    {path : Path} {text : List Char} {binders : List Binder}
    (resolved : positional method parameters reversed count (first ++ .placeholder path :: rest) =
      .ok (text, binders)) :
    ∃ earlier binder later, binders = earlier ++ binder :: later ∧
      earlier.map (·.path) = placeholders first ∧
      binderFor method parameters
        (((Layout.ofTokens first).writeFrom Layout.unnamed count).reverse ++ reversed)
        (count + earlier.length + 1) path = .ok binder := by
  induction first generalizing reversed count text binders with
  | nil =>
      obtain ⟨binder, made, remaining⟩ := exists_of_bind_ok resolved
      obtain ⟨⟨_, later⟩, -, same⟩ := exists_of_bind_ok remaining
      cases same
      exact ⟨[], binder, later, rfl, rfl, made⟩
  | cons token first inductionHypothesis =>
      cases token with
      | text chars =>
          obtain ⟨⟨_, others⟩, done, same⟩ := exists_of_bind_ok resolved
          cases same
          obtain ⟨earlier, binder, later, rfl, paths, made⟩ := inductionHypothesis done
          refine ⟨earlier, binder, later, rfl, paths, ?_⟩
          rw [Layout.ofTokens, Layout.writeFrom, List.append_assoc, List.reverse_append,
            List.append_assoc]
          exact made
      | placeholder other =>
          obtain ⟨front, madeFront, remaining⟩ := exists_of_bind_ok resolved
          obtain ⟨⟨_, others⟩, done, same⟩ := exists_of_bind_ok remaining
          cases same
          obtain ⟨earlier, binder, later, rfl, paths, made⟩ := inductionHypothesis done
          obtain ⟨-, rfl, -⟩ := binderFor_ok madeFront
          refine ⟨front :: earlier, binder, later, rfl, congrArg (front.path :: ·) paths, ?_⟩
          have written : (Layout.ofTokens (.placeholder front.path :: first)).writeFrom
              Layout.unnamed count =
                '?' :: (Layout.ofTokens first).writeFrom Layout.unnamed (count + 1) := rfl
          have places : count + (front :: earlier).length + 1 = count + 1 + earlier.length + 1 := by
            rw [List.length_cons]
            omega
          rw [written, List.reverse_cons, List.append_assoc, places]
          exact made

/-- What is parsed is laid out like the declared text with its clauses written anew. -/
theorem parse_ok {sql : String} {query : Query} (parsed : parse method sql parameters = .ok query) :
    let replaced := replaceClauses (addressesList parameters) sql.toList
    Quotation.hasUnnamed .outside replaced = false ∧
      query.sql.toList = (Layout.ofTokens (tokenize replaced)).write Layout.unnamed ∧
      Aligned parameters 0 (Layout.ofTokens (tokenize replaced)) query.binders := by
  rw [parse] at parsed
  split at parsed
  · cases parsed
  · next allNamed =>
    obtain ⟨⟨text, binders⟩, done, same⟩ := exists_of_bind_ok parsed
    cases same
    obtain ⟨written, aligned⟩ := positional_ok done
    constructor
    · rw [hasUnnamed_replaceClauses]
      exact Bool.not_eq_true _ ▸ allNamed
    · constructor
      · rw [String.toList_ofList, written]
        rfl
      · exact aligned

/-- Where `parse` accepts declared text, the text with its clauses written anew is plain text
between placeholders.  The SQL text of the query has positions in their place, and numbering
them numbers the placeholders; the binders are the placeholders in order.  No number can be
read any further, no other position stands outside quotations, and what is quoted stays as it
was declared. -/
theorem aligned_of_parse {sql : String} {query : Query}
    (parsed : parse method sql parameters = .ok query) :
    ∃ layout : Layout,
      layout.write Layout.named = replaceClauses (addressesList parameters) sql.toList ∧
      query.sql.toList = layout.write Layout.unnamed ∧
      (numbered query.sql).toList = layout.write Layout.numbered ∧
      query.binders.map (·.path) = layout.marks.map (·.1) ∧
      query.binders.map (·.position) = List.range' 1 layout.marks.length ∧
      (∀ mark ∈ layout.marks, ∀ c ∈ mark.2.head?, continuesName Char.isAlpha c = false) ∧
      (∀ before after, query.sql.toList = before ++ '?' :: after →
        Quotation.outside.after before = .outside →
        ∃ earlier mark later, layout.marks = earlier ++ mark :: later ∧
          before = Layout.write Layout.unnamed ⟨layout.start, earlier⟩) ∧
      Quotation.quotations .outside query.sql.toList =
        Quotation.quotations .outside sql.toList ∧
      Quotation.quotations .outside (numbered query.sql).toList =
        Quotation.quotations .outside sql.toList := by
  obtain ⟨allNamed, written, aligned⟩ := parse_ok parsed
  have divides := divides_pieces .outside (replaceClauses (addressesList parameters) sql.toList)
  have numbers : (numbered query.sql).toList =
      (Layout.ofTokens (tokenize (replaceClauses (addressesList parameters) sql.toList))).write
        Layout.numbered := by
    rw [numbered, String.toList_ofList, written]
    exact divides.numberFrom_eq allNamed 0
  have quoted := quotations_replaceClauses (addressesList parameters) sql.toList
  refine ⟨Layout.ofTokens (tokenize (replaceClauses (addressesList parameters) sql.toList)),
    ?_, written, numbers, aligned.paths, aligned.positions, divides.nameEnds_of_mem_marks,
    ?_, ?_, ?_⟩
  · exact (Layout.writeFrom_named 0 _).trans divides.written
  · intro before after found outside
    exact divides.mark_of_unnamed allNamed 0 (written.symm.trans found) outside
  · rw [written, ← quoted]
    exact divides.quotations_eq Layout.plain_unnamed 0
  · rw [numbers, ← quoted]
    exact divides.quotations_eq Layout.plain_numbered 0

/-- Quoted marks and a cast stay in the text; the clause over a list is written anew. -/
theorem aligned_of_quoted :
    ∃ query, parse "find" "SELECT ':a?'::text WHERE id in (:ids) AND b = :b.c"
        [("ids", .list .bigInt), ("b", .record "B" [("c", .text)])] = .ok query ∧
      query.sql = "SELECT ':a?'::text WHERE id =ANY(?) AND b = ?" ∧
      ∃ layout : Layout,
        query.sql.toList = layout.write Layout.unnamed ∧
        (numbered query.sql).toList = layout.write Layout.numbered ∧
        query.binders.map (·.path) = layout.marks.map (·.1) := by
  have accepted : (parse "find" "SELECT ':a?'::text WHERE id in (:ids) AND b = :b.c"
      [("ids", .list .bigInt), ("b", .record "B" [("c", .text)])]).toOption.map (·.sql) =
        some "SELECT ':a?'::text WHERE id =ANY(?) AND b = ?" := by decide +kernel
  cases parsed : parse "find" "SELECT ':a?'::text WHERE id in (:ids) AND b = :b.c"
      [("ids", .list .bigInt), ("b", .record "B" [("c", .text)])] with
  | error error =>
      rw [parsed] at accepted
      cases accepted
  | ok query =>
      rw [parsed] at accepted
      obtain ⟨layout, _, unnamed, numbers, paths, _⟩ := aligned_of_parse parsed
      exact ⟨query, rfl, Option.some.inj accepted, layout, unnamed, numbers, paths⟩

end Query

end NamedSql
