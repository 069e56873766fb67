import NamedSql.Proofs.Query.Positions
import NamedSql.Proofs.Sql.Placeholders
import NamedSql.Proofs.Sql.Surroundings

/-!
# Queries with membership clauses

However a membership clause over a list is spelled, and whatever stands around it, the query is
the one with the comparison in its place, and the list is bound as an array.
-/

namespace NamedSql

open Sql

namespace Sql

/-- The parenthesis of a comparison begins an array context. -/
theorem InClause.isArrayContext_operator (clause : InClause) (text : List Char) :
    isArrayContext (text ++ (clause.operator ++ ['('])).reverse = true := by
  rw [List.reverse_append, InClause.operator]
  split <;> rfl

/-- The path of a comparison is a placeholder after its parenthesis. -/
theorem InClause.pieces_comparison (clause : InClause) (named : clause.path.IsNamed Char.isAlpha)
    {before : List Char} (outside : Quotation.outside.after before = .outside)
    (after : List Char) :
    pieces .outside (before ++ (clause.comparison ++ after)) =
      pieces .outside before ++ (clause.operator ++ ['(']).map .char ++
        .placeholder clause.path :: pieces .outside (')' :: after) := by
  have opening : Gap (clause.operator ++ ['(']) := by
    rw [operator]
    split <;> exact gap_cons ⟨rfl, by decide, by decide⟩ rfl (List.all_eq_true.mp rfl)
  have ends : clause.path.Ends Char.isAlpha (')' :: after) :=
    ⟨by rintro _ ⟨⟩; rfl, by rintro - _ ⟨⟩⟩
  rw [← pieces_path named ends, List.append_assoc, ← opening.pieces_append outside,
    clause.comparison_eq]
  simp only [List.append_assoc, List.cons_append, List.nil_append]

end Sql

namespace Query

variable {method : String} {parameters : List Parameter}

/-- Texts without unnamed positions are parsed alike if they are the same with their clauses
written anew. -/
theorem parse_congr {first second : String}
    (allNamed : Quotation.hasUnnamed .outside first.toList = false)
    (allNamedToo : Quotation.hasUnnamed .outside second.toList = false)
    (same : replaceClauses (addressesList parameters) first.toList =
      replaceClauses (addressesList parameters) second.toList) :
    parse method first parameters = parse method second parameters := by
  rw [parse, parse, allNamed, allNamedToo, same]
  rfl

/-- A comparison with a list is bound as an array. -/
theorem binder_of_comparison {sql : String} {query : Query}
    (parsed : parse method sql parameters = .ok query) (clause : InClause)
    (named : clause.path.IsNamed Char.isAlpha) {before after : List Char}
    (outside : Quotation.outside.after before = .outside)
    (replaced : replaceClauses (addressesList parameters) sql.toList =
      before ++ (clause.comparison ++ after))
    {source : ValueSource} {element : Kind}
    (listed : resolve? parameters clause.path = some (source, .list element)) :
    ∃ earlier binder later type, query.binders = earlier ++ binder :: later ∧
      earlier.map (·.path) = placeholders (tokenize before) ∧ binder.path = clause.path ∧
      element.arrayType? = some type ∧ binder.strategy = .array type := by
  rw [parse] at parsed
  split at parsed
  · cases parsed
  · obtain ⟨⟨text, binders⟩, done, same⟩ := exists_of_bind_ok parsed
    cases same
    rw [replaced, tokenize, clause.pieces_comparison named outside, Token.ofPieces_append] at done
    obtain ⟨earlier, binder, later, rfl, paths, made⟩ := positional_placeholder done
    obtain ⟨-, samePath, kind, resolved, chosen⟩ := binderFor_eq_ok_iff.mp made
    rw [placeholders_ofPieces, pathsOf_append, pathsOf_chars, List.append_nil,
      ← placeholders_ofPieces, ← tokenize] at paths
    rw [List.append_nil, ← Layout.ofPieces, Layout.writeFrom_chars,
      InClause.isArrayContext_operator] at chosen
    rw [listed, Option.some.injEq, Prod.mk.injEq] at resolved
    obtain ⟨-, rfl⟩ := resolved
    cases native : element.arrayType? with
    | none => simp [BindStrategy.forKind?, native] at chosen
    | some type =>
        refine ⟨earlier, binder, later, type, rfl, paths, samePath, rfl, ?_⟩
        simpa [BindStrategy.forKind?, native, eq_comm] using chosen

/-- All spellings of a membership clause over a list mean the same.  The clause may be spelled in
any case and with any blanks, and it may stand anywhere outside quotations where a word can
begin, without `NOT` before it if it is not negated itself.  The query is the one with the
comparison `=ANY(:path)` or `!=ALL(:path)` in its place, or both are refused with the same error.
The binder after those of the placeholders before the clause binds the list as a native array. -/
theorem parse_spelled (method : String) (parameters : List Parameter)
    (before after : String) {spelled : String} {negated : Bool} {path : Path}
    {source : ValueSource} {element : Kind} (named : path.IsNamed Char.isAlpha)
    (listed : resolve? parameters path = some (source, .list element))
    (isSpelled : Spelled negated path spelled.toList)
    (allNamed : Quotation.hasUnnamed .outside before.toList = false)
    (allNamedAfter : Quotation.hasUnnamed .outside after.toList = false)
    (outside : Quotation.outside.after before.toList = .outside)
    (begins : before.toList.getLast?.any Text.isWord = false)
    (unnegated : negated = false → ¬EndsInNot before.toList) :
    parse method (before ++ spelled ++ after) parameters =
        parse method
          (before ++ ((if negated then "!=ALL(:" else "=ANY(:") ++ path.text ++ ")") ++ after)
          parameters ∧
      ∀ query, parse method (before ++ spelled ++ after) parameters = .ok query →
        ∃ earlier binder later type, query.binders = earlier ++ binder :: later ∧
          earlier.map (·.path) = placeholders (tokenize
            (replaceClauses (addressesList parameters) before.toList)) ∧
          binder.path = path ∧ element.arrayType? = some type ∧
          binder.strategy = .array type := by
  let clause : InClause := ⟨negated, path, spelled.toList⟩
  have isList : addressesList parameters path = true := by
    rw [addressesList, listed]
    rfl
  have comparison :
      ((if negated then "!=ALL(:" else "=ANY(:") ++ path.text ++ ")").toList =
        clause.comparison := by
    rw [String.toList_append, String.toList_append, Path.text, String.toList_ofList]
    cases negated <;> rfl
  have spelledText : (before ++ spelled ++ after).toList =
      before.toList ++ (clause.written ++ after.toList) := by
    rw [String.toList_append, String.toList_append, List.append_assoc]
  have comparedText :
      (before ++ ((if negated then "!=ALL(:" else "=ANY(:") ++ path.text ++ ")") ++ after).toList =
        before.toList ++ (clause.comparison ++ after.toList) := by
    rw [String.toList_append, String.toList_append, List.append_assoc, comparison]
  have replaced := replaceClauses_spelled (addressesList parameters) clause named.inAnyCase isList
    isSpelled outside begins unnegated after.toList
  have compared := replaceClauses_comparison (addressesList parameters) clause named.inAnyCase
    outside after.toList
  have found : clause.Found := ⟨named.inAnyCase, isSpelled.exists_keyword⟩
  have parenthesized := clause.parenthesized_comparison
  have unnamed : Quotation.hasUnnamed .outside (before ++ spelled ++ after).toList = false := by
    rw [spelledText]
    exact found.plain.hasUnnamed_around (found.hasUnnamed _) allNamed outside allNamedAfter
  have unnamedToo : Quotation.hasUnnamed .outside
      (before ++ ((if negated then "!=ALL(:" else "=ANY(:") ++ path.text ++ ")") ++ after).toList =
        false := by
    rw [comparedText]
    exact (parenthesized.plain named.inAnyCase).hasUnnamed_around
      (parenthesized.hasUnnamed named.inAnyCase _) allNamed outside allNamedAfter
  constructor
  · exact parse_congr unnamed unnamedToo (by rw [spelledText, comparedText, replaced, compared])
  · intro query parsed
    have goesOn : Quotation.outside.after
        (replaceClauses (addressesList parameters) before.toList) = .outside := by
      rw [after_replaceClauses, outside]
    exact binder_of_comparison parsed clause named goesOn (by rw [spelledText, replaced]) listed

/-- A clause with blanks of its own, between another clause and quoted marks. -/
theorem parse_spelled_between_clauses :
    let parameters : List Parameter :=
      [("xs", .list .text), ("r", .record "R" [("ids", .list .bigInt)])]
    parse "find" "b NOT IN (:xs) AND a iN\u3000( :r.ids ) OR c = ':a?'" parameters =
        parse "find" "b NOT IN (:xs) AND a =ANY(:r.ids) OR c = ':a?'" parameters ∧
      ∃ query,
        parse "find" "b NOT IN (:xs) AND a iN\u3000( :r.ids ) OR c = ':a?'" parameters =
          .ok query ∧
        query.sql = "b !=ALL(?) AND a =ANY(?) OR c = ':a?'" ∧
        ∃ binder ∈ query.binders, binder.path = ⟨"r", some "ids"⟩ ∧
          binder.strategy = .array .bigInt := by
  intro parameters
  have isSpelled : Spelled false ⟨"r", some "ids"⟩ "iN\u3000( :r.ids )".toList :=
    ⟨['i', 'N'] ++ ['\u3000'], "( :r.ids )".toList, .membership rfl (blanks_of_all rfl),
      ⟨[' '], [' '], blanks_of_all rfl, blanks_of_all rfl, rfl⟩, rfl⟩
  have named : Path.IsNamed Char.isAlpha ⟨"r", some "ids"⟩ := by
    constructor
    · exact ⟨⟨'r', rfl, rfl⟩, List.all_eq_true.mp rfl⟩
    · rintro _ ⟨⟩
      exact ⟨⟨'i', rfl, rfl⟩, List.all_eq_true.mp rfl⟩
  have listed : resolve? parameters ⟨"r", some "ids"⟩ =
      some (⟨1, some "ids"⟩, .list .bigInt) := rfl
  obtain ⟨same, bound⟩ := parse_spelled "find" parameters "b NOT IN (:xs) AND a " " OR c = ':a?'"
    named listed isSpelled (by decide +kernel) (by decide +kernel) (by decide +kernel)
    (by decide +kernel) (fun _ ends => absurd ends.suffix (by decide +kernel))
  have accepted :
      (parse "find" "b NOT IN (:xs) AND a iN\u3000( :r.ids ) OR c = ':a?'" parameters).toOption.map
        (·.sql) = some "b !=ALL(?) AND a =ANY(?) OR c = ':a?'" := by decide +kernel
  refine ⟨same, ?_⟩
  cases parsed :
      parse "find" "b NOT IN (:xs) AND a iN\u3000( :r.ids ) OR c = ':a?'" parameters with
  | error error =>
      rw [parsed] at accepted
      cases accepted
  | ok query =>
      rw [parsed] at accepted
      obtain ⟨earlier, binder, later, type, same, -, samePath, native, strategy⟩ :=
        bound query parsed
      cases native
      refine ⟨query, rfl, Option.some.inj accepted, binder, ?_, samePath, strategy⟩
      rw [same]
      exact List.mem_append_right earlier List.mem_cons_self

end Query

end NamedSql
