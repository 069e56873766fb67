import NamedSql.Proofs.Query.Positions
import NamedSql.Proofs.Sql.Placeholders

/-!
# Placeholders of a declared query

Every placeholder of the declared text has its binder or makes parsing fail, unless a clause
over a list begins within a placeholder.  The keyword of such a clause is taken away from the
placeholder, which is lost, or bound without its property.
-/

namespace NamedSql.Query

open Sql

/-- No clause over a list begins within a placeholder of the declared text. -/
def Undivided (parameters : List Parameter) (sql : List Char) : Prop :=
  ∀ before clause after, Rewritten (addressesList parameters) sql before clause after →
    ¬SplitsPlaceholder .outside before (clause.written ++ after)

/-- Parsing keeps the declared placeholders exactly if no clause over a list begins within one
of them.  A clause which does not encloses pieces of its own, and what it encloses is its path
exactly if the path is written in ASCII.  The binders are then the declared placeholders, and
each of them addresses a parameter; a placeholder which does not makes parsing fail. -/
theorem placeholders_kept_iff (method sql : String) (parameters : List Parameter) :
    (placeholders (tokenize (replaceClauses (addressesList parameters) sql.toList)) =
        placeholders (tokenize sql.toList) ↔ Undivided parameters sql.toList) ∧
      (∀ before clause after,
        Rewritten (addressesList parameters) sql.toList before clause after →
        ¬SplitsPlaceholder .outside before (clause.written ++ after) →
        ∃ earlier enclosed later,
          pieces .outside sql.toList = earlier ++ (enclosed ++ later) ∧
          writtenPieces earlier = before ∧ writtenPieces enclosed = clause.written ∧
          (pathsOf enclosed = [clause.path] ↔ ∀ c ∈ clause.path.chars, c.toNat < 128)) ∧
      (∀ query, parse method sql parameters = .ok query →
        (query.binders.map (·.path) = placeholders (tokenize sql.toList) ↔
          Undivided parameters sql.toList) ∧
        ∀ binder ∈ query.binders,
          ∃ kind, resolve? parameters binder.path = some (binder.source, kind)) ∧
      (Undivided parameters sql.toList → ∀ path ∈ placeholders (tokenize sql.toList),
        resolve? parameters path = none → ∃ error, parse method sql parameters = .error error) := by
  have kept := placeholders_replaceClauses (addressesList parameters) sql.toList
  have bound : ∀ query, parse method sql parameters = .ok query →
      (query.binders.map (·.path) = placeholders (tokenize sql.toList) ↔
        Undivided parameters sql.toList) ∧
      ∀ binder ∈ query.binders,
        ∃ kind, resolve? parameters binder.path = some (binder.source, kind) := by
    intro query parsed
    obtain ⟨_, _, aligned⟩ := parse_ok parsed
    constructor
    · rw [aligned.paths, Layout.paths_ofTokens]
      exact kept
    · exact aligned.resolved
  constructor
  · exact kept
  · constructor
    · intro before clause after rewritten unsplit
      exact rewritten.encloses unsplit
    · constructor
      · exact bound
      · intro undivided path declared unresolved
        cases parsed : parse method sql parameters with
        | error error => exact ⟨error, rfl⟩
        | ok query =>
            obtain ⟨paths, resolved⟩ := bound query parsed
            rw [← paths.mpr undivided] at declared
            obtain ⟨binder, among, rfl⟩ := List.mem_map.mp declared
            obtain ⟨kind, found⟩ := resolved binder among
            rw [unresolved] at found
            cases found

/-- A clause between blanks is written anew, and the declared placeholders are bound. -/
theorem placeholders_kept_between_blanks :
    Undivided [("ids", .list .bigInt)] "WHERE a IN ( :ids )".toList ∧
      ∃ query, parse "find" "WHERE a IN ( :ids )" [("ids", .list .bigInt)] = .ok query ∧
        query.sql = "WHERE a =ANY(?)" ∧
        query.binders.map (·.path) = placeholders (tokenize "WHERE a IN ( :ids )".toList) := by
  obtain ⟨kept, _, bound, _⟩ :=
    placeholders_kept_iff "find" "WHERE a IN ( :ids )" [("ids", .list .bigInt)]
  have undivided := kept.mp (by decide +kernel)
  have accepted : (parse "find" "WHERE a IN ( :ids )" [("ids", .list .bigInt)]).toOption.map
      (·.sql) = some "WHERE a =ANY(?)" := by decide +kernel
  cases parsed : parse "find" "WHERE a IN ( :ids )" [("ids", .list .bigInt)] with
  | error error =>
      rw [parsed] at accepted
      cases accepted
  | ok query =>
      rw [parsed] at accepted
      exact ⟨undivided, query, rfl, Option.some.inj accepted,
        (bound query parsed).1.mpr undivided⟩

/-- A placeholder named like the keyword of a clause is lost: `in` addresses no parameter, and
parsing succeeds without it. -/
theorem placeholder_lost :
    placeholders (tokenize "WHERE a = :in (:ids)".toList) = [⟨"in", none⟩, ⟨"ids", none⟩] ∧
      resolve? [("ids", .list .bigInt)] ⟨"in", none⟩ = none ∧
      (parse "find" "WHERE a = :in (:ids)" [("ids", .list .bigInt)]).toOption.map
          (fun query => (query.sql, query.binders.map (·.path))) =
        some ("WHERE a = :=ANY(?)", [⟨"ids", none⟩]) := by
  decide +kernel

end NamedSql.Query
