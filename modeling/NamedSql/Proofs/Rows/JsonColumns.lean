import NamedSql.BindStrategy
import NamedSql.Proofs.Json.RoundTrip
import NamedSql.Proofs.Json.Strings
import NamedSql.Proofs.Rows.Responses

/-!
# Documents in columns of type JSON

A document is bound as compact text.  From a column of text it is restored once, by parsing
the text.  A column of type JSON is parsed when it is received, and then again if the document
is a string: only strings are therefore not handed back as they were stored.
-/

namespace NamedSql.Rows

open Postgres

variable {properties : List Property} {name column : String} {before after : List String}
  {earlier later : List Json}

/-- A restored document is the given one unless it is a string. -/
theorem restore?_json_iff {value : Json} :
    restore? .json value = some value ↔ ∀ text, value ≠ .str text := by
  constructor
  · rintro restored text rfl
    exact Json.parse?_ne_str text restored
  · intro noText
    cases value with
    | str text => exact absurd rfl (noText text)
    | _ => rfl

/-- A document which is not null is bound as its compact text.  If the server returns text of
an equal document, a column of type JSON hands it over exactly if it is no string; of a string,
it hands over what its text denotes, and nothing is read if the text denotes nothing.  A column
of text hands over every document whose text can be read. -/
theorem json_column_iff {value : Json} (notNull : value ≠ .null) {returned : String}
    (equal : Json.parse? returned = some value) (record placeholder : String)
    (arrayContext : Bool) (matched : matchColumn? properties column = some (name, .json))
    (left : Beside properties name before earlier) (right : Beside properties name after later) :
    let output (received : Json) : Output :=
      ⟨1, before ++ column :: after, [earlier ++ received :: later]⟩
    let handedOver (received document : Json) :=
      HandsOverProperty record properties name (output received) [document]
    (∃ strategy, BindStrategy.forKind? .json arrayContext = some strategy ∧
      strategy.bind placeholder value = .ok (.text value.compact)) ∧
    (∀ {front back : List Datum} {datum : Datum} {received : Json} (affected : Nat),
      Response.rowFrom 0 front = .ok earlier → datum.json? = some received →
      Response.rowFrom (front.length + 1) back = .ok later →
      Response.output ⟨affected, before ++ column :: after, [front ++ datum :: back]⟩ =
        .ok (output received)) ∧
    Datum.json? ⟨.json, some returned⟩ = some value ∧
    Datum.json? ⟨.jsonb, some returned⟩ = some value ∧
    (handedOver value value ↔ ∀ text, value ≠ .str text) ∧
    (∀ text, value = .str text →
      (∀ document, Json.parse? text = some document → handedOver value document) ∧
      (Json.parse? text = none → ∀ {α : Type} (accept : Json → Option α),
        read (.record record properties) accept (output value) =
          .error (.deserialize record))) ∧
    (value.Expressible → value.raw.depth ≤ Json.depthLimit →
      Json.parse? value.compact = some value ∧
      ∃ received, Datum.json? ⟨.text, some value.compact⟩ = some received ∧
        handedOver received value) := by
  intro output handedOver
  have between (received : Json) : Received properties name before after received
      (earlier ++ received :: later) := .between left right
  have handedOver_iff {received document : Json} :
      handedOver received document ↔ restore? .json received = some document := by
    have restored : handedOver received document ↔
        [restore? .json received] = [some document] :=
      handsOverProperty_iff_of_received record matched (.cons (between received) .nil)
    rw [restored, List.singleton_inj]
  refine ⟨?_, ?_, equal, equal, ?_, ?_, ?_⟩
  · have bound : BindStrategy.json.bind placeholder value = .ok (.text value.compact) := by
      cases value with
      | null => exact absurd rfl notNull
      | _ => rfl
    exact ⟨.json, rfl, bound⟩
  · intro front back datum received affected foundFront document foundBack
    exact Response.output_singleton affected _
      (Response.rowFrom_middle front document foundFront foundBack)
  · rw [handedOver_iff]
    exact restore?_json_iff
  · rintro text rfl
    constructor
    · exact fun _ denoted => handedOver_iff.mpr denoted
    · intro lost α accept
      have unrestored : restore? .json (.str text) = none := lost
      exact read_of_received_lost record matched unrestored (between _)
        (List.mem_singleton_self _) accept
  · intro expressible shallow
    have readable := Json.parse?_compact expressible shallow
    have received : Datum.json? ⟨.text, some value.compact⟩ = some (.str value.compact) := rfl
    exact ⟨readable, _, received, handedOver_iff.mpr readable⟩

/-- An object is handed over from a column of type JSON, next to a column which no property
matches. -/
theorem json_column_of_object : ∃ value : Json, value = .obj [("count", .int 2)] ∧
    value ≠ .null ∧ Json.parse? value.compact = some value ∧
    ∃ output, Response.output ⟨1, ["id", "body"],
        [[.ofValue (.bigInt 7), ⟨.jsonb, some value.compact⟩]]⟩ = .ok output ∧
      read (.record "Entry" [("body", .json)]) (·.get? "body") output = .ok [value] := by
  have expressible : Json.Expressible (.obj [("count", .int 2)]) := by
    apply Json.Expressible.obj
    · exact List.pairwise_singleton _ _
    · rintro _ ⟨⟩
      decide
    · intro member among
      rw [List.mem_singleton.mp among]
      exact .int (by decide) (by decide)
  have readable := Json.parse?_compact expressible (by decide)
  have alone : Beside [("body", .json)] "body" [] [] := ⟨rfl, rfl, nofun⟩
  have unmatched : matchColumn? [("body", .json)] "id" = none := by
    rw [← Option.isNone_iff_eq_none]
    decide +kernel
  have other : Beside [("body", .json)] "body" ["id"] [.int 7] := by
    constructor
    · rfl
    · rw [List.map_singleton, unmatched]
      rfl
    · intro column among property
      rw [List.mem_singleton.mp among, unmatched]
      exact nofun
  have notNull : Json.obj [("count", .int 2)] ≠ .null := nofun
  have matched : matchColumn? [("body", .json)] "body" = some ("body", .json) := rfl
  have identifier : Response.rowFrom 0 [.ofValue (.bigInt 7)] = .ok [.int 7] := rfl
  obtain ⟨-, received, -, document, handedOver, -⟩ :=
    json_column_iff notNull readable "Entry" "body" false matched other alone
  have handsOver := handedOver.mpr nofun
  exact ⟨_, rfl, notNull, readable, _, received 1 identifier document rfl, handsOver.read_get?⟩

/-- A string which is stored as a document is not handed over from a column of type JSON: nothing
is read. -/
theorem string_lost : Json.parse? "\"abc\"" = some (.str "abc") ∧
    Datum.json? ⟨.jsonb, some "\"abc\""⟩ = some (.str "abc") ∧
    ∃ output, Response.output ⟨1, ["body"], [[⟨.jsonb, some "\"abc\""⟩]]⟩ = .ok output ∧
      read (.record "Entry" [("body", .json)]) some output = .error (.deserialize "Entry") := by
  have literal : Json.compact (.str "abc") = "\"abc\"" := by decide +kernel
  have readable := Json.parse?_compact (.str "abc") (by decide)
  rw [literal] at readable
  have lost : restore? .json (.str "abc") = none := by
    rw [← Option.isNone_iff_eq_none]
    decide +kernel
  have alone : Beside [("body", .json)] "body" [] [] := ⟨rfl, rfl, nofun⟩
  have matched : matchColumn? [("body", .json)] "body" = some ("body", .json) := rfl
  have row : Response.rowFrom 0 [⟨.jsonb, some "\"abc\""⟩] = .ok [.str "abc"] :=
    @Response.rowFrom_middle ⟨.jsonb, some "\"abc\""⟩ _ [] [] [] [] readable rfl rfl
  refine ⟨readable, readable, _, Response.output_singleton 1 _ row, ?_⟩
  exact read_of_received_lost "Entry" matched lost (.between alone alone)
    (List.mem_singleton_self _) some

end NamedSql.Rows
