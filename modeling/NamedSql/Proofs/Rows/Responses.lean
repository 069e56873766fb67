import NamedSql.Postgres.Server
import NamedSql.Proofs.Binding.Types
import NamedSql.Proofs.Rows.Reading

/-!
# Reading responses

The data of a response are received as documents, and these are restored as their kinds demand
when the output is read.  What is handed over for a column is therefore what the documents of its
data are restored to.
-/

namespace NamedSql

open Rows

namespace Postgres.Response

/-! ## Receiving rows -/

/-- A row is received column by column. -/
theorem rowFrom_append (column : Nat) (front back : List Datum) :
    rowFrom column (front ++ back) =
      (rowFrom column front).bind fun earlier =>
        (rowFrom (column + front.length) back).map (earlier ++ ·) := by
  induction front generalizing column with
  | nil =>
      simp only [List.nil_append, List.length_nil, Nat.add_zero, rowFrom, Except.bind]
      cases rowFrom column back <;> rfl
  | cons datum front inductionHypothesis =>
      rw [List.cons_append, rowFrom, rowFrom, inductionHypothesis, List.length_cons,
        Nat.add_right_comm]
      cases datum.json? with
      | none => rfl
      | some value =>
          cases rowFrom (column + 1) front with
          | error _ => rfl
          | ok earlier => cases rowFrom (column + front.length + 1) back <;> rfl

/-- A datum with a document, among others which have theirs. -/
theorem rowFrom_middle {datum : Datum} {value : Json} (front : List Datum) {back : List Datum}
    {earlier later : List Json} (document : datum.json? = some value)
    (left : rowFrom 0 front = .ok earlier) (right : rowFrom (front.length + 1) back = .ok later) :
    rowFrom 0 (front ++ datum :: back) = .ok (earlier ++ value :: later) := by
  simp only [rowFrom_append, left, Except.bind, Nat.zero_add, rowFrom, document, right, Except.map]

variable {response : Response}

theorem output_eq_ok {rows : List (List Json)}
    (received : response.rows.map (rowFrom 0) = rows.map .ok) :
    response.output =
      .ok ⟨rows.length, if rows.isEmpty then [] else response.columns, rows⟩ := by
  rw [output, mapM_eq_ok_iff_map.mpr received]
  rfl

/-- A response with one row. -/
theorem output_singleton {row : List Datum} {found : List Json} (affected : Nat)
    (columns : List String) (received : rowFrom 0 row = .ok found) :
    output ⟨affected, columns, [row]⟩ = .ok ⟨1, columns, [found]⟩ :=
  @output_eq_ok ⟨affected, columns, [row]⟩ [found] (congrArg ([·]) received)

/-! ## Records -/

/-- A row which holds a datum in the column between others, whose data are received as well. -/
inductive Holds (properties : List Property) (name : String) (before after : List String)
    (datum : Datum) : List Datum → Prop where
  | between {front back : List Datum} {earlier later : List Json}
      (left : rowFrom 0 front = .ok earlier)
      (right : rowFrom (front.length + 1) back = .ok later)
      (besideLeft : Beside properties name before earlier)
      (besideRight : Beside properties name after later) :
      Holds properties name before after datum (front ++ datum :: back)

variable {properties : List Property} {name column : String} {kind : Kind}
  {before after : List String} {data : List Datum} {received : List Json}

theorem exists_received {rows : List (List Datum)}
    (holds : List.Forall₂ (Holds properties name before after) data rows)
    (documents : data.map Datum.json? = received.map some) :
    ∃ found, rows.map (rowFrom 0) = found.map .ok ∧
      List.Forall₂ (Received properties name before after) received found := by
  induction holds generalizing received with
  | nil =>
      cases received with
      | nil => exact ⟨[], rfl, .nil⟩
      | cons _ _ => cases documents
  | @cons datum _ data _ here _ inductionHypothesis =>
      cases received with
      | nil => cases documents
      | cons value received =>
          obtain ⟨document, documents⟩ := List.cons.inj documents
          obtain ⟨found, rows, others⟩ := inductionHypothesis documents
          cases here with
          | between left right besideLeft besideRight =>
              refine ⟨_ :: found, ?_, .cons (.between besideLeft besideRight) others⟩
              rw [List.map_cons, rowFrom_middle _ document left right, rows, List.map_cons]

/-- What is handed over for a property is what the documents in its column are restored to. -/
theorem exists_output_of_holds (record : String)
    (matched : matchColumn? properties column = some (name, kind))
    (columns : response.columns = before ++ column :: after)
    (holds : List.Forall₂ (Holds properties name before after) data response.rows)
    (documents : data.map Datum.json? = received.map some) :
    ∃ output, response.output = .ok output ∧
      ∀ values, HandsOverProperty record properties name output values ↔
        received.map (restore? kind) = values.map some := by
  obtain ⟨rows, found, between⟩ := exists_received holds documents
  refine ⟨_, output_eq_ok found, fun values => ?_⟩
  rw [columns]
  cases between with
  | nil => exact handsOverProperty_iff
  | cons here others => exact handsOverProperty_iff_of_received record matched (.cons here others)

/-! ## Other kinds -/

/-- A row which starts with a datum, and whose other data are received as well. -/
inductive Starts (datum : Datum) : List Datum → Prop where
  | first {back : List Datum} {later : List Json} (others : rowFrom 1 back = .ok later) :
      Starts datum (datum :: back)

theorem exists_received_of_starts {rows : List (List Datum)}
    (starts : List.Forall₂ Starts data rows)
    (documents : data.map Datum.json? = received.map some) :
    ∃ found : List (List Json), rows.map (rowFrom 0) = found.map .ok ∧
      found.map (·.head?.getD .null) = received := by
  induction starts generalizing received with
  | nil =>
      cases received with
      | nil => exact ⟨[], rfl, rfl⟩
      | cons _ _ => cases documents
  | @cons datum _ data _ here _ inductionHypothesis =>
      cases received with
      | nil => cases documents
      | cons value received =>
          obtain ⟨document, documents⟩ := List.cons.inj documents
          obtain ⟨found, rows, rfl⟩ := inductionHypothesis documents
          cases here with
          | @first _ later others =>
              refine ⟨(value :: later) :: found, ?_, rfl⟩
              rw [List.map_cons, rows, List.map_cons]
              exact congrArg (· :: _) (rowFrom_middle [] document rfl others)

/-- What is handed over for another kind is what the documents in the first column are restored
to. -/
theorem exists_output_of_starts (noRecord : ∀ name properties, kind ≠ .record name properties)
    (starts : List.Forall₂ Starts data response.rows)
    (documents : data.map Datum.json? = received.map some) :
    ∃ output, response.output = .ok output ∧
      ∀ values, HandsOver kind output values ↔ received.map (restore? kind) = values.map some := by
  obtain ⟨rows, found, firsts⟩ := exists_received_of_starts starts documents
  refine ⟨_, output_eq_ok found, fun values => ?_⟩
  rw [handsOver_iff, ← firsts, List.map_map, funext (document?_of_not_record noRecord _)]
  rfl

end Postgres.Response

end NamedSql
