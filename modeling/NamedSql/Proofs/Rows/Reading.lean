import NamedSql.Proofs.Rows.Documents
import Mathlib.Data.List.Forall2

/-!
# Reading outputs

An output is read row by row.  The documents of the rows are handed over in order, and the
reading succeeds if every row has a document and every document is accepted.
-/

namespace NamedSql.Rows

variable {α β γ : Type}

theorem exists_mem_of_forall₂ {R : α → β → Prop} {items : List α} {others : List β}
    (related : List.Forall₂ R items others) {item : α} (among : item ∈ items) :
    ∃ other ∈ others, R item other := by
  induction related with
  | nil => cases among
  | cons here _ inductionHypothesis =>
      rcases List.mem_cons.mp among with rfl | later
      · exact ⟨_, List.mem_cons_self, here⟩
      · obtain ⟨other, amongOthers, related⟩ := inductionHypothesis later
        exact ⟨other, List.mem_cons_of_mem _ amongOthers, related⟩

/-- Results of all items, if there are any. -/
theorem mapM_eq_some_iff {f : α → Option β} {items : List α} {results : List β} :
    items.mapM f = some results ↔
      List.Forall₂ (fun item result => f item = some result) items results := by
  induction items generalizing results with
  | nil => simp [eq_comm]
  | cons item items inductionHypothesis =>
      simp only [List.mapM_cons, List.forall₂_cons_left_iff, Option.bind_eq_bind,
        Option.bind_eq_some_iff, inductionHypothesis, Option.pure_def, Option.some.injEq]
      simp only [exists_and_left, eq_comm]

/-- Results which are reached by way of others. -/
theorem map_bind_eq_iff {f : α → Option β} {g : β → Option γ} {items : List α}
    {results : List γ} :
    (items.map fun item => (f item).bind g) = results.map some ↔
      ∃ others : List β, items.map f = others.map some ∧ others.map g = results.map some := by
  constructor
  · intro same
    induction items generalizing results with
    | nil =>
        cases results with
        | nil => exact ⟨[], rfl, rfl⟩
        | cons _ _ => cases same
    | cons item items inductionHypothesis =>
        cases results with
        | nil => cases same
        | cons result results =>
            obtain ⟨here, later⟩ := List.cons.inj same
            obtain ⟨other, found, reached⟩ := Option.bind_eq_some_iff.mp here
            obtain ⟨others, foundLater, reachedLater⟩ := inductionHypothesis later
            exact ⟨other :: others, congrArg₂ _ found foundLater, congrArg₂ _ reached reachedLater⟩
  · rintro ⟨others, found, reached⟩
    have composed : (items.map fun item => (f item).bind g) = (items.map f).map (·.bind g) := by
      rw [List.map_map]
      rfl
    rw [composed, found, List.map_map]
    exact reached

variable {kind : Kind} {output first second : Output}

/-! ## Results of reading -/

theorem mapM_documents (accept : Json → Option α) (output : Output) :
    (output.rows.mapM fun row => (document? kind output.columns row).bind accept) =
      (output.rows.map (document? kind output.columns)).mapM (·.bind accept) := by
  rw [List.mapM_map]
  rfl

/-- A result is read from the documents of its rows. -/
theorem read_congr (accept : Json → Option α)
    (documents : first.rows.map (document? kind first.columns) =
      second.rows.map (document? kind second.columns)) :
    read kind accept first = read kind accept second := by
  rw [read, read, mapM_documents, mapM_documents, documents]

theorem read_eq_ok_iff {accept : Json → Option α} {values : List α} :
    read kind accept output = .ok values ↔
      List.Forall₂ (fun row value => ∃ document,
        document? kind output.columns row = some document ∧ accept document = some value)
        output.rows values := by
  have each : (output.rows.mapM fun row => (document? kind output.columns row).bind accept) =
      some values ↔ _ := mapM_eq_some_iff
  simp only [Option.bind_eq_some_iff] at each
  rw [← each, read]
  split
  · next found => rw [found, Except.ok.injEq, Option.some.injEq]
  · next failed =>
    rw [failed]
    exact iff_of_false nofun nofun

theorem eq_of_read_eq_error {accept : Json → Option α} {error : Error}
    (failed : read kind accept output = .error error) : error = .deserialize kind.display := by
  rw [read] at failed
  split at failed
  · cases failed
  · exact (Except.error.inj failed).symm

/-- The reading fails at a row without a document, whatever is accepted. -/
theorem read_of_lost {row : List Json} (among : row ∈ output.rows)
    (lost : document? kind output.columns row = none) (accept : Json → Option α) :
    read kind accept output = .error (.deserialize kind.display) := by
  cases result : read kind accept output with
  | error error => rw [eq_of_read_eq_error result]
  | ok values =>
      obtain ⟨_, -, _, found, -⟩ := exists_mem_of_forall₂ (read_eq_ok_iff.mp result) among
      cases lost.symm.trans found

/-! ## Documents which are handed over -/

/-- What becomes of documents if each of them has to be accepted. -/
def accepted (kind : Kind) (accept : Json → Option α) (documents : List Json) :
    Except Error (List α) :=
  match documents.mapM accept with
  | some values => .ok values
  | none => .error (.deserialize kind.display)

/-- Reading an output hands over exactly these documents, one from each row, in order. -/
def HandsOver (kind : Kind) (output : Output) (documents : List Json) : Prop :=
  ∀ {α : Type} (accept : Json → Option α),
    read kind accept output = accepted kind accept documents

/-- If every document is accepted as it is, all of them are read. -/
theorem HandsOver.read_some {documents : List Json} (handsOver : HandsOver kind output documents) :
    read kind some output = .ok documents := by
  have all : documents.mapM some = some documents :=
    mapM_eq_some_iff.mpr (List.forall₂_same.mpr fun _ _ => rfl)
  rw [handsOver some, accepted, all]

/-- The documents which are handed over are those of the rows. -/
theorem handsOver_iff {documents : List Json} :
    HandsOver kind output documents ↔
      output.rows.map (document? kind output.columns) = documents.map some := by
  constructor
  · intro handsOver
    rw [← List.forall₂_eq_eq_eq, List.forall₂_map_left_iff, List.forall₂_map_right_iff]
    refine (read_eq_ok_iff.mp handsOver.read_some).imp ?_
    rintro row _ ⟨document, found, ⟨⟩⟩
    exact found
  · intro found α accept
    rw [read, accepted, mapM_documents, found, List.mapM_map]
    rfl

/-- Reading an output for a record hands over exactly these values of a property, one from each
row, in order. -/
def HandsOverProperty (record : String) (properties : List Property) (name : String)
    (output : Output) (values : List Json) : Prop :=
  ∃ documents, HandsOver (.record record properties) output documents ∧
    documents.map (·.get? name) = values.map some

variable {record : String} {properties : List Property} {name : String} {values : List Json}

/-- If a document is accepted as its value of the property, all of these values are read. -/
theorem HandsOverProperty.read_get?
    (handsOver : HandsOverProperty record properties name output values) :
    read (.record record properties) (·.get? name) output = .ok values := by
  obtain ⟨documents, handsOver, members⟩ := handsOver
  have all : documents.mapM (·.get? name) = some values := by
    rw [mapM_eq_some_iff]
    rwa [← List.forall₂_eq_eq_eq, List.forall₂_map_left_iff, List.forall₂_map_right_iff] at members
  rw [handsOver, accepted, all]

theorem handsOverProperty_iff :
    HandsOverProperty record properties name output values ↔
      output.rows.map (property? record properties name output.columns) = values.map some := by
  simp only [HandsOverProperty, handsOver_iff]
  exact map_bind_eq_iff.symm

/-- A row with a value in the column between others. -/
inductive Received (properties : List Property) (name : String) (before after : List String)
    (value : Json) : List Json → Prop where
  | between {earlier later : List Json} (left : Beside properties name before earlier)
      (right : Beside properties name after later) :
      Received properties name before after value (earlier ++ value :: later)

variable {column : String} {before after : List String} {received : List Json}
  {rows : List (List Json)} {count : Nat}

/-- What is handed over for a property is what the values in its column are restored to. -/
theorem handsOverProperty_iff_of_received (record : String)
    (matched : matchColumn? properties column = some (name, kind))
    (between : List.Forall₂ (Received properties name before after) received rows) :
    HandsOverProperty record properties name ⟨count, before ++ column :: after, rows⟩ values ↔
      received.map (restore? kind) = values.map some := by
  have each : rows.map (property? record properties name (before ++ column :: after)) =
      received.map (restore? kind) := by
    rw [← List.forall₂_eq_eq_eq, List.forall₂_map_left_iff, List.forall₂_map_right_iff]
    refine between.flip.imp ?_
    rintro _ _ ⟨left, right⟩
    exact property?_eq record matched left right
  rw [handsOverProperty_iff, each]

/-- Nothing is read if a value for a property is not restored. -/
theorem read_of_received_lost (record : String)
    (matched : matchColumn? properties column = some (name, kind)) {value : Json}
    (lost : restore? kind value = none) {row : List Json}
    (between : Received properties name before after value row) (among : row ∈ rows)
    (accept : Json → Option α) :
    read (.record record properties) accept ⟨count, before ++ column :: after, rows⟩ =
      .error (.deserialize record) := by
  refine read_of_lost among ?_ accept
  cases between with
  | between left _ => exact document?_eq_none record matched left lost

end NamedSql.Rows
