import NamedSql.BindStrategy
import NamedSql.Sql.ArrayContext
import NamedSql.Sql.InClause
import NamedSql.Sql.Token

/-!
# Queries with named placeholders

A declared query is resolved once against the parameters of its method.  Each
placeholder becomes a position, and a binder which knows where the value of the
position comes from and how it is bound.  Calls then only bind values.
-/

namespace NamedSql

open Sql

/-- Where the value of a placeholder is found among the arguments of a call. -/
structure ValueSource where
  /-- Index of the argument. -/
  argument : Nat
  /-- The property of the argument which is read, if not the argument itself. -/
  property : Option String
deriving DecidableEq

/-- The value of a source: null if there is no such argument or property. -/
def ValueSource.read (source : ValueSource) (arguments : List Json) : Json :=
  let argument := arguments[source.argument]?.getD .null
  match source.property with
  | none => argument
  | some property => (argument.get? property).getD .null

/-- What binds one position. -/
structure Binder where
  /-- The position, counted from 1. -/
  position : Nat
  path : Path
  source : ValueSource
  strategy : BindStrategy
deriving DecidableEq

/-- Bind the value of a position. -/
def Binder.bind (binder : Binder) (arguments : List Json) : Except Error SqlValue :=
  binder.strategy.bind binder.path.text (binder.source.read arguments)

/-- The source and kind which a path addresses: the first parameter of its name,
or a property of it if it is a record. -/
def resolve? (parameters : List Parameter) (path : Path) : Option (ValueSource × Kind) :=
  match parameters.zipIdx.find? (·.1.1 == path.name) with
  | none => none
  | some ((_, kind), argument) =>
    match path.property, kind with
    | none, kind => some (⟨argument, none⟩, kind)
    | some segment, .record _ properties =>
      (Property.resolve? properties segment).map fun (name, kind) => (⟨argument, some name⟩, kind)
    | some _, _ => none

/-- Whether a path addresses a list. -/
def addressesList (parameters : List Parameter) (path : Path) : Bool :=
  (resolve? parameters path).any (·.2.isList)

/-- SQL text with positions, and the binders of the positions in order. -/
structure Query where
  sql : String
  binders : List Binder
deriving DecidableEq

namespace Query

/-- The binder of a placeholder, after the given text from its end. -/
def binderFor (method : String) (parameters : List Parameter) (reversed : List Char)
    (position : Nat) (path : Path) : Except Error Binder :=
  match resolve? parameters path with
  | none => .error (.unresolvedParameter path.text (signature method parameters))
  | some (source, kind) =>
    match BindStrategy.forKind? kind (isArrayContext reversed) with
    | some strategy => .ok ⟨position, path, source, strategy⟩
    | none =>
      let element :=
        match kind with
        | .list element => element
        | kind => kind
      .error (.unsupportedArrayType path.text element.display)

/-- Replace placeholders by positions, after the given text from its end and the
given number of earlier positions.  The first placeholder without a binder is
the error. -/
def positional (method : String) (parameters : List Parameter) (reversed : List Char)
    (count : Nat) : List Token → Except Error (List Char × List Binder)
  | [] => .ok ([], [])
  | .text chars :: rest => do
    let (sql, binders) ← positional method parameters (chars.reverse ++ reversed) count rest
    .ok (chars ++ sql, binders)
  | .placeholder path :: rest => do
    let binder ← binderFor method parameters reversed (count + 1) path
    let (sql, binders) ← positional method parameters ('?' :: reversed) (count + 1) rest
    .ok ('?' :: sql, binder :: binders)

/-- Resolve declared SQL against the parameters of a method.  Membership clauses
over lists become comparisons with arrays before placeholders are replaced. -/
def parse (method : String) (sql : String) (parameters : List Parameter) : Except Error Query :=
  if Quotation.hasUnnamed .outside sql.toList then .error (.unsupportedQuery sql)
  else do
    let replaced := replaceClauses (addressesList parameters) sql.toList
    let (text, binders) ← positional method parameters [] 0 (tokenize replaced)
    .ok ⟨String.ofList text, binders⟩

/-- Bind the arguments of a call, position by position.  The first position which
cannot be bound is the error. -/
def bind (query : Query) (arguments : List Json) : Except Error (List SqlValue) :=
  query.binders.mapM (·.bind arguments)

/-- Whether two queries differ in bound values at most. -/
def sameShape (first second : Query) : Bool :=
  first.sql == second.sql &&
    first.binders.map (·.strategy) == second.binders.map (·.strategy)

end Query

end NamedSql
