/-!
# Polling in rounds

Several things are polled in turn, in rounds, until each of them has resolved.
What has resolved is not polled again.
-/

namespace NamedSql.Rounds

variable {ι β τ : Type}

/-- Poll in turn each thing which has not resolved. -/
def round (poll : ι → τ → Option β × τ) : List (ι × Option β) → τ → List (ι × Option β) × τ
  | [], state => ([], state)
  | (index, some result) :: rest, state =>
    let (rest, state) := round poll rest state
    ((index, some result) :: rest, state)
  | (index, none) :: rest, state =>
    let (result, state) := poll index state
    let (rest, state) := round poll rest state
    ((index, result) :: rest, state)

/-- Poll in at most the given number of rounds, until everything has resolved. -/
def rounds (poll : ι → τ → Option β × τ) :
    (limit : Nat) → List (ι × Option β) → τ → List (ι × Option β) × τ
  | 0, results, state => (results, state)
  | limit + 1, results, state =>
    if results.any (·.2.isNone) then
      let (results, state) := round poll results state
      rounds poll limit results state
    else (results, state)

/-- Greatest number of rounds. -/
def limit : Nat := 500

/-- Poll the things of the given indices in rounds.  What has not resolved after
the last round has no result. -/
def join (poll : ι → τ → Option β × τ) (indices : List ι) (state : τ) : List (Option β) × τ :=
  let (results, state) := rounds poll limit (indices.map fun index => (index, none)) state
  (results.map (·.2), state)

end NamedSql.Rounds
