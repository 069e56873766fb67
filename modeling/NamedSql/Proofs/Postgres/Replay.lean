import NamedSql.Postgres.Connection
import NamedSql.Proofs.Scene.Polls

/-!
# Replaying answers

Over a connection to a server, an operation is answered as the server performs it, at once or
after suspensions; only a connection may be refused.  The state of the connection is therefore
what the operations which were answered have made of it, one after the other.
-/

namespace NamedSql.Postgres

variable {σ : Type} {server : Server σ} {backend : Backend (Connection σ)}

/-- Every poll suspends the operation, has it performed by the server, or refuses a
connection. -/
def Reaches (server : Server σ) (backend : Backend (Connection σ)) : Prop :=
  ∀ operation suspended c,
    backend.poll operation suspended c = (none, c) ∨
    backend.poll operation suspended c =
      (some (server.perform operation c).1, (server.perform operation c).2) ∨
    operation = .acquire ∧ ∃ error, backend.poll operation suspended c = (some (.error error), c)

theorem Server.reaches (server : Server σ) (elapsed : Operation → Duration) :
    Reaches server (server.backend elapsed) :=
  fun _ _ _ => .inr (.inl rfl)

theorem Server.prompt (server : Server σ) (elapsed : Operation → Duration) :
    (server.backend elapsed).Prompt := by
  intro operation suspended c silent
  cases silent

/-- A server answers operations, one after the other, and leads from one connection to
another. -/
inductive Replays (server : Server σ) : Connection σ → List Answered → Connection σ → Prop where
  | nil {c : Connection σ} : Replays server c [] c
  | performed {operation : Operation} {answer : Except Error operation.Answer}
      {log : List Answered} {c between after : Connection σ}
      (performed : server.perform operation c = (answer, between))
      (others : Replays server between log after) :
      Replays server c (⟨operation, answer⟩ :: log) after
  | refused {error : Error} {log : List Answered} {c after : Connection σ}
      (others : Replays server c log after) :
      Replays server c (⟨.acquire, .error error⟩ :: log) after

namespace Replays

variable {c between after : Connection σ} {answered : Answered} {log front back : List Answered}

theorem eq_of_nil (replays : Replays server c [] after) : after = c := by
  cases replays
  rfl

/-- The first operation was performed, unless it was to acquire a connection. -/
theorem head (replays : Replays server c (answered :: log) after)
    (other : answered.operation ≠ .acquire) :
    ∃ between, server.perform answered.operation c = (answered.answer, between) ∧
      Replays server between log after := by
  cases replays with
  | performed performed others => exact ⟨_, performed, others⟩
  | refused => exact absurd rfl other

theorem append (first : Replays server c front between)
    (second : Replays server between back after) : Replays server c (front ++ back) after := by
  induction first with
  | nil => exact second
  | performed performed _ inductionHypothesis => exact .performed performed (inductionHypothesis second)
  | refused _ inductionHypothesis => exact .refused (inductionHypothesis second)

theorem exists_of_append (replays : Replays server c (front ++ back) after) :
    ∃ between, Replays server c front between ∧ Replays server between back after := by
  induction front generalizing c with
  | nil => exact ⟨c, .nil, replays⟩
  | cons answered front inductionHypothesis =>
      cases replays with
      | performed performed others =>
          obtain ⟨between, first, second⟩ := inductionHypothesis others
          exact ⟨between, .performed performed first, second⟩
      | refused others =>
          obtain ⟨between, first, second⟩ := inductionHypothesis others
          exact ⟨between, .refused first, second⟩

/-- Every poll adds its answer to those which led to the connection. -/
theorem preserved (reaches : Reaches server backend) (start : Connection σ) :
    backend.recording.Preserves fun state =>
      Replays server start (Exchange.answers state.2) state.1 := by
  rintro operation suspended ⟨c, exchanges⟩ replays
  have recorded {after : Connection σ} {answer : Option (Except Error operation.Answer)}
      (polled : backend.poll operation suspended c = (answer, after)) :
      (backend.recording.poll operation suspended (c, exchanges)).2 =
        (after, exchanges ++ [⟨operation, suspended, answer⟩]) := by
    simp only [Backend.recording, polled]
  rcases reaches operation suspended c with polled | polled | ⟨rfl, error, polled⟩
  · rw [recorded polled, Exchange.answers_concat_none]
    exact replays
  · rw [recorded polled, Exchange.answers_concat_some]
    exact replays.append (.performed rfl .nil)
  · rw [recorded polled, Exchange.answers_concat_some]
    exact replays.append (.refused .nil)

end Replays

/-- The connection of a scene is what the answers have made of it. -/
theorem replays_run (reaches : Reaches server backend) (expected : Nat) (threshold : Duration)
    (c : Connection σ) (actions : List Action) :
    let scene := (Scene.initial expected threshold c).run backend actions
    Replays server c (Exchange.answers scene.exchanges) scene.backend.1 :=
  Scene.invariant_backend (Replays.preserved reaches c) .nil actions

end NamedSql.Postgres
