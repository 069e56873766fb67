import NamedSql.Proofs.Transaction.Attendance

/-!
# Scenes

A scene is a transaction with all those who deal with it at the same time: callers
which add and subscribe statements, callers which request an execution, and
participants.  Whatever happens to the transaction happens as one action after
another.  Requests and participants may be polled and dropped at any time, so that
every interleaving of their suspensions is a list of actions.
-/

namespace NamedSql

/-- A caller's request to execute a transaction. -/
inductive Request where
  | active (execution : Execution)
  | finished (result : Except Error Unit)
  | dropped

/-- Something which happens to a transaction. -/
inductive Action where
  /-- Add a statement which a recorder consumes. -/
  | add (statement : Except Error Statement) (name : String) (refuses : Bool)
  /-- Add a statement which a participant consumes. -/
  | participate (statement : Except Error Statement)
  | markSubscribed (id : Nat)
  | markAllSubscribed
  | onTransactionFailed (callback : String)
  /-- Request an execution, without polling it. -/
  | request
  | poll (request : Nat)
  | drop (request : Nat)
  | pollParticipant (id : Nat) (waker : Waker)
  | dropParticipant (id : Nat)

/-- A transaction among those who deal with it. -/
structure Scene (σ : Type) where
  transaction : Transaction
  requests : List Request := []
  /-- The state of the backend, and how the backend was polled. -/
  backend : σ × List Exchange
  /-- The participants which have resolved, with their outcomes. -/
  resolved : List (Nat × Outcome) := []

/-- A request after it was polled. -/
def Progress.request : Progress → Request
  | .suspended run => .active (.running run)
  | .finished result => .finished result

/-- A request is dropped unless it has finished. -/
def Request.drop : Request → Request
  | .finished result => .finished result
  | .active _ | .dropped => .dropped

namespace Scene

variable {σ : Type}

/-- How the backend was polled so far. -/
def exchanges (scene : Scene σ) : List Exchange :=
  scene.backend.2

/-- A new transaction. -/
def initial (expected : Nat) (threshold : Duration) (state : σ) : Scene σ where
  transaction := { expected := expected, slowQueryThreshold := threshold }
  backend := (state, [])

/-- Add a statement, unless that is refused. -/
def register (added : Except Error (Nat × Transaction)) (scene : Scene σ) : Scene σ :=
  match added with
  | .ok (_, after) => { scene with transaction := after }
  | .error _ => scene

/-- Poll a request which is active. -/
def pollRequest (backend : Backend σ) (index : Nat) (execution : Execution) (scene : Scene σ) :
    Scene σ :=
  let (progress, after, later) :=
    scene.transaction.execute backend.recording execution scene.backend
  { scene with
    transaction := after
    requests := scene.requests.set index progress.request
    backend := later }

/-- Poll a participant which is still there. -/
def pollPresent (backend : Backend σ) (id : Nat) (waker : Waker) (scene : Scene σ) : Scene σ :=
  let (outcome, after, later) :=
    scene.transaction.pollParticipant backend.recording id waker scene.backend
  { scene with
    transaction := after
    backend := later
    resolved := scene.resolved ++ outcome.toList.map fun outcome => (id, outcome) }

/-- What an action makes of a scene. -/
def step (backend : Backend σ) (scene : Scene σ) : Action → Scene σ
  | .add statement name refuses =>
    scene.register (scene.transaction.add statement (.recorder name refuses))
  | .participate statement => scene.register (scene.transaction.participate statement)
  | .markSubscribed id =>
    { scene with transaction := (scene.transaction.markSubscribed id).2 }
  | .markAllSubscribed => { scene with transaction := scene.transaction.markAllSubscribed }
  | .onTransactionFailed callback =>
    { scene with transaction := scene.transaction.onTransactionFailed callback }
  | .request => { scene with requests := scene.requests ++ [.active .unstarted] }
  | .poll index =>
    match scene.requests[index]? with
    | some (.active execution) => scene.pollRequest backend index execution
    | _ => scene
  | .drop index => { scene with requests := scene.requests.modify index Request.drop }
  | .pollParticipant id waker =>
    if scene.transaction.isPresent id then scene.pollPresent backend id waker else scene
  | .dropParticipant id => { scene with transaction := scene.transaction.depart id }

/-- What actions make of a scene, one after another. -/
def run (backend : Backend σ) (scene : Scene σ) (actions : List Action) : Scene σ :=
  actions.foldl (step backend) scene

/-- What is observed of actions, one after another. -/
def gather {α : Type} (backend : Backend σ) (observe : Scene σ → Action → List α)
    (scene : Scene σ) : List Action → List α
  | [] => []
  | action :: actions =>
    observe scene action ++ (scene.step backend action).gather backend observe actions

variable (backend : Backend σ) (scene : Scene σ)

theorem run_append (first second : List Action) :
    scene.run backend (first ++ second) = (scene.run backend first).run backend second :=
  List.foldl_append

theorem run_concat (actions : List Action) (action : Action) :
    scene.run backend (actions ++ [action]) = (scene.run backend actions).step backend action :=
  scene.run_append backend actions [action]

theorem step_poll {index : Nat} {execution : Execution}
    (active : scene.requests[index]? = some (.active execution)) :
    scene.step backend (.poll index) = scene.pollRequest backend index execution := by
  simp only [step, active]

theorem requests_register (added : Except Error (Nat × Transaction)) :
    (scene.register added).requests = scene.requests := by
  cases added <;> rfl

theorem resolved_register (added : Except Error (Nat × Transaction)) :
    (scene.register added).resolved = scene.resolved := by
  cases added <;> rfl

/-- What every step preserves holds after every run. -/
theorem invariant_run (Invariant : Scene σ → Prop)
    (preserved : ∀ scene action, Invariant scene → Invariant (scene.step backend action))
    {scene : Scene σ} (initially : Invariant scene) (actions : List Action) :
    Invariant (scene.run backend actions) := by
  induction actions generalizing scene with
  | nil => exact initially
  | cons action actions inductionHypothesis =>
      exact inductionHypothesis (preserved scene action initially)

theorem gather_concat {α : Type} (observe : Scene σ → Action → List α) (actions : List Action)
    (action : Action) :
    scene.gather backend observe (actions ++ [action]) =
      scene.gather backend observe actions ++ observe (scene.run backend actions) action := by
  induction actions generalizing scene with
  | nil => exact List.append_nil _
  | cons first actions inductionHypothesis =>
      rw [List.cons_append, gather, gather, inductionHypothesis, List.append_assoc]
      rfl

/-- What every step preserves of all that was observed so far holds after every run. -/
theorem invariant_gather {α : Type} {observe : Scene σ → Action → List α}
    (Invariant : List α → Scene σ → Prop)
    (preserved : ∀ seen scene action, Invariant seen scene →
      Invariant (seen ++ observe scene action) (scene.step backend action))
    {scene : Scene σ} (initially : Invariant [] scene) (actions : List Action) :
    Invariant (scene.gather backend observe actions) (scene.run backend actions) := by
  induction actions using List.reverseRecOn with
  | nil => exact initially
  | append_singleton actions action inductionHypothesis =>
      rw [gather_concat, run_concat]
      exact preserved _ _ action inductionHypothesis

end Scene

end NamedSql
