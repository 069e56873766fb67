import NamedSql.Proofs.Transaction.Attendance
import Mathlib.Data.List.Nodup

/-!
# Waiting for the execution to start

Participants wait until the last statement is subscribed.  All that matters for this are whether
the shared execution was started, the wakers of those who wait, and the wakers which were woken.
Executing statements and handing out outcomes leave them alone, and the poll of a participant
changes them in one plain way: it lets the participant wait, or it starts the shared execution.
-/

namespace NamedSql

/-- Register a waker, unless it was registered before. -/
def enlist (waker : Waker) (waiters : List Waker) : List Waker :=
  if waiters.contains waker then waiters else waiters ++ [waker]

section Enlist

variable {waker other : Waker} {waiters : List Waker}

theorem mem_enlist : other ∈ enlist waker waiters ↔ other ∈ waiters ∨ other = waker := by
  by_cases known : waker ∈ waiters
  · rw [enlist, if_pos (List.contains_iff_mem.mpr known)]
    constructor
    · exact .inl
    · rintro (earlier | rfl)
      · exact earlier
      · exact known
  · rw [enlist, if_neg (mt List.contains_iff_mem.mp known), List.mem_append, List.mem_singleton]

theorem nodup_enlist (distinct : waiters.Nodup) : (enlist waker waiters).Nodup := by
  by_cases known : waker ∈ waiters
  · rwa [enlist, if_pos (List.contains_iff_mem.mpr known)]
  · rw [enlist, if_neg (mt List.contains_iff_mem.mp known), List.nodup_append_comm]
    exact List.nodup_cons.mpr ⟨known, distinct⟩

end Enlist

/-- Those who wait for the shared execution of a transaction to start. -/
structure Assembly where
  started : Bool
  waiters : List Waker
  /-- Whoever was woken, in order. -/
  woken : List Waker

namespace Assembly

/-- The assembly after one more waker was registered. -/
def join (waker : Waker) (assembly : Assembly) : Assembly :=
  { assembly with waiters := enlist waker assembly.waiters }

/-- The assembly after the shared execution was started. -/
def start (assembly : Assembly) : Assembly :=
  ⟨true, [], assembly.woken ++ assembly.waiters⟩

/-- What an action in which participants are polled with the given wakers makes of an assembly. -/
inductive Proceeds (before : Assembly) : List Waker → Assembly → Prop
  | apart : Proceeds before [] before
  | waiting (waker : Waker) (idle : before.started = false) :
      Proceeds before [waker] (before.join waker)
  | starting (waker : Waker) (idle : before.started = false) :
      Proceeds before [waker] before.start
  | late (waker : Waker) (started : before.started = true) : Proceeds before [waker] before

/-- What participants which were polled with the given wakers have brought about: each of these
wakers is registered once, or all of them were woken which were registered when the shared
execution was started. -/
inductive Gathered (polled : List Waker) : Assembly → Prop
  | waiting {waiters : List Waker} (distinct : waiters.Nodup)
      (registered : ∀ waker, waker ∈ waiters ↔ waker ∈ polled) :
      Gathered polled ⟨false, waiters, []⟩
  | started (woken : List Waker) : Gathered polled ⟨true, [], woken⟩

variable {before after assembly : Assembly} {polled more : List Waker}

theorem Gathered.distinct (gathered : assembly.Gathered polled) : assembly.waiters.Nodup := by
  cases gathered with
  | waiting distinct registered => exact distinct
  | started woken => exact List.nodup_nil

/-- Before the shared execution is started, everyone who was polled is registered, and nobody was
woken. -/
theorem Gathered.of_idle (gathered : assembly.Gathered polled) (idle : assembly.started = false) :
    assembly.woken = [] ∧ ∀ waker, waker ∈ assembly.waiters ↔ waker ∈ polled := by
  cases gathered with
  | waiting distinct registered => exact ⟨rfl, registered⟩
  | started woken => cases idle

/-- Only a poll starts the shared execution, which wakes whoever is registered. -/
theorem Proceeds.of_starting (proceeds : before.Proceeds polled after)
    (idle : before.started = false) (starts : after.started = true) :
    polled ≠ [] ∧ after = before.start := by
  cases proceeds with
  | apart => cases idle.symm.trans starts
  | waiting waker _ => cases idle.symm.trans starts
  | starting waker _ => exact ⟨List.cons_ne_nil _ _, rfl⟩
  | late waker _ => cases idle.symm.trans starts

/-- After that, nobody is registered or woken any more. -/
theorem Proceeds.of_started (proceeds : before.Proceeds polled after)
    (started : before.started = true) : after = before := by
  cases proceeds with
  | apart => rfl
  | waiting waker idle => cases idle.symm.trans started
  | starting waker idle => cases idle.symm.trans started
  | late waker _ => rfl

/-- What participants have brought about before an action, they have after it. -/
theorem Gathered.proceeds (gathered : before.Gathered polled)
    (proceeds : before.Proceeds more after) : after.Gathered (polled ++ more) := by
  cases proceeds with
  | apart => rwa [List.append_nil]
  | waiting waker idle =>
      cases gathered with
      | started woken => cases idle
      | waiting distinct registered =>
          refine .waiting (nodup_enlist distinct) ?_
          intro other
          rw [mem_enlist, registered, List.mem_append, List.mem_singleton]
  | starting waker idle => exact .started _
  | late waker started =>
      cases gathered with
      | waiting distinct registered => cases started
      | started woken => exact .started woken

end Assembly

/-! ## The assembly of a transaction -/

namespace Transaction

/-- Whoever was woken, in order. -/
def woken (t : Transaction) : List Waker :=
  t.history.filterMap Event.waker?

/-- Those who wait for the shared execution to start. -/
def assembly (t : Transaction) : Assembly :=
  ⟨t.shared.isSome, t.waiters, t.woken⟩

variable (t : Transaction)

theorem assembly_note {event : Event} (silent : event.waker? = none) :
    (t.note [event]).assembly = t.assembly := by
  simp [assembly, woken, note, silent]

theorem assembly_notify (id : Nat) (outcome : Member → Outcome) :
    (t.notify id outcome).assembly = t.assembly := by
  unfold notify
  split
  next => rfl
  next member _ =>
    split
    next => rfl
    next =>
      simp only
      split
      next => exact assembly_note _ rfl
      next => exact (assembly_note _ rfl).trans (assembly_note _ rfl)

/-- Nothing which an execution does concerns those who wait for it to start. -/
theorem framing_assembly : Framing fun before after => after.assembly = before.assembly where
  refl _ := rfl
  trans first second := second.trans first
  note _ t silent := t.assembly_note silent
  share _ _ := rfl
  move _ _ _ _ := rfl
  hush _ := rfl
  notify id outcome t := t.assembly_notify id outcome
  record _ _ _ := rfl

theorem assembly_add {statement : Except Error Statement} {sink : Sink} {id : Nat}
    {after : Transaction} (added : t.add statement sink = .ok (id, after)) :
    after.assembly = t.assembly := by
  have pending := (pending_of_add added).1
  cases statement with
  | ok statement =>
      rw [add_ok pending] at added
      cases added
      rfl
  | error error =>
      rw [add_error pending] at added
      cases added
      exact (assembly_notify _ _ _).trans (assembly_note _ rfl)

theorem assembly_receive (id : Nat) : (t.receive id).2.assembly = t.assembly := by
  unfold receive
  split <;> rfl

theorem assembly_awaitStart (waker : Waker) :
    (t.awaitStart waker).assembly = t.assembly.join waker := by
  have registered : (t.awaitStart waker).waiters = enlist waker t.waiters := by
    rw [awaitStart, enlist]
    cases t.waiters.contains waker <;> rfl
  have same : t.awaitStart waker = { t with waiters := (t.awaitStart waker).waiters } := by
    unfold awaitStart
    split <;> rfl
  rw [same, registered]
  rfl

theorem assembly_startShared :
    t.startShared.assembly = if t.shared.isSome then t.assembly else t.assembly.start := by
  unfold startShared
  cases shared : t.shared with
  | some execution => rfl
  | none =>
      have woke : (t.waiters.map Event.woken).filterMap Event.waker? = t.waiters := by
        rw [List.filterMap_map]
        exact List.filterMap_some
      simp [assembly, woken, note, Assembly.start, woke]

/-- The first poll of a participant leaves those who wait alone, or starts the shared execution. -/
theorem assembly_subscribeOnce (id : Nat) :
    (t.subscribeOnce id).assembly = t.assembly ∨
      t.shared = none ∧ (t.subscribeOnce id).assembly = t.assembly.start := by
  unfold subscribeOnce
  split
  next => exact .inl rfl
  next =>
    simp only
    split
    next =>
      rw [assembly_startShared]
      split
      next => exact .inl rfl
      next idle => exact .inr ⟨Option.not_isSome_iff_eq_none.mp idle, rfl⟩
    next => exact .inl rfl

variable {σ : Type} (backend : Backend σ)

theorem assembly_execute (execution : Execution) (state : σ) :
    (t.execute backend execution state).2.1.assembly = t.assembly :=
  framing_assembly.execute t backend execution state

/-- Polling the shared execution, which was started before, concerns nobody who waits for that. -/
theorem assembly_pollShared {shared : SharedExecution} {result : Option (Except SharedError Unit)}
    {after : Transaction} {state later : σ} (started : t.shared = some shared)
    (polled : t.pollShared backend shared state = (result, after, later)) :
    after.assembly = t.assembly := by
  cases shared with
  | finished result =>
      cases polled
      rfl
  | active execution =>
      have kept := t.assembly_execute backend execution state
      rcases executed : t.execute backend execution state with ⟨progress, reached, _⟩
      obtain ⟨_, shared, errors, finished, -⟩ := t.pollShared_active backend executed
      rw [executed] at kept
      rw [polled] at finished
      cases finished
      -- Only the result of the shared execution has changed, which was there before.
      have begun : t.assembly = { t.assembly with started := true } := by
        rw [assembly, started]
        rfl
      rw [begun, ← kept]
      rfl

/-- The poll of a participant whose statement is subscribed lets it wait, unless the shared
execution was started. -/
theorem assembly_visit {t : Transaction} {id : Nat} {waker : Waker} {state : σ}
    {result : Option Outcome × Transaction × σ} (visit : t.Visit backend id waker state result) :
    result.2.1.assembly =
      if t.shared.isSome then t.assembly else t.assembly.join waker := by
  cases visit with
  | early idle =>
      rw [idle, ← assembly_awaitStart]
      exact assembly_receive _ id
  | suspended started polled =>
      rw [started]
      exact t.assembly_pollShared backend started polled
  | refused started polled =>
      have kept := t.assembly_pollShared backend started polled
      rw [started]
      exact kept
  | completed started polled =>
      rw [started]
      exact (assembly_receive _ id).trans (t.assembly_pollShared backend started polled)

/-- The poll of a participant lets it wait or starts the shared execution, if that was not started
before. -/
theorem proceeds_pollParticipant (id : Nat) (waker : Waker) (state : σ) :
    t.assembly.Proceeds [waker] (t.pollParticipant backend id waker state).2.1.assembly := by
  rw [assembly_visit backend (t.visit backend id waker state)]
  have whether : (t.subscribeOnce id).shared.isSome = (t.subscribeOnce id).assembly.started := rfl
  rw [whether]
  rcases t.assembly_subscribeOnce id with same | ⟨idle, same⟩
  · rw [same]
    split
    next started => exact .late waker started
    next idle => exact .waiting waker (by simpa using idle)
  · rw [same]
    exact .starting waker (by rw [assembly, idle]; rfl)

end Transaction

end NamedSql
