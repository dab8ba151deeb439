import Kanaka.Backend.TransactionMonitorService

/-! # The final status of a transaction -/

namespace Kanaka.Backend.TransactionMonitorService
open Async TransactionService

abbrev Calls := Pool Call Op Reply JsError Unit State

abbrev Stage := Running Call Op Reply JsError Unit

/-! ## Statuses and announcements -/

def State.statusOf (s : State) (hash : String) : Option TransactionStatus :=
  (s.transactions.find hash).map (·.status)

def State.Settled (s : State) (hash : String) : Prop :=
  s.statusOf hash = some .confirmed ∨ s.statusOf hash = some .failed

instance (s : State) (hash : String) : Decidable (s.Settled hash) := by
  unfold State.Settled
  infer_instance

def Topic.outcome : Topic → Option TransactionStatus
  | .confirmed => some .confirmed
  | .failed => some .failed
  | .new | .confirming => none

def State.outcomes (s : State) (hash : String) : Nat :=
  s.emitted.countP fun emission => emission.1.outcome.isSome && emission.2.hash = hash

/-! ## Where a call stands -/

inductive Phase where
  | idle
  | updating (hash : String)
  | announced (hash : String) (status : TransactionStatus)
  | lost
deriving DecidableEq

def Phase.note : Phase → Event Op Reply JsError → Phase
  | .idle, ⟨.getTransactionReceipt hash, _⟩ => .updating hash
  | .updating hash, ⟨.emit topic _, .ok _⟩ => topic.outcome.elim (.updating hash) (.announced hash)
  | .updating _, ⟨.save _, .ok _⟩ => .idle
  | .updating _, ⟨.emit _ _, .error _⟩ => .lost
  | .updating _, ⟨.save _, .error _⟩ => .lost
  | .announced _ _, ⟨.save _, .ok _⟩ => .idle
  | .announced _ _, ⟨.save _, .error _⟩ => .lost
  | phase, _ => phase

/-- Between two updates only new rows are saved; an update saves its own row, as it was announced. -/
def Asks : Phase → Op → Prop
  | .idle, .save row => row.status = .pending
  | .idle, .emit topic _ => topic = .new
  | .idle, _ => True
  | .updating hash, .save row => row.hash = hash
  | .updating hash, .emit _ row => row.hash = hash
  | .updating _, op => op = .getCurrentBlockNumber
  | .announced hash status, op => ∃ row, op = .save row ∧ row.hash = hash ∧ row.status = status
  | .lost, _ => True

def Phase.Between (phase : Phase) : Prop := phase = .idle ∨ phase = .lost

section Follows
variable {α β : Type} {phase : Phase} {config : Config}

abbrev Keeps (phase : Phase) (task : Async α) : Prop :=
  Task.Follows Phase.note Asks (fun phase _ => phase.Between) (fun phase _ => phase.Between) phase task

theorem keeps_lost (task : Async α) : Keeps .lost task := by
  induction task with
  | done value => exact .done (.inr rfl)
  | fail error => exact .fail (.inr rfl)
  | await op resume ih =>
      apply Task.Follows.await
      · exact trivial
      · exact fun answer => ih answer

theorem keeps_of_idle {task : Async α} (keeps : Keeps .idle task) (between : phase.Between) :
    Keeps phase task := by
  rcases between with rfl | rfl
  · exact keeps
  · exact keeps_lost task

theorem keeps_bind {first : Async α} {next : α → Async β} (keeps : Keeps phase first)
    (rest : ∀ value, Keeps .idle (next value)) : Keeps phase (first >>= next) := by
  apply Task.Follows.bind
  apply keeps.weaken
  · exact fun phase value between => keeps_of_idle (rest value) between
  · exact fun _ _ between => between

theorem keeps_tryCatch {first : Async α} {handler : JsError → Async α} (keeps : Keeps phase first)
    (rest : ∀ error, Keeps .idle (handler error)) : Keeps phase (first.tryCatch handler) := by
  apply Task.Follows.tryCatch
  apply keeps.weaken
  · exact fun _ _ between => between
  · exact fun phase error between => keeps_of_idle (rest error) between

theorem keeps_await (op : Op) {R : Phase → Reply op → Prop} {E : Phase → JsError → Prop}
    (asks : Asks phase op) (replied : ∀ reply, R (phase.note ⟨op, .ok reply⟩) reply)
    (failed : ∀ error, E (phase.note ⟨op, .error error⟩) error) :
    Task.Follows Phase.note Asks R E phase (perform op) :=
  Task.Follows.perform asks replied failed

theorem keeps_perform (op : Op) (asks : Asks .idle op)
    (stays : ∀ answer, Phase.note .idle ⟨op, answer⟩ = .idle) : Keeps .idle (perform op) := by
  apply keeps_await op asks
  · exact fun reply => .inl (stays _)
  · exact fun error => .inl (stays _)

/-! ### One update -/

/-- The row of the update; what is announced is its status. -/
def Fitting (hash : String) (updated : Transaction × Option Topic) : Prop :=
  updated.1.hash = hash ∧ ∀ topic ∈ updated.2, ∀ status ∈ topic.outcome, updated.1.status = status

theorem fitting_notMined (transaction : Transaction) :
    Fitting transaction.hash (notMined config transaction) := by
  unfold notMined
  dsimp only
  split <;> simp [Fitting, Topic.outcome]

theorem fitting_mined (transaction : Transaction) (receipt : ChainReceipt) (currentBlock : Nat) :
    Fitting transaction.hash (mined config transaction receipt currentBlock) := by
  unfold mined
  dsimp only
  split
  · split <;> simp [Fitting, Topic.outcome]
  · simp [Fitting, Topic.outcome]

theorem fitting_notUpdated (transaction : Transaction) (error : JsError) :
    Fitting transaction.hash (notUpdated config transaction error) := by
  unfold notUpdated
  dsimp only
  split <;> simp [Fitting, Topic.outcome]

theorem keeps_save {hash : String} {row : Transaction} (same : row.hash = hash) :
    Task.Follows Phase.note Asks (fun phase _ => phase.Between) (fun phase _ => phase = .lost)
      (.updating hash) (perform (.save row)) := by
  apply keeps_await (.save row)
  · exact same
  · exact fun _ => .inl rfl
  · exact fun _ => rfl

theorem keeps_store {hash : String} {updated : Transaction × Option Topic}
    (fitting : Fitting hash updated) :
    Task.Follows Phase.note Asks (fun phase _ => phase.Between) (fun phase _ => phase = .lost)
      (.updating hash) (store updated) := by
  obtain ⟨row, announcement⟩ := updated
  obtain ⟨same, told⟩ := fitting
  apply Task.Follows.bind
  cases announcement with
  | none => exact .done (keeps_save same)
  | some topic =>
      apply keeps_await (.emit topic row)
      · exact same
      · intro _
        cases said : topic.outcome with
        | none =>
            simp only [Phase.note, said, Option.elim_none]
            exact keeps_save same
        | some status =>
            simp only [Phase.note, said, Option.elim_some]
            apply keeps_await (.save row)
            · exact ⟨row, rfl, same, told topic rfl status said⟩
            · exact fun _ => .inl rfl
            · exact fun _ => rfl
      · exact fun _ => rfl

theorem keeps_lookUp (transaction : Transaction) :
    Task.Follows Phase.note Asks
      (fun phase updated => phase = .updating transaction.hash ∧ Fitting transaction.hash updated)
      (fun phase _ => phase = .updating transaction.hash) .idle (lookUp config transaction) := by
  apply Task.Follows.bind
  apply keeps_await (.getTransactionReceipt _)
  · exact trivial
  · intro found
    cases found with
    | none => exact .done ⟨rfl, fitting_notMined transaction⟩
    | some receipt =>
        apply Task.Follows.bind
        apply keeps_await .getCurrentBlockNumber
        · exact rfl
        · exact fun currentBlock => .done ⟨rfl, fitting_mined transaction receipt currentBlock⟩
        · exact fun _ => rfl
  · exact fun _ => rfl

theorem keeps_updateTransactionStatus (transaction : Transaction) :
    Keeps .idle (updateTransactionStatus config transaction) := by
  apply Task.Follows.bind
  apply Task.Follows.attempt
  apply (keeps_lookUp transaction).weaken
  · rintro _ updated ⟨rfl, fitting⟩
    apply Task.Follows.tryCatch
    apply (keeps_store fitting).weaken
    · exact fun _ _ between => between
    · rintro _ error rfl
      exact keeps_lost _
  · rintro _ error rfl
    apply (keeps_store (fitting_notUpdated transaction error)).weaken
    · exact fun _ _ between => between
    · exact fun _ _ lost => .inr lost

/-! ### The calls -/

theorem keeps_trackTransaction (hash type : String) : Keeps .idle (trackTransaction hash type) := by
  apply keeps_bind (keeps_perform (.findOne hash) trivial fun _ => rfl)
  intro found
  cases found with
  | some existingTransaction => exact .done (.inl rfl)
  | none =>
      apply keeps_bind (keeps_perform (.save (Transaction.created hash type)) rfl fun _ => rfl)
      intro _
      exact keeps_bind (keeps_perform (.emit .new _) rfl fun _ => rfl) fun _ => .done (.inl rfl)

theorem keeps_updateAll (transactions : List Transaction) :
    Keeps .idle (updateAll config transactions) := by
  induction transactions with
  | nil => exact .done (.inl rfl)
  | cons transaction rest ih =>
      exact keeps_bind (keeps_updateTransactionStatus transaction) fun _ => ih

theorem keeps_checkPendingTransactions : Keeps .idle (checkPendingTransactions config) :=
  keeps_bind (keeps_perform .findPending trivial fun _ => rfl) keeps_updateAll

theorem keeps_updateFound (txHash : String) (change : Transaction → Transaction) :
    Keeps .idle (updateFound config txHash change) := by
  apply keeps_bind (keeps_perform (.findOne txHash) trivial fun _ => rfl)
  intro found
  cases found with
  | some tx => exact keeps_updateTransactionStatus (change tx)
  | none => exact .done (.inl rfl)

theorem keeps_waitForTransaction (txHash : String) (confirmations : Nat) (type : String) :
    Keeps .idle (waitForTransaction config txHash confirmations type) := by
  apply keeps_tryCatch
  · apply keeps_bind
    · apply keeps_bind (keeps_perform (.findOne txHash) trivial fun _ => rfl)
      intro found
      cases found with
      | some tx => exact .done (.inl rfl)
      | none => exact keeps_bind (keeps_trackTransaction txHash type) fun _ => .done (.inl rfl)
    · intro _
      apply keeps_bind (keeps_perform (.outside _) trivial fun _ => rfl)
      intro _
      apply keeps_bind (keeps_perform (.outside _) trivial fun _ => rfl)
      intro receipt
      exact keeps_bind (keeps_updateFound txHash _) fun _ => .done (.inl rfl)
  · intro error
    apply keeps_bind
    · cases handleBlockchainError error _ with
      | error raised => exact .fail (.inl rfl)
      | ok blockchainError => exact .done (.inl rfl)
    · intro blockchainError
      exact keeps_bind (keeps_updateFound txHash _) fun _ => .fail (.inl rfl)

theorem keeps_monitored (op : TransactionService.Op) : Keeps .idle (monitored config op) := by
  cases op with
  | trackTransaction hash type metadata =>
      exact keeps_bind (keeps_trackTransaction hash type) fun _ => .done (.inl rfl)
  | getTransaction hash => exact keeps_perform (.findOne hash) trivial fun _ => rfl
  | updateTransactionStatus transaction => exact keeps_updateTransactionStatus transaction
  | _ => exact keeps_perform (.outside _) trivial fun _ => rfl

theorem keeps_body (call : Call) : Keeps .idle (body config call) := by
  cases call with
  | checkPendingTransactions => exact keeps_checkPendingTransactions
  | executeTransaction request opts =>
      apply keeps_bind
      · apply Task.Follows.expand
        · exact fun op phase between => keeps_of_idle (keeps_monitored op) between
        · exact .inl rfl
      · exact fun _ => .done (.inl rfl)
  | waitForTransaction txHash confirmations type =>
      exact keeps_bind (keeps_waitForTransaction txHash confirmations type) fun _ => .done (.inl rfl)

end Follows

def discipline (config : Config) : (service config).Discipline Phase where
  note := Phase.note
  begun := .idle
  asks _ := Asks
  returns _ phase _ := phase.Between
  throws _ phase _ := phase.Between
  follows := keeps_body

/-! ## Runs in which updates do not overlap -/

def phaseOf (stage : Stage) : Phase := stage.history.foldl Phase.note .idle

def Phase.Updates (hash : String) : Phase → Prop
  | .updating other | .announced other _ => other = hash
  | .idle | .lost => False

instance (hash : String) (phase : Phase) : Decidable (phase.Updates hash) := by
  cases phase <;> unfold Phase.Updates <;> infer_instance

/-- A check of a transaction begins only while its status is open and no other check of it is under
way; a new row is saved only while the status is open. -/
def Permits (pool : Calls) (phase : Phase) : Op → Prop
  | .getTransactionReceipt hash =>
      ¬ pool.state.Settled hash ∧ ∀ running ∈ pool.tasks, ¬ (phaseOf running).Updates hash
  | .save row => phase = .idle → ¬ pool.state.Settled row.hash
  | _ => True

def Careful (pool : Calls) : Action Call Op Reply JsError State → Prop
  | .serve task ⟨op, _⟩ => ∀ running ∈ pool.tasks[task]?, Permits pool (phaseOf running) op
  | _ => True

instance (pool : Calls) (phase : Phase) (op : Op) : Decidable (Permits pool phase op) := by
  cases op <;> unfold Permits <;> infer_instance

instance (pool : Calls) (action : Action Call Op Reply JsError State) :
    Decidable (Careful pool action) := by
  cases action <;> unfold Careful <;> infer_instance

/-! ### What one operation does -/

structure State.Alike (s s' : State) : Prop where
  statuses : ∀ hash, s'.statusOf hash = s.statusOf hash
  outcomes : ∀ hash, s'.outcomes hash = s.outcomes hash

structure State.Saves (s : State) (row : Transaction) (s' : State) : Prop where
  statuses : ∀ hash, s'.statusOf hash = if row.hash = hash then some row.status else s.statusOf hash
  outcomes : ∀ hash, s'.outcomes hash = s.outcomes hash

inductive Turn (pool : Calls) : Phase → Phase → State → Prop where
  | quiet {phase after} : pool.state.Alike after → Turn pool phase phase after
  | begun {hash after} : pool.state.Alike after → ¬ pool.state.Settled hash →
      (∀ running ∈ pool.tasks, ¬ (phaseOf running).Updates hash) →
      Turn pool .idle (.updating hash) after
  | announced {hash status after} : status = .confirmed ∨ status = .failed →
      (∀ other, after.statusOf other = pool.state.statusOf other) →
      (∀ other, after.outcomes other = pool.state.outcomes other + if other = hash then 1 else 0) →
      Turn pool (.updating hash) (.announced hash status) after
  | tracked {row after} : row.status = .pending → ¬ pool.state.Settled row.hash →
      pool.state.Saves row after → Turn pool .idle .idle after
  | updated {row phase after} :
      phase = .updating row.hash ∨ phase = .announced row.hash row.status →
      pool.state.Saves row after → Turn pool phase .idle after

section Turns
variable {config : Config} {pool : Calls} {phase : Phase} {op : Op} {after : State}
  {answer : Except JsError (Reply op)} {hash : String}

theorem State.Alike.refl (s : State) : s.Alike s := ⟨fun _ => rfl, fun _ => rfl⟩

theorem saves_perform (s : State) (row : Transaction) :
    s.Saves row (Service.perform (.save row) s).2 := by
  constructor
  · intro hash
    simp only [Service.perform, State.statusOf, Table.find_save]
    split <;> rfl
  · exact fun _ => rfl

theorem outcomes_emit (s : State) (topic : Topic) (row : Transaction) (hash : String) :
    (Service.perform (.emit topic row) s).2.outcomes hash =
      s.outcomes hash + if topic.outcome.isSome ∧ row.hash = hash then 1 else 0 := by
  simp [Service.perform, State.outcomes, List.countP_append, List.countP_singleton]

theorem outcome_final {topic : Topic} {status : TransactionStatus}
    (said : topic.outcome = some status) : status = .confirmed ∨ status = .failed := by
  cases topic <;> cases said
  · exact .inl rfl
  · exact .inr rfl

theorem turn_of_ok (asks : Asks phase op) (permitted : Permits pool phase op)
    (live : phase ≠ .lost) :
    Turn pool phase (phase.note ⟨op, .ok (Service.perform op pool.state).1⟩)
      (Service.perform op pool.state).2 := by
  cases phase with
  | idle =>
      cases op with
      | getTransactionReceipt hash => exact .begun (.refl _) permitted.1 permitted.2
      | save row => exact .tracked asks (permitted rfl) (saves_perform _ row)
      | emit topic row =>
          cases asks
          exact .quiet ⟨fun _ => rfl, fun hash => by simp [outcomes_emit, Topic.outcome]⟩
      | _ => exact .quiet (.refl _)
  | updating hash =>
      cases op with
      | save row =>
          cases asks
          exact .updated (.inl rfl) (saves_perform _ row)
      | emit topic row =>
          cases asks
          cases said : topic.outcome with
          | none =>
              simp only [Phase.note, said, Option.elim_none]
              exact .quiet ⟨fun _ => rfl, fun hash => by simp [outcomes_emit, said]⟩
          | some status =>
              simp only [Phase.note, said, Option.elim_some]
              refine .announced (outcome_final said) (fun _ => rfl) ?_
              intro other
              simp [outcomes_emit, said, eq_comm (a := other)]
      | getCurrentBlockNumber => exact .quiet (.refl _)
      | _ => cases asks
  | announced hash status =>
      obtain ⟨row, rfl, rfl, rfl⟩ := asks
      exact .updated (.inr rfl) (saves_perform _ row)
  | lost => exact absurd rfl live

theorem turn_of_serves (asks : Asks phase op) (permitted : Permits pool phase op)
    (live : phase ≠ .lost) (serves : (service config).Serves op pool.state answer after) :
    Turn pool phase (phase.note ⟨op, answer⟩) after := by
  cases serves with
  | ok => exact turn_of_ok asks permitted live
  | error failed =>
      cases op with
      | save row => cases failed
      | emit topic row => cases failed
      | getTransactionReceipt hash =>
          cases failed
          cases phase with
          | idle => exact .begun (.refl _) permitted.1 permitted.2
          | updating _ => cases asks
          | announced _ _ =>
              obtain ⟨row, same, -⟩ := asks
              cases same
          | lost => exact absurd rfl live
      | _ =>
          cases failed
          cases phase <;> exact .quiet (.refl _)

/-! ### Every transaction on its own -/

def UpdatedBy (hash : String) (pool : Calls) (task : Nat) : Prop :=
  ∃ running, pool.tasks[task]? = some running ∧ (phaseOf running).Updates hash

def Announcing (hash : String) (pool : Calls) : Prop :=
  ∃ (task : Nat) (running : Stage) (status : TransactionStatus), pool.tasks[task]? = some running ∧
    phaseOf running = .announced hash status ∧ (status = .confirmed ∨ status = .failed)

structure Orderly (hash : String) (pool : Calls) : Prop where
  live : ∀ running ∈ pool.tasks, phaseOf running ≠ .lost
  alone : ∀ task other, UpdatedBy hash pool task → UpdatedBy hash pool other → task = other
  unsettled : ∀ task, UpdatedBy hash pool task → ¬ pool.state.Settled hash
  told : pool.state.outcomes hash = 0 ∨
    pool.state.outcomes hash = 1 ∧ (pool.state.Settled hash ∨ Announcing hash pool)

variable {task place : Nat} {old new : Stage}

theorem updatedBy_serve (served : UpdatedBy hash ⟨after, pool.tasks.set task new⟩ place) :
    place ≠ task ∧ UpdatedBy hash pool place ∨ place = task ∧ (phaseOf new).Updates hash := by
  obtain ⟨running, found, updates⟩ := served
  rcases getElem?_serve found with ⟨apart, found⟩ | ⟨same, rfl⟩
  · exact .inl ⟨apart, running, found, updates⟩
  · exact .inr ⟨same, updates⟩

theorem updatedBy_start (started : UpdatedBy hash ⟨after, pool.tasks ++ [new]⟩ place)
    (idle : phaseOf new = .idle) : UpdatedBy hash pool place := by
  obtain ⟨running, found, updates⟩ := started
  rcases getElem?_start found with found | ⟨-, rfl⟩
  · exact ⟨running, found, updates⟩
  · rw [idle] at updates
    exact updates.elim

theorem settled_of_alike (same : ∀ hash, after.statusOf hash = pool.state.statusOf hash) :
    after.Settled hash ↔ pool.state.Settled hash := by
  rw [State.Settled, State.Settled, same]

theorem Announcing.serve (announcing : Announcing hash pool) (found : pool.tasks[task]? = some old)
    (kept : ∀ status, phaseOf old = .announced hash status → phaseOf new = .announced hash status) :
    Announcing hash ⟨after, pool.tasks.set task new⟩ := by
  obtain ⟨place, running, status, stands, announced, final⟩ := announcing
  by_cases same : place = task
  · subst same
    cases found.symm.trans stands
    exact ⟨place, new, status, getElem?_served found, kept status announced, final⟩
  · exact ⟨place, running, status, getElem?_other same stands, announced, final⟩

theorem Announcing.at (announcing : Announcing hash pool) : ∃ (task : Nat) (running : Stage)
    (status : TransactionStatus), pool.tasks[task]? = some running ∧
      phaseOf running = .announced hash status ∧ (status = .confirmed ∨ status = .failed) ∧
      UpdatedBy hash pool task := by
  obtain ⟨task, running, status, found, announced, final⟩ := announcing
  exact ⟨task, running, status, found, announced, final, running, found, announced ▸ rfl⟩

theorem Orderly.mono (orderly : Orderly hash pool) (found : pool.tasks[task]? = some old)
    (live : phaseOf new ≠ .lost) (fewer : (phaseOf new).Updates hash → (phaseOf old).Updates hash)
    (outcomes : after.outcomes hash = pool.state.outcomes hash)
    (settled : after.Settled hash ↔ pool.state.Settled hash)
    (kept : ∀ status, phaseOf old = .announced hash status → phaseOf new = .announced hash status) :
    Orderly hash ⟨after, pool.tasks.set task new⟩ := by
  have before : ∀ place, UpdatedBy hash ⟨after, pool.tasks.set task new⟩ place →
      UpdatedBy hash pool place := by
    intro place served
    rcases updatedBy_serve served with ⟨-, updated⟩ | ⟨rfl, updates⟩
    · exact updated
    · exact ⟨old, found, fewer updates⟩
  constructor
  · exact forall_serve orderly.live live
  · exact fun place other updated updated' =>
      orderly.alone place other (before _ updated) (before _ updated')
  · exact fun place updated done => orderly.unsettled place (before _ updated) (settled.mp done)
  · rw [outcomes]
    rcases orderly.told with none | ⟨one, closed | announcing⟩
    · exact .inl none
    · exact .inr ⟨one, .inl (settled.mpr closed)⟩
    · exact .inr ⟨one, .inr (announcing.serve found kept)⟩

theorem Orderly.told_by (orderly : Orderly hash pool) (found : pool.tasks[task]? = some old)
    (updates : (phaseOf old).Updates hash) : pool.state.outcomes hash = 0 ∨
      pool.state.outcomes hash = 1 ∧ ∃ status, phaseOf old = .announced hash status ∧
        (status = .confirmed ∨ status = .failed) := by
  have own : UpdatedBy hash pool task := ⟨old, found, updates⟩
  rcases orderly.told with none | ⟨one, closed | announcing⟩
  · exact .inl none
  · exact absurd closed (orderly.unsettled task own)
  · obtain ⟨place, running, status, stands, announced, final, updated⟩ := announcing.at
    cases orderly.alone place task updated own
    cases found.symm.trans stands
    exact .inr ⟨one, status, announced, final⟩

theorem Orderly.begin (orderly : Orderly hash pool) (now : phaseOf new = .updating hash)
    (alike : pool.state.Alike after) (unsettled : ¬ pool.state.Settled hash)
    (nobody : ∀ running ∈ pool.tasks, ¬ (phaseOf running).Updates hash) :
    Orderly hash ⟨after, pool.tasks.set task new⟩ := by
  have only : ∀ place, UpdatedBy hash ⟨after, pool.tasks.set task new⟩ place → place = task := by
    intro place served
    rcases updatedBy_serve served with ⟨-, running, found, updates⟩ | ⟨same, -⟩
    · exact absurd updates (nobody running (List.mem_of_getElem? found))
    · exact same
  constructor
  · exact forall_serve orderly.live (by rw [now]; exact nofun)
  · exact fun place other updated updated' => (only _ updated).trans (only _ updated').symm
  · exact fun _ _ done => unsettled ((settled_of_alike alike.statuses).mp done)
  · rw [alike.outcomes]
    rcases orderly.told with none | ⟨-, closed | announcing⟩
    · exact .inl none
    · exact absurd closed unsettled
    · obtain ⟨place, running, status, found, -, -, running', found', updates⟩ := announcing.at
      exact absurd updates (nobody running' (List.mem_of_getElem? found'))

theorem Orderly.announce {status : TransactionStatus} (orderly : Orderly hash pool)
    (found : pool.tasks[task]? = some old) (was : phaseOf old = .updating hash)
    (now : phaseOf new = .announced hash status) (final : status = .confirmed ∨ status = .failed)
    (statuses : ∀ other, after.statusOf other = pool.state.statusOf other)
    (outcomes : after.outcomes hash = pool.state.outcomes hash + 1) :
    Orderly hash ⟨after, pool.tasks.set task new⟩ := by
  have updates : (phaseOf old).Updates hash := was ▸ rfl
  have before : ∀ place, UpdatedBy hash ⟨after, pool.tasks.set task new⟩ place →
      UpdatedBy hash pool place := by
    intro place served
    rcases updatedBy_serve served with ⟨-, updated⟩ | ⟨rfl, -⟩
    · exact updated
    · exact ⟨old, found, updates⟩
  constructor
  · exact forall_serve orderly.live (by rw [now]; exact nofun)
  · exact fun place other updated updated' =>
      orderly.alone place other (before _ updated) (before _ updated')
  · exact fun place updated done =>
      orderly.unsettled place (before _ updated) ((settled_of_alike statuses).mp done)
  · rw [outcomes]
    rcases orderly.told_by found updates with none | ⟨-, other, announced, -⟩
    · rw [none]
      exact .inr ⟨rfl, .inr ⟨task, new, status, getElem?_served found, now, final⟩⟩
    · rw [was] at announced
      contradiction

theorem Orderly.finish {row : Transaction} (orderly : Orderly row.hash pool)
    (found : pool.tasks[task]? = some old) (now : phaseOf new = .idle)
    (own : phaseOf old = .updating row.hash ∨ phaseOf old = .announced row.hash row.status)
    (saves : pool.state.Saves row after) : Orderly row.hash ⟨after, pool.tasks.set task new⟩ := by
  have updates : (phaseOf old).Updates row.hash := by
    rcases own with was | was <;> exact was ▸ rfl
  have nobody : ∀ place, ¬ UpdatedBy row.hash ⟨after, pool.tasks.set task new⟩ place := by
    intro place served
    rcases updatedBy_serve served with ⟨apart, updated⟩ | ⟨-, idle⟩
    · exact apart (orderly.alone place task updated ⟨old, found, updates⟩)
    · rw [now] at idle
      exact idle
  constructor
  · exact forall_serve orderly.live (by rw [now]; exact nofun)
  · exact fun place _ updated => absurd updated (nobody place)
  · exact fun place updated => absurd updated (nobody place)
  · rw [saves.outcomes]
    rcases orderly.told_by found updates with none | ⟨one, status, announced, final⟩
    · exact .inl none
    · have same : row.status = status := by
        rcases own with was | was
        · rw [was] at announced
          contradiction
        · rw [was] at announced
          cases announced
          rfl
      have stored : after.statusOf row.hash = some row.status := by
        rw [saves.statuses, if_pos rfl]
      refine .inr ⟨one, .inl ?_⟩
      rw [State.Settled, stored, same]
      rcases final with rfl | rfl
      · exact .inl rfl
      · exact .inr rfl

theorem Orderly.serve (orderly : Orderly hash pool) (found : pool.tasks[task]? = some old)
    (turn : Turn pool (phaseOf old) (phaseOf new) after) :
    Orderly hash ⟨after, pool.tasks.set task new⟩ := by
  generalize was : phaseOf old = phase at turn
  generalize now : phaseOf new = phase' at turn
  cases turn with
  | quiet alike =>
      have same : phaseOf new = phaseOf old := now.trans was.symm
      apply orderly.mono found
      · exact same ▸ orderly.live _ (List.mem_of_getElem? found)
      · exact fun updates => same ▸ updates
      · exact alike.outcomes hash
      · exact settled_of_alike alike.statuses
      · exact fun status announced => same.trans announced
  | @begun began _ alike unsettled nobody =>
      by_cases own : began = hash
      · subst own
        exact orderly.begin now alike unsettled nobody
      · apply orderly.mono found
        · exact now ▸ nofun
        · intro updates
          rw [now] at updates
          exact absurd updates own
        · exact alike.outcomes hash
        · exact settled_of_alike alike.statuses
        · exact fun status announced => nomatch was.symm.trans announced
  | @announced about status _ final statuses outcomes =>
      by_cases own : about = hash
      · subst own
        apply orderly.announce found was now final statuses
        rw [outcomes, if_pos rfl]
      · apply orderly.mono found
        · exact now ▸ nofun
        · intro updates
          rw [now] at updates
          exact absurd updates own
        · rw [outcomes, if_neg (Ne.symm own), Nat.add_zero]
        · exact settled_of_alike statuses
        · exact fun status announced => nomatch was.symm.trans announced
  | @tracked row _ status unsettled saves =>
      apply orderly.mono found
      · exact now ▸ nofun
      · exact fun updates => (now ▸ updates : Phase.Updates hash .idle).elim
      · exact saves.outcomes hash
      · rw [State.Settled, saves.statuses]
        split
        · rename_i own
          subst own
          simp [status, unsettled]
        · rfl
      · exact fun status announced => nomatch was.symm.trans announced
  | @updated row _ _ own saves =>
      by_cases same : row.hash = hash
      · subst same
        exact orderly.finish found now (was ▸ own) saves
      · apply orderly.mono found
        · exact now ▸ nofun
        · exact fun updates => (now ▸ updates : Phase.Updates hash .idle).elim
        · exact saves.outcomes hash
        · rw [State.Settled, saves.statuses, if_neg same, State.Settled]
        · intro status announced
          rw [was] at announced
          subst announced
          rcases own with own | own <;> cases own
          exact absurd rfl same

theorem Orderly.status_serve (orderly : Orderly hash pool) (found : pool.tasks[task]? = some old)
    (turn : Turn pool (phaseOf old) (phaseOf new) after) (settled : pool.state.Settled hash) :
    after.statusOf hash = pool.state.statusOf hash := by
  have nobody : ¬ (phaseOf old).Updates hash :=
    fun updates => orderly.unsettled task ⟨old, found, updates⟩ settled
  generalize phaseOf old = phase at turn nobody
  generalize phaseOf new = phase' at turn
  cases turn with
  | quiet alike => exact alike.statuses hash
  | begun alike => exact alike.statuses hash
  | announced final statuses outcomes => exact statuses hash
  | tracked status unsettled saves =>
      rw [saves.statuses]
      apply if_neg
      rintro rfl
      exact unsettled settled
  | updated own saves =>
      rw [saves.statuses]
      apply if_neg
      rintro rfl
      rcases own with rfl | rfl <;> exact nobody rfl

theorem Orderly.start (orderly : Orderly hash pool) (idle : phaseOf new = .idle) :
    Orderly hash ⟨pool.state, pool.tasks ++ [new]⟩ := by
  constructor
  · exact forall_start orderly.live (by rw [idle]; exact nofun)
  · exact fun place other updated updated' =>
      orderly.alone place other (updatedBy_start updated idle) (updatedBy_start updated' idle)
  · exact fun place updated => orderly.unsettled place (updatedBy_start updated idle)
  · rcases orderly.told with none | ⟨one, closed | ⟨place, running, status, found, announced⟩⟩
    · exact .inl none
    · exact .inr ⟨one, .inl closed⟩
    · have inside := (List.getElem?_eq_some_iff.mp found).1
      exact .inr ⟨one, .inr ⟨place, running, status, by rwa [List.getElem?_append_left inside],
        announced⟩⟩

theorem Orderly.drift (orderly : Orderly hash pool) (alike : pool.state.Alike after) :
    Orderly hash ⟨after, pool.tasks⟩ := by
  have settled : after.Settled hash ↔ pool.state.Settled hash := settled_of_alike alike.statuses
  constructor
  · exact orderly.live
  · exact orderly.alone
  · exact fun place updated done => orderly.unsettled place updated (settled.mp done)
  · rw [alike.outcomes, settled]
    exact orderly.told

end Turns

/-! ## Whole runs -/

section Runs
variable {config : Config} {initial : State} {pool later : Calls} {hash : String}

theorem phaseOf_serve (call : Call) (history : List (Event Op Reply JsError))
    (event : Event Op Reply JsError) (rest rest' : Async Unit) :
    phaseOf ⟨call, history ++ [event], rest⟩ = (phaseOf ⟨call, history, rest'⟩).note event :=
  (discipline ⟨0, 0⟩).notes_serve call history event rest rest'

theorem alike_of_drift {s s' : State} (drifts : (service config).drift s s') : s.Alike s' := by
  obtain ⟨transactions, emitted⟩ := drifts
  constructor
  · intro hash
    rw [State.statusOf, transactions, State.statusOf]
  · intro hash
    rw [State.outcomes, emitted, State.outcomes]

theorem orderly_of_reaches {first : Calls}
    (reaches : (service config).Reaches Careful first pool) (orderly : Orderly hash first)
    (keeps : ∀ running ∈ first.tasks, (discipline config).Keeps running) :
    (Orderly hash pool ∧
      (first.state.Settled hash → pool.state.statusOf hash = first.state.statusOf hash)) ∧
      ∀ running ∈ pool.tasks, (discipline config).Keeps running := by
  apply Service.Reaches.invariant (discipline config) (I := fun pool => Orderly hash pool ∧
    (first.state.Settled hash → pool.state.statusOf hash = first.state.statusOf hash)) reaches keeps
  · exact ⟨orderly, fun _ => rfl⟩
  · rintro pool call ⟨orderly, kept⟩ -
    exact ⟨orderly.start rfl, kept⟩
  · rintro pool task call history op resume answer after ⟨orderly, kept⟩ found keeps permitted serves
    have live := orderly.live _ (List.mem_of_getElem? found)
    have turn := turn_of_serves keeps.asks (permitted _ found) live serves
    have said := phaseOf_serve call history ⟨op, answer⟩ (resume answer) (.await op resume)
    have turned : Turn pool (phaseOf ⟨call, history, .await op resume⟩)
        (phaseOf ⟨call, history ++ [⟨op, answer⟩], resume answer⟩) after := said ▸ turn
    refine ⟨orderly.serve found turned, fun settled => ?_⟩
    have same := kept settled
    have still : pool.state.Settled hash := by
      rw [State.Settled, same]
      exact settled
    exact (orderly.status_serve found turned still).trans same
  · rintro pool after ⟨orderly, kept⟩ - drifts
    have alike := alike_of_drift drifts
    exact ⟨orderly.drift alike, fun settled => (alike.statuses hash).trans (kept settled)⟩

theorem orderly_initial (unannounced : initial.emitted = []) : Orderly hash ⟨initial, []⟩ := by
  constructor
  · simp
  · rintro task other ⟨running, found, -⟩
    simp at found
  · rintro task ⟨running, found, -⟩
    simp at found
  · apply Or.inl
    rw [State.outcomes, unannounced, List.countP_nil]

/-- The status of a transaction that is confirmed or failed never changes, and at most one of the two
is ever announced. -/
theorem status_final (unannounced : initial.emitted = [])
    (reaches : (service config).Reaches Careful ⟨initial, []⟩ pool)
    (continues : (service config).Reaches Careful pool later) (hash : String) :
    (pool.state.Settled hash → later.state.statusOf hash = pool.state.statusOf hash) ∧
      later.state.outcomes hash ≤ 1 := by
  have first : Orderly hash ⟨initial, []⟩ := orderly_initial unannounced
  obtain ⟨⟨orderly, -⟩, keeps⟩ := orderly_of_reaches reaches first (by simp)
  obtain ⟨⟨ends, kept⟩, -⟩ := orderly_of_reaches continues orderly keeps
  refine ⟨kept, ?_⟩
  rcases ends.told with none | ⟨one, -⟩
  · omega
  · omega

end Runs

/-! ## A transaction that is mined -/

def replies : (op : TransactionService.Op) → TransactionService.Reply op
  | .getBlock | .estimateGas _ => (0 : Nat)
  | .newWallet _ | .call _ _ _ | .estimateGasWithHistory _ _ | .submit _ _ | .getAddress => ""
  | .getOptimalGasPrice _ => ⟨0, none, none, none⟩
  | .wait hash _ => ⟨10, 21000, none, hash⟩
  | .getTransaction _ => none
  | .getContractWithSigner _ _ | .getContract _ | .getProvider | .populateTransaction _
  | .trackTransaction _ _ _ | .updateTransactionStatus _ | .recordGasUsage _ _ _ _
  | .onConfirmation _ _ | .onRetry _ _ | .setTimeout _ => ()

def worldOf (receipt : Option ChainReceipt) : World := ⟨fun _ => receipt, 30, replies⟩

def pendingState : State where
  transactions := Table.empty.save (Transaction.created "0xa" "swap")
  emitted := []
  world := worldOf (some ⟨some 1, some 10⟩)

def serves (task count : Nat) : List (Move Call JsError) := List.replicate count (.serve task none)

theorem status_final_confirmed : ∃ pool later : Calls,
    (service ⟨12, 5⟩).Reaches Careful ⟨pendingState, []⟩ pool ∧
    (service ⟨12, 5⟩).Reaches Careful pool later ∧ pool.state.statusOf "0xa" = some .confirmed ∧
    (pool.state.Settled "0xa" → later.state.statusOf "0xa" = pool.state.statusOf "0xa") ∧
      later.state.outcomes "0xa" ≤ 1 := by
  -- the monitor confirms the transaction while another one is tracked, and then checks that one
  have run : ∃ pool, (service ⟨12, 5⟩).Reaches Careful ⟨pendingState, []⟩ pool ∧
      (pool.state.statusOf "0xa" = some .confirmed ∧
        ((service ⟨12, 5⟩).play (fun pool action => decide (Careful pool action))
          (.start .checkPendingTransactions :: serves 2 5) pool).any
            (fun later => decide (later.state.outcomes "0xb" = 1))) := by
    apply (service ⟨12, 5⟩).exists_of_play (fun pool action => decide (Careful pool action))
      (fun _ _ => of_decide_eq_true)
      (.start .checkPendingTransactions :: serves 0 3 ++
        .start (.waitForTransaction "0xb" 1 "swap") :: serves 1 4 ++ serves 0 2)
    decide +kernel
  obtain ⟨pool, reaches, confirmed, rest⟩ := run
  obtain ⟨later, continues, -⟩ := (service ⟨12, 5⟩).exists_of_play _ (fun _ _ => of_decide_eq_true) _ rest
  exact ⟨pool, later, reaches, continues, confirmed, status_final rfl reaches continues "0xa"⟩

/-- A confirmed transaction is confirmed again by a call that waits for it, and failed by one whose
wait times out. -/
theorem confirmed_then_failed : ∃ pool later : Calls,
    (service ⟨12, 5⟩).Reaches (fun _ _ => True) ⟨pendingState, []⟩ pool ∧
    (service ⟨12, 5⟩).Reaches (fun _ _ => True) pool later ∧
    pool.state.statusOf "0xa" = some .confirmed ∧ later.state.statusOf "0xa" = some .failed ∧
      later.state.outcomes "0xa" = 2 := by
  have run : ∃ pool, (service ⟨12, 5⟩).Reaches (fun _ _ => True) ⟨pendingState, []⟩ pool ∧
      (pool.state.statusOf "0xa" = some .confirmed ∧
        ((service ⟨12, 5⟩).playAll (fun _ _ => true)
          [(id, .start (.waitForTransaction "0xa" 1 "swap") :: serves 1 8 ++
            .start (.waitForTransaction "0xa" 1 "swap") :: serves 2 2 ++
            [.serve 2 (some (.ofMessage "timeout exceeded"))]),
            (fun s => { s with world := worldOf none }, serves 2 3)] pool).any
            (fun later => decide (later.state.statusOf "0xa" = some .failed ∧
              later.state.outcomes "0xa" = 2))) := by
    apply (service ⟨12, 5⟩).exists_of_play (fun _ _ => true) (fun _ _ _ => trivial)
      (.start .checkPendingTransactions :: serves 0 5)
    decide +kernel
  obtain ⟨pool, reaches, confirmed, rest⟩ := run
  obtain ⟨later, continues, failed, twice⟩ := (service ⟨12, 5⟩).exists_of_playAll _
    (fun _ _ _ => trivial) _ (by simp [service]) rest
  exact ⟨pool, later, reaches, continues, confirmed, failed, twice⟩

end Kanaka.Backend.TransactionMonitorService
