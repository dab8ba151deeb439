import Kanaka.Proof.Backend.PoolValue

/-! # Deposits and withdrawals as a whole -/

namespace Kanaka.Backend.DefiService
open Async

abbrev History := List (Event Op Reply DefiError)

/-! ## The effects of a call -/

def Op.Effect : Op → Bool
  | .starknet _ _ _ _ | .saveTransaction _ | .savePool _ => true
  | _ => false

def effects (history : History) : List Op :=
  (history.filter fun event => event.op.Effect && event.answer.isOk).map (·.op)

structure Move where
  type : TransactionType
  userId : Nat
  poolId : Nat
  amount : Rat
  walletAddress : String

namespace Move

def call (asked : Move) : Call :=
  match asked.type with
  | .deposit => .deposit asked.userId asked.poolId asked.amount asked.walletAddress
  | .withdraw => .withdraw asked.userId asked.poolId asked.amount asked.walletAddress

def contractCall (asked : Move) : Op :=
  .starknet asked.type asked.walletAddress asked.amount (toString asked.poolId)

def row (asked : Move) (pool : Pool) (hash : String) : Op :=
  .saveTransaction ⟨0, asked.userId, pool.id, asked.type, asked.amount, hash, .pending⟩

variable (asked : Move)

def Found (history : History) : Prop :=
  ∃ pool, (⟨.findPool asked.poolId, .ok (some pool)⟩ : Event Op Reply DefiError) ∈ history

/-- The chain is called, the transaction recorded and the value of the pool that was read updated by
the amount. -/
def Whole (history : History) : Prop :=
  ∃ (pool : Pool) (hash : String) (totalValue : Int),
    (⟨.findPool asked.poolId, .ok (some pool)⟩ : Event Op Reply DefiError) ∈ history ∧
    (totalValue : Rat) = pool.totalValue + asked.type.signed asked.amount ∧
    effects history = [asked.contractCall, asked.row pool hash, .savePool { pool with totalValue }]

def AllOrNothing (history : History) : Prop := effects history = [] ∨ asked.Whole history

end Move

def Answered (history : History) : Prop :=
  ∀ event ∈ history, (∃ error, event.answer = .error error) →
    ∃ poolId totalValueLocked, event.op = .broadcastPoolUpdate poolId totalValueLocked

def Told (asked : Move) (history : History) : Prop :=
  asked.Found history → Answered history →
    asked.amount.den = 1 ∧ asked.Whole history ∨
    asked.amount.den ≠ 1 ∧ ∃ pool hash, effects history = [asked.contractCall, asked.row pool hash]

section Follows
variable {α : Type} {asked : Move} {history : History}

abbrev Tells (asked : Move) (R : History → α → Prop) (history : History) (task : Async α) : Prop :=
  Task.Follows (fun history event => history ++ [event]) (fun _ _ => True) R
    (fun history _ => Told asked history) history task

theorem Move.Whole.concat {event : Event Op Reply DefiError} (whole : asked.Whole history)
    (quiet : event.op.Effect = false) : asked.Whole (history ++ [event]) := by
  obtain ⟨pool, hash, totalValue, found, value, done⟩ := whole
  refine ⟨pool, hash, totalValue, List.mem_append_left _ found, value, ?_⟩
  rw [← done]
  simp [effects, quiet]

theorem told_of_failed {op : Op} {error : DefiError}
    (other : ∀ poolId totalValueLocked, op ≠ .broadcastPoolUpdate poolId totalValueLocked) :
    Told asked (history ++ [⟨op, .error error⟩]) := by
  intro _ answered
  obtain ⟨poolId, totalValueLocked, same⟩ := answered _ List.mem_concat_self ⟨error, rfl⟩
  exact absurd same (other poolId totalValueLocked)

theorem tells_perform (op : Op) {R : History → Reply op → Prop}
    (failed : ∀ error, Told asked (history ++ [⟨op, .error error⟩]))
    (replied : ∀ reply, R (history ++ [⟨op, .ok reply⟩]) reply) :
    Tells asked R history (perform op) := Task.Follows.perform trivial replied failed

theorem tells_broadcast {poolId : String} {totalValue : Int} {transaction : Transaction}
    (integral : asked.amount.den = 1) (whole : asked.Whole history) :
    Tells asked (fun history _ => Told asked history) history (do
      perform (.broadcastPoolUpdate poolId totalValue)
      return transaction) := by
  apply Task.Follows.bind
  have told (answer : Except DefiError Unit) :
      Told asked (history ++ [⟨.broadcastPoolUpdate poolId totalValue, answer⟩]) :=
    fun _ _ => .inl ⟨integral, whole.concat rfl⟩
  apply tells_perform (.broadcastPoolUpdate _ _) (fun error => told (.error error))
  exact fun _ => .done (told (.ok ()))

theorem tells_move (asked : Move) : Tells asked (fun history _ => Told asked history) []
    (move asked.type asked.userId asked.poolId asked.amount asked.walletAddress) := by
  apply Task.Follows.bind
  apply Task.Follows.bind
  apply tells_perform (.findPool _) (fun _ => told_of_failed (by simp))
  intro found
  cases found with
  | none =>
      apply Task.Follows.fail
      rintro ⟨pool, found⟩
      simp at found
  | some pool =>
      apply Task.Follows.done
      apply Task.Follows.bind
      apply tells_perform (.starknet _ _ _ _) (fun _ => told_of_failed (by simp))
      intro hash
      apply Task.Follows.bind
      apply tells_perform (.saveTransaction _) (fun _ => told_of_failed (by simp))
      intro transaction
      unfold toBigInt
      split
      · rename_i whole
        have value := apply_signed asked.type asked.amount pool.totalValue whole
        apply Task.Follows.bind
        apply Task.Follows.done
        apply Task.Follows.bind
        apply tells_perform (.savePool _) (fun _ => told_of_failed (by simp))
        intro _
        exact tells_broadcast whole ⟨pool, hash, _, by simp, value, rfl⟩
      · rename_i broken
        apply Task.Follows.fail
        exact fun _ _ => .inr ⟨broken, pool, hash, rfl⟩

end Follows

/-! ## Calls among others -/

theorem Move.call_injective {asked other : Move} (same : asked.call = other.call) : asked = other := by
  obtain ⟨type, userId, poolId, amount, walletAddress⟩ := asked
  obtain ⟨type', userId', poolId', amount', walletAddress'⟩ := other
  cases type <;> cases type' <;> simp_all [Move.call]

def Tolds (call : Call) (history : History) : Prop :=
  ∀ asked : Move, asked.call = call → Told asked history

theorem tolds_move (asked : Move) : Task.Follows (fun history event => history ++ [event])
    (fun _ _ => True) (fun history _ => Tolds asked.call history) (fun history _ => Tolds asked.call history)
    [] (move asked.type asked.userId asked.poolId asked.amount asked.walletAddress) := by
  have tolds (history : History) (told : Told asked history) : Tolds asked.call history :=
    fun _ same => Move.call_injective same ▸ told
  exact (tells_move asked).weaken (fun history _ => tolds history) (fun history _ => tolds history)

def histories : service.Discipline History where
  note history event := history ++ [event]
  begun := []
  asks _ _ _ := True
  returns call history _ := Tolds call history
  throws call history _ := Tolds call history
  follows call := by
    cases call with
    | deposit userId poolId amount walletAddress =>
        exact tolds_move ⟨.deposit, userId, poolId, amount, walletAddress⟩
    | withdraw userId poolId amount walletAddress =>
        exact tolds_move ⟨.withdraw, userId, poolId, amount, walletAddress⟩
    | updateTransactionStatus hash failed =>
        have other (asked : Move) : asked.call ≠ .updateTransactionStatus hash failed := by
          unfold Move.call
          split <;> simp
        exact .of_forall (fun _ _ => trivial) (fun _ _ asked same => absurd same (other asked))
          (fun _ _ asked same => absurd same (other asked)) _

theorem notes_histories (running : Running Call Op Reply DefiError Transaction) :
    histories.notes running = running.history := by
  have noted (past rest : History) :
      rest.foldl (fun history event => history ++ [event]) past = past ++ rest := by
    induction rest generalizing past with
    | nil => simp
    | cons event rest ih => rw [List.foldl_cons, ih, List.append_assoc, List.singleton_append]
  exact noted [] running.history

theorem told_of_reaches {allowed : Calls → Action Call Op Reply DefiError State → Prop} {initial : State}
    {pool : Calls} (reaches : service.Reaches allowed ⟨initial, []⟩ pool)
    {running : Running Call Op Reply DefiError Transaction} (member : running ∈ pool.tasks)
    (finished : running.rest.Finished) (asked : Move) (same : running.call = asked.call) :
    Told asked running.history := by
  have keeps := reaches.keeps histories (by simp) running member
  unfold Service.Discipline.Keeps at keeps
  rw [notes_histories] at keeps
  obtain ⟨call, history, rest⟩ := running
  cases keeps with
  | done tolds => exact tolds asked same.symm
  | fail tolds => exact tolds asked same.symm
  | await _ _ => exact finished.elim

/-- A call that finds its pool and is answered moves the amount as a whole or not at all if and only
if the amount is an integer. -/
theorem allOrNothing_iff {allowed : Calls → Action Call Op Reply DefiError State → Prop}
    {initial : State} {pool : Calls} (reaches : service.Reaches allowed ⟨initial, []⟩ pool)
    {running : Running Call Op Reply DefiError Transaction} (member : running ∈ pool.tasks)
    (finished : running.rest.Finished) (asked : Move) (same : running.call = asked.call)
    (found : asked.Found running.history) (answered : Answered running.history) :
    asked.AllOrNothing running.history ↔ asked.amount.den = 1 := by
  rcases told_of_reaches reaches member finished asked same found answered with
    ⟨integral, whole⟩ | ⟨broken, stored, hash, part⟩
  · exact iff_of_true (.inr whole) integral
  · refine iff_of_false ?_ broken
    rintro (nothing | ⟨_, _, _, _, _, all⟩)
    · rw [part] at nothing
      cases nothing
    · have lengths := congrArg List.length all
      rw [part] at lengths
      cases lengths

/-! ## A deposit of 100.5 -/

def hundred : Move := ⟨.deposit, 7, 1, 100, "0x7"⟩

def fractional : Move := ⟨.deposit, 7, 1, 201 / 2, "0x7"⟩

def firstRow (asked : Move) : Transaction := ⟨1, asked.userId, 1, asked.type, asked.amount, "0xa", .pending⟩

def recording (asked : Move) : History :=
  [⟨.findPool asked.poolId, .ok (some ⟨1, 0⟩)⟩, ⟨asked.contractCall, .ok "0xa"⟩,
    ⟨asked.row ⟨1, 0⟩ "0xa", .ok (firstRow asked)⟩]

def paying (asked : Move) (totalValue : Int) : History :=
  recording asked ++ [⟨.savePool ⟨1, totalValue⟩, .ok ()⟩,
    ⟨.broadcastPoolUpdate (toString asked.poolId) totalValue, .ok ()⟩]

def always (_ : Calls) (_ : Action Call Op Reply DefiError State) : Prop := True

theorem reaches_of_first {α : Type} {seen : α} (look : Calls → α) (moves : List (Async.Move Call DefiError))
    (played : (service.play (fun _ _ => true) moves ⟨firstState, []⟩).map look = some seen) :
    ∃ pool, service.Reaches always ⟨firstState, []⟩ pool ∧ look pool = seen := by
  obtain ⟨pool, played, same⟩ := Option.map_eq_some_iff.mp played
  exact ⟨pool, service.reaches_of_play (fun _ _ _ => trivial) moves .refl played, same⟩

theorem allOrNothing_hundred : ∃ pool, service.Reaches always ⟨firstState, []⟩ pool ∧
    ∃ running ∈ pool.tasks, (hundred.AllOrNothing running.history ↔ hundred.amount.den = 1) := by
  have run : ∃ pool, service.Reaches always ⟨firstState, []⟩ pool ∧
      pool.tasks = [⟨hundred.call, paying hundred 100, .done (firstRow hundred)⟩] := by
    apply reaches_of_first Async.Pool.tasks (.start hundred.call :: serves 0 5)
    rfl
  obtain ⟨pool, reaches, tasks⟩ := run
  have member : ⟨hundred.call, paying hundred 100, .done (firstRow hundred)⟩ ∈ pool.tasks := by
    rw [tasks]
    exact List.mem_singleton_self _
  refine ⟨pool, reaches, _, member, allOrNothing_iff reaches member trivial hundred rfl ?_ ?_⟩
  · exact ⟨⟨1, 0⟩, List.mem_cons_self⟩
  · simp [Answered, paying, recording]

/-- The chain has the deposit and the database its row, and the pool's value is as it was. -/
theorem deposit_in_part : ∃ pool, service.Reaches always ⟨firstState, []⟩ pool ∧
    pool.tasks = [⟨fractional.call, recording fractional, .fail (.rangeError (201 / 2))⟩] ∧
    pool.state.valueOf 1 = 0 ∧ pool.state.counted 1 .deposit = 201 / 2 ∧
    ∀ running ∈ pool.tasks, ¬ fractional.AllOrNothing running.history := by
  have run : ∃ pool, service.Reaches always ⟨firstState, []⟩ pool ∧
      (pool.tasks, pool.state.valueOf 1, pool.state.counted 1 .deposit) =
        ([⟨fractional.call, recording fractional, .fail (.rangeError (201 / 2))⟩], 0, 201 / 2) := by
    apply reaches_of_first (fun pool => (pool.tasks, pool.state.valueOf 1, pool.state.counted 1 .deposit))
      (.start fractional.call :: serves 0 3)
    with_unfolding_all rfl
  obtain ⟨pool, reaches, seen⟩ := run
  simp only [Prod.mk.injEq] at seen
  refine ⟨pool, reaches, seen.1, seen.2.1, seen.2.2, ?_⟩
  rw [seen.1]
  intro running member
  rw [List.mem_singleton.mp member]
  rintro (nothing | ⟨_, _, _, _, _, all⟩)
  · cases nothing
  · cases congrArg List.length all

end Kanaka.Backend.DefiService
