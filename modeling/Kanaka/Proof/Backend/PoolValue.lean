import Kanaka.Async.Accounts
import Kanaka.Backend.DefiService
import Mathlib.Algebra.Order.Ring.Rat
import Mathlib.Data.Rat.Cast.CharZero
import Mathlib.Tactic.NormNum
import Mathlib.Tactic.Ring

/-! # The total value of a pool -/

namespace Kanaka.Backend.DefiService
open Async

/-! ## What a call moves -/

def TransactionType.signed : TransactionType → Rat → Rat
  | .deposit, amount => amount
  | .withdraw, amount => -amount

def Call.signedAmount : Call → Rat
  | .deposit _ _ amount _ => TransactionType.deposit.signed amount
  | .withdraw _ _ amount _ => TransactionType.withdraw.signed amount
  | .updateTransactionStatus _ _ => 0

def Call.Integral : Call → Prop
  | .deposit _ _ amount _ | .withdraw _ _ amount _ => amount.den = 1
  | .updateTransactionStatus _ _ => True

/-! ## Where a call stands -/

inductive Phase where
  | begun
  | found (pool : Pool)
  | sent (pool : Pool)
  | recorded (pool : Pool)
  | read (transaction : Transaction)
  | ended
deriving DecidableEq

def Phase.note : Phase → Event Op Reply DefiError → Phase
  | .begun, ⟨.findPool _, .ok (some pool)⟩ => .found pool
  | .begun, ⟨.findTransaction _, .ok (some transaction)⟩ => .read transaction
  | .found pool, ⟨.starknet _ _ _ _, .ok _⟩ => .sent pool
  | .sent pool, ⟨.saveTransaction _, .ok _⟩ => .recorded pool
  | _, _ => .ended

def Asks (call : Call) : Phase → Op → Prop
  | .begun, op => (∃ id, op = .findPool id) ∨ ∃ hash, op = .findTransaction hash
  | .found _, op => ∃ type walletAddress amount poolId, op = .starknet type walletAddress amount poolId
  | .sent pool, op => ∃ userId type amount hash,
      op = .saveTransaction ⟨0, userId, pool.id, type, amount, hash, .pending⟩ ∧
        type.signed amount = call.signedAmount
  | .recorded pool, op => ∃ totalValue : Int, op = .savePool { pool with totalValue } ∧
      (totalValue : Rat) = pool.totalValue + call.signedAmount
  | .read transaction, op => ∃ status, op = .saveTransaction { transaction with status }
  | .ended, op => ∃ poolId totalValueLocked, op = .broadcastPoolUpdate poolId totalValueLocked

def Ended (call : Call) (phase : Phase) : Prop := call.Integral → phase = .ended

section Follows
variable {α : Type} {call : Call} {phase : Phase}

abbrev Keeps (call : Call) (phase : Phase) (task : Async α) : Prop :=
  Task.Follows Phase.note (Asks call) (fun phase _ => phase = .ended) (fun phase _ => Ended call phase)
    phase task

theorem keeps_perform (op : Op) {R : Phase → Reply op → Prop} (asks : Asks call phase op)
    (replied : ∀ reply, R (phase.note ⟨op, .ok reply⟩) reply)
    (failed : ∀ error, phase.note ⟨op, .error error⟩ = .ended) :
    Task.Follows Phase.note (Asks call) R (fun phase _ => Ended call phase) phase (perform op) := by
  apply Task.Follows.perform asks replied
  exact fun error _ => failed error

theorem apply_signed (type : TransactionType) (amount : Rat) (value : Int)
    (integral : amount.den = 1) :
    ((type.apply value amount.num : Int) : Rat) = value + type.signed amount := by
  have same : (amount.num : Rat) = amount := (Rat.den_eq_one_iff amount).mp integral
  cases type with
  | deposit => simp [TransactionType.apply, TransactionType.signed, same]
  | withdraw => simp [TransactionType.apply, TransactionType.signed, same, sub_eq_add_neg]

theorem keeps_move (type : TransactionType) (userId poolId : Nat) (amount : Rat)
    (walletAddress : String) (moves : call.signedAmount = type.signed amount)
    (integral : call.Integral → amount.den = 1) :
    Keeps call .begun (move type userId poolId amount walletAddress) := by
  apply Task.Follows.bind
  apply Task.Follows.bind
  apply keeps_perform (.findPool _)
  · exact .inl ⟨_, rfl⟩
  · intro found
    cases found with
    | none => exact .fail fun _ => rfl
    | some pool =>
        apply Task.Follows.done
        apply Task.Follows.bind
        apply keeps_perform (.starknet _ _ _ _)
        · exact ⟨_, _, _, _, rfl⟩
        · intro transactionHash
          apply Task.Follows.bind
          apply keeps_perform (.saveTransaction _)
          · exact ⟨_, _, _, _, rfl, moves.symm⟩
          · intro transaction
            unfold toBigInt
            split
            · rename_i whole
              apply Task.Follows.bind
              apply Task.Follows.done
              apply Task.Follows.bind
              apply keeps_perform (.savePool _)
              · exact ⟨_, rfl, by rw [moves, apply_signed type amount _ whole]⟩
              · intro _
                apply Task.Follows.bind
                apply keeps_perform (.broadcastPoolUpdate _ _)
                · exact ⟨_, _, rfl⟩
                · exact fun _ => .done rfl
                · exact fun _ => rfl
              · exact fun _ => rfl
            · rename_i broken
              exact .fail fun whole => absurd (integral whole) broken
          · exact fun _ => rfl
        · exact fun _ => rfl
  · exact fun _ => rfl

theorem keeps_body (call : Call) : Keeps call .begun (body call) := by
  cases call with
  | deposit userId poolId amount walletAddress =>
      exact keeps_move .deposit userId poolId amount walletAddress rfl fun whole => whole
  | withdraw userId poolId amount walletAddress =>
      exact keeps_move .withdraw userId poolId amount walletAddress rfl fun whole => whole
  | updateTransactionStatus hash failed =>
      apply Task.Follows.bind
      apply keeps_perform (.findTransaction _)
      · exact .inr ⟨_, rfl⟩
      · intro found
        cases found with
        | none => exact .fail fun _ => rfl
        | some transaction =>
            apply keeps_perform (.saveTransaction _)
            · exact ⟨_, rfl⟩
            · exact fun _ => rfl
            · exact fun _ => rfl
      · exact fun _ => rfl

end Follows

abbrev Calls := Async.Pool Call Op Reply DefiError Transaction State

def discipline : service.Discipline Phase where
  note := Phase.note
  begun := .begun
  asks := Asks
  returns _ phase _ := phase = .ended
  throws call phase _ := Ended call phase
  follows := keeps_body

/-! ## Values and transactions -/

def State.valueOf (s : State) (poolId : Nat) : Int := (s.pools.find poolId).elim 0 (·.totalValue)

def Transaction.counted (poolId : Nat) (type : TransactionType) (row : Transaction) : Rat :=
  if row.poolId = poolId ∧ row.type = type ∧ row.status ≠ .failed then row.amount else 0

def State.counted (s : State) (poolId : Nat) (type : TransactionType) : Rat :=
  s.transactions.sum (Transaction.counted poolId type)

def Transaction.share (poolId : Nat) (row : Transaction) : Rat :=
  if row.poolId = poolId ∧ row.status ≠ .failed then row.type.signed row.amount else 0

def State.net (s : State) (poolId : Nat) : Rat := s.transactions.sum (Transaction.share poolId)

theorem share_eq (poolId : Nat) (row : Transaction) :
    row.share poolId = row.counted poolId .deposit - row.counted poolId .withdraw := by
  unfold Transaction.share Transaction.counted
  by_cases own : row.poolId = poolId <;> by_cases failed : row.status = .failed <;>
    cases kind : row.type <;> simp [own, failed, TransactionType.signed]

theorem net_eq (s : State) (poolId : Nat) :
    s.net poolId = s.counted poolId .deposit - s.counted poolId .withdraw := by
  unfold State.net State.counted Table.sum
  induction s.transactions.rows with
  | nil => simp
  | cons row rest ih =>
      simp only [List.map_cons, List.sum_cons, ih, share_eq]
      ring

/-! ## Runs in which nothing is read too early -/

def Admitted (_ : Calls) : Action Call Op Reply DefiError State → Prop
  | .start call => call.Integral
  | _ => True

/-- A pool is saved as it was read, and no transaction with an amount is saved as failed or from
failed. -/
def Fresh (s : State) : Phase → Op → Prop
  | .recorded pool, .savePool _ => s.pools.find pool.id = some pool
  | .read _, .saveTransaction saved => saved.amount = 0 ∨
      ∀ stored ∈ s.transactions.find saved.id, stored.status = .failed ↔ saved.status = .failed
  | _, _ => True

def Careful (pool : Calls) (action : Action Call Op Reply DefiError State) : Prop :=
  Admitted pool action ∧
    match action with
    | .serve task ⟨op, _⟩ =>
        ∀ running ∈ pool.tasks[task]?, Fresh pool.state (discipline.notes running) op
    | _ => True

instance (call : Call) : Decidable call.Integral := by
  cases call <;> unfold Call.Integral <;> infer_instance

instance (pool : Calls) (action : Action Call Op Reply DefiError State) :
    Decidable (Admitted pool action) := by
  cases action <;> unfold Admitted <;> infer_instance

instance (s : State) (phase : Phase) (op : Op) : Decidable (Fresh s phase op) := by
  unfold Fresh
  split <;> infer_instance

instance (pool : Calls) (action : Action Call Op Reply DefiError State) :
    Decidable (Careful pool action) := by
  unfold Careful
  cases action <;> infer_instance

/-! ### Rows stay -/

def State.Lists (s : State) (row : Transaction) : Prop :=
  ∃ stored, s.transactions.find row.id = some stored ∧
    stored.poolId = row.poolId ∧ stored.type = row.type ∧ stored.amount = row.amount

structure Sound (call : Call) (s : State) (phase : Phase) : Prop where
  integral : call.Integral
  listed : ∀ row, phase = .read row → s.Lists row

structure Orderly (pool : Calls) : Prop where
  numbered : pool.state.transactions.find 0 = none
  sound : ∀ running ∈ pool.tasks, Sound running.call pool.state (discipline.notes running)

/-! ### What one operation does -/

theorem Transaction.id_with (row : Transaction) (id : Nat) : Transaction.id { row with id } = id := rfl

def State.record (s : State) (row : Transaction) : State :=
  { s with transactions := s.transactions.insert (fun id => { row with id }) row.id_with }

def State.settle (s : State) (row : Transaction) : State :=
  { s with transactions := s.transactions.save row }

def Phase.Quiet : Phase → Prop
  | .recorded _ => False
  | _ => True

inductive Turn (call : Call) (s : State) : Phase → Phase → State → Prop where
  | quiet {phase phase' after} : after.pools = s.pools → after.transactions = s.transactions →
      phase.Quiet → phase'.Quiet → (∀ row, phase' = .read row → s.Lists row) →
      Turn call s phase phase' after
  | recorded {pool row} : row.poolId = pool.id → row.status = .pending →
      row.type.signed row.amount = call.signedAmount →
      Turn call s (.sent pool) (.recorded pool) (s.record row)
  | paid {pool : Pool} {totalValue : Int} : s.pools.find pool.id = some pool →
      (totalValue : Rat) = pool.totalValue + call.signedAmount →
      Turn call s (.recorded pool) .ended
        { s with pools := s.pools.save { pool with totalValue } }
  | settled {row status} : s.Lists row → Fresh s (.read row) (.saveTransaction { row with status }) →
      Turn call s (.read row) .ended (s.settle { row with status })

section Turns
variable {call : Call} {phase phase' : Phase} {op : Op} {s after : State}
  {answer : Except DefiError (Reply op)} {poolId : Nat} {row : Transaction}

theorem perform_record (numbered : s.transactions.find 0 = none) (new : row.id = 0) :
    (Service.perform (.saveTransaction row) s).2 = s.record row := by
  simp [Service.perform, Service.saveTransaction, State.record, new, numbered]

theorem perform_settle (listed : s.Lists row) :
    (Service.perform (.saveTransaction row) s).2 = s.settle row := by
  obtain ⟨stored, found, -⟩ := listed
  simp [Service.perform, Service.saveTransaction, State.settle, found]

theorem lists_of_findTransaction {transactionHash : String}
    (found : s.transactions.rows.find? (·.transactionHash = transactionHash) = some row) :
    s.Lists row := by
  have stored : s.transactions.find row.id = some row :=
    Table.find_eq_some_iff.mpr ⟨List.mem_of_find?_eq_some found, rfl⟩
  exact ⟨row, stored, rfl, rfl, rfl⟩

theorem turn_of_ok (asks : Asks call phase op) (numbered : s.transactions.find 0 = none)
    (sound : Sound call s phase) (fresh : Fresh s phase op) :
    Turn call s phase (phase.note ⟨op, .ok (Service.perform op s).1⟩) (Service.perform op s).2 := by
  cases phase with
  | begun =>
      rcases asks with ⟨id, rfl⟩ | ⟨hash, rfl⟩
      · cases found : s.pools.find id with
        | none =>
            simp only [Service.perform, found, Phase.note]
            exact .quiet rfl rfl trivial trivial (by simp)
        | some pool =>
            simp only [Service.perform, found, Phase.note]
            exact .quiet rfl rfl trivial trivial (by simp)
      · cases found : s.transactions.rows.find? (·.transactionHash = hash) with
        | none =>
            simp only [Service.perform, found, Phase.note]
            exact .quiet rfl rfl trivial trivial (by simp)
        | some row =>
            simp only [Service.perform, found, Phase.note]
            refine .quiet rfl rfl trivial trivial ?_
            rintro _ ⟨⟩
            exact lists_of_findTransaction found
  | found pool =>
      obtain ⟨type, walletAddress, amount, poolId, rfl⟩ := asks
      exact .quiet rfl rfl trivial trivial (by simp [Phase.note])
  | sent pool =>
      obtain ⟨userId, type, amount, hash, rfl, moves⟩ := asks
      rw [perform_record numbered rfl]
      exact .recorded rfl rfl moves
  | recorded pool =>
      obtain ⟨totalValue, rfl, added⟩ := asks
      exact .paid fresh added
  | read row =>
      obtain ⟨status, rfl⟩ := asks
      have listed : s.Lists { row with status } := sound.listed row rfl
      rw [perform_settle listed]
      exact .settled listed fresh
  | ended =>
      obtain ⟨poolId, totalValueLocked, rfl⟩ := asks
      exact .quiet rfl rfl trivial trivial (by simp [Phase.note])

theorem turn_of_serves (asks : Asks call phase op) (numbered : s.transactions.find 0 = none)
    (sound : Sound call s phase) (fresh : Fresh s phase op)
    (serves : service.Serves op s answer after) :
    Turn call s phase (phase.note ⟨op, answer⟩) after := by
  cases serves with
  | ok => exact turn_of_ok asks numbered sound fresh
  | error failed =>
      have same : after = s ∧ phase.Quiet := by
        cases phase with
        | recorded pool =>
            obtain ⟨totalValue, rfl, -⟩ := asks
            cases failed
        | _ =>
            cases op <;> cases failed
            all_goals exact ⟨rfl, trivial⟩
      obtain ⟨rfl, quiet⟩ := same
      have ended : ∀ error, phase.note ⟨op, .error error⟩ = .ended := by
        intro error
        cases phase <;> cases op <;> rfl
      rw [ended]
      exact .quiet rfl rfl quiet trivial nofun

/-! ### What a turn keeps -/

theorem lists_record (new : Transaction) (listed : s.Lists row) : (s.record new).Lists row := by
  obtain ⟨stored, found, same⟩ := listed
  have before : row.id ≠ s.transactions.serial := by
    obtain ⟨member, named⟩ := Table.find_eq_some_iff.mp found
    exact named ▸ Nat.ne_of_lt (s.transactions.key_lt_serial member)
  refine ⟨stored, ?_, same⟩
  rw [State.record, Table.find_insert, if_neg before]
  exact found

theorem lists_settle {settled : Transaction} {status : TransactionStatus} (stands : s.Lists settled)
    (listed : s.Lists row) : (s.settle { settled with status }).Lists row := by
  obtain ⟨stored, found, same⟩ := listed
  by_cases own : settled.id = row.id
  · obtain ⟨other, found', same'⟩ := stands
    cases found.symm.trans (own ▸ found')
    refine ⟨{ settled with status }, ?_, same'.1 ▸ same.1, same'.2.1 ▸ same.2.1, same'.2.2 ▸ same.2.2⟩
    rw [State.settle, Table.find_save]
    exact if_pos own
  · refine ⟨stored, ?_, same⟩
    rw [State.settle, Table.find_save]
    exact (if_neg own).trans found

theorem Turn.lists (turn : Turn call s phase phase' after) (listed : s.Lists row) :
    after.Lists row := by
  cases turn with
  | quiet pools transactions =>
      unfold State.Lists
      rw [transactions]
      exact listed
  | recorded pool status moves => exact lists_record _ listed
  | paid stands added => exact listed
  | settled stands fresh => exact lists_settle stands listed

theorem Turn.reads (turn : Turn call s phase phase' after) (row : Transaction)
    (reads : phase' = .read row) : after.Lists row := by
  cases turn with
  | quiet pools transactions quiet quiet' listed =>
      unfold State.Lists
      rw [transactions]
      exact listed row reads
  | _ => cases reads

theorem Turn.numbered (turn : Turn call s phase phase' after)
    (numbered : s.transactions.find 0 = none) : after.transactions.find 0 = none := by
  cases turn with
  | quiet pools transactions => rw [transactions, numbered]
  | recorded pool status moves =>
      have ne : 0 ≠ s.transactions.serial := (Nat.succ_ne_zero _).symm
      rw [State.record, Table.find_insert, if_neg ne]
      exact numbered
  | paid stands added => exact numbered
  | @settled settled status stands fresh =>
      obtain ⟨stored, found, -⟩ := stands
      have ne : settled.id ≠ 0 := by
        intro zero
        rw [zero, numbered] at found
        contradiction
      rw [State.settle, Table.find_save]
      exact (if_neg ne).trans numbered

def owed (poolId : Nat) (call : Call) : Phase → Rat
  | .recorded pool => if pool.id = poolId then -call.signedAmount else 0
  | _ => 0

def State.gap (s : State) (poolId : Nat) : Rat := s.valueOf poolId - s.net poolId

theorem owed_of_quiet (quiet : phase.Quiet) : owed poolId call phase = 0 := by
  cases phase with
  | recorded pool => exact quiet.elim
  | _ => rfl

theorem gap_record (open_ : row.status = .pending) : (s.record row).gap poolId =
    s.gap poolId - if row.poolId = poolId then row.type.signed row.amount else 0 := by
  have net : (s.record row).net poolId = s.net poolId + row.share poolId := by
    unfold State.net State.record
    rw [Table.sum_insert]
    rfl
  rw [State.gap, net, Transaction.share, open_]
  simp only [ne_eq, reduceCtorEq, not_false_eq_true, and_true]
  rw [← sub_sub]
  rfl

theorem gap_settle {status : TransactionStatus} (listed : s.Lists row)
    (fresh : Fresh s (.read row) (.saveTransaction { row with status })) :
    (s.settle { row with status }).gap poolId = s.gap poolId := by
  obtain ⟨stored, found, own, kind, amount⟩ := listed
  have shares : Transaction.share poolId { row with status } = stored.share poolId := by
    unfold Transaction.share
    dsimp only
    rw [own, kind, amount]
    rcases fresh with nothing | kept
    · have zero : row.amount = 0 := nothing
      cases row.type <;> simp [zero, TransactionType.signed]
    · have closed : stored.status = .failed ↔ status = .failed := kept stored found
      simp only [ne_eq, closed]
  have net := s.transactions.sum_save (Transaction.share poolId) { row with status }
  rw [found, Option.elim_some, shares] at net
  have same : (s.settle { row with status }).net poolId = s.net poolId := add_right_cancel net
  rw [State.gap, same]
  rfl

theorem gap_savePool {pool : Pool} {totalValue : Int} (stands : s.pools.find pool.id = some pool) :
    ({ s with pools := s.pools.save { pool with totalValue } } : State).gap poolId =
      s.gap poolId + if pool.id = poolId then (totalValue : Rat) - pool.totalValue else 0 := by
  unfold State.gap State.valueOf
  rw [Table.find_save]
  dsimp only
  split
  · rename_i own
    rw [← own, stands, Option.elim_some, Option.elim_some, State.net, State.net]
    ring
  · rw [add_zero]
    rfl

theorem Turn.accounts (turn : Turn call s phase phase' after) :
    after.gap poolId + owed poolId call phase = s.gap poolId + owed poolId call phase' := by
  cases turn with
  | quiet pools transactions quiet quiet' =>
      rw [owed_of_quiet quiet, owed_of_quiet quiet', State.gap, State.gap, State.valueOf,
        State.valueOf, State.net, State.net, pools, transactions]
  | @recorded pool row own status moves =>
      rw [gap_record status, own, moves]
      unfold owed
      dsimp only
      split <;> ring
  | @paid pool totalValue stands added =>
      rw [gap_savePool stands, added]
      unfold owed
      dsimp only
      split <;> ring
  | settled listed fresh =>
      rw [gap_settle listed fresh]
      rfl

end Turns

/-! ## Whole runs -/

section Runs
variable {initial : State} {pool : Calls}

theorem orderly_of_reaches (numbered : initial.transactions.find 0 = none)
    (reaches : service.Reaches Careful ⟨initial, []⟩ pool) : Orderly pool := by
  have started : Orderly ⟨initial, []⟩ := ⟨numbered, by simp⟩
  apply (Service.Reaches.invariant discipline (I := Orderly) reaches (by simp) started _ _ _).1
  · intro pool call orderly permitted
    refine ⟨orderly.numbered, forall_start orderly.sound ?_⟩
    exact ⟨permitted.1, nofun⟩
  · intro pool task call history op resume answer after orderly found keeps permitted serves
    have own := orderly.sound _ (List.mem_of_getElem? found)
    have turn := turn_of_serves keeps.asks orderly.numbered own (permitted.2 _ found) serves
    refine ⟨turn.numbered orderly.numbered, forall_serve ?_ ?_⟩
    · intro running member
      have other := orderly.sound running member
      exact ⟨other.integral, fun row reads => turn.lists (other.listed row reads)⟩
    · refine ⟨own.integral, fun row reads => ?_⟩
      rw [discipline.notes_serve call history ⟨op, answer⟩ (resume answer) (.await op resume)] at reads
      exact turn.reads row reads
  · rintro pool after orderly - ⟨pools, transactions⟩
    constructor
    · show after.transactions.find 0 = none
      rw [transactions]
      exact orderly.numbered
    · intro running member
      have other := orderly.sound running member
      refine ⟨other.integral, fun row reads => ?_⟩
      obtain ⟨stored, found, same⟩ := other.listed row reads
      exact ⟨stored, by rw [transactions, found], same⟩

theorem owed_of_finished {running : Running Call Op Reply DefiError Transaction} {s : State}
    (sound : Sound running.call s (discipline.notes running)) (keeps : discipline.Keeps running)
    (finished : running.rest.Finished) (poolId : Nat) :
    owed poolId running.call (discipline.notes running) = 0 := by
  have ended : discipline.notes running = .ended := by
    obtain ⟨call, history, rest⟩ := running
    cases keeps with
    | done ended => exact ended
    | fail ended => exact ended sound.integral
    | await _ _ => exact finished.elim
  rw [ended]
  rfl

theorem gap_kept (numbered : initial.transactions.find 0 = none)
    (reaches : service.Reaches Careful ⟨initial, []⟩ pool)
    (idle : ∀ running ∈ pool.tasks, running.rest.Finished) (poolId : Nat) :
    pool.state.gap poolId = initial.gap poolId := by
  have orderly := orderly_of_reaches numbered reaches
  obtain ⟨balanced, keeps⟩ := reaches.accounts discipline (·.gap poolId) (owed poolId)
    (fun _ => orderly_of_reaches numbered) (fun _ => rfl) (by
      intro pool task call history op resume answer after orderly found keeps permitted serves
      have own := orderly.sound _ (List.mem_of_getElem? found)
      exact (turn_of_serves keeps.asks orderly.numbered own (permitted.2 _ found) serves).accounts)
    (by
      rintro pool after orderly - ⟨pools, transactions⟩
      simp only [State.gap, State.valueOf, State.net, pools, transactions])
  have nothing : pool.tasks.map (discipline.contribution (owed poolId)) =
      pool.tasks.map fun _ => 0 := by
    apply List.map_congr_left
    intro running member
    exact owed_of_finished (orderly.sound running member) (keeps running member)
      (idle running member) poolId
  rw [nothing] at balanced
  simpa using balanced

/-- The value of every pool is what it was at first, and what its transactions that have not failed
have added. -/
def Accounted (pools : Table Pool.id) (s : State) : Prop :=
  ∀ poolId, (s.valueOf poolId : Rat) = ((pools.find poolId).elim 0 (·.totalValue) : Int) +
    s.counted poolId .deposit - s.counted poolId .withdraw

theorem value_accounted {pools : Table Pool.id} {transactionHash : String}
    (reaches : service.Reaches Careful ⟨⟨pools, .empty, transactionHash⟩, []⟩ pool)
    (idle : ∀ running ∈ pool.tasks, running.rest.Finished) : Accounted pools pool.state := by
  intro poolId
  have kept := gap_kept rfl reaches idle poolId
  have none : State.net ⟨pools, .empty, transactionHash⟩ poolId = 0 := rfl
  rw [State.gap, State.gap, none, net_eq, sub_zero] at kept
  rw [add_sub_assoc, ← sub_eq_iff_eq_add]
  exact kept

end Runs

/-! ## Deposits of one pool -/

def firstPool : Table Pool.id := Table.empty.save ⟨1, 0⟩

def firstState : State := ⟨firstPool, .empty, "0xa"⟩

def serves (task count : Nat) : List (Move Call DefiError) := List.replicate count (.serve task none)

theorem value_accounted_overlapping : ∃ pool : Calls,
    service.Reaches Careful ⟨firstState, []⟩ pool ∧ pool.state.valueOf 1 = 70 ∧
      Accounted firstPool pool.state := by
  have run : ∃ pool, service.Reaches Careful ⟨firstState, []⟩ pool ∧
      (∀ running ∈ pool.tasks, running.rest.Finished) ∧ pool.state.valueOf 1 = 70 := by
    -- the withdrawal reads the pool while the deposit is broadcast
    apply service.exists_of_play (fun pool action => decide (Careful pool action))
      (fun _ _ => of_decide_eq_true)
      (.start (.deposit 7 1 100 "0x7") :: serves 0 4 ++ .start (.withdraw 7 1 30 "0x7") ::
        serves 1 2 ++ serves 0 1 ++ serves 1 3 ++
        .start (.updateTransactionStatus "0xa" false) :: serves 2 2)
    decide +kernel
  obtain ⟨pool, reaches, idle, value⟩ := run
  exact ⟨pool, reaches, value, value_accounted reaches idle⟩

theorem not_accounted {s : State} {value : Int} {deposits : Rat} (stored : s.valueOf 1 = value)
    (deposited : s.counted 1 .deposit = deposits) (withdrawn : s.counted 1 .withdraw = 0)
    (differ : (value : Rat) ≠ deposits) : ¬ Accounted firstPool s := by
  intro accounted
  have sums := accounted 1
  have empty : ((firstPool.find 1).elim 0 (·.totalValue) : Int) = 0 := by decide
  rw [stored, deposited, withdrawn, empty, Int.cast_zero, zero_add, sub_zero] at sums
  exact differ sums

/-- The second of two deposits saves over the first; and a deposit that fails stays in the value. -/
theorem value_lost :
    (∃ pool : Calls, service.Reaches Admitted ⟨firstState, []⟩ pool ∧
      (∀ running ∈ pool.tasks, running.rest.Finished) ∧ pool.state.valueOf 1 = 50 ∧
      pool.state.counted 1 .deposit = 150 ∧ ¬ Accounted firstPool pool.state) ∧
    ∃ pool : Calls, service.Reaches Admitted ⟨firstState, []⟩ pool ∧
      (∀ running ∈ pool.tasks, running.rest.Finished) ∧ pool.state.valueOf 1 = 100 ∧
      pool.state.counted 1 .deposit = 0 ∧ ¬ Accounted firstPool pool.state := by
  constructor
  · have run : ∃ pool, service.Reaches Admitted ⟨firstState, []⟩ pool ∧
        (∀ running ∈ pool.tasks, running.rest.Finished) ∧ pool.state.valueOf 1 = 50 ∧
        pool.state.counted 1 .deposit = 150 ∧ pool.state.counted 1 .withdraw = 0 := by
      apply service.exists_of_play (fun pool action => decide (Admitted pool action))
        (fun _ _ => of_decide_eq_true)
        (.start (.deposit 7 1 100 "0x7") :: .start (.deposit 8 1 50 "0x8") :: serves 0 1 ++
          serves 1 1 ++ serves 0 4 ++ serves 1 4)
      decide +kernel
    obtain ⟨pool, reaches, idle, value, deposited, withdrawn⟩ := run
    exact ⟨pool, reaches, idle, value, deposited,
      not_accounted value deposited withdrawn (by norm_num)⟩
  · have run : ∃ pool, service.Reaches Admitted ⟨firstState, []⟩ pool ∧
        (∀ running ∈ pool.tasks, running.rest.Finished) ∧ pool.state.valueOf 1 = 100 ∧
        pool.state.counted 1 .deposit = 0 ∧ pool.state.counted 1 .withdraw = 0 := by
      apply service.exists_of_play (fun pool action => decide (Admitted pool action))
        (fun _ _ => of_decide_eq_true)
        (.start (.deposit 7 1 100 "0x7") :: serves 0 5 ++
          .start (.updateTransactionStatus "0xa" true) :: serves 1 2)
      decide +kernel
    obtain ⟨pool, reaches, idle, value, deposited, withdrawn⟩ := run
    exact ⟨pool, reaches, idle, value, deposited,
      not_accounted value deposited withdrawn (by norm_num)⟩

end Kanaka.Backend.DefiService
