import Kanaka.Backend.UserService

/-! # The tokens issued on a nonce -/

namespace Kanaka.Backend.UserService
open Async SignatureService

abbrev Calls := Pool Call Op Reply String Value State

abbrev Stage := Running Call Op Reply String Value

/-! ## What a call has got so far -/

structure Notes where
  stored : Bool
  read : Option String
  valid : Bool
  deleted : Bool
deriving DecidableEq

def Notes.begun : Notes := ⟨false, none, false, false⟩

def Notes.note (notes : Notes) : Event Op Reply String → Notes
  | ⟨.set _ _ _, .ok _⟩ => { notes with stored := true }
  | ⟨.get _, .ok nonce⟩ => { notes with read := nonce }
  | ⟨.verifySignature _ _ _, .ok isValid⟩ => { notes with valid := isValid }
  | ⟨.del _, .ok _⟩ => { notes with deleted := true }
  | _ => notes

def Asks (call : Call) (notes : Notes) : Op → Prop
  | .set key value _ => ∃ walletAddress, call = .createNonce walletAddress value ∧
      key = nonceKey walletAddress ∧ notes = .begun
  | .get key => ∃ walletAddress signature, call = .verifySignature walletAddress signature ∧
      key = nonceKey walletAddress ∧ notes = .begun
  | .verifySignature message signature address => ∃ nonce, call = .verifySignature address signature ∧
      message = generateAuthMessage nonce ∧ notes = ⟨false, some nonce, false, false⟩
  | .del key => ∃ walletAddress signature nonce, call = .verifySignature walletAddress signature ∧
      key = nonceKey walletAddress ∧ notes = ⟨false, some nonce, true, false⟩
  | _ => True

def Returns (notes : Notes) : Value → Prop
  | .message _ => True
  | .token _ => notes.valid = true

section Follows
variable {signatureService : SignatureService} {call : Call} {notes : Notes}

theorem follows_await (op : Op) {R : Notes → Reply op → Prop} {E : Notes → String → Prop}
    (asks : Asks call notes op) (replied : ∀ reply, R (notes.note ⟨op, .ok reply⟩) reply)
    (failed : ∀ error, E (notes.note ⟨op, .error error⟩) error) :
    Task.Follows Notes.note (Asks call) R E notes (await op) :=
  Task.Follows.perform asks replied failed

theorem follows_getOrCreate (walletAddress : String) :
    Task.Follows Notes.note (Asks call) (fun notes' _ => notes' = notes) (fun _ _ => True) notes
      (getOrCreate signatureService walletAddress) := by
  apply Task.Follows.bind
  apply follows_await (.findOne _) trivial
  · intro found
    cases found with
    | some user => exact .done rfl
    | none =>
        apply Task.Follows.bind
        apply follows_await (.save _) trivial
        · intro saved
          cases saved with
          | some user => exact .done rfl
          | none => exact .fail trivial
        · exact fun _ => trivial
  · exact fun _ => trivial

theorem follows_body (call : Call) :
    Task.Follows Notes.note (Asks call) Returns (fun _ _ => True) .begun
      (body signatureService call) := by
  cases call with
  | createNonce walletAddress nonce =>
      apply Task.Follows.bind
      apply Task.Follows.bind
      apply follows_await (.set _ _ _) ⟨walletAddress, rfl, rfl, rfl⟩
      · exact fun _ => .done (.done trivial)
      · exact fun _ => trivial
  | verifySignature walletAddress signature =>
      apply Task.Follows.bind
      apply Task.Follows.bind
      apply follows_await (.get _) ⟨walletAddress, signature, rfl, rfl, rfl⟩
      · intro stored
        cases stored with
        | none => exact .fail trivial
        | some nonce =>
            by_cases empty : nonce = ""
            · simp only [empty, Option.filter_some, ne_eq, not_true, decide_false]
              exact .fail trivial
            · simp only [Option.filter_some, ne_eq, empty, not_false_eq_true, decide_true, if_true]
              apply Task.Follows.bind
              apply follows_await (.verifySignature _ _ _) ⟨nonce, rfl, rfl, rfl⟩
              · intro isValid
                apply Task.Follows.bind
                apply Task.Follows.throwIf
                · exact fun _ => trivial
                · intro valid
                  rw [not_not] at valid
                  subst valid
                  apply Task.Follows.bind
                  apply follows_await (.del _) ⟨walletAddress, signature, nonce, rfl, rfl, rfl⟩
                  · intro _
                    apply Task.Follows.bind
                    apply (follows_getOrCreate walletAddress).weaken
                    · rintro _ user rfl
                      exact .done (.done rfl)
                    · exact fun _ _ _ => trivial
                  · exact fun _ => trivial
              · exact fun _ => trivial
      · exact fun _ => trivial

end Follows

def discipline (signatureService : SignatureService) : (service signatureService).Discipline Notes where
  note := Notes.note
  begun := .begun
  asks := Asks
  returns _ := Returns
  throws _ _ _ := True
  follows := follows_body

/-! ## What one operation does -/

variable (signatureService : SignatureService)

def genuine (nonce : String) : Call → Bool
  | .verifySignature walletAddress signature =>
      signatureService.verifySignature (generateAuthMessage nonce) signature walletAddress
  | _ => false

inductive Turn (call : Call) (notes : Notes) (s : State) :
    Event Op Reply String → Notes → State → Prop where
  | quiet {event notes' after} : after.redis = s.redis → notes'.stored = notes.stored →
      notes'.read = notes.read → notes'.deleted = notes.deleted →
      (notes'.valid = true → notes.valid = true ∨
        ∃ nonce, notes.read = some nonce ∧ genuine signatureService nonce call = true) →
      Turn call notes s event notes' after
  | stored {walletAddress nonce expireSeconds} : call = .createNonce walletAddress nonce →
      notes = .begun →
      Turn call notes s ⟨.set (nonceKey walletAddress) nonce expireSeconds, .ok ()⟩
        ⟨true, none, false, false⟩
        { s with redis := s.redis.set (nonceKey walletAddress) nonce
                  (some (s.now + expireSeconds * 1000)) }
  | read {walletAddress signature nonce} : call = .verifySignature walletAddress signature →
      notes = .begun → s.get (nonceKey walletAddress) = some nonce →
      Turn call notes s ⟨.get (nonceKey walletAddress), .ok (some nonce)⟩
        ⟨false, some nonce, false, false⟩ s
  | deleted {walletAddress signature nonce} : call = .verifySignature walletAddress signature →
      notes = ⟨false, some nonce, true, false⟩ →
      Turn call notes s ⟨.del (nonceKey walletAddress), .ok ()⟩ ⟨false, some nonce, true, true⟩
        { s with redis := s.redis.del (nonceKey walletAddress) }

variable {signatureService}

theorem turn_of_serves {call : Call} {notes : Notes} {s after : State} {op : Op}
    {answer : Except String (Reply op)} (asks : Asks call notes op)
    (serves : (service signatureService).Serves op s answer after) :
    Turn signatureService call notes s ⟨op, answer⟩ (notes.note ⟨op, answer⟩) after := by
  cases serves with
  | error failed =>
      have same : after = s := by
        cases op <;> cases failed <;> rfl
      subst same
      cases op <;> exact .quiet rfl rfl rfl rfl .inl
  | ok =>
      cases op with
      | set key value expireSeconds =>
          obtain ⟨walletAddress, rfl, rfl, rfl⟩ := asks
          exact .stored rfl rfl
      | get key =>
          obtain ⟨walletAddress, signature, rfl, rfl, rfl⟩ := asks
          simp only [service, perform]
          cases found : s.get (nonceKey walletAddress) with
          | none => exact .quiet rfl rfl rfl rfl .inl
          | some nonce => exact .read rfl rfl found
      | del key =>
          obtain ⟨walletAddress, signature, nonce, rfl, rfl, rfl⟩ := asks
          exact .deleted rfl rfl
      | verifySignature message signature address =>
          obtain ⟨nonce, rfl, rfl, rfl⟩ := asks
          exact .quiet rfl rfl rfl rfl fun valid => .inr ⟨nonce, rfl, valid⟩
      | findOne walletAddress => exact .quiet rfl rfl rfl rfl .inl
      | save walletAddress =>
          refine .quiet ?_ rfl rfl rfl .inl
          simp only [service, perform]
          split <;> rfl

/-! ## The invariant -/

def notesOf (stage : Stage) : Notes := stage.history.foldl Notes.note .begun

def GaveUp (stage : Stage) : Bool :=
  match stage.rest with
  | .fail _ => true
  | _ => false

variable (signatureService) in
def Claims (nonce : String) (stage : Stage) : Prop :=
  (notesOf stage).read = some nonce ∧ genuine signatureService nonce stage.call = true ∧
    GaveUp stage = false

instance (nonce : String) (stage : Stage) : Decidable (Claims signatureService nonce stage) :=
  inferInstanceAs (Decidable (_ ∧ _ ∧ _))

variable (signatureService) in
/-- A nonce is read by a call that is signed over it only while no other such call is between its
read and its deletion. -/
def readsAlone (pool : Calls) : Action Call Op Reply String State → Bool
  | .serve task ⟨.get _, .ok (some nonce)⟩ =>
      (pool.tasks[task]?.all fun stage => !genuine signatureService nonce stage.call) ||
        pool.tasks.all fun other =>
          ¬ (Claims signatureService nonce other ∧ (notesOf other).deleted = false)
  | _ => true

def freshNonces (pool : Calls) : Action Call Op Reply String State → Bool
  | .start (.createNonce _ nonce) => pool.tasks.all fun stage =>
      match stage.call with
      | .createNonce _ earlier => earlier ≠ nonce
      | _ => true
  | _ => true

def Put (pool : Calls) (nonce key : String) : Prop :=
  ∃ (task : Nat) (stage : Stage) (walletAddress : String), pool.tasks[task]? = some stage ∧
    stage.call = .createNonce walletAddress nonce ∧ (notesOf stage).stored = true ∧
    key = nonceKey walletAddress

variable (signatureService) in
structure Spent (pool : Calls) : Prop where
  creators : ∀ (task other : Nat) (stage stage' : Stage) (walletAddress walletAddress' nonce : String),
    pool.tasks[task]? = some stage → pool.tasks[other]? = some stage' →
    stage.call = .createNonce walletAddress nonce → stage'.call = .createNonce walletAddress' nonce →
    task = other
  stored : ∀ key nonce deadline, pool.state.redis.lookup key = some ⟨nonce, deadline⟩ →
    Put pool nonce key
  read : ∀ (task : Nat) (stage : Stage) (nonce : String), pool.tasks[task]? = some stage →
    (notesOf stage).read = some nonce → ∃ walletAddress signature,
      stage.call = .verifySignature walletAddress signature ∧ Put pool nonce (nonceKey walletAddress)
  valid : ∀ (task : Nat) (stage : Stage) (nonce : String), pool.tasks[task]? = some stage →
    (notesOf stage).read = some nonce → (notesOf stage).valid = true →
    genuine signatureService nonce stage.call = true
  deleted : ∀ (task : Nat) (stage : Stage) (nonce : String), pool.tasks[task]? = some stage →
    (notesOf stage).read = some nonce → (notesOf stage).deleted = true →
    ∀ key deadline, pool.state.redis.lookup key ≠ some ⟨nonce, deadline⟩
  alone : ∀ (task other : Nat) (stage stage' : Stage) (nonce : String),
    pool.tasks[task]? = some stage → pool.tasks[other]? = some stage' →
    Claims signatureService nonce stage → Claims signatureService nonce stage' → task = other

section Steps
variable {pool : Calls} {task : Nat} {stage new : Stage} {event : Event Op Reply String}
  {after : State} {nonce key : String}

theorem Put.serve (put : Put pool nonce key) (found : pool.tasks[task]? = some stage)
    (call : new.call = stage.call)
    (kept : (notesOf stage).stored = true → (notesOf new).stored = true) :
    Put ⟨after, pool.tasks.set task new⟩ nonce key := by
  obtain ⟨place, creator, walletAddress, there, creates, stored, rfl⟩ := put
  by_cases here : place = task
  · subst here
    cases there.symm.trans found
    exact ⟨place, new, walletAddress, getElem?_served found, call.trans creates, kept stored, rfl⟩
  · exact ⟨place, creator, walletAddress, getElem?_other here there, creates, stored, rfl⟩

theorem Put.start (put : Put pool nonce key) (new : Stage) :
    Put ⟨pool.state, pool.tasks ++ [new]⟩ nonce key := by
  obtain ⟨place, creator, walletAddress, there, rest⟩ := put
  refine ⟨place, creator, walletAddress, ?_, rest⟩
  rw [List.getElem?_append_left (List.getElem?_eq_some_iff.mp there).1]
  exact there

theorem Spent.start (spent : Spent signatureService pool) (call : Call)
    (fresh : freshNonces pool (.start call) = true) :
    Spent signatureService ⟨pool.state, pool.tasks ++ [⟨call, [], body signatureService call⟩]⟩ := by
  have unread : (notesOf ⟨call, [], body signatureService call⟩).read = none := rfl
  have other : ∀ {place : Nat} {stage : Stage} {walletAddress walletAddress' nonce : String},
      pool.tasks[place]? = some stage → stage.call = .createNonce walletAddress nonce →
      call ≠ .createNonce walletAddress' nonce := by
    rintro place stage walletAddress walletAddress' nonce there creates rfl
    have apart := List.all_eq_true.mp fresh stage (List.mem_of_getElem? there)
    rw [creates] at apart
    exact of_decide_eq_true apart rfl
  refine ⟨?_, fun key nonce deadline present => (spent.stored key nonce deadline present).start _,
    ?_, ?_, ?_, ?_⟩
  · intro place place' stage stage' walletAddress walletAddress' nonce there there' creates creates'
    rcases getElem?_start there with old | ⟨rfl, rfl⟩
    · rcases getElem?_start there' with old' | ⟨rfl, rfl⟩
      · exact spent.creators _ _ _ _ _ _ _ old old' creates creates'
      · exact absurd creates' (other old creates)
    · rcases getElem?_start there' with old' | ⟨rfl, -⟩
      · exact absurd creates (other old' creates')
      · rfl
  · intro place stage nonce there read
    rcases getElem?_start there with old | ⟨-, rfl⟩
    · obtain ⟨walletAddress, signature, verifies, put⟩ := spent.read place stage nonce old read
      exact ⟨walletAddress, signature, verifies, put.start _⟩
    · rw [unread] at read
      contradiction
  · intro place stage nonce there read
    rcases getElem?_start there with old | ⟨-, rfl⟩
    · exact spent.valid place stage nonce old read
    · rw [unread] at read
      contradiction
  · intro place stage nonce there read
    rcases getElem?_start there with old | ⟨-, rfl⟩
    · exact spent.deleted place stage nonce old read
    · rw [unread] at read
      contradiction
  · intro place place' stage stage' nonce there there' claims claims'
    rcases getElem?_start there with old | ⟨-, rfl⟩
    · rcases getElem?_start there' with old' | ⟨-, rfl⟩
      · exact spent.alone place place' stage stage' nonce old old' claims claims'
      · exact absurd (unread.symm.trans claims'.1) (by simp)
    · exact absurd (unread.symm.trans claims.1) (by simp)

theorem Spent.drift (spent : Spent signatureService pool) (drift : Drift pool.state after) :
    Spent signatureService ⟨after, pool.tasks⟩ := by
  obtain ⟨now, -, rfl⟩ := drift
  exact ⟨spent.creators, spent.stored, spent.read, spent.valid, spent.deleted, spent.alone⟩

theorem Spent.key_eq (spent : Spent signatureService pool) {key' : String}
    (put : Put pool nonce key) (put' : Put pool nonce key') : key = key' := by
  obtain ⟨place, creator, walletAddress, there, creates, -, rfl⟩ := put
  obtain ⟨place', creator', walletAddress', there', creates', -, rfl⟩ := put'
  obtain rfl := spent.creators _ _ _ _ _ _ _ there there' creates creates'
  cases there.symm.trans there'
  cases creates.symm.trans creates'
  rfl

section Serve
variable (spent : Spent signatureService pool) (found : pool.tasks[task]? = some stage)
  (call : new.call = stage.call)
include spent found call

theorem Spent.serve_of (kept : (notesOf stage).stored = true → (notesOf new).stored = true)
    (redis : ∀ key nonce deadline, after.redis.lookup key = some ⟨nonce, deadline⟩ →
      pool.state.redis.lookup key = some ⟨nonce, deadline⟩ ∨
        Put ⟨after, pool.tasks.set task new⟩ nonce key ∧ ∀ key, ¬ Put pool nonce key)
    (read : ∀ nonce, (notesOf new).read = some nonce → ∃ walletAddress signature,
      new.call = .verifySignature walletAddress signature ∧ Put pool nonce (nonceKey walletAddress))
    (valid : ∀ nonce, (notesOf new).read = some nonce → (notesOf new).valid = true →
      genuine signatureService nonce new.call = true)
    (deleted : ∀ nonce, (notesOf new).read = some nonce → (notesOf new).deleted = true →
      ∀ key deadline, after.redis.lookup key ≠ some ⟨nonce, deadline⟩)
    (alone : ∀ nonce, Claims signatureService nonce new → ∀ place other, place ≠ task →
      pool.tasks[place]? = some other → ¬ Claims signatureService nonce other) :
    Spent signatureService ⟨after, pool.tasks.set task new⟩ := by
  have before : ∀ {place : Nat} {running : Stage},
      (pool.tasks.set task new)[place]? = some running →
      ∃ old, pool.tasks[place]? = some old ∧ old.call = running.call := by
    intro place running there
    rcases getElem?_serve there with ⟨-, old⟩ | ⟨rfl, rfl⟩
    · exact ⟨running, old, rfl⟩
    · exact ⟨stage, found, call.symm⟩
  refine ⟨?_, ?_, ?_, ?_, ?_, ?_⟩
  · intro place place' running running' _ _ nonce there there' creates creates'
    obtain ⟨old, at_, same⟩ := before there
    obtain ⟨old', at_', same'⟩ := before there'
    exact spent.creators _ _ _ _ _ _ _ at_ at_' (same.trans creates) (same'.trans creates')
  · intro key nonce deadline present
    rcases redis key nonce deadline present with present | ⟨put, -⟩
    · exact (spent.stored key nonce deadline present).serve found call kept
    · exact put
  · intro place running nonce there reads
    have source : ∃ walletAddress signature, running.call = .verifySignature walletAddress signature ∧
        Put pool nonce (nonceKey walletAddress) := by
      rcases getElem?_serve there with ⟨-, old⟩ | ⟨-, rfl⟩
      · exact spent.read place running nonce old reads
      · exact read nonce reads
    obtain ⟨walletAddress, signature, verifies, put⟩ := source
    exact ⟨walletAddress, signature, verifies, put.serve found call kept⟩
  · intro place running nonce there reads
    rcases getElem?_serve there with ⟨-, old⟩ | ⟨-, rfl⟩
    · exact spent.valid place running nonce old reads
    · exact valid nonce reads
  · intro place running nonce there reads deletes key deadline present
    rcases getElem?_serve there with ⟨-, old⟩ | ⟨-, rfl⟩
    · rcases redis key nonce deadline present with present | ⟨-, unput⟩
      · exact spent.deleted place running nonce old reads deletes key deadline present
      · obtain ⟨walletAddress, -, -, put⟩ := spent.read place running nonce old reads
        exact unput _ put
    · exact deleted nonce reads deletes key deadline present
  · intro place place' running running' nonce there there' claims claims'
    rcases getElem?_serve there with ⟨apart, old⟩ | ⟨rfl, rfl⟩
    · rcases getElem?_serve there' with ⟨-, old'⟩ | ⟨rfl, rfl⟩
      · exact spent.alone place place' running running' nonce old old' claims claims'
      · exact absurd claims (alone nonce claims' place running apart old)
    · rcases getElem?_serve there' with ⟨apart, old'⟩ | ⟨rfl, -⟩
      · exact absurd claims' (alone nonce claims place' running' apart old')
      · rfl

theorem Spent.alone_serve (live : GaveUp stage = false)
    (read : (notesOf new).read = (notesOf stage).read) (nonce : String)
    (claims : Claims signatureService nonce new) (place : Nat) (other : Stage) (apart : place ≠ task)
    (there : pool.tasks[place]? = some other) : ¬ Claims signatureService nonce other := by
  intro claims'
  obtain ⟨reads, signed, -⟩ := claims
  have before : Claims signatureService nonce stage := ⟨read ▸ reads, call ▸ signed, live⟩
  exact apart (spent.alone place task other stage nonce there found claims' before)

theorem Spent.serve_quiet (live : GaveUp stage = false) (redis : after.redis = pool.state.redis)
    (stored : (notesOf new).stored = (notesOf stage).stored)
    (read : (notesOf new).read = (notesOf stage).read)
    (deleted : (notesOf new).deleted = (notesOf stage).deleted)
    (valid : (notesOf new).valid = true → (notesOf stage).valid = true ∨
      ∃ nonce, (notesOf stage).read = some nonce ∧ genuine signatureService nonce stage.call = true) :
    Spent signatureService ⟨after, pool.tasks.set task new⟩ := by
  refine spent.serve_of found call (fun kept => stored.trans kept) ?_ ?_ ?_ ?_
    (spent.alone_serve found call live read)
  · intro key nonce deadline present
    exact .inl (redis ▸ present)
  · intro nonce reads
    rw [call]
    exact spent.read task stage nonce found (read ▸ reads)
  · intro nonce reads signed
    rw [call]
    rcases valid signed with earlier | ⟨nonce', reads', signed⟩
    · exact spent.valid task stage nonce found (read ▸ reads) earlier
    · rw [read, reads', Option.some.injEq] at reads
      exact reads ▸ signed
  · intro nonce reads deletes
    rw [redis]
    exact spent.deleted task stage nonce found (read ▸ reads) (deleted ▸ deletes)

theorem Spent.serve_stored {walletAddress : String} {expires : Option Nat}
    (creates : stage.call = .createNonce walletAddress nonce) (begun : notesOf stage = .begun)
    (noted : notesOf new = ⟨true, none, false, false⟩)
    (redis : after.redis = pool.state.redis.set (nonceKey walletAddress) nonce expires) :
    Spent signatureService ⟨after, pool.tasks.set task new⟩ := by
  have unput : ∀ key, ¬ Put pool nonce key := by
    rintro key ⟨place, creator, _, there, creates', stored, -⟩
    obtain rfl := spent.creators _ _ _ _ _ _ _ there found creates' creates
    cases there.symm.trans found
    rw [begun] at stored
    contradiction
  have unread : (notesOf new).read = none := by rw [noted]
  refine spent.serve_of found call (fun _ => by rw [noted]) ?_ (by simp [unread])
    (by simp [unread]) (by simp [unread]) (by simp [Claims, unread])
  intro key value deadline present
  rw [redis] at present
  rcases Expiring.Store.lookup_set_eq_some.mp present with ⟨rfl, same⟩ | ⟨-, old⟩
  · cases same
    exact .inr ⟨⟨task, new, walletAddress, getElem?_served found, call.trans creates,
      by rw [noted], rfl⟩, unput⟩
  · exact .inl old

theorem Spent.serve_read {walletAddress signature : String}
    (verifies : stage.call = .verifySignature walletAddress signature) (begun : notesOf stage = .begun)
    (noted : notesOf new = ⟨false, some nonce, false, false⟩)
    (got : pool.state.get (nonceKey walletAddress) = some nonce)
    (permitted : readsAlone signatureService pool
      (.serve task ⟨.get (nonceKey walletAddress), .ok (some nonce)⟩) = true) :
    Spent signatureService ⟨pool.state, pool.tasks.set task new⟩ := by
  have read : (notesOf new).read = some nonce := by rw [noted]
  obtain ⟨deadline, stored, -⟩ := Expiring.Store.get_eq_some.mp got
  refine spent.serve_of found call ?_ (fun _ _ _ present => .inl present) ?_ ?_ ?_ ?_
  · rw [begun]
    simp [Notes.begun]
  · intro nonce' reads
    cases read.symm.trans reads
    exact ⟨walletAddress, signature, call.trans verifies, spent.stored _ _ _ stored⟩
  · simp [noted]
  · simp [noted]
  · rintro nonce' ⟨reads, signed, -⟩ place other apart there claims'
    cases read.symm.trans reads
    simp only [readsAlone, found, Option.all_some, ← call, signed, Bool.not_true,
      Bool.false_or, List.all_eq_true] at permitted
    have deleted : (notesOf other).deleted = true := by
      have := permitted other (List.mem_of_getElem? there)
      simpa [claims'] using this
    exact spent.deleted place other nonce there claims'.1 deleted _ _ stored

theorem Spent.serve_deleted (live : GaveUp stage = false) {walletAddress signature : String}
    (verifies : stage.call = .verifySignature walletAddress signature)
    (before : notesOf stage = ⟨false, some nonce, true, false⟩)
    (noted : notesOf new = ⟨false, some nonce, true, true⟩)
    (redis : after.redis = pool.state.redis.del (nonceKey walletAddress)) :
    Spent signatureService ⟨after, pool.tasks.set task new⟩ := by
  have read : (notesOf new).read = some nonce := by rw [noted]
  have read' : (notesOf stage).read = some nonce := by rw [before]
  have put : Put pool nonce (nonceKey walletAddress) := by
    obtain ⟨_, _, same, put⟩ := spent.read task stage nonce found read'
    cases verifies.symm.trans same
    exact put
  refine spent.serve_of found call ?_ ?_ ?_ ?_ ?_
    (spent.alone_serve found call live (read.trans read'.symm))
  · rw [before]
    simp
  · intro key value deadline present
    rw [redis] at present
    exact .inl (Expiring.Store.lookup_del_eq_some.mp present).2
  · intro nonce' reads
    cases read.symm.trans reads
    exact ⟨walletAddress, signature, call.trans verifies, put⟩
  · intro nonce' reads _
    cases read.symm.trans reads
    rw [call]
    exact spent.valid task stage nonce found read' (by rw [before])
  · intro nonce' reads _ key deadline present
    cases read.symm.trans reads
    rw [redis] at present
    obtain ⟨away, old⟩ := Expiring.Store.lookup_del_eq_some.mp present
    exact away (spent.key_eq (spent.stored _ _ _ old) put)

theorem Spent.serve (live : GaveUp stage = false)
    (turn : Turn signatureService stage.call (notesOf stage) pool.state event (notesOf new) after)
    (permitted : readsAlone signatureService pool (.serve task event) = true) :
    Spent signatureService ⟨after, pool.tasks.set task new⟩ := by
  generalize noted : notesOf stage = notes at turn
  generalize noted' : notesOf new = notes' at turn
  cases turn with
  | quiet redis stored read deleted valid =>
      subst noted noted'
      exact spent.serve_quiet found call live redis stored read deleted valid
  | stored creates begun =>
      exact spent.serve_stored found call creates (noted.trans begun) noted' rfl
  | read verifies begun got =>
      exact spent.serve_read found call verifies (noted.trans begun) noted' got permitted
  | deleted verifies before =>
      exact spent.serve_deleted found call live verifies (noted.trans before) noted' rfl

end Serve

end Steps

variable (signatureService) in
/-- Calls signed over a nonce do not overlap between its read and its deletion. -/
def Careful (pool : Calls) (action : Action Call Op Reply String State) : Prop :=
  freshNonces pool action = true ∧ readsAlone signatureService pool action = true

theorem spent_of_reaches {state : State} {pool : Calls} (empty : state.redis = ∅)
    (reaches : (service signatureService).Reaches (Careful signatureService) ⟨state, []⟩ pool) :
    Spent signatureService pool ∧
      ∀ stage ∈ pool.tasks, (discipline signatureService).Keeps stage := by
  apply reaches.invariant (discipline signatureService)
  · simp
  · refine ⟨by simp, ?_, by simp, by simp, by simp, by simp⟩
    intro key nonce deadline present
    rw [empty, AList.lookup_empty] at present
    contradiction
  · exact fun pool call spent permitted => spent.start call permitted.1
  · intro pool task call history op resume answer after spent found keeps permitted serves
    have noted : notesOf ⟨call, history ++ [⟨op, answer⟩], resume answer⟩ =
        (notesOf ⟨call, history, .await op resume⟩).note ⟨op, answer⟩ := List.foldl_concat _ _ _ _
    refine spent.serve found rfl rfl ?_ permitted.2
    rw [noted]
    exact turn_of_serves keeps.asks serves
  · exact fun pool after spent _ drift => spent.drift drift

def Issued (nonce : String) (stage : Stage) : Bool :=
  match stage.rest with
  | .done (.token _) => (notesOf stage).read = some nonce
  | _ => false

def tokens (nonce : String) (pool : Calls) : Nat := pool.tasks.countP (Issued nonce)

theorem claims_of_issued {pool : Calls} {task : Nat} {stage : Stage} {nonce : String}
    (spent : Spent signatureService pool) (found : pool.tasks[task]? = some stage)
    (keeps : (discipline signatureService).Keeps stage) (issued : Issued nonce stage = true) :
    Claims signatureService nonce stage := by
  obtain ⟨call, history, rest⟩ := stage
  cases rest with
  | await op resume => contradiction
  | fail error => contradiction
  | done value =>
      cases value with
      | message message => contradiction
      | token payload =>
          have read := of_decide_eq_true issued
          cases keeps with
          | done valid => exact ⟨read, spent.valid task _ nonce found read valid, rfl⟩

/-- A nonce is good for one token as long as no call signed over it reads it while another one has
it and has not deleted it yet. -/
theorem tokens_le_one_of_careful (state : State) (empty : state.redis = ∅) (pool : Calls)
    (reaches : (service signatureService).Reaches (Careful signatureService) ⟨state, []⟩ pool)
    (nonce : String) : tokens nonce pool ≤ 1 := by
  obtain ⟨spent, keeps⟩ := spent_of_reaches empty reaches
  have claims : ∀ {task : Nat} {stage : Stage}, pool.tasks[task]? = some stage →
      Issued nonce stage = true → Claims signatureService nonce stage := fun found issued =>
    claims_of_issued spent found (keeps _ (List.mem_of_getElem? found)) issued
  apply countP_le_one
  intro task other stage stage' found found' issued issued'
  exact spent.alone task other stage stage' nonce found found' (claims found issued)
    (claims found' issued')

/-! ## Overlapping logins -/

def ethers : SignatureService where
  verifyMessage message signature :=
    if message = generateAuthMessage "0x01" ∧ signature = "0x51" then some "0xa" else none
  toLowerCase address := address

def login : Call := .verifySignature "0xa" "0x51"

def fresh : Calls := ⟨⟨0, ∅, [], 1⟩, []⟩

def serves (task n : Nat) : List (Move Call String) := List.replicate n (.serve task none)

theorem tokens_le_one_of_turns : ∃ pool,
    (service ethers).Reaches (Careful ethers) fresh pool ∧
    pool.tasks.map (·.call) = [.createNonce "0xa" "0x01", login, login] ∧
    tokens "0x01" pool ≤ 1 := by
  have run : ∃ pool, (service ethers).Reaches (Careful ethers) fresh pool ∧
      pool.tasks.map (·.call) = [.createNonce "0xa" "0x01", login, login] := by
    apply (service ethers).exists_of_play
      (fun pool action => freshNonces pool action && readsAlone ethers pool action)
      (fun _ _ passed => by simpa [Careful] using passed)
      (.start (.createNonce "0xa" "0x01") :: serves 0 1 ++ .start login :: serves 1 5 ++
        .start login :: serves 2 1)
    decide
  obtain ⟨pool, reaches, calls⟩ := run
  exact ⟨pool, reaches, calls, tokens_le_one_of_careful _ rfl pool reaches _⟩

/-- Both calls read the nonce before one of them deletes it. -/
theorem tokens_twice : ∃ pool,
    (service ethers).Reaches (fun pool action => freshNonces pool action = true) fresh pool ∧
    pool.tasks.map (·.call) = [.createNonce "0xa" "0x01", login, login] ∧
    tokens "0x01" pool = 2 := by
  apply (service ethers).exists_of_play freshNonces (fun _ _ passed => passed)
    (.start (.createNonce "0xa" "0x01") :: serves 0 1 ++ .start login :: .start login ::
      serves 1 1 ++ serves 2 1 ++ serves 1 4 ++ serves 2 3)
  decide

end Kanaka.Backend.UserService
