import TrojanRust.Config
import TrojanRust.Error
import TrojanRust.Runs

/-!
# The accept loop and its connection permits

The server takes a permit before it accepts a connection, and the task of the connection owns
the permit from then on. A failed accept and every way in which a task ends drop the permit that
is owned there. The model keeps count of the permits that the semaphore has left; that they are
conserved over the loop and the tasks is what is proved.
-/

namespace TrojanRust

/-- `Semaphore::MAX_PERMITS`, which is `usize::MAX >> 3`. -/
def maxPermits : Nat := (2 ^ 64 - 1) / 2 ^ 3

/-- `Semaphore`, as it is created. -/
structure Semaphore where
  permits : Nat
  /-- More permits than this are not counted. -/
  bounded : permits ≤ maxPermits
  deriving DecidableEq

/-- `Semaphore::new`, which asserts the bound. -/
def Semaphore.new (permits : Nat) : Result Semaphore :=
  if bounded : permits ≤ maxPermits then .ok ⟨permits, bounded⟩ else .error .panic

/-- `Server`, without its TLS configuration. -/
structure Server where
  config : Config
  connectionLimit : Semaphore
  deriving DecidableEq

/-- `Server::new`. -/
def Server.new (config : Config) : Result Server := do
  let connectionLimit ← Semaphore.new config.maxConnections.toNat
  return { config, connectionLimit }

/-- Where the accept loop is. -/
inductive AcceptLoop where
  /-- At `acquire_owned`. -/
  | acquiring
  /-- At `accept`, owning a permit. -/
  | accepting
  deriving DecidableEq, Repr

/-- Where the task of a connection is. It owns a permit as long as it lives. -/
inductive ConnectionTask where
  /-- In the TLS handshake. -/
  | handshake
  /-- In `handle_connection`. -/
  | handling
  deriving DecidableEq, Repr

/-- The state of a running server. -/
structure Serving where
  /-- Permits that the semaphore has left. -/
  available : Nat
  loop : AcceptLoop
  /-- The tasks that have not ended. -/
  tasks : List ConnectionTask
  deriving DecidableEq, Repr

/-- What the accept loop or one of the tasks does next. -/
inductive ServingAction where
  /-- `acquire_owned` returns a permit. -/
  | acquired
  /-- `acquire_owned` fails, and the loop goes on. -/
  | acquireFailed
  /-- `accept` returns a connection, whose task is spawned with the permit. -/
  | accepted
  /-- `accept` fails, and the loop goes on without the permit. -/
  | acceptFailed
  /-- The TLS handshake of a task succeeds. -/
  | tlsAccepted (task : Nat)
  /-- The TLS handshake of a task fails, and the task returns. -/
  | tlsFailed (task : Nat)
  /-- `handle_connection` returns, and the task ends. -/
  | handled (task : Nat) (result : Result Unit)

namespace ServingAction

/-- Permits taken out of the semaphore. -/
def takes : ServingAction → Nat
  | .acquired => 1
  | _ => 0

/-- Permits dropped, and so returned to the semaphore. -/
def returns : ServingAction → Nat
  | .acceptFailed => 1
  | .tlsFailed _ => 1
  | .handled _ _ => 1
  | _ => 0

end ServingAction

namespace Serving

/-- The loop is entered with all permits in the semaphore. -/
def start (server : Server) : Serving where
  available := server.connectionLimit.permits
  loop := .acquiring
  tasks := []

/-- `Server::run` up to its loop. -/
def bind (bindListener : String → Except ErrorKind Unit) (server : Server) : Result Serving := do
  (bindListener server.config.bindAddr).mapError ioFault
  return start server

/-- The permits that the accept loop owns. -/
def held (state : Serving) : Nat :=
  match state.loop with
  | .acquiring => 0
  | .accepting => 1

/-- Drop a permit. -/
def release (state : Serving) : Serving := { state with available := state.available + 1 }

/-- A task ends and drops its permit. -/
def endTask (state : Serving) (task : Nat) : Serving :=
  release { state with tasks := state.tasks.eraseIdx task }

/-- One action of the loop or of a task. -/
def step (state : Serving) (action : ServingAction) : Option Serving :=
  match action with
  | .acquired =>
    if state.loop = .acquiring ∧ 0 < state.available then
      some { state with available := state.available - 1, loop := .accepting }
    else none
  | .acquireFailed => if state.loop = .acquiring then some state else none
  | .accepted =>
    if state.loop = .accepting then
      some { state with loop := .acquiring, tasks := state.tasks ++ [.handshake] }
    else none
  | .acceptFailed =>
    if state.loop = .accepting then some (release { state with loop := .acquiring }) else none
  | .tlsAccepted task =>
    if state.tasks[task]? = some .handshake then
      some { state with tasks := state.tasks.set task .handling }
    else none
  | .tlsFailed task =>
    if state.tasks[task]? = some .handshake then some (state.endTask task) else none
  | .handled task _ =>
    if state.tasks[task]? = some .handling then some (state.endTask task) else none

/-- The first permit is taken when there is one. -/
theorem acquires_iff (server : Server) :
    (∃ next, (start server).step .acquired = some next) ↔
      1 ≤ server.connectionLimit.permits := by
  constructor
  · intro acquires
    have ⟨next, acquired⟩ := acquires
    exact (Runs.guarded.mp acquired).1.2
  · intro some
    exact ⟨_, Runs.guarded.mpr ⟨⟨rfl, some⟩, rfl⟩⟩

/-- The permits, wherever they are. -/
def total (state : Serving) : Nat := state.available + state.held + state.tasks.length

/-- A task that ends gives back the permit that it owned. -/
theorem total_endTask (state : Serving) {task : Nat} {phase : ConnectionTask}
    (lives : state.tasks[task]? = some phase) : (state.endTask task).total = state.total := by
  have ⟨inside, _⟩ := List.getElem?_eq_some_iff.mp lives
  have shorter : (state.tasks.eraseIdx task).length + 1 = state.tasks.length := by
    rw [List.length_eraseIdx_of_lt inside]
    omega
  change state.available + 1 + state.held + (state.tasks.eraseIdx task).length = state.total
  unfold total
  omega

/-- Every step changes what the semaphore has left by the permits that it takes and returns, and
the number of permits in all places by nothing. -/
theorem step_conserves {state next : Serving} {action : ServingAction}
    (stepped : state.step action = some next) :
    next.available + action.takes = state.available + action.returns ∧
      next.total = state.total := by
  cases action with
  | acquired =>
    obtain ⟨⟨atAcquire, some⟩, rfl⟩ := Runs.guarded.mp stepped
    constructor
    · change state.available - 1 + 1 = state.available
      omega
    · have before : state.held = 0 := by rw [held, atAcquire]
      change state.available - 1 + 1 + state.tasks.length = state.total
      unfold total
      omega
  | acquireFailed =>
    obtain ⟨_, rfl⟩ := Runs.guarded.mp stepped
    exact ⟨rfl, rfl⟩
  | accepted =>
    obtain ⟨atAccept, rfl⟩ := Runs.guarded.mp stepped
    have before : state.held = 1 := by rw [held, atAccept]
    refine ⟨rfl, ?_⟩
    change state.available + 0 + (state.tasks ++ [ConnectionTask.handshake]).length = state.total
    unfold total
    rw [List.length_append, List.length_singleton]
    omega
  | acceptFailed =>
    obtain ⟨atAccept, rfl⟩ := Runs.guarded.mp stepped
    have before : state.held = 1 := by rw [held, atAccept]
    refine ⟨rfl, ?_⟩
    change state.available + 1 + 0 + state.tasks.length = state.total
    unfold total
    omega
  | tlsAccepted task =>
    obtain ⟨_, rfl⟩ := Runs.guarded.mp stepped
    refine ⟨rfl, ?_⟩
    change state.available + state.held + (state.tasks.set task .handling).length = state.total
    rw [List.length_set]
    rfl
  | tlsFailed task =>
    obtain ⟨lives, rfl⟩ := Runs.guarded.mp stepped
    exact ⟨rfl, total_endTask state lives⟩
  | handled task result =>
    obtain ⟨lives, rfl⟩ := Runs.guarded.mp stepped
    exact ⟨rfl, total_endTask state lives⟩

/-- Permits are conserved. In every state that a server reaches, those that the semaphore has
left, the one that the accept loop may own and one for every task that has not ended are as many
as are configured. So there are never more tasks than that, and when all tasks have ended all
permits are with the semaphore and the loop; and every step that drops a permit, by a failure or
not, gives the semaphore exactly that one. -/
theorem run_conserves (config : Config) (server : Server) (created : Server.new config = .ok server)
    (bindListener : String → Except ErrorKind Unit) (first : Serving)
    (listening : bind bindListener server = .ok first) (actions : List ServingAction)
    (state : Serving) (ran : Runs.run step first actions = some state) :
    state.available + state.held + state.tasks.length = config.maxConnections.toNat ∧
    state.tasks.length ≤ config.maxConnections.toNat ∧
    (state.tasks = [] → state.available + state.held = config.maxConnections.toNat) ∧
    ∀ action next, state.step action = some next →
      next.available + action.takes = state.available + action.returns := by
  have permits : server.connectionLimit.permits = config.maxConnections.toNat := by
    unfold Server.new Semaphore.new at created
    split at created
    · obtain rfl := Except.ok.inj created
      rfl
    · contradiction
  have entered : first = start server := by
    unfold bind at listening
    cases bound : bindListener server.config.bindAddr with
    | error kind => simp [bound, Except.mapError] at listening
    | ok value =>
      rw [bound] at listening
      exact (Except.ok.inj listening).symm
  have initial : first.total = config.maxConnections.toNat := by
    rw [entered, ← permits]
    rfl
  have conserved : state.total = config.maxConnections.toNat := by
    have preserved : ∀ (before : Serving) (action : ServingAction) (after : Serving),
        before.total = config.maxConnections.toNat → before.step action = some after →
          after.total = config.maxConnections.toNat := by
      intro before action after total stepped
      rw [(step_conserves stepped).2, total]
    exact Runs.run_invariant preserved initial ran
  unfold total at conserved
  refine ⟨conserved, by omega, ?_, fun action next stepped => (step_conserves stepped).1⟩
  intro ended
  rw [ended, List.length_nil] at conserved
  omega

/-- Of two permits, one is with a task whose handshake succeeded, and the other is back in the
semaphore after an accept and a handshake that failed. -/
theorem run_conserves_failures :
    Runs.run step (Serving.mk 2 .acquiring [])
      [.acquired, .accepted, .acquired, .acceptFailed, .acquired, .tlsAccepted 0, .accepted,
        .tlsFailed 1] = some (Serving.mk 1 .acquiring [.handling]) ∧
    (Serving.mk 1 .acquiring [.handling]).available + held ⟨1, .acquiring, [.handling]⟩ +
      (Serving.mk 1 .acquiring [.handling]).tasks.length = 2 := by
  let config : Config :=
    { bindAddr := "0.0.0.0:443", tlsCert := "", tlsKey := "", passwords := [],
      udpBindAddr := "0.0.0.0:0", tcpTimeout := 300, udpTimeout := 60, maxConnections := 2,
      fallbackAddr := "127.0.0.1:80" }
  have ran : Runs.run step (Serving.mk 2 .acquiring [])
      [.acquired, .accepted, .acquired, .acceptFailed, .acquired, .tlsAccepted 0, .accepted,
        .tlsFailed 1] = some (Serving.mk 1 .acquiring [.handling]) := by decide
  exact ⟨ran, (run_conserves config ⟨config, 2, by decide⟩ rfl (fun _ => .ok ()) _ rfl _ _ ran).1⟩

end Serving

end TrojanRust
