import TrojanRust.Accept
import TrojanRust.NoPanics

/-!
# A running server

The accept loop and the tasks of all connections take their turns in any order. Beside the counter
of session ids, which are only logged, they share the permits of the semaphore and nothing else: a
connection is in every run as its own actions leave it, and the permits are conserved as in the
server that only counts them.
-/

namespace TrojanRust

open TrojanRust.Bytes

/-- A running server, with the tasks of all connections that it has accepted. -/
structure RunningServer where
  /-- Permits that the semaphore has left. -/
  available : Nat
  loop : AcceptLoop
  connections : List Connection

/-- What the accept loop or the task of a connection does next. -/
inductive ServerAction where
  /-- `acquire_owned` returns a permit. -/
  | acquired
  /-- `acquire_owned` fails, and the loop goes on. -/
  | acquireFailed
  /-- `accept` returns a connection, whose task is spawned with the permit. -/
  | accepted (peerAddr : SocketAddr) (stream : ClientStream)
  /-- `accept` fails, and the loop goes on without the permit. -/
  | acceptFailed
  /-- The environment answers the task of a connection. -/
  | connection (index : Nat) (action : ConnectionAction)

namespace ServerAction

/-- The connection that an action accepts. -/
def accepts : ServerAction → List (SocketAddr × ClientStream)
  | .accepted peerAddr stream => [(peerAddr, stream)]
  | _ => []

/-- What an action answers to the task of one connection. -/
def answers (index : Nat) : ServerAction → List ConnectionAction
  | .connection other action => if other = index then [action] else []
  | _ => []

end ServerAction

/-- The stage is the TLS handshake. -/
def Stage.isHandshake : Stage → Bool
  | .handshake _ => true
  | _ => false

/-- The task of a connection as the server that only counts permits sees it. -/
def Connection.task (connection : Connection) : Option ConnectionTask :=
  if connection.exit.isSome then none
  else if connection.stage.isHandshake then some .handshake
  else some .handling

/-- The action answers the TLS handshake. -/
def ConnectionAction.isHandshake : ConnectionAction → Bool
  | .tlsAccepted => true
  | .tlsFailed => true
  | _ => false

namespace Connection

/-- The task is in `handle_connection`, or has returned from it. -/
def Handles (state : Connection) : Prop :=
  state.stage.isHandshake = false ∧
    (state.exit = none ∨ ∃ result, state.exit = some (.returned result))

/-- A task that goes on in `handle_connection` is there. -/
theorem handles_goOn {state : Connection} {stage : Stage} (runs : state.exit = none)
    (inside : stage.isHandshake = false) : (state.goOn stage).Handles := ⟨inside, .inl runs⟩

/-- A task that returns from `handle_connection` was there. -/
theorem handles_leave {state : Connection} (inside : state.stage.isHandshake = false)
    (result : Result Unit) : (state.leave result).Handles := ⟨inside, .inr ⟨result, rfl⟩⟩

/-- A called handler is in `handle_connection`. -/
theorem handles_call {state : Connection} (runs : state.exit = none)
    (inside : state.stage.isHandshake = false) (result : Result Dispatch) :
    (state.call result).Handles := by
  cases result with
  | error fault => exact handles_leave inside _
  | ok dispatch =>
    cases dispatch with
    | dropped => exact handles_leave inside _
    | fallback next longer fallbackAddr => exact handles_goOn runs rfl
    | tcp next target session connectTimeout => exact handles_goOn runs rfl
    | udp next session udpTimeout udpBindAddr => exact handles_goOn runs rfl

/-- A task takes one step in its handshake, which succeeds or fails, and all others in
`handle_connection`. -/
theorem step_task {config : Config} {state next : Connection} {action : ConnectionAction}
    (stepped : state.step config action = some next) :
    (state.task = some .handshake ∧ (action = .tlsAccepted ∧ next.Handles ∧ next.exit = none ∨
        action = .tlsFailed ∧ next.exit = some .tlsFailed)) ∨
      (state.task = some .handling ∧ action.isHandshake = false ∧ next.Handles) := by
  rcases step_moves stepped with ⟨runs, moves⟩
  have handling : state.stage.isHandshake = false → state.task = some .handling := by
    intro inside
    rw [task, runs, inside]
    rfl
  have handshakes : state.stage.isHandshake = true → state.task = some .handshake := by
    intro outside
    rw [task, runs, outside]
    rfl
  cases moves with
  | tlsAccepted stream located =>
    exact .inl ⟨handshakes (by rw [located]; rfl), .inl ⟨rfl, handles_goOn runs rfl, runs⟩⟩
  | tlsFailed stream located => exact .inl ⟨handshakes (by rw [located]; rfl), .inr ⟨rfl, rfl⟩⟩
  | peek current peeked located =>
    have inside : state.stage.isHandshake = false := by rw [located]; rfl
    refine .inr ⟨handling inside, rfl, ?_⟩
    unfold peek
    cases peekTurn config current peeked with
    | goesOn later bytes => exact handles_goOn runs rfl
    | ends outcome => exact handles_call runs inside _
  | fallbackConnect current peeked fallbackAddr answer located =>
    have inside : state.stage.isHandshake = false := by rw [located]; rfl
    refine .inr ⟨handling inside, rfl, ?_⟩
    cases answer with
    | error e => exact handles_leave inside _
    | ok done =>
      unfold fallbackConnect
      dsimp only
      split
      · exact handles_goOn runs rfl
      · exact handles_goOn runs rfl
  | replay current written left count located some =>
    refine .inr ⟨handling (by rw [located]; rfl), rfl, ?_⟩
    unfold replay
    split
    · exact handles_goOn runs rfl
    · exact handles_goOn runs rfl
  | replayFailed current written left kind located =>
    have inside : state.stage.isHandshake = false := by rw [located]; rfl
    exact .inr ⟨handling inside, rfl, handles_leave inside _⟩
  | fallbackCopy replayed copies later action located moved =>
    exact .inr ⟨handling (by rw [located]; rfl), rfl, handles_goOn runs rfl⟩
  | fallbackCopied replayed copies kind result located returned =>
    have inside : state.stage.isHandshake = false := by rw [located]; rfl
    exact .inr ⟨handling inside, rfl, handles_leave inside _⟩
  | connect current target session connectTimeout network located =>
    have inside : state.stage.isHandshake = false := by rw [located]; rfl
    refine .inr ⟨handling inside, rfl, ?_⟩
    unfold connect
    split
    · exact handles_leave inside _
    · split
      · exact handles_leave inside _
      · exact handles_goOn runs rfl
  | copy remote session copies later action located moved =>
    exact .inr ⟨handling (by rw [located]; rfl), rfl, handles_goOn runs rfl⟩
  | copied remote session copies kind result located returned =>
    have inside : state.stage.isHandshake = false := by rw [located]; rfl
    refine .inr ⟨handling inside, rfl, ?_⟩
    cases result with
    | error fault => exact handles_leave inside _
    | ok counts => exact ⟨rfl, .inr ⟨_, rfl⟩⟩
  | bind current session udpTimeout udpBindAddr bindSocket located =>
    have inside : state.stage.isHandshake = false := by rw [located]; rfl
    refine .inr ⟨handling inside, rfl, ?_⟩
    unfold Connection.bind
    split
    · exact handles_leave inside _
    · exact handles_goOn runs rfl
  | udp current later action located moved =>
    refine .inr ⟨handling (by rw [located]; rfl), rfl, ?_⟩
    unfold associate
    split
    · exact handles_goOn runs rfl
    · exact handles_leave rfl _

end Connection

namespace RunningServer

/-- The loop is entered with all permits in the semaphore. -/
def start (server : Server) : RunningServer where
  available := server.connectionLimit.permits
  loop := .acquiring
  connections := []

/-- A task has gone on, and drops its permit when it has ended. -/
def place (index : Nat) (next : Connection) (state : RunningServer) : RunningServer :=
  { state with
    connections := state.connections.set index next
    available := if next.exit.isSome then state.available + 1 else state.available }

/-- One action of the loop or of a task. -/
def step (config : Config) (state : RunningServer) : ServerAction → Option RunningServer
  | .acquired =>
    if state.loop = .acquiring ∧ 0 < state.available then
      some { state with available := state.available - 1, loop := .accepting }
    else none
  | .acquireFailed => if state.loop = .acquiring then some state else none
  | .accepted peerAddr stream =>
    if state.loop = .accepting then
      some { state with
        loop := .acquiring
        connections := state.connections ++ [.start peerAddr stream] }
    else none
  | .acceptFailed =>
    if state.loop = .accepting then
      some { state with loop := .acquiring, available := state.available + 1 }
    else none
  | .connection index action =>
    state.connections[index]?.bind fun connection =>
      (connection.step config action).map fun next => state.place index next

/-- The server that only counts permits. -/
def counted (state : RunningServer) : Serving where
  available := state.available
  loop := state.loop
  tasks := state.connections.filterMap Connection.task

/-- A connection at an index cuts the list in two. -/
theorem exists_split {α : Type} {items : List α} {index : Nat} {item : α}
    (known : items[index]? = some item) :
    ∃ front back, items = front ++ item :: back ∧
      ∀ other, items.set index other = front ++ other :: back := by
  rcases List.getElem?_eq_some_iff.mp known with ⟨inside, here⟩
  refine ⟨items.take index, items.drop (index + 1), ?_, ?_⟩
  · rw [← here, List.getElem_cons_drop, List.take_append_drop]
  · intro other
    rw [List.set_eq_take_append_cons_drop, if_pos inside]

/-- A task that runs is among those that are counted, and goes on or ends there. -/
theorem counted_place {state : RunningServer} {index : Nat} {connection next : Connection}
    {task : ConnectionTask} (known : state.connections[index]? = some connection)
    (runs : connection.task = some task) :
    ∃ position, state.counted.tasks[position]? = some task ∧
      (∀ later, next.task = some later → (state.place index next).counted =
        { state.counted with tasks := state.counted.tasks.set position later }) ∧
      (next.task = none → next.exit.isSome →
        (state.place index next).counted = state.counted.endTask position) := by
  rcases exists_split known with ⟨front, back, split, placed⟩
  have tasks : state.counted.tasks =
      front.filterMap Connection.task ++ task :: back.filterMap Connection.task := by
    change state.connections.filterMap Connection.task = _
    rw [split, List.filterMap_append, List.filterMap_cons_some runs]
  refine ⟨(front.filterMap Connection.task).length, ?_, ?_, ?_⟩
  · rw [tasks]
    simp
  · intro later goesOn
    have running : ¬ next.exit.isSome = true := by
      intro ended
      rw [Connection.task, if_pos ended] at goesOn
      contradiction
    rw [tasks, List.set_append_right _ _ (Nat.le_refl _), Nat.sub_self]
    simp only [counted, place, placed, if_neg running, List.filterMap_append,
      List.filterMap_cons_some goesOn]
    rfl
  · intro none ended
    rw [Serving.endTask, Serving.release, tasks,
      List.eraseIdx_append_of_length_le (Nat.le_refl _), Nat.sub_self]
    simp only [counted, place, placed, if_pos ended, List.filterMap_append,
      List.filterMap_cons_none none]
    rfl

/-- A task that is handling its connection and goes on is seen handling it. -/
theorem task_of_handles {state : Connection} (handles : state.Handles) (runs : state.exit = none) :
    state.task = some .handling := by
  rw [Connection.task, runs, handles.1]
  rfl

/-- What the server that only counts permits does with an action. It sees how a handshake is
answered, and of all other answers only that `handle_connection` returns after one. -/
inductive Counts : ServerAction → List ServingAction → Prop
  | acquired : Counts .acquired [.acquired]
  | acquireFailed : Counts .acquireFailed [.acquireFailed]
  | accepted (peerAddr : SocketAddr) (stream : ClientStream) :
    Counts (.accepted peerAddr stream) [.accepted]
  | acceptFailed : Counts .acceptFailed [.acceptFailed]
  | tlsAccepted (index task : Nat) : Counts (.connection index .tlsAccepted) [.tlsAccepted task]
  | tlsFailed (index task : Nat) : Counts (.connection index .tlsFailed) [.tlsFailed task]
  | unseen (index : Nat) (action : ConnectionAction) (handles : action.isHandshake = false) :
    Counts (.connection index action) []
  | handled (index task : Nat) (action : ConnectionAction) (result : Result Unit)
      (handles : action.isHandshake = false) :
    Counts (.connection index action) [.handled task result]

/-- A step of a task is a step of the server that only counts permits, or none that it sees. -/
theorem connection_counts {config : Config} {state : RunningServer} {index : Nat}
    {connection next : Connection} {action : ConnectionAction}
    (known : state.connections[index]? = some connection)
    (stepped : connection.step config action = some next) :
    ∃ performed, Counts (.connection index action) performed ∧
      Runs.run Serving.step state.counted performed = some (state.place index next).counted := by
  have ended : ∀ exit, next.exit = some exit → next.task = none := by
    intro exit exits
    rw [Connection.task, exits]
    rfl
  rcases Connection.step_task stepped with handshakes | handles
  · rcases counted_place known handshakes.1 with ⟨task, member, goesOn, ends⟩
    rcases handshakes.2 with accepted | failed
    · obtain ⟨rfl, inside, runs⟩ := accepted
      refine ⟨_, .tlsAccepted index task, Runs.run_singleton.mpr ?_⟩
      rw [goesOn _ (task_of_handles inside runs)]
      exact if_pos member
    · obtain ⟨rfl, exits⟩ := failed
      refine ⟨_, .tlsFailed index task, Runs.run_singleton.mpr ?_⟩
      rw [ends (ended _ exits) (by rw [exits]; rfl)]
      exact if_pos member
  · rcases handles with ⟨handling, kind, inside⟩
    rcases counted_place known handling with ⟨task, member, goesOn, ends⟩
    rcases inside.2 with runs | returned
    · have unchanged : state.counted.tasks.set task .handling = state.counted.tasks := by
        rcases List.getElem?_eq_some_iff.mp member with ⟨present, here⟩
        rw [← here, List.set_getElem_self]
      refine ⟨[], .unseen index action kind, ?_⟩
      rw [goesOn _ (task_of_handles inside runs), unchanged]
      rfl
    · rcases returned with ⟨result, exits⟩
      refine ⟨_, .handled index task action result kind, Runs.run_singleton.mpr ?_⟩
      rw [ends (ended _ exits) (by rw [exits]; rfl)]
      exact if_pos member

/-- A step of the loop or of a task is one of the server that only counts permits, or none that it
sees. -/
theorem step_counts {config : Config} (state : RunningServer) (counter : Serving)
    (action : ServerAction) (next : RunningServer) (same : state.counted = counter)
    (stepped : state.step config action = some next) :
    ∃ performed later, Counts action performed ∧
      Runs.run Serving.step counter performed = some later ∧ next.counted = later := by
  subst same
  cases action with
  | acquired =>
    obtain ⟨taken, rfl⟩ := Runs.guarded.mp stepped
    exact ⟨_, _, .acquired, Runs.run_singleton.mpr (if_pos taken), rfl⟩
  | acquireFailed =>
    obtain ⟨acquiring, rfl⟩ := Runs.guarded.mp stepped
    exact ⟨_, _, .acquireFailed, Runs.run_singleton.mpr (if_pos acquiring), rfl⟩
  | accepted peerAddr stream =>
    obtain ⟨accepting, rfl⟩ := Runs.guarded.mp stepped
    refine ⟨_, _, .accepted peerAddr stream, Runs.run_singleton.mpr (if_pos accepting), ?_⟩
    simp only [counted, List.filterMap_append]
    rfl
  | acceptFailed =>
    obtain ⟨accepting, rfl⟩ := Runs.guarded.mp stepped
    exact ⟨_, _, .acceptFailed, Runs.run_singleton.mpr (if_pos accepting), rfl⟩
  | connection index action =>
    rcases Option.bind_eq_some_iff.mp stepped with ⟨connection, known, mapped⟩
    rcases Option.map_eq_some_iff.mp mapped with ⟨later, turned, placed⟩
    rcases connection_counts known turned with ⟨performed, counts, ran⟩
    exact ⟨performed, _, counts, ran, placed ▸ rfl⟩

/-- Permits are conserved by every run of the server that only counts them. -/
theorem total_run {first last : Serving} {actions : List ServingAction}
    (ran : Runs.run Serving.step first actions = some last) : last.total = first.total := by
  have preserved : ∀ (before : Serving) (action : ServingAction) (after : Serving),
      before.total = first.total → before.step action = some after →
        after.total = first.total := by
    intro before action after total stepped
    rw [(Serving.step_conserves stepped).2, total]
  exact Runs.run_invariant preserved rfl ran

/-- The tasks that are counted are those that have not ended. -/
theorem counted_length (state : RunningServer) :
    state.counted.tasks.length =
      (state.connections.filter fun connection => connection.exit.isNone).length := by
  have each : ∀ connection : Connection, connection.task.isSome = connection.exit.isNone := by
    intro connection
    unfold Connection.task
    cases connection.exit with
    | none => cases connection.stage.isHandshake <;> rfl
    | some exit => rfl
  change (state.connections.filterMap Connection.task).length = _
  rw [List.length_filterMap_eq_countP, List.countP_eq_length_filter]
  congr 1
  exact List.filter_congr fun connection _ => each connection

/-- A created server has the permits of its configuration. -/
theorem permits_new {config : Config} {server : Server}
    (created : Server.new config = .ok server) :
    server.connectionLimit.permits = config.maxConnections.toNat := by
  unfold Server.new Semaphore.new at created
  split at created
  · obtain rfl := Except.ok.inj created
    rfl
  · contradiction

/-- A server with two permits. -/
def oneServer : Server := ⟨{ oneConfig with maxConnections := 2 }, 2, by decide⟩

/-- Two clients are accepted. The second is dropped for a failing handshake while the first is in
the middle of its header. -/
def twoClients : List ServerAction :=
  [.acquired, .accepted (.v4 (.new 127 0 0 1) 5000) oneClient, .acquired,
    .connection 0 .tlsAccepted, .accepted (.v4 (.new 127 0 0 1) 5001) oneClient,
    .connection 0 .peek, .connection 1 .tlsFailed, .connection 0 .peek,
    .connection 0 (.connect oneNetwork)]

/-- The first client of that run is relayed to its target, and the second has given back its
permit. -/
theorem run_twoClients :
    ∃ final connection, Runs.run (step oneServer.config) (start oneServer) twoClients =
        some final ∧ final.connections[0]? = some connection ∧
      final.available = 1 ∧ connection.stage.session.isSome = true := by
  have outcome : (Runs.run (step oneServer.config) (start oneServer) twoClients).map
      (fun final => (final.available, final.connections[0]?.map fun connection =>
        connection.stage.session.isSome)) = some (1, some true) := by decide +kernel
  rcases Option.map_eq_some_iff.mp outcome with ⟨final, ran, seen⟩
  rcases Prod.mk.inj seen with ⟨left, first⟩
  rcases Option.map_eq_some_iff.mp first with ⟨connection, member, proxied⟩
  exact ⟨final, connection, ran, member, left, proxied⟩

/-- Every run of the server is one of the server that only counts permits. -/
theorem run_counted {config : Config} {server : Server} {actions : List ServerAction}
    {final : RunningServer} (ran : Runs.run (step config) (start server) actions = some final) :
    ∃ performed, List.Forall₂ Counts actions performed ∧
      Runs.run Serving.step (.start server) performed.flatten = some final.counted := by
  have begins : (start server).counted = .start server := rfl
  rcases Runs.run_refines step_counts begins ran with ⟨performed, last, counts, counter, same⟩
  exact ⟨performed, counts, same ▸ counter⟩

/-- In every run the permits are conserved. -/
theorem run_permits {config : Config} {server : Server} {actions : List ServerAction}
    {final : RunningServer} (created : Server.new config = .ok server)
    (ran : Runs.run (step config) (start server) actions = some final) :
    final.available + final.counted.held +
      (final.connections.filter fun connection => connection.exit.isNone).length =
        config.maxConnections.toNat := by
  rcases run_counted ran with ⟨performed, _, counter⟩
  have conserved := total_run counter
  have initial : (Serving.start server).total = config.maxConnections.toNat := permits_new created
  rw [initial, Serving.total, counted_length] at conserved
  exact conserved

/-- Every run of the server, with all that its connections do, is a run of the server that only
counts permits: an action of the loop or an answer to a handshake is counted as its own, and every
other answer to a task as the return of `handle_connection` or not at all. So in every state that is
reached the permits that are left, the one that the loop may own, and one for every task that has
not ended are as many as are configured, and there are never more tasks than that. -/
theorem run_counts {config : Config} {server : Server} {actions : List ServerAction}
    {final : RunningServer} (created : Server.new config = .ok server)
    (ran : Runs.run (step config) (start server) actions = some final) :
    (∃ performed, List.Forall₂ Counts actions performed ∧
      Runs.run Serving.step (.start server) performed.flatten = some final.counted) ∧
    final.available + final.counted.held +
      (final.connections.filter fun connection => connection.exit.isNone).length =
        config.maxConnections.toNat ∧
    (final.connections.filter fun connection => connection.exit.isNone).length ≤
      config.maxConnections.toNat := by
  have conserved := run_permits created ran
  refine ⟨run_counted ran, conserved, ?_⟩
  omega

/-- With two permits and two accepted clients, of which one has ended, one permit is left. -/
theorem run_counts_twoClients :
    ∃ final, Runs.run (step oneServer.config) (start oneServer) twoClients = some final ∧
      final.available = 1 ∧
      final.available + final.counted.held +
        (final.connections.filter fun connection => connection.exit.isNone).length = 2 := by
  rcases run_twoClients with ⟨final, _, ran, _, left, _⟩
  have created : Server.new oneServer.config = .ok oneServer := by decide
  exact ⟨final, ran, left, (run_counts created ran).2.1⟩

/-- The connections of a server come from the accepted ones by their own actions. -/
structure Isolated (config : Config) (done : List ServerAction) (state : RunningServer) : Prop where
  accepted : state.connections.length = (done.flatMap ServerAction.accepts).length
  known : ∀ index connection, state.connections[index]? = some connection →
    ∃ peerAddr stream, (done.flatMap ServerAction.accepts)[index]? = some (peerAddr, stream) ∧
      Runs.run (Connection.step config) (.start peerAddr stream)
        (done.flatMap (ServerAction.answers index)) = some connection
  unknown : ∀ index, state.connections.length ≤ index →
    done.flatMap (ServerAction.answers index) = []

/-- An action of the loop that accepts nothing leaves the connections as they are. -/
theorem Isolated.idle {config : Config} {done : List ServerAction} {state next : RunningServer}
    {action : ServerAction} (isolated : Isolated config done state)
    (accepts : action.accepts = []) (answers : ∀ index, action.answers index = [])
    (same : next.connections = state.connections) : Isolated config (done ++ [action]) next := by
  have accepted : (done ++ [action]).flatMap ServerAction.accepts =
      done.flatMap ServerAction.accepts := by
    rw [List.flatMap_append, List.flatMap_singleton, accepts, List.append_nil]
  have answered : ∀ index, (done ++ [action]).flatMap (ServerAction.answers index) =
      done.flatMap (ServerAction.answers index) := by
    intro index
    rw [List.flatMap_append, List.flatMap_singleton, answers, List.append_nil]
  constructor
  · rw [same, accepted]
    exact isolated.accepted
  · intro index connection
    rw [same, accepted, answered]
    exact isolated.known index connection
  · intro index
    rw [same, answered]
    exact isolated.unknown index

/-- An accepted connection is at its start, and was answered nothing. -/
theorem Isolated.accept {config : Config} {done : List ServerAction}
    {state next : RunningServer} (isolated : Isolated config done state)
    (peerAddr : SocketAddr) (stream : ClientStream)
    (longer : next.connections = state.connections ++ [.start peerAddr stream]) :
    Isolated config (done ++ [.accepted peerAddr stream]) next := by
  have accepted : (done ++ [ServerAction.accepted peerAddr stream]).flatMap ServerAction.accepts =
      done.flatMap ServerAction.accepts ++ [(peerAddr, stream)] := by
    rw [List.flatMap_append, List.flatMap_singleton]
    rfl
  have answered : ∀ index, (done ++ [ServerAction.accepted peerAddr stream]).flatMap
      (ServerAction.answers index) = done.flatMap (ServerAction.answers index) := by
    intro index
    rw [List.flatMap_append, List.flatMap_singleton]
    exact List.append_nil _
  constructor
  · rw [longer, accepted, List.length_append, List.length_append, isolated.accepted]
    rfl
  · intro index connection member
    rw [longer] at member
    rw [accepted, answered]
    by_cases older : index < state.connections.length
    · rw [List.getElem?_append_left older] at member
      rw [List.getElem?_append_left (isolated.accepted ▸ older)]
      exact isolated.known index connection member
    · have bound := (List.getElem?_eq_some_iff.mp member).1
      rw [List.length_append, List.length_singleton] at bound
      obtain rfl : index = state.connections.length := by omega
      rw [List.getElem?_concat_length, Option.some.injEq] at member
      refine ⟨peerAddr, stream, ?_, ?_⟩
      · rw [isolated.accepted]
        exact List.getElem?_concat_length
      · rw [isolated.unknown _ (Nat.le_refl _), ← member]
        rfl
  · intro index later
    rw [longer, List.length_append] at later
    rw [answered]
    exact isolated.unknown index (by omega)

/-- An action of one connection leaves all others as they are. -/
theorem Isolated.turn {config : Config} {done : List ServerAction}
    {state next : RunningServer} {index : Nat} {connection later : Connection}
    {action : ConnectionAction} (isolated : Isolated config done state)
    (member : state.connections[index]? = some connection)
    (stepped : connection.step config action = some later)
    (placed : next.connections = state.connections.set index later) :
    Isolated config (done ++ [.connection index action]) next := by
  have accepted : (done ++ [ServerAction.connection index action]).flatMap ServerAction.accepts =
      done.flatMap ServerAction.accepts := by
    rw [List.flatMap_append, List.flatMap_singleton]
    exact List.append_nil _
  have answered : ∀ other, (done ++ [ServerAction.connection index action]).flatMap
      (ServerAction.answers other) = done.flatMap (ServerAction.answers other) ++
        if index = other then [action] else [] := by
    intro other
    rw [List.flatMap_append, List.flatMap_singleton]
    rfl
  have inside := (List.getElem?_eq_some_iff.mp member).1
  constructor
  · rw [placed, List.length_set, accepted]
    exact isolated.accepted
  · intro other found known
    rw [placed, List.getElem?_set] at known
    rw [accepted, answered]
    by_cases same : index = other
    · subst same
      rw [if_pos rfl, if_pos inside, Option.some.injEq] at known
      rw [if_pos rfl, ← known]
      rcases isolated.known index connection member with ⟨peerAddr, stream, first, ran⟩
      exact ⟨peerAddr, stream, first,
        Runs.run_append.mpr ⟨connection, ran, Runs.run_singleton.mpr stepped⟩⟩
    · rw [if_neg same] at known
      rw [if_neg same, List.append_nil]
      exact isolated.known other found known
  · intro other beyond
    rw [placed, List.length_set] at beyond
    have different : index ≠ other := by omega
    rw [answered, if_neg different, List.append_nil]
    exact isolated.unknown other beyond

/-- Every step of the server keeps its connections apart. -/
theorem isolated_step {config : Config} (done : List ServerAction) (state : RunningServer)
    (action : ServerAction) (next : RunningServer) (isolated : Isolated config done state)
    (stepped : state.step config action = some next) :
    Isolated config (done ++ [action]) next := by
  cases action with
  | acquired =>
    obtain ⟨taken, rfl⟩ := Runs.guarded.mp stepped
    exact isolated.idle rfl (fun _ => rfl) rfl
  | acquireFailed =>
    obtain ⟨acquiring, rfl⟩ := Runs.guarded.mp stepped
    exact isolated.idle rfl (fun _ => rfl) rfl
  | accepted peerAddr stream =>
    obtain ⟨accepting, rfl⟩ := Runs.guarded.mp stepped
    exact isolated.accept peerAddr stream rfl
  | acceptFailed =>
    obtain ⟨accepting, rfl⟩ := Runs.guarded.mp stepped
    exact isolated.idle rfl (fun _ => rfl) rfl
  | connection index action =>
    rcases Option.bind_eq_some_iff.mp stepped with ⟨connection, member, mapped⟩
    rcases Option.map_eq_some_iff.mp mapped with ⟨later, turned, rfl⟩
    exact isolated.turn member turned rfl

/-- In every run the connections of a server are kept apart. -/
theorem run_isolated {config : Config} {server : Server} {actions : List ServerAction}
    {final : RunningServer} (ran : Runs.run (step config) (start server) actions = some final) :
    Isolated config actions final := by
  have begins : Isolated config [] (start server) := by
    refine ⟨rfl, ?_, fun _ _ => rfl⟩
    intro index connection member
    simp [start] at member
  exact Runs.run_history isolated_step begins ran

/-- Connections do not influence each other. In every run of the server, a connection is where its
own actions alone leave the task of its client; and in any other run, of any server with this
configuration, a connection of the same client with the same actions is in the same state,
whatever the others do and however they all take turns. -/
theorem run_isolates {config : Config} {server : Server} {actions : List ServerAction}
    {final : RunningServer} (ran : Runs.run (step config) (start server) actions = some final)
    {index : Nat} {connection : Connection} (member : final.connections[index]? = some connection) :
    ∃ peerAddr stream, (actions.flatMap ServerAction.accepts)[index]? = some (peerAddr, stream) ∧
      Runs.run (Connection.step config) (.start peerAddr stream)
        (actions.flatMap (ServerAction.answers index)) = some connection ∧
      ∀ other otherActions otherFinal otherIndex,
        Runs.run (step config) (start other) otherActions = some otherFinal →
        (otherActions.flatMap ServerAction.accepts)[otherIndex]? = some (peerAddr, stream) →
        otherActions.flatMap (ServerAction.answers otherIndex) =
          actions.flatMap (ServerAction.answers index) →
        otherFinal.connections[otherIndex]? = some connection := by
  rcases (run_isolated ran).known index connection member with ⟨peerAddr, stream, first, own⟩
  refine ⟨peerAddr, stream, first, own, ?_⟩
  intro other otherActions otherFinal otherIndex otherRan accepted answered
  have isolated := run_isolated otherRan
  have inside := (List.getElem?_eq_some_iff.mp accepted).1
  rw [← isolated.accepted] at inside
  have present := List.getElem?_eq_getElem inside
  rcases isolated.known otherIndex _ present with ⟨_, _, again, ran'⟩
  obtain ⟨rfl, rfl⟩ := Prod.mk.inj (Option.some.inj (accepted.symm.trans again))
  rw [answered, own] at ran'
  rw [present, Option.some.inj ran']

/-- The first client of the two is where its own four actions leave it. -/
theorem run_isolates_twoClients :
    ∃ final connection, Runs.run (step oneServer.config) (start oneServer) twoClients =
        some final ∧ final.connections[0]? = some connection ∧
      ∃ peerAddr stream, twoClients.flatMap ServerAction.accepts =
          [(peerAddr, stream), (.v4 (.new 127 0 0 1) 5001, oneClient)] ∧
        Runs.run (Connection.step oneServer.config) (.start peerAddr stream)
          [.tlsAccepted, .peek, .peek, .connect oneNetwork] = some connection := by
  rcases run_twoClients with ⟨final, connection, ran, member, _⟩
  rcases run_isolates ran member with ⟨peerAddr, stream, first, own, _⟩
  have accepted : twoClients.flatMap ServerAction.accepts =
      [(.v4 (.new 127 0 0 1) 5000, oneClient), (.v4 (.new 127 0 0 1) 5001, oneClient)] := rfl
  rw [accepted] at first
  obtain ⟨rfl, rfl⟩ := Prod.mk.inj (Option.some.inj first)
  exact ⟨final, connection, ran, member, _, _, accepted, own⟩

/-- Whatever its clients do at the same time, the server serves each of them by its own bytes. A
connection that is proxied serves an authorized header at the front of what its client sends; the
fallback is sent a front of that, and only when there is no such header, and the target of the
header a front of what follows it; the client is sent a front of what came back for it; and its
task has not panicked. -/
theorem run_serves {config : Config} {server : Server} {actions : List ServerAction}
    {final : RunningServer} (ran : Runs.run (step config) (start server) actions = some final)
    {index : Nat} {connection : Connection} (member : final.connections[index]? = some connection) :
    ∃ peerAddr stream, (actions.flatMap ServerAction.accepts)[index]? = some (peerAddr, stream) ∧
      (∀ session, connection.stage.session = some session →
        ∃ header rest, Admits config.passwords stream.bytes header rest ∧
          connection.stage.Serves config peerAddr header rest) ∧
      connection.stage.toBackend <+: stream.bytes ∧
      (∀ header rest, Admits config.passwords stream.bytes header rest →
        connection.stage.toBackend = [] ∧ connection.stage.toTarget <+: rest) ∧
      ((∀ header rest, ¬ Admits config.passwords stream.bytes header rest) →
        connection.stage.toTarget = []) ∧
      connection.stage.toClient <+:
        (actions.flatMap (ServerAction.answers index)).flatMap ConnectionAction.replies ∧
      connection.exit ≠ some (.returned (.error .panic)) := by
  rcases (run_isolated ran).known index connection member with ⟨peerAddr, stream, first, own⟩
  have follows := Connection.run_follows own
  have traces := follows.traces
  refine ⟨peerAddr, stream, first, fun session proxied => traces.serves proxied,
    traces.toBackend_isPrefix, fun header rest admits => traces.serves_admitted admits,
    traces.toTarget_eq_nil, (Connection.run_answered own).toClient_isPrefix, ?_⟩
  intro panics
  exact (follows.returns _ panics).ne_panic rfl

/-- The first client of the two is proxied for the header that it sends. -/
theorem run_serves_twoClients :
    ∃ final connection, Runs.run (step oneServer.config) (start oneServer) twoClients =
        some final ∧ final.connections[0]? = some connection ∧
      ∃ peerAddr header rest, Admits oneServer.config.passwords oneClient.bytes header rest ∧
        connection.stage.Serves oneServer.config peerAddr header rest := by
  rcases run_twoClients with ⟨final, connection, ran, member, _, proxied⟩
  rcases run_serves ran member with ⟨peerAddr, stream, first, authorized, _⟩
  have accepted : twoClients.flatMap ServerAction.accepts =
      [(.v4 (.new 127 0 0 1) 5000, oneClient), (.v4 (.new 127 0 0 1) 5001, oneClient)] := rfl
  rw [accepted] at first
  obtain ⟨rfl, rfl⟩ := Prod.mk.inj (Option.some.inj first)
  rcases Option.isSome_iff_exists.mp proxied with ⟨session, known⟩
  rcases authorized session known with ⟨header, rest, admits, serves⟩
  exact ⟨final, connection, ran, member, _, header, rest, admits, serves⟩

end RunningServer

end TrojanRust
