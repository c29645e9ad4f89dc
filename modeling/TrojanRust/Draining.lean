import TrojanRust.Outcomes
import TrojanRust.RunningServer

/-!
# Draining the server

No task is ever stuck. Wherever a connection is, a bounded number of answers of its environment
ends its task, as each turn of the peeking loop brings it closer to the bound of what is peeked and
every other await can fail or expire. So from every state that a server reaches all its connections
can be ended without a further one, and then it has all its permits back.
-/

namespace TrojanRust

open TrojanRust.Bytes

/-- Two copies that are over return something. -/
theorem relayResult_of_over {copies : Duplex UInt8} (kind : Side → ErrorKind)
    (ended : ∀ side, copies.Over side) : ∃ result, relayResult kind copies = some result := by
  have returned : ∀ side, ∃ result, copyResult (kind side) (copies.lane side) = some result := by
    intro side
    unfold copyResult
    cases status : (copies.lane side).status with
    | running => exact absurd status (ended side)
    | finished => exact ⟨_, rfl⟩
    | failed => exact ⟨_, rfl⟩
  rcases returned .left with ⟨leftResult, left⟩
  rcases returned .right with ⟨rightResult, right⟩
  rw [relayResult, joinResults, left, right]
  exact ⟨_, rfl⟩

/-- A copy that fails ends both, so that `copy_bidirectional` can return at any time. -/
theorem copies_return (copies : Duplex UInt8) (kind : Side → ErrorKind) :
    ∃ actions final result, actions.length ≤ 1 ∧
      Runs.run stepCopies copies actions = some final ∧ relayResult kind final = some result := by
  by_cases bothOver : ∀ side, copies.Over side
  · have ⟨result, returned⟩ := relayResult_of_over kind bothOver
    exact ⟨[], copies, result, Nat.zero_le _, rfl, returned⟩
  · have ⟨side, runs⟩ := not_forall.mp bothOver
    have running : (copies.lane side).status = .running := not_not.mp runs
    have failed : stepCopies copies (.fail side) = some (copies.failCopy relay side) := by
      rw [stepCopies_eq_some]
      exact ⟨trivial, if_pos running⟩
    have ended : ∀ copy, (copies.failCopy relay side).Over copy := by
      intro copy
      change (if (copies.lane copy).status = .running then CopyStatus.failed
        else (copies.lane copy).status) ≠ .running
      split
      · intro same
        contradiction
      · assumption
    have ⟨result, returned⟩ := relayResult_of_over kind ended
    exact ⟨[.fail side], _, result, Nat.le_refl _, Runs.run_singleton.mpr failed, returned⟩

namespace Connection

/-- A running task that is in the UDP loop has not left it. -/
def Awaits (state : Connection) : Prop :=
  match state.stage with
  | .associated current => state.exit = none → current.exit = none
  | _ => True

/-- A task that has returned is in no loop. -/
theorem awaits_leave (state : Connection) (result : Result Unit) : (state.leave result).Awaits := by
  unfold Awaits
  split
  · intro runs
    contradiction
  · trivial

/-- A task that has called a handler has not got to the UDP loop. -/
theorem awaits_call (state : Connection) (result : Result Dispatch) :
    (state.call result).Awaits := by
  cases result with
  | error fault => exact awaits_leave _ _
  | ok dispatch =>
    cases dispatch with
    | dropped => exact awaits_leave _ _
    | fallback next longer fallbackAddr => trivial
    | tcp next target session connectTimeout => trivial
    | udp next session udpTimeout udpBindAddr => trivial

/-- Every step leaves a running task in the UDP loop only while the loop goes on. -/
theorem step_awaits {config : Config} (state : Connection) (action : ConnectionAction)
    (next : Connection) (_ : state.Awaits) (stepped : state.step config action = some next) :
    next.Awaits := by
  rcases step_moves stepped with ⟨runs, moves⟩
  cases moves with
  | tlsAccepted stream located => trivial
  | tlsFailed stream located =>
    rw [Awaits, located]
    trivial
  | peek stream peeked located =>
    unfold peek
    split
    · trivial
    · exact awaits_call _ _
  | fallbackConnect stream peeked fallbackAddr answer located =>
    cases answer with
    | error e => exact awaits_leave _ _
    | ok done =>
      unfold fallbackConnect
      dsimp only
      split
      · trivial
      · trivial
  | replay stream written left count located some =>
    unfold replay
    split
    · trivial
    · trivial
  | replayFailed stream written left kind located => exact awaits_leave _ _
  | fallbackCopy replayed copies later action located moved => trivial
  | fallbackCopied replayed copies kind result located returned => exact awaits_leave _ _
  | connect stream target session connectTimeout network located =>
    unfold connect
    split
    · exact awaits_leave _ _
    · split
      · exact awaits_leave _ _
      · trivial
  | copy remote session copies later action located moved => trivial
  | copied remote session copies kind result located returned =>
    cases result with
    | error fault => exact awaits_leave _ _
    | ok counts => exact awaits_leave _ _
  | bind stream session udpTimeout udpBindAddr bindSocket located =>
    unfold Connection.bind
    cases bound : UdpState.bind bindSocket session udpBindAddr stream.upcoming with
    | error fault => exact awaits_leave _ _
    | ok entered =>
      intro running
      rw [UdpState.bind_ok bound]
      rfl
  | udp current later action located moved =>
    unfold associate
    cases exits : later.exit with
    | none => exact fun _ => exits
    | some exit => exact awaits_leave _ _

/-- So does every run of the task of a client. -/
theorem run_awaits {config : Config} {peerAddr : SocketAddr} {stream : ClientStream}
    {actions : List ConnectionAction} {final : Connection}
    (ran : Runs.run (step config) (start peerAddr stream) actions = some final) :
    final.Awaits := by
  have begins : (start peerAddr stream).Awaits := trivial
  exact Runs.run_invariant step_awaits begins ran

/-- A running task can be ended by at most so many answers of its environment. -/
def CanEnd (config : Config) (answers : Nat) (state : Connection) : Prop :=
  ∃ actions final, actions.length ≤ answers ∧
    Runs.run (step config) state actions = some final ∧ final.exit.isSome

/-- A task that has ended needs no further answer. -/
theorem CanEnd.of_ended {config : Config} {state : Connection} (ended : state.exit.isSome)
    (answers : Nat) : state.CanEnd config answers :=
  ⟨[], state, Nat.zero_le _, rfl, ended⟩

/-- What can be ended after some answers can be ended before them. -/
theorem CanEnd.head {config : Config} {state next : Connection} {actions : List ConnectionAction}
    {answers total : Nat} (ran : Runs.run (step config) state actions = some next)
    (can : next.CanEnd config answers) (enough : actions.length + answers ≤ total) :
    state.CanEnd config total := by
  rcases can with ⟨later, final, bound, rest, ended⟩
  refine ⟨actions ++ later, final, ?_, Runs.run_append.mpr ⟨next, ran, rest⟩, ended⟩
  rw [List.length_append]
  omega

/-- What ends by one answer can be ended. -/
theorem CanEnd.of_step {config : Config} {state next : Connection} {action : ConnectionAction}
    (stepped : state.step config action = some next) (ended : next.exit.isSome) (answers : Nat) :
    state.CanEnd config (answers + 1) :=
  ⟨[action], next, Nat.le_add_left 1 answers, Runs.run_singleton.mpr stepped, ended⟩

/-- A network in which every connection attempt expires. -/
def expiring : TcpNetwork := { oneNetwork with expires := true }

/-- A task behind the peeking loop ends when an await fails or expires: after one copy has failed,
or at once. -/
theorem canEnd_peeked {config : Config} {state : Connection} (awaits : state.Awaits)
    (past : ∀ stream peeked, state.stage ≠ .peeking stream peeked) : state.CanEnd config 2 := by
  rcases state with ⟨peerAddr, stage, exit⟩
  cases exit with
  | some exit => exact .of_ended rfl 2
  | none =>
    cases stage with
    | handshake stream =>
      have stepped : step config ⟨peerAddr, .handshake stream, none⟩ .tlsFailed = some _ := rfl
      exact .of_step stepped rfl 1
    | peeking stream peeked => exact absurd rfl (past stream peeked)
    | fallbackConnecting stream peeked fallbackAddr =>
      have stepped : step config ⟨peerAddr, .fallbackConnecting stream peeked fallbackAddr, none⟩
          (.fallbackConnect (.error "")) = some _ := rfl
      exact .of_step stepped rfl 1
    | replaying stream written left =>
      have stepped : step config ⟨peerAddr, .replaying stream written left, none⟩
          (.replayFailed .other) = some _ := rfl
      exact .of_step stepped rfl 1
    | fallbackRelaying replayed copies =>
      have ⟨actions, final, result, few, ran, returned⟩ := copies_return copies fun _ => .other
      have stepped : step config ⟨peerAddr, .fallbackRelaying replayed final, none⟩
          (.copied fun _ => .other) = some _ := congrArg (Option.map _) returned
      have ended := CanEnd.of_step stepped rfl 0
      refine .head (run_fallbackCopies config peerAddr replayed ran) ended ?_
      rw [List.length_map]
      omega
    | connecting stream target session connectTimeout =>
      have stepped : step config
          ⟨peerAddr, .connecting stream target session connectTimeout, none⟩
          (.connect expiring) = some _ := rfl
      exact .of_step stepped rfl 1
    | relaying remote session copies =>
      have ⟨actions, final, result, few, ran, returned⟩ := copies_return copies fun _ => .other
      have stepped : step config ⟨peerAddr, .relaying remote session final, none⟩
          (.copied fun _ => .other) = some _ := congrArg (Option.map _) returned
      have ended := CanEnd.of_step stepped (by cases result <;> rfl) 0
      refine .head (run_relayCopies config peerAddr remote session ran) ended ?_
      rw [List.length_map]
      omega
    | binding stream session udpTimeout udpBindAddr =>
      have stepped : step config ⟨peerAddr, .binding stream session udpTimeout udpBindAddr, none⟩
          (.bind fun _ => .error "") = some _ := rfl
      exact .of_step stepped rfl 1
    | associated current =>
      have runs : current.exit = none := awaits rfl
      have idle : current.step .idleTimeout = some { current with exit := some .idle } := by
        rw [UdpState.step, runs]
        rfl
      have stepped : step config ⟨peerAddr, .associated current, none⟩ (.udp .idleTimeout) =
          some _ := congrArg (Option.map _) idle
      exact .of_step stepped rfl 1

/-- A task that has called a handler can be ended. -/
theorem canEnd_call (config : Config) (state : Connection) (result : Result Dispatch) :
    (state.call result).CanEnd config 2 := by
  have awaits := state.awaits_call result
  cases result with
  | error fault => exact .of_ended rfl 2
  | ok dispatch =>
    cases dispatch with
    | dropped => exact .of_ended rfl 2
    | fallback next longer fallbackAddr =>
      exact canEnd_peeked awaits fun stream peeked same => by contradiction
    | tcp next target session connectTimeout =>
      exact canEnd_peeked awaits fun stream peeked same => by contradiction
    | udp next session udpTimeout udpBindAddr =>
      exact canEnd_peeked awaits fun stream peeked same => by contradiction

/-- A task in the peeking loop can be ended after as many turns as bytes are left to peek, for
each turn that goes on has peeked one more. -/
theorem canEnd_peeking (config : Config) (peerAddr : SocketAddr) (left : Nat)
    (stream : ClientStream) (peeked : List UInt8) (bound : peekSize - peeked.length ≤ left) :
    CanEnd config (left + 3) ⟨peerAddr, .peeking stream peeked, none⟩ := by
  induction left using Nat.strong_induction_on generalizing stream peeked with
  | h left ih =>
    let state : Connection := ⟨peerAddr, .peeking stream peeked, none⟩
    have stepped : state.step config .peek = some (state.peek config stream peeked) := rfl
    have ran := Runs.run_singleton.mpr stepped
    unfold peek at ran
    cases turn : peekTurn config stream peeked with
    | ends outcome =>
      rw [turn] at ran
      have can := canEnd_call config state (outcome >>= handOver config peerAddr)
      refine .head ran can ?_
      rw [List.length_singleton]
      omega
    | goesOn next longer =>
      rw [turn] at ran
      have ⟨notFull, more⟩ := peekTurn_grows turn
      have can := ih (left - 1) (by omega) next longer (by omega)
      refine .head ran can ?_
      rw [List.length_singleton]
      omega

/-- Every task of a connection can be ended. -/
theorem Awaits.canEnd {config : Config} {state : Connection} (awaits : state.Awaits) :
    state.CanEnd config (peekSize + 3) := by
  rcases state with ⟨peerAddr, stage, exit⟩
  cases exit with
  | some exit => exact .of_ended rfl _
  | none =>
    by_cases past : ∀ stream peeked, stage ≠ .peeking stream peeked
    · have can : CanEnd config 2 ⟨peerAddr, stage, none⟩ := canEnd_peeked awaits past
      have stays : Runs.run (step config) ⟨peerAddr, stage, none⟩ [] =
          some ⟨peerAddr, stage, none⟩ := rfl
      exact .head stays can (by decide)
    · simp only [not_forall, not_not] at past
      rcases past with ⟨stream, peeked, rfl⟩
      exact canEnd_peeking config peerAddr peekSize stream peeked (Nat.sub_le _ _)

end Connection

namespace RunningServer

/-- The connections whose tasks have not ended. -/
def running (state : RunningServer) : List Connection :=
  state.connections.filter fun connection => connection.exit.isNone

/-- A task that goes on is all that changes in its server. -/
theorem place_running {state : RunningServer} {index : Nat} {part : Connection}
    (runs : part.exit = none) :
    state.place index part = { state with connections := state.connections.set index part } := by
  rw [place, runs]
  rfl

/-- A task that has not ended takes its steps in the server. -/
theorem run_connection {config : Config} {state : RunningServer} {index : Nat}
    {connection final : Connection} {actions : List ConnectionAction}
    (known : state.connections[index]? = some connection) (runs : connection.exit = none)
    (ran : Runs.run (Connection.step config) connection actions = some final) :
    Runs.run (step config) state (actions.map (.connection index)) =
      some (state.place index final) := by
  rcases List.getElem?_eq_some_iff.mp known with ⟨inside, here⟩
  have begins : state.place index connection = state := by
    rw [place_running runs, ← here, List.set_getElem_self]
  have embeds : ∀ part action next, Connection.step config part action = some next →
      step config (state.place index part) (.connection index action) =
        some (state.place index next) := by
    intro part action next stepped
    have goesOn := (Connection.step_moves stepped).1
    have found : (state.connections.set index part)[index]? = some part :=
      List.getElem?_set_self inside
    rw [place_running goesOn, step, found, Option.bind_some, stepped, Option.map_some, place,
      List.set_set]
    rfl
  have placed : Runs.run (step config) (state.place index connection)
      (actions.map (.connection index)) = some (state.place index final) :=
    Runs.run_map embeds ran
  rwa [begins] at placed

/-- When a running task ends, there is one less. -/
theorem running_place {state : RunningServer} {index : Nat} {connection final : Connection}
    (known : state.connections[index]? = some connection) (runs : connection.exit = none)
    (ended : final.exit.isSome) :
    (state.place index final).running.length + 1 = state.running.length := by
  rcases exists_split known with ⟨front, back, split, placed⟩
  have stopped : final.exit.isNone = false := by
    rw [← Option.not_isSome, ended]
    rfl
  have counts : connection.exit.isNone = true := by rw [runs]; rfl
  rw [running, running, place, placed, split]
  simp [stopped, counts, Nat.add_assoc]

/-- The task of a connection has not ended. -/
def IsRunning (state : RunningServer) (index : Nat) : Prop :=
  ∃ connection, state.connections[index]? = some connection ∧ connection.exit = none

/-- A task that has ended is not running. -/
theorem not_isRunning_place {state : RunningServer} {index : Nat} {final : Connection}
    (ended : final.exit.isSome) : ¬ (state.place index final).IsRunning index := by
  intro running
  rcases running with ⟨connection, known, runs⟩
  change (state.connections.set index final)[index]? = some connection at known
  rw [List.getElem?_set, if_pos rfl] at known
  split at known
  · rw [Option.some.inj known, runs] at ended
    contradiction
  · contradiction

/-- The end of a task has no influence on which others are running. -/
theorem IsRunning.of_place {state : RunningServer} {index other : Nat} {final : Connection}
    (running : (state.place index final).IsRunning other) (different : index ≠ other) :
    state.IsRunning other := by
  rcases running with ⟨connection, known, runs⟩
  change (state.connections.set index final)[other]? = some connection at known
  rw [List.getElem?_set_ne different] at known
  exact ⟨connection, known, runs⟩

/-- Only tasks that are running are answered. -/
def AnswersRunning (state : RunningServer) (later : List ServerAction) : Prop :=
  ∀ action ∈ later, ∃ index answer, action = .connection index answer ∧ state.IsRunning index

/-- The other tasks are not answered anything. -/
theorem AnswersRunning.answers_eq_nil {state : RunningServer} {later : List ServerAction}
    (only : state.AnswersRunning later) {index : Nat} (ended : ¬ state.IsRunning index) :
    later.flatMap (ServerAction.answers index) = [] := by
  rw [List.flatMap_eq_nil_iff]
  intro action within
  rcases only action within with ⟨other, answer, rfl, running⟩
  have different : other ≠ index := by
    intro same
    exact ended (same ▸ running)
  exact if_neg different

/-- The answers to one task are answers to it and to no other. -/
theorem answers_map_connection (index other : Nat) (actions : List ConnectionAction) :
    (actions.map (ServerAction.connection index)).flatMap (ServerAction.answers other) =
      if index = other then actions else [] := by
  rw [List.flatMap_map]
  change actions.flatMap (fun action => if index = other then [action] else []) = _
  by_cases same : index = other
  · simp [same]
  · simp [same]

/-- As long as every task can be ended by so many answers, all of them can be, one after the
other. -/
theorem drains {config : Config} {answers : Nat} (left : Nat) {state : RunningServer}
    (live : state.running.length = left)
    (can : ∀ connection ∈ state.connections, connection.CanEnd config answers) :
    ∃ later drained, Runs.run (step config) state later = some drained ∧
      state.AnswersRunning later ∧
      (∀ index, (later.flatMap (ServerAction.answers index)).length ≤ answers) ∧
      later.length ≤ answers * left ∧ drained.loop = state.loop ∧ drained.running = [] := by
  induction left generalizing state with
  | zero =>
    have none := List.length_eq_zero_iff.mp live
    exact ⟨[], state, rfl, by simp [AnswersRunning], by simp, Nat.zero_le _, rfl, none⟩
  | succ left ih =>
    have some : 0 < state.running.length := by omega
    rcases List.exists_mem_of_length_pos some with ⟨connection, live⟩
    rcases List.mem_filter.mp live with ⟨member, waits⟩
    rcases List.getElem?_of_mem member with ⟨index, known⟩
    rcases can connection member with ⟨actions, final, bound, ran, ended⟩
    have runs : connection.exit = none := Option.isNone_iff_eq_none.mp waits
    have fewer := running_place known runs ended
    have stopped : ¬ (state.place index final).IsRunning index := not_isRunning_place ended
    have others : ∀ other ∈ (state.place index final).connections,
        other.CanEnd config answers := by
      intro other there
      rcases List.mem_or_eq_of_mem_set there with before | same
      · exact can other before
      · exact same ▸ .of_ended ended answers
    rcases ih (by omega) others with ⟨later, drained, rest, only, each, few, loop, nobody⟩
    refine ⟨actions.map (.connection index) ++ later, drained,
      Runs.run_append.mpr ⟨_, run_connection known runs ran, rest⟩, ?_, ?_, ?_, loop, nobody⟩
    · intro action within
      rcases List.mem_append.mp within with here | after
      · rcases List.mem_map.mp here with ⟨answer, _, same⟩
        exact ⟨index, answer, same.symm, connection, known, runs⟩
      · rcases only action after with ⟨other, answer, same, running⟩
        have different : index ≠ other := by
          intro again
          exact stopped (again ▸ running)
        exact ⟨other, answer, same, running.of_place different⟩
    · intro other
      rw [List.flatMap_append, answers_map_connection, List.length_append]
      by_cases same : index = other
      · -- The task has ended, so all its answers are those that have ended it.
        subst same
        rw [if_pos rfl, only.answers_eq_nil stopped, List.length_nil]
        omega
      · rw [if_neg same, List.length_nil]
        have bounded := each other
        omega
    · rw [List.length_append, List.length_map, Nat.mul_succ]
      omega

/-- From every state that a server reaches it can be drained. Without a further client, by answers
to the tasks that are running alone, and with at most as many to each of them as bytes are peeked
and three more, all its tasks end. Then all permits that are configured are in the semaphore or
with the loop. -/
theorem run_drains {config : Config} {server : Server} {actions : List ServerAction}
    {final : RunningServer} (created : Server.new config = .ok server)
    (ran : Runs.run (step config) (start server) actions = some final) :
    ∃ later drained, Runs.run (step config) final later = some drained ∧
      (∀ action ∈ later, ∃ index answer, action = .connection index answer ∧
        final.IsRunning index) ∧
      (∀ index, (later.flatMap (ServerAction.answers index)).length ≤ peekSize + 3) ∧
      later.length ≤ (peekSize + 3) * final.running.length ∧ drained.running = [] ∧
      drained.loop = final.loop ∧
      drained.available + drained.counted.held = config.maxConnections.toNat := by
  have can : ∀ connection ∈ final.connections, connection.CanEnd config (peekSize + 3) := by
    intro connection member
    rcases List.getElem?_of_mem member with ⟨index, known⟩
    rcases (run_isolated ran).known index connection known with ⟨peerAddr, stream, _, own⟩
    exact (Connection.run_awaits own).canEnd
  rcases drains _ rfl can with ⟨later, drained, rest, only, each, few, loop, nobody⟩
  have permits := run_permits created (Runs.run_append.mpr ⟨final, ran, rest⟩)
  change _ + _ + drained.running.length = _ at permits
  rw [nobody] at permits
  exact ⟨later, drained, rest, only, each, few, nobody, loop, permits⟩

/-- The two permits come back after at most as many answers as one task can need, when the client
that is relayed to its target is the last. -/
theorem run_drains_twoClients :
    ∃ final later drained, Runs.run (step oneServer.config) (start oneServer) twoClients =
        some final ∧ Runs.run (step oneServer.config) final later = some drained ∧
      (later.flatMap (ServerAction.answers 0)).length ≤ peekSize + 3 ∧
      later.length ≤ (peekSize + 3) * final.running.length ∧ drained.running = [] ∧
      drained.available + drained.counted.held = 2 := by
  rcases run_twoClients with ⟨final, _, ran, _⟩
  have created : Server.new oneServer.config = .ok oneServer := by decide
  rcases run_drains created ran with ⟨later, drained, rest, _, each, few, nobody, _, permits⟩
  exact ⟨final, later, drained, ran, rest, each 0, few, nobody, permits⟩

end RunningServer

end TrojanRust
