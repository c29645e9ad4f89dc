import TrojanRust.RunningServer

/-!
# The ids of sessions

Beside the permits the connections share one counter, from which `Session::new` takes the id that
a session is logged with. In every run the ids are consecutive in the order in which the sessions
are created, whatever turns the connections take, and every connection has at most one.
-/

namespace TrojanRust

open TrojanRust.Bytes

/-- A running server with the counter of its sessions. -/
structure NumberedServer where
  server : RunningServer
  /-- `SESSION_ID`. -/
  sessionId : UInt64
  /-- The index of the connection and the id of every session, in the order of their creation. -/
  sessions : List (Nat × UInt64)

/-- The connection at an index has a session. -/
def RunningServer.hasSession (state : RunningServer) (index : Nat) : Bool :=
  state.connections[index]?.any fun connection => connection.stage.session.isSome

namespace NumberedServer

/-- The counter starts at one. -/
def start (server : Server) : NumberedServer where
  server := .start server
  sessionId := 1
  sessions := []

/-- The task of a connection has gone on. When it has created its session, that has taken the id
from the counter. -/
def goOn (index : Nat) (state : NumberedServer) (next : RunningServer) : NumberedServer :=
  if next.hasSession index ∧ ¬ state.server.hasSession index then
    { server := next
      sessionId := state.sessionId + 1
      sessions := state.sessions ++ [(index, state.sessionId)] }
  else { state with server := next }

/-- One action of the loop or of a task. -/
def step (config : Config) (state : NumberedServer) (action : ServerAction) :
    Option NumberedServer :=
  (state.server.step config action).map fun next =>
    match action with
    | .connection index _ => state.goOn index next
    | _ => { state with server := next }

end NumberedServer

/-- A task that has a session keeps one. -/
theorem Connection.step_session {config : Config} {state next : Connection}
    {action : ConnectionAction} (stepped : state.step config action = some next)
    (proxied : state.stage.session.isSome) : next.stage.session.isSome := by
  rcases step_moves stepped with ⟨_, moves⟩
  cases moves with
  | tlsAccepted current located =>
    rw [located] at proxied
    contradiction
  | tlsFailed current located => exact proxied
  | peek current peeked located =>
    rw [located] at proxied
    contradiction
  | fallbackConnect current peeked fallbackAddr answer located =>
    rw [located] at proxied
    contradiction
  | replay current written left count located some =>
    rw [located] at proxied
    contradiction
  | replayFailed current written left kind located => exact proxied
  | fallbackCopy replayed copies later action located moved =>
    rw [located] at proxied
    contradiction
  | fallbackCopied replayed copies kind result located returned => exact proxied
  | connect current target session connectTimeout network located =>
    unfold connect
    split
    · exact proxied
    · split
      · exact proxied
      · rfl
  | copy remote session copies later action located moved => rfl
  | copied remote session copies kind result located returned =>
    cases result with
    | error fault => exact proxied
    | ok counts => rfl
  | bind current session udpTimeout udpBindAddr bindSocket located =>
    unfold Connection.bind
    split
    · exact proxied
    · rfl
  | udp current later action located moved =>
    unfold associate
    split
    · rfl
    · rfl

namespace RunningServer

/-- Only its own task changes whether a connection has a session. -/
theorem step_hasSession {config : Config} {state next : RunningServer} {action : ServerAction}
    (stepped : state.step config action = some next) {index : Nat}
    (elsewhere : ∀ answer, action ≠ .connection index answer) :
    next.hasSession index = state.hasSession index := by
  cases action with
  | acquired =>
    obtain ⟨taken, rfl⟩ := Runs.guarded.mp stepped
    rfl
  | acquireFailed =>
    obtain ⟨acquiring, rfl⟩ := Runs.guarded.mp stepped
    rfl
  | accepted peerAddr stream =>
    obtain ⟨accepting, rfl⟩ := Runs.guarded.mp stepped
    unfold hasSession
    dsimp only
    by_cases known : index < state.connections.length
    · rw [List.getElem?_append_left known]
    · have beyond : state.connections[index]? = none := List.getElem?_eq_none (by omega)
      rw [beyond, List.getElem?_append_right (by omega)]
      cases index - state.connections.length with
      | zero => rfl
      | succ later => rfl
  | acceptFailed =>
    obtain ⟨accepting, rfl⟩ := Runs.guarded.mp stepped
    rfl
  | connection other answer =>
    rcases Option.bind_eq_some_iff.mp stepped with ⟨connection, member, mapped⟩
    rcases Option.map_eq_some_iff.mp mapped with ⟨later, turned, rfl⟩
    have different : other ≠ index := by
      rintro rfl
      exact elsewhere answer rfl
    unfold hasSession
    rw [place, List.getElem?_set_ne different]

/-- A connection that has a session keeps one. -/
theorem step_keepsSession {config : Config} {state next : RunningServer} {index : Nat}
    {answer : ConnectionAction} (stepped : state.step config (.connection index answer) = some next)
    (proxied : state.hasSession index) : next.hasSession index := by
  rcases Option.bind_eq_some_iff.mp stepped with ⟨connection, member, mapped⟩
  rcases Option.map_eq_some_iff.mp mapped with ⟨later, turned, rfl⟩
  have inside := (List.getElem?_eq_some_iff.mp member).1
  rw [hasSession, member] at proxied
  rw [hasSession, place, List.getElem?_set_self inside]
  exact Connection.step_session turned proxied

end RunningServer

namespace NumberedServer

/-- The ids of the sessions are consecutive, and the sessions are those of the connections that have
one, once each. -/
structure Numbered (state : NumberedServer) : Prop where
  counter : state.sessionId = .ofNat (state.sessions.length + 1)
  consecutive : state.sessions.map Prod.snd =
    (List.range state.sessions.length).map fun count => UInt64.ofNat (count + 1)
  once : (state.sessions.map Prod.fst).Nodup
  all : ∀ index, index ∈ state.sessions.map Prod.fst ↔ state.server.hasSession index

/-- As long as no session is created, they are numbered as they were. -/
theorem Numbered.keeps {state : NumberedServer} (numbered : state.Numbered) {next : RunningServer}
    (same : ∀ index, next.hasSession index = state.server.hasSession index) :
    Numbered { state with server := next } := by
  refine ⟨numbered.counter, numbered.consecutive, numbered.once, ?_⟩
  intro index
  rw [same]
  exact numbered.all index

/-- The next session takes the next id. -/
theorem Numbered.opens {state : NumberedServer} (numbered : state.Numbered) {index : Nat}
    {next : RunningServer} (opened : next.hasSession index = true)
    (fresh : ¬ state.server.hasSession index = true)
    (others : ∀ other, other ≠ index → next.hasSession other = state.server.hasSession other) :
    Numbered ⟨next, state.sessionId + 1, state.sessions ++ [(index, state.sessionId)]⟩ := by
  have absent : index ∉ state.sessions.map Prod.fst := mt (numbered.all index).mp fresh
  refine ⟨?_, ?_, ?_, ?_⟩
  · rw [numbered.counter, List.length_append, List.length_singleton,
      UInt64.ofNat_add (state.sessions.length + 1)]
    rfl
  · rw [List.map_append, numbered.consecutive, List.length_append, List.length_singleton,
      List.range_succ, List.map_append, numbered.counter]
    rfl
  · rw [List.map_append, List.nodup_append]
    refine ⟨numbered.once, List.nodup_singleton _, ?_⟩
    intro known member last here same
    rw [List.mem_singleton.mp here] at same
    rw [show known = index from same] at member
    exact absent member
  · intro other
    rw [List.map_append, List.mem_append, numbered.all]
    by_cases same : other = index
    · subst same
      simp [opened]
    · simp [others other same, same]

/-- Every step numbers the session that it creates. -/
theorem numbered_step {config : Config} (state : NumberedServer) (action : ServerAction)
    (next : NumberedServer) (numbered : state.Numbered)
    (stepped : state.step config action = some next) : next.Numbered := by
  rcases Option.map_eq_some_iff.mp stepped with ⟨server, moved, rfl⟩
  cases action with
  | connection index answer =>
    have others : ∀ other, other ≠ index →
        server.hasSession other = state.server.hasSession other := by
      intro other different
      apply RunningServer.step_hasSession moved
      intro again same
      exact different (ServerAction.connection.inj same).1.symm
    dsimp only
    unfold goOn
    split
    case isTrue created => exact numbered.opens created.1 created.2 others
    case isFalse unchanged =>
      apply numbered.keeps
      intro other
      by_cases same : other = index
      · subst same
        have kept := RunningServer.step_keepsSession moved
        apply Bool.eq_iff_iff.mpr
        constructor
        · intro opened
          exact not_not.mp fun fresh => unchanged ⟨opened, fresh⟩
        · exact kept
      · exact others other same
  | acquired =>
    exact numbered.keeps fun index => RunningServer.step_hasSession moved (by simp)
  | acquireFailed =>
    exact numbered.keeps fun index => RunningServer.step_hasSession moved (by simp)
  | accepted peerAddr stream =>
    exact numbered.keeps fun index => RunningServer.step_hasSession moved (by simp)
  | acceptFailed =>
    exact numbered.keeps fun index => RunningServer.step_hasSession moved (by simp)

/-- Numbering the sessions stops no action of the server. -/
theorem step_of_server {config : Config} (server : RunningServer) (state : NumberedServer)
    (action counterpart : ServerAction) (next : RunningServer) (same : state.server = server)
    (performed : action = counterpart) (stepped : server.step config action = some next) :
    ∃ later, state.step config counterpart = some later ∧ later.server = next := by
  subst same performed
  refine ⟨_, congrArg (Option.map _) stepped, ?_⟩
  cases action with
  | connection index answer =>
    dsimp only
    unfold goOn
    split
    · rfl
    · rfl
  | acquired => rfl
  | acquireFailed => rfl
  | accepted peerAddr stream => rfl
  | acceptFailed => rfl

/-- In every run of a server, with whatever turns its connections take, the sessions are numbered in
the order in which they are created, without a gap and each connection at most once; and no two
sessions have the same id before the counter has come round. -/
theorem run_numbers {config : Config} {server : Server} {actions : List ServerAction}
    {final : RunningServer}
    (ran : Runs.run (RunningServer.step config) (.start server) actions = some final) :
    ∃ numbered : NumberedServer,
      Runs.run (step config) (start server) actions = some numbered ∧ numbered.server = final ∧
      numbered.Numbered ∧
      (numbered.sessions.length ≤ 2 ^ 64 → (numbered.sessions.map Prod.snd).Nodup) := by
  have begins : (start server).Numbered := by
    refine ⟨rfl, rfl, List.nodup_nil, ?_⟩
    intro index
    simp [start, RunningServer.hasSession, RunningServer.start]
  have itself : List.Forall₂ (fun action counterpart => action = counterpart) actions actions :=
    List.forall₂_same.mpr fun _ _ => rfl
  have related : (start server).server = .start server := rfl
  rcases Runs.run_simulates step_of_server related itself ran with ⟨numbered, counted, same⟩
  have invariant := Runs.run_invariant numbered_step begins counted
  refine ⟨numbered, counted, same, invariant, ?_⟩
  intro fits
  rw [invariant.consecutive]
  refine List.Nodup.map_on ?_ List.nodup_range
  intro first firstKnown second secondKnown equal
  have firstBound := List.mem_range.mp firstKnown
  have secondBound := List.mem_range.mp secondKnown
  have numbers := congrArg UInt64.toNat equal
  simp only [UInt64.toNat_ofNat'] at numbers
  omega

/-- The one session of the two clients has the first id. -/
theorem run_numbers_twoClients :
    ∃ final numbered, Runs.run (RunningServer.step RunningServer.oneServer.config)
        (.start RunningServer.oneServer) RunningServer.twoClients = some final ∧
      Runs.run (step RunningServer.oneServer.config) (start RunningServer.oneServer)
        RunningServer.twoClients = some numbered ∧
      numbered.server = final ∧ numbered.sessions = [(0, 1)] ∧ numbered.Numbered := by
  rcases RunningServer.run_twoClients with ⟨final, _, ran, _⟩
  have outcome : (Runs.run (step RunningServer.oneServer.config) (start RunningServer.oneServer)
      RunningServer.twoClients).map sessions = some [(0, 1)] := by decide +kernel
  rcases run_numbers ran with ⟨numbered, counted, same, invariant, _⟩
  rw [counted, Option.map_some, Option.some.injEq] at outcome
  exact ⟨final, numbered, ran, counted, same, outcome, invariant⟩

end NumberedServer

end TrojanRust
