import TrojanRust.Authentication
import TrojanRust.Custody
import TrojanRust.Reality.DirectMode

/-!
# What is forwarded of an authenticated connection

The stream that an authenticated machine gives up starts behind the request, so forwarding it
sends the target what follows the request and nothing else. `tcp_splice` does so with the copies
of `relay` under another policy, and the policy makes no difference to a call that returns `Ok`.
-/

namespace TrojanRust

open TrojanRust.Bytes

/-- A copy that returns a number has finished. -/
theorem finished_of_copyResult {kind : ErrorKind} {lane : Lane UInt8} {count : UInt64}
    (returned : copyResult kind lane = some (.ok count)) : lane.status = .finished := by
  cases status : lane.status with
  | running => simp [copyResult, status] at returned
  | finished => rfl
  | failed => simp [copyResult, status, err] at returned

/-- Two copies return `Ok` together exactly when both have finished and the numbers of bytes are
combined to it. -/
theorem joinResults_eq_ok {γ : Type} {combine : UInt64 → UInt64 → Result γ}
    {kind : Side → ErrorKind} {state : Duplex UInt8} {value : γ} :
    joinResults combine kind state = some (.ok value) ↔
      (∀ side, (state.lane side).status = .finished) ∧
        combine (.ofNat (state.lane .left).sent.length)
          (.ofNat (state.lane .right).sent.length) = .ok value := by
  constructor
  · intro returned
    refine ⟨fun side => ?_, (joinResults_ok returned).2⟩
    simp only [joinResults, Option.bind_eq_bind, Option.bind_eq_some_iff, Option.some.injEq]
      at returned
    rcases returned with ⟨leftResult, leftReturned, rightResult, rightReturned, combined⟩
    cases leftResult with
    | error fault => contradiction
    | ok left =>
      cases rightResult with
      | error fault => contradiction
      | ok right =>
        cases side with
        | left => exact finished_of_copyResult leftReturned
        | right => exact finished_of_copyResult rightReturned
  · intro finished
    have results : ∀ side, copyResult (kind side) (state.lane side) =
        some (.ok (.ofNat (state.lane side).sent.length)) := by
      intro side
      rw [copyResult, finished.1 side, Lane.delivered_of_finished _ (finished.1 side)]
    simp only [joinResults, results]
    exact congrArg some finished.2

/-- What both sides have sent is what the actions let them send. -/
theorem run_sent {policy : CopyPolicy} {actions : List (DuplexAction UInt8)}
    {final : Duplex UInt8} (ran : Runs.run (Duplex.step policy) .start actions = some final)
    (side : Side) : (final.lane side).sent = actions.flatMap (DuplexAction.sends side) := by
  have logged : ∀ (state : Duplex UInt8) (action : DuplexAction UInt8) (next : Duplex UInt8),
      Duplex.step policy state action = some next → True →
        True ∧ (next.lane side).sent = (state.lane side).sent ++ action.sends side :=
    fun state action next stepped _ => ⟨trivial, Duplex.step_sent stepped side⟩
  have sent := (Runs.run_logs logged ran trivial).2
  exact sent

/-- Everything that these actions let the two sides send was delivered. -/
def AllDelivered (actions : List (DuplexAction UInt8)) (state : Duplex UInt8) : Prop :=
  ∀ side, (state.lane side).delivered = actions.flatMap (DuplexAction.sends side)

/-- When both copies have finished, everything was delivered. -/
theorem allDelivered_of_finished {policy : CopyPolicy} {actions : List (DuplexAction UInt8)}
    {final : Duplex UInt8} (ran : Runs.run (Duplex.step policy) .start actions = some final)
    (finished : ∀ side, (final.lane side).status = .finished) : AllDelivered actions final := by
  intro side
  rw [Lane.delivered_of_finished _ (finished side), run_sent ran]

/-- `tcp_splice` returns a number of bytes after exactly those runs of peers and copies after which
`relay` returns two numbers with that sum, and both have delivered everything then. -/
theorem tcpSplice_returns_iff_relay (profile : BuildProfile) (kind : Side → ErrorKind)
    (actions : List (DuplexAction UInt8)) (total : UInt64) :
    (∃ spliced, Runs.run (Duplex.step tcpSplice) .start actions = some spliced ∧
      tcpSpliceResult profile kind spliced = some (.ok total) ∧ AllDelivered actions spliced) ↔
    ∃ relayed upstream downstream, Runs.run (Duplex.step relay) .start actions = some relayed ∧
      relayResult kind relayed = some (.ok (upstream, downstream)) ∧
      addCounts profile upstream downstream = .ok total ∧ AllDelivered actions relayed := by
  constructor
  · intro returns
    have ⟨spliced, ran, returned, _⟩ := returns
    have ⟨finished, added⟩ := joinResults_eq_ok.mp returned
    have ⟨relayed, ran', agrees⟩ := Duplex.run_finishes tcpSplice relay ran finished
    have finished' : ∀ side, (relayed.lane side).status = .finished :=
      fun side => (agrees side).status ▸ finished side
    rw [(agrees .left).sent, (agrees .right).sent] at added
    exact ⟨relayed, _, _, ran', joinResults_eq_ok.mpr ⟨finished', rfl⟩, added,
      allDelivered_of_finished ran' finished'⟩
  · intro returns
    have ⟨relayed, upstream, downstream, ran, returned, added, _⟩ := returns
    have ⟨finished, counted⟩ := joinResults_eq_ok.mp returned
    have ⟨spliced, ran', agrees⟩ := Duplex.run_finishes relay tcpSplice ran finished
    have finished' : ∀ side, (spliced.lane side).status = .finished :=
      fun side => (agrees side).status ▸ finished side
    have counts := Prod.mk.inj (Except.ok.inj counted)
    rw [← counts.1, ← counts.2, (agrees .left).sent, (agrees .right).sent] at added
    exact ⟨spliced, ran', joinResults_eq_ok.mpr ⟨finished', added⟩,
      allDelivered_of_finished ran' finished'⟩

/-- A step under `tcp_splice` is one of its policy in which the client sends nothing more. -/
theorem stepSplice_eq_some {copies next : Duplex UInt8} {action : DuplexAction UInt8} :
    stepSplice copies action = some next ↔
      SendsNoMore action ∧ Duplex.step tcpSplice copies action = some next := by
  simp [stepSplice]

/-- What an action lets the target send. -/
def DirectAction.replies : DirectAction → List UInt8
  | .copy action => action.sends .right
  | _ => []

namespace DirectTask

/-- What has been connected to, or is being connected to. -/
def dials (task : DirectTask) : Option ConnectTarget :=
  match task.stage with
  | .entered _ _ _ => none
  | .connecting _ target => some target
  | .splicing target _ => some target

/-- What the target was sent. -/
def toTarget (task : DirectTask) : List UInt8 :=
  match task.stage with
  | .splicing _ copies => (copies.lane .left).delivered
  | _ => []

/-- What the client was sent. -/
def toClient (task : DirectTask) : List UInt8 :=
  match task.stage with
  | .splicing _ copies => (copies.lane .right).delivered
  | _ => []

/-- Where the call is after some actions, by its stream and its request. -/
inductive Proper (stream : PositionedStream) (command : Command) (address : Address)
    (done : List DirectAction) : DirectTask → Prop
  /-- Only a UDP request has returned at the entry. -/
  | entered (exit : Option (Result Unit)) (quiet : done.flatMap DirectAction.replies = [])
      (returned : ∀ result, exit = some result → command = .udpAssociate ∧
        result = err (.protocol "UDP not supported in direct mode")) :
    Proper stream command address done ⟨.entered stream command address, exit⟩
  | connecting (exit : Option (Result Unit)) (asked : command = .connect)
      (quiet : done.flatMap DirectAction.replies = []) (notOk : exit ≠ some (.ok ())) :
    Proper stream command address done ⟨.connecting stream address.connectTarget, exit⟩
  | splicing (exit : Option (Result Unit)) (copies : Duplex UInt8) (asked : command = .connect)
      (sends : (copies.lane .left).sent = stream.remaining)
      (replied : (copies.lane .right).sent = done.flatMap DirectAction.replies)
      (ok : exit = some (.ok ()) →
        ∀ side, (copies.lane side).delivered = (copies.lane side).sent) :
    Proper stream command address done ⟨.splicing address.connectTarget copies, exit⟩

/-- Every step of the call is proper. -/
theorem step_proper {stream : PositionedStream} {command : Command} {address : Address}
    {profile : BuildProfile} (done : List DirectAction) (task : DirectTask)
    (action : DirectAction) (next : DirectTask) (proper : task.Proper stream command address done)
    (stepped : task.step profile action = some next) :
    next.Proper stream command address (done ++ [action]) := by
  have running : ¬ task.exit.isSome := by
    intro returned
    unfold step at stepped
    rw [if_pos returned] at stepped
    contradiction
  unfold step at stepped
  rw [if_neg running] at stepped
  cases proper with
  | entered exit quiet returned =>
    cases action with
    | enter =>
      obtain rfl := Option.some.inj stepped
      have quiet' : (done ++ [DirectAction.enter]).flatMap DirectAction.replies = [] := by
        simp [quiet, DirectAction.replies]
      cases command with
      | connect =>
        refine .connecting exit rfl quiet' ?_
        intro ok
        exact running (by rw [ok]; rfl)
      | udpAssociate =>
        refine .entered _ quiet' fun result same => ⟨rfl, ?_⟩
        exact (Option.some.inj same).symm
    | connect answer => contradiction
    | copy action => contradiction
    | joined kind => contradiction
  | connecting exit asked quiet notOk =>
    cases action with
    | connect answer =>
      obtain rfl := Option.some.inj stepped
      have quiet' : (done ++ [DirectAction.connect answer]).flatMap DirectAction.replies = [] := by
        simp [quiet, DirectAction.replies]
      rcases answer with expired | (failed | accepted)
      · exact .connecting _ asked quiet' (by simp [err])
      · exact .connecting _ asked quiet' (by simp [err])
      · refine .splicing exit _ asked rfl quiet'.symm ?_
        intro ok
        exact absurd ok notOk
    | enter => contradiction
    | copy action => contradiction
    | joined kind => contradiction
  | splicing exit copies asked sends replied ok =>
    cases action with
    | copy action =>
      rcases Option.map_eq_some_iff.mp stepped with ⟨moved, spliced, same⟩
      subst same
      rcases stepSplice_eq_some.mp spliced with ⟨noMore, copied⟩
      refine .splicing exit moved asked ?_ ?_ ?_
      · rw [Duplex.step_sent copied, noMore.sends_left, List.append_nil, sends]
      · rw [Duplex.step_sent copied, replied, List.flatMap_append]
        simp [DirectAction.replies]
      · intro returned
        exact absurd (by rw [returned]; rfl) running
    | joined kind =>
      rcases Option.map_eq_some_iff.mp stepped with ⟨result, joined, same⟩
      subst same
      refine .splicing _ copies asked sends ?_ ?_
      · rw [replied, List.flatMap_append]
        simp [DirectAction.replies]
      · intro returned
        cases result with
        | error fault => simp [Except.map] at returned
        | ok total => exact (joinResults_ok joined).1
    | enter => contradiction
    | connect answer => contradiction

/-- So is every run of it. -/
theorem run_proper {stream : PositionedStream} {command : Command} {address : Address}
    {profile : BuildProfile} {actions : List DirectAction} {task : DirectTask}
    (ran : Runs.run (step profile) (start stream command address) actions = some task) :
    task.Proper stream command address actions := by
  have entered : (start stream command address).Proper stream command address [] :=
    .entered none rfl fun result returned => absurd returned (by simp)
  have proper := Runs.run_history step_proper entered ran
  rwa [List.nil_append] at proper

/-- The call serves a request by what follows it: it connects to the target of a connect request
and to nothing else, refuses a UDP request without connecting to anything, and sends the target a
front of what follows the request, and the client a front of what the target sent. When it returns
`Ok` the fronts are everything. -/
structure Serves (request : VisionAuthRequest) (rest : List UInt8) (done : List DirectAction)
    (task : DirectTask) : Prop where
  dials : ∀ target, task.dials = some target →
    request.command = .connect ∧ target = request.address.connectTarget
  refuses : request.command = .udpAssociate → ∀ result, task.exit = some result →
    result = err (.protocol "UDP not supported in direct mode")
  forwards : task.toTarget <+: rest ∧ task.toClient <+: done.flatMap DirectAction.replies
  completes : task.exit = some (.ok ()) →
    task.toTarget = rest ∧ task.toClient = done.flatMap DirectAction.replies

/-- A proper call serves the request that it was called for. -/
theorem Proper.serves {stream : PositionedStream} {request : VisionAuthRequest}
    {done : List DirectAction} {task : DirectTask}
    (proper : task.Proper stream request.command request.address done) :
    task.Serves request stream.remaining done := by
  cases proper with
  | entered exit quiet returned =>
    refine ⟨?_, fun _ result same => (returned result same).2,
      ⟨List.nil_prefix, List.nil_prefix⟩, ?_⟩
    · intro target dialled
      contradiction
    · intro ok
      have refused := (returned _ ok).2
      contradiction
  | connecting exit asked quiet notOk =>
    refine ⟨?_, ?_, ⟨List.nil_prefix, List.nil_prefix⟩, fun ok => absurd ok notOk⟩
    · intro target dialled
      exact ⟨asked, (Option.some.inj dialled).symm⟩
    · intro udp
      rw [asked] at udp
      contradiction
  | splicing exit copies asked sends replied ok =>
    refine ⟨?_, ?_, ⟨?_, ?_⟩, ?_⟩
    · intro target dialled
      exact ⟨asked, (Option.some.inj dialled).symm⟩
    · intro udp
      rw [asked] at udp
      contradiction
    · exact sends ▸ (copies.lane .left).delivered_isPrefix
    · exact replied ▸ (copies.lane .right).delivered_isPrefix
    · intro returned
      have everything := ok returned
      exact ⟨(everything .left).trans sends, (everything .right).trans replied⟩

end DirectTask

/-- A connection that is authenticated by a machine and forwarded with what the machine gives up is
served by the one request that was admitted: in every run of operations on the machine and of
`handle_authenticated_connection` on its stream and result, the request was accepted and
authorized by the one transition that was called, and what follows it is forwarded. -/
theorem Held.run_direct {R : Type} {sent : List UInt8} {ending : ErrorKind}
    {operations : List (MachineAction R)} {machine : ConnectionStateMachine PositionedStream}
    {stream : PositionedStream} {command : Command} {address : Address} {profile : BuildProfile}
    {actions : List DirectAction} {task : DirectTask}
    (operated : Runs.run Held.step (.owned (.new ⟨[], sent, ending⟩)) operations =
      some (.owned machine))
    (authenticated : machine.getAuthResult = some (command, address))
    (unwrapped : machine.intoStream = some stream)
    (ran : Runs.run (DirectTask.step profile) (.start stream command address) actions =
      some task) :
    ∃ env passwords request, calls operations = [(env, passwords)] ∧
      AdmittedAt sent ending env passwords request stream ∧
      task.Serves request stream.remaining actions := by
  have start : SoundHeld sent ending [] (.owned (.new ⟨[], sent, ending⟩) : Held R) :=
    .handshake none rfl
  have sound : Sound sent ending (calls operations) machine := by
    have held := Runs.run_history Held.step_sound start operated
    rwa [List.nil_append] at held
  cases sound with
  | handshake fallback uncalled => contradiction
  | authenticated fallback current request env passwords calledOnce admitted =>
    cases Option.some.inj authenticated
    cases Option.some.inj unwrapped
    exact ⟨env, passwords, request, calledOnce, admitted, (DirectTask.run_proper ran).serves⟩

/-- A request for a target, under a hash function that sums the bytes. -/
def oneRequest : List UInt8 :=
  [0xfe, 0x01, 0x01, 0x01, 0x0a, 0x00, 0x00, 0x01, 0x00, 0x50, 0x00, 0x00, 0x00, 0x00, 0x00, 0x00,
    0x00, 0x00, 0x61, 0x62] ++ List.replicate 54 0x61 ++ List.replicate 28 0x95

/-- The target accepts and answers with one byte, and both sides are copied to their end. -/
def oneForwarding : List DirectAction :=
  [.enter, .connect (some (.ok ())), .copy (.send .right [9]), .copy (.read .left 1),
    .copy (.deliver .left 1), .copy (.close .left), .copy (.finish .left), .copy (.read .right 1),
    .copy (.deliver .right 1), .copy (.close .right), .copy (.finish .right),
    .joined fun _ => .other]

/-- The byte behind the request is forwarded to the target, and its answer to the client. -/
theorem Held.run_direct_oneByte :
    ∃ (env : VisionEnv) (passwords : List String) (request : VisionAuthRequest)
      (task : DirectTask), AdmittedAt (oneRequest ++ [7]) .unexpectedEof env passwords request
        ⟨oneRequest, [7], .unexpectedEof⟩ ∧
      task.exit = some (.ok ()) ∧ task.toTarget = [7] ∧
      task.Serves request [7] oneForwarding := by
  let machine : ConnectionStateMachine PositionedStream :=
    ⟨some ⟨oneRequest, [7], .unexpectedEof⟩, .authenticated,
      some (.connect, .ipv4 (.v4 (.new 10 0 0 1) 80)), none⟩
  have operated : Runs.run Held.step (.owned (.new ⟨[], oneRequest ++ [7], .unexpectedEof⟩))
      [.authenticate ⟨fun bytes => Vector.replicate 28 bytes.sum, .release, some 0⟩ none
        ["Abaaaaaaaaaaaaaaaaaaaaaaaaaaaaaaaaaaaaaaaaaaaaaaaaaaaaaa"]] =
      some (.owned machine : Held Unit) := by decide +kernel
  have outcome : (Runs.run (DirectTask.step .release)
      (.start ⟨oneRequest, [7], .unexpectedEof⟩ .connect (.ipv4 (.v4 (.new 10 0 0 1) 80)))
      oneForwarding).map (fun task => (task.exit, task.toTarget)) =
        some (some (.ok ()), [7]) := by decide +kernel
  rcases Option.map_eq_some_iff.mp outcome with ⟨task, ran, seen⟩
  have ⟨env, passwords, request, _, admitted, serves⟩ :=
    Held.run_direct operated rfl rfl ran
  simp only [Prod.mk.injEq] at seen
  exact ⟨env, passwords, request, task, admitted, seen.1, seen.2, serves⟩

end TrojanRust
