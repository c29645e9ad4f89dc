import TrojanRust.Bytes.Frames
import TrojanRust.Codec.VisionIntegrity
import TrojanRust.Reality.StateMachine

/-!
# No forwarding without authentication

A machine that the caller holds has read nothing, or has read exactly one accepted request from
the front of its stream in the one transition it was given to. This is kept by every operation,
in whatever order they are called, because a failed transition gives no machine back.
-/

namespace TrojanRust

open TrojanRust.Bytes

/-- A read that succeeds moves what it took of the stream behind the position. -/
theorem PositionedStream.read_ok {α : Type} {reader : StreamReader α}
    {stream next : PositionedStream} {value : α} (read : stream.read reader = (.ok value, next)) :
    reader.run stream.ending stream.remaining = (.ok value, next.remaining) ∧
      next.ending = stream.ending ∧
      next.consumed ++ next.remaining = stream.consumed ++ stream.remaining := by
  have suffix := Reader.run_rest_suffix stream.ending reader stream.remaining
  cases outcome : reader.run stream.ending stream.remaining with
  | mk result rest =>
    rw [outcome] at suffix
    dsimp only at suffix
    obtain ⟨taken, split⟩ := suffix
    simp only [PositionedStream.read, outcome, Prod.mk.injEq] at read
    obtain ⟨rfl, rfl⟩ := read
    have size : stream.remaining.length - rest.length = taken.length := by
      rw [← split, List.length_append]
      omega
    refine ⟨rfl, rfl, ?_⟩
    dsimp only
    rw [size, ← split, List.take_left' rfl, List.append_assoc]

/-- The hash of a request is a password, up to the case of ASCII letters. -/
def VisionAuthRequest.Authorized (request : VisionAuthRequest) (passwords : List String) : Prop :=
  ∃ candidate ∈ passwords,
    (asBytes candidate).map toAsciiLowercase = request.passwordHash.toList.map toAsciiLowercase

/-- A request is accepted with its command and address when it is authorized. -/
theorem VisionProtocol.accept_ok {passwords : List String} {request : VisionAuthRequest}
    {authResult : Command × Address} (accepted : accept passwords request = .ok authResult) :
    authResult = (request.command, request.address) ∧ request.Authorized passwords := by
  unfold accept at accepted
  cases decoded : fromUtf8 request.passwordHash.toList with
  | none => simp [decoded, err] at accepted
  | some passwordHash =>
    rw [decoded] at accepted
    have digits := (fromUtf8_eq_some _ _).mp decoded
    obtain ⟨known, same⟩ := check_eq_ok.mp accepted
    rw [not_not, List.any_eq_true] at known
    obtain ⟨candidate, member, equal⟩ := known
    have lower : (asBytes candidate).map toAsciiLowercase =
        (asBytes passwordHash).map toAsciiLowercase := by simpa [eqIgnoreAsciiCase] using equal
    refine ⟨(Except.ok.inj same).symm, candidate, member, ?_⟩
    rw [lower, digits]

/-- The client stream is positioned right after one request that was accepted from its front and
that is authorized. -/
structure AdmittedAt (sent : List UInt8) (ending : ErrorKind) (env : VisionEnv)
    (passwords : List String) (request : VisionAuthRequest) (stream : PositionedStream) :
    Prop where
  ends : stream.ending = ending
  kept : stream.consumed ++ stream.remaining = sent
  accepted : (VisionAuthRequest.readFrom env).run ending sent = (.ok request, stream.remaining)
  authorized : request.Authorized passwords

/-- The calls of `transition_to_authenticating`, with the environment and the passwords that each
is given. -/
def calls {R : Type} (actions : List (MachineAction R)) : List (VisionEnv × List String) :=
  actions.filterMap fun
    | .authenticate env _ passwords => some (env, passwords)
    | _ => none

/-- A machine that has its stream and is in one of two conditions: no transition was called, it
is in the handshake, has no result and has consumed nothing; or one was called, it is
authenticated, and its result is that of the request that the transition consumed. -/
inductive Sound (sent : List UInt8) (ending : ErrorKind)
    (called : List (VisionEnv × List String)) : ConnectionStateMachine PositionedStream → Prop
  | handshake (fallback : Option Address) (uncalled : called = []) :
    Sound sent ending called ⟨some ⟨[], sent, ending⟩, .handshake, none, fallback⟩
  | authenticated (fallback : Option Address) (stream : PositionedStream)
      (request : VisionAuthRequest) (env : VisionEnv) (passwords : List String)
      (calledOnce : called = [(env, passwords)])
      (admitted : AdmittedAt sent ending env passwords request stream) :
    Sound sent ending called
      ⟨some stream, .authenticated, some (request.command, request.address), fallback⟩

/-- What the caller holds after these operations is a sound machine, or comes from one. -/
def SoundHeld {R : Type} (sent : List UInt8) (ending : ErrorKind)
    (done : List (MachineAction R)) : Held R → Prop
  | .owned machine => Sound sent ending (calls done) machine
  | .unwrapped stream =>
    ∃ machine, Sound sent ending (calls done) machine ∧ stream = machine.stream
  | .forwarding stream _ => ∃ env passwords request, calls done = [(env, passwords)] ∧
    AdmittedAt sent ending env passwords request stream
  | .dropped _ => True

variable {R : Type} {sent : List UInt8} {ending : ErrorKind}

/-- Authenticating a stream that nothing was read of admits the request that it reads. -/
theorem VisionProtocol.authenticate_ok {env : VisionEnv} {timeout : Option Nat}
    {passwords : List String} {authResult : Command × Address} {next : PositionedStream}
    (authenticated : authenticate env timeout passwords ⟨[], sent, ending⟩ =
      (.ok authResult, next)) :
    ∃ request, authResult = (request.command, request.address) ∧
      AdmittedAt sent ending env passwords request next := by
  cases timeout with
  | some count => simp [authenticate, err] at authenticated
  | none =>
    cases outcome : (PositionedStream.mk [] sent ending).read (VisionAuthRequest.readFrom env) with
    | mk result stream =>
      simp only [authenticate, outcome, Prod.mk.injEq] at authenticated
      obtain ⟨accepted, rfl⟩ := authenticated
      cases result with
      | error fault => contradiction
      | ok request =>
        rw [ok_bind] at accepted
        obtain ⟨same, authorized⟩ := accept_ok accepted
        obtain ⟨ran, ends, kept⟩ := PositionedStream.read_ok outcome
        exact ⟨request, same,
          { ends := ends, kept := kept, accepted := ran, authorized := authorized }⟩

/-- A transition that gives a machine back was called on a machine in the handshake, and admits
the request that it consumes. -/
theorem Sound.transition {called : List (VisionEnv × List String)}
    {machine next : ConnectionStateMachine PositionedStream}
    (sound : Sound sent ending called machine)
    {env : VisionEnv} {timeout : Option Nat} {passwords : List String}
    (passed : machine.transitionToAuthenticating env timeout passwords = .ok next) :
    Sound sent ending (called ++ [(env, passwords)]) next := by
  cases sound with
  | handshake fallback uncalled =>
    simp only [ConnectionStateMachine.transitionToAuthenticating, ne_eq, not_true_eq_false,
      ↓reduceIte] at passed
    cases outcome : VisionProtocol.authenticate env timeout passwords ⟨[], sent, ending⟩ with
    | mk result stream =>
      rw [outcome] at passed
      cases result with
      | error fault => cases fault <;> contradiction
      | ok authResult =>
        obtain ⟨request, rfl, admitted⟩ := VisionProtocol.authenticate_ok outcome
        obtain rfl := Except.ok.inj passed
        exact .authenticated fallback stream request env passwords (by rw [uncalled]; rfl) admitted
  | authenticated fallback stream request env passwords calledOnce admitted =>
    simp [ConnectionStateMachine.transitionToAuthenticating] at passed

/-- A transition to forwarding that gets past the check of the state gives up the stream right
after the admitted request. -/
theorem Sound.forward {called : List (VisionEnv × List String)}
    {machine : ConnectionStateMachine PositionedStream} (sound : Sound sent ending called machine)
    {connect : ConnectTarget → Option (Except ErrorKind R)} {targetAddress : Address}
    (checked : machine.transitionToForwarding connect targetAddress ≠
      err (.protocol "Cannot forward without authentication")) :
    ∃ env passwords request stream, called = [(env, passwords)] ∧
      AdmittedAt sent ending env passwords request stream ∧
      machine.stream = some stream ∧ machine.authResult = some (request.command, request.address) ∧
      ∀ taken remote, machine.transitionToForwarding connect targetAddress = .ok (taken, remote) →
        taken = stream := by
  cases sound with
  | handshake fallback uncalled => simp [ConnectionStateMachine.transitionToForwarding] at checked
  | authenticated fallback stream request env passwords calledOnce admitted =>
    refine ⟨env, passwords, request, stream, calledOnce, admitted, rfl, rfl, ?_⟩
    intro taken remote forwarded
    simp only [ConnectionStateMachine.transitionToForwarding, ne_eq, not_true_eq_false,
      ↓reduceIte] at forwarded
    cases outcome : connect targetAddress.connectTarget with
    | none => simp [outcome, err] at forwarded
    | some answer =>
      cases answer with
      | error kind => simp [outcome, err] at forwarded
      | ok connected =>
        rw [outcome] at forwarded
        exact (Prod.mk.inj (Except.ok.inj forwarded)).1.symm

/-- Setting a fallback address keeps a machine sound. -/
theorem Sound.setFallback {called : List (VisionEnv × List String)}
    {machine : ConnectionStateMachine PositionedStream} (sound : Sound sent ending called machine)
    (address : Address) : Sound sent ending called (machine.setFallback address) := by
  cases sound with
  | handshake fallback uncalled => exact .handshake (some address) uncalled
  | authenticated fallback stream request env passwords calledOnce admitted =>
    exact .authenticated (some address) stream request env passwords calledOnce admitted

/-- Every operation keeps what the caller holds sound. -/
theorem Held.step_sound (done : List (MachineAction R)) (held : Held R)
    (action : MachineAction R) (next : Held R) (sound : SoundHeld sent ending done held)
    (stepped : held.step action = some next) : SoundHeld sent ending (done ++ [action]) next := by
  cases held with
  | unwrapped stream => cases action <;> contradiction
  | forwarding stream remote => cases action <;> contradiction
  | dropped fault => cases action <;> contradiction
  | owned machine =>
    cases action with
    | setFallback address =>
      have called : calls (done ++ [.setFallback address]) = calls done := by simp [calls]
      obtain rfl := Option.some.inj stepped
      have kept := Sound.setFallback sound address
      rwa [← called] at kept
    | getAuthResult =>
      have called : calls (done ++ [.getAuthResult]) = calls done := by simp [calls]
      obtain rfl := Option.some.inj stepped
      rwa [SoundHeld, ← called] at sound
    | authenticate env timeout passwords =>
      have called : calls (done ++ [.authenticate env timeout passwords]) =
          calls done ++ [(env, passwords)] := by simp [calls]
      simp only [step] at stepped
      cases outcome : machine.transitionToAuthenticating env timeout passwords with
      | ok passed =>
        rw [outcome] at stepped
        obtain rfl := Option.some.inj stepped
        rw [SoundHeld, called]
        exact Sound.transition sound outcome
      | error failed =>
        rw [outcome] at stepped
        obtain rfl := Option.some.inj stepped
        trivial
    | intoStream =>
      have called : calls (done ++ [.intoStream]) = calls done := by simp [calls]
      obtain rfl := Option.some.inj stepped
      refine ⟨machine, ?_, rfl⟩
      rw [called]
      exact sound
    | forward connect targetAddress =>
      have called : calls (done ++ [.forward connect targetAddress]) = calls done := by
        simp [calls]
      simp only [step] at stepped
      cases outcome : machine.transitionToForwarding connect targetAddress with
      | error fault =>
        rw [outcome] at stepped
        obtain rfl := Option.some.inj stepped
        trivial
      | ok pair =>
        obtain ⟨taken, remote⟩ := pair
        rw [outcome] at stepped
        obtain rfl := Option.some.inj stepped
        have checked : machine.transitionToForwarding connect targetAddress ≠
            err (.protocol "Cannot forward without authentication") := by
          rw [outcome]
          simp [err]
        obtain ⟨env, passwords, request, stream, calledOnce, admitted, _, _, same⟩ :=
          Sound.forward sound checked
        obtain rfl := same taken remote outcome
        rw [← called] at calledOnce
        exact ⟨env, passwords, request, calledOnce, admitted⟩

/-- A machine that a transition was called on refuses another one. -/
theorem Sound.refuses {called : List (VisionEnv × List String)}
    {machine : ConnectionStateMachine PositionedStream} (sound : Sound sent ending called machine)
    (again : called ≠ []) (env : VisionEnv) (timeout : Option Nat) (passwords : List String) :
    machine.transitionToAuthenticating env timeout passwords =
      .error (.err (.protocol "Invalid state transition"), machine) := by
  cases sound with
  | handshake fallback uncalled => exact absurd uncalled again
  | authenticated fallback stream request known list calledOnce admitted => rfl

/-- For every client stream and every sequence of operations on a fresh machine: a machine that
the caller holds is sound, refuses a second transition to authenticating, and gets past the check
of the state in a transition to forwarding only after a request was admitted. The stream that
forwarding gives starts right after that request, and so does the one that the machine is
unwrapped to, unless nothing was read of it. -/
theorem Held.run_sound (sent : List UInt8) (ending : ErrorKind) (actions : List (MachineAction R))
    (held : Held R) (ran : Runs.run Held.step (.owned (.new ⟨[], sent, ending⟩)) actions =
      some held) :
    (∀ machine, held = .owned machine →
      Sound sent ending (calls actions) machine ∧
      (calls actions ≠ [] → ∀ env timeout passwords,
        machine.transitionToAuthenticating env timeout passwords =
          .error (.err (.protocol "Invalid state transition"), machine)) ∧
      ∀ (connect : ConnectTarget → Option (Except ErrorKind R)) (targetAddress : Address),
        machine.transitionToForwarding connect targetAddress ≠
          err (.protocol "Cannot forward without authentication") →
        ∃ env passwords request stream, calls actions = [(env, passwords)] ∧
          AdmittedAt sent ending env passwords request stream ∧
          machine.stream = some stream ∧
          machine.authResult = some (request.command, request.address) ∧
          ∀ taken remote,
            machine.transitionToForwarding connect targetAddress = .ok (taken, remote) →
              taken = stream) ∧
    (∀ stream remote, held = .forwarding stream remote →
      ∃ env passwords request, calls actions = [(env, passwords)] ∧
        AdmittedAt sent ending env passwords request stream) ∧
    ∀ stream, held = .unwrapped stream →
      ∃ machine, Sound sent ending (calls actions) machine ∧ stream = machine.stream := by
  have start : SoundHeld sent ending [] (.owned (.new ⟨[], sent, ending⟩) : Held R) :=
    .handshake none rfl
  have sound := Runs.run_history Held.step_sound start ran
  rw [List.nil_append] at sound
  refine ⟨?_, ?_, ?_⟩
  · rintro machine rfl
    refine ⟨sound, Sound.refuses sound, ?_⟩
    intro connect targetAddress checked
    exact Sound.forward sound checked
  · rintro stream remote rfl
    exact sound
  · rintro stream rfl
    exact sound

/-- A request with a known password, under a hash function that sums the bytes, is followed by
the byte with which the forwarded stream starts. -/
theorem Held.run_sound_forwarding :
    ∃ env passwords request, AdmittedAt
      ([0xfe, 0x01, 0x01, 0x01, 0x0a, 0x00, 0x00, 0x01, 0x00, 0x50, 0x00, 0x00, 0x00, 0x00, 0x00,
        0x00, 0x00, 0x00, 0x61, 0x62] ++ List.replicate 54 0x61 ++ List.replicate 28 0x95 ++ [7])
      .unexpectedEof env passwords request
      ⟨[0xfe, 0x01, 0x01, 0x01, 0x0a, 0x00, 0x00, 0x01, 0x00, 0x50, 0x00, 0x00, 0x00, 0x00, 0x00,
        0x00, 0x00, 0x00, 0x61, 0x62] ++ List.replicate 54 0x61 ++ List.replicate 28 0x95, [7],
        .unexpectedEof⟩ := by
  have forwarded := (Held.run_sound
    ([0xfe, 0x01, 0x01, 0x01, 0x0a, 0x00, 0x00, 0x01, 0x00, 0x50, 0x00, 0x00, 0x00, 0x00, 0x00,
      0x00, 0x00, 0x00, 0x61, 0x62] ++ List.replicate 54 0x61 ++ List.replicate 28 0x95 ++ [7])
    .unexpectedEof
    [.setFallback (.domain "a.b" 80),
      .authenticate ⟨fun bytes => Vector.replicate 28 bytes.sum, .release, some 0⟩ none
        ["Abaaaaaaaaaaaaaaaaaaaaaaaaaaaaaaaaaaaaaaaaaaaaaaaaaaaaaa"],
      .forward (fun _ => some (.ok ())) (.ipv4 (.v4 (.new 10 0 0 1) 80))]
    (.forwarding ⟨[0xfe, 0x01, 0x01, 0x01, 0x0a, 0x00, 0x00, 0x01, 0x00, 0x50, 0x00, 0x00, 0x00,
      0x00, 0x00, 0x00, 0x00, 0x00, 0x61, 0x62] ++ List.replicate 54 0x61 ++
        List.replicate 28 0x95, [7], .unexpectedEof⟩ ()) (by decide +kernel)).2.1 _ _ rfl
  obtain ⟨env, passwords, request, _, admitted⟩ := forwarded
  exact ⟨env, passwords, request, admitted⟩

end TrojanRust
