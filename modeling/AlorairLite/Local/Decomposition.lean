import AlorairLite.Local.Shape

/-! Every step of the transport is a path of effects. This is the only place where
the control flow of the coroutines is taken apart. -/

namespace AlorairLite.Local

open State Relation.ReflTransGen

variable {config : Config} {overflow : Prop} {s : State} {sid : Nat}

theorem Effect.path {after : State} (effect : Effect config overflow s after) :
    Effects config overflow s after := single effect

theorem State.failPending_frame (s : State) (sid : Nat) :
    (s.failPending sid).session = s.session ∧ (s.failPending sid).spawned = s.spawned ∧
      (s.failPending sid).sessions = s.sessions ∧
      (s.failPending sid).sessionCounter = s.sessionCounter := by
  rcases s.failPending_cases sid with same | ⟨c, pending, error, -, -, -, -, same⟩
  · simp [same]
  · simp [same, State.setFuture]

theorem State.release_frame (s : State) (sid : Nat) :
    (s.release sid).session ≠ some sid ∧ (s.release sid).spawned = s.spawned ∧
      (s.release sid).sessions = s.sessions ∧
      (s.release sid).sessionCounter = s.sessionCounter := by
  simp only [State.release]
  split
  · simp
  · rename_i other
    exact ⟨other, rfl, rfl, rfl⟩

theorem setReason_effects (reason : DisconnectReason) :
    Effects config overflow s (s.setReason sid reason) :=
  (Effect.note sid (s.sessions sid).eof (s.sessions sid).readError reason
    (s.sessions sid).cancelling).path

theorem release_effects (left : s.closing ∨ (s.sessions sid).readAt = .closing) :
    Effects config overflow s (s.release sid) := by
  by_cases current : s.session = some sid
  · exact (Effect.release current left).path
  · rw [State.release, if_neg current]

/-- The way out of the `try` block of `_read_session`. -/
theorem endRead_effects (reason : Option DisconnectReason) (known : s.knows sid)
    (begun : .reader sid ∉ s.spawned) : Effects config overflow s (s.endRead sid reason) := by
  have leave : ∀ noted : State, noted.knows sid → .reader sid ∉ noted.spawned →
      Effects config overflow noted
        ((((noted.setReadAt sid .closing).release sid).failPending sid).closeWriter sid) := by
    intro noted known begun
    have left : Effect config overflow noted (noted.setReadAt sid .closing) := .readAt begun .leave
    have phase : ((noted.setReadAt sid .closing).sessions sid).readAt = .closing := by
      simp [State.setReadAt]
    obtain ⟨gone, -, sessions, counter⟩ := (noted.setReadAt sid .closing).release_frame sid
    obtain ⟨-, -, -, counter'⟩ := ((noted.setReadAt sid .closing).release sid).failPending_frame sid
    have released := left.path.trans (release_effects (.inr phase))
    refine (released.tail (.fail gone ?_)).tail (.closeWriter ?_)
    · rw [sessions]
      exact phase
    · rw [State.knows, counter', counter]
      exact known
  have closed : ∀ noted : State, noted.knows sid → .reader sid ∉ noted.spawned →
      Effects config overflow noted
        (let noted := if noted.closing then noted.setReason sid .clientClosed else noted
         (((noted.setReadAt sid .closing).release sid).failPending sid).closeWriter sid) := by
    intro noted known begun
    by_cases closing : noted.closing
    · simp only [closing, ↓reduceIte]
      exact (setReason_effects _).trans (leave _ known begun)
    · simp only [closing, Bool.false_eq_true, ↓reduceIte]
      exact leave _ known begun
  cases reason with
  | none => exact closed s known begun
  | some reason => exact (setReason_effects reason).trans (closed _ known begun)

/-- Back at the head of the reader's loop. -/
theorem continueRead_effects (known : s.knows sid) (begun : .reader sid ∉ s.spawned)
    (fresh : (s.sessions sid).frames = [])
    (origin : (s.sessions sid).readAt = .created ∨ (s.sessions sid).readAt = .handling) :
    Effects config overflow s (s.continueRead sid) := by
  by_cases closing : s.closing
  · simp only [State.continueRead, closing, ↓reduceIte]
    exact endRead_effects none known begun
  · simp only [State.continueRead, closing, Bool.false_eq_true, ↓reduceIte]
    exact (Effect.readAt begun (.read fresh (by simpa using closing) origin)).path

theorem failCallback_effects (entry : Callback) (shape : Shape s) :
    Effects config overflow s (s.failCallback entry) := by
  by_cases current : entry.isDisconnect = false ∧ s.session = some entry.session
  · rw [State.failCallback, if_pos current]
    exact (setReason_effects .callbackError).tail
      (.closeWriter (shape.current entry.session current.2))
  · rw [State.failCallback, if_neg current]

theorem enqueueCallback_effects (entry : Callback) (shape : Shape s)
    (origin : entry.follows s.log) : Effects config overflow s (s.enqueueCallback config entry) := by
  have discarded : Effects config overflow s s.discardQueuedStatuses := Effect.discardQueued.path
  by_cases unwanted : (if entry.isDisconnect then config.onDisconnect else config.onStatus) = false
  · rw [State.enqueueCallback, if_pos unwanted]
  rw [State.enqueueCallback, if_neg unwanted]
  by_cases room : s.callbacks.length < callbackQueueSize
  · rw [if_pos room]
    exact (Effect.put entry room origin).path
  rw [if_neg room]
  cases kind : entry.isDisconnect with
  | true =>
    refine discarded.tail (.put entry ?_ ?_)
    · simp only [State.discardQueuedStatuses, List.length_drop]
      unfold callbackQueueSize
      omega
    · intro status notice
      simp [Callback.isDisconnect, notice] at kind
  | false =>
    have dropped := discarded.tail (.drop entry)
    exact dropped.trans (failCallback_effects entry (Effects.shape dropped shape))

/-- A callback leaves the reader of every session where it is. -/
theorem State.enqueueCallback_frame (config : Config) (s : State) (entry : Callback) (sid : Nat) :
    ((s.enqueueCallback config entry).sessions sid).readAt = (s.sessions sid).readAt ∧
      ((s.enqueueCallback config entry).sessions sid).frames = (s.sessions sid).frames ∧
      (s.enqueueCallback config entry).sessionCounter = s.sessionCounter := by
  by_cases unwanted : (if entry.isDisconnect then config.onDisconnect else config.onStatus) = false
  · rw [State.enqueueCallback, if_pos unwanted]
    exact ⟨rfl, rfl, rfl⟩
  rw [State.enqueueCallback, if_neg unwanted]
  by_cases room : s.callbacks.length < callbackQueueSize
  · rw [if_pos room]
    exact ⟨rfl, rfl, rfl⟩
  rw [if_neg room]
  cases entry.isDisconnect with
  | true => exact ⟨rfl, rfl, rfl⟩
  | false =>
    simp only [Bool.false_eq_true, ↓reduceIte, State.failCallback]
    split
    · by_cases equal : sid = entry.session
      · subst equal
        simp [State.closeWriter, State.discardQueuedStatuses]
      · simp [State.closeWriter, State.discardQueuedStatuses, equal]
    · exact ⟨rfl, rfl, rfl⟩

theorem State.confirm_frame (s : State) (sid : Nat) (frame : Frame) (offset : Nat)
    (status : DeviceStatus) :
    (s.confirm sid frame offset status).sessions = s.sessions ∧
      (s.confirm sid frame offset status).sessionCounter = s.sessionCounter := by
  rcases s.confirm_cases sid frame offset status with
    same | ⟨c, pending, -, -, -, -, -, -, -, -, same⟩
  · simp [same]
  · simp [same, State.setFuture]

theorem State.confirm_log (s : State) (sid : Nat) (raw : Bytes) (frame : Frame)
    (rest : List (Bytes × Frame)) (offset : Nat) (status : DeviceStatus) :
    (({ s.takeFrame sid raw frame rest (some status) with status := some status } : State).confirm
      sid frame offset status).log = s.log ++ [.frame sid raw frame (some status)] := by
  rcases State.confirm_cases _ sid frame offset status with
    same | ⟨c, pending, -, -, -, -, -, -, -, -, same⟩
  · rw [same]
    rfl
  · rw [same]
    rfl

theorem State.handleReport_frame (config : Config) (s : State) (sid : Nat) (raw : Bytes)
    (frame : Frame) (rest : List (Bytes × Frame)) (decoded : ObservedStatus) :
    ((s.handleReport config sid raw frame rest decoded).sessions sid).readAt =
        (s.sessions sid).readAt ∧
      ((s.handleReport config sid raw frame rest decoded).sessions sid).frames = rest ∧
      (s.handleReport config sid raw frame rest decoded).sessionCounter = s.sessionCounter := by
  simp only [State.handleReport]
  generalize stored : { s.takeFrame sid raw frame rest
    (some (s.deviceStatus sid frame decoded)) with
      status := some (s.deviceStatus sid frame decoded) } = middle
  obtain ⟨sessions, counter⟩ := middle.confirm_frame sid frame (s.sessions sid).offset
    (s.deviceStatus sid frame decoded)
  obtain ⟨phase, remaining, counter'⟩ := State.enqueueCallback_frame config
    (middle.confirm sid frame (s.sessions sid).offset (s.deviceStatus sid frame decoded))
    ⟨sid, .status (s.deviceStatus sid frame decoded)⟩ sid
  rw [phase, remaining, counter', sessions, counter, ← stored]
  simp [State.takeFrame]

theorem Shape.begun (shape : Shape s) (started : (s.sessions sid).readAt ≠ .created) :
    .reader sid ∉ s.spawned := fun member => started (shape.spawnedReader sid member).2

/-- The loop over the frames of a chunk. -/
theorem handleFrames_effects {frames : List (Bytes × Frame)} (shape : Shape s)
    (known : s.knows sid) (handling : (s.sessions sid).readAt = .handling)
    (waiting : (s.sessions sid).frames = frames) :
    Effects config overflow s (handleFrames config sid frames s) := by
  induction frames generalizing s with
  | nil => exact continueRead_effects known (shape.begun (by simp [handling])) waiting (.inr handling)
  | cons head rest ih =>
    obtain ⟨raw, frame⟩ := head
    have taken : Effects config overflow s (s.takeFrame sid raw frame rest none) :=
      (Effect.skip known handling waiting).path
    have begun : .reader sid ∉ (s.takeFrame sid raw frame rest none).spawned :=
      shape.begun (by simp [handling])
    have still : ((s.takeFrame sid raw frame rest none).sessions sid).readAt = .handling := by
      simp [State.takeFrame, handling]
    simp only [handleFrames]
    split
    · exact taken.tail (.readAt begun (.answer still (by simp [State.takeFrame])))
    split
    · rename_i isReport
      split
      · exact taken.trans (endRead_effects _ known begun)
      · rename_i decoded decodes
        have reported : Effects config overflow s (s.handleReport config sid raw frame rest decoded) := by
          have stored : Effects config overflow s _ :=
            (Effect.report known handling waiting isReport decodes rfl).path
          refine stored.trans (enqueueCallback_effects _ (Effects.shape stored shape) ?_)
          rintro status ⟨⟩
          exact ⟨s.log, raw, frame, State.confirm_log ..⟩
        obtain ⟨phase, remaining, counter⟩ := s.handleReport_frame config sid raw frame rest decoded
        refine reported.trans (ih (Effects.shape reported shape) ?_ (phase.trans handling) remaining)
        simpa [State.knows, counter] using known
    · exact taken.trans (ih (Effects.shape taken shape) known still (by simp [State.takeFrame]))

theorem readChunk_effects (shape : Shape s) (known : s.knows sid)
    (reading : (s.sessions sid).readAt = .reading) :
    Effects config overflow s (s.readChunk config sid) := by
  have begun : .reader sid ∉ s.spawned := shape.begun (by simp [reading])
  simp only [State.readChunk]
  split
  · split
    · exact endRead_effects _ known begun
    · exact endRead_effects _ known begun
  · rename_i nonempty
    split
    · exact endRead_effects _ known begun
    · rename_i frames parser fed
      have received : Effects config overflow s
          (s.receiveChunk sid ((s.sessions sid).buffer.take readBytes) frames parser) :=
        (Effect.chunk known reading rfl nonempty fed).path
      exact received.trans (handleFrames_effects (Effects.shape received shape) known
        (by simp [State.receiveChunk]) (by simp [State.receiveChunk]))

theorem answerHeartbeat_effects (shape : Shape s) (known : s.knows sid)
    (phase : (s.sessions sid).readAt = .heartbeatLock) :
    Effects config overflow s (s.answerHeartbeat config sid) := by
  have begun : .reader sid ∉ s.spawned := shape.begun (by simp [phase])
  simp only [State.answerHeartbeat]
  split
  · exact endRead_effects _ known begun
  · exact endRead_effects _ known begun
  · exact refl
  · rename_i after sent
    exact (Effect.reply phase sent).path

theorem cancelRead_effects (known : s.knows sid) (begun : .reader sid ∉ s.spawned) :
    Effects config overflow s (s.cancelRead sid) := by
  have noted : Effects config overflow s
      (s.setSession sid { s.sessions sid with cancelling := false }) :=
    (Effect.note sid (s.sessions sid).eof (s.sessions sid).readError (s.sessions sid).reason
      false).path
  exact noted.trans (endRead_effects _ known begun)

theorem resumeReader_effects {after : State} {signal : Signal} (shape : Shape s)
    (known : s.knows sid) (taken : s.resumeReader config sid signal = some after) :
    Effects config overflow s after := by
  have unlocked : Effects config overflow s { s with sendLock := none } := Effect.unlock.path
  cases phase : (s.sessions sid).readAt with
  | created => simp [State.resumeReader, phase] at taken
  | handling => simp [State.resumeReader, phase] at taken
  | done => simp [State.resumeReader, phase] at taken
  | reading =>
    have begun : .reader sid ∉ s.spawned := shape.begun (by simp [phase])
    simp only [State.resumeReader, phase] at taken
    split at taken
    · cases taken
      exact cancelRead_effects known begun
    split at taken
    · split at taken
      · cases taken
      · cases taken
        exact readChunk_effects shape known phase
    · cases taken
      exact endRead_effects _ known begun
    · split at taken
      · cases taken
        exact endRead_effects _ known begun
      · cases taken
  | heartbeatLock =>
    have begun : .reader sid ∉ s.spawned := shape.begun (by simp [phase])
    simp only [State.resumeReader, phase] at taken
    split at taken
    · cases taken
      exact cancelRead_effects known begun
    split at taken
    · cases taken
      exact answerHeartbeat_effects shape known phase
    · cases taken
  | heartbeatDrain =>
    have begun : .reader sid ∉ s.spawned := shape.begun (by simp [phase])
    simp only [State.resumeReader, phase] at taken
    split at taken
    · cases taken
      exact unlocked.trans (cancelRead_effects known begun)
    split at taken
    · cases taken
      have resumed : Effects config overflow s ({ s with sendLock := none }.setReadAt sid .handling) :=
        unlocked.tail (.readAt begun (.resume phase))
      exact resumed.trans (handleFrames_effects (Effects.shape resumed shape) known
        (by simp [State.setReadAt]) (by simp [State.setReadAt]))
    · cases taken
      exact unlocked.trans (endRead_effects _ known begun)
    · cases taken
      exact unlocked.trans (endRead_effects _ known begun)
  | closing =>
    have begun : .reader sid ∉ s.spawned := shape.begun (by simp [phase])
    have finished : Effects config overflow s (s.setReadAt sid .done) :=
      (Effect.readAt begun (.finish phase)).path
    simp only [State.resumeReader, phase] at taken
    split at taken
    · cases taken
      exact finished
    · cases taken
      exact finished.trans (enqueueCallback_effects _ (Effects.shape finished shape) (by rintro _ ⟨⟩))

/-- A command ends in the phase it is suspended in. -/
theorem settle_effects {c : Nat} {outcome : Outcome} (how : Settles overflow s c outcome) :
    Effects config overflow s (s.settle c outcome) := (Effect.settle how).path

theorem beginCommand_effects {c : Nat} (phase : (s.calls c).execute = .commandLock)
    (unasked : (s.calls c).cancelling = false) (free : s.commandLock = none) :
    Effects config overflow s (s.beginCommand config c) := by
  simp only [State.beginCommand]
  split
  · rename_i error refused
    have same : { s with commandLock := some c }.settle c (.raised error) =
        s.settle c (.raised error) := by
      simp [State.settle, free]
    rw [same]
    exact settle_effects (.refused (State.requireFreshStatus_error refused) unasked (.inl phase))
  · rename_i found accepted
    obtain ⟨current, -, wanted, -⟩ := State.requireFreshStatus_ok accepted
    obtain rfl := wanted _ rfl
    exact (Effect.register phase free current).path

theorem sendCommand_effects {c : Nat} (shape : Shape s) (phase : (s.calls c).execute = .sendLock)
    (unasked : (s.calls c).cancelling = false) :
    Effects config (¬ s.tokenFits) s (s.sendCommand config c) := by
  simp only [State.sendCommand]
  split
  · rename_i error raised
    rcases State.sendTurn_raised raised with unsent | ⟨text, rfl, unencoded⟩
    · exact settle_effects (.refused unsent unasked (.inr phase))
    · refine settle_effects (.unencodable (fun fits => ?_) phase unasked)
      obtain ⟨byte, short⟩ := shape.commandFits c
      obtain ⟨raw, encoded⟩ := State.outbound_encodes config byte short fits
      rw [encoded] at unencoded
      cases unencoded
  · exact (Effect.move (by rw [phase]; exact .pause)).path
  · rename_i after sent
    exact (Effect.transmit phase sent).path

theorem resumeExecute_effects {after : State} {c : Nat} {signal : Signal} (shape : Shape s)
    (taken : s.resumeExecute config c signal = some after) :
    Effects config (¬ s.tokenFits) s after := by
  have cancelled : (s.calls c).execute.timed → (s.calls c).cancelling →
      Effects config (¬ s.tokenFits) s (s.settle c (cancelOutcome (s.calls c))) :=
    fun phase asked => settle_effects (.cancelled phase asked)
  have expired : (s.calls c).execute.timed → (s.calls c).cancelling = false →
      Effects config (¬ s.tokenFits) s (s.settle c (timeoutOutcome (s.calls c))) :=
    fun phase unasked => settle_effects (.expired phase unasked)
  cases phase : (s.calls c).execute with
  | created => simp [State.resumeExecute, phase] at taken
  | done outcome => simp [State.resumeExecute, phase] at taken
  | commandLock =>
    have timed : (s.calls c).execute.timed := by rw [phase]; rfl
    simp only [State.resumeExecute, phase] at taken
    split at taken
    · rename_i asked
      cases taken
      exact cancelled timed asked
    rename_i unasked
    simp only [Bool.not_eq_true] at unasked
    split at taken
    · split at taken
      · rename_i free
        cases taken
        exact beginCommand_effects phase unasked free
      · cases taken
    · cases taken
      exact expired timed unasked
    · cases taken
  | sendLock =>
    have timed : (s.calls c).execute.timed := by rw [phase]; rfl
    simp only [State.resumeExecute, phase] at taken
    split at taken
    · rename_i asked
      cases taken
      exact cancelled timed asked
    rename_i unasked
    simp only [Bool.not_eq_true] at unasked
    split at taken
    · split at taken
      · cases taken
        exact sendCommand_effects shape phase unasked
      · cases taken
    · cases taken
      exact expired timed unasked
    · cases taken
  | pacing =>
    have timed : (s.calls c).execute.timed := by rw [phase]; rfl
    simp only [State.resumeExecute, phase] at taken
    split at taken
    · rename_i asked
      cases taken
      exact cancelled timed asked
    rename_i unasked
    simp only [Bool.not_eq_true] at unasked
    split at taken
    · cases taken
      exact (Effect.move (by rw [phase]; exact .retry)).path
    · cases taken
      exact expired timed unasked
    · cases taken
  | draining =>
    have timed : (s.calls c).execute.timed := by rw [phase]; rfl
    have unlocked : Effects config (¬ s.tokenFits) s { s with sendLock := none } :=
      Effect.unlock.path
    simp only [State.resumeExecute, phase] at taken
    split at taken
    · rename_i asked
      cases taken
      exact unlocked.tail (.settle (.cancelled timed asked))
    rename_i unasked
    simp only [Bool.not_eq_true] at unasked
    split at taken
    · cases taken
      exact unlocked.tail (.move (by rw [phase]; exact .drained))
    · cases taken
      exact unlocked.tail (.settle (.expired timed unasked))
    · cases taken
      exact unlocked.tail (.settle (.expired timed unasked))
  | acknowledgement =>
    have timed : (s.calls c).execute.timed := by rw [phase]; rfl
    simp only [State.resumeExecute, phase] at taken
    split at taken
    · rename_i asked
      cases taken
      exact cancelled timed asked
    rename_i unasked
    simp only [Bool.not_eq_true] at unasked
    split at taken
    · split at taken
      · cases taken
      · rename_i pending recorded
        obtain ⟨outcome, done, rfl⟩ := Option.map_eq_some_iff.mp taken
        exact settle_effects (.answered unasked phase recorded done)
    · cases taken
      exact expired timed unasked
    · cases taken

theorem call_effects (request : Request) : Effects config overflow s (s.call config request) := by
  simp only [State.call]
  split
  · rename_i text unparsed
    exact (Effect.refuse (.inl ⟨text, unparsed, rfl⟩)).path
  rename_i command parsed
  split
  · rename_i error refused
    exact (Effect.refuse (.inr ⟨⟨command, parsed⟩, State.requireFreshStatus_error refused⟩)).path
  · rename_i found accepted
    obtain ⟨current, connected, -, -⟩ := State.requireFreshStatus_ok accepted
    exact (Effect.call parsed current connected).path

theorem cancelTask_effects {c : Nat}
    (cause : .callerCancelled c ∈ s.log ∨ (s.calls c).execute ≠ .created) :
    Effects config overflow s (s.cancelTask c) := by
  simp only [State.cancelTask]
  split
  · exact refl
  · rename_i live
    exact (Effect.cancel (fun outcome equal => live outcome equal) cause).path

theorem cancelCaller_effects {after : State} {c : Nat} (taken : s.cancelCaller c = some after) :
    Effects config overflow s after := by
  have told : .callerCancelled c ∈ (s.emit (.callerCancelled c)).log := by simp
  simp only [State.cancelCaller] at taken
  split at taken
  · cases taken
  · rename_i done waiting
    cases taken
    have noted : Effects config overflow s (s.emit (.callerCancelled c)) :=
      (Effect.interrupt waiting).path
    exact noted.tail (.finish waiting done (.inr ⟨rfl, .inr told⟩))
  · rename_i waiting live
    cases taken
    have noted : Effects config overflow s (s.emit (.callerCancelled c)) :=
      (Effect.interrupt (by simp [waiting])).path
    refine (noted.trans (cancelTask_effects (.inl told))).tail (.drain ?_ ?_)
    · simp only [State.cancelTask]
      split <;> simp [waiting]
    · simp only [State.cancelTask]
      split <;> simp
  · rename_i draining live
    cases taken
    exact (Effect.interrupt (by simp [draining])).path

theorem resumeCaller_effects {after : State} {c : Nat} (taken : s.resumeCaller c = some after) :
    Effects config overflow s after := by
  simp only [State.resumeCaller] at taken
  split at taken
  · rename_i outcome waiting done
    cases taken
    exact (Effect.finish (by simp [waiting]) done (.inl ⟨waiting, rfl⟩)).path
  · rename_i outcome draining done
    cases taken
    exact (Effect.finish (by simp [draining]) done (.inr ⟨rfl, .inl draining⟩)).path
  · cases taken

/-- A loop over a list whose body is a path of effects. -/
theorem foldl_effects {Item : Type} {items : List Item} {body : State → Item → State}
    (keeps : State → Prop) (held : keeps s)
    (each : ∀ state, keeps state → ∀ item ∈ items,
      Effects config overflow state (body state item) ∧ keeps (body state item)) :
    Effects config overflow s (items.foldl body s) ∧ keeps (items.foldl body s) := by
  induction items generalizing s with
  | nil => exact ⟨refl, held⟩
  | cons item rest ih =>
    obtain ⟨first, kept⟩ := each s held item (List.mem_cons_self ..)
    obtain ⟨later, final⟩ := ih kept fun state holds other member =>
      each state holds other (List.mem_cons_of_mem _ member)
    exact ⟨first.trans later, final⟩

theorem State.liveReaders_known {sid : Nat} (member : sid ∈ s.liveReaders) : s.knows sid := by
  have bounds := List.mem_range'.mp (List.mem_filter.mp member).1
  exact State.knows_iff.mpr (by omega)

theorem closeWriters_effects (config : Config) (overflow : Prop) (s : State) :
    Effects config overflow s (s.liveReaders.foldl State.closeWriter s) ∧
      (s.liveReaders.foldl State.closeWriter s).cleanup = s.cleanup := by
  have closed : Effects config overflow s (s.liveReaders.foldl State.closeWriter s) ∧
      (s.liveReaders.foldl State.closeWriter s).sessionCounter = s.sessionCounter ∧
      (s.liveReaders.foldl State.closeWriter s).cleanup = s.cleanup :=
    foldl_effects
      (fun state => state.sessionCounter = s.sessionCounter ∧ state.cleanup = s.cleanup) ⟨rfl, rfl⟩
      fun state kept sid member => by
        have known : state.knows sid := by
          simpa [State.knows, kept.1] using State.liveReaders_known member
        exact ⟨(Effect.closeWriter known).path, kept⟩
  exact ⟨closed.1, closed.2.2⟩

/-- Once the cleanup runs, every command it cancels is past its first step. -/
theorem cancelTasks_effects (shape : Shape s) (begun : s.cleanup ≠ .idle) :
    Effects config overflow s s.cancelTasks := by
  have readers : Effects config overflow s (s.liveReaders.foldl State.cancelReader s) ∧
      (s.liveReaders.foldl State.cancelReader s).cleanup = s.cleanup :=
    foldl_effects (fun state => state.cleanup = s.cleanup) rfl fun state kept sid _ =>
      ⟨(Effect.note sid (state.sessions sid).eof (state.sessions sid).readError
        (state.sessions sid).reason true).path, kept⟩
  have each : ∀ state : State, Shape state ∧ state.cleanup ≠ .idle → ∀ c ∈ s.liveCalls,
      Effects config overflow state (state.cancelTask c) ∧
        Shape (state.cancelTask c) ∧ (state.cancelTask c).cleanup ≠ .idle := by
    rintro state ⟨shaped, running⟩ c -
    have started : (state.calls c).execute ≠ .created := fun created =>
      shaped.cleanupBegun running c (shaped.createdCommand c created)
    have path : Effects config overflow state (state.cancelTask c) :=
      cancelTask_effects (.inr started)
    refine ⟨path, Effects.shape path shaped, ?_⟩
    simp only [State.cancelTask]
    split <;> exact running
  exact readers.1.trans (foldl_effects (fun state => Shape state ∧ state.cleanup ≠ .idle)
    ⟨Effects.shape readers.1 shape, by rw [readers.2]; exact begun⟩ each).1

theorem beginCleanup_effects (shape : Shape { s with cleanup := .gathering }) :
    Effects config overflow { s with cleanup := .gathering } s.beginCleanup := by
  have closed := closeWriters_effects config overflow { s with cleanup := .gathering }
  exact closed.1.trans
    (cancelTasks_effects (Effects.shape closed.1 shape) (by rw [closed.2]; simp))

theorem finishCleanup_effects (shape : Shape s) (gathering : s.cleanup = .gathering) :
    Effects config overflow s s.finishCleanup := by
  have finished : Effects config overflow s { s with cleanup := .finished } :=
    (Effect.finishCleanup gathering).path
  obtain ⟨writers, cleanup⟩ := closeWriters_effects config overflow { s with cleanup := .finished }
  have aborted := finished.trans writers
  have closing := (Effects.shape aborted shape).cleanupClosing (.inr (by rw [cleanup]; simp))
  simp only [State.finishCleanup]
  split
  · exact (aborted.tail (.forget closing)).tail .discardQueued
  · rename_i sid current
    have released : Effects config overflow s (State.release _ sid) :=
      aborted.trans (release_effects (.inl closing))
    refine (released.tail (.forget ?_)).tail .discardQueued
    rw [State.release, if_pos current]
    exact closing

/-- The oldest created task leaves the queue before anything else happens. -/
theorem startTask_pops (config : Config) (overflow : Prop) {s after : State} (shape : Shape s)
    (taken : s.startTask = some after) :
    ∃ task middle, s.spawned = task :: middle.spawned ∧ Effect config overflow s middle ∧
      Effects config overflow middle after := by
  simp only [State.startTask] at taken
  split at taken
  · cases taken
  · rename_i sid rest next
    cases taken
    obtain ⟨known, created⟩ := shape.spawnedReader sid (by simp [next])
    refine ⟨_, { s with spawned := rest }, next, .popReader next, ?_⟩
    have begun : .reader sid ∉ rest := by
      have once := shape.spawnedOnce
      rw [next, List.nodup_cons] at once
      exact once.1
    by_cases asked : (s.sessions sid).cancelling
    · rw [if_pos asked]
      have skipped : Effect config overflow { s with spawned := rest }
          (State.setReadAt { s with spawned := rest } sid .done) := .readAt begun (.skip created asked)
      exact skipped.path
    · rw [if_neg asked]
      exact continueRead_effects known begun (shape.createdReader sid created) (.inl created)
  · rename_i c rest next
    cases taken
    by_cases asked : (s.calls c).cancelling
    · rw [if_pos asked]
      exact ⟨_, _, next, .skipCommand next asked, refl⟩
    · rw [if_neg asked]
      exact ⟨_, _, next, .popCommand next, refl⟩
  · rename_i rest next
    cases taken
    have popped : Effect config overflow s { s with spawned := rest, cleanup := .gathering } :=
      .popCleanup next
    refine ⟨_, _, next, popped, ?_⟩
    have shaped := popped.shape shape
    exact beginCleanup_effects (s := { s with spawned := rest }) shaped

theorem startTask_effects {after : State} (shape : Shape s) (taken : s.startTask = some after) :
    Effects config overflow s after := by
  obtain ⟨task, middle, -, popped, later⟩ := startTask_pops config overflow shape taken
  exact later.head popped

/-- Every step of the transport is a path of effects. -/
theorem step_effects {after : State} {label : Label} (shape : Shape s) (epoch : 0 ≤ s.wall)
    (taken : step config s label = some after) : Effects config (¬ s.tokenFits) s after := by
  cases label with
  | tick elapsed =>
    simp only [step] at taken
    split at taken
    · rename_i forward
      cases taken
      exact (Effect.clock (by simpa using forward) epoch).path
    · cases taken
  | setWall wall =>
    simp only [step] at taken
    split at taken
    · rename_i epoch
      cases taken
      exact (Effect.clock le_rfl epoch).path
    · cases taken
  | accept peer =>
    cases taken
    cases peer with
    | none => exact refl
    | some address =>
      by_cases refused : s.closing ∨ address ≠ config.allowedClient ∨ s.session ≠ none
      · rw [State.accept, if_pos refused]
      · rw [State.accept, if_neg refused]
        simp only [not_or, Decidable.not_not, Bool.not_eq_true] at refused
        obtain ⟨opened, rfl, free⟩ := refused
        exact (Effect.accept opened free).path
  | feed sid bytes =>
    simp only [step] at taken
    split at taken
    · rename_i accepted
      cases taken
      exact (Effect.feed accepted.1 accepted.2.1).path
    · cases taken
  | feedEof sid =>
    simp only [step] at taken
    split at taken
    · cases taken
      exact (Effect.note sid true (s.sessions sid).readError (s.sessions sid).reason
        (s.sessions sid).cancelling).path
    · cases taken
  | lose sid failed =>
    simp only [step] at taken
    split at taken
    · rename_i known
      cases taken
      have noted : Effects config (¬ s.tokenFits) s _ :=
        (Effect.note sid ((s.sessions sid).eof || !failed) ((s.sessions sid).readError || failed)
          (s.sessions sid).reason (s.sessions sid).cancelling).path
      exact noted.tail (.closeWriter known)
    · cases taken
  | start => exact startTask_effects shape taken
  | reader sid signal =>
    simp only [step] at taken
    split at taken
    · rename_i known
      exact resumeReader_effects shape known taken
    · cases taken
  | execute c signal =>
    simp only [step] at taken
    split at taken
    · exact resumeExecute_effects shape taken
    · cases taken
  | call request =>
    cases taken
    exact call_effects request
  | cancelCaller c =>
    simp only [step] at taken
    split at taken
    · exact cancelCaller_effects taken
    · cases taken
  | resumeCaller c =>
    simp only [step] at taken
    split at taken
    · exact resumeCaller_effects taken
    · cases taken
  | close =>
    simp only [step, State.close] at taken
    split at taken
    · cases taken
    · rename_i opened
      cases taken
      exact (Effect.close (by simpa using opened)).path
  | recancel =>
    simp only [step] at taken
    split at taken
    · rename_i gathering
      cases taken
      exact cancelTasks_effects shape (by simp [gathering])
    · cases taken
  | finishCleanup =>
    simp only [step] at taken
    split at taken
    · rename_i gathering
      cases taken
      exact finishCleanup_effects shape gathering
    · cases taken
  | stopDispatcher =>
    simp only [step] at taken
    split at taken
    · cases taken
      exact Effect.stop.path
    · cases taken
  | dispatch =>
    simp only [step, State.dispatch] at taken
    split at taken
    · cases taken
    rename_i entry rest next
    split at taken
    · cases taken
    · rename_i ready
      cases taken
      exact (Effect.dispatch next (by simpa using fun busy => ready (.inl busy))).path
  | finishCallback failed =>
    simp only [step, State.finishCallback] at taken
    split at taken
    · cases taken
    rename_i entry running
    have idle : Effects config (¬ s.tokenFits) s { s with dispatching := none } := Effect.idle.path
    cases failed with
    | true =>
      cases taken
      exact idle.trans (failCallback_effects entry (Effects.shape idle shape))
    | false =>
      cases taken
      exact idle

end AlorairLite.Local
