import AlorairLite.Async.Contract

/-! The rules of the program logic for processes: one rule for each way a process is put
together. -/

namespace Async.Contract

variable {face : Interface} {Operation Result First Second Error : Type}
  {contract : Contract face Operation Result} {task : Nat}
  {origin now : Scene face Operation Result}

section Sequence

variable {post : Except Error First → Scene face Operation Result → Scene face Operation Result → Prop}

theorem wp_attempt {process : Process face Error First}
    {handler : Error → Process face Error First} :
    contract.wp task post (Process.attempt process handler) origin now ↔
      contract.wp task (fun result => contract.wp task post (Process.recover handler result)) process
        origin now := wp_bind

theorem wp_recover_error {error : Error} {handler : Error → Process face Error First} :
    contract.wp task post (Process.recover handler (.error error)) origin now ↔
      contract.wp task post (handler error) origin now := Iff.rfl

theorem wp_ensure {process : Process face Error First} {cleanup : face.State → face.State} :
    contract.wp task post (Process.ensure process cleanup) origin now ↔
      contract.wp task (fun result origin now => post result origin (now.change cleanup)) process
        origin now := wp_bind

end Sequence

variable {post : Except Error Second → Scene face Operation Result → Scene face Operation Result → Prop}

theorem wp_then {process : Process face Error First} {next : First → Process face Error Second} :
    contract.wp task post (process >>= next : Process face Error Second) origin now ↔
      contract.wp task (fun result => contract.wp task post (Process.chain next result)) process
        origin now := wp_bind

/-- A process and what follows it when it returns. -/
theorem wp_seq {process : Process face Error First} {next : First → Process face Error Second}
    {inner : Except Error First → Scene face Operation Result → Scene face Operation Result → Prop}
    (first : contract.wp task inner process origin now)
    (failed : ∀ error origin now, inner (.error error) origin now → post (.error error) origin now)
    (passed : ∀ value origin now, inner (.ok value) origin now →
      contract.wp task post (next value) origin now) :
    contract.wp task post (process >>= next : Process face Error Second) origin now := by
  apply wp_then.mpr
  apply wp_mono first
  intro result origin now ended
  cases result with
  | ok value => exact passed value origin now ended
  | error error => exact failed error origin now ended

theorem wp_chain_ok {value : First} {next : First → Process face Error Second} :
    contract.wp task post (Process.chain next (.ok value)) origin now ↔
      contract.wp task post (next value) origin now := Iff.rfl

theorem wp_get {next : face.State → Process face Error Second} :
    contract.wp task post (Process.get >>= next : Process face Error Second) origin now ↔
      contract.wp task post (next now.shared) origin now := Iff.rfl

theorem wp_modify {move : face.State → face.State} {next : Unit → Process face Error Second} :
    contract.wp task post (Process.modify move >>= next : Process face Error Second) origin now ↔
      contract.wp task post (next ()) origin (now.change move) := Iff.rfl

theorem wp_say {remark : face.Remark} {next : Unit → Process face Error Second} :
    contract.wp task post (Process.say remark >>= next : Process face Error Second) origin now ↔
      contract.wp task post (next ()) origin (now.emit (.told task remark)) := Iff.rfl

/-- Ask, and go on with the answer or raise the interrupt. -/
theorem wp_request {stop : face.Interrupt → Error} {query : face.Query}
    {post : Except Error (face.Answer query) → Scene face Operation Result →
      Scene face Operation Result → Prop}
    (yields : contract.Yields task origin (now.emit (.asked task query)))
    (answered : ∀ answer later,
      contract.Awaiting task (now.emit (.asked task query)) (some ⟨query, answer⟩) later →
      contract.delivers later task ⟨query, answer⟩ →
        post (.ok answer) later (later.emit (.delivered task ⟨query, answer⟩)))
    (stopped : ∀ reply reason later,
      contract.Awaiting task (now.emit (.asked task query)) reply later →
      contract.interrupts later task reason →
        post (.error (stop reason)) later (later.emit (.interrupted task reason))) :
    contract.wp task post (Process.request stop query) origin now :=
  ⟨yields, answered, stopped⟩

/-- Wait for the shared state, without a suspension when it is ready. -/
theorem wp_awaitReady {stop : face.Interrupt → Error} {ready : face.State → Bool}
    {abandon : face.State → face.State}
    {post : Except Error Unit → Scene face Operation Result → Scene face Operation Result → Prop}
    (passed : ready now.shared → post (.ok ()) origin now)
    (yields : ¬ ready now.shared → contract.Yields task origin now)
    (granted : ∀ later, contract.Awaiting task now none later → ready later.shared →
      post (.ok ()) later (later.emit (.granted task)))
    (stopped : ∀ reason later, contract.Awaiting task now none later →
      contract.interrupts later task reason →
        post (.error (stop reason)) later ((later.emit (.interrupted task reason)).change abandon)) :
    contract.wp task post (Process.awaitReady stop ready abandon) origin now :=
  ⟨passed, fun busy => ⟨yields busy, granted, stopped⟩⟩

end Async.Contract
