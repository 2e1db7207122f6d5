import AlorairLite.Cloud.Ownership

/-! With which token a command is sent. A poll that has to log in again takes the token away
from everybody; only the second request of a rename can meet this moment. -/

namespace AlorairLite.Cloud

open Async

/-- A command carries the token of the attempt to log in that ended last, and none goes on. -/
def Authenticated (past : ClientLog) : ClientEvent → Prop
  | .asked _ (.http endpoint token _) => endpoint.command →
    ∃ session owner, token = some session ∧ phase past = .closed (.succeeded session owner)
  | _ => True

variable {library : Library} {account : Account} {machine : ClientMachine}

theorem Orderly.authenticated {loads : List UInt8 → Option Json} {scene : ClientScene}
    (orderly : Orderly True loads scene) : Every Authenticated scene.log := by
  refine orderly.history.imp ?_
  intro past event judged
  cases event with
  | asked task query =>
    cases query with
    | encrypt => trivial
    | http endpoint token payload =>
      intro command
      have sent : Sent True past task (.http endpoint token payload) := judged
      rw [Sent, if_pos command] at sent
      obtain ⟨current, present, -⟩ := sent
      obtain ⟨session, rfl⟩ := Option.isSome_iff_exists.mp (present trivial)
      obtain ⟨owner, turn⟩ := Phase.succeeded current
      exact ⟨session, owner, rfl, turn⟩
  | _ => trivial

/-- Every command is authenticated if no rename learns that its first request was
acknowledged while the token is away. -/
theorem commands_authenticated
    (run : Run (client library account) (Bearing library) machine) :
    Every Authenticated machine.scene.log :=
  (run_orderly (fun _ _ bears _ => bears) run).authenticated

/-- No command is answered while the token is away. -/
def bearing (machine : ClientMachine) : Step clientFace ClientOperation → Bool
  | .resume task =>
    match (machine.tasks task).bind Task.answer with
    | some ⟨.http endpoint _ _, _⟩ => !endpoint.command || machine.scene.shared.token.isSome
    | _ => true
  | _ => true

theorem bearing_spec {label : Step clientFace ClientOperation} (bears : bearing machine label) :
    Bearing library machine label := by
  cases label with
  | resume task =>
    intro held reply found given confirms
    obtain ⟨query, answer⟩ := reply
    cases query with
    | encrypt => cases confirms
    | http endpoint token payload =>
      obtain ⟨relabels, -⟩ := confirms
      obtain ⟨_, _, same⟩ := renames_control relabels
      cases same
      simpa [bearing, found, given, Endpoint.command] using bears
  | _ => trivial

/-- The second request of the rename is sent. -/
theorem commands_authenticated_example : ∃ machine past,
    (client exampleVendor exampleAccount).follow exampleClient
        (exampleRename ++ exampleReply 0 .control (some "t") (some renamePayload) doneBody) = some machine ∧
      machine.scene.log = past ++ [.asked 0 (.http .updateName (some "t")
        (some [("id", .int 5), ("name", .text "den")]))] ∧
      ∃ owner, phase past = .closed (.succeeded "t" owner) := by
  have shown : ((((client exampleVendor exampleAccount).checked bearing).follow exampleClient
      (exampleRename ++ exampleReply 0 .control (some "t") (some renamePayload) doneBody)).map fun machine =>
        machine.scene.log.getLast?.any (asks 0 (.http .updateName (some "t")
          (some [("id", .int 5), ("name", .text "den")])))) = some true := by decide +kernel
  obtain ⟨machine, followed, last⟩ := Option.map_eq_some_iff.mp shown
  obtain ⟨past, log⟩ := asked_last last
  have bears : ∀ machine label, bearing machine label → Bearing exampleVendor machine label :=
    fun _ _ => bearing_spec
  obtain ⟨run, taken⟩ := exampleClient_run.of_checked bears followed
  obtain ⟨session, owner, same, turn⟩ := commands_authenticated run past _ [] log rfl
  cases same
  exact ⟨machine, past, taken, log, owner, turn⟩

/-- A poll is rejected and begins to log in again before the rename learns that its first
request was acknowledged. -/
def overtakenRename : List (Step clientFace ClientOperation) :=
  exampleRename ++ [.start (.status "aabbccddee0f")] ++
    exampleReply 1 (.deviceDetail "5") (some "t") none expiredBody ++
    exampleReply 0 .control (some "t") (some renamePayload) doneBody

/-- The second request of the rename is sent without a token. -/
theorem rename_loses_token : ¬ ∀ library account machine, Reachable (client library account) machine →
    Every Authenticated machine.scene.log := by
  have shown : (((client exampleVendor exampleAccount).follow exampleClient overtakenRename).map
      fun machine => machine.scene.log.getLast?.any (asks 0 (.http .updateName none
        (some [("id", .int 5), ("name", .text "den")])))) = some true := by decide +kernel
  obtain ⟨machine, followed, last⟩ := Option.map_eq_some_iff.mp shown
  obtain ⟨past, log⟩ := asked_last last
  intro always
  have run : Reachable (client exampleVendor exampleAccount) machine :=
    exampleClient_run.follow (fun _ _ => trivial) followed
  obtain ⟨session, owner, impossible, -⟩ := always _ _ machine run past _ [] log rfl
  cases impossible

end AlorairLite.Cloud
