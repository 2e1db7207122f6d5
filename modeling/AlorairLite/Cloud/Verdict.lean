import AlorairLite.Cloud.Vendor

/-! What may be concluded from the reply to a command: the vendor accepted it, refused it
explicitly, or left its delivery open. `_request_data` judges so, except for successes
other than 200. -/

namespace AlorairLite.Cloud

variable (loads : List UInt8 → Option Json)

/-- HTTP 200 with a JSON object of a bounded size whose code is this number. -/
def Coded (reply : HttpReply) (code : Int) : Prop :=
  ∃ bytes result, reply = .answered 200 (some bytes) ∧ bytes.length ≤ maxResponseBytes ∧
    loads bytes = some (.dict result) ∧ numericCode (Dict.get result "code") = some code

def Accepted (reply : HttpReply) : Prop := Coded loads reply 200

def Refused (reply : HttpReply) : Prop :=
  (∃ status body, reply = .answered status body ∧ 400 ≤ status ∧ status < 500) ∨
    ∃ code, code ≠ 200 ∧ Coded loads reply code

/-- The command is declared not executed. -/
def Definitive (result : Except AlorairError Json) : Prop :=
  ∃ error, result = .error error ∧
    (error.kind = .authentication ∨ error.kind = .command ∧ error.outcomeUnknown = false)

/-- The command may have been executed. -/
def Uncertain (result : Except AlorairError Json) : Prop :=
  ∃ error, result = .error error ∧ error.kind = .command ∧ error.outcomeUnknown = true

/-- The result says no more than the reply. -/
structure SoundVerdict (reply : HttpReply) (result : Except AlorairError Json) : Prop where
  definitive : Definitive result → Refused loads reply
  returns : ∀ data, result = .ok data → Accepted loads reply
  otherwise : ¬ Refused loads reply → ¬ Accepted loads reply → Uncertain result

/-- An informational status, or a success other than 200. -/
def irregular : HttpReply → Bool
  | .answered status _ => status < 300 && status ≠ 200
  | .failed => false

variable {loads} {reply : HttpReply} {result : Except AlorairError Json}

theorem SoundVerdict.uncertain {message : String}
    (open_ : result = .error (commandError message true)) : SoundVerdict loads reply result := by
  subst open_
  refine ⟨?_, ?_, fun _ _ => ⟨_, rfl, rfl, rfl⟩⟩
  · rintro ⟨error, same, definitive⟩
    cases same
    rcases definitive with kind | ⟨-, known⟩
    · cases kind
    · cases known
  · rintro data ⟨⟩

theorem SoundVerdict.refused (refused : Refused loads reply) {error : AlorairError}
    (failed : result = .error error) : SoundVerdict loads reply result := by
  subst failed
  refine ⟨fun _ => refused, ?_, fun denied => absurd refused denied⟩
  rintro data ⟨⟩

/-- The end of `_request_data`, on the body of a 200 response. -/
theorem acknowledged_sound {bytes : List UInt8} {parsed : Json}
    (size : bytes.length ≤ maxResponseBytes) (read : loads bytes = some parsed) :
    SoundVerdict loads (.answered 200 (some bytes)) (acknowledged true parsed) := by
  cases parsed with
  | dict entries =>
    cases coded : numericCode (Dict.get entries "code") with
    | none =>
      apply SoundVerdict.uncertain
      simp only [acknowledged, coded]
      rfl
    | some code =>
      have shown : Coded loads (.answered 200 (some bytes)) code := ⟨bytes, entries, rfl, size, read, coded⟩
      by_cases accepted : code = 200
      · subst accepted
        have returned : acknowledged true (.dict entries) = .ok (Dict.get entries "data") := by
          simp [acknowledged, coded]
        rw [returned]
        refine ⟨?_, fun _ _ => shown, fun _ denied => absurd shown denied⟩
        rintro ⟨error, impossible, -⟩
        cases impossible
      · have refused : Refused loads (.answered 200 (some bytes)) := .inr ⟨code, accepted, shown⟩
        simp only [acknowledged, coded]
        split
        · exact SoundVerdict.refused refused rfl
        · rw [if_pos (by simpa using accepted)]
          exact SoundVerdict.refused refused rfl
  | _ => exact SoundVerdict.uncertain rfl

/-- For a command, an irregular status is declared a definite refusal. -/
theorem received_irregular (odd : irregular reply) :
    Definitive (received loads true reply) ∧ ¬ Refused loads reply := by
  cases reply with
  | failed => cases odd
  | answered status body =>
    simp only [irregular, Bool.and_eq_true, decide_eq_true_eq] at odd
    obtain ⟨low, other⟩ := odd
    refine ⟨⟨commandError "The vendor returned a command HTTP error; the command was not retried."
      (500 ≤ status), ?_, .inr ⟨rfl, ?_⟩⟩, ?_⟩
    · unfold received
      dsimp only
      rw [if_neg (by omega), if_neg (by omega), if_pos other, if_pos rfl]
    · simp only [commandError, decide_eq_false_iff_not]
      omega
    · rintro (⟨status', body', same, high, -⟩ | ⟨code, -, bytes, result, same, -⟩)
      · cases same
        omega
      · cases same
        exact other rfl

theorem received_regular (regular : irregular reply = false) :
    SoundVerdict loads reply (received loads true reply) := by
  cases reply with
  | failed => exact SoundVerdict.uncertain rfl
  | answered status body =>
    simp only [irregular, Bool.and_eq_false_iff, decide_eq_false_iff_not] at regular
    unfold received
    dsimp only
    split
    · rename_i denied
      apply SoundVerdict.refused ?_ rfl
      exact .inl ⟨status, body, rfl, by omega, by omega⟩
    · split
      · exact SoundVerdict.uncertain rfl
      · split
        · rename_i other
          by_cases server : 500 ≤ status
          · apply SoundVerdict.uncertain
            rw [decide_eq_true server]
            rfl
          · apply SoundVerdict.refused ?_ rfl
            exact .inl ⟨status, body, rfl, by omega, by omega⟩
        · rename_i fine
          have success : status = 200 := not_not.mp fine
          subst success
          cases body with
          | none => exact SoundVerdict.uncertain rfl
          | some bytes =>
            dsimp only
            split
            · exact SoundVerdict.uncertain rfl
            · rename_i bounded
              split
              · rename_i parsed read
                exact acknowledged_sound (Nat.le_of_not_lt bounded) read
              · exact SoundVerdict.uncertain rfl

/-- The verdict on a command is sound exactly for the replies that are not irregular. -/
theorem command_verdict (endpoint : Endpoint) (command : endpoint.command) (loads : List UInt8 → Option Json)
    (reply : HttpReply) :
    SoundVerdict loads reply (received loads endpoint.command reply) ↔ irregular reply = false := by
  rw [command]
  constructor
  · intro sound
    apply Bool.eq_false_iff.mpr
    intro odd
    obtain ⟨definitive, unrefused⟩ := @received_irregular loads _ odd
    exact unrefused (sound.definitive definitive)
  · exact received_regular

theorem command_verdict_example :
    SoundVerdict (fun _ => none) (.answered 502 none)
      (received (fun _ => none) Endpoint.control.command (.answered 502 none)) :=
  (command_verdict .control rfl _ _).mpr rfl

/-- A command answered with 202 Accepted is declared rejected. -/
theorem accepted_status_rejected :
    ¬ ∀ (loads : List UInt8 → Option Json) (reply : HttpReply),
      SoundVerdict loads reply (received loads Endpoint.control.command reply) := by
  intro always
  have odd : irregular (.answered 202 (some [])) := rfl
  obtain ⟨definitive, unrefused⟩ := @received_irregular (fun _ => none) _ odd
  exact unrefused ((always (fun _ => none) (.answered 202 (some []))).definitive definitive)

end AlorairLite.Cloud
