import RemoteInput.Proofs.Console.Progress

/-!
# Interrupted acts

Only a sleep that is cut short interrupts a command, and a sleep is cut short
only if the console is stopped.  `StopsOn` says of an act that answers of a
certain kind leave a stopped console; the kind of interest is the interruption.
-/

namespace RemoteInput

namespace Console

variable {σ : Type}

/-- An act that gives an answer of a kind leaves a stopped console. -/
def StopsOn {α : Type} (kind : α → Prop) (act : Act σ α) : Prop :=
  ∀ console, kind (act.run console).1 → (act.run console).2.isStopped = true

theorem stopsOn_pure {α : Type} {kind : α → Prop} {value : α}
    (other : ¬ kind value) : StopsOn kind (pure value : Act σ α) := by
  intro console isKind
  exact absurd isKind other

/-- An answer of a kind that ends an act must leave a stopped console; any other
answer is left to what follows. -/
theorem StopsOn.bind {α β : Type} {early : α → Prop} {kind : β → Prop}
    {act : Act σ α} {next : α → Act σ β}
    (first : StopsOn early act)
    (ends : ∀ value, early value → ∃ result, next value = pure result)
    (later : ∀ value, ¬ early value → StopsOn kind (next value)) :
    StopsOn kind (act >>= next) := by
  intro console isKind
  by_cases isEarly : early (act.run console).1
  · obtain ⟨result, same⟩ := ends _ isEarly
    have stopped := first console isEarly
    change ((next (act.run console).1).run (act.run console).2).2.isStopped = true
    rw [same]
    exact stopped
  · exact later _ isEarly (act.run console).2 isKind

theorem stopsOn_bind {α β : Type} {kind : β → Prop} {act : Act σ α}
    {next : α → Act σ β} (later : ∀ value, StopsOn kind (next value)) :
    StopsOn kind (act >>= next) := by
  intro console isKind
  exact later (act.run console).1 (act.run console).2 isKind

/-- A console that meets its deadline stops. -/
theorem isStopped_expire {console : Console σ}
    (met : console.reaches console.deadline = true) :
    console.expire.isStopped = true := by
  unfold expire
  by_cases ended : console.reaches console.watch.limit = true
  · rw [if_pos ended]
    simp [isStopped]
  · have reached : console.reaches console.shutdown.due = true := by
      unfold deadline at met
      cases limit : console.watch.limit with
      | none => simpa [limit] using met
      | some last =>
          cases due : console.shutdown.due with
          | none =>
              simp only [limit, due] at met ended
              exact absurd met ended
          | some instant =>
              simp only [limit, due, Moment.reaches, Option.any_some,
                decide_eq_true_eq] at met ended ⊢
              omega
    rw [if_neg ended, if_pos reached]
    simp [isStopped, requested_requestShutdown]

theorem stopsOn_sleep (duration : Nat) :
    StopsOn (· = false) (sleep duration : Act σ Bool) := by
  intro console cut
  change (console.slept duration).1 = false at cut
  change (console.slept duration).2.isStopped = true
  unfold slept at cut ⊢
  dsimp only at cut ⊢
  by_cases stopped : console.catchUp.isStopped = true
  · rw [if_pos stopped]
    exact stopped
  · rw [if_neg stopped] at cut ⊢
    cases waited : console.catchUp.wait console.catchUp.deadline
        (duration + console.catchUp.oversleep console.catchUp.clock) with
    | ok moment => simp [waited] at cut
    | error left =>
        obtain ⟨left, moment⟩ := left
        exact isStopped_expire (Moment.reaches_of_wait_error waited).1

/-- The answer of a gesture that was cut short. -/
def isCut {α : Type} (result : Except GestureError α) : Prop :=
  result = .error .interrupted

private theorem stopsOn_gesture_bind {α β : Type}
    {act : GestureAct σ α} {next : α → GestureAct σ β}
    (first : StopsOn isCut act.run) (later : ∀ value, StopsOn isCut (next value).run) :
    StopsOn isCut (act >>= next).run := by
  rw [ExceptT.run_bind]
  apply first.bind
  · intro result cut
    subst cut
    exact ⟨_, rfl⟩
  · intro result notCut
    cases result with
    | ok value => exact later value
    | error error => exact stopsOn_pure (by simpa [isCut] using notCut)

private theorem stopsOn_mapError {act : Act σ (Except DeviceError Unit)} :
    StopsOn isCut (act >>= fun result => pure (result.mapError GestureError.refused)) := by
  apply stopsOn_bind
  intro result
  cases result with
  | ok => exact stopsOn_pure nofun
  | error error => exact stopsOn_pure nofun

private theorem stopsOn_withArguments {α : Type} (arguments : Except Refusal α)
    {carryOut : α → Act σ (Except GestureError Unit)}
    (stops : ∀ value, StopsOn isCut (carryOut value)) :
    StopsOn (· = .error .shutdown) (withArguments arguments carryOut) := by
  cases arguments with
  | error refusal => exact stopsOn_pure (by simp)
  | ok value =>
      apply (stops value).bind
      · intro result cut
        subst cut
        exact ⟨_, rfl⟩
      · intro result notCut
        match result with
        | .ok () => exact stopsOn_pure (by simp)
        | .error .interrupted => exact absurd rfl notCut
        | .error (.refused error) =>
            exact stopsOn_bind fun _ => stopsOn_pure (by simp)
        | .error (.unknownAction word) =>
            exact stopsOn_bind fun _ => stopsOn_pure (by simp)

variable [Device σ]

private theorem stopsOn_contact (downTime eventTime : Nat) (action : TouchAction)
    (place : Point) :
    StopsOn isCut (contact downTime eventTime action place : GestureAct σ Unit).run := by
  unfold contact
  apply stopsOn_bind
  intro _
  exact stopsOn_mapError

private theorem stopsOn_follow (path : SwipePath) (downTime left index : Nat) :
    StopsOn isCut (follow path downTime left index : GestureAct σ Unit).run := by
  induction left generalizing index with
  | zero => exact stopsOn_pure (by simp [isCut])
  | succ left induction =>
      have paused : StopsOn isCut (pause path.spacing : GestureAct σ Unit).run := by
        unfold pause
        apply (stopsOn_sleep path.spacing).bind
        · intro wholly _
          exact ⟨_, rfl⟩
        · intro wholly notCut
          exact stopsOn_pure (by simp [notCut, isCut])
      unfold follow
      apply stopsOn_gesture_bind (stopsOn_contact _ _ _ _)
      intro _
      apply stopsOn_gesture_bind paused
      intro _
      exact induction (index + 1)

private theorem stopsOn_swipe (arguments : Request.Swipe) :
    StopsOn isCut (swipe arguments : Act σ (Except GestureError Unit)) := by
  have clock : StopsOn isCut (ExceptT.lift now : GestureAct σ Nat).run :=
    stopsOn_bind fun _ => stopsOn_pure (by simp [isCut])
  unfold swipe trace
  apply stopsOn_gesture_bind clock
  intro downTime
  apply stopsOn_gesture_bind (stopsOn_contact _ _ _ _)
  intro _
  apply stopsOn_gesture_bind (stopsOn_follow _ _ _ _)
  intro _
  apply stopsOn_gesture_bind clock
  intro upTime
  exact stopsOn_contact _ _ _ _

private theorem stopsOn_tap (arguments : Request.Tap) :
    StopsOn isCut (tap arguments : Act σ (Except GestureError Unit)) := by
  have answers : ∀ down up, ¬ isCut (firstFailure down up) := by
    intro down up
    cases down with
    | error error => simp [isCut, firstFailure]
    | ok => cases up <;> simp [isCut, firstFailure]
  unfold tap
  iterate 7
    apply stopsOn_bind
    intro _
  exact stopsOn_pure (answers _ _)

private theorem stopsOn_pressKey (key : Request.KeyPress) :
    StopsOn isCut (pressKey key : Act σ (Except GestureError Unit)) := by
  unfold pressKey
  cases key.action with
  | down => exact stopsOn_mapError
  | up => exact stopsOn_mapError
  | both => exact stopsOn_mapError
  | unrecognized word => exact stopsOn_pure (by simp [isCut])

private theorem stopsOn_serveRequest (request : Request) :
    StopsOn (· = .error .shutdown)
      (serveRequest request : Act σ (Except Interruption Reply)) := by
  unfold serveRequest
  cases request.verb with
  | ping => exact stopsOn_pure (by simp)
  | clipGet => exact stopsOn_bind fun _ => stopsOn_pure (by simp)
  | clipSet => exact stopsOn_bind fun _ => stopsOn_pure (by simp)
  | tap => exact stopsOn_withArguments _ stopsOn_tap
  | swipe => exact stopsOn_withArguments _ stopsOn_swipe
  | drag => exact stopsOn_withArguments _ stopsOn_swipe
  | keycode => exact stopsOn_withArguments _ stopsOn_pressKey
  | text => exact stopsOn_bind fun _ => stopsOn_pure (by simp)
  | unknown keyword => exact stopsOn_pure (by simp)

/-- A command that is cut short leaves a stopped console. -/
theorem stopsOn_dispatch (line : String) :
    StopsOn (· = .error .shutdown)
      (dispatch line : Act σ (Except Interruption Reply)) := by
  unfold dispatch
  cases Request.ofLine line with
  | error refusal => exact stopsOn_pure (by simp)
  | ok request =>
      apply stopsOn_bind
      intro console
      split
      · exact stopsOn_pure (by simp)
      · exact stopsOn_serveRequest request

/-- Waking the display that is cut short leaves a stopped console. -/
theorem stopsOn_wake (enabled : Bool) :
    StopsOn (· = .error .shutdown)
      (wake enabled : Act σ (Except Interruption Bool)) := by
  have pressed : StopsOn (· = .error .shutdown)
      (pressPower : Act σ (Except Interruption Bool)) := by
    unfold pressPower
    apply stopsOn_bind
    intro _
    apply stopsOn_bind
    intro result
    cases result with
    | error error => exact stopsOn_bind fun _ => stopsOn_pure (by simp)
    | ok =>
        apply (stopsOn_sleep wakeTime).bind
        · intro wholly cut
          subst cut
          exact ⟨_, rfl⟩
        · intro wholly notCut
          rw [Bool.not_eq_false] at notCut
          subst notCut
          exact stopsOn_pure (by simp)
  unfold wake
  apply stopsOn_bind
  intro console
  dsimp only
  split
  · exact stopsOn_pure (by simp)
  · apply stopsOn_bind
    intro isOn
    split
    · exact stopsOn_pure (by simp)
    · exact pressed

end Console

end RemoteInput
