import RemoteInput.Device.Rehearsal
import RemoteInput.Proofs.Console.Commands
import RemoteInput.Proofs.Console.Interruption

/-!
# Accounting for injections

Every injection of a dispatcher belongs to one request line.  `Accounted` says
which injections a line may come to, and how its reply tells whether they were
accepted.  It holds of each line that is served, and so of any number of them:
`serveLines_accounted`.
-/

namespace RemoteInput

/-! ## One line -/

/-- Which injections a request line comes to on a display that takes input, and
how its reply tells of them.  The reply to a command is `OK` if the command is
known and all its injections were accepted, and otherwise that the injection
failed. -/
def Accounted (served : Console.Served) (calls : List Injected) : Prop :=
  match Command.ofLine? served.line with
  | some (.ok command) =>
      command.Makes calls ∧
        served.result = .ok
          (if command.isKnown && calls.all Injected.accepted then .done
            else .err .injectFailed)
  | some (.error refusal) =>
      calls = [] ∧ served.result = .ok (.err refusal) ∧ refusal ≠ .injectFailed
  | none =>
      (∀ call ∈ calls, ∃ event, call.event = .key event) ∧
        (Request.verb? served.line ≠ some .text → calls = [])

namespace Console

variable {σ : Type} [Device σ]

/-- A line that is served while shutdown is not requested is accounted for. -/
theorem accounted_dispatch (line : String) {console : Console σ}
    (capable : console.acceptsInput = true) (unwatched : console.watch = {})
    (uncancelled : ((dispatch line).run console).2.shutdown.requested = false) :
    ∃ calls, Injects console calls ((dispatch line).run console).2 ∧
      Accounted { line, result := ((dispatch line).run console).1 } calls := by
  unfold Accounted
  cases isCommand : Command.ofLine? line with
  | none =>
      obtain ⟨calls, injects, areAsked⟩ := (composed_dispatch line).injects console
      refine ⟨calls, injects, ?_, ?_⟩
      · intro call member
        exact (keys_of_asks isCommand (areAsked call member)).2
      · intro other
        apply List.eq_nil_iff_forall_not_mem.mpr
        intro call member
        exact other (keys_of_asks isCommand (areAsked call member)).1
  | some arguments =>
      have run := dispatch_of_command isCommand capable
      cases arguments with
      | error refusal =>
          rw [run]
          refine ⟨[], .refl console, rfl, rfl, ?_⟩
          intro same
          have reason := Command.refusesAs_ofLine isCommand refusal rfl
          rw [same] at reason
          exact absurd reason (by decide)
      | ok command =>
          have carried : (dispatch line).run console =
              (gestureReply ((carryOut command).run console).1).run
                ((carryOut command).run console).2 := run
          have uncut : ((carryOut command).run console).1 ≠ .error .interrupted := by
            intro cut
            have stops := stopsOn_dispatch line console (by rw [carried, cut]; rfl)
            have works := (composed_dispatch line).works console
            rw [isStopped_iff (works.unwatched unwatched), uncancelled] at stops
            cases stops
          obtain ⟨calls, injects, makes, isOk⟩ := makes_carryOut command uncut
          rw [carried]
          refine ⟨calls, injects.idle (injects_gestureReply _ _), makes, ?_⟩
          rw [gestureReply_of_uncut uncut, isOk]

/-! ## Many lines -/

/-- Whatever request lines a dispatcher serves on a display that takes input, as
long as shutdown is not requested, its injections are those of the first line,
then those of the second, and so on; and each line is accounted for. -/
theorem serveLines_accounted (lines : List String) (console : Console σ)
    (capable : console.acceptsInput = true) (unwatched : console.watch = {})
    (uncancelled : ((serveLines lines).run console).2.shutdown.requested = false) :
    let served := (serveLines lines).run console
    ∃ (blocks : List (Served × List Injected)) (events : List Event),
      blocks.map (fun block => block.1.line) = lines ∧ blocks.map Prod.fst = served.1 ∧
        served.2.journal.toList = console.journal.toList ++ events ∧
        injections events = blocks.flatMap Prod.snd ∧
        ∀ block ∈ blocks, Accounted block.1 block.2 := by
  induction lines generalizing console with
  | nil =>
      refine ⟨[], [], rfl, rfl, (List.append_nil _).symm, rfl, ?_⟩
      intro block member
      cases member
  | cons line rest induction =>
      rw [run_serveLines_cons] at uncancelled ⊢
      let first := (dispatch line).run console
      -- A request for shutdown would last, so none was made in between.
      have later := (composed_serveLines rest).works first.2
      obtain ⟨calls, injects, accounted⟩ :=
        accounted_dispatch line capable unwatched (later.unrequested uncancelled)
      obtain ⟨events, proceeds, _, injected⟩ := injects.journal
      obtain ⟨blocks, others, isLine, isServed, journal, injectedLater, areAccounted⟩ :=
        induction first.2 (injects.acceptsInput.trans capable)
          (injects.works.unwatched unwatched) uncancelled
      refine ⟨({ line, result := first.1 }, calls) :: blocks, events ++ others, ?_, ?_, ?_,
        ?_, ?_⟩
      · rw [List.map_cons, isLine]
      · rw [List.map_cons, isServed]
      · rw [← List.append_assoc, ← proceeds.journal]
        exact journal
      · rw [injections_append, injected, injectedLater, List.flatMap_cons]
      · intro block member
        rcases List.mem_cons.mp member with isFirst | isOther
        · subst isFirst
          exact accounted
        · exact areAccounted block isOther

theorem serveLines_accounted_of_refused_tap :
    let lines := ["TAP 5 6", "SWIPE 0 0 50 0 48", "KEYCODE 4 sideways"]
    let console : Console Rehearsal := .start .primary { failAt := [0] } {}
    console.acceptsInput = true ∧ console.watch = {} ∧
      ((serveLines lines).run console).2.shutdown.requested = false ∧
      (injections ((serveLines lines).run console).2.journal.toList).length = 6 ∧
      ∃ (blocks : List (Served × List Injected)) (events : List Event),
        blocks.map (fun block => block.1.line) = lines ∧
          injections events = blocks.flatMap Prod.snd ∧
          ∀ block ∈ blocks, Accounted block.1 block.2 := by
  intro lines console
  have uncancelled : ((serveLines lines).run console).2.shutdown.requested = false := by
    decide +kernel
  obtain ⟨blocks, events, areLines, _, _, injected, areAccounted⟩ :=
    serveLines_accounted lines console rfl rfl uncancelled
  exact ⟨rfl, rfl, uncancelled, by decide +kernel, blocks, events, areLines, injected,
    areAccounted⟩

end Console

end RemoteInput
