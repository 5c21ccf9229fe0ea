import RemoteInput.Device.InMemory
import RemoteInput.Proofs.Console.Calls
import RemoteInput.Proofs.Request
import RemoteInput.Proofs.Request.Payload

/-!
# The clipboard is a register

`CLIP_SET` writes the clipboard of a device in memory and `CLIP_GET` reads it;
no other request line touches it.  So what is read is what was written last,
and to write back what was read changes nothing.
-/

namespace RemoteInput

/-- The text that a well-formed `CLIP_SET` brings. -/
def Request.clip? (line : String) : Option String :=
  match ofLine line with
  | .ok { verb := .clipSet, arguments } => (Payload.decode arguments).toOption
  | _ => none

theorem Request.ofLine_of_clip? {line text : String} (brings : clip? line = some text) :
    ∃ arguments, ofLine line = .ok { verb := .clipSet, arguments } ∧
      Payload.decode arguments = .ok text := by
  unfold clip? at brings
  split at brings
  · next arguments read =>
    cases decoded : Payload.decode arguments with
    | error refusal => simp [decoded, Except.toOption] at brings
    | ok other =>
        simp only [decoded, Except.toOption, Option.some.injEq] at brings
        exact ⟨arguments, read, brings ▸ decoded⟩
  · cases brings

theorem Request.keyword?_of_clip? {line text : String} (brings : clip? line = some text) :
    keyword? line = some "CLIP_SET" := by
  obtain ⟨arguments, read, _⟩ := ofLine_of_clip? brings
  cases found : keyword? line with
  | none =>
      rw [ofLine_of_keyword?_none found] at read
      cases read
  | some keyword =>
      obtain ⟨others, readToo⟩ := ofLine_of_keyword? found
      have spelled := Verb.keyword_ofKeyword keyword
      simp only [readToo, Except.ok.injEq, Request.mk.injEq] at read
      rw [read.1] at spelled
      exact congrArg some spelled.symm

/-- A payload comes back as the text that it was made of. -/
theorem Request.clip?_of_payload (text : String) :
    clip? ("CLIP_SET " ++ Payload.encode text) = some text := by
  have line : ("CLIP_SET " ++ Payload.encode text).toList =
      "CLIP_SET".toList ++ ' ' :: (Payload.encode text).toList := by
    simp
  have keyword : Text.words "CLIP_SET".toList = ["CLIP_SET".toList] := by decide +kernel
  have words : Text.words ("CLIP_SET " ++ Payload.encode text).toList =
      "CLIP_SET".toList :: Text.words (Payload.encode text).toList := by
    rw [line, Text.words_append_cons (by decide), keyword, List.singleton_append]
  obtain ⟨arguments, same, read⟩ := ofLine_of_words words
  have verb : Verb.ofKeyword (String.ofList (Text.upper "CLIP_SET".toList)) = .clipSet := by
    decide
  rw [verb] at read
  simp only [clip?, read, Payload.decode_of_words same, Payload.decode_encode,
    Except.toOption]

/-- The reply to a request for a clipboard text; the clipboard may be unavailable. -/
def Reply.ofClipboard : Option String → Reply
  | none => .err .clipboardUnavailable
  | some text => if text = "" then .done else .ok (some (Payload.encode text))

theorem Reply.ofClipboard_some (text : String) :
    ofClipboard (some text) = okWith (Payload.encode text) := by
  simp [ofClipboard, okWith, Payload.encode_eq_empty_iff]

/-! ## Devices in memory -/

namespace InMemoryDevice

variable {device : InMemoryDevice}

theorem clipboard_inject (event : Injection) :
    (device.inject event).2.clipboard = device.clipboard ∧
      (device.inject event).2.rejectsClipboard = device.rejectsClipboard := by
  unfold inject
  split
  · split
    · cases event <;> exact ⟨rfl, rfl⟩
    · exact ⟨rfl, rfl⟩
  · exact ⟨rfl, rfl⟩

theorem clipboard_handle {call : Call} (other : ¬ call.IsClipboard) :
    (device.handle call).2.clipboard = device.clipboard ∧
      (device.handle call).2.rejectsClipboard = device.rejectsClipboard := by
  cases call with
  | inputCapable display => exact ⟨rfl, rfl⟩
  | screenOn display => exact ⟨rfl, rfl⟩
  | keysFor text => exact ⟨rfl, rfl⟩
  | inject event display => exact clipboard_inject event
  | clipboard => exact absurd .clipboard other
  | setClipboard text => exact absurd (.setClipboard text) other

theorem clipboard_answerAll {calls : List Call} (others : ∀ call ∈ calls, ¬ call.IsClipboard) :
    (Device.answerAll device calls).clipboard = device.clipboard ∧
      (Device.answerAll device calls).rejectsClipboard = device.rejectsClipboard := by
  induction calls generalizing device with
  | nil => exact ⟨rfl, rfl⟩
  | cons call calls induction =>
      obtain ⟨first, rejects⟩ := clipboard_handle (others call List.mem_cons_self)
      obtain ⟨later, rejectsToo⟩ := induction fun call member =>
        others call (List.mem_cons_of_mem _ member)
      exact ⟨later.trans first, rejectsToo.trans rejects⟩

end InMemoryDevice

namespace Console

/-! ## Commands of the clipboard -/

section

variable {σ : Type} [Device σ]

theorem dispatch_of_clipGet {line arguments : String}
    (read : Request.ofLine line = .ok { verb := .clipGet, arguments })
    (console : Console σ) :
    (dispatch line).run console =
      (.ok (.ofClipboard ((ask .clipboard).run console).1),
        ((ask .clipboard).run console).2) := by
  rw [run_dispatch_of_admitted read rfl, serveRequest]
  simp only [clipboardReply, clipboardPayload, StateT.run_bind]
  generalize (ask .clipboard).run console = asked
  obtain ⟨answer, after⟩ := asked
  cases answer with
  | none => rfl
  | some text =>
      rw [Reply.ofClipboard_some]
      rfl

theorem dispatch_of_clipSet {line arguments text : String}
    (read : Request.ofLine line = .ok { verb := .clipSet, arguments })
    (decoded : Payload.decode arguments = .ok text) (console : Console σ) :
    (dispatch line).run console =
      match (ask (.setClipboard text)).run console with
      | (.ok (), after) => (.ok .done, after)
      | (.error error, after) =>
          (.ok (.err .clipboardSetFailed), after.record (.noted
            { severity := .warn
              message := "clipboard update failed: " ++ error.message })) := by
  rw [run_dispatch_of_admitted read rfl, serveRequest]
  simp only [setClipboard, decoded, StateT.run_bind]
  generalize (ask (.setClipboard text)).run console = asked
  obtain ⟨answer, after⟩ := asked
  cases answer with
  | ok => rfl
  | error error => rfl

theorem dispatch_of_malformed {line arguments : String} {refusal : Refusal}
    (read : Request.ofLine line = .ok { verb := .clipSet, arguments })
    (decoded : Payload.decode arguments = .error refusal) (console : Console σ) :
    (dispatch line).run console = (.ok (.err refusal), console) := by
  rw [run_dispatch_of_admitted read rfl, serveRequest]
  simp only [setClipboard, decoded]
  rfl

end

/-! ## One line -/

/-- The text that a line has written; only a `CLIP_SET` that is answered `OK`
writes. -/
def Served.clip? (served : Served) : Option String :=
  if served.result = .ok .done then Request.clip? served.line else none

theorem Served.clip?_of_not_done {served : Served} (notDone : served.result ≠ .ok .done) :
    served.clip? = none := by
  simp [clip?, notDone]

theorem Served.clip?_of_none {line : String} (other : Request.clip? line = none)
    (result : Except Interruption Reply) : Served.clip? { line, result } = none := by
  simp [clip?, other]

/-- The clipboard holds what a line has written, or what it held before. -/
structure Writes (before after : InMemoryDevice) (written : Option String) : Prop where
  clipboard : after.clipboard = written.or before.clipboard
  rejects : after.rejectsClipboard = before.rejectsClipboard
  keeps : before.rejectsClipboard = true → after.clipboard = before.clipboard

theorem Writes.refl (device : InMemoryDevice) : Writes device device none :=
  ⟨rfl, rfl, fun _ => rfl⟩

private theorem writes_of_quiet {line : String} {request : Request}
    (read : Request.ofLine line = .ok request)
    (others : ∀ call, request.verb.asks call → ¬ call.IsClipboard)
    (console : Console InMemoryDevice) :
    Writes console.device ((dispatch line).run console).2.device none := by
  obtain ⟨asked, asks, areAsked⟩ := (composed_dispatch line).asks console
  have quiet : ∀ call ∈ asked, ¬ call.IsClipboard := by
    intro call member
    have isAsked := areAsked call member
    simp only [Request.asks, read] at isAsked
    exact others call isAsked
  obtain ⟨same, rejects⟩ := InMemoryDevice.clipboard_answerAll quiet
  rw [asks.device]
  exact ⟨same, rejects, fun _ => same⟩

/-- A well-formed `CLIP_SET` writes its text, unless the device rejects it. -/
private theorem dispatch_of_wellFormed {line arguments text : String}
    (read : Request.ofLine line = .ok { verb := .clipSet, arguments })
    (decoded : Payload.decode arguments = .ok text) (console : Console InMemoryDevice) :
    ((dispatch line).run console).1 =
        .ok (if console.device.rejectsClipboard then .err .clipboardSetFailed else .done) ∧
      ((dispatch line).run console).2.device =
        if console.device.rejectsClipboard then console.device
        else { console.device with clipboard := some text } := by
  have answer : ((ask (.setClipboard text)).run console).1 =
      (console.device.store text).1 := rfl
  have device : ((ask (.setClipboard text)).run console).2.device =
      (console.device.store text).2 := rfl
  rw [dispatch_of_clipSet read decoded]
  generalize (ask (.setClipboard text)).run console = asked at *
  obtain ⟨result, after⟩ := asked
  dsimp only at answer device
  by_cases rejects : console.device.rejectsClipboard = true
  · rw [InMemoryDevice.store, if_pos rejects] at answer device
    rw [answer, if_pos rejects, if_pos rejects]
    exact ⟨rfl, device⟩
  · rw [InMemoryDevice.store, if_neg rejects] at answer device
    rw [answer, if_neg rejects, if_neg rejects]
    exact ⟨rfl, device⟩

private theorem writes_of_clipSet {line arguments : String}
    (read : Request.ofLine line = .ok { verb := .clipSet, arguments })
    (console : Console InMemoryDevice) :
    Writes console.device ((dispatch line).run console).2.device
      (Served.clip? { line, result := ((dispatch line).run console).1 }) := by
  cases decoded : Payload.decode arguments with
  | error refusal =>
      rw [dispatch_of_malformed read decoded, Served.clip?_of_not_done (by simp [Reply.done])]
      exact .refl _
  | ok text =>
      have brings : Request.clip? line = some text := by
        simp [Request.clip?, read, decoded, Except.toOption]
      obtain ⟨result, device⟩ := dispatch_of_wellFormed read decoded console
      rw [result, device]
      cases rejects : console.device.rejectsClipboard with
      | true =>
          rw [Served.clip?_of_not_done (by simp [Reply.done])]
          exact .refl _
      | false =>
          simp only [Served.clip?, brings, Bool.false_eq_true, if_false, if_true]
          exact ⟨rfl, rfl, fun rejected => absurd rejected (by simp [rejects])⟩

/-- A line writes the clipboard just if it is a `CLIP_SET` that is answered `OK`. -/
theorem writes_dispatch (line : String) (console : Console InMemoryDevice) :
    Writes console.device ((dispatch line).run console).2.device
      (Served.clip? { line, result := ((dispatch line).run console).1 }) := by
  cases read : Request.ofLine line with
  | error refusal =>
      have other : Request.clip? line = none := by simp [Request.clip?, read]
      rw [Served.clip?_of_none other, run_dispatch_of_error read]
      exact .refl _
  | ok request =>
      obtain ⟨verb, arguments⟩ := request
      cases verb with
      | clipSet => exact writes_of_clipSet read console
      | clipGet =>
          have other : Request.clip? line = none := by simp [Request.clip?, read]
          rw [Served.clip?_of_none other, dispatch_of_clipGet read]
          exact .refl console.device
      | _ =>
          have other : Request.clip? line = none := by simp [Request.clip?, read]
          rw [Served.clip?_of_none other]
          apply writes_of_quiet read
          intro call asks isClipboard
          cases isClipboard <;> cases asks

/-! ## Many lines -/

/-- The clipboard text after some lines: the one that was written last, or the
initial one. -/
def register (initial : Option String) (served : List Served) : Option String :=
  (served.filterMap Served.clip?).getLast?.or initial

theorem register_cons (initial : Option String) (first : Served) (rest : List Served) :
    register initial (first :: rest) = register (first.clip?.or initial) rest := by
  unfold register
  cases written : first.clip? with
  | none => simp [written]
  | some text =>
      cases later : (rest.filterMap Served.clip?).getLast? with
      | none => simp [written, List.getLast?_cons, later]
      | some last => simp [written, List.getLast?_cons, later]

theorem register_serveLines (lines : List String) (console : Console InMemoryDevice) :
    let served := (serveLines lines).run console
    served.2.device.clipboard = register console.device.clipboard served.1 ∧
      served.2.device.rejectsClipboard = console.device.rejectsClipboard ∧
      (console.device.rejectsClipboard = true →
        served.2.device.clipboard = console.device.clipboard) := by
  induction lines generalizing console with
  | nil => exact ⟨rfl, rfl, fun _ => rfl⟩
  | cons line rest induction =>
      have writes := writes_dispatch line console
      obtain ⟨clipboard, rejects, keeps⟩ := induction ((dispatch line).run console).2
      dsimp only
      rw [run_serveLines_cons, register_cons, ← writes.clipboard]
      refine ⟨clipboard, rejects.trans writes.rejects, ?_⟩
      intro rejected
      exact (keeps (writes.rejects.trans rejected)).trans (writes.keeps rejected)

/-- What the next line comes to, if the clipboard holds a text: how a `CLIP_GET`
and a `CLIP_SET` are answered, what the clipboard holds then, and that writing
back what was read restores it. -/
structure Continues (text : Option String) (rejects : Bool) (line : String)
    (next : Except Interruption Reply × Console InMemoryDevice) : Prop where
  gets : Request.keyword? line = some "CLIP_GET" → next.1 = .ok (.ofClipboard text)
  sets : Request.keyword? line = some "CLIP_SET" → next.1 = .ok .done →
    ∃ stored, Request.clip? line = some stored ∧ next.2.device.clipboard = some stored
  keeps : ¬ (Request.keyword? line = some "CLIP_SET" ∧ next.1 = .ok .done) →
    next.2.device.clipboard = text
  answers : ∀ stored, Request.clip? line = some stored →
    next.1 = .ok (if rejects then .err .clipboardSetFailed else .done)
  restores : ∀ payload, Request.keyword? line = some "CLIP_GET" →
    next.1 = .ok (.ok payload) →
    ((dispatch ("CLIP_SET " ++ payload.getD "")).run next.2).2.device.clipboard = text

/-- To write what the clipboard holds changes nothing. -/
private theorem clipboard_of_rewritten {line text : String}
    (brings : Request.clip? line = some text) {console : Console InMemoryDevice}
    (holds : console.device.clipboard = some text) :
    ((dispatch line).run console).2.device.clipboard = some text := by
  have writes := writes_dispatch line console
  rw [writes.clipboard, holds, Served.clip?, brings]
  split
  · rfl
  · rfl

private theorem payload_of_ofClipboard {text : String} {payload : Option String}
    (same : Reply.ofClipboard (some text) = .ok payload) :
    payload.getD "" = Payload.encode text := by
  rw [Reply.ofClipboard_some, Reply.okWith] at same
  split at same
  · next empty =>
    cases same
    exact empty.symm
  · cases same
    rfl

theorem continues (line : String) (console : Console InMemoryDevice) :
    Continues console.device.clipboard console.device.rejectsClipboard line
      ((dispatch line).run console) := by
  have writes := writes_dispatch line console
  have gets : Request.keyword? line = some "CLIP_GET" →
      (dispatch line).run console =
        (.ok (.ofClipboard ((ask .clipboard).run console).1),
          ((ask .clipboard).run console).2) := by
    intro isGet
    obtain ⟨arguments, read⟩ := Request.ofLine_of_keyword? isGet
    have verb : Verb.ofKeyword "CLIP_GET" = .clipGet := by decide
    rw [verb] at read
    exact dispatch_of_clipGet read console
  constructor
  · intro isGet
    rw [gets isGet]
    rfl
  · intro isSet done
    obtain ⟨arguments, read⟩ := Request.ofLine_of_keyword? isSet
    have verb : Verb.ofKeyword "CLIP_SET" = .clipSet := by decide
    rw [verb] at read
    cases decoded : Payload.decode arguments with
    | error refusal =>
        rw [dispatch_of_malformed read decoded] at done
        cases done
    | ok text =>
        have brings : Request.clip? line = some text := by
          simp [Request.clip?, read, decoded, Except.toOption]
        refine ⟨text, brings, ?_⟩
        rw [writes.clipboard, done]
        simp [Served.clip?, brings]
  · intro other
    have unwritten : Served.clip? { line, result := ((dispatch line).run console).1 } =
        none := by
      cases brings : Request.clip? line with
      | none => exact Served.clip?_of_none brings _
      | some text =>
          have isSet := Request.keyword?_of_clip? brings
          exact Served.clip?_of_not_done fun done => other ⟨isSet, done⟩
    rw [writes.clipboard, unwritten]
    rfl
  · intro stored brings
    obtain ⟨arguments, read, decoded⟩ := Request.ofLine_of_clip? brings
    exact (dispatch_of_wellFormed read decoded console).1
  · intro payload isGet replied
    have run := gets isGet
    rw [run] at replied ⊢
    cases held : console.device.clipboard with
    | none =>
        have unavailable : ((ask .clipboard).run console).1 = none := held
        rw [unavailable] at replied
        cases replied
    | some text =>
        have answer : ((ask .clipboard).run console).1 = some text := held
        have holds : ((ask .clipboard).run console).2.device.clipboard = some text := held
        rw [answer] at replied
        rw [payload_of_ofClipboard (Except.ok.inj replied)]
        exact clipboard_of_rewritten (Request.clip?_of_payload text) holds

/-- Over a device in memory the clipboard is one register.  After any request
lines it holds the text that was written last, or the initial text if none was;
a device that rejects updates keeps the initial text.  Whatever line comes next,
the register is read and written as `Continues` says. -/
theorem clipboard_is_a_register (lines : List String) (console : Console InMemoryDevice) :
    let served := (serveLines lines).run console
    let text := register console.device.clipboard served.1
    served.2.device.clipboard = text ∧
      (console.device.rejectsClipboard = true → text = console.device.clipboard) ∧
      ∀ line, Continues text console.device.rejectsClipboard line
        ((dispatch line).run served.2) := by
  intro served text
  obtain ⟨holds, rejects, keeps⟩ := register_serveLines lines console
  refine ⟨holds, ?_, ?_⟩
  · intro rejected
    exact holds.symm.trans (keeps rejected)
  · intro line
    have next := continues line served.2
    rw [holds, rejects] at next
    exact next

theorem clipboard_is_a_register_of_invalid_utf8 :
    let console : Console InMemoryDevice := .start .primary { clipboard := none } {}
    let lines := ["CLIP_GET", "CLIP_SET aGk", "TAP 1 2", "CLIP_SET %%%", "clip_set /w==",
      "TEXT aGk="]
    let served := (serveLines lines).run console
    served.1.map Served.result =
        [.ok (.err .clipboardUnavailable), .ok .done, .ok .done,
          .ok (.err .invalidBase64), .ok .done, .ok .done] ∧
      register none served.1 = some "\uFFFD" ∧
      ((dispatch "CLIP_GET").run served.2).1 = .ok (.ok (some "77+9")) ∧
      ((dispatch "CLIP_SET 77+9").run
        ((dispatch "CLIP_GET").run served.2).2).2.device.clipboard = some "\uFFFD" := by
  intro console lines served
  obtain ⟨_, _, continues⟩ := clipboard_is_a_register lines console
  have held : register console.device.clipboard served.1 = some "\uFFFD" := by decide +kernel
  have same : (serveLines lines).run console = served := rfl
  rw [held, same] at continues
  have isGet : Request.keyword? "CLIP_GET" = some "CLIP_GET" := by decide +kernel
  have text : Reply.ofClipboard (some "\uFFFD") = .ok (some "77+9") := by decide +kernel
  have replied := (continues "CLIP_GET").gets isGet
  rw [text] at replied
  have line : "CLIP_SET " ++ (some "77+9").getD "" = "CLIP_SET 77+9" := by decide
  have restored := (continues "CLIP_GET").restores (some "77+9") isGet replied
  rw [line] at restored
  exact ⟨by decide +kernel, held, replied, restored⟩

end Console

end RemoteInput
