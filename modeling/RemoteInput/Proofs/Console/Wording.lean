import RemoteInput.Device.InMemory
import RemoteInput.Proofs.Console.Acts
import RemoteInput.Proofs.Request
import RemoteInput.Proofs.Request.Payload

/-!
# Lines that say the same

A request line says what its words say: the blanks around and between them do
not count, the keyword may be in any letter case, and `DRAG` is another word for
`SWIPE`.  Lines with the same words are served alike: `served_by_words`.

Most commands read their arguments word by word.  A payload is read as a whole,
but with a blank inside it is no payload.
-/

namespace RemoteInput

namespace Verb

/-- The verb that a verb is served as. -/
def service : Verb → Verb
  | .drag => .swipe
  | verb => verb

theorem requiresInput_service (verb : Verb) :
    verb.service.requiresInput = verb.requiresInput := by
  cases verb <;> rfl

end Verb

namespace Request

/-- A keyword as it is understood. -/
def understood (keyword : List Char) : List Char :=
  let name := Text.upper keyword
  if name = "DRAG".toList then "SWIPE".toList else name

/-- What a request line says. -/
def words (line : String) : List (List Char) :=
  match Text.words line.toList with
  | [] => []
  | keyword :: arguments => understood keyword :: arguments

theorem service_ofKeyword (keyword : List Char) :
    (Verb.ofKeyword (String.ofList (Text.upper keyword))).service =
      .ofKeyword (String.ofList (understood keyword)) := by
  unfold understood
  by_cases isDrag : Text.upper keyword = "DRAG".toList
  · rw [isDrag]
    decide
  · have other : Verb.ofKeyword (String.ofList (Text.upper keyword)) ≠ .drag := by
      intro same
      have spelled := Verb.keyword_ofKeyword (String.ofList (Text.upper keyword))
      rw [same] at spelled
      have isToo := congrArg String.toList spelled
      rw [String.toList_ofList] at isToo
      exact isDrag isToo.symm
    simp only [isDrag, if_false]
    cases verb : Verb.ofKeyword (String.ofList (Text.upper keyword)) with
    | drag => exact absurd verb other
    | _ => rfl

end Request

namespace Console

variable {σ : Type} [Device σ]

private theorem serveRequest_of_service (verb : Verb) (arguments : String) :
    (serveRequest { verb, arguments } : Act σ _) =
      serveRequest { verb := verb.service, arguments } := by
  cases verb <;> rfl

/-- Commands see the words of their arguments, and nothing else of them. -/
private theorem serveRequest_of_words (verb : Verb) {arguments others : String}
    (same : Text.words arguments.toList = Text.words others.toList) :
    (serveRequest { verb, arguments } : Act σ _) =
      serveRequest { verb, arguments := others } := by
  have payload := Payload.decode_of_words same
  cases verb with
  | tap => simp [serveRequest, Request.Tap.ofArguments, same]
  | swipe => simp [serveRequest, Request.Swipe.ofArguments, same]
  | drag => simp [serveRequest, Request.Swipe.ofArguments, same]
  | keycode => simp [serveRequest, Request.KeyPress.ofArguments, same]
  | text => simp [serveRequest, typePayload, payload]
  | clipSet => simp [serveRequest, setClipboard, payload]
  | clipGet => rfl
  | ping => rfl
  | unknown keyword => rfl

/-- A line is served as its keyword is understood. -/
private theorem dispatch_of_understood {line arguments : String} {keyword : List Char}
    (found : Request.ofLine line =
      .ok { verb := .ofKeyword (String.ofList (Text.upper keyword)), arguments })
    (console : Console σ) :
    let verb := Verb.ofKeyword (String.ofList (Request.understood keyword))
    (dispatch line).run console =
      if verb.requiresInput && !console.acceptsInput then
        (.ok (.err .inputNotSupported), console)
      else
        (serveRequest { verb, arguments }).run console := by
  intro verb
  rw [run_dispatch found, serveRequest_of_service, ← Verb.requiresInput_service,
    Request.service_ofKeyword]

/-- Lines with the same words are served alike. -/
theorem dispatch_words {line other : String}
    (same : Request.words line = Request.words other) (console : Console σ) :
    (dispatch line).run console = (dispatch other).run console := by
  unfold Request.words at same
  rcases Request.ofLine_cases line with ⟨none, found⟩ | ⟨keyword, arguments, words, found⟩
  · rcases Request.ofLine_cases other with ⟨_, foundToo⟩ | ⟨_, _, others, _⟩
    · rw [run_dispatch_of_error found, run_dispatch_of_error foundToo]
    · simp [none, others] at same
  · rcases Request.ofLine_cases other with ⟨none, _⟩ | ⟨_, others, wordsToo, foundToo⟩
    · simp [none, words] at same
    · simp only [words, wordsToo, List.cons.injEq] at same
      rw [dispatch_of_understood found, dispatch_of_understood foundToo, same.1,
        serveRequest_of_words _ same.2]

/-- A payload of several words is refused by every verb that reads one. -/
theorem dispatch_of_scattered_payload {line : String} {keyword : List Char}
    {arguments : List (List Char)}
    (words : Text.words line.toList = keyword :: arguments)
    (several : 2 ≤ arguments.length) {console : Console σ}
    (takesPayload : String.ofList (Text.upper keyword) = "CLIP_SET" ∨
      String.ofList (Text.upper keyword) = "TEXT" ∧ console.acceptsInput = true) :
    (dispatch line).run console = (.ok (.err .invalidBase64), console) := by
  obtain ⟨payload, isPayload, found⟩ := Request.ofLine_of_words words
  have refused := Payload.decode_of_two_words (isPayload ▸ several)
  rw [run_dispatch found]
  rcases takesPayload with isSet | ⟨isText, capable⟩
  · have verb : Verb.ofKeyword "CLIP_SET" = .clipSet := by decide
    simp [isSet, verb, Verb.requiresInput, serveRequest, setClipboard, refused]
    rfl
  · have verb : Verb.ofKeyword "TEXT" = .text := by decide
    simp [isText, verb, capable, serveRequest, typePayload, refused]
    rfl

/-- What a line comes to depends on what its words say: lines that say the same
have the same reply, ask the same of the device and leave the same console
behind.  A payload is read as a whole nevertheless, and no payload has several
words. -/
theorem served_by_words (console : Console σ) :
    (∀ line other, Request.words line = Request.words other →
      (dispatch line).run console = (dispatch other).run console) ∧
    ∀ line keyword arguments, Text.words line.toList = keyword :: arguments →
      2 ≤ arguments.length →
      String.ofList (Text.upper keyword) = "CLIP_SET" ∨
        String.ofList (Text.upper keyword) = "TEXT" ∧ console.acceptsInput = true →
      (dispatch line).run console = (.ok (.err .invalidBase64), console) := by
  constructor
  · intro line other same
    exact dispatch_words same console
  · intro line keyword arguments words several takesPayload
    exact dispatch_of_scattered_payload words several takesPayload

theorem served_by_words_of_drag :
    let console : Console InMemoryDevice := .start .primary {} {}
    let drag := " drag\u3000 1 2\t3 4  50 "
    let swipe := "SWIPE 1 2 3 4 50"
    let text := "text aGk ="
    Request.words drag = Request.words swipe ∧
      (dispatch drag).run console = (dispatch swipe).run console ∧
      Text.words text.toList = ["text".toList, "aGk".toList, "=".toList] ∧
      (dispatch text).run console = (.ok (.err .invalidBase64), console) := by
  intro console drag swipe text
  obtain ⟨alike, scattered⟩ := served_by_words console
  have same : Request.words drag = Request.words swipe := by decide +kernel
  have words : Text.words text.toList = ["text".toList, "aGk".toList, "=".toList] := by
    decide +kernel
  have isText : String.ofList (Text.upper "text".toList) = "TEXT" := by decide
  exact ⟨same, alike drag swipe same, words,
    scattered text _ _ words (Nat.le_refl 2) (.inr ⟨isText, rfl⟩)⟩

end Console

end RemoteInput
