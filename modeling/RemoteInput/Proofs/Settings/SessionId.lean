import Mathlib.Data.List.Basic
import RemoteInput.Proofs.Settings.SessionText

/-!
# Session ids and the names made of them

A session id is read from its text: with blanks around it, behind the mark of a hexadecimal
number, and in capitals.  So the names of local sockets tell session ids apart.
-/

namespace RemoteInput

namespace SessionId

/-- The ways to write a session id: its eight digits or their capitals, perhaps behind the
mark of a hexadecimal number, and blanks around them. -/
inductive Spelled (id : SessionId) : List Char → Prop where
  | intro {before mark digits after : List Char} (blankBefore : Text.Blank before)
      (isMark : mark ∈ [[], ['0', 'x'], ['0', 'X']])
      (isDigits : digits ∈ [id.text.toList, Text.upper id.text.toList])
      (blankAfter : Text.Blank after) : Spelled id (before ++ (mark ++ digits ++ after))

/-! ## Digits -/

theorem toList_text (id : SessionId) : id.text.toList = Text.hexPadded 8 id.value :=
  String.toList_ofList

theorem length_text (id : SessionId) : id.text.toList.length = 8 := by
  rw [toList_text]
  exact Text.length_hexPadded (by decide) (id.fits.trans (by decide))

theorem mem_smallHexadecimals (id : SessionId) {c : Char} (member : c ∈ id.text.toList) :
    c ∈ Text.smallHexadecimals := by
  rw [toList_text] at member
  exact Text.mem_smallHexadecimals_of_hexPadded member

/-- Capital letters are read as the small ones are. -/
theorem digits_of_spelled {id : SessionId} {digits : List Char}
    (isDigits : digits ∈ [id.text.toList, Text.upper id.text.toList]) :
    Text.Hexadecimals digits ∧ id.value = Text.hexadecimalNumber digits := by
  have length : digits.length = 8 := by
    rcases List.mem_pair.mp isDigits with rfl | rfl
    · exact id.length_text
    · simp [Text.upper, length_text]
  have value : Text.digitsValue? 16 digits = some id.value := by
    have small : Text.digitsValue? 16 id.text.toList = some id.value := by
      rw [toList_text]
      exact Text.digitsValue?_hexPadded 8 id.value
    rcases List.mem_pair.mp isDigits with rfl | rfl
    · exact small
    · rw [Text.digitsValue?_upper fun c => id.mem_smallHexadecimals, small]
  obtain ⟨areDigits, number⟩ := Text.digitsValue?_eq_some_iff.mp value
  refine ⟨⟨?_, areDigits⟩, number⟩
  rintro rfl
  cases length

theorem Spelled.written {id : SessionId} {letters : List Char} (spelled : id.Spelled letters) :
    Written [] letters id.value := by
  cases spelled with
  | intro blankBefore isMark isDigits blankAfter =>
    obtain ⟨areDigits, number⟩ := digits_of_spelled isDigits
    rw [number]
    exact .intro blankBefore isMark areDigits blankAfter

theorem Written.ofText {id : SessionId} {text : String}
    (written : Written [] text.toList id.value) : ofText text = .ok id :=
  (reads_ofText text).unique (.sessionId ⟨[], by simp, written⟩)

theorem Spelled.ofText {id : SessionId} {text : String} (spelled : id.Spelled text.toList) :
    ofText text = .ok id :=
  spelled.written.ofText

/-- No digit is a sign, so a session id is not taken for none. -/
theorem Spelled.ofOption {id : SessionId} {text : String} (spelled : id.Spelled text.toList) :
    ofOption text = .ok (some id) := by
  obtain ⟨digits, dropped, areDigits, number⟩ := (written_iff (by simp)).mp spelled.written
  have alone : Written [] (String.ofList (Text.trim text.toList)).toList id.value := by
    apply (written_iff (by simp)).mpr
    refine ⟨digits, ?_, areDigits, number⟩
    rwa [String.toList_ofList, Text.trim_trim]
  have some : String.ofList (Text.trim text.toList) ≠ "-1" := by
    intro none
    have letters : Text.trim text.toList = ['-', '1'] := by
      simpa using congrArg String.toList none
    rw [letters] at dropped
    have isDigit : '-' ∈ Text.hexadecimals := areDigits.digits '-' (by
      rw [← List.nil_append digits, ← dropped]
      decide)
    exact absurd isDigit (by decide)
  rw [SessionId.ofOption, if_neg some, alone.ofText]
  rfl

theorem spelled_text (id : SessionId) : id.Spelled id.text.toList := by
  have spelled := @Spelled.intro id [] [] id.text.toList [] nofun List.mem_cons_self
    List.mem_cons_self nofun
  rwa [List.append_nil] at spelled

/-- What is read back tells session ids apart. -/
theorem text_injective : Function.Injective text := by
  intro id other same
  have read := id.spelled_text.ofText
  rw [same, other.spelled_text.ofText] at read
  exact (Except.ok.inj read).symm

end SessionId

/-! ## Names -/

/-- The name of a socket is longer if it has a session id. -/
private theorem socketName_some_ne (id : SessionId) : socketName (some id) ≠ socketName none := by
  intro same
  have letters := congrArg (fun name => name.toList.length) same
  rw [socketName, socketName, String.toList_append, List.length_append, id.length_text] at letters
  exact absurd letters (by simp)

theorem socketName_injective : Function.Injective socketName := by
  intro id other same
  cases id with
  | none =>
    cases other with
    | none => rfl
    | some other => exact absurd same.symm (socketName_some_ne other)
  | some id =>
    cases other with
    | none => exact absurd same (socketName_some_ne id)
    | some other =>
      rw [socketName, socketName, String.append_right_inj] at same
      rw [SessionId.text_injective same]

theorem Endpoint.text_ofSession_injective :
    Function.Injective fun id => (Endpoint.ofSession id).text := by
  intro id other same
  exact socketName_injective ((String.append_right_inj "local:").mp same)

theorem socketPath_injective : Function.Injective socketPath := by
  intro name other same
  have letters := congrArg String.toList same
  rw [socketPath, socketPath, String.toList_ofList, String.toList_ofList] at letters
  exact String.toList_inj.mp (List.cons.inj letters).2

/-! ## Numbers -/

namespace SessionId

theorem ofNat_eq_ok_iff {value : Nat} {id : SessionId} :
    ofNat value = .ok id ↔ value ≤ 0x7FFFFFFF ∧ id.value = value := by
  unfold ofNat
  constructor
  · intro made
    split at made
    · next fits =>
      cases made
      exact ⟨Nat.le_of_lt_succ fits, rfl⟩
    · cases made
  · rintro ⟨_, rfl⟩
    exact dif_pos id.fits

theorem value_le_of_ofText {text : String} {id : SessionId} (read : ofText text = .ok id) :
    id.value ≤ 0x7FFFFFFF := by
  unfold ofText at read
  split at read
  · obtain ⟨within, same⟩ := ofNat_eq_ok_iff.mp read
    rwa [same]
  · cases read

theorem value_le_of_ofOption {text : String} {id : SessionId}
    (read : ofOption text = .ok (some id)) : id.value ≤ 0x7FFFFFFF := by
  unfold ofOption at read
  dsimp only at read
  split at read
  · cases read
  · cases isRead : ofText (String.ofList (Text.trim text.toList)) with
    | error fault =>
      rw [isRead] at read
      cases read
    | ok other =>
      rw [isRead] at read
      cases read
      exact value_le_of_ofText isRead

end SessionId

/-- A session id has one text, of eight digits, and is read from it however that is
spelled.  Servers with different session ids, or one without, differ in the names of their
sockets, as endpoints and as paths.  No session id has more than thirty-one bits, whether
it is made of a number or read from a text or an option. -/
theorem session_ids_are_told_apart :
    (∀ id : SessionId, id.text.toList.length = 8 ∧
      (∀ c ∈ id.text.toList, c ∈ Text.smallHexadecimals) ∧
      ∀ text : String, id.Spelled text.toList →
        SessionId.ofText text = .ok id ∧ SessionId.ofOption text = .ok (some id)) ∧
    Function.Injective socketName ∧
    (Function.Injective fun id => (Endpoint.ofSession id).text) ∧
    (Function.Injective fun id => socketPath (socketName id)) ∧
    (∀ value id, SessionId.ofNat value = .ok id ↔ value ≤ 0x7FFFFFFF ∧ id.value = value) ∧
    (∀ text id, SessionId.ofText text = .ok id → id.value ≤ 0x7FFFFFFF) ∧
    ∀ text id, SessionId.ofOption text = .ok (some id) → id.value ≤ 0x7FFFFFFF := by
  refine ⟨?_, socketName_injective, Endpoint.text_ofSession_injective,
    socketPath_injective.comp socketName_injective, fun _ _ => SessionId.ofNat_eq_ok_iff,
    fun _ _ => SessionId.value_le_of_ofText, fun _ _ => SessionId.value_le_of_ofOption⟩
  intro id
  exact ⟨id.length_text, fun _ => id.mem_smallHexadecimals,
    fun _ spelled => ⟨spelled.ofText, spelled.ofOption⟩⟩

/-- The first digits of a session id are not taken for a mark. -/
example : SessionId.ofText " 0X0000000b\n" = .ok ⟨11, by decide⟩ := by
  decide +kernel

end RemoteInput
