import RemoteInput.Proofs.Number.Literal
import RemoteInput.Proofs.Request.Numbers

/-!
# The forms of arguments

The arguments of each input command have a form: a list of fields, of which the first
few may not be left out.  A form refuses words for one reason only: too few of them, or
else the leftmost word that its field does not take, or else a word that no field is
left for.  `Form.Governs` says that a command reads its arguments just as its form says.
-/

namespace RemoteInput

namespace Request

/-- A field: the words that it takes, and the refusal of all others. -/
structure Field where
  Takes : List Char → Prop
  refusal : Refusal

/-- No word at an index is one that the field there does not take. -/
def Fits (fields : List Field) (words : List (List Char)) (index : Nat) : Prop :=
  ∀ expected word, fields[index]? = some expected → words[index]? = some word →
    expected.Takes word

/-- The first fault among words: a word that its field does not take, where all fields
before it take theirs, or a word too many, where all fields take theirs. -/
inductive FirstFault (fields : List Field) (words : List (List Char)) : Refusal → Prop where
  | bad {index : Nat} {expected : Field} {word : List Char}
      (isField : fields[index]? = some expected) (isWord : words[index]? = some word)
      (bad : ¬ expected.Takes word) (good : ∀ earlier < index, Fits fields words earlier) :
      FirstFault fields words expected.refusal
  | surplus (surplus : fields.length < words.length) (good : ∀ index, Fits fields words index) :
      FirstFault fields words .invalidArguments

/-- The form of arguments: their fields in order, and how many of them are needed. -/
structure Form where
  needed : Nat
  fields : List Field

namespace Form

/-- Words that fill a form: each is one that its field takes. -/
structure Accepts (form : Form) (words : List (List Char)) : Prop where
  enough : form.needed ≤ words.length
  within : words.length ≤ form.fields.length
  good : ∀ index, Fits form.fields words index

/-- Words that do not fill a form, and the refusal that this brings. -/
inductive Refuses (form : Form) (words : List (List Char)) : Refusal → Prop where
  | missing (few : words.length < form.needed) : form.Refuses words .invalidArguments
  | fault {refusal : Refusal} (enough : form.needed ≤ words.length)
      (first : FirstFault form.fields words refusal) : form.Refuses words refusal

end Form

/-! ## Faults -/

section

variable {fields : List Field} {words : List (List Char)} {first : Field} {word : List Char}

theorem fits_zero_iff : Fits (first :: fields) (word :: words) 0 ↔ first.Takes word := by
  simp [Fits]

theorem fits_succ_iff {index : Nat} :
    Fits (first :: fields) (word :: words) (index + 1) ↔ Fits fields words index := by
  simp [Fits]

theorem forall_fits_cons_iff :
    (∀ index, Fits (first :: fields) (word :: words) index) ↔
      first.Takes word ∧ ∀ index, Fits fields words index := by
  constructor
  · intro good
    exact ⟨fits_zero_iff.mp (good 0), fun index => fits_succ_iff.mp (good (index + 1))⟩
  · rintro ⟨takes, good⟩ index
    cases index with
    | zero => exact fits_zero_iff.mpr takes
    | succ index => exact fits_succ_iff.mpr (good index)

theorem FirstFault.here (bad : ¬ first.Takes word) :
    FirstFault (first :: fields) (word :: words) first.refusal := by
  have isField : (first :: fields)[0]? = some first := rfl
  have isWord : (word :: words)[0]? = some word := rfl
  exact .bad isField isWord bad nofun

theorem FirstFault.later {refusal : Refusal} (takes : first.Takes word)
    (fault : FirstFault fields words refusal) :
    FirstFault (first :: fields) (word :: words) refusal := by
  cases fault with
  | @bad index expected other isField isWord bad good =>
      have isField' : (first :: fields)[index + 1]? = some expected := isField
      have isWord' : (word :: words)[index + 1]? = some other := isWord
      -- The fault moves one place to the right, and the word that is new before it is good.
      refine .bad isField' isWord' bad ?_
      intro earlier before
      cases earlier with
      | zero => exact fits_zero_iff.mpr takes
      | succ earlier => exact fits_succ_iff.mpr (good earlier (by omega))
  | surplus surplus good =>
      exact .surplus (by simpa using surplus) (forall_fits_cons_iff.mpr ⟨takes, good⟩)

theorem firstFault_cons_iff {refusal : Refusal} (takes : first.Takes word) :
    FirstFault (first :: fields) (word :: words) refusal ↔ FirstFault fields words refusal := by
  refine ⟨?_, FirstFault.later takes⟩
  intro fault
  cases fault with
  | @bad index expected other isField isWord bad good =>
      cases index with
      | zero =>
          cases isField
          cases isWord
          exact absurd takes bad
      | succ index =>
          refine .bad isField isWord bad ?_
          intro earlier before
          exact fits_succ_iff.mp (good (earlier + 1) (Nat.succ_lt_succ before))
  | surplus surplus good =>
      exact .surplus (Nat.lt_of_succ_lt_succ surplus) (forall_fits_cons_iff.mp good).2

theorem FirstFault.refusal_mem {refusal : Refusal} (fault : FirstFault fields words refusal) :
    refusal ∈ .invalidArguments :: fields.map Field.refusal := by
  cases fault with
  | bad isField =>
      apply List.mem_cons_of_mem
      exact List.mem_map_of_mem (List.mem_of_getElem? isField)
  | surplus => exact List.mem_cons_self

/-- The leftmost bad word is one and the same, so it brings one refusal. -/
theorem FirstFault.unique {refusal other : Refusal} (fault : FirstFault fields words refusal)
    (again : FirstFault fields words other) : refusal = other := by
  cases fault with
  | @bad i expected word isField isWord bad good =>
      cases again with
      | @bad j expected' word' isField' isWord' bad' good' =>
          -- Whichever comes later has no bad word before it, so neither comes later.
          rcases Nat.lt_trichotomy i j with before | rfl | after
          · exact (bad (good' i before _ _ isField isWord)).elim
          · rw [Option.some.inj (isField.symm.trans isField')]
          · exact (bad' (good j after _ _ isField' isWord')).elim
      | surplus surplus good' => exact (bad (good' i _ _ isField isWord)).elim
  | surplus surplus good =>
      cases again with
      | bad isField' isWord' bad' good' => exact (bad' (good _ _ _ isField' isWord')).elim
      | surplus surplus' good' => rfl

end

namespace Form

variable {form : Form} {words : List (List Char)}

theorem Refuses.unique {refusal other : Refusal} (refuses : form.Refuses words refusal)
    (again : form.Refuses words other) : refusal = other := by
  cases refuses with
  | missing few =>
      cases again with
      | missing few' => rfl
      | fault enough first => omega
  | fault enough first =>
      cases again with
      | missing few => omega
      | fault enough' first' => exact first.unique first'

theorem Accepts.not_refuses {refusal : Refusal} (accepts : form.Accepts words) :
    ¬ form.Refuses words refusal := by
  have enough := accepts.enough
  have within := accepts.within
  intro refuses
  cases refuses with
  | missing few => omega
  | fault _ first =>
      cases first with
      | bad isField isWord bad _ => exact bad (accepts.good _ _ _ isField isWord)
      | surplus surplus _ => omega

/-- A command reads its arguments as a form says: it refuses what the form refuses, for
the same reason, it accepts the rest, and it reads the values that the words spell. -/
structure Governs {α : Type} (form : Form) (ofArguments : String → Except Refusal α)
    (Spelled : List (List Char) → α → Prop) : Prop where
  refuses : ∀ (arguments : String) (refusal : Refusal), ofArguments arguments = .error refusal ↔
    form.Refuses (Text.words arguments.toList) refusal
  accepts : ∀ arguments : String, (∃ value, ofArguments arguments = .ok value) ↔
    form.Accepts (Text.words arguments.toList)
  reads : ∀ (arguments : String) (value : α), ofArguments arguments = .ok value ↔
    Spelled (Text.words arguments.toList) value

end Form

/-! ## Reading fields from left to right -/

section

variable {α β : Type} {fields : List Field} {words : List (List Char)} {first : Field}
  {word : List Char}

/-- What came of reading words for fields agrees with the words. -/
def Judges (fields : List Field) (words : List (List Char)) : Except Refusal α → Prop
  | .ok _ => words.length ≤ fields.length ∧ ∀ index, Fits fields words index
  | .error refusal => FirstFault fields words refusal

theorem judges_nil (value : α) : Judges fields [] (.ok value) :=
  ⟨Nat.zero_le _, fun _ _ _ _ isWord => nomatch isWord⟩

theorem Judges.cons {read : Except Refusal α} (takes : first.Takes word)
    (later : Judges fields words read) : Judges (first :: fields) (word :: words) read := by
  cases read with
  | ok value =>
      obtain ⟨within, good⟩ := later
      exact ⟨Nat.succ_le_succ within, forall_fits_cons_iff.mpr ⟨takes, good⟩⟩
  | error refusal => exact FirstFault.later takes later

theorem judges_field {read : List Char → Option β} {next : β → Except Refusal α}
    (takes : (read word).isSome ↔ first.Takes word)
    (later : ∀ value, Judges fields words (next value)) :
    Judges (first :: fields) (word :: words) (field read first.refusal word >>= next) := by
  unfold field
  cases isRead : read word with
  | some value => exact (later value).cons (takes.mp (Option.isSome_of_eq_some isRead))
  | none =>
      apply FirstFault.here
      rw [← takes, isRead]
      exact nofun

theorem judges_noMore (value : α) : Judges [] words (noMore words >>= fun _ => .ok value) := by
  cases words with
  | nil => exact judges_nil value
  | cons word words => exact FirstFault.surplus (Nat.succ_pos _) fun _ _ _ isField => nomatch isField

/-- What came of the arguments of a form: too few words are refused, and enough are
judged. -/
def Form.Judges (form : Form) (words : List (List Char)) (read : Except Refusal α) : Prop :=
  words.length < form.needed ∧ read = .error .invalidArguments ∨
    form.needed ≤ words.length ∧ Request.Judges form.fields words read

theorem Form.Judges.refuses {form : Form} {refusal : Refusal}
    (judges : form.Judges words (.error refusal : Except Refusal α)) :
    form.Refuses words refusal := by
  rcases judges with ⟨few, same⟩ | ⟨enough, fault⟩
  · cases same
    exact .missing few
  · exact .fault enough fault

theorem Form.Judges.accepts {form : Form} {value : α} (judges : form.Judges words (.ok value)) :
    form.Accepts words := by
  rcases judges with ⟨_, same⟩ | ⟨enough, within, good⟩
  · cases same
  · exact ⟨enough, within, good⟩

theorem Form.governs_of_judges {form : Form} {ofArguments : String → Except Refusal α}
    {Spelled : List (List Char) → α → Prop}
    (judges : ∀ arguments : String,
      form.Judges (Text.words arguments.toList) (ofArguments arguments))
    (reads : ∀ (arguments : String) (value : α), ofArguments arguments = .ok value ↔
      Spelled (Text.words arguments.toList) value) :
    form.Governs ofArguments Spelled := by
  refine ⟨?_, ?_, reads⟩
  · intro arguments refusal
    have judged := judges arguments
    cases result : ofArguments arguments with
    | ok value =>
        rw [result] at judged
        exact ⟨nofun, fun refused => (judged.accepts.not_refuses refused).elim⟩
    | error other =>
        rw [result] at judged
        constructor
        · rintro ⟨⟩
          exact judged.refuses
        · intro refused
          rw [judged.refuses.unique refused]
  · intro arguments
    have judged := judges arguments
    cases result : ofArguments arguments with
    | ok value =>
        rw [result] at judged
        exact ⟨fun _ => judged.accepts, fun _ => ⟨value, rfl⟩⟩
    | error refusal =>
        rw [result] at judged
        exact ⟨nofun, fun accepted => (accepted.not_refuses judged.refuses).elim⟩

end

/-! ## The fields -/

theorem isSome_int32?_iff {word : List Char} : (Text.int32? word).isSome ↔ IsInt32 word := by
  rw [Option.isSome_iff_exists]
  simp only [Text.int32?_eq_some_iff]
  exact ⟨fun ⟨_, numeral⟩ => isInt32_of_numeral numeral, IsInt32.numeral⟩

def numberField (refusal : Refusal) : Field :=
  ⟨IsInt32, refusal⟩

def literalField (refusal : Refusal) : Field :=
  ⟨Binary32.Literal, refusal⟩

def wordField : Field :=
  ⟨fun _ => True, .invalidArguments⟩

theorem judges_number {α : Type} {fields : List Field} {words : List (List Char)}
    {word : List Char} {refusal : Refusal} {next : Int32 → Except Refusal α}
    (later : ∀ value, Judges fields words (next value)) :
    Judges (numberField refusal :: fields) (word :: words)
      (field Text.int32? refusal word >>= next) :=
  judges_field isSome_int32?_iff later

theorem judges_literal {α : Type} {fields : List Field} {words : List (List Char)}
    {word : List Char} {refusal : Refusal} {next : Binary32 → Except Refusal α}
    (later : ∀ value, Judges fields words (next value)) :
    Judges (literalField refusal :: fields) (word :: words)
      (field Binary32.ofLiteral? refusal word >>= next) :=
  judges_field Binary32.isSome_ofLiteral?_iff later

/-! ## Taps -/

def Tap.form : Form where
  needed := 2
  fields := [numberField .invalidCoordinates, numberField .invalidCoordinates,
    literalField .invalidPressure, numberField .invalidButtons]

/-- The words that spell a tap: two numerals for its place, a literal for its pressure
and a numeral for its buttons.  Pressure is one and there are no buttons if no word says
otherwise. -/
inductive Tap.Spelled : List (List Char) → Tap → Prop where
  | place {x y : List Char} {tap : Tap}
      (first : Text.Numeral x tap.x.toInt) (second : Text.Numeral y tap.y.toInt)
      (full : tap.pressure = Binary32.ofInt 1) (none : tap.buttons = 0) :
      Tap.Spelled [x, y] tap
  | pressed {x y pressure : List Char} {tap : Tap}
      (first : Text.Numeral x tap.x.toInt) (second : Text.Numeral y tap.y.toInt)
      (third : Binary32.ofLiteral? pressure = some tap.pressure) (none : tap.buttons = 0) :
      Tap.Spelled [x, y, pressure] tap
  | complete {x y pressure buttons : List Char} {tap : Tap}
      (first : Text.Numeral x tap.x.toInt) (second : Text.Numeral y tap.y.toInt)
      (third : Binary32.ofLiteral? pressure = some tap.pressure)
      (fourth : Text.Numeral buttons tap.buttons.toInt) :
      Tap.Spelled [x, y, pressure, buttons] tap

theorem fullPressure_eq : fullPressure = Binary32.ofInt 1 := by
  decide +kernel

theorem field_literal_eq_ok_iff {refusal : Refusal} {word : List Char} {value : Binary32} :
    field Binary32.ofLiteral? refusal word = .ok value ↔
      Binary32.ofLiteral? word = some value := by
  unfold field
  cases Binary32.ofLiteral? word <;> simp

theorem Tap.ofArguments_eq_ok_iff {arguments : String} {tap : Tap} :
    Tap.ofArguments arguments = .ok tap ↔
      Tap.Spelled (Text.words arguments.toList) tap := by
  unfold Tap.ofArguments
  generalize Text.words arguments.toList = words
  constructor
  · intro read
    split at read
    · next x y rest =>
      simp only [bind_eq_ok_iff, coordinate, field_int32_eq_ok_iff] at read
      obtain ⟨_, first, _, second, read⟩ := read
      cases rest with
      | nil =>
          cases read
          exact .place first second fullPressure_eq rfl
      | cons pressure rest =>
          simp only [bind_eq_ok_iff, field_literal_eq_ok_iff] at read
          obtain ⟨_, third, read⟩ := read
          cases rest with
          | nil =>
              cases read
              exact .pressed first second third rfl
          | cons buttons rest =>
              simp only [bind_eq_ok_iff, field_int32_eq_ok_iff, noMore_eq_ok_iff,
                Except.ok.injEq] at read
              obtain ⟨_, fourth, _, rfl, rfl⟩ := read
              exact .complete first second third fourth
    · cases read
  · intro spelled
    cases spelled with
    | place first second full none =>
        simp only [bind_eq_ok_iff, coordinate, field_int32_eq_ok_iff]
        refine ⟨_, first, _, second, ?_⟩
        rw [fullPressure_eq, noButtons, ← full, ← none]
    | pressed first second third none =>
        simp only [bind_eq_ok_iff, coordinate, field_int32_eq_ok_iff, field_literal_eq_ok_iff]
        refine ⟨_, first, _, second, _, third, ?_⟩
        rw [noButtons, ← none]
    | complete first second third fourth =>
        simp only [bind_eq_ok_iff, coordinate, field_int32_eq_ok_iff, field_literal_eq_ok_iff,
          noMore_eq_ok_iff]
        exact ⟨_, first, _, second, _, third, _, fourth, (), trivial, rfl⟩

theorem Tap.form_governs : Tap.form.Governs Tap.ofArguments Tap.Spelled := by
  refine Form.governs_of_judges ?_ fun _ _ => Tap.ofArguments_eq_ok_iff
  intro arguments
  unfold Tap.ofArguments
  generalize Text.words arguments.toList = words
  match words with
  | [] | [_] => exact .inl ⟨by simp [Tap.form], rfl⟩
  | x :: y :: rest =>
      refine .inr ⟨by simp [Tap.form], ?_⟩
      apply judges_number
      intro x
      apply judges_number
      intro y
      cases rest with
      | nil => exact judges_nil _
      | cons pressure rest =>
          apply judges_literal
          intro pressure
          cases rest with
          | nil => exact judges_nil _
          | cons buttons rest =>
              apply judges_number
              intro buttons
              exact judges_noMore _

/-! ## Swipes -/

def Swipe.form : Form where
  needed := 5
  fields := [numberField .invalidCoordinates, numberField .invalidCoordinates,
    numberField .invalidCoordinates, numberField .invalidCoordinates,
    numberField .invalidArguments]

theorem Swipe.form_governs : Swipe.form.Governs Swipe.ofArguments Swipe.Spelled := by
  refine Form.governs_of_judges ?_ fun _ _ => Swipe.ofArguments_eq_ok_iff
  intro arguments
  unfold Swipe.ofArguments
  generalize Text.words arguments.toList = words
  match words with
  | [] | [_] | [_, _] | [_, _, _] | [_, _, _, _] => exact .inl ⟨by simp [Swipe.form], rfl⟩
  | x1 :: y1 :: x2 :: y2 :: duration :: rest =>
      refine .inr ⟨by simp [Swipe.form], ?_⟩
      iterate 5
        apply judges_number
        intro _
      exact judges_noMore _

/-! ## Keys -/

def KeyPress.form : Form where
  needed := 1
  fields := [numberField .invalidKeycode, wordField]

theorem KeyPress.form_governs :
    KeyPress.form.Governs KeyPress.ofArguments KeyPress.Spelled := by
  refine Form.governs_of_judges ?_ fun _ _ => KeyPress.ofArguments_eq_ok_iff
  intro arguments
  unfold KeyPress.ofArguments
  generalize Text.words arguments.toList = words
  match words with
  | [] => exact .inl ⟨by simp [KeyPress.form], rfl⟩
  | code :: rest =>
      refine .inr ⟨by simp [KeyPress.form], ?_⟩
      apply judges_number
      intro code
      cases rest with
      | nil => exact judges_nil _
      | cons action rest => exact (judges_noMore _).cons trivial

def KeyAction.names : List (KeyAction × List Char) :=
  [(.down, "down".toList), (.up, "up".toList), (.both, "both".toList)]

/-- What a word names: a known action in any letter case, and itself otherwise. -/
inductive KeyAction.Named (word : String) : KeyAction → Prop where
  | known {action : KeyAction} {name : List Char} (isName : (action, name) ∈ names)
      (spelled : Text.AnyCase word.toList name) : Named word action
  | kept (other : ∀ known ∈ names, ¬ Text.AnyCase word.toList known.2) :
      Named word (.unrecognized word)

private theorem lower_eq_name_iff {word : List Char} :
    ∀ known ∈ KeyAction.names, (Text.lower word = known.2 ↔ Text.AnyCase word known.2) := by
  have small : ∀ known ∈ KeyAction.names, Text.lower known.2 = known.2 := by decide
  exact fun known isName => Text.lower_eq_iff (small known isName)

theorem KeyAction.named_ofWord (word : String) : Named word (ofWord word) := by
  have spelled := @lower_eq_name_iff word.toList
  unfold ofWord
  dsimp only
  split
  · next isDown => exact .known (by decide) ((spelled (.down, _) (by decide)).mp isDown)
  split
  · next isUp => exact .known (by decide) ((spelled (.up, _) (by decide)).mp isUp)
  split
  · next isBoth => exact .known (by decide) ((spelled (.both, _) (by decide)).mp isBoth)
  next notDown notUp notBoth =>
  refine .kept ?_
  intro known isName
  rw [← spelled known isName]
  simp only [names, List.mem_cons, List.not_mem_nil, or_false] at isName
  rcases isName with rfl | rfl | rfl
  · exact notDown
  · exact notUp
  · exact notBoth

theorem KeyAction.Named.unique {word : String} {action other : KeyAction}
    (named : Named word action) (again : Named word other) : action = other := by
  have apart : ∀ known ∈ names, ∀ known' ∈ names, known.2 = known'.2 → known.1 = known'.1 := by
    decide
  cases named with
  | known isName spelled =>
      cases again with
      | known isName' spelled' =>
          have isLower := (lower_eq_name_iff _ isName).mpr spelled
          have isLower' := (lower_eq_name_iff _ isName').mpr spelled'
          exact apart _ isName _ isName' (isLower.symm.trans isLower')
      | kept none => exact (none _ isName spelled).elim
  | kept none =>
      cases again with
      | known isName' spelled' => exact (none _ isName' spelled').elim
      | kept none' => rfl

theorem KeyAction.ofWord_eq_iff {word : String} {action : KeyAction} :
    ofWord word = action ↔ Named word action := by
  refine ⟨?_, fun named => (named_ofWord word).unique named⟩
  rintro rfl
  exact named_ofWord word

/-- Each command refuses its arguments for their first fault only: too few words, then
the leftmost word that its field does not take, then a word too many; and it accepts
them just if every word is one that its field takes.  An action is any word: the known
ones count in any letter case, and the others are kept. -/
theorem arguments_are_read_by_forms :
    Tap.form.Governs Tap.ofArguments Tap.Spelled ∧
      Swipe.form.Governs Swipe.ofArguments Swipe.Spelled ∧
      KeyPress.form.Governs KeyPress.ofArguments KeyPress.Spelled ∧
      ∀ (word : String) (action : KeyAction),
        KeyAction.ofWord word = action ↔ KeyAction.Named word action :=
  ⟨Tap.form_governs, Swipe.form_governs, KeyPress.form_governs, fun _ _ =>
    KeyAction.ofWord_eq_iff⟩

/-- Of three faults in the arguments of a tap, the leftmost counts. -/
example : Tap.ofArguments "1 2 heavy left more" = .error .invalidPressure := by
  decide

end Request

end RemoteInput
