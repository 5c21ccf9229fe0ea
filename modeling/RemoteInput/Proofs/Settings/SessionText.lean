import RemoteInput.Proofs.Text.Hexadecimal
import RemoteInput.Proofs.Text.Words
import RemoteInput.Settings

/-!
# What texts are session ids

A session id is written with hexadecimal digits, as many as one likes, behind their mark or
without it.  `Meant` is the answer that such a text should get, and any other.  A plus sign is
read too, and a number of more than sixty-four bits is taken for no number: these are the two
ways in which the answer is not the one that is meant.
-/

namespace RemoteInput

namespace SessionId

/-- Hexadecimal digits of a number behind a sign, perhaps behind the mark of a hexadecimal
number, and blanks around them. -/
inductive Written (sign : List Char) : List Char → Nat → Prop where
  | intro {before mark digits after : List Char} (blankBefore : Text.Blank before)
      (isMark : mark ∈ [[], ['0', 'x'], ['0', 'X']]) (areDigits : Text.Hexadecimals digits)
      (blankAfter : Text.Blank after) :
      Written sign (before ++ (mark ++ (sign ++ digits) ++ after)) (Text.hexadecimalNumber digits)

/-- A number without sign, or with a plus sign. -/
def Accepted (letters : List Char) (value : Nat) : Prop :=
  ∃ sign ∈ [[], ['+']], Written sign letters value

/-- The answer that a text should get. -/
inductive Meant (text : String) : Except ReadError SessionId → Prop where
  | sessionId {id : SessionId} (written : Written [] text.toList id.value) : Meant text (.ok id)
  | tooLarge {value : Nat} (written : Written [] text.toList value)
      (large : 0x7FFFFFFF < value) : Meant text (.error (.outOfRange value))
  | noNumber (unwritten : ∀ value, ¬ Written [] text.toList value) :
      Meant text (.error (.notHexadecimal text))

/-- The answer that a text gets. -/
inductive Reads (text : String) : Except ReadError SessionId → Prop where
  | sessionId {id : SessionId} (accepted : Accepted text.toList id.value) : Reads text (.ok id)
  | tooLarge {value : Nat} (accepted : Accepted text.toList value) (large : 0x7FFFFFFF < value)
      (small : value < 2 ^ 64) : Reads text (.error (.outOfRange value))
  | noNumber (unread : ∀ value, Accepted text.toList value → 2 ^ 64 ≤ value) :
      Reads text (.error (.notHexadecimal text))

/-! ## Marks -/

theorem exists_mark (text : List Char) :
    ∃ mark ∈ [[], ['0', 'x'], ['0', 'X']], text = mark ++ dropMark text := by
  unfold dropMark
  split
  · exact ⟨['0', 'x'], by simp, rfl⟩
  · exact ⟨['0', 'X'], by simp, rfl⟩
  · exact ⟨[], by simp, rfl⟩

theorem dropMark_append {mark rest : List Char} (isMark : mark ∈ [[], ['0', 'x'], ['0', 'X']])
    (plain : ∀ c ∈ rest, c ≠ 'x' ∧ c ≠ 'X') : dropMark (mark ++ rest) = rest := by
  simp only [List.mem_cons, List.not_mem_nil, or_false] at isMark
  rcases isMark with rfl | rfl | rfl
  · rw [List.nil_append]
    unfold dropMark
    split
    · exact absurd rfl (plain 'x' (by simp)).1
    · exact absurd rfl (plain 'X' (by simp)).2
    · rfl
  · rfl
  · rfl

/-! ## Numbers -/

section

variable {sign digits : List Char} (isSign : sign ∈ [[], ['+']])

include isSign

theorem mem_signed (areDigits : Text.Hexadecimals digits) :
    ∀ c ∈ sign ++ digits, c ∈ '+' :: Text.hexadecimals := by
  intro c member
  rcases List.mem_append.mp member with inSign | isDigit
  · rcases List.mem_pair.mp isSign with rfl | rfl
    · cases inSign
    · simp [List.mem_singleton.mp inSign]
  · exact List.mem_cons_of_mem _ (areDigits.digits c isDigit)

theorem solid_marked {mark : List Char} (isMark : mark ∈ [[], ['0', 'x'], ['0', 'X']])
    (areDigits : Text.Hexadecimals digits) : Text.Solid (mark ++ (sign ++ digits)) := by
  have inMark : ∀ mark ∈ [[], ['0', 'x'], ['0', 'X']],
      mark.Forall fun c => Text.isBlank c = false := by
    decide
  have signed : ∀ c ∈ '+' :: Text.hexadecimals, Text.isBlank c = false :=
    List.forall_iff_forall_mem.mp (by decide)
  constructor
  · simp [areDigits.nonempty]
  · intro c member
    rcases List.mem_append.mp member with first | later
    · exact List.forall_iff_forall_mem.mp (inMark mark isMark) c first
    · exact signed c (mem_signed isSign areDigits c later)

theorem written_iff {letters : List Char} {value : Nat} :
    Written sign letters value ↔ ∃ digits, dropMark (Text.trim letters) = sign ++ digits ∧
      Text.Hexadecimals digits ∧ value = Text.hexadecimalNumber digits := by
  constructor
  · intro written
    cases written with
    | @intro before mark digits after blankBefore isMark areDigits blankAfter =>
        have plain : ∀ c ∈ '+' :: Text.hexadecimals, c ≠ 'x' ∧ c ≠ 'X' :=
          List.forall_iff_forall_mem.mp (by decide)
        refine ⟨digits, ?_, areDigits, rfl⟩
        rw [Text.trim_of_blank blankBefore (solid_marked isSign isMark areDigits) blankAfter]
        apply dropMark_append isMark
        intro c member
        exact plain c (mem_signed isSign areDigits c member)
  · rintro ⟨digits, dropped, areDigits, rfl⟩
    obtain ⟨before, after, blankBefore, blankAfter, parts⟩ := Text.exists_blanks letters
    obtain ⟨mark, isMark, marked⟩ := exists_mark (Text.trim letters)
    rw [dropped] at marked
    rw [parts, marked]
    exact .intro blankBefore isMark areDigits blankAfter

end

/-- A number is not written with a sign and without. -/
theorem Written.unsigned {letters : List Char} {value other : Nat}
    (written : Written [] letters value) : ¬ Written ['+'] letters other := by
  intro signed
  obtain ⟨digits, dropped, areDigits, _⟩ := (written_iff (by simp)).mp written
  obtain ⟨_, plus, _, _⟩ := (written_iff (by simp)).mp signed
  have isDigit : '+' ∈ Text.hexadecimals := areDigits.digits '+' (by
    rw [List.nil_append] at dropped
    simp [← dropped, plus])
  exact absurd isDigit (by decide)

theorem accepted_iff {letters : List Char} {value : Nat} :
    Accepted letters value ↔ ∃ sign ∈ [[], ['+']], ∃ digits,
      dropMark (Text.trim letters) = sign ++ digits ∧ Text.Hexadecimals digits ∧
        value = Text.hexadecimalNumber digits := by
  unfold Accepted
  constructor
  · rintro ⟨sign, isSign, written⟩
    exact ⟨sign, isSign, (written_iff isSign).mp written⟩
  · rintro ⟨sign, isSign, digits⟩
    exact ⟨sign, isSign, (written_iff isSign).mpr digits⟩

private theorem unsignedDigits_eq_ok_iff {bound value : Nat} (nonempty : 0 < bound)
    {digits : List Char} (some : digits ≠ []) :
    Text.unsignedDigits 16 bound digits = .ok value ↔
      (Text.Hexadecimals digits ∧ value = Text.hexadecimalNumber digits) ∧ value < bound := by
  rw [Text.unsignedDigits_eq_ok_iff (by decide) nonempty, Text.digitsValue?_eq_some_iff]
  constructor
  · rintro ⟨⟨areDigits, number⟩, below⟩
    exact ⟨⟨⟨some, areDigits⟩, number⟩, below⟩
  · rintro ⟨⟨areDigits, number⟩, below⟩
    exact ⟨⟨areDigits.digits, number⟩, below⟩

/-- What is read below a bound is an accepted number. -/
theorem unsigned_eq_ok_iff {letters : List Char} {value bound : Nat} (nonempty : 0 < bound) :
    Text.unsigned 16 bound (dropMark (Text.trim letters)) = .ok value ↔
      Accepted letters value ∧ value < bound := by
  rw [accepted_iff]
  generalize dropMark (Text.trim letters) = text
  constructor
  · intro read
    unfold Text.unsigned at read
    split at read
    · cases read
    · cases read
    · next digits some =>
      obtain ⟨number, below⟩ := (unsignedDigits_eq_ok_iff nonempty some).mp read
      exact ⟨⟨['+'], by simp, digits, rfl, number⟩, below⟩
    · next some _ _ =>
      obtain ⟨number, below⟩ := (unsignedDigits_eq_ok_iff nonempty some).mp read
      exact ⟨⟨[], by simp, text, rfl, number⟩, below⟩
  · rintro ⟨⟨sign, isSign, digits, rfl, areDigits, number⟩, below⟩
    have read := (unsignedDigits_eq_ok_iff nonempty areDigits.nonempty).mpr
      ⟨⟨areDigits, number⟩, below⟩
    rcases List.mem_pair.mp isSign with rfl | rfl
    · rw [List.nil_append]
      unfold Text.unsigned
      split
      · exact absurd rfl areDigits.nonempty
      · exact absurd (areDigits.digits '+' (by simp)) (by decide)
      · exact absurd (areDigits.digits '+' (by simp)) (by decide)
      · exact read
    · rwa [List.singleton_append, Text.unsigned.eq_3 _ _ _ areDigits.nonempty]

theorem Accepted.unique {letters : List Char} {value other : Nat}
    (accepted : Accepted letters value) (also : Accepted letters other) : value = other := by
  have positive : 0 < value + other + 1 := by omega
  have read := (unsigned_eq_ok_iff positive).mpr ⟨accepted, by omega⟩
  have again := (unsigned_eq_ok_iff positive).mpr ⟨also, by omega⟩
  rw [read] at again
  exact Except.ok.inj again

/-! ## Answers -/

theorem reads_ofText (text : String) : Reads text (ofText text) := by
  unfold ofText
  split
  · next value read =>
    obtain ⟨accepted, small⟩ := (unsigned_eq_ok_iff (by decide)).mp read
    unfold ofNat
    split
    · exact .sessionId accepted
    · next large => exact .tooLarge accepted (Nat.le_of_not_lt large) small
  · next fault refused =>
    apply Reads.noNumber
    intro value accepted
    by_contra small
    have read := (unsigned_eq_ok_iff (by decide)).mpr ⟨accepted, Nat.lt_of_not_le small⟩
    exact absurd (refused.symm.trans read) nofun

theorem Reads.unique {text : String} {answer other : Except ReadError SessionId}
    (reads : Reads text answer) (also : Reads text other) : answer = other := by
  have small : ∀ id : SessionId, id.value < 2 ^ 31 := fun id => id.fits
  cases reads with
  | @sessionId id accepted =>
      have fits := small id
      cases also with
      | @sessionId second again =>
          obtain ⟨value, _⟩ := id
          obtain ⟨_, _⟩ := second
          cases accepted.unique again
          rfl
      | tooLarge again large => have same := accepted.unique again; omega
      | noNumber unread => have large := unread _ accepted; omega
  | tooLarge accepted large below =>
      cases also with
      | @sessionId id again =>
          have fits := small id
          have same := accepted.unique again
          omega
      | tooLarge again => rw [accepted.unique again]
      | noNumber unread => have large := unread _ accepted; omega
  | noNumber unread =>
      cases also with
      | @sessionId id again =>
          have fits := small id
          have large := unread _ again
          omega
      | tooLarge again => have large := unread _ again; omega
      | noNumber => rfl

/-- The answer that a text gets is the one that it should get if no sign is read and no
number is too long. -/
theorem meant_ofText_iff (text : String) :
    Meant text (ofText text) ↔
      (∀ value, Written ['+'] text.toList value → 2 ^ 64 ≤ value) ∧
        ∀ value, Written [] text.toList value → value < 2 ^ 64 := by
  have accepted : ∀ {value}, Written [] text.toList value → Accepted text.toList value :=
    fun written => ⟨[], by simp, written⟩
  have signed : ∀ {value}, Written ['+'] text.toList value → Accepted text.toList value :=
    fun written => ⟨['+'], by simp, written⟩
  have fine : ∀ {value}, Written [] text.toList value → value < 2 ^ 64 →
      (∀ value, Written ['+'] text.toList value → 2 ^ 64 ≤ value) ∧
        ∀ value, Written [] text.toList value → value < 2 ^ 64 := by
    intro value written below
    constructor
    · intro other also
      exact absurd also written.unsigned
    · intro other also
      rwa [(accepted also).unique (accepted written)]
  have reads := reads_ofText text
  generalize ofText text = answer at reads
  constructor
  · intro meant
    cases meant with
    | @sessionId id written => exact fine written (id.fits.trans (by decide))
    | tooLarge written large =>
        cases reads with
        | tooLarge _ _ below => exact fine written below
    | noNumber unwritten =>
        cases reads with
        | noNumber unread =>
            constructor
            · intro value written
              exact unread value (signed written)
            · intro value written
              exact absurd written (unwritten value)
  · rintro ⟨unsigned, short⟩
    have written : ∀ {value}, Accepted text.toList value → value < 2 ^ 64 →
        Written [] text.toList value := by
      rintro value ⟨sign, isSign, written⟩ below
      rcases List.mem_pair.mp isSign with rfl | rfl
      · exact written
      · have large := unsigned value written
        omega
    cases reads with
    | @sessionId id number => exact .sessionId (written number (id.fits.trans (by decide)))
    | tooLarge number large below => exact .tooLarge (written number below) large
    | noNumber unread =>
        apply Meant.noNumber
        intro value isWritten
        have large := unread value (accepted isWritten)
        have below := short value isWritten
        omega

/-- A text gets the answer that `Reads` says, and no other: a number behind a plus sign is
read, and a number of more than sixty-four bits is taken for no number.  Every other text
gets the answer that is meant. -/
theorem texts_are_read (text : String) :
    (∀ answer, ofText text = answer ↔ Reads text answer) ∧
    (Meant text (ofText text) ↔
      (∀ value, Written ['+'] text.toList value → 2 ^ 64 ≤ value) ∧
        ∀ value, Written [] text.toList value → value < 2 ^ 64) := by
  refine ⟨?_, meant_ofText_iff text⟩
  intro answer
  constructor
  · rintro rfl
    exact reads_ofText text
  · exact (reads_ofText text).unique

/-- A number of sixty-five bits should be too large, and a sign should not be read. -/
theorem large_and_signed_numbers_are_misread :
    Written [] "10000000000000000".toList (16 ^ 16) ∧
    ofText "10000000000000000" = .error (.notHexadecimal "10000000000000000") ∧
    ¬ Meant "10000000000000000" (ofText "10000000000000000") ∧
    (∀ value, ¬ Written [] "+1".toList value) ∧
    ofText "+1" = .ok ⟨1, by decide⟩ ∧
    ¬ Meant "+1" (ofText "+1") := by
  have large : Written [] "10000000000000000".toList (16 ^ 16) := by
    apply (written_iff (by simp)).mpr
    refine ⟨"10000000000000000".toList, by decide +kernel, ⟨by decide, ?_⟩, by decide +kernel⟩
    exact List.forall_iff_forall_mem.mp (by decide +kernel)
  have signed : Written ['+'] "+1".toList 1 := by
    apply (written_iff (by simp)).mpr
    exact ⟨['1'], by decide +kernel, ⟨by decide, List.forall_iff_forall_mem.mp (by decide)⟩, rfl⟩
  refine ⟨large, by decide +kernel, ?_, ?_, by decide +kernel, ?_⟩
  · intro meant
    have short := ((meant_ofText_iff _).mp meant).2 _ large
    exact absurd short (by decide)
  · intro value written
    exact written.unsigned signed
  · intro meant
    have long := ((meant_ofText_iff _).mp meant).1 _ signed
    exact absurd long (by decide)

end SessionId

end RemoteInput
