import Mathlib.Data.List.DropRight
import RemoteInput.Proofs.Text.Base64
import RemoteInput.Reply

/-!
# Reading replies back

A payload may be any text, and then a reply need not be what is read back from
its line.  `OneLine` replies have a payload that is not empty and holds no line
end, and those are read back as they are: `read_render`.  So are all `Legible`
replies, whose payload only does not end in a line end, and there is nothing else
to be read but their lines and one more: `read_accepts_rendered`.
-/

namespace RemoteInput

namespace Reply

/-- A reply whose line holds no line end and which is read back from it. -/
inductive OneLine : Reply → Prop where
  | done : OneLine done
  | payload {payload : String} (nonempty : payload ≠ "")
      (clean : payload.toList.any isLineEnd = false) :
      OneLine (.ok (some payload))
  | err (refusal : Refusal) : OneLine (.err refusal)

theorem oneLine_okWith {payload : String}
    (clean : payload.toList.any isLineEnd = false) :
    OneLine (okWith payload) := by
  unfold okWith
  by_cases empty : payload = ""
  · rw [if_pos empty]
    exact .done
  · rw [if_neg empty]
    exact .payload empty clean

theorem oneLine_ofResult (result : Except Refusal Unit) :
    OneLine (ofResult result) := by
  cases result with
  | ok => exact .done
  | error refusal => exact .err refusal

private theorem isLineEnd_code (refusal : Refusal) :
    refusal.code.toList.any isLineEnd = false := by
  cases refusal <;> decide

/-- The line of a reply holds no line end. -/
theorem OneLine.clean {reply : Reply} (oneLine : reply.OneLine) :
    reply.render.toList.any isLineEnd = false := by
  cases oneLine with
  | done => decide
  | payload nonempty clean =>
      unfold render
      rw [String.toList_append, List.any_append, clean]
      decide
  | err refusal =>
      unfold render
      rw [String.toList_append, List.any_append, isLineEnd_code]
      decide

/-! ## Lines without their ends -/

/-- A text that does not end in a line end. -/
def Unended (text : List Char) : Prop :=
  ∀ c ∈ text.getLast?, isLineEnd c = false

theorem stripLineEnds_eq (line : List Char) : stripLineEnds line = line.rdropWhile isLineEnd :=
  rfl

/-- A line is what is left of it without its line ends, and those. -/
theorem stripLineEnds_append (line : List Char) :
    Unended (stripLineEnds line) ∧
      ∃ ends, (∀ c ∈ ends, isLineEnd c = true) ∧ line = stripLineEnds line ++ ends := by
  constructor
  · intro c isLast
    obtain ⟨nonempty, rfl⟩ := List.mem_getLast?_eq_getLast isLast
    exact Bool.eq_false_iff.mpr (List.rdropWhile_last_not isLineEnd line nonempty)
  · refine ⟨line.rtakeWhile isLineEnd, fun c => List.mem_rtakeWhile_imp, ?_⟩
    exact List.rdropWhile_append_rtakeWhile.symm

theorem stripLineEnds_of_unended {line : List Char} (unended : Unended line) :
    stripLineEnds line = line := by
  rw [stripLineEnds_eq, List.rdropWhile_eq_self_iff]
  intro nonempty
  exact Bool.eq_false_iff.mp (unended _ (List.getLast_mem_getLast? nonempty))

theorem unended_of_clean {text : List Char} (clean : text.any isLineEnd = false) :
    Unended text := by
  intro c isLast
  exact Bool.eq_false_iff.mpr (List.any_eq_false.mp clean c (List.mem_of_getLast? isLast))

theorem Unended.of_append {front back : List Char} (unended : Unended (front ++ back)) :
    Unended back := by
  intro c isLast
  apply unended c
  rw [List.getLast?_append, isLast]
  rfl

theorem Unended.append {front back : List Char} (unended : Unended back) (nonempty : back ≠ []) :
    Unended (front ++ back) := by
  intro c isLast
  apply unended c
  rwa [List.getLast?_append_of_ne_nil _ nonempty] at isLast

/-- A reply whose line is read back as that reply: its payload is not empty and does
not end in a line end. -/
inductive Legible : Reply → Prop where
  | done : Legible done
  | payload {payload : String} (nonempty : payload ≠ "")
      (unended : Unended payload.toList) : Legible (.ok (some payload))
  | err (refusal : Refusal) : Legible (.err refusal)

theorem OneLine.legible {reply : Reply} (oneLine : reply.OneLine) : reply.Legible := by
  cases oneLine with
  | done => exact .done
  | payload nonempty clean => exact .payload nonempty (unended_of_clean clean)
  | err refusal => exact .err refusal

theorem ofCode?_code (refusal : Refusal) :
    Refusal.ofCode? refusal.code = some refusal := by
  cases refusal <;> decide

theorem Legible.unended {reply : Reply} (legible : reply.Legible) :
    Unended reply.render.toList := by
  cases legible with
  | done => exact unended_of_clean (by decide)
  | payload nonempty unended =>
      rw [render, String.toList_append]
      exact unended.append (by simpa using nonempty)
  | err refusal =>
      rw [render, String.toList_append]
      apply unended_of_clean
      rw [List.any_append, isLineEnd_code]
      decide

private theorem readStripped_render {reply : Reply} (legible : reply.Legible) :
    readStripped reply.render.toList = .ok reply := by
  cases legible with
  | done => rfl
  | @payload payload nonempty unended =>
      rw [render, String.toList_append]
      change Except.ok (okWith (String.ofList payload.toList)) = _
      rw [String.ofList_toList, okWith, if_neg nonempty]
  | err refusal =>
      rw [render, String.toList_append]
      change (readCode (String.ofList refusal.code.toList)).map Reply.err = _
      rw [String.ofList_toList, readCode, ofCode?_code]
      rfl

theorem read_of_legible {reply : Reply} (legible : reply.Legible) :
    read reply.render = .ok reply := by
  rw [read, stripLineEnds_of_unended legible.unended, readStripped_render legible]

/-- A reply is read back from its line. -/
theorem read_render {reply : Reply} (oneLine : reply.OneLine) :
    read reply.render = .ok reply :=
  read_of_legible oneLine.legible

/-! ## What is read -/

/-- The lines without line ends that are read as a reply: its own line, and one that
leaves out the payload it announces. -/
inductive Reads (kept : List Char) : Reply → Prop where
  | rendered {reply : Reply} (legible : reply.Legible) (isLine : kept = reply.render.toList) :
      Reads kept reply
  | bare (isLine : kept = "OK ".toList) : Reads kept done

/-- What is wrong with a line without line ends that is no reply. -/
inductive Fails (kept : List Char) : ReadError → Prop where
  | unknownCode {code : List Char} (isLine : kept = "ERR ".toList ++ code) :
      Fails kept (.unknownCode (String.ofList code))
  | missingStatus (other : ¬ "ERR ".toList <+: kept) :
      Fails kept (.missingStatus (String.ofList kept))

theorem Fails.unique {kept : List Char} {error other : ReadError}
    (fails : Fails kept error) (also : Fails kept other) : error = other := by
  cases fails with
  | unknownCode isLine =>
      cases also with
      | unknownCode isToo => rw [List.append_cancel_left (isLine.symm.trans isToo)]
      | missingStatus none => exact absurd (isLine ▸ List.prefix_append _ _) none
  | missingStatus none =>
      cases also with
      | unknownCode isLine => exact absurd (isLine ▸ List.prefix_append _ _) none
      | missingStatus _ => rfl

private theorem readStripped_of_reads {kept : List Char} {reply : Reply}
    (reads : Reads kept reply) : readStripped kept = .ok reply := by
  cases reads with
  | rendered legible isLine => rw [isLine, readStripped_render legible]
  | bare isLine =>
      rw [isLine]
      rfl

private theorem code_of_ofCode? {code : String} {refusal : Refusal}
    (found : Refusal.ofCode? code = some refusal) : refusal.code = code := by
  simpa using List.find?_some found

/-- A line without line ends is read as a reply, or is at fault. -/
private theorem readStripped_cases {kept : List Char} (unended : Unended kept) :
    (∃ reply, Reads kept reply) ∨
      ∃ error, readStripped kept = .error error ∧ Fails kept error := by
  fun_cases readStripped kept with
  | case1 => exact .inl ⟨done, .rendered .done rfl⟩
  | case2 payload =>
      left
      have isLine : 'O' :: 'K' :: ' ' :: payload = "OK ".toList ++ payload := rfl
      rw [isLine] at unended ⊢
      by_cases empty : payload = []
      · exact ⟨done, .bare (by rw [empty, List.append_nil])⟩
      · have legible : Legible (.ok (some (String.ofList payload))) := by
          apply Legible.payload
          · simpa using empty
          · rw [String.toList_ofList]
            exact unended.of_append
        refine ⟨_, .rendered legible ?_⟩
        simp only [render, String.toList_append, String.toList_ofList]
  | case3 code =>
      have isLine : 'E' :: 'R' :: 'R' :: ' ' :: code = "ERR ".toList ++ code := rfl
      cases found : Refusal.ofCode? (String.ofList code) with
      | some refusal =>
          refine .inl ⟨.err refusal, .rendered (.err refusal) ?_⟩
          simp only [render, String.toList_append, code_of_ofCode? found, String.toList_ofList,
            isLine]
      | none =>
          refine .inr ⟨_, ?_, .unknownCode isLine⟩
          rw [readCode, found]
          rfl
  | case4 _ notOk notPayload notCode =>
      refine .inr ⟨_, rfl, .missingStatus ?_⟩
      rintro ⟨code, isLine⟩
      exact notCode code isLine.symm

private theorem readStripped_eq_ok_iff {kept : List Char} (unended : Unended kept)
    (reply : Reply) : readStripped kept = .ok reply ↔ Reads kept reply := by
  constructor
  · intro read
    rcases readStripped_cases unended with ⟨other, reads⟩ | ⟨error, failed, _⟩
    · rw [readStripped_of_reads reads, Except.ok.injEq] at read
      exact read ▸ reads
    · rw [failed] at read
      cases read
  · exact readStripped_of_reads

private theorem readStripped_eq_error_iff {kept : List Char} (unended : Unended kept)
    (error : ReadError) :
    readStripped kept = .error error ↔ (¬ ∃ reply, Reads kept reply) ∧ Fails kept error := by
  constructor
  · intro failed
    have unread : ¬ ∃ reply, Reads kept reply := by
      rintro ⟨reply, reads⟩
      rw [readStripped_of_reads reads] at failed
      cases failed
    rcases readStripped_cases unended with reads | ⟨other, isOther, fails⟩
    · exact absurd reads unread
    · rw [isOther, Except.error.injEq] at failed
      exact ⟨unread, failed ▸ fails⟩
  · rintro ⟨unread, fails⟩
    rcases readStripped_cases unended with reads | ⟨other, isOther, also⟩
    · exact absurd reads unread
    · rw [isOther, fails.unique also]

/-- A line, once its line ends are dropped, is read as a reply if it is the line of
that reply, or if it announces a payload and has none.  Any other line is refused, one
that begins as an error for the code that it names, the others as they are.  No two
replies that are read back have one line. -/
theorem read_accepts_rendered (line : String) :
    let kept := stripLineEnds line.toList
    (Unended kept ∧ ∃ ends, (∀ c ∈ ends, isLineEnd c = true) ∧ line.toList = kept ++ ends) ∧
    (∀ reply, read line = .ok reply ↔ Reads kept reply) ∧
    (∀ error, read line = .error error ↔ (¬ ∃ reply, Reads kept reply) ∧ Fails kept error) ∧
    (∀ reply, Legible reply → read reply.render = .ok reply) ∧
    ∀ reply other, Legible reply → Legible other → reply.render = other.render →
      reply = other := by
  intro kept
  have unended := (stripLineEnds_append line.toList).1
  refine ⟨stripLineEnds_append line.toList, ?_, ?_, ?_, ?_⟩
  · exact readStripped_eq_ok_iff unended
  · exact readStripped_eq_error_iff unended
  · intro reply
    exact read_of_legible
  · intro reply other legible isToo same
    have read := read_of_legible legible
    rw [same, read_of_legible isToo, Except.ok.injEq] at read
    exact read.symm

end Reply

end RemoteInput
