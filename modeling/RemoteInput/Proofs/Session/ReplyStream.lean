import RemoteInput.Proofs.Console.Replies
import RemoteInput.Proofs.Session.Refinement
import RemoteInput.Proofs.Text.Utf8

/-!
# What a client reads

A client cuts what it receives at the line feeds and reads a reply from each
piece.  It gets back the replies of the dispatcher, all of them and no more:
`read_run`.
-/

namespace RemoteInput

namespace Reply

/-- Reads the reply of one line that is UTF-8. -/
def readLine (line : List UInt8) : Option Reply :=
  (String.fromUTF8? line.toByteArray).bind fun text => (read text).toOption

/-- The replies of the lines that a line feed ends, and the bytes after the last
one. -/
def readAll (bytes : List UInt8) : Option (List Reply) × List UInt8 :=
  let pieces := bytes.splitOn lineFeed
  (pieces.dropLast.mapM readLine, pieces.getLastD [])

theorem readLine_render {reply : Reply} (oneLine : reply.OneLine) :
    readLine (Utf8.encode reply.render.toList) = some reply := by
  unfold readLine
  rw [Utf8.fromUTF8?_toByteArray, Utf8.decode?_encode]
  change (read (String.ofList reply.render.toList)).toOption = some reply
  rw [String.ofList_toList, read_render oneLine]
  rfl

theorem lineFeed_not_mem {reply : Reply} (oneLine : reply.OneLine) :
    lineFeed ∉ Utf8.encode reply.render.toList := by
  intro member
  have isIn := Utf8.mem_of_mem_encode (by decide) member
  have clean := List.any_eq_false.mp oneLine.clean _ isIn
  exact clean rfl

private theorem splitOn_wire {replies : List Reply}
    (oneLine : ∀ reply ∈ replies, reply.OneLine) :
    (replies.flatMap fun reply => LineWriter.wire reply.render).splitOn lineFeed =
      replies.map (fun reply => Utf8.encode reply.render.toList) ++ [[]] := by
  induction replies with
  | nil => rfl
  | cons reply replies ih =>
      have clean := lineFeed_not_mem (oneLine reply List.mem_cons_self)
      have later : ∀ other ∈ replies, other.OneLine := by
        intro other member
        exact oneLine other (List.mem_cons_of_mem reply member)
      have wire : LineWriter.wire reply.render =
          Utf8.encode reply.render.toList ++ [lineFeed] := rfl
      rw [List.flatMap_cons, wire, List.append_assoc, List.singleton_append,
        List.splitOn_append_cons_self_of_not_mem clean, ih later]
      rfl

private theorem mapM_readLine {replies : List Reply}
    (oneLine : ∀ reply ∈ replies, reply.OneLine) :
    (replies.map fun reply => Utf8.encode reply.render.toList).mapM readLine =
      some replies := by
  induction replies with
  | nil => rfl
  | cons reply replies ih =>
      have later : ∀ other ∈ replies, other.OneLine := by
        intro other member
        exact oneLine other (List.mem_cons_of_mem reply member)
      rw [List.map_cons, List.mapM_cons,
        readLine_render (oneLine reply List.mem_cons_self), ih later]
      rfl

/-- The wire forms of replies one after the other are read back. -/
theorem readAll_wire {replies : List Reply}
    (oneLine : ∀ reply ∈ replies, reply.OneLine) :
    readAll (replies.flatMap fun reply => LineWriter.wire reply.render) =
      (some replies, []) := by
  unfold readAll
  rw [splitOn_wire oneLine]
  dsimp only
  rw [List.dropLast_concat, mapM_readLine oneLine]
  simp

end Reply

namespace Session

private theorem replies_of_results {exchanges : List Console.Exchange}
    (results : ∀ exchange ∈ exchanges, ∃ reply, exchange.result = .ok reply)
    (readable : ∀ exchange ∈ exchanges, Console.IsReadable exchange.result) :
    ∃ replies : List Reply, exchanges.map Console.Exchange.result = replies.map .ok ∧
      (∀ reply ∈ replies, reply.OneLine) ∧
      exchanges.flatMap Console.Exchange.response =
        replies.flatMap fun reply => LineWriter.wire reply.render := by
  induction exchanges with
  | nil =>
      refine ⟨[], rfl, ?_, rfl⟩
      intro reply member
      cases member
  | cons exchange exchanges ih =>
      obtain ⟨reply, result⟩ := results exchange List.mem_cons_self
      obtain ⟨replies, mapped, oneLine, wire⟩ := ih
        (fun other member => results other (List.mem_cons_of_mem _ member))
        (fun other member => readable other (List.mem_cons_of_mem _ member))
      refine ⟨reply :: replies, ?_, ?_, ?_⟩
      · rw [List.map_cons, List.map_cons, result, mapped]
      · intro other member
        rcases List.mem_cons.mp member with first | later
        · subst first
          exact readable exchange List.mem_cons_self other result
        · exact oneLine other later
      · rw [List.flatMap_cons, List.flatMap_cons, wire,
          Console.Exchange.response_of_ok result]

variable {σ : Type} [Device σ]

theorem isReadable_replay (console : Console σ) (arrivals : List Arrival) :
    ∀ exchange ∈ console.replay arrivals,
      Console.IsReadable exchange.result := by
  induction arrivals generalizing console with
  | nil =>
      intro exchange member
      cases member
  | cons arrival arrivals ih =>
      intro exchange member
      rw [Console.replay] at member
      rcases List.mem_cons.mp member with first | later
      · subst first
        exact Console.yields_dispatch arrival.line _
      · exact ih _ exchange later

/-- A client reads the replies of the dispatcher from what a session writes: as
no reply holds a line end, and no two of them have the same line. -/
theorem read_run (id : String) (powerOn : Bool) (reader : LineReader)
    (sink : Sink) (console : Console σ) (unwatched : console.watch = {})
    (reliable : sink.Reliable)
    (uncancelled : (run id powerOn { reader, writer := .start sink }
      console).2.2.shutdown.requested = false) :
    let channel : LineChannel := { reader, writer := .start sink }
    let exchanges := (begin id powerOn console).2.replay
      (requests id powerOn channel console)
    (∃ replies : List Reply, exchanges.map Console.Exchange.result = replies.map .ok ∧
      Reply.readAll
        (run id powerOn channel console).2.1.writer.taken.toList =
          (some replies, [])) ∧
    (∀ (line : String) (console : Console σ) (reply : Reply),
      ((Console.dispatch line).run console).1 = .ok reply →
        '\r' ∉ reply.render.toList ∧ '\n' ∉ reply.render.toList) ∧
    ∀ {τ : Type} [Device τ] (line other : String) (console : Console σ)
      (elsewhere : Console τ) (first second : Reply),
      ((Console.dispatch line).run console).1 = .ok first →
      ((Console.dispatch other).run elsewhere).1 = .ok second →
        first.render = second.render → first = second := by
  intro channel exchanges
  refine ⟨?_, ?_, ?_⟩
  · obtain ⟨results, taken⟩ :=
      taken_of_uncancelled unwatched rfl reliable uncancelled
    obtain ⟨replies, mapped, oneLine, wire⟩ :=
      replies_of_results results (isReadable_replay _ _)
    refine ⟨replies, mapped, ?_⟩
    rw [taken, wire]
    exact Reply.readAll_wire oneLine
  · intro line console reply dispatched
    have oneLine := Console.yields_dispatch line console reply dispatched
    have clean := List.any_eq_false.mp oneLine.clean
    constructor
    · intro member
      exact clean _ member rfl
    · intro member
      exact clean _ member rfl
  · intro τ _ line other console elsewhere first second dispatched answered same
    have readFirst := Reply.read_render
      (Console.yields_dispatch line console first dispatched)
    have readSecond := Reply.read_render
      (Console.yields_dispatch other elsewhere second answered)
    rw [same, readSecond] at readFirst
    cases readFirst
    rfl

theorem read_run_of_clipboard :
    let reader := LineReader.start 64
      [.bytes (LineWriter.wire "CLIP_GET"), .bytes (LineWriter.wire "NONE"),
        .bytes (LineWriter.wire "PING")]
    let sink : Sink :=
      { write := fun _ => .takes 1, flush := fun _ => none, shutdown := fun _ => none }
    let console : Console InMemoryDevice :=
      .start .primary { clipboard := some "two\r\nlines" } {}
    let channel : LineChannel := { reader, writer := .start sink }
    console.watch = {} ∧ sink.Reliable ∧
      (run "a" true channel console).2.2.shutdown.requested = false ∧
      ∃ replies : List Reply, ((begin "a" true console).2.replay
          (requests "a" true channel console)).map Console.Exchange.result =
            replies.map .ok ∧
        Reply.readAll (run "a" true channel console).2.1.writer.taken.toList =
          (some replies, []) := by
  intro reader sink console channel
  have reliable : sink.Reliable := ⟨fun _ => ⟨0, rfl⟩, fun _ => rfl⟩
  have uncancelled : (run "a" true channel console).2.2.shutdown.requested = false := by
    decide +kernel
  have reads := read_run "a" true reader sink console rfl reliable uncancelled
  exact ⟨rfl, reliable, uncancelled, reads.1⟩

end Session

end RemoteInput
