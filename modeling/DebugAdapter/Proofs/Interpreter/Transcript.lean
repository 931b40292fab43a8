import DebugAdapter.Interpreter.Script
import DebugAdapter.Proofs.Evaluation.Delivery
import DebugAdapter.Proofs.Interpreter.Lines

/-! # What a child writes is what is told of it

A child writes to two streams in pieces of any size. Each stream is passed on by lines, and the
texts of these make up the text of all that the child wrote to it. -/

namespace DebugAdapter

open Debuggee Evaluation Protocol Session

/-- The kind of output that a stream is passed on as. -/
def OutputStream.category : OutputStream → OutputCategory
  | .out => .stdout
  | .err => .stderr

namespace Child

/-- What a child writes to a stream that is read, if it is not asked to end. -/
def written (stream : OutputStream) : Child → Bytes
  | .ended _ => []
  | .write other bytes next => (if other = stream then bytes else []) ++ (next true).written stream
  | .pause _ next => (next false).written stream

/-- How the child ends then. -/
def status : Child → Status
  | .ended status => status
  | .write _ _ next => (next true).status
  | .pause _ next => (next false).status

end Child

/-! ## Texts of items -/

/-- The text of an item of output of one kind. -/
def outputText? (category : OutputCategory) : Item → Option String
  | .output other text => if other = category then some text else none
  | _ => none

/-- All output of one kind. -/
def transcript (category : OutputCategory) (items : List Item) : String :=
  String.join (items.filterMap (outputText? category))

theorem transcript_append (category : OutputCategory) (first second : List Item) :
    transcript category (first ++ second) =
      transcript category first ++ transcript category second := by
  rw [transcript, List.filterMap_append, String.join_append, transcript, transcript]

/-- A stop that is reported beside the evaluation is no output. -/
theorem transcript_enqueueds (category : OutputCategory) (log : List Happening) :
    transcript category (enqueueds log) = transcript category (produceds log) := by
  rw [transcript, transcript, enqueueds, produceds, List.filterMap_filterMap,
    List.filterMap_filterMap]
  congr 2
  funext x
  cases x <;> rfl

theorem transcript_outputs (category : OutputCategory) (parts : List Bytes) :
    transcript category (outputs category parts) =
      String.join (parts.map Utf8.decodeLossy) := by
  rw [transcript, outputs, List.filterMap_map]
  congr 1
  induction parts with
  | nil => rfl
  | cons part parts ih => simp [outputText?, ih]

theorem transcript_outputs_of_ne {category other : OutputCategory} (h : other ≠ category)
    (parts : List Bytes) : transcript category (outputs other parts) = "" := by
  have hnone : (outputs other parts).filterMap (outputText? category) = [] := by
    refine List.filterMap_eq_nil_iff.mpr fun item hitem => ?_
    obtain ⟨part, -, rfl⟩ := List.mem_map.mp hitem
    exact if_neg h
  rw [transcript, hnone]
  rfl

/-- Output of another kind does not count. -/
theorem transcript_other {category other : OutputCategory} (h : other ≠ category)
    (parts : List Bytes) (items : List Item) :
    transcript category (outputs other parts ++ items) = transcript category items := by
  rw [transcript_append, transcript_outputs_of_ne h, String.empty_append]

/-- The lines that are cut off are told before the rest. -/
theorem transcript_cutLines {category : OutputCategory} {bytes later : Bytes} {items : List Item}
    (h : transcript category items = Utf8.decodeLossy ((cutLines bytes).2 ++ later)) :
    transcript category (outputs category (cutLines bytes).1 ++ items) =
      Utf8.decodeLossy (bytes ++ later) := by
  rw [transcript_append, transcript_outputs, h, ← decodeLossy_cutLines]

/-! ## The course of a child -/

variable {goesOn : Channel → Option Bool} {channel : Nat → Channel} {k : Nat}

theorem course_writing {category : OutputCategory} {lines : List Bytes}
    (h : ∀ line ∈ lines, line ≠ []) (rest : Script) :
    (writing category lines rest).course goesOn channel k =
      outputs category lines ++ rest.course goesOn channel k := by
  induction lines with
  | nil => rfl
  | cons line lines ih =>
    rw [List.forall_mem_cons] at h
    have hline : ¬ line.isEmpty = true := by simpa using h.1
    have hcourse : (writing category (line :: lines) rest).course goesOn channel k =
        [Item.output category (Utf8.decodeLossy line)] ++
          (writing category lines rest).course goesOn channel k := by
      rw [writing, List.foldr_cons, Script.course, if_neg hline]
      rfl
    rw [hcourse, ih h.2]
    rfl

/-- The last part of a stream, which is not a whole line. -/
theorem join_remainder (bytes : Bytes) :
    String.join ((if bytes.isEmpty then [] else [bytes]).map Utf8.decodeLossy) =
      Utf8.decodeLossy bytes := by
  cases bytes <;> simp [decodeLossy_nil]

theorem remainder_ne_nil {bytes : Bytes} :
    ∀ part ∈ (if bytes.isEmpty then [] else [bytes] : List Bytes), part ≠ [] := by
  cases bytes <;> simp

theorem cutLines_ne_nil (bytes : Bytes) : ∀ line ∈ (cutLines bytes).1, line ≠ [] :=
  fun line hline => ((cutLines_spec bytes).2.1 line hline).ne_nil

/-- Whatever a child has begun to write, the items of its course tell all of it. -/
theorem course_script (child : Child) (out err : Bytes) :
    ∃ items, (child.script out err).course goesOn channel k =
        items ++ (Run.outcome {} child.status).report ∧
      transcript .stdout items = Utf8.decodeLossy (out ++ child.written .out) ∧
      transcript .stderr items = Utf8.decodeLossy (err ++ child.written .err) := by
  induction child generalizing out err with
  | ended status =>
    refine ⟨outputs .stdout (if out.isEmpty then [] else [out]) ++
      outputs .stderr (if err.isEmpty then [] else [err]), ?_, ?_, ?_⟩
    · rw [Child.script, course_writing remainder_ne_nil, course_writing remainder_ne_nil,
        List.append_assoc]
      rfl
    · rw [transcript_append, transcript_outputs, transcript_outputs_of_ne (by decide),
        join_remainder, String.append_empty, Child.written, List.append_nil]
    · rw [transcript_other (by decide), transcript_outputs, join_remainder, Child.written,
        List.append_nil]
  | write stream bytes next ih =>
    cases stream with
    | out =>
      obtain ⟨items, hcourse, hout, herr⟩ := ih true (cutLines (out ++ bytes)).2 err
      refine ⟨outputs .stdout (cutLines (out ++ bytes)).1 ++ items, ?_, ?_, ?_⟩
      · rw [Child.status, List.append_assoc, ← hcourse]
        exact course_writing (cutLines_ne_nil _) _
      · rw [transcript_cutLines hout, Child.written, if_pos rfl, List.append_assoc]
      · rw [transcript_other (by decide), herr, Child.written, if_neg (by decide), List.nil_append]
    | err =>
      obtain ⟨items, hcourse, hout, herr⟩ := ih true out (cutLines (err ++ bytes)).2
      refine ⟨outputs .stderr (cutLines (err ++ bytes)).1 ++ items, ?_, ?_, ?_⟩
      · rw [Child.status, List.append_assoc, ← hcourse]
        exact course_writing (cutLines_ne_nil _) _
      · rw [transcript_other (by decide), hout, Child.written, if_neg (by decide), List.nil_append]
      · rw [transcript_cutLines herr, Child.written, if_pos rfl, List.append_assoc]
  | pause time next ih => exact ih false out err

/-! ## Runs -/

/-- When the evaluation of a child is over, all that the child wrote was told. -/
theorem told_of_ended (child : Child) (decoder : Framing.Decoder) (outbox : Outbox)
    (moves : List Move)
    (h : (System.play moves (.starting (child.script [] []) decoder outbox)).2.engine = .ended) :
    ∃ items, produceds (System.play moves (.starting (child.script [] []) decoder outbox)).1 =
        items ++ (Run.outcome {} child.status).report ∧
      ∀ stream : OutputStream,
        transcript stream.category items = Utf8.decodeLossy (child.written stream) := by
  have hproducing := producing_play (child.script [] []) decoder outbox moves
  have hanswers := (settling_play (child.script [] []) decoder outbox moves).consistent
  have hcourse := hproducing.course _ _ hanswers (numbers_channelOf _)
  rw [script_play, h, EngineThread.course, List.append_nil] at hcourse
  obtain ⟨items, hitems, hout, herr⟩ := course_script child [] []
  refine ⟨items, hcourse.symm.trans hitems, fun stream => ?_⟩
  cases stream with
  | out => exact hout
  | err => exact herr

/-- Bytes are passed on in the parts that end after line feeds, whatever the chunks in which they
arrive, and neither chunks nor parts matter to the text that is told in the end. -/
theorem forwarded_whole :
    (∀ chunks : List Bytes, ∃ parts,
      (∀ other, CutIntoLines chunks.flatten other ↔ other = parts) ∧
      (∀ sink : Sink, ∃ passed torn, Forwarder.Passed parts passed torn sink
        (chunks.foldl Forwarder.receive { sink }).finish.sink) ∧
      (∀ category (q : Queue), q.received = true →
        q.writeEach category parts =
          (parts.map fun part => .ok part.length,
            { q with items := q.items ++ outputs category parts })) ∧
      ∀ category, transcript category (outputs category parts) =
        Utf8.decodeLossy chunks.flatten) ∧
    ∀ (child : Child) decoder outbox moves,
      (System.play moves (.starting (child.script [] []) decoder outbox)).2.engine = .ended →
        ∃ items, produceds (System.play moves (.starting (child.script [] []) decoder outbox)).1 =
            items ++ (Run.outcome {} child.status).report ∧
          (∀ stream : OutputStream,
            transcript stream.category items = Utf8.decodeLossy (child.written stream)) ∧
          ∀ category, transcript category
              (enqueueds (System.play moves (.starting (child.script [] []) decoder outbox)).1) =
            transcript category (items ++ (Run.outcome {} child.status).report) := by
  constructor
  · intro chunks
    refine ⟨lineWrites chunks.flatten, fun _ => cutIntoLines_iff,
      Forwarder.passed_finish chunks, ?_, ?_⟩
    · intro category q hq
      exact Queue.writeEach_of_received category (cutIntoLines_lineWrites _).nonempty hq
    · intro category
      rw [transcript_outputs, join_decodeLossy_lineWrites]
  · intro child decoder outbox moves hended
    obtain ⟨items, hitems, htold⟩ := told_of_ended child decoder outbox moves hended
    refine ⟨items, hitems, htold, fun category => ?_⟩
    rw [transcript_enqueueds, hitems]

/-- A child that writes a character in two pieces and ends inside another one. -/
def murmur : Child :=
  .write .out [0x61, 0xC3] fun _ => .write .err [0x21] fun _ =>
    .write .out [0xA9, 0x0A, 0xF0] fun _ => .ended (.exited 0)

/-- The child runs from its start to its end. -/
def murmuring : List Move := turns [(5, .session), (7, .engine)]

/-- What happens then, and what comes of it. -/
def murmurRun : List Happening × System :=
  System.play murmuring (.starting (murmur.script [] []) inquirer {})

theorem forwarded_whole_murmur :
    (([[0x61, 0xC3], [0xA9, 0x0A, 0xF0]].foldl Forwarder.receive {}).finish).sink.received =
        [[0x61, 0xC3, 0xA9, 0x0A], [0xF0]] ∧
      Queue.writeEach .stdout [[0x61, 0xC3, 0xA9, 0x0A], [0xF0]] {} =
        ([.ok 4, .ok 1], { items := [.output .stdout "aé\n", .output .stdout "\uFFFD"] }) ∧
      murmurRun.2.engine = .ended ∧
      transcript .stdout (enqueueds murmurRun.1) = "aé\n\uFFFD" := by
  obtain ⟨hchunks, hchild⟩ := forwarded_whole
  obtain ⟨parts, hparts, hsinks, hqueues, -⟩ := hchunks [[0x61, 0xC3], [0xA9, 0x0A, 0xF0]]
  have hcut : [[0x61, 0xC3, 0xA9, 0x0A], [0xF0]] = parts :=
    (hparts _).mp ⟨rfl, by decide, by decide, by decide⟩
  subst hcut
  have hended : (System.play murmuring (.starting (murmur.script [] []) inquirer {})).2.engine =
      .ended := by decide +kernel
  rw [murmurRun]
  refine ⟨?_, ?_, hended, ?_⟩
  · obtain ⟨passed, torn, hpassed⟩ := hsinks {}
    obtain ⟨hreceived, -⟩ := hpassed.received_eq (.always rfl)
    rw [hreceived, (hpassed.all .default).1]
    rfl
  · rw [hqueues .stdout {} rfl]
    have htexts : outputs .stdout [[0x61, 0xC3, 0xA9, 0x0A], [0xF0]] =
        [.output .stdout "aé\n", .output .stdout "\uFFFD"] := by decide
    rw [htexts]
    rfl
  · obtain ⟨items, -, htold, hqueue⟩ := hchild murmur inquirer {} murmuring hended
    have htext : Utf8.decodeLossy (murmur.written .out) = "aé\n\uFFFD" := by decide
    have hout : transcript .stdout items = _ := htold .out
    rw [hqueue, transcript_append, hout, htext]
    rfl

end DebugAdapter
