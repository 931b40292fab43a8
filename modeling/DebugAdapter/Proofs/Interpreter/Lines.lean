import DebugAdapter.Evaluation.Queue
import DebugAdapter.Interpreter.Forwarder
import DebugAdapter.Proofs.Stream.Untorn
import DebugAdapter.Proofs.Text.Decoding

/-! # Output is passed on by lines

There is one way to cut bytes after their line feeds. In whatever chunks they arrive, these are the
parts that are written, and as texts the parts make up the text of all the bytes. -/

namespace DebugAdapter

/-! ## Parts -/

/-- Bytes up to a line feed, which is the only one. -/
def IsLine (line : Bytes) : Prop := ∃ body, line = body ++ [0x0A] ∧ 0x0A ∉ body

/-- Bytes as consecutive parts which end after each line feed, the last one possibly without. -/
structure CutIntoLines (bytes : Bytes) (parts : List Bytes) : Prop where
  joined : parts.flatten = bytes
  nonempty : ∀ part ∈ parts, part ≠ []
  inside : ∀ part ∈ parts, 0x0A ∉ part.dropLast
  ends : ∀ part ∈ parts.dropLast, 0x0A ∈ part.getLast?

theorem IsLine.cons {b : UInt8} {line : Bytes} (hb : b ≠ 0x0A) (h : IsLine line) :
    IsLine (b :: line) := by
  obtain ⟨body, rfl, hbody⟩ := h
  exact ⟨b :: body, rfl, List.not_mem_cons_of_ne_of_not_mem (Ne.symm hb) hbody⟩

theorem IsLine.ne_nil {line : Bytes} (h : IsLine line) : line ≠ [] := by
  obtain ⟨body, rfl, -⟩ := h
  simp

theorem isLine_iff {part : Bytes} :
    IsLine part ↔ 0x0A ∉ part.dropLast ∧ 0x0A ∈ part.getLast? := by
  constructor
  · rintro ⟨body, rfl, hbody⟩
    simpa using hbody
  · rintro ⟨hinside, hlast⟩
    obtain ⟨body, rfl⟩ := List.getLast?_eq_some_iff.mp hlast
    rw [List.dropLast_concat] at hinside
    exact ⟨body, rfl, hinside⟩

/-- Bytes are some lines, and more bytes without a line feed. -/
theorem exists_lines (bytes : Bytes) : ∃ (lines : List Bytes) (last : Bytes),
    bytes = lines.flatten ++ last ∧ (∀ line ∈ lines, IsLine line) ∧ 0x0A ∉ last := by
  induction bytes with
  | nil => exact ⟨[], [], rfl, by simp, List.not_mem_nil⟩
  | cons b rest ih =>
    obtain ⟨lines, last, rfl, hlines, hlast⟩ := ih
    by_cases hb : b = 0x0A
    · refine ⟨[b] :: lines, last, rfl, ?_, hlast⟩
      exact List.forall_mem_cons.mpr ⟨⟨[], by rw [hb]; rfl, List.not_mem_nil⟩, hlines⟩
    · cases lines with
      | nil =>
        exact ⟨[], b :: last, rfl, hlines, List.not_mem_cons_of_ne_of_not_mem (Ne.symm hb) hlast⟩
      | cons line lines =>
        rw [List.forall_mem_cons] at hlines
        refine ⟨(b :: line) :: lines, last, rfl, ?_, hlast⟩
        exact List.forall_mem_cons.mpr ⟨hlines.1.cons hb, hlines.2⟩

theorem cutLines_of_not_mem {bytes : Bytes} (h : 0x0A ∉ bytes) : cutLines bytes = ([], bytes) := by
  induction bytes with
  | nil => rfl
  | cons b rest ih =>
    rw [List.mem_cons, not_or] at h
    rw [cutLines, ih h.2]
    exact if_neg (Ne.symm h.1)

/-- A line at the front is cut off. -/
theorem cutLines_line {line : Bytes} (h : IsLine line) (rest : Bytes) :
    cutLines (line ++ rest) = (line :: (cutLines rest).1, (cutLines rest).2) := by
  obtain ⟨body, rfl, hbody⟩ := h
  induction body with
  | nil => rfl
  | cons b body ih =>
    rw [List.mem_cons, not_or] at hbody
    rw [List.cons_append, List.cons_append, cutLines, ih hbody.2]
    exact if_neg (Ne.symm hbody.1)

theorem cutLines_lines {lines : List Bytes} (h : ∀ line ∈ lines, IsLine line) (rest : Bytes) :
    cutLines (lines.flatten ++ rest) = (lines ++ (cutLines rest).1, (cutLines rest).2) := by
  induction lines with
  | nil => rfl
  | cons line lines ih =>
    rw [List.forall_mem_cons] at h
    rw [List.flatten_cons, List.append_assoc, cutLines_line h.1, ih h.2]
    rfl

/-- What is cut off are lines, and no line feed is left over. -/
theorem cutLines_spec (bytes : Bytes) : bytes = (cutLines bytes).1.flatten ++ (cutLines bytes).2 ∧
    (∀ line ∈ (cutLines bytes).1, IsLine line) ∧ 0x0A ∉ (cutLines bytes).2 := by
  obtain ⟨lines, last, hbytes, hlines, hlast⟩ := exists_lines bytes
  have hcut : cutLines bytes = (lines, last) := by
    rw [hbytes, cutLines_lines hlines, cutLines_of_not_mem hlast, List.append_nil]
  rw [hcut]
  exact ⟨hbytes, hlines, hlast⟩

/-- Bytes may be cut as they arrive, if what is left over is kept. -/
theorem cutLines_append (first second : Bytes) :
    cutLines (first ++ second) =
      ((cutLines first).1 ++ (cutLines ((cutLines first).2 ++ second)).1,
        (cutLines ((cutLines first).2 ++ second)).2) := by
  obtain ⟨hfirst, hlines, -⟩ := cutLines_spec first
  rw [← cutLines_lines hlines, ← List.append_assoc, ← hfirst]

theorem lineWrites_line {line : Bytes} (h : IsLine line) (rest : Bytes) :
    lineWrites (line ++ rest) = line :: lineWrites rest := by
  simp only [lineWrites, cutLines_line h]
  split <;> rfl

theorem lineWrites_of_not_mem {bytes : Bytes} (h : 0x0A ∉ bytes) :
    lineWrites bytes = if bytes.isEmpty then [] else [bytes] := by
  rw [lineWrites, cutLines_of_not_mem h]
  rfl

theorem lineWrites_lines {lines : List Bytes} (h : ∀ line ∈ lines, IsLine line) (rest : Bytes) :
    lineWrites (lines.flatten ++ rest) = lines ++ lineWrites rest := by
  induction lines with
  | nil => rfl
  | cons line lines ih =>
    rw [List.forall_mem_cons] at h
    rw [List.flatten_cons, List.append_assoc, lineWrites_line h.1, ih h.2, List.cons_append]

theorem cutIntoLines_lineWrites (bytes : Bytes) : CutIntoLines bytes (lineWrites bytes) := by
  obtain ⟨lines, last, rfl, hlines, hlast⟩ := exists_lines bytes
  rw [lineWrites_lines hlines, lineWrites_of_not_mem hlast]
  have hlines' := fun line hline => isLine_iff.mp (hlines line hline)
  by_cases hempty : last = []
  · rw [hempty, List.isEmpty_nil, if_pos rfl, List.append_nil, List.append_nil]
    exact ⟨rfl, fun line hline => (hlines line hline).ne_nil, fun line hline => (hlines' line hline).1,
      fun line hline => (hlines' line (List.dropLast_subset _ hline)).2⟩
  · rw [if_neg (by simpa using hempty)]
    refine ⟨by simp, ?_, ?_, ?_⟩
    · intro part hpart
      rcases List.mem_append.mp hpart with hpart | hpart
      · exact (hlines part hpart).ne_nil
      · exact List.mem_singleton.mp hpart ▸ hempty
    · intro part hpart
      rcases List.mem_append.mp hpart with hpart | hpart
      · exact (hlines' part hpart).1
      · rw [List.mem_singleton.mp hpart]
        exact fun hmem => hlast (List.dropLast_subset _ hmem)
    · intro part hpart
      rw [List.dropLast_concat] at hpart
      exact (hlines' part hpart).2

theorem CutIntoLines.eq_lineWrites {bytes : Bytes} {parts : List Bytes}
    (h : CutIntoLines bytes parts) : parts = lineWrites bytes := by
  obtain ⟨rfl, hnonempty, hinside, hends⟩ := h
  induction parts with
  | nil => rfl
  | cons part parts ih =>
    rw [List.forall_mem_cons] at hnonempty hinside
    by_cases hparts : parts = []
    · subst hparts
      rw [List.flatten_cons, List.flatten_nil]
      by_cases hmem : 0x0A ∈ part
      · have hline : IsLine part := by
          have hpart := List.dropLast_concat_getLast hnonempty.1
          rw [← hpart, List.mem_append, List.mem_singleton] at hmem
          refine isLine_iff.mpr ⟨hinside.1, ?_⟩
          rw [List.getLast?_eq_some_getLast hnonempty.1, ← hmem.resolve_left hinside.1]
          rfl
        exact (lineWrites_line hline []).symm
      · rw [List.append_nil, lineWrites_of_not_mem hmem, if_neg (by simpa using hnonempty.1)]
    · rw [List.dropLast_cons_of_ne_nil hparts, List.forall_mem_cons] at hends
      have hline : IsLine part := isLine_iff.mpr ⟨hinside.1, hends.1⟩
      rw [List.flatten_cons, lineWrites_line hline, ← ih hnonempty.2 hinside.2 hends.2]

/-- There is one way to cut bytes into lines. -/
theorem cutIntoLines_iff {bytes : Bytes} {parts : List Bytes} :
    CutIntoLines bytes parts ↔ parts = lineWrites bytes :=
  ⟨CutIntoLines.eq_lineWrites, fun h => h ▸ cutIntoLines_lineWrites bytes⟩

/-! ## Chunks -/

namespace Forwarder

theorem pass_line (f : Forwarder) (line bytes : Bytes) :
    { f with line := line }.pass bytes = { f.pass bytes with line := line } := by
  obtain ⟨sink, line', stopped⟩ := f
  cases stopped with
  | true => rfl
  | false =>
    simp only [pass]
    cases hwrite : sink.writeAll bytes with
    | mk result sink' => cases result <;> rfl

theorem foldl_pass_line (parts : List Bytes) (f : Forwarder) (line : Bytes) :
    parts.foldl pass { f with line := line } = { parts.foldl pass f with line := line } := by
  induction parts generalizing f with
  | nil => rfl
  | cons part parts ih => rw [List.foldl_cons, pass_line, ih, List.foldl_cons]

/-- However the bytes arrive, the lines among them are passed on. -/
theorem foldl_receive (chunks : List Bytes) (f : Forwarder) (h : 0x0A ∉ f.line) :
    chunks.foldl receive f =
      { (cutLines (f.line ++ chunks.flatten)).1.foldl pass f with
        line := (cutLines (f.line ++ chunks.flatten)).2 } := by
  induction chunks generalizing f with
  | nil => simp [cutLines_of_not_mem h]
  | cons chunk chunks ih =>
    obtain ⟨-, -, hlast⟩ := cutLines_spec (f.line ++ chunk)
    rw [List.foldl_cons, ih (f.receive chunk) hlast, List.flatten_cons, ← List.append_assoc,
      cutLines_append (f.line ++ chunk)]
    simp only [receive, foldl_pass_line, List.foldl_append]

/-- The writes of a forwarder do not depend on the chunks. -/
theorem sink_finish (chunks : List Bytes) (sink : Sink) :
    ((chunks.foldl receive { sink }).finish).sink =
      ((lineWrites chunks.flatten).foldl pass { sink }).sink.flush.2 := by
  rw [foldl_receive chunks { sink } List.not_mem_nil, List.nil_append, lineWrites]
  simp only [finish]
  by_cases hlast : (cutLines chunks.flatten).2.isEmpty = true
  · simp only [hlast, if_true]
  · simp only [hlast, Bool.false_eq_true, if_false, pass_line, List.foldl_append, List.foldl_cons,
      List.foldl_nil]

/-! ## Sinks -/

/-- What a sink has got of parts that were to be written one after the other: the first ones, and a
beginning of the next one if that was cut off. -/
structure Passed (parts passed : List Bytes) (torn : Bytes) (s s' : Sink) : Prop where
  bytes_eq : s'.bytes = s.bytes ++ passed.flatten ++ torn
  begins : passed <+: parts
  torn_begins : torn = [] ∨
    ∃ next ∈ (parts.drop passed.length).head?, torn <+: next ∧ torn ≠ next
  /-- A sink that takes everything gets all parts. -/
  all : s.Accepts → passed = parts ∧ torn = []
  /-- A sink that does not cut what is written gets each part in one write. -/
  received_eq : s.Intact → s'.received = s.received ++ passed ∧ torn = []

/-- A part is passed on as a whole, and the next one can follow. -/
structure Whole (part : Bytes) (s s' : Sink) : Prop where
  bytes_eq : s'.bytes = s.bytes ++ part
  accepts : s.Accepts → s'.Accepts
  intact : s.Intact → s'.Intact ∧ s'.received = s.received ++ [part]

/-- A part is not passed on as a whole. -/
structure Torn (part torn : Bytes) (s s' : Sink) : Prop where
  bytes_eq : s'.bytes = s.bytes ++ torn
  begins : torn <+: part
  ne : torn ≠ part
  not_accepts : ¬ s.Accepts
  intact : s.Intact → s'.received = s.received ∧ torn = []

theorem pass_spec {f : Forwarder} (h : f.stopped = false) {part : Bytes} (hpart : part ≠ []) :
    Whole part f.sink (f.pass part).sink ∧ (f.pass part).stopped = false ∨
      ∃ torn, Torn part torn f.sink (f.pass part).sink ∧ (f.pass part).stopped = true := by
  obtain ⟨taken, htook, hbegins, hiff⟩ := f.sink.writeAll_spec part
  have haccepts := fun hsink : f.sink.Accepts => (Sink.writes_writeAll part f.sink).accepts hsink
  have hintact := fun hsink : f.sink.Intact => (Sink.writes_writeAll part f.sink).intact hsink hpart
  simp only [pass, h, Bool.false_eq_true, if_false]
  generalize f.sink.writeAll part = outcome at htook hiff haccepts hintact
  obtain ⟨result, sink⟩ := outcome
  cases result with
  | ok =>
    obtain rfl := hiff.mp rfl
    refine .inl ⟨⟨htook.bytes_eq, fun hsink => (haccepts hsink).1, fun hsink => ?_⟩, rfl⟩
    obtain ⟨hintact', hwritten, -⟩ := hintact hsink
    refine ⟨hintact', ?_⟩
    rw [Sink.received, hwritten rfl, List.reverse_cons, Sink.received]
  | error e =>
    have hne : taken ≠ part := by
      intro htaken
      cases hiff.mpr htaken
    refine .inr ⟨taken, ⟨htook.bytes_eq, hbegins, hne, ?_, fun hsink => ?_⟩, rfl⟩
    · intro hsink
      cases (haccepts hsink).2
    · obtain ⟨-, -, hwritten⟩ := hintact hsink
      have hsame : sink.written = f.sink.written := hwritten (by rintro ⟨⟩)
      refine ⟨congrArg List.reverse hsame, ?_⟩
      simpa using htook.bytes_eq.symm.trans (Sink.bytes_same_of_written hsame)

theorem foldl_pass_of_stopped {f : Forwarder} (h : f.stopped = true) (parts : List Bytes) :
    parts.foldl pass f = f := by
  induction parts with
  | nil => rfl
  | cons part parts ih =>
    have hpass : f.pass part = f := by rw [pass, if_pos h]
    rw [List.foldl_cons, hpass, ih]

/-- The parts that reach the sink are the first ones, and all of them if it takes everything. -/
theorem foldl_pass_spec {parts : List Bytes} (hparts : ∀ part ∈ parts, part ≠ []) {f : Forwarder}
    (h : f.stopped = false) :
    ∃ passed torn, Passed parts passed torn f.sink (parts.foldl pass f).sink := by
  induction parts generalizing f with
  | nil =>
    refine ⟨[], [], ⟨?_, List.prefix_rfl, .inl rfl, fun _ => ⟨rfl, rfl⟩, fun _ => ⟨?_, rfl⟩⟩⟩ <;> simp
  | cons part parts ih =>
    rw [List.forall_mem_cons] at hparts
    rw [List.foldl_cons]
    rcases pass_spec h hparts.1 with ⟨hwhole, hgoing⟩ | ⟨torn, htorn, hstopped⟩
    · obtain ⟨passed, torn, hpassed⟩ := ih hparts.2 hgoing
      refine ⟨part :: passed, torn, ?_, ?_, ?_, ?_, ?_⟩
      · rw [hpassed.bytes_eq, hwhole.bytes_eq]
        simp
      · exact List.cons_prefix_cons.mpr ⟨rfl, hpassed.begins⟩
      · exact hpassed.torn_begins
      · intro hsink
        obtain ⟨hall, hnil⟩ := hpassed.all (hwhole.accepts hsink)
        exact ⟨congrArg _ hall, hnil⟩
      · intro hsink
        obtain ⟨hintact, hreceived⟩ := hwhole.intact hsink
        obtain ⟨hreceived', hnil⟩ := hpassed.received_eq hintact
        refine ⟨?_, hnil⟩
        rw [hreceived', hreceived, List.append_assoc]
        rfl
    · rw [foldl_pass_of_stopped hstopped]
      refine ⟨[], torn, ?_, List.nil_prefix, ?_, ?_, ?_⟩
      · rw [htorn.bytes_eq]
        simp
      · exact .inr ⟨part, rfl, htorn.begins, htorn.ne⟩
      · exact fun hsink => absurd hsink htorn.not_accepts
      · intro hsink
        obtain ⟨hreceived, hnil⟩ := htorn.intact hsink
        exact ⟨by rw [hreceived, List.append_nil], hnil⟩

/-- Whatever the chunks, the parts that are cut after line feeds are written, up to the first write
that fails. -/
theorem passed_finish (chunks : List Bytes) (sink : Sink) :
    ∃ passed torn, Passed (lineWrites chunks.flatten) passed torn sink
      (chunks.foldl receive { sink }).finish.sink := by
  have hparts := (cutIntoLines_lineWrites chunks.flatten).nonempty
  obtain ⟨passed, torn, hpassed⟩ := foldl_pass_spec hparts (f := { sink }) rfl
  refine ⟨passed, torn, ?_⟩
  obtain ⟨flushes, hflush⟩ :=
    Sink.flush_eq ((lineWrites chunks.flatten).foldl pass { sink }).sink
  rw [sink_finish, hflush]
  exact ⟨hpassed.bytes_eq, hpassed.begins, hpassed.torn_begins, hpassed.all, hpassed.received_eq⟩

end Forwarder

/-! ## Texts -/

/-- The text of lines is put together from theirs, whatever follows them. -/
theorem decodeLossy_lines {lines : List Bytes} (h : ∀ line ∈ lines, IsLine line) (rest : Bytes) :
    Utf8.decodeLossy (lines.flatten ++ rest) =
      String.join (lines.map Utf8.decodeLossy) ++ Utf8.decodeLossy rest := by
  induction lines with
  | nil => simp
  | cons line lines ih =>
    rw [List.forall_mem_cons] at h
    obtain ⟨⟨body, rfl, -⟩, hlines⟩ := h
    rw [List.map_cons, String.join_cons, String.append_assoc, ← ih hlines, List.flatten_cons,
      List.append_assoc, List.append_assoc]
    exact Utf8.decodeLossy_lineFeed body _

/-- Text may be decoded as its lines are cut off, if what is left over is kept. -/
theorem decodeLossy_cutLines (bytes rest : Bytes) :
    Utf8.decodeLossy (bytes ++ rest) = String.join ((cutLines bytes).1.map Utf8.decodeLossy) ++
      Utf8.decodeLossy ((cutLines bytes).2 ++ rest) := by
  obtain ⟨hbytes, hlines, -⟩ := cutLines_spec bytes
  rw [← decodeLossy_lines hlines, ← List.append_assoc, ← hbytes]

theorem decodeLossy_nil : Utf8.decodeLossy [] = "" := rfl

theorem join_decodeLossy_lineWrites (bytes : Bytes) :
    String.join ((lineWrites bytes).map Utf8.decodeLossy) = Utf8.decodeLossy bytes := by
  obtain ⟨lines, last, rfl, hlines, hlast⟩ := exists_lines bytes
  rw [lineWrites_lines hlines, lineWrites_of_not_mem hlast, List.map_append, String.join_append,
    decodeLossy_lines hlines]
  congr 1
  cases last <;> simp [decodeLossy_nil]

namespace Evaluation

open Protocol

/-- The items of some parts of output. -/
def outputs (category : OutputCategory) (parts : List Bytes) : List Item :=
  parts.map fun part => .output category (Utf8.decodeLossy part)

namespace Queue

/-- Writes parts of output one after the other. -/
def writeEach (category : OutputCategory) : List Bytes → Queue → List (Except IoError Nat) × Queue
  | [], q => ([], q)
  | part :: parts, q =>
    let (result, q) := q.write category part
    let (results, q) := writeEach category parts q
    (result :: results, q)

/-- A queue that somebody takes from gets an item for each part that is not empty. -/
theorem writeEach_of_received (category : OutputCategory) {parts : List Bytes}
    (hparts : ∀ part ∈ parts, part ≠ []) {q : Queue} (h : q.received = true) :
    q.writeEach category parts =
      (parts.map fun part => .ok part.length,
        { q with items := q.items ++ outputs category parts }) := by
  induction parts generalizing q with
  | nil => simp [writeEach, outputs]
  | cons part parts ih =>
    rw [List.forall_mem_cons] at hparts
    let more : Queue :=
      { q with items := q.items ++ [Item.output category (Utf8.decodeLossy part)] }
    have hwrite : q.write category part = (.ok part.length, more) := by
      rw [write, if_neg (by simpa using hparts.1), push, if_pos h]
    have hmore : more.received = true := h
    rw [writeEach, hwrite]
    dsimp only
    rw [ih hparts.2 hmore]
    simp [more, outputs]

end Queue

end Evaluation

end DebugAdapter
