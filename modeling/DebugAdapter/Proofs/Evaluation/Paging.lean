import DebugAdapter.Proofs.Evaluation.Exchanges

/-! # Pages of stacks and variables

What a page of a list is, whatever numbers a client asks for it with. Frames and variables are
answered page by page in this sense, and the pages of one size from the beginning on are the whole
list, each item once and in its place. -/

namespace DebugAdapter.Debuggee

/-! ## One page -/

/-- A segment of a list, from the place asked for on. A negative place is the beginning and one
beyond the list its end. The segment is as long as asked for unless the list ends, and goes to the
end if the length asked for is not positive. -/
structure IsPage {α : Type} (start count : Option Int64) (items shown : List α) : Prop where
  segment : ∃ before after, items = before ++ shown ++ after ∧
    (before.length : Int) = min (items.length : Int) (max 0 (start.getD 0).toInt) ∧
    (after ≠ [] → ∃ n ∈ count, 0 < n ∧ (shown.length : Int) = n.toInt)
  bounded : ∀ n ∈ count, 0 < n → (shown.length : Int) ≤ n.toInt

variable {α : Type} {start count : Option Int64} {items shown : List α}

theorem page_of_not_pos (h : ∀ n ∈ count, ¬ 0 < n) :
    page start count items = items.drop (start.getD 0).toInt.toNat := by
  cases count with
  | none => rfl
  | some n => exact if_neg (h n rfl)

theorem page_of_pos {n : Int64} (h : 0 < n) :
    page start (some n) items = (items.drop (start.getD 0).toInt.toNat).take n.toInt.toNat :=
  if_pos h

theorem pos_toInt {n : Int64} (h : 0 < n) : 0 < n.toInt := Int64.lt_iff_toInt_lt.mp h

theorem isPage_page (start count : Option Int64) (items : List α) :
    IsPage start count items (page start count items) := by
  let rest := items.drop (start.getD 0).toInt.toNat
  have hsplit : items = items.take (start.getD 0).toInt.toNat ++ rest :=
    (List.take_append_drop _ items).symm
  have hplace : ((items.take (start.getD 0).toInt.toNat).length : Int) =
      min (items.length : Int) (max 0 (start.getD 0).toInt) := by
    rw [List.length_take]
    omega
  by_cases hpos : ∃ n ∈ count, 0 < n
  · obtain ⟨n, rfl, hn⟩ := hpos
    have hn' := pos_toInt hn
    rw [page_of_pos hn]
    constructor
    · refine ⟨_, rest.drop n.toInt.toNat, ?_, hplace, fun hafter => ⟨n, rfl, hn, ?_⟩⟩
      · rw [List.append_assoc, List.take_append_drop]
        exact hsplit
      · have hlt : n.toInt.toNat < rest.length := by simpa using hafter
        rw [List.length_take_of_le (Nat.le_of_lt hlt)]
        omega
    · rintro n' ⟨⟩ -
      have hle : (rest.take n.toInt.toNat).length ≤ n.toInt.toNat := List.length_take_le _ _
      change ((rest.take n.toInt.toNat).length : Int) ≤ n.toInt
      omega
  · have hnot : ∀ n ∈ count, ¬ 0 < n := fun n hn h => hpos ⟨n, hn, h⟩
    rw [page_of_not_pos hnot]
    exact ⟨⟨_, [], by rw [List.append_nil]; exact hsplit, hplace, fun h => absurd rfl h⟩,
      fun n hn h => absurd h (hnot n hn)⟩

theorem IsPage.eq_page (h : IsPage start count items shown) : shown = page start count items := by
  obtain ⟨⟨before, after, hitems, hbefore, hafter⟩, hbounded⟩ := h
  have hrest : items.drop (start.getD 0).toInt.toNat = shown ++ after := by
    have hdrop : items.drop before.length = shown ++ after := by
      rw [hitems, List.append_assoc, List.drop_left]
    by_cases hover : items.length ≤ (start.getD 0).toInt.toNat
    · rw [List.drop_eq_nil_of_le hover, ← hdrop, List.drop_eq_nil_of_le (by omega)]
    · rw [← hdrop]
      congr 1
      omega
  by_cases hpos : ∃ n ∈ count, 0 < n
  · obtain ⟨n, rfl, hn⟩ := hpos
    rw [page_of_pos hn, hrest]
    have hle := hbounded n rfl hn
    by_cases hnone : after = []
    · rw [hnone, List.append_nil, List.take_of_length_le (by omega)]
    · obtain ⟨n', hn', -, hlength⟩ := hafter hnone
      obtain rfl := Option.some.inj hn'
      rw [List.take_append_of_le_length (by omega), List.take_of_length_le (by omega)]
  · have hnone : after = [] := by
      by_contra hne
      obtain ⟨n, hn, hpositive, -⟩ := hafter hne
      exact hpos ⟨n, hn, hpositive⟩
    rw [page_of_not_pos fun n hn h => hpos ⟨n, hn, h⟩, hrest, hnone, List.append_nil]

/-- Whatever is asked for, there is one page. -/
theorem isPage_iff : IsPage start count items shown ↔ shown = page start count items :=
  ⟨IsPage.eq_page, fun h => h ▸ isPage_page start count items⟩

/-! ## All pages of a size -/

theorem page_ofNat {start size : Nat} (hstart : start < 2 ^ 63) (hsize : size < 2 ^ 63)
    (hpos : 0 < size) (items : List α) :
    page (some (Int64.ofNat start)) (some (Int64.ofNat size)) items =
      (items.drop start).take size := by
  have hstart' := Int64.toInt_ofNat_of_lt hstart
  have hsize' := Int64.toInt_ofNat_of_lt hsize
  have hpos' : (0 : Int64) < Int64.ofNat size := by
    rw [Int64.lt_iff_toInt_lt, hsize']
    exact Int.natCast_pos.mpr hpos
  rw [page_of_pos hpos', Option.getD_some, hstart', hsize', Int.toNat_natCast, Int.toNat_natCast]

/-- The first pages of a size are the beginning of the list. -/
theorem flatMap_page {size : Nat} (hpos : 0 < size) (hsize : size < 2 ^ 63) (items : List α)
    {n : Nat} (hn : ∀ i < n, i * size < 2 ^ 63) :
    (List.range n).flatMap (fun i =>
      page (some (Int64.ofNat (i * size))) (some (Int64.ofNat size)) items) =
        items.take (n * size) := by
  induction n with
  | zero => rw [Nat.zero_mul]; rfl
  | succ n ih =>
    have hlast := page_ofNat (hn n (Nat.lt_succ_self n)) hsize hpos items
    rw [List.range_succ, List.flatMap_append, ih fun i hi => hn i (Nat.lt_succ_of_lt hi),
      List.flatMap_singleton, hlast, Nat.succ_mul, List.take_add]

end DebugAdapter.Debuggee

namespace DebugAdapter.Evaluation

open Debuggee Protocol Session

/-! ## Pages that are answered -/

/-- The operations have these answers, one after the other, and no others. -/
def HasAnswers (s : System) (ops : List Operation) (answers : List Answer) : Prop :=
  (∃ t, Exchanges s ops answers t) ∧ ∀ answers' t, Exchanges s ops answers' t → answers' = answers

theorem Exchanges.hasAnswers {s t : System} {ops : List Operation} {answers : List Answer}
    (h : Exchanges s ops answers t) : HasAnswers s ops answers :=
  ⟨⟨t, h⟩, fun _ _ h' => (h'.unique h).1⟩

/-- Looking does not change what there is to see, so each request is answered as if it were the
only one. -/
theorem exchanges_looks (asks : List (Int64 × Inquiry))
    (hlooks : ∀ ask ∈ asks, (Operation.ask ask.1 ask.2).IsLook) (s : System) :
    ∃ t, Exchanges s (asks.map fun ask => .ask ask.1 ask.2)
      (asks.map fun ask => replyFrom s.registries ask.2) t := by
  induction asks generalizing s with
  | nil => exact ⟨s, .nil⟩
  | cons ask asks ih =>
    rw [List.forall_mem_cons] at hlooks
    obtain ⟨t, hask, -⟩ := exchange_ask s ask.1 ask.2
    have hkept : t.registries = s.registries :=
      (Exchanges.cons hask .nil).registries_eq_of_looks (by simpa using hlooks.1)
    obtain ⟨u, hrest⟩ := ih hlooks.2 t
    rw [hkept] at hrest
    exact ⟨u, .cons hask hrest⟩

/-- A list is shown in pages: every request has the page it asks for as its only answer, and
requests for the pages of one size from the beginning on get the whole list. -/
structure ShownInPages {α : Type} (s : System) (items : List α)
    (ask : Option Int64 → Option Int64 → Inquiry) (reply : List α → Answer) : Prop where
  one : ∀ seq start count, ∃ shown,
    (∀ other, IsPage start count items other ↔ other = shown) ∧
      HasAnswers s [.ask seq (ask start count)] [reply shown]
  all : ∀ (size n : Nat) (seqs : Nat → Int64), 0 < size → size < 2 ^ 63 →
    (∀ i < n, i * size < 2 ^ 63) → items.length ≤ n * size →
      ∃ pages : Nat → List α, (List.range n).flatMap pages = items ∧
        HasAnswers s
          ((List.range n).map fun i =>
            .ask (seqs i) (ask (some (Int64.ofNat (i * size))) (some (Int64.ofNat size))))
          ((List.range n).map fun i => reply (pages i))

theorem shownInPages {α : Type} {s : System} {items : List α}
    {ask : Option Int64 → Option Int64 → Inquiry} {reply : List α → Answer}
    (hlook : ∀ seq start count, (Operation.ask seq (ask start count)).IsLook)
    (hreply : ∀ start count,
      replyFrom s.registries (ask start count) = reply (page start count items)) :
    ShownInPages s items ask reply where
  one seq start count := by
    obtain ⟨t, ht⟩ := exchanges_looks [(seq, ask start count)] (by simpa using hlook _ _ _) s
    refine ⟨page start count items, fun _ => isPage_iff, ?_⟩
    rw [← hreply]
    exact ht.hasAnswers
  all size n seqs hpos hsize hn hlength := by
    obtain ⟨t, ht⟩ := exchanges_looks ((List.range n).map fun i =>
      (seqs i, ask (some (Int64.ofNat (i * size))) (some (Int64.ofNat size))))
      (by simpa using fun i _ => hlook _ _ _) s
    refine ⟨_, (flatMap_page hpos hsize items hn).trans (List.take_of_length_le hlength), ?_⟩
    simp only [List.map_map, Function.comp_def, hreply] at ht
    exact ht.hasAnswers

/-! ## Stacks and variables -/

/-- A request for frames of a thread. -/
def framesOf (thread : Int64) (start levels : Option Int64) : Inquiry :=
  .stackTrace { threadId := thread, startFrame := start, levels := levels }

/-- A request for variables of a scope. -/
def variablesOf (reference : Int64) (start count : Option Int64) : Inquiry :=
  .members { variablesReference := reference, start := start, count := count }

/-- What is told of the frames of a stopped thread. -/
def stackReply (total : Nat) (shown : List StackFrame) : Answer :=
  .replied (some (.stackTrace { stackFrames := shown, totalFrames := some (Int64.ofNat total) }))

/-- What is told of the variables of a scope. -/
def variablesReply (shown : List Variable) : Answer :=
  .replied (some (.variableList { members := shown }))

/-- The frames of every stopped thread and the variables of every scope are shown in pages, and
whatever became of the frames while they were looked up, the answer is a page of those found. -/
theorem shown_in_pages (s : System) :
    (∀ thread event, s.registries.events.get? thread = some event →
      ShownInPages s (listedFrames s.registries.frames event.frameIds) (framesOf thread)
        (stackReply (listedFrames s.registries.frames event.frameIds).length)) ∧
      (∀ reference found, s.registries.locals.get? (Int64.toInt reference) = some found →
        ShownInPages s found (variablesOf reference) variablesReply) ∧
      ∀ rest request arguments found, ∃ shown,
        IsPage arguments.startFrame arguments.levels found shown ∧
          s.perform rest (.findFrames request arguments [] found) =
            s.withWork (.respond request (some (.stackTrace
              { stackFrames := shown, totalFrames := some (Int64.ofNat found.length) })) :: rest) := by
  refine ⟨?_, ?_, fun rest request arguments found => ⟨_, isPage_page _ _ _, rfl⟩⟩
  · intro thread event hevent
    refine shownInPages (fun _ _ _ => trivial) fun start levels => ?_
    simp only [framesOf, replyFrom, hevent, stackReply]
  · intro reference found hfound
    refine shownInPages (fun _ _ _ => trivial) fun start count => ?_
    simp only [variablesOf, replyFrom, hfound, variablesReply]

/-- A system with a thread that is stopped two calls deep. -/
def halted : System :=
  { untouched with
    registries := {
      events := ⟨[(7, { thread := 7, frameIds := [1, 2], resume := 0 })]⟩
      frames := ⟨frameTable 0 breakpoint.frames |>.toArray⟩
      locals := ⟨variablesByScope breakpoint.frames |>.toArray⟩ } }

theorem shown_in_pages_halted :
    HasAnswers halted [.ask 3 (variablesOf 1 (some (-5)) (some 0))]
        [variablesReply [⟨"x", "1", some "Integer", 0⟩]] ∧
      ∃ pages : Nat → List StackFrame,
        pages 0 ++ pages 1 = showFrames 0 breakpoint.frames ∧
          HasAnswers halted
            [.ask 4 (framesOf 7 (some 0) (some 1)), .ask 5 (framesOf 7 (some 1) (some 1))]
            [stackReply 2 (pages 0), stackReply 2 (pages 1)] := by
  obtain ⟨hframes, hvariables, -⟩ := shown_in_pages halted
  have hstopped : halted.registries.events.get? 7 =
      some { thread := 7, frameIds := [1, 2], resume := 0 } := by decide
  have hlisted : listedFrames halted.registries.frames [1, 2] = showFrames 0 breakpoint.frames := by
    decide
  have hscope : halted.registries.locals.get? (Int64.toInt 1) =
      some [⟨"x", "1", some "Integer", 0⟩] := by decide
  constructor
  · obtain ⟨shown, hshown, hanswered⟩ := (hvariables 1 _ hscope).one 3 (some (-5)) (some 0)
    obtain rfl := (hshown _).mp (isPage_page _ _ _)
    exact hanswered
  · obtain ⟨pages, hpages, hanswered⟩ := (hframes 7 _ hstopped).all 1 2
      (fun i => if i = 0 then 4 else 5) (by decide) (by decide) (by decide)
      (by rw [hlisted]; decide)
    rw [hlisted] at hpages hanswered
    refine ⟨pages, ?_, hanswered⟩
    rw [← hpages]
    exact (congrArg (pages 0 ++ ·) (List.append_nil (pages 1))).symm

end DebugAdapter.Evaluation
