import Mathlib.Data.List.Basic
import DebugAdapter.Proofs.Evaluation.Unblocking

/-! # The course of a program

A program determines what its evaluation puts into the queue, and in which order, once it is known
how its stops ended. The last item of it all says that the evaluation is over. -/

namespace DebugAdapter.Evaluation

open Debuggee Protocol Session

/-! ## The end of an evaluation -/

namespace Outcome

/-- What explains why an evaluation failed, the outermost explanation first. -/
def chain : Outcome → List String
  | .success _ => []
  | .failure e => ["evaluate program", e.message]
  | .notCreated causes => "create engine" :: causes
  | .notCreatedBy contexts e => "create engine" :: (contexts ++ [e.message])

/-- The code with which the program itself ended. -/
def exitCode? : Outcome → Option Int32
  | .success code | .failure (.exit code) | .notCreatedBy _ (.exit code) => some code
  | _ => none

/-- Whether the evaluation failed. -/
def failed : Outcome → Bool
  | .success _ => false
  | _ => true

/-- What there is to say at the end of an evaluation: for a failure, the explanation one level below
the outermost one; then the code, if the program itself ended with one; and that it is over. -/
def report (outcome : Outcome) : List Item :=
  (if outcome.failed then [.output .stderr (outcome.chain.getD 1 "" ++ "\n")] else []) ++
    ((outcome.exitCode?.map .exited).toList ++ [.terminated])

/-- An evaluation ends with saying just that. -/
theorem items_eq_report (outcome : Outcome) : outcome.items = outcome.report := by
  have hexited : ∀ e : EngineError,
      e.exited ++ [Item.terminated] =
        ((failure e).exitCode?.map Item.exited).toList ++ [Item.terminated] := by
    intro e
    cases e <;> rfl
  cases outcome with
  | success => rfl
  | failure e => exact congrArg _ (hexited e)
  | notCreated causes => cases causes <;> rfl
  | notCreatedBy contexts e =>
    have hcode : (notCreatedBy contexts e).exitCode? = (failure e).exitCode? := by cases e <;> rfl
    rw [items, hexited, report, hcode]
    cases contexts <;> rfl

/-- Nothing comes after the item that says that the evaluation is over. -/
theorem last_report {outcome : Outcome} {front back : List Item}
    (h : outcome.report = front ++ .terminated :: back) : back = [] := by
  rw [report, ← List.append_assoc] at h
  rcases append_eq_split h with ⟨rest, -, hfront⟩ | ⟨rest, -, hrest⟩
  · have hmem : Item.terminated ∈ front ++ .terminated :: rest :=
      List.mem_append_right _ List.mem_cons_self
    rw [← hfront] at hmem
    cases outcome.failed <;> simp at hmem
  · cases rest with
    | nil => exact (List.cons.inj hrest).2.symm
    | cons item rest => simp at hrest

end Outcome

/-! ## The course of a program -/

/-- What the evaluation of a program puts into the queue: an item for each output that is not empty,
an item for each stop, and the items of its outcome. A stop whose end is not known is the last
item. The stops are counted, and it has to be known on which channel each of them waits. -/
def Script.course (goesOn : Channel → Option Bool) (channel : Nat → Channel) :
    Script → Nat → List Item
  | .finish outcome, _ => outcome.report
  | .write category bytes next, k =>
    (if bytes.isEmpty then [] else [.output category (Utf8.decodeLossy bytes)]) ++
      next.course goesOn channel k
  | .stop report resumed refused, k =>
    .stopped report (channel k) :: match goesOn (channel k) with
      | some true => resumed.course goesOn channel (k + 1)
      | some false => refused.course goesOn channel (k + 1)
      | none => []
  | .stopAside report next, k =>
    .stopped report (channel k) :: next.course goesOn channel (k + 1)
  | .awaitEnd next, k => next.course goesOn channel k

/-- What the evaluation is still going to put into the queue. -/
def EngineThread.course (goesOn : Channel → Option Bool) (channel : Nat → Channel)
    (script : Script) (k : Nat) : EngineThread → List Item
  | .idle => script.course goesOn channel k
  | .running script => script.course goesOn channel k
  | .waiting c resumed refused => match goesOn c with
    | some true => resumed.course goesOn channel k
    | some false => refused.course goesOn channel k
    | none => []
  | .finishing items => items
  | .ended => []

section Course

variable {goesOn : Channel → Option Bool} {channel : Nat → Channel}

/-- The item that says that the evaluation is over comes last, if it comes. -/
theorem last_course {script : Script} {k : Nat} {front back : List Item}
    (h : script.course goesOn channel k = front ++ .terminated :: back) : back = [] := by
  induction script generalizing k front with
  | finish => exact Outcome.last_report h
  | write category bytes next ih =>
    rw [Script.course] at h
    split at h
    · exact ih h
    · cases front with
      | nil => exact nomatch h
      | cons item front => exact ih (List.cons.inj h).2
  | stop report resumed refused ihResumed ihRefused =>
    rw [Script.course] at h
    cases front with
    | nil => exact nomatch h
    | cons item front =>
      obtain ⟨-, hrest⟩ := List.cons.inj h
      cases hgoesOn : goesOn (channel k) with
      | none =>
        rw [hgoesOn] at hrest
        simp at hrest
      | some resumes =>
        rw [hgoesOn] at hrest
        cases resumes with
        | true => exact ihResumed hrest
        | false => exact ihRefused hrest
  | stopAside report next ih =>
    rw [Script.course] at h
    cases front with
    | nil => exact nomatch h
    | cons item front => exact ih (List.cons.inj h).2
  | awaitEnd next ih => exact ih h

/-- A program all of whose stops end comes to its end. -/
theorem course_of_total (h : ∀ c, goesOn c ≠ none) (channel : Nat → Channel) (script : Script)
    (k : Nat) :
    ∃ front, script.course goesOn channel k = front ++ [Item.terminated] := by
  induction script generalizing k with
  | finish outcome => exact ⟨_, (List.append_assoc ..).symm⟩
  | write category bytes next ih =>
    obtain ⟨front, hfront⟩ := ih k
    rw [Script.course, hfront, ← List.append_assoc]
    exact ⟨_, rfl⟩
  | stop report resumed refused ihResumed ihRefused =>
    rw [Script.course]
    cases hgoesOn : goesOn (channel k) with
    | none => exact absurd hgoesOn (h _)
    | some resumes =>
      cases resumes with
      | true =>
        obtain ⟨front, hfront⟩ := ihResumed (k + 1)
        exact ⟨_ :: front, congrArg _ hfront⟩
      | false =>
        obtain ⟨front, hfront⟩ := ihRefused (k + 1)
        exact ⟨_ :: front, congrArg _ hfront⟩
  | stopAside report next ih =>
    obtain ⟨front, hfront⟩ := ih (k + 1)
    exact ⟨_ :: front, congrArg _ hfront⟩
  | awaitEnd next ih => exact ih k

end Course

/-! ## What the evaluation itself puts into the queue -/

def Happening.produced? : Happening → Option Item
  | .enqueued item => some item
  | _ => none

/-- The items that the evaluation itself put into the queue. -/
def produceds (log : List Happening) : List Item := log.filterMap Happening.produced?

theorem produceds_append (log more : List Happening) :
    produceds (log ++ more) = produceds log ++ produceds more := List.filterMap_append

/-- Without a report beside the evaluation the queue gets nothing else. -/
theorem enqueueds_eq_produceds {log : List Happening} (h : ∀ x ∈ log, x.isReport = false) :
    enqueueds log = produceds log := by
  refine List.filterMap_congr fun x hx => ?_
  cases x with
  | reported => exact nomatch h _ hx
  | _ => rfl

theorem produceds_eq_nil {log : List Happening} (h : enqueueds log = []) : produceds log = [] := by
  rw [enqueueds, List.filterMap_eq_nil_iff] at h
  refine List.filterMap_eq_nil_iff.mpr fun x hx => ?_
  cases x with
  | enqueued => exact nomatch h _ hx
  | _ => rfl

/-- Only the evaluation says that it is over. What it puts into the queue after that comes after
that, and the rest are stops. -/
theorem produceds_of_terminated {log : List Happening} {front back : List Item}
    (h : enqueueds log = front ++ .terminated :: back) :
    ∃ before after, produceds log = before ++ .terminated :: after ∧
      (.terminated ∈ front → .terminated ∈ before) ∧
      ∀ item ∈ back, item.stop? = none → item ∈ after := by
  obtain ⟨first, rest, rfl, rfl, hrest⟩ := List.filterMap_eq_append_iff.mp h
  obtain ⟨quiet, x, second, rfl, hquiet, hx, rfl⟩ := List.filterMap_eq_cons_iff.mp hrest
  have hmem : ∀ {log : List Happening} {item : Item}, item.stop? = none →
      item ∈ log.filterMap Happening.enqueued? → item ∈ produceds log := by
    intro log item hplain hitem
    obtain ⟨y, hy, henqueued⟩ := List.mem_filterMap.mp hitem
    refine List.mem_filterMap.mpr ⟨y, hy, ?_⟩
    cases y with
    | enqueued => exact henqueued
    | reported =>
      obtain rfl := Option.some.inj henqueued
      exact nomatch hplain
    | _ => exact nomatch henqueued
  have hterminated : x.produced? = some .terminated := by
    cases x with
    | enqueued => exact hx
    | _ => exact nomatch hx
  refine ⟨produceds (first ++ quiet), produceds second, ?_, fun hfront => ?_, fun item hitem hplain =>
    hmem hplain hitem⟩
  · rw [← List.append_assoc, produceds_append, produceds, produceds, List.filterMap_cons, hterminated]
    rfl
  · rw [produceds_append]
    exact List.mem_append_left _ (hmem rfl hfront)

/-- The channels of the stops among some items. -/
def channelsOf (items : List Item) : List Channel := (items.filterMap Item.stop?).map Prod.snd

theorem channelsOf_append (items more : List Item) :
    channelsOf (items ++ more) = channelsOf items ++ channelsOf more := by
  rw [channelsOf, List.filterMap_append, List.map_append]
  rfl

/-- The channels are those on which the stops with these numbers wait. -/
def Numbers (channel : Nat → Channel) (channels : List Channel) : Prop :=
  ∀ k c, channels[k]? = some c → channel k = c

theorem Numbers.of_append {channel : Nat → Channel} {first second : List Channel}
    (h : Numbers channel (first ++ second)) :
    Numbers channel first ∧ Numbers (fun k => channel (first.length + k)) second := by
  constructor
  · intro k c hk
    obtain ⟨hlt, -⟩ := List.getElem?_eq_some_iff.mp hk
    exact h k c ((List.getElem?_append_left hlt).trans hk)
  · intro k c hk
    apply h
    rw [List.getElem?_append_right (Nat.le_add_right _ _), Nat.add_sub_cancel_left]
    exact hk

/-- The channel of the stop with a number, among those that the evaluation has reported. -/
def channelOf (log : List Happening) (k : Nat) : Channel := (channelsOf (produceds log))[k]?.getD k

theorem numbers_channelOf (log : List Happening) :
    Numbers (channelOf log) (channelsOf (produceds log)) := by
  intro k c hk
  rw [channelOf, hk]
  rfl

end DebugAdapter.Evaluation
