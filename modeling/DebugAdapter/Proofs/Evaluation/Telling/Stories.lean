import Mathlib.Data.List.Basic
import DebugAdapter.Proofs.Evaluation.Agenda
import DebugAdapter.Proofs.Evaluation.Responses

/-! # Stories of a thread

A story of a thread is what was recorded, accepted and told about it, in order. A tale is a story
that goes with a situation: whether the thread is in the table, and whether the pump or the session
still has to tell the client about it. -/

namespace DebugAdapter.Evaluation

open Debuggee Protocol Session

/-! ## Stories -/

/-- What a message tells about a thread. -/
def tells? (thread : Int64) (m : Message) : Option Mark :=
  (markOf? m).bind fun (other, mark) => if other = thread then some mark else none

/-- What happens to the stop of a thread, or what the client is told about the thread. -/
def Happening.mark? (thread : Int64) : Happening → Option Mark
  | .recorded event => if event.thread = thread then some .recorded else none
  | .accepted _ event => if event.thread = thread then some .accepted else none
  | .posted _ m (.ok ()) _ => tells? thread m
  | .posted _ m (.error _) _ => if tells? thread m = some .stopped then some .lost else none
  | _ => none

/-- What happened to the stops of a thread, and what the client was told about it in between. -/
def story (thread : Int64) (log : List Happening) : List Mark :=
  log.filterMap (Happening.mark? thread)

/-- What the client was told about a thread. -/
def shown (thread : Int64) (log : List Happening) : List Mark := (sent log).filterMap (tells? thread)

/-- The client is told. -/
def Mark.isTold : Mark → Bool
  | .stopped | .continued => true
  | .recorded | .accepted | .lost => false

theorem story_append (thread : Int64) (log more : List Happening) :
    story thread (log ++ more) = story thread log ++ story thread more := List.filterMap_append

theorem markOf_of_tells {thread : Int64} {m : Message} {mark : Mark}
    (h : tells? thread m = some mark) : markOf? m = some (thread, mark) := by
  obtain ⟨⟨other, mark'⟩, hmark, hsome⟩ := Option.bind_eq_some_iff.mp h
  obtain ⟨rfl, rfl⟩ : other = thread ∧ mark' = mark := by simpa using hsome
  exact hmark

theorem tells_eq_none {thread : Int64} {m : Message} (h : markOf? m = none) :
    tells? thread m = none := by rw [tells?, h]; rfl

theorem isTold_of_tells {thread : Int64} {m : Message} {mark : Mark}
    (h : tells? thread m = some mark) : mark.isTold = true := by
  have hmark := markOf_of_tells h
  unfold markOf? at hmark
  split at hmark
  · split at hmark
    · obtain ⟨_, -, heq⟩ := Option.map_eq_some_iff.mp hmark
      cases heq
      rfl
    · cases Option.some.inj hmark
      rfl
    · exact nomatch hmark
  · exact nomatch hmark

/-- What the client was told is the part of the story that it knows. -/
theorem shown_eq_filter (thread : Int64) (log : List Happening) :
    shown thread log = (story thread log).filter Mark.isTold := by
  rw [shown, sent, List.filterMap_filterMap, story, List.filter_filterMap]
  refine congrArg (List.filterMap · log) (funext fun x => ?_)
  cases x with
  | posted sender m result bytes =>
    cases result with
    | error =>
      rw [Happening.mark?]
      split <;> rfl
    | ok =>
      change tells? thread m = (tells? thread m).filter Mark.isTold
      cases htells : tells? thread m with
      | none => rfl
      | some mark => exact (Option.filter_some_pos (isTold_of_tells htells)).symm
  | recorded event =>
    rw [Happening.mark?]
    split <;> rfl
  | accepted request event =>
    rw [Happening.mark?]
    split <;> rfl
  | handled | enqueued | reported | taken | resumed | returned => rfl

/-! ## How stories go on -/

/-- The situation of a thread. -/
structure Situation where
  /-- Its stop is in the table. -/
  live : Bool
  /-- The pump is about to tell the client that it stopped. -/
  announcing : Bool
  /-- The session has to tell the client that it goes on. -/
  owing : Bool

namespace Situation

/-- What a mark makes of a thread. -/
inductive Goes : Situation → Mark → Situation → Prop where
  | record : Goes ⟨false, false, false⟩ .recorded ⟨true, true, false⟩
  | announce {live owing} : Goes ⟨live, true, owing⟩ .stopped ⟨live, false, owing⟩
  | lose {live owing} : Goes ⟨live, true, owing⟩ .lost ⟨live, false, owing⟩
  | accept {announcing} : Goes ⟨true, announcing, false⟩ .accepted ⟨false, announcing, true⟩
  | tell {live announcing} : Goes ⟨live, announcing, true⟩ .continued ⟨live, announcing, false⟩

/-- A stop is given up, or something is not told any more. -/
structure Drops (x y : Situation) : Prop where
  live : y.live = true → x.live = true
  announcing : y.announcing = true → x.announcing = true
  owing : y.owing = true → x.owing = true

/-- What a step makes of a thread. Only if it lapses may anything be dropped. -/
inductive Follows (lapses : Prop) (x : Situation) : List Mark → Situation → Prop where
  | still : Follows lapses x [] x
  | goes {mark y} (h : x.Goes mark y) : Follows lapses x [mark] y
  | drops {y} (hlapses : lapses) (h : x.Drops y) : Follows lapses x [] y

theorem Follows.mono {lapses lapses' : Prop} {x y : Situation} {more : List Mark}
    (h : x.Follows lapses more y) (himp : lapses → lapses') : x.Follows lapses' more y := by
  cases h with
  | still => exact .still
  | goes h => exact .goes h
  | drops hlapses h => exact .drops (himp hlapses) h

end Situation

/-- The story of a thread up to a point, and its situation there. -/
inductive Tale (lapses : Prop) : Situation → List Mark → Prop where
  | nil : Tale lapses ⟨false, false, false⟩ []
  | goes {x y mark marks} (h : Tale lapses x marks) (hgoes : x.Goes mark y) :
      Tale lapses y (marks ++ [mark])
  | drops {x y marks} (hlapses : lapses) (h : Tale lapses x marks) (hdrops : x.Drops y) :
      Tale lapses y marks

/-- What has happened since the stop was put into the table that the pump is about to announce. A
request to go on may have been accepted, and the client may have been told so. -/
inductive Pending (lapses : Prop) (x : Situation) (marks : List Mark) : Prop where
  | recorded (h : [.recorded] <:+ marks) (hlive : x.live = true ∨ lapses) (howing : x.owing = false)
  | accepted (h : [.recorded, .accepted] <:+ marks) (hlive : x.live = false)
      (howing : x.owing = true ∨ lapses)
  | continued (h : [.recorded, .accepted, .continued] <:+ marks) (hlive : x.live = false)
      (howing : x.owing = false)

namespace Tale

variable {lapses : Prop} {x y : Situation} {marks more : List Mark}

theorem mono {lapses' : Prop} (h : Tale lapses x marks) (himp : lapses → lapses') :
    Tale lapses' x marks := by
  induction h with
  | nil => exact .nil
  | goes _ hgoes ih => exact .goes ih hgoes
  | drops hlapses _ hdrops ih => exact .drops (himp hlapses) ih hdrops

theorem follows (h : Tale lapses x marks) (hfollows : x.Follows lapses more y) :
    Tale lapses y (marks ++ more) := by
  cases hfollows with
  | still => exact (List.append_nil marks).symm ▸ h
  | goes hgoes => exact .goes h hgoes
  | drops hlapses hdrops => exact (List.append_nil marks).symm ▸ .drops hlapses h hdrops

/-- A thread that the client has to be told about has no stop in the table any more. -/
theorem of_owing (h : Tale lapses x marks) (howing : x.owing = true) : x.live = false := by
  induction h with
  | nil => exact nomatch howing
  | goes _ hgoes ih =>
    cases hgoes with
    | record | tell => exact nomatch howing
    | announce | lose => exact ih howing
    | accept => rfl
  | drops _ _ hdrops ih =>
    exact Bool.eq_false_iff.mpr fun hlive =>
      absurd (hdrops.live hlive) (Bool.eq_false_iff.mp (ih (hdrops.owing howing)))

theorem pending (h : Tale lapses x marks) (hannouncing : x.announcing = true) :
    Pending lapses x marks := by
  induction h with
  | nil => exact nomatch hannouncing
  | goes h hgoes ih =>
    cases hgoes with
    | record => exact .recorded (List.suffix_append _ _) (.inl rfl) rfl
    | announce | lose => exact nomatch hannouncing
    | accept =>
      cases ih hannouncing with
      | recorded hmarks => exact .accepted (List.suffix_append_self_iff.mpr hmarks) rfl (.inl rfl)
      | accepted _ hlive | continued _ hlive => exact nomatch hlive
    | tell =>
      cases ih hannouncing with
      | recorded _ _ howing | continued _ _ howing => exact nomatch howing
      | accepted hmarks hlive =>
        exact .continued (List.suffix_append_self_iff.mpr hmarks) hlive rfl
  | @drops x y marks hlapses _ hdrops ih =>
    have hstays : ∀ {before after : Bool}, (after = true → before = true) → before = false →
        after = false := by decide
    cases ih (hdrops.announcing hannouncing) with
    | recorded hmarks _ howing =>
      exact .recorded hmarks (.inr hlapses) (hstays hdrops.owing howing)
    | accepted hmarks hlive _ => exact .accepted hmarks (hstays hdrops.live hlive) (.inr hlapses)
    | continued hmarks hlive howing =>
      exact .continued hmarks (hstays hdrops.live hlive) (hstays hdrops.owing howing)

/-- When nothing is left to tell about a thread with a stop, the stop was announced last, or its
announcement got lost. -/
theorem of_live (h : Tale lapses ⟨true, false, false⟩ marks) (hnot : ¬lapses) :
    [.recorded, .stopped] <:+ marks ∨ [.recorded, .lost] <:+ marks := by
  cases h with
  | drops hlapses => exact absurd hlapses hnot
  | goes h hgoes =>
    cases hgoes with
    | tell => exact nomatch h.of_owing rfl
    | announce =>
      cases h.pending rfl with
      | accepted _ hlive | continued _ hlive => exact nomatch hlive
      | recorded hmarks => exact .inl (List.suffix_append_self_iff.mpr hmarks)
    | lose =>
      cases h.pending rfl with
      | accepted _ hlive | continued _ hlive => exact nomatch hlive
      | recorded hmarks => exact .inr (List.suffix_append_self_iff.mpr hmarks)

/-- When nothing is left to tell about a thread without a stop, the client was told last that it goes
on, if it was not a late announcement. -/
theorem of_still (h : Tale lapses ⟨false, false, false⟩ marks) (hnot : ¬lapses) :
    marks = [] ∨ [.continued] <:+ marks ∨ [.continued, .lost] <:+ marks ∨
      [.recorded, .accepted, .continued, .stopped] <:+ marks := by
  cases h with
  | nil => exact .inl rfl
  | drops hlapses => exact absurd hlapses hnot
  | goes h hgoes =>
    cases hgoes with
    | tell => exact .inr (.inl (List.suffix_append _ _))
    | announce =>
      cases h.pending rfl with
      | recorded _ hlive => exact absurd (hlive.resolve_left Bool.false_ne_true) hnot
      | accepted _ _ howing => exact absurd (howing.resolve_left Bool.false_ne_true) hnot
      | continued hmarks => exact .inr (.inr (.inr (List.suffix_append_self_iff.mpr hmarks)))
    | lose =>
      cases h.pending rfl with
      | recorded _ hlive => exact absurd (hlive.resolve_left Bool.false_ne_true) hnot
      | accepted _ _ howing => exact absurd (howing.resolve_left Bool.false_ne_true) hnot
      | continued hmarks =>
        have htold : [.continued] <:+ [Mark.recorded, .accepted, .continued] :=
          List.suffix_append [Mark.recorded, .accepted] _
        exact .inr (.inr (.inl (List.suffix_append_self_iff.mpr (htold.trans hmarks))))

/-- Whether a stop is in the table can be told from the story when nothing is left to tell. -/
theorem live_iff {live : Bool} (h : Tale lapses ⟨live, false, false⟩ marks) (hnot : ¬lapses) :
    live = true ↔ ((marks.filter Mark.isTold).getLast? = some .stopped ∧
        ¬[.recorded, .accepted, .continued, .stopped] <:+ marks) ∨
      [.recorded, .lost] <:+ marks := by
  cases live with
  | true =>
    refine iff_of_true rfl ?_
    rcases h.of_live hnot with ⟨front, rfl⟩ | hlost
    · refine .inl ⟨?_, fun hsuffix => ?_⟩
      · rw [List.filter_append]
        exact List.getLast?_concat
      · rw [← List.reverse_prefix] at hsuffix
        simp at hsuffix
    · exact .inr hlost
  | false =>
    refine iff_of_false Bool.false_ne_true ?_
    have hgoesOn : ∀ {front : List Mark},
        (front.filter Mark.isTold ++ [Mark.continued]).getLast? ≠ some .stopped := by
      intro front hlast
      rw [List.getLast?_concat] at hlast
      cases hlast
    rintro (⟨htold, hlate⟩ | hlost)
    · rcases h.of_still hnot with rfl | ⟨front, rfl⟩ | ⟨front, rfl⟩ | hsuffix
      · exact nomatch htold
      · rw [List.filter_append] at htold
        exact hgoesOn htold
      · rw [List.filter_append] at htold
        exact hgoesOn htold
      · exact hlate hsuffix
    · rw [← List.reverse_prefix] at hlost
      rcases h.of_still hnot with rfl | ⟨front, rfl⟩ | ⟨front, rfl⟩ | ⟨front, rfl⟩ <;>
        simp at hlost

/-- The client learns of a stop after it has learned that the thread goes on only when the request to
go on got ahead. -/
theorem late {front back : List Mark} (h : Tale lapses x (front ++ [Mark.continued, .stopped] ++ back)) :
    [Mark.recorded, .accepted] <:+ front := by
  generalize hmarks : front ++ [Mark.continued, .stopped] ++ back = marks at h
  have hlast : ∀ {back marks : List Mark} {mark : Mark},
      front ++ [Mark.continued, .stopped] ++ back = marks ++ [mark] →
        (front ++ [Mark.continued] = marks ∧ .stopped = mark) ∨
          ∃ rest, front ++ [Mark.continued, .stopped] ++ rest = marks := by
    intro back marks mark heq
    rcases List.eq_nil_or_concat' back with rfl | ⟨rest, other, rfl⟩
    · refine .inl (List.append_singleton_inj.mp ?_)
      rw [← heq, List.append_nil, List.append_assoc]
      rfl
    · have hsnoc : front ++ [Mark.continued, .stopped] ++ rest ++ [other] = marks ++ [mark] := by
        rw [← heq, List.append_assoc _ rest]
      exact .inr ⟨rest, (List.append_singleton_inj.mp hsnoc).1⟩
  induction h generalizing back with
  | nil => simp at hmarks
  | drops _ _ _ ih => exact ih hmarks
  | goes h hgoes ih =>
    rcases hlast hmarks with ⟨rfl, rfl⟩ | ⟨rest, hrest⟩
    · cases hgoes with
      | announce =>
        cases h.pending rfl with
        | recorded hsuffix | accepted hsuffix =>
          rw [← List.reverse_prefix] at hsuffix
          simp at hsuffix
        | continued hsuffix =>
          obtain ⟨before, hbefore⟩ := hsuffix
          exact ⟨before, (List.append_singleton_inj.mp ((List.append_assoc ..).trans hbefore)).1⟩
    · exact ih hrest

end Tale

end DebugAdapter.Evaluation
