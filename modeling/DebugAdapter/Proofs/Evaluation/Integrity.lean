import DebugAdapter.Proofs.Evaluation.Integrity.Filling

/-! # Handles in runs

In every run without a purge in the middle of a stop no handle stands for anything but what it was
given out for. After such a purge there are always steps that make it stand for something else. -/

namespace DebugAdapter.Evaluation

open Debuggee Protocol Session

/-! ## Reading what the handles stand for -/

section Stands

variable {stop : DebugStop × Channel} {g : Registries} {log : List Happening} {hand : Hand}
  {done : List (DebugStop × Channel)}

theorem exists_split_of_getElem? {α : Type} {items : List α} {n : Nat} {a : α}
    (h : items[n]? = some a) : ∃ earlier later, items = earlier ++ a :: later ∧ earlier.length = n := by
  obtain ⟨hlt, rfl⟩ := List.getElem?_eq_some_iff.mp h
  refine ⟨items.take n, items.drop (n + 1), ?_, List.length_take_of_le (Nat.le_of_lt hlt)⟩
  rw [← List.drop_eq_getElem_cons hlt, List.take_append_drop]

/-- The scopes of a frame lead to the variables that were reported for them. -/
theorem Shows.scopes {earlier later : List FrameInfo} {info : FrameInfo} (h : Shows stop g)
    (hfits : stop.1.Fits) (hframes : stop.1.frames = earlier ++ info :: later)
    {before after : List ScopeInfo} (hscopes : info.scopes = before ++ after) :
    List.Forall₂ (ScopeStands g)
      (showScopes ((earlier.flatMap (·.scopes)).length + before.length) after) after := by
  induction after generalizing before with
  | nil => exact .nil
  | cons scope after ih =>
    have hrest := @ih (before ++ [scope]) (by rw [hscopes, List.append_assoc]; rfl)
    rw [List.length_append, List.length_singleton, ← Nat.add_assoc] at hrest
    have hlt : (earlier.flatMap (·.scopes)).length + before.length + 1 < 2 ^ 63 := by
      have hall := hfits.scopes_lt
      simp only [hframes, List.flatMap_append, List.flatMap_cons, hscopes, List.length_append,
        List.length_cons] at hall
      omega
    refine .cons ⟨rfl, fun found hfound => ?_⟩ hrest
    rw [Int64.toInt_ofNat_of_lt hlt, Handles.get?_natCast_succ] at hfound
    have hshown := getElem?_of_isPrefix h.locals hfound
    rw [hframes, getElem?_variablesByScope hscopes] at hshown
    exact (Option.some.inj hshown).symm

/-- A frame in the table is the one that was reported in its place. -/
theorem Shows.frameStands {n : Nat} {frame : Frame} (h : Shows stop g) (hfits : stop.1.Fits)
    (hget : g.frames.entries.toList[n]? = some frame) :
    ∃ info, stop.1.frames[n]? = some info ∧ FrameStands g frame info := by
  have hshown := getElem?_of_isPrefix h.frames hget
  have hlt : n < stop.1.frames.length := by
    rw [← length_frameTable 0]
    exact (List.getElem?_eq_some_iff.mp hshown).1
  obtain ⟨earlier, later, hframes, rfl⟩ :=
    exists_split_of_getElem? (List.getElem?_eq_getElem hlt)
  refine ⟨_, List.getElem?_eq_getElem hlt, ?_⟩
  generalize stop.1.frames[earlier.length] = info at hframes
  rw [hframes, getElem?_frameTable] at hshown
  obtain rfl := Option.some.inj hshown
  exact ⟨rfl, @Shows.scopes _ _ _ _ _ h hfits hframes [] _ rfl⟩

/-- A stop in the table was reported, and its handles stand for what was reported. -/
theorem Shows.stopStands {thread : Int64} {event : StopEvent} (h : Shows stop g)
    (hkept : Kept log hand done g) (hstop : stop ∈ takenStops log ∨ stop.1.frames = [])
    (hfits : ∀ stop ∈ takenStops log, stop.1.Fits) (hget : g.events.get? thread = some event) :
    ∃ report, (report, event.resume) ∈ takenStops log ∧ report.thread = thread ∧
      StopStands g event report := by
  obtain ⟨hthread, before, hmem, hsame, hresume⟩ := hkept.live thread event hget
  by_cases hids : event.frameIds = []
  · obtain ⟨report, hdone, hreport⟩ := hkept.recorded before hmem
    refine ⟨report, ?_, hreport.trans (hsame.trans hthread), ?_⟩
    · rw [hkept.taken_eq, ← hresume]
      exact List.mem_append_left _ hdone
    · refine ⟨hids ▸ List.nodup_nil, fun n id frame hn => ?_⟩
      rw [hids] at hn
      exact nomatch hn
  · obtain rfl := (h.events thread event hget).resolve_left hids
    have htaken : stop ∈ takenStops log := by
      refine hstop.resolve_right fun hnone => hids ?_
      rw [hnone]
      rfl
    refine ⟨stop.1, htaken, hthread, List.nodup_range', fun n id frame hn hframe => ?_⟩
    obtain ⟨hlt, hid⟩ := List.getElem?_eq_some_iff.mp hn
    have hsucc : id = n + 1 := by
      rw [← hid, List.getElem_range', Nat.one_mul, Nat.add_comm]
    rw [hsucc, Handles.get?_natCast_succ] at hframe
    exact h.frameStands (hfits stop htaken) hframe

end Stands

/-! ## Runs -/

/-- What is known of the tables in a run in which no purge falls into the middle of a stop. -/
structure Shown (log : List Happening) (s : System) (hand : Hand) (done : List (DebugStop × Channel))
    (stop : DebugStop × Channel) : Prop where
  inHand : InHand hand s.pump
  kept : Kept log hand done s.registries
  shows : Shows stop s.registries
  filling : Filling stop s.registries hand
  taken : stop ∈ takenStops log ∨ stop.1.frames = []
  latest : ∀ event ∈ recordeds log, event.resume ≤ stop.2

def Faithful (log : List Happening) (s : System) : Prop := ∃ hand done stop, Shown log s hand done stop

theorem faithful_starting (script : Script) (decoder : Framing.Decoder) (outbox : Outbox) :
    Faithful [] (.starting script decoder outbox) := by
  refine ⟨.none, [], ⟨{ thread := 0, reason := "" }, 0⟩, ?_, .starting, ?_, .none, .inr rfl, ?_⟩
  · exact .idle (by simp [System.starting])
  · exact shows_of_empty _ rfl rfl fun _ _ hget => by cases hget
  · simp [recordeds]

theorem Faithful.move {log : List Happening} {s t : System} {move : Move} (h : Faithful log s)
    (hmove : s.move? move = some t) (hnot : ¬Transition.Cuts ⟨s, move, t⟩)
    (hordered : (takenStops (log ++ s.happenings move)).Pairwise (·.2 < ·.2)) :
    Faithful (log ++ s.happenings move) t := by
  obtain ⟨hand, done, stop, hinHand, hkept, hshows, hfilling, hstop, hlatest⟩ := h
  have hold : stop ∈ takenStops (log ++ s.happenings move) ∨ stop.1.frames = [] :=
    hstop.imp_left fun hmem => by
      rw [takenStops_append]
      exact List.mem_append_left _ hmem
  by_cases hpump : move = .step .pump
  · subst hpump
    obtain ⟨hand', hnext, hrecords⟩ := records_pump hinHand hmove
    obtain ⟨done', hkept'⟩ := hkept.pump hrecords
    obtain ⟨stop', hshows', hfilling', hsame⟩ := hfilling.pump hshows hkept hrecords
    rcases hsame with rfl | hworks
    · exact ⟨hand', done', _, hnext, hkept', hshows', hfilling', hold,
        hfilling.latest hkept hrecords hlatest⟩
    · have hmem : stop' ∈ takenStops (log ++ s.happenings (.step .pump)) := by
        have htaken := hkept'.taken_eq
        rw [hworks] at htaken
        exact htaken ▸ List.mem_append_right _ List.mem_cons_self
      exact ⟨hand', done', stop', hnext, hkept', hshows', hfilling', .inl hmem,
        fun event hevent => Nat.le_of_lt (hkept'.lt hordered hworks event hevent)⟩
  · obtain ⟨htaken, hrecorded⟩ := records_eq_nil (s := s) hpump
    have hdrops := drops_move hmove hpump
    have hsame := (pump_of_move hmove hpump).1
    refine ⟨hand, done, stop, hsame ▸ hinHand, ?_, hshows.thins hdrops.thins, ?_, hold, ?_⟩
    · exact hkept.still htaken hrecorded rfl (fun _ => id) hdrops.events
    · by_cases hsession : move = .step .session
      · exact hfilling.drops hdrops hinHand fun hcuts => hnot ⟨hsession, hcuts⟩
      · rw [registries_eq_of_move hmove hsession hpump]
        exact hfilling
    · rw [recordeds_append, hrecorded, List.append_nil]
      exact hlatest

theorem faithful_play (script : Script) (decoder : Framing.Decoder) (outbox : Outbox)
    (moves : List Move)
    (hcalm : ∀ x ∈ System.transitions moves (.starting script decoder outbox), ¬x.Cuts) :
    Faithful (System.play moves (.starting script decoder outbox)).1
      (System.play moves (.starting script decoder outbox)).2 := by
  have hordered := takenStops_play script decoder outbox moves
  rw [System.log_eq] at hordered ⊢
  revert hcalm hordered
  refine System.transitions_induction
    (P := fun run s => (∀ x ∈ run, ¬x.Cuts) → (takenStops (logOf run)).Pairwise (·.2 < ·.2) →
      Faithful (logOf run) s) ?_ ?_ moves
  · intro _ _
    exact faithful_starting script decoder outbox
  · intro run s move t h hmove hcalm hordered
    obtain ⟨hbefore, hnot⟩ := List.forall_mem_append.mp hcalm
    rw [logOf_append, logOf_singleton] at hordered ⊢
    have hfirst : (takenStops (logOf run)).Pairwise (·.2 < ·.2) := by
      rw [takenStops_append] at hordered
      exact (List.pairwise_append.mp hordered).1
    exact (h hbefore hfirst).move hmove (hnot _ List.mem_cons_self) hordered

theorem Faithful.sound {log : List Happening} {s : System} (h : Faithful log s)
    (hordered : (takenStops log).Pairwise (·.2 < ·.2))
    (hfits : ∀ stop ∈ takenStops log, stop.1.Fits) : Sound log s.registries := by
  obtain ⟨hand, done, stop, -, hkept, hshows, -, hstop, hlatest⟩ := h
  refine ⟨hordered, fun thread event hget => hshows.stopStands hkept hstop hfits hget, stop, hlatest, ?_⟩
  intro id frame hget
  rw [Handles.get?_eq] at hget
  split at hget
  · have hfound := getElem?_of_isPrefix hshows.frames hget
    have htaken : stop ∈ takenStops log := by
      refine hstop.resolve_right fun hnone => ?_
      rw [hnone] at hfound
      exact nomatch hfound
    exact ⟨htaken, hshows.frameStands (hfits stop htaken) hget⟩
  · exact nomatch hget

/-! ## After a purge in the middle of a stop -/

theorem play_pump {s t : System} (hstep : s.pump? = some t) (n : Nat) :
    (System.play (List.replicate (n + 1) (.step .pump)) s).2 =
      (System.play (List.replicate n (.step .pump)) t).2 := by
  rw [List.replicate_succ, System.play, show s.move? (.step .pump) = some t from hstep]

/-- The pump goes on with the stop that it works on. -/
theorem exists_records {s : System} {hand : Hand} {report : DebugStop} {c : Channel}
    (h : InHand hand s.pump) (hstop : hand.stop? = some (report, c)) (htasks : hand.tasks ≠ []) :
    ∃ t hand' more g, s.pump? = some t ∧ InHand hand' t.pump ∧ t.registries = g ∧
      Records hand s.registries more hand' g := by
  obtain ⟨task, rest, hpump⟩ := List.exists_cons_of_ne_nil htasks
  have hstep : s.pump? = some (s.pumpPerform (rest ++ [PumpTask.announce report]) task) := by
    rw [System.pump?, h.pump_eq hstop, hpump]
    rfl
  obtain ⟨hand', hnext, hrecords⟩ := records_pump h hstep
  exact ⟨_, hand', _, _, hstep, hnext, rfl, hrecords⟩

/-- Left to itself the pump gives handles to all frames that are left, and keeps the stop. -/
theorem exists_play_keeps {report : DebugStop} {c : Channel} {ids : List Nat} {scopes : List Scope}
    {frames : List FrameInfo} {s : System} (h : InHand (.listing report c ids scopes frames) s.pump) :
    ∃ n more, (frames ≠ [] → more.head? = some (s.registries.frames.entries.size + 1)) ∧
      (System.play (List.replicate n (.step .pump)) s).2.registries.events.get? report.thread =
        some ⟨report.thread, ids ++ more, c⟩ := by
  induction frames generalizing ids scopes s with
  | nil =>
    obtain ⟨t, hand, _, g, hstep, hnext, -, hlists⟩ := exists_records h rfl (List.cons_ne_nil _ _)
    cases hlists with
    | lists =>
      obtain ⟨u, hand, _, g, hlast, -, hkept, hkeeps⟩ :=
        exists_records hnext rfl (List.cons_ne_nil _ _)
      cases hkeeps with
      | keeps =>
        refine ⟨2, [], fun hmore => absurd rfl hmore, ?_⟩
        rw [play_pump hstep, play_pump hlast, List.append_nil]
        rw [List.replicate_zero, System.play, hkept, ThreadTable.get?_retain, if_pos rfl]
  | cons frame frames ih =>
    -- the scopes that are left come first
    generalize hleft : frame.scopes.length - scopes.length = left
    induction left generalizing scopes s with
    | zero =>
      obtain ⟨t, hand, _, g, hstep, hnext, hsame, hadds⟩ :=
        exists_records h rfl (List.cons_ne_nil _ _)
      cases hadds with
      | addsScope hscope =>
        have hlt := (List.getElem?_eq_some_iff.mp hscope).1
        omega
      | addsFrame =>
        obtain ⟨n, more, -, hkept⟩ := ih hnext
        refine ⟨n + 1, _ :: more, fun _ => rfl, ?_⟩
        rw [play_pump hstep, hkept, List.append_assoc]
        rfl
    | succ left ihLeft =>
      obtain ⟨t, hand, _, g, hstep, hnext, hsame, hadds⟩ :=
        exists_records h rfl (List.cons_ne_nil _ _)
      cases hadds with
      | addsScope =>
        obtain ⟨n, more, hfirst, hkept⟩ := ihLeft hnext (by rw [List.length_append]; simp; omega)
        rw [hsame] at hfirst
        refine ⟨n + 1, more, hfirst, ?_⟩
        rw [play_pump hstep]
        exact hkept
      | addsFrame hscope =>
        have hge := List.getElem?_eq_none_iff.mp hscope
        omega

theorem InHand.listing_of_record {hand : Hand} {report : DebugStop} {c : Channel} {ids : List Nat}
    {scopes : List Scope} {frames : List FrameInfo} {rest : List PumpTask}
    (h : InHand hand (.record report c ids scopes frames :: rest)) :
    hand = .listing report c ids scopes frames := by
  generalize hpump : .record report c ids scopes frames :: rest = pump at h
  cases h with
  | idle h =>
    subst hpump
    exact absurd trivial (h _ List.mem_cons_self)
  | works hstop =>
    cases hand with
    | none => exact nomatch hstop
    | listing =>
      obtain ⟨rfl, rfl, rfl, rfl, rfl⟩ := PumpTask.record.inj (List.cons.inj hpump).1
      rfl
    | _ => exact nomatch (List.cons.inj hpump).1

/-- When the frames are purged in the middle of a stop, the handles of the stop start again at one,
which was given out for it before. -/
theorem Faithful.not_sound {log : List Happening} {s : System} (h : Faithful log s)
    (hcuts : s.cutsFrames) :
    ∃ n, ∀ later, ¬Sound later
      (System.play (.step .session :: List.replicate n (.step .pump)) s).2.registries := by
  obtain ⟨report, c, ids, scopes, frame, frames, rest, hpump, hids, hhead⟩ :=
    System.cutsFrames_iff.mp hcuts
  obtain ⟨tasks, hwork⟩ := List.head?_eq_some_iff.mp hhead
  obtain ⟨hand, done, stop, hinHand, -, -, hfilling, -⟩ := h
  obtain rfl : hand = .listing report c ids scopes (frame :: frames) :=
    InHand.listing_of_record (hpump ▸ hinHand)
  have hone : 1 ∈ ids := by
    cases hfilling with
    | listing earlier h =>
      have hpos : earlier.length ≠ 0 := fun hzero => hids (by rw [h.ids_eq, hzero]; rfl)
      rw [h.ids_eq, List.mem_range'_1]
      omega
  obtain ⟨n, more, hfirst, hkept⟩ :=
    exists_play_keeps (s := s.perform tasks .purgeFrames) hinHand
  have hagain : 1 ∈ more := List.mem_of_mem_head? (hfirst (List.cons_ne_nil _ _))
  refine ⟨n, fun later hsound => ?_⟩
  rw [System.play, show s.move? (.step .session) = some (s.perform tasks .purgeFrames) from
    (session_of_work hwork).1] at hsound
  obtain ⟨report, -, -, hstands⟩ := hsound.stops _ _ hkept
  exact (List.nodup_append.mp hstands.nodup).2.2 1 hone 1 hagain rfl

/-- Whatever the client sends and in whichever order the threads make their steps, each handle stands
for what it was given out for, as long as no purge of the session falls into the middle of a stop. Once
the frames are purged there, the stop has a handle twice. -/
theorem sound_play (script : Script) (decoder : Framing.Decoder) (outbox : Outbox)
    {moves : List Move} {log : List Happening} {s : System}
    (hrun : System.play moves (.starting script decoder outbox) = (log, s))
    (hfits : ∀ stop ∈ takenStops log, stop.1.Fits)
    (hcalm : ∀ x ∈ System.transitions moves (.starting script decoder outbox), ¬x.Cuts) :
    Sound log s.registries ∧
      (s.cutsFrames → ∃ n, ∀ later, ¬Sound later
        (System.play (.step .session :: List.replicate n (.step .pump)) s).2.registries) := by
  have hordered := takenStops_play script decoder outbox moves
  have hfaithful := faithful_play script decoder outbox moves hcalm
  rw [hrun] at hordered hfaithful
  exact ⟨hfaithful.sound hordered hfits, hfaithful.not_sound⟩

/-- A program that stops on two threads, on the second one in two frames. -/
def stopNested : Script :=
  .stopAside { thread := 1, reason := "breakpoint" }
    (.stop
      { thread := 2
        reason := "breakpoint"
        frames :=
          [{ name := "inner"
             line := 2
             column := 1
             scopes := [{ name := "locals", members := [{ name := "x", value := "1" }] }] },
            { name := "outer", line := 9, column := 1 }] }
      (.finish (.success 0)) (.finish (.failure .cancelled)))

/-- The request to go on arrives for the first thread when one frame of the second one has a handle. -/
def midway : List Move := turns [(5, .session), (2, .engine), (16, .pump), (2, .session)]

def midwayRun : List Happening × System := System.play midway (.starting stopNested resumingClient {})

theorem sound_play_stopNested :
    (takenStops midwayRun.1).length = 2 ∧ midwayRun.2.registries.frames.entries.size = 1 ∧
      Sound midwayRun.1 midwayRun.2.registries ∧
      ∃ n, ∀ later, ¬Sound later
        (System.play (.step .session :: List.replicate n (.step .pump)) midwayRun.2).2.registries := by
  have hend : (takenStops midwayRun.1).length = 2 ∧
      midwayRun.2.registries.frames.entries.size = 1 ∧
      (∀ stop ∈ takenStops midwayRun.1, stop.1.frames.length < 3 ∧
        (stop.1.frames.flatMap (·.scopes)).length < 2) ∧ midwayRun.2.cutsFrames := by
    decide +kernel
  obtain ⟨htaken, hsize, hsmall, hcuts⟩ := hend
  have hcalm : ∀ x ∈ System.transitions midway (.starting stopNested resumingClient {}), ¬x.Cuts := by
    decide +kernel
  have hfits : ∀ stop ∈ takenStops midwayRun.1, stop.1.Fits := by
    intro stop hmem
    obtain ⟨hframes, hscopes⟩ := hsmall stop hmem
    exact ⟨by omega, by omega⟩
  have hrun : System.play midway (.starting stopNested resumingClient {}) =
      (midwayRun.1, midwayRun.2) := Prod.mk.eta.symm
  obtain ⟨hsound, hfatal⟩ := sound_play stopNested resumingClient {} hrun hfits hcalm
  exact ⟨htaken, hsize, hsound, hfatal hcuts⟩

/-- The session purges the frames, and the pump goes on with the stop. -/
def mixedUp : List Happening × System := System.play (turns [(1, .session), (3, .pump)]) midwayRun.2

/-- Both frames of the stop have the same handle, which leads to the outer one. -/
theorem not_sound_mixedUp :
    mixedUp.2.registries.events.get? 2 = some ⟨2, [1, 1], 1⟩ ∧
      (mixedUp.2.registries.frames.get? 1).map (·.name) = some "outer" ∧
      ¬Sound (midwayRun.1 ++ mixedUp.1) mixedUp.2.registries := by
  have hend : mixedUp.2.registries.events.get? 2 = some ⟨2, [1, 1], 1⟩ ∧
      (mixedUp.2.registries.frames.get? 1).map (·.name) = some "outer" := by
    decide +kernel
  obtain ⟨hlive, houter⟩ := hend
  refine ⟨hlive, houter, fun hsound => ?_⟩
  obtain ⟨report, -, -, hstands⟩ := hsound.stops 2 _ hlive
  exact absurd hstands.nodup (by decide)

end DebugAdapter.Evaluation
