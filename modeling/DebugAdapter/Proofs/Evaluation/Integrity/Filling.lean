import DebugAdapter.Proofs.Evaluation.Integrity.Standing

/-! # Filling the tables

How far the tables are filled follows from how far the pump has got with the stop, as long as nothing
is purged in the middle of it. -/

namespace DebugAdapter.Evaluation

open Debuggee Protocol Session

/-- The tables hold frames and variables of a stop, as far as they were not purged, and no other stop
has frames. -/
structure Shows (stop : DebugStop × Channel) (g : Registries) : Prop where
  frames : g.frames.entries.toList <+: frameTable 0 stop.1.frames
  locals : g.locals.entries.toList <+: variablesByScope stop.1.frames
  events : ∀ thread event, g.events.get? thread = some event → event.frameIds = [] ∨
    event = ⟨stop.1.thread, List.range' 1 stop.1.frames.length, stop.2⟩

/-- No stop in the table has frames, but for those of some threads. -/
def ClearedBut (todo : List Int64) (g : Registries) : Prop :=
  ∀ thread event, g.events.get? thread = some event → event.frameIds = [] ∨ thread ∈ todo

/-- Handles were given out for some frames, and for some scopes of the next one. If more are given out,
they are the next ones. -/
structure Listing (earlier : List FrameInfo) (report : DebugStop) (ids : List Nat)
    (scopes : List Scope) (frames : List FrameInfo) (g : Registries) : Prop where
  frames_eq : report.frames = earlier ++ frames
  ids_eq : ids = List.range' 1 earlier.length
  scopes_eq : ∀ frame ∈ frames.head?, ∃ done todo, frame.scopes = done ++ todo ∧
    scopes = showScopes (earlier.flatMap (·.scopes)).length done
  nextFrame : frames ≠ [] → g.frames.entries.size = earlier.length
  nextScope : scopes.length < (frames.flatMap (·.scopes)).length →
    g.locals.entries.size = (earlier.flatMap (·.scopes)).length + scopes.length
  cleared : ClearedBut [] g

/-- How far the tables are filled, for what the pump has in hand. -/
inductive Filling (stop : DebugStop × Channel) (g : Registries) : Hand → Prop where
  | none : Filling stop g .none
  | taken (report c) : Filling stop g (.taken report c)
  | purging (report c) (hframes : g.frames = {}) : Filling stop g (.purging report c)
  | purged (report c) (hframes : g.frames = {}) (hlocals : g.locals = {}) :
      Filling stop g (.purged report c)
  | reading (report c) {thread todo} (hframes : g.frames = {}) (hlocals : g.locals = {})
      (hcleared : ClearedBut (thread :: todo) g) : Filling stop g (.reading report c thread todo)
  | writing (report c) {event todo} (hframes : g.frames = {}) (hlocals : g.locals = {})
      (hcleared : ClearedBut (event.thread :: todo) g) : Filling stop g (.writing report c event todo)
  | listing {ids scopes frames} (earlier) (h : Listing earlier stop.1 ids scopes frames g) :
      Filling stop g (.listing stop.1 stop.2 ids scopes frames)
  | keeping (hcleared : ClearedBut [] g) :
      Filling stop g (.keeping stop.1 stop.2 (List.range' 1 stop.1.frames.length))

section Steps

variable {stop : DebugStop × Channel} {hand hand' : Hand} {g g' : Registries}
  {log more : List Happening} {done : List (DebugStop × Channel)}

theorem Shows.thins (h : Shows stop g) (hthins : Thins g g') : Shows stop g' where
  frames := by
    rcases hthins.frames with heq | heq <;> rw [heq]
    · exact h.frames
    · exact List.nil_prefix
  locals := by
    rcases hthins.locals with heq | heq <;> rw [heq]
    · exact h.locals
    · exact List.nil_prefix
  events thread event hget := h.events thread event (hthins.events thread event hget)

/-- Empty tables show any stop. -/
theorem shows_of_empty (stop : DebugStop × Channel) (hframes : g.frames = {})
    (hlocals : g.locals = {}) (hcleared : ClearedBut [] g) : Shows stop g where
  frames := hframes ▸ List.nil_prefix
  locals := hlocals ▸ List.nil_prefix
  events thread event hget :=
    .inl ((hcleared thread event hget).resolve_right List.not_mem_nil)

theorem ClearedBut.thins {todo : List Int64} (h : ClearedBut todo g)
    (hevents : ∀ thread event, g'.events.get? thread = some event →
      g.events.get? thread = some event) : ClearedBut todo g' :=
  fun thread event hget => h thread event (hevents thread event hget)

/-- The frames are taken away from the stop of a thread, or it has no stop. -/
theorem ClearedBut.tail {thread : Int64} {todo : List Int64} (h : ClearedBut (thread :: todo) g)
    (hthread : ∀ event, g.events.get? thread = some event → event.frameIds = []) :
    ClearedBut todo g := by
  intro other event hget
  rcases h other event hget with hids | hmem
  · exact .inl hids
  · rcases List.mem_cons.mp hmem with rfl | hmem
    · exact .inl (hthread event hget)
    · exact .inr hmem

/-- A stop without frames is put into the table, or the one that the tables show. -/
theorem Shows.retains {event : StopEvent} (h : Shows stop g) (hevent : event.frameIds = [] ∨
      event = ⟨stop.1.thread, List.range' 1 stop.1.frames.length, stop.2⟩) :
    Shows stop { g with events := (g.events.retain event.thread event).2 } := by
  refine ⟨h.frames, h.locals, fun thread found hget => ?_⟩
  rw [ThreadTable.get?_retain] at hget
  split at hget
  · exact Option.some.inj hget ▸ hevent
  · exact h.events thread found hget

theorem ClearedBut.retains {event : StopEvent} {todo : List Int64}
    (h : ClearedBut (event.thread :: todo) g) (hids : event.frameIds = []) :
    ClearedBut todo { g with events := (g.events.retain event.thread event).2 } := by
  intro thread found hget
  rw [ThreadTable.get?_retain] at hget
  split at hget
  · exact .inl (Option.some.inj hget ▸ hids)
  · rename_i hne
    exact (h thread found hget).imp_right fun hmem => (List.mem_cons.mp hmem).resolve_left hne

/-- When all threads are done with, handles are given out for the next stop. -/
theorem filling_clear (report : DebugStop) (c : Channel) {todo : List Int64} (h : Shows stop g)
    (hframes : g.frames = {}) (hlocals : g.locals = {}) (hcleared : ClearedBut todo g) :
    ∃ stop', Shows stop' g ∧ Filling stop' g (.clear report c todo) ∧
      (stop' = stop ∨ (Hand.clear report c todo).stop? = some stop') := by
  cases todo with
  | cons thread todo => exact ⟨stop, h, .reading report c hframes hlocals hcleared, .inl rfl⟩
  | nil =>
    refine ⟨(report, c), shows_of_empty _ hframes hlocals hcleared, ?_, .inr rfl⟩
    refine .listing [] ⟨rfl, rfl, ?_, ?_, ?_, hcleared⟩
    · exact fun frame _ => ⟨[], frame.scopes, rfl, rfl⟩
    · exact fun _ => congrArg (fun table => table.entries.size) hframes
    · exact fun _ => congrArg (fun table => table.entries.size) hlocals

/-- A scope is put behind the next handle. -/
theorem Listing.addsScope {earlier : List FrameInfo} {report : DebugStop} {c : Channel}
    {ids : List Nat} {scopes : List Scope} {frame : FrameInfo} {frames : List FrameInfo}
    {scope : ScopeInfo} (h : Listing earlier report ids scopes (frame :: frames) g)
    (hshows : Shows (report, c) g) (hscope : frame.scopes[scopes.length]? = some scope) :
    Shows (report, c) { g with locals := (g.locals.add scope.listed).2 } ∧
      Listing earlier report ids (scopes ++ [scope.scope (g.locals.entries.size + 1)])
        (frame :: frames) { g with locals := (g.locals.add scope.listed).2 } := by
  obtain ⟨before, after, hsplit, hgiven⟩ := h.scopes_eq frame rfl
  have hlength : scopes.length = before.length := by rw [hgiven, length_showScopes]
  rw [hsplit, hlength, List.getElem?_append_right (Nat.le_refl _), Nat.sub_self] at hscope
  cases after with
  | nil => exact nomatch hscope
  | cons next after =>
    obtain rfl : next = scope := Option.some.inj hscope
    have hsize : g.locals.entries.size = (earlier.flatMap (·.scopes)).length + scopes.length := by
      apply h.nextScope
      simp only [List.flatMap_cons, List.length_append, hsplit, List.length_cons, hlength]
      omega
    refine ⟨⟨hshows.frames, ?_, hshows.events⟩, h.frames_eq, h.ids_eq, ?_, h.nextFrame, ?_, h.cleared⟩
    · have hnext := @getElem?_variablesByScope earlier frames _ _ _ _ hsplit
      rw [← hlength, ← hsize, ← h.frames_eq] at hnext
      rw [Handles.add, Array.toList_push]
      exact isPrefix_concat hshows.locals hnext
    · rintro _ ⟨⟩
      refine ⟨before ++ [next], after, by rw [hsplit, List.append_assoc]; rfl, ?_⟩
      rw [showScopes_append, hgiven, hsize, hlength]
      rfl
    · intro _
      rw [size_add, hsize, List.length_append, List.length_singleton, Nat.add_assoc]

/-- A frame is put behind the next handle, with all its scopes. -/
theorem Listing.addsFrame {earlier : List FrameInfo} {report : DebugStop} {c : Channel}
    {ids : List Nat} {scopes : List Scope} {frame : FrameInfo} {frames : List FrameInfo}
    (h : Listing earlier report ids scopes (frame :: frames) g) (hshows : Shows (report, c) g)
    (hscope : frame.scopes[scopes.length]? = none) :
    Shows (report, c) { g with frames := (g.frames.add (.ofInfo frame scopes)).2 } ∧
      Listing (earlier ++ [frame]) report (ids ++ [g.frames.entries.size + 1]) [] frames
        { g with frames := (g.frames.add (.ofInfo frame scopes)).2 } := by
  obtain ⟨before, after, hsplit, hgiven⟩ := h.scopes_eq frame rfl
  have hlength : scopes.length = before.length := by rw [hgiven, length_showScopes]
  have hsize : g.frames.entries.size = earlier.length := h.nextFrame (List.cons_ne_nil _ _)
  obtain rfl : after = [] := by
    rw [List.getElem?_eq_none_iff, hsplit, hlength, List.length_append] at hscope
    exact List.length_eq_zero_iff.mp (by omega)
  rw [List.append_nil] at hsplit
  rw [← hsplit] at hgiven hlength
  refine ⟨⟨?_, hshows.locals, hshows.events⟩, ?_, ?_, ?_, ?_, ?_, h.cleared⟩
  · have hnext := getElem?_frameTable earlier frames frame
    rw [← hgiven, ← hsize, ← h.frames_eq] at hnext
    rw [Handles.add, Array.toList_push]
    exact isPrefix_concat hshows.frames hnext
  · rw [h.frames_eq, List.append_assoc]
    rfl
  · rw [h.ids_eq, hsize, List.length_append, List.length_singleton, List.range'_1_concat,
      Nat.add_comm 1]
  · exact fun next _ => ⟨[], next.scopes, rfl, rfl⟩
  · intro _
    rw [size_add, hsize, List.length_append]
    rfl
  · intro hleft
    have hnext := h.nextScope
    simp only [List.flatMap_cons, List.length_append, hlength] at hnext
    simp only [List.length_nil] at hleft
    rw [List.flatMap_append, List.length_append, List.flatMap_singleton, List.length_nil,
      Nat.add_zero]
    exact hnext (by omega)

/-- Whatever the pump does, the tables show the stop that it works on, or that it worked on last. -/
theorem Filling.pump (h : Filling stop g hand) (hshows : Shows stop g) (hkept : Kept log hand done g)
    (hstep : Records hand g more hand' g') :
    ∃ stop', Shows stop' g' ∧ Filling stop' g' hand' ∧
      (stop' = stop ∨ hand'.stop? = some stop') := by
  cases hstep with
  | idle _ _ hthins => exact ⟨stop, hshows.thins hthins, .none, .inl rfl⟩
  | takes => exact ⟨stop, hshows, .taken _ _, .inl rfl⟩
  | purgesFrames =>
    exact ⟨stop, hshows.thins ⟨fun _ _ => id, .inr rfl, .inl rfl⟩, .purging _ _ rfl, .inl rfl⟩
  | purgesLocals =>
    cases h with
    | purging _ _ hframes =>
      exact ⟨stop, hshows.thins ⟨fun _ _ => id, .inl rfl, .inr rfl⟩, .purged _ _ hframes rfl, .inl rfl⟩
  | @finds _ report c =>
    cases h with
    | purged _ _ hframes hlocals =>
      exact filling_clear report c hshows hframes hlocals fun thread event hget =>
        .inr (ThreadTable.mem_threads.mpr ⟨event, hget⟩)
  | @misses _ report c thread todo hget =>
    cases h with
    | reading _ _ hframes hlocals hcleared =>
      exact filling_clear report c hshows hframes hlocals
        (hcleared.tail fun event hevent => nomatch hget.symm.trans hevent)
  | @reads _ report c thread todo event hget =>
    cases h with
    | reading _ _ hframes hlocals hcleared =>
      obtain ⟨hthread, -⟩ := hkept.live thread event hget
      refine ⟨stop, hshows, .writing _ _ hframes hlocals ?_, .inl rfl⟩
      rw [hthread]
      exact hcleared
  | @writes _ report c event todo =>
    cases h with
    | writing _ _ hframes hlocals hcleared =>
      obtain ⟨hids, -⟩ := hkept.read event rfl
      exact filling_clear report c (hshows.retains (.inl hids)) hframes hlocals
        (hcleared.retains hids)
  | addsScope hscope =>
    cases h with
    | listing earlier h =>
      obtain ⟨hshows', hlisting⟩ := h.addsScope hshows hscope
      exact ⟨stop, hshows', .listing earlier hlisting, .inl rfl⟩
  | @addsFrame _ _ _ _ _ frame _ hscope =>
    cases h with
    | listing earlier h =>
      obtain ⟨hshows', hlisting⟩ := h.addsFrame hshows hscope
      exact ⟨stop, hshows', .listing (earlier ++ [frame]) hlisting, .inl rfl⟩
  | lists =>
    cases h with
    | listing earlier h =>
      have hall : earlier = stop.1.frames := by rw [h.frames_eq, List.append_nil]
      rw [h.ids_eq, hall]
      exact ⟨stop, hshows, .keeping h.cleared, .inl rfl⟩
  | keeps =>
    cases h with
    | keeping => exact ⟨stop, hshows.retains (.inr rfl), .none, .inl rfl⟩

/-- The tables show the most recent stop that was put into the table, or one that comes after it. -/
theorem Filling.latest (h : Filling stop g hand) (hkept : Kept log hand done g)
    (hstep : Records hand g more hand' g') (hlatest : ∀ event ∈ recordeds log, event.resume ≤ stop.2) :
    ∀ event ∈ recordeds (log ++ more), event.resume ≤ stop.2 := by
  rw [recordeds_append]
  refine List.forall_mem_append.mpr ⟨hlatest, ?_⟩
  cases hstep with
  | idle _ hrecorded =>
    simp [hrecorded]
  | writes =>
    obtain ⟨-, ⟨before, hmem, -, hresume⟩, -⟩ := hkept.read _ rfl
    exact List.forall_mem_singleton.mpr (hresume ▸ hlatest before hmem)
  | keeps =>
    cases h with
    | keeping => exact List.forall_mem_singleton.mpr (Nat.le_refl stop.2)
  | _ => simp [recordeds, Happening.recorded?]

theorem Listing.drops {s t : System} {earlier : List FrameInfo} {report : DebugStop} {c : Channel}
    {ids : List Nat} {scopes : List Scope} {frames : List FrameInfo}
    (h : Listing earlier report ids scopes frames s.registries) (hdrops : Drops s t)
    (hinHand : InHand (.listing report c ids scopes frames) s.pump)
    (hnot : ¬(s.cutsFrames ∨ s.cutsLocals)) :
    Listing earlier report ids scopes frames t.registries := by
  have hpump := hinHand.pump_eq rfl
  refine ⟨h.frames_eq, h.ids_eq, h.scopes_eq, fun hmore => ?_, fun hleft => ?_,
    h.cleared.thins hdrops.events⟩
  · rcases hdrops.frames with hsame | ⟨hpurged, hwork⟩
    · rw [hsame]
      exact h.nextFrame hmore
    · obtain ⟨frame, frames, rfl⟩ := List.exists_cons_of_ne_nil hmore
      have hids : ids = [] := by
        by_contra hids
        exact hnot (.inl (System.cutsFrames_iff.mpr ⟨_, _, _, _, _, _, _, hpump, hids, hwork⟩))
      have hnone : earlier = [] := by simpa [hids] using h.ids_eq
      rw [hpurged, hnone]
      rfl
  · rcases hdrops.locals with hsame | ⟨hpurged, hwork⟩
    · rw [hsame]
      exact h.nextScope hleft
    · have hlocals : s.registries.locals.entries = #[] := by
        by_contra hlocals
        exact hnot (.inr (System.cutsLocals_of_left hpump hlocals hleft hwork))
      rw [← h.nextScope hleft, hpurged, hlocals]

/-- A purge that does not fall into the middle of a stop does no harm. -/
theorem Filling.drops {s t : System} (h : Filling stop s.registries hand) (hdrops : Drops s t)
    (hinHand : InHand hand s.pump) (hnot : ¬(s.cutsFrames ∨ s.cutsLocals)) :
    Filling stop t.registries hand := by
  have hthins := hdrops.thins
  have hframes : s.registries.frames = {} → t.registries.frames = {} := fun hempty =>
    hthins.frames.elim (fun heq => heq.trans hempty) id
  have hlocals : s.registries.locals = {} → t.registries.locals = {} := fun hempty =>
    hthins.locals.elim (fun heq => heq.trans hempty) id
  cases h with
  | none => exact .none
  | taken report c => exact .taken report c
  | purging report c hempty => exact .purging report c (hframes hempty)
  | purged report c hempty hempty' => exact .purged report c (hframes hempty) (hlocals hempty')
  | reading report c hempty hempty' hcleared =>
    exact .reading report c (hframes hempty) (hlocals hempty') (hcleared.thins hdrops.events)
  | writing report c hempty hempty' hcleared =>
    exact .writing report c (hframes hempty) (hlocals hempty') (hcleared.thins hdrops.events)
  | listing earlier h => exact .listing earlier (h.drops hdrops hinHand hnot)
  | keeping hcleared => exact .keeping (hcleared.thins hdrops.events)

end Steps

end DebugAdapter.Evaluation
