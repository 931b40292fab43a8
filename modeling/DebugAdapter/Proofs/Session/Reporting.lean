import DebugAdapter.Proofs.Session.Reporting.Chronicles

/-! # What a run reports

Every run goes through a chronicle. The first failure that ends the conversation is what the run returns;
refusals, a farewell that was not sent and halves that were not closed are what the session notes. -/

namespace DebugAdapter.Session

open Protocol
variable {σ : Type}

/-! ## What each part of a run reports -/

theorem problems_receive (s : Session σ) : s.receive.2.problems = s.problems := by
  unfold receive
  dsimp only
  split <;> rfl

/-- The session goes through the opening, and notes a refusal. -/
theorem handshake_told (s : Session σ) :
    ∃ opening t, Greeting s opening t ∧ t.problems = s.problems ∧ s.handshake = (verdict opening,
      { t with problems := (opening.filterMap Moment.refusal?).reverse ++ s.problems }) := by
  have hproblems := s.problems_receive
  unfold handshake
  rcases hreceive : s.receive with ⟨e | m, t⟩
  · rw [hreceive] at hproblems
    refine ⟨_, t, .broken hreceive, hproblems, ?_⟩
    simp [verdict, List.findSome?, List.filterMap, Moment.fatal?, Moment.refusal?, ← hproblems]
  · rw [hreceive] at hproblems
    cases hfit : opening? m with
    | error reason =>
      refine ⟨_, t, .unfit hreceive hfit, hproblems, ?_⟩
      simp [verdict, List.findSome?, List.filterMap, Moment.fatal?, Moment.refusal?, hfit, refuse,
        note, ← hproblems]
    | ok fit =>
      obtain ⟨request, arguments⟩ := fit
      rcases hwelcome : t.handler.welcome arguments (t.handlerState, t.outbox) with
        ⟨causes | capabilities, handlerState, outbox⟩
      · refine ⟨_, _, .unwelcome hreceive hfit hwelcome, hproblems, ?_⟩
        simp [verdict, List.findSome?, List.filterMap, Moment.fatal?, Moment.refusal?, hfit,
          hwelcome, refuse, note, ← hproblems]
      · rcases hanswer : outbox.respondSuccess request (some (.capabilities capabilities)) with
          ⟨e | _, outbox'⟩ <;>
        · refine ⟨_, _, .answered hreceive hfit hwelcome hanswer, hproblems, ?_⟩
          simp [verdict, List.findSome?, List.filterMap, Moment.fatal?, Moment.refusal?, hfit,
            hwelcome, hanswer, ← hproblems]

/-- The session goes through the conversation, and notes nothing. Every message uses up bytes, so the
bound never ends it. -/
theorem dispatch_told (bound : Nat) (s : Session σ) (hbound : s.unread < bound) :
    ∃ talk t, Talk s talk t ∧ t.problems = s.problems ∧ dispatch bound s = (verdict talk, t) := by
  induction bound generalizing s with
  | zero => omega
  | succ bound ih =>
    rw [dispatch]
    rcases s.receive_spec with ⟨m, d', hdecode, hreceive⟩ | ⟨d', hdecode, hreceive⟩ |
      ⟨e, d', hdecode, he, hreceive⟩
    · rcases hprocess : s.handler.process m (s.handlerState, announce m (arrived d' s.outbox)) with
        ⟨causes | flow, handlerState, outbox⟩
      · refine ⟨_, _, .failed hreceive hprocess, rfl, ?_⟩
        simp only [hreceive, process, hprocess]
        rfl
      · cases flow with
        | stop =>
          refine ⟨_, _, .stopped hreceive hprocess, rfl, ?_⟩
          simp only [hreceive, process, hprocess]
          rfl
        | proceed =>
          let next : Session σ := { s with decoder := d', handlerState, outbox }
          have hnext : next.unread < bound := by
            have hlt := Framing.Decoder.length_remaining_decode_lt hdecode
            rw [unread_eq] at hbound ⊢
            exact Nat.lt_of_lt_of_le hlt (Nat.le_of_lt_succ hbound)
          obtain ⟨talk, t, htalk, hproblems, hdispatch⟩ := ih next hnext
          refine ⟨_, t, .proceeded hreceive hprocess htalk, hproblems, ?_⟩
          simp only [hreceive, process, hprocess]
          exact hdispatch
    · rw [hreceive]
      exact ⟨_, _, .ended hreceive, rfl, rfl⟩
    · rw [hreceive]
      exact ⟨_, _, .broken hreceive, rfl, rfl⟩

/-- The session closes its connection, and notes what fails, the last failure first. -/
theorem close_told (s : Session σ) :
    { s.close with state := .closed } = { s.shut with
      problems := (s.closing.filterMap Moment.readerFailure? ++
        s.closing.filterMap Moment.writerFailure?).reverse ++ s.problems } := by
  rw [close_eq]
  rcases hreader : s.decoder.close with ⟨_ | _, _⟩ <;>
    rcases hwriter : s.outbox.close with ⟨_ | _, _⟩ <;>
      simp [shut, closing, hreader, hwriter, List.filterMap, Moment.writerFailure?,
        Moment.readerFailure?]

theorem finish_told {u : Session σ} {outcome : Except Error Unit} {outbox outbox' : Outbox}
    {handlerState : σ} (hannounced : u.outbox.event "terminated" none = (outcome, outbox))
    (hterminate : u.handler.terminate (u.handlerState, outbox) = (handlerState, outbox')) :
    let v : Session σ := { u with handlerState, outbox := outbox' }
    u.finish = { v.shut with
      problems := ([.announced outcome].filterMap Moment.unannounced? ++
        v.closing.filterMap Moment.readerFailure? ++
          v.closing.filterMap Moment.writerFailure?).reverse ++ u.problems } := by
  intro v
  cases outcome with
  | ok =>
    simp only [finish, hannounced, noteIfError, hterminate]
    rw [close_told]
    simp [shut, closing, List.filterMap, Moment.unannounced?, v]
  | error e =>
    simp only [finish, hannounced, noteIfError, note, hterminate]
    rw [close_told]
    simp [shut, closing, List.filterMap, Moment.unannounced?, v]

/-! ## Whole runs -/

theorem noted_closing (s : Session σ) : noted s.closing =
    s.closing.filterMap Moment.readerFailure? ++ s.closing.filterMap Moment.writerFailure? := rfl

theorem noted_announced (outcome : Except Error Unit) (s : Session σ) :
    noted (.announced outcome :: s.closing) = [.announced outcome].filterMap Moment.unannounced? ++
      s.closing.filterMap Moment.readerFailure? ++ s.closing.filterMap Moment.writerFailure? := by
  cases outcome <;> rfl

/-- A run goes through the moments of a chronicle, ends as they say and notes what they say. -/
theorem run_told {s : Session σ} (hcreated : s.state = .created) :
    ∃ course t, Chronicle s course t ∧
      s.run = (verdict course, { t with problems := (noted course).reverse ++ s.problems }) := by
  obtain ⟨opening, t, hgreeting, hproblems, hhandshake⟩ :=
    ({ s with state := .opening } : Session σ).handshake_told
  cases hverdict : verdict opening with
  | error e =>
    have hrefused : .answered (.ok ()) ∉ opening := fun hmem => by
      simp [hgreeting.verdict_eq_ok_iff.mpr hmem] at hverdict
    refine ⟨_, _, .refused hgreeting hrefused, ?_⟩
    rw [hverdict] at hhandshake
    rw [run_refused hcreated hhandshake, close_told, verdict_append_of_error hverdict,
      hgreeting.noted_append t.closing_not_opening, noted_closing]
    simp [shut, closing]
  | ok =>
    have hopened := hgreeting.verdict_eq_ok_iff.mp hverdict
    have hnone : opening.filterMap Moment.refusal? = [] := by
      apply List.eq_nil_iff_forall_not_mem.mpr
      intro e he
      simp [(hgreeting.refusal_eq he).2] at hverdict
    have ht : ({ t with problems := [].reverse ++ s.problems } : Session σ) = t :=
      congrArg (fun problems => ({ t with problems } : Session σ)) hproblems.symm
    rw [hverdict, hnone, ht] at hhandshake
    obtain ⟨talk, u, htalk, huproblems, hdispatch⟩ :=
      dispatch_told _ ({ t with state := .dispatching } : Session σ) (Nat.lt_succ_self _)
    rcases hannounced : u.outbox.event "terminated" none with ⟨outcome, outbox⟩
    rcases hterminate : u.handler.terminate (u.handlerState, outbox) with ⟨handlerState, outbox'⟩
    refine ⟨_, _, .served hgreeting hopened htalk hannounced hterminate, ?_⟩
    have hfinish := finish_told hannounced hterminate
    have hsproblems : u.problems = s.problems := huproblems.trans hproblems
    generalize ({ u with handlerState, outbox := outbox' } : Session σ) = v at hfinish ⊢
    have hfarewell : verdict (.announced outcome :: v.closing) = .ok () := by cases outcome <;> rfl
    have hnoted := hgreeting.noted_append (htalk.not_opening outcome v)
    rw [← List.append_assoc, htalk.noted_append, noted_announced, hnone, List.nil_append] at hnoted
    rw [run_served hcreated hhandshake rfl, hdispatch, hfinish, verdict_append_of_ok hfarewell,
      verdict_append hverdict, hnoted, hsproblems]

/-! ## What a chronicle tells -/

/-- A chronicle begins with an opening, and nothing of it comes again. -/
theorem Chronicle.exists_opening {s t : Session σ} {course : List Moment} (h : Chronicle s course t) :
    ∃ opening rest u, course = opening ++ rest ∧ Greeting { s with state := .opening } opening u ∧
      ∀ moment ∈ rest, moment.isOpening = false := by
  cases h with
  | @refused _ u hgreeting => exact ⟨_, _, _, rfl, hgreeting, u.closing_not_opening⟩
  | @served _ _ _ _ outcome _ _ _ hgreeting _ htalk =>
    exact ⟨_, _, _, List.append_assoc _ _ _, hgreeting, htalk.not_opening outcome _⟩

theorem Chronicle.refusal_returned {s t : Session σ} {course : List Moment}
    (h : Chronicle s course t) {e : Error} (he : e ∈ course.filterMap Moment.refusal?) :
    course.filterMap Moment.refusal? = [e] ∧ verdict course = .error e := by
  obtain ⟨opening, rest, u, rfl, hgreeting, hrest⟩ := h.exists_opening
  rw [List.filterMap_append, refusals_of_not_opening hrest, List.append_nil] at he ⊢
  obtain ⟨honly, hverdict⟩ := hgreeting.refusal_eq he
  exact ⟨honly, verdict_append_of_error hverdict⟩

theorem Chronicle.not_refused {s t : Session σ} {course : List Moment} (h : Chronicle s course t)
    {e : Error} (he : .first (.error e) ∈ course ∨ .answered (.error e) ∈ course) :
    course.filterMap Moment.refusal? = [] ∧ verdict course = .error e := by
  obtain ⟨opening, rest, u, rfl, hgreeting, hrest⟩ := h.exists_opening
  have hmem : .first (.error e) ∈ opening ∨ .answered (.error e) ∈ opening := by
    rcases he with he | he
    · exact .inl ((List.mem_append.mp he).resolve_right fun hmem => nomatch hrest _ hmem)
    · exact .inr ((List.mem_append.mp he).resolve_right fun hmem => nomatch hrest _ hmem)
  obtain ⟨hnone, hverdict⟩ := hgreeting.not_refused hmem
  refine ⟨?_, verdict_append_of_error hverdict⟩
  rw [List.filterMap_append, hnone, refusals_of_not_opening hrest, List.append_nil]

theorem opening?_error_iff (m : Message) :
    (∃ reason, opening? (some m) = .error reason) ↔
      ∀ request arguments, ¬ Opens m request arguments := by
  constructor
  · intro ⟨reason, hreason⟩ request arguments hopens
    exact nomatch hreason.symm.trans (opening?_of_opens hopens)
  · intro hnone
    cases hfit : opening? (some m) with
    | error reason => exact ⟨reason, rfl⟩
    | ok fit =>
      obtain ⟨_, hsome, hopens⟩ := opens_of_opening? hfit
      exact absurd (Option.some.inj hsome ▸ hopens) (hnone fit.1 fit.2)

/-- There is a refusal if the stream is empty, the first message is none that opens a session or the
handler does not welcome the client. -/
theorem refused_iff (course : List Moment) :
    course.filterMap Moment.refusal? ≠ [] ↔ .first (.ok none) ∈ course ∨
      (∃ m, .first (.ok (some m)) ∈ course ∧ ∀ request arguments, ¬ Opens m request arguments) ∨
      ∃ causes, .welcomed (.error causes) ∈ course := by
  constructor
  · intro hne
    obtain ⟨e, he⟩ := List.exists_mem_of_ne_nil _ hne
    obtain ⟨moment, hmem, hrefusal⟩ := List.mem_filterMap.mp he
    unfold Moment.refusal? at hrefusal
    split at hrefusal
    · rename_i m
      cases m with
      | none => exact .inl hmem
      | some m =>
        split at hrefusal
        · rename_i reason hunfit
          exact .inr (.inl ⟨m, hmem, (opening?_error_iff m).mp ⟨reason, hunfit⟩⟩)
        · exact nomatch hrefusal
    · exact .inr (.inr ⟨_, hmem⟩)
    · exact nomatch hrefusal
  · intro h
    suffices hsome : ∃ moment ∈ course, ∃ e, moment.refusal? = some e by
      obtain ⟨moment, hmem, e, he⟩ := hsome
      exact List.ne_nil_of_mem (List.mem_filterMap.mpr ⟨moment, hmem, he⟩)
    rcases h with hmem | ⟨m, hmem, hunfit⟩ | ⟨causes, hmem⟩
    · exact ⟨_, hmem, _, rfl⟩
    · obtain ⟨reason, hreason⟩ := (opening?_error_iff m).mpr hunfit
      exact ⟨_, hmem, .handshake reason, by simp [Moment.refusal?, hreason]⟩
    · exact ⟨_, hmem, _, rfl⟩

/-- All goes well if the session is opened and the handler or the stream ends the conversation. -/
theorem Chronicle.verdict_eq_ok_iff {s t : Session σ} {course : List Moment}
    (h : Chronicle s course t) :
    verdict course = .ok () ↔ .answered (.ok ()) ∈ course ∧
      (.processed (.ok .stop) ∈ course ∨ .next (.ok none) ∈ course) := by
  cases h with
  | @refused opening u hgreeting hrefused =>
    have herror : verdict opening ≠ .ok () := mt hgreeting.verdict_eq_ok_iff.mp hrefused
    have hnot : .answered (.ok ()) ∉ opening ++ u.closing := by simp [hrefused, closing]
    rw [verdict_append_of_ok rfl]
    simp [herror, hnot]
  | @served opening _ talk u outcome _ handlerState outbox' hgreeting hopened htalk =>
    generalize ({ u with handlerState, outbox := outbox' } : Session σ) = v
    have hfarewell : verdict (.announced outcome :: v.closing) = .ok () := by cases outcome <;> rfl
    have hstop : .processed (.ok .stop) ∉ opening :=
      fun hmem => Bool.false_ne_true (hgreeting.isOpening _ hmem)
    have hended : .next (.ok none) ∉ opening :=
      fun hmem => Bool.false_ne_true (hgreeting.isOpening _ hmem)
    rw [verdict_append_of_ok hfarewell, verdict_append (hgreeting.verdict_eq_ok_iff.mpr hopened),
      htalk.verdict_eq_ok_iff]
    simp [hopened, hstop, hended, closing]

/-- The client is told if and only if the session was opened. -/
theorem Chronicle.announced_iff {s t : Session σ} {course : List Moment} (h : Chronicle s course t) :
    (∃ outcome, .announced outcome ∈ course) ↔ .answered (.ok ()) ∈ course := by
  cases h with
  | @refused opening u hgreeting hrefused =>
    have hnot : ∀ outcome, .announced outcome ∉ opening :=
      fun outcome hmem => Bool.false_ne_true (hgreeting.isOpening _ hmem)
    simp [hrefused, hnot, closing]
  | @served _ _ _ _ outcome _ _ _ _ hopened =>
    exact ⟨fun _ => by simp [hopened], fun _ => ⟨outcome, by simp⟩⟩

theorem unread_shut (s : Session σ) : s.shut.unread = s.unread := by
  rw [unread_eq, unread_eq]
  exact congrArg List.length s.decoder.source.remaining_close

theorem Chronicle.unread_of_ended {s t : Session σ} {course : List Moment} (h : Chronicle s course t)
    (hattached : s.decoder.source.feed.attached = true) (hended : .next (.ok none) ∈ course) :
    t.unread = 0 := by
  cases h with
  | refused hgreeting =>
    have hmem := (List.mem_append.mp hended).resolve_right (by simp [closing])
    exact absurd (hgreeting.isOpening _ hmem) Bool.false_ne_true
  | @served opening _ talk _ _ _ _ _ hgreeting _ htalk =>
    have hmem : .next (.ok none) ∈ opening ++ talk :=
      (List.mem_append.mp hended).resolve_right (by simp [closing])
    rcases List.mem_append.mp hmem with hmem | hmem
    · exact absurd (hgreeting.isOpening _ hmem) Bool.false_ne_true
    · rw [unread_shut]
      exact htalk.unread_of_ended (hgreeting.alike.attached_eq.trans hattached) hmem

/-! ## What a run reports -/

/-- The result of a run and the errors that it notes are those of its moments. -/
structure Accounts (course : List Moment) (result : Except Error Unit) (errors : List Error) :
    Prop where
  /-- The first failure that ends the conversation is returned. -/
  result_eq : result = verdict course
  result_eq_ok_iff : result = .ok () ↔ .answered (.ok ()) ∈ course ∧
    (.processed (.ok .stop) ∈ course ∨ .next (.ok none) ∈ course)
  errors_eq : errors = course.filterMap Moment.refusal? ++ course.filterMap Moment.unannounced? ++
    course.filterMap Moment.readerFailure? ++ course.filterMap Moment.writerFailure?
  refused_iff : course.filterMap Moment.refusal? ≠ [] ↔ .first (.ok none) ∈ course ∨
    (∃ m, .first (.ok (some m)) ∈ course ∧ ∀ request arguments, ¬ Opens m request arguments) ∨
    ∃ causes, .welcomed (.error causes) ∈ course
  /-- There is one refusal at most, and it is returned too. -/
  refusal_returned : ∀ e ∈ course.filterMap Moment.refusal?,
    course.filterMap Moment.refusal? = [e] ∧ result = .error e
  /-- Other failures of the opening are returned and not noted. -/
  not_refused : ∀ e, .first (.error e) ∈ course ∨ .answered (.error e) ∈ course →
    course.filterMap Moment.refusal? = [] ∧ result = .error e
  announced_iff : (∃ outcome, .announced outcome ∈ course) ↔ .answered (.ok ()) ∈ course

/-- Whatever the client sends, however reads and writes fail and whatever the handler does: what the run
of a session returns, and what the session has noted after it, are told by the moments that it went
through. Where the stream ended the conversation, nothing of it was left. -/
theorem run_reports {s : Session σ} (hcreated : s.state = .created) :
    ∃ course t errors, Chronicle s course t ∧ Accounts course s.run.1 errors ∧
      s.run.2.errors = s.errors ++ errors ∧ s.run.2 = { t with problems := s.run.2.problems } ∧
      (s.decoder.source.feed.attached = true → .next (.ok none) ∈ course → s.run.2.unread = 0) := by
  obtain ⟨course, t, hchronicle, hrun⟩ := run_told hcreated
  refine ⟨course, t, noted course, hchronicle, ?_, ?_, ?_, ?_⟩
  · rw [hrun]
    exact {
      result_eq := rfl
      result_eq_ok_iff := hchronicle.verdict_eq_ok_iff
      errors_eq := rfl
      refused_iff := refused_iff course
      refusal_returned := fun _ he => hchronicle.refusal_returned he
      not_refused := fun _ he => hchronicle.not_refused he
      announced_iff := hchronicle.announced_iff }
  · simp [hrun, errors]
  · rw [hrun]
  · intro hattached hended
    rw [hrun]
    exact hchronicle.unread_of_ended hattached hended

/-- A client opens the session and asks for the threads. Its stream cannot be closed. -/
def brief : Framing.Decoder where
  source := {
    feed := {
      rest := Framing.frame (Utf8.encode
          "\x7b\"type\":\"request\",\"seq\":1,\"command\":\"initialize\",\"arguments\":\x7b\x7d\x7d") ++
        Framing.frame (Utf8.encode
          "\x7b\"type\":\"request\",\"seq\":2,\"command\":\"threads\"\x7d")
      pace := fun _ => 100
      refusal := some .notConnected } }

/-- A session whose handler stops at once. Only the first flush succeeds. -/
def faltering : Session Unit where
  peer := "p"
  decoder := brief
  outbox := { encoder := { sink := { flushes := { first := [none], later := some .brokenPipe } } } }
  handler := {
    welcome := fun _ x => (.ok {}, x)
    process := fun _ x => (.ok .stop, x)
    terminate := id }
  handlerState := ()

/-- The farewell is not flushed and neither half is closed, and the run goes well all the same. -/
theorem run_reports_faltering :
    faltering.state = .created ∧ faltering.run.1 = .ok () ∧
      ∃ course t, Chronicle faltering course t ∧ .answered (.ok ()) ∈ course ∧
        course.filterMap Moment.refusal? = [] ∧
          course.filterMap Moment.unannounced? ++ course.filterMap Moment.readerFailure? ++
            course.filterMap Moment.writerFailure? =
              [.io .brokenPipe, .io .notConnected, .io .brokenPipe] := by
  have hok : faltering.run.1 = .ok () := by
    have hisOk : faltering.run.1.isOk = true := by
      simp only [faltering, brief, Utf8.encode_eq_toByteArray]
      decide +kernel
    generalize faltering.run.1 = result at hisOk ⊢
    cases result with
    | ok => rfl
    | error e => simp [Except.isOk, Except.toBool] at hisOk
  have herrors : faltering.run.2.errors = [.io .brokenPipe, .io .notConnected, .io .brokenPipe] := by
    simp only [faltering, brief, Utf8.encode_eq_toByteArray]
    decide +kernel
  obtain ⟨course, t, errors, hchronicle, haccounts, hnoted, -⟩ := run_reports (s := faltering) rfl
  have hnone : course.filterMap Moment.refusal? = [] := by
    apply List.eq_nil_iff_forall_not_mem.mpr
    intro e he
    exact nomatch hok.symm.trans (haccounts.refusal_returned e he).2
  have hlisted := haccounts.errors_eq
  rw [hnone, List.nil_append] at hlisted
  refine ⟨rfl, hok, course, t, hchronicle, (haccounts.result_eq_ok_iff.mp hok).1, hnone, ?_⟩
  rw [← hlisted, ← herrors, hnoted]
  rfl

end DebugAdapter.Session
