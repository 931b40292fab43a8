import DebugAdapter.Proofs.Evaluation.Responses.Requests

/-! # What a session takes up

A message that got through answers what was owed, or owes nothing and answers nothing. A session
that hears from its client owes an answer to the request that it takes up. -/

namespace DebugAdapter.Evaluation

open Debuggee Protocol Session

variable {start : Outbox} {log : List Happening} {s t : System}

/-- A step in which nothing gets through and no message is taken up. -/
theorem Serving.of_unsent {more : List Happening} (h : Serving start log s) (hmore : Unsent more)
    (hconnection :
      (t.session.state = .closed ∧ t.session.work = [] ∧ t.outbox.sink.attached = false) ∨
      (t.session.state ≠ .closed ∧ t.outbox.sink.Accepts))
    (hbytes : t.outbox.sink.bytes = s.outbox.sink.bytes) (hseq : t.outbox.seq = s.outbox.seq)
    (howes : ∀ pending, Owes pending s.session.work → Owes pending t.session.work)
    (hpump : ∀ m, .send m ∈ t.pump → IsEvent m) : Serving start (log ++ more) t where
  connection := hconnection
  carried := by
    rw [sent_append, hmore.sent_eq, List.append_nil]
    exact h.carried.of_same hbytes hseq
  matched := by
    obtain ⟨pending, ⟨answered, hanswered, hall⟩, hwork⟩ := h.matched
    refine ⟨pending, ⟨answered, ?_, ?_⟩, howes pending hwork⟩
    · rw [requests_append, hmore.requests_eq, List.append_nil, hanswered]
    · rw [responses_append, responses, responses, hmore.sent_eq, List.filterMap_nil,
        List.append_nil]
      exact hall
  posts sender m result bytes hmem := by
    rcases List.mem_append.mp hmem with hmem | hmem
    · exact h.posts sender m result bytes hmem
    · exact hmore.posts sender m result bytes hmem
  pump := hpump

/-- A step in which a message gets through. -/
theorem Serving.of_post {sender : Actor} {m : Message} {payload bytes : Bytes} {o : Outbox}
    (hcarried : Carried start (sent log) o)
    (hposts : ∀ sender m result bytes, .posted sender m result bytes ∈ log →
      Orderly sender m result)
    (hm : Outbox.Delivered m payload o t.outbox) (hstate : t.session.state ≠ .closed)
    (horderly : Orderly sender m (.ok ()))
    (hmatched : ∃ pending, Matched pending (log ++ [Happening.posted sender m (.ok ()) bytes]) ∧
      Owes pending t.session.work)
    (hpump : ∀ m, .send m ∈ t.pump → IsEvent m) :
    Serving start (log ++ [Happening.posted sender m (.ok ()) bytes]) t where
  connection := .inr ⟨hstate, hm.accepts⟩
  carried := by
    rw [sent_append]
    exact hcarried.snoc hm
  matched := hmatched
  posts other n result bytes hmem := by
    rcases List.mem_append.mp hmem with hmem | hmem
    · exact hposts other n result bytes hmem
    · obtain ⟨rfl, rfl, rfl, rfl⟩ := Happening.posted.inj (List.mem_singleton.mp hmem)
      exact horderly
  pump := hpump

theorem Matched.event {pending : Option Request} {sender : Actor} {m : Message} {bytes : Bytes}
    (h : Matched pending log) (hm : IsEvent m) :
    Matched pending (log ++ [Happening.posted sender m (.ok ()) bytes]) := by
  obtain ⟨answered, hanswered, hall⟩ := h
  obtain ⟨e, rfl, -⟩ := hm
  refine ⟨answered, ?_, ?_⟩
  · rw [requests_append, hanswered]
    exact List.append_nil _
  · rw [responses_append]
    exact (List.append_nil (responses log)).symm ▸ hall

theorem Matched.mem {r : Request} (h : Matched (some r) log) : r ∈ requests log := by
  obtain ⟨answered, hanswered, -⟩ := h
  rw [hanswered]
  exact List.mem_append_right _ List.mem_cons_self

theorem Matched.answer {r : Request} {p : Response} {sender : Actor} {bytes : Bytes}
    (h : Matched (some r) log) (hp : Answers r p) :
    Matched none (log ++ [Happening.posted sender (.response p) (.ok ()) bytes]) := by
  obtain ⟨answered, hanswered, hall⟩ := h
  refine ⟨answered ++ [r], ?_, ?_⟩
  · rw [requests_append, hanswered]
    rfl
  · rw [responses_append]
    exact List.rel_append hall (.cons hp .nil)

theorem Matched.handled {m : Message} (h : Matched none log) :
    Matched (Happening.handled m).request? (log ++ [Happening.handled m]) := by
  obtain ⟨answered, hanswered, hall⟩ := h
  rw [Option.toList_none, List.append_nil] at hanswered
  refine ⟨answered, ?_, ?_⟩
  · rw [requests_append, hanswered]
    cases m <;> rfl
  · rw [responses_append]
    exact (List.append_nil (responses log)).symm ▸ hall

/-- A session that has nothing left to do owes no answer. -/
theorem Owes.eq_none_of_nil {pending : Option Request} (h : Owes pending []) : pending = none := by
  cases h
  rfl

theorem owes_endWith (s : System) (result : Except Error Unit) :
    Owes none (s.endWith result).session.work := by
  rcases s.endWith_work result with h | h <;> rw [h]
  · exact owes_farewell
  · exact .final trivial .nil

/-- There is a number for the next message. -/
theorem Serving.room (h : Serving start log s) (hmodest : Modest start log) :
    s.outbox.seq + 1 < 2 ^ 63 := by
  rw [h.carried.seq_eq]
  exact hmodest.room

theorem answers_welcoming {r : Request} (h : r.command = openingCommand) :
    Answers r (System.welcoming r) := by
  refine answers_ok (fun b hb => ?_)
  obtain rfl := Option.some.inj hb
  exact ⟨h.symm, rfl⟩

theorem Serving.accepts (h : Serving start log s) (hstate : s.session.state ≠ .closed) :
    s.outbox.sink.Accepts := by
  rcases h.connection with ⟨hclosed, -, -⟩ | ⟨-, haccepts⟩
  · exact absurd hclosed hstate
  · exact haccepts

/-- The answer to the request that opens the session gets through. -/
theorem Serving.welcome {more : List Happening} {m : Message} {request : Request}
    {arguments : InitializeArguments} {o : Outbox} (h : Serving start log s)
    (hmodest : Modest start (log ++ .handled m :: more)) (hstate : s.session.state ≠ .closed)
    (hrequest : opening? (some m) = .ok (request, arguments)) (hsink : o.sink = s.outbox.sink)
    (hseq : o.seq = s.outbox.seq) :
    m = .request request ∧ Answers request (System.welcoming request) ∧
      ∃ payload o', o.post (.response (System.welcoming request)) = (.ok (), o') ∧
        Outbox.Delivered (.response (System.welcoming request)) payload o o' := by
  obtain ⟨first, hfirst, rfl, hcommand, -⟩ := opens_of_opening? hrequest
  obtain rfl := Option.some.inj hfirst
  have hanswers := answers_welcoming hcommand
  have hmem : request ∈ requests (log ++ .handled (.request request) :: more) := by
    rw [requests_append]
    exact List.mem_append_right _ List.mem_cons_self
  obtain ⟨hpos, hnamed⟩ := hmodest.requests request hmem
  have hroom := h.room hmodest.of_append
  exact ⟨rfl, hanswers, Outbox.post_of_accepts (hanswers.sendable hpos hnamed)
    (hsink ▸ h.accepts hstate) (hseq ▸ hroom)⟩

theorem Carried.handled {o : Outbox} (h : Carried start (sent log) o) (m : Message) :
    Carried start (sent (log ++ [Happening.handled m])) o := by
  rw [sent_append]
  exact (List.append_nil (sent log)).symm ▸ h

theorem Serving.posts_handled {m : Message} (h : Serving start log s) (sender : Actor)
    (n : Message) (result : Except Error Unit) (bytes : Bytes)
    (hmem : .posted sender n result bytes ∈ log ++ [Happening.handled m]) : Orderly sender n result := by
  rcases List.mem_append.mp hmem with hmem | hmem
  · exact h.posts sender n result bytes hmem
  · exact nomatch List.mem_singleton.mp hmem

theorem serving_heard {more : List Happening} (h : Serving start log s)
    (hmodest : Modest start (log ++ more)) (hstate : s.session.state ≠ .closed)
    (hwork : s.session.work = []) (hheard : System.Heard s more t) :
    Serving start (log ++ more) t := by
  obtain ⟨pending, hmatched, howes⟩ := h.matched
  rw [hwork] at howes
  obtain rfl := howes.eq_none_of_nil
  cases hheard with
  | @message m decoder hopen hdecode =>
    have hsink : (announce m (s.outbox.record (.inbound decoder.lastPayload))).sink =
        s.outbox.sink := by cases m <;> rfl
    have hseq : (announce m (s.outbox.record (.inbound decoder.lastPayload))).seq =
        s.outbox.seq := by cases m <;> rfl
    exact ⟨.inr ⟨hstate, hsink.symm ▸ h.accepts hstate⟩,
      (h.carried.handled m).of_same (congrArg Sink.bytes hsink) hseq,
      ⟨_, hmatched.handled, owes_planMessage _ m⟩, h.posts_handled, h.pump⟩
  | @opened m decoder request arguments o o' hclosed hdecode hrequest hrecord hpost =>
    subst hrecord
    obtain ⟨rfl, hanswers, payload, o'', hpost', hdelivered⟩ :=
      h.welcome hmodest hstate hrequest (o := s.outbox.record (.inbound decoder.lastPayload)) rfl rfl
    obtain rfl : o' = o'' := congrArg Prod.snd (hpost.symm.trans hpost')
    have hcarried : Carried start (sent (log ++ [Happening.handled (.request request)]))
        (s.outbox.record (.inbound decoder.lastPayload)) :=
      (h.carried.handled _).of_same rfl rfl
    have hhandled : Matched (some request) (log ++ [Happening.handled (.request request)]) :=
      hmatched.handled
    have hopened : State.dispatching ≠ .closed := nofun
    rw [List.append_cons]
    exact .of_post hcarried h.posts_handled hdelivered hopened
      ⟨.inl rfl, fun _ => rfl, absurd rfl⟩ ⟨none, hhandled.answer hanswers, hwork ▸ .nil⟩ h.pump
  | @unanswered m decoder request arguments o e o' state result hclosed hsame hdecode hrequest hrecord
      hpost =>
    subst hrecord
    obtain ⟨-, -, payload, o'', hpost', -⟩ :=
      h.welcome hmodest hstate hrequest (o := s.outbox.record (.inbound decoder.lastPayload)) rfl rfl
    exact nomatch hpost.symm.trans hpost'
  | @ended o decoder state problems result hsame hsink hseq =>
    refine h.of_unsent .nil (.inr ⟨?_, ?_⟩) ?_ ?_ ?_ ?_
    · rw [System.endWith_state]
      split
      · decide
      · exact fun hclosed => hstate (hsame hclosed)
    · exact hsink ▸ h.accepts hstate
    · exact congrArg Sink.bytes hsink
    · exact hseq
    · intro pending howes
      rw [hwork] at howes
      rw [howes.eq_none_of_nil]
      exact owes_endWith _ _
    · exact h.pump

end DebugAdapter.Evaluation
