import DebugAdapter.Proofs.Framing.Progress

/-! # The end of a stream

A decoder reports that a connection was closed only between two frames: not a byte of another frame
has come, and no other failure of a frame looks like it. -/

namespace DebugAdapter

/-! ## No byte left -/

namespace Source

variable {s s' : Source}

theorem remaining_of_available_nil (hattached : s.feed.attached = true)
    (hroom : ¬ (s.capacity = 0 ∧ s.buffer.isEmpty)) (h : s.available = (.ok [], s')) : s.remaining = [] := by
  unfold available at h
  split at h
  · rename_i hbuffer
    have hcapacity : 0 < s.capacity := Nat.pos_of_ne_zero fun hzero => hroom ⟨hzero, hbuffer⟩
    rcases s.feed.read_spec hcapacity with ⟨_, _, hread⟩ | ⟨bytes, feed, hread, -, -, hend⟩
    · simp [hread] at h
    · simp only [hread, Prod.mk.injEq, Except.ok.injEq] at h
      rw [remaining, List.isEmpty_iff.mp hbuffer, hend hattached h.1, List.nil_append]
  · rename_i hbuffer
    have hnil := Except.ok.inj (Prod.mk.inj h).1
    exact absurd (List.isEmpty_iff.mpr hnil) hbuffer

/-- A read that gets no byte leaves the stream as it was. -/
theorem remaining_pull_of_error {e : IoError} (h : s.pull = (.error e, s')) :
    s'.remaining = s.remaining := by
  unfold pull at h
  split at h
  · rcases s.feed.read_spec Nat.one_pos with ⟨_, _, hread⟩ | ⟨_, _, hread, -, -, -⟩
    · simp only [hread, Prod.mk.injEq] at h
      rw [← h.2, remaining, remaining]
    · simp [hread] at h
  · have hremaining := s.remaining_available
    split at h <;> rename_i heq <;> rw [heq] at hremaining
    · simp at h
    · rw [← (Prod.mk.inj h).2, hremaining]

/-- A read finds no byte, and does not fail, only where none is left. -/
theorem remaining_of_pull_none (hattached : s.feed.attached = true) (h : s.pull = (.ok none, s')) :
    s.remaining = [] ∧ s'.remaining = [] := by
  have hleft := s.length_remaining_pull
  suffices hnil : s.remaining = [] by
    rw [h, hnil] at hleft
    exact ⟨hnil, List.length_eq_zero_iff.mp (Nat.eq_zero_of_le_zero (Nat.le_of_add_left_le hleft))⟩
  unfold pull at h
  split at h
  · rename_i hunbuffered
    rcases s.feed.read_spec Nat.one_pos with ⟨_, _, hread⟩ | ⟨bytes, _, hread, -, -, hend⟩
    · simp [hread] at h
    · simp only [hread, Prod.mk.injEq, Except.ok.injEq, List.head?_eq_none_iff] at h
      rw [remaining, List.isEmpty_iff.mp hunbuffered.2, hend hattached h.1, List.nil_append]
  · rename_i hroom
    split at h <;> rename_i heq
    · simp only [Prod.mk.injEq, Except.ok.injEq, List.head?_eq_none_iff] at h
      exact remaining_of_available_nil hattached hroom (h.1 ▸ heq)
    · simp at h

theorem remaining_of_next_none (hattached : s.feed.attached = true) (h : s.next = (.ok none, s')) :
    s.remaining = [] ∧ s'.remaining = [] := by
  unfold next at h
  generalize s.feed.faults.length = times at h
  induction times generalizing s with
  | zero => exact remaining_of_pull_none hattached h
  | succ times ih =>
    rw [persist] at h
    split at h
    · rename_i t heq
      have halike := s.alike_pull
      rw [heq] at halike
      rw [← remaining_pull_of_error heq]
      exact ih (halike.attached_eq.trans hattached) h
    · exact remaining_of_pull_none hattached h

end Source

namespace Framing

open Protocol

/-! ## Failures of a frame -/

/-- The result is not that the connection was closed. -/
def Open {α : Type} (x : Except Error α) : Prop := ∀ e, x = .error e → e ≠ .connectionClosed

theorem Open.bind {α β : Type} {x : Except Error α} {f : α → Except Error β} (hx : Open x)
    (hf : ∀ a, Open (f a)) : Open (x >>= f) := by
  cases x with
  | error e =>
    intro e' heq
    obtain rfl : e = e' := Except.error.inj heq
    exact hx e rfl
  | ok a => exact hf a

theorem Open.ok {α : Type} (a : α) : Open (.ok a) := fun _ heq => nomatch heq

theorem Open.error {α : Type} {e : Error} (h : e ≠ .connectionClosed) :
    Open (.error e : Except Error α) :=
  fun _ heq => Except.error.inj heq ▸ h

theorem open_liftJson {α : Type} (x : Except Json.Error α) : Open (liftJson x) := by
  cases x with
  | error e => exact fun _ heq hclosed => nomatch heq.trans (congrArg _ hclosed)
  | ok a => exact .ok a

theorem open_decode {α : Type} (table : PayloadTable α) {unknown : String → Error}
    (hunknown : ∀ name, unknown name ≠ .connectionClosed) (name : String) (v : Json.Value) :
    Open (table.decode unknown name v) := by
  intro e h
  unfold PayloadTable.decode at h
  split at h
  · exact Except.error.inj h ▸ hunknown name
  · split at h
    · exact nomatch h
    · exact Except.error.inj h ▸ nofun

theorem open_decodeOptional {α : Type} {decode : Json.Value → Except Error α}
    (h : ∀ v, Open (decode v)) (v : Option Json.Value) : Open (decodeOptional decode v) := by
  cases v with
  | none => exact .ok none
  | some v =>
    intro e heq
    rw [decodeOptional] at heq
    cases hdecode : decode v with
    | ok a => simp [hdecode, Except.map] at heq
    | error e' =>
      simp only [hdecode, Except.map, Except.error.injEq] at heq
      exact h v e (heq ▸ hdecode)

theorem open_readKind (payload : Bytes) : Open (readKind payload) := by
  refine (open_liftJson _).bind fun name => ?_
  cases MessageKind.ofName? name with
  | none => exact fun e heq => Except.error.inj heq ▸ nofun
  | some kind => exact .ok kind

theorem open_readRequest (payload : Bytes) : Open (readRequest payload) := by
  refine (open_liftJson _).bind fun fields => (open_liftJson _).bind fun seq =>
    (open_liftJson _).bind fun command => ?_
  have hunknown : ∀ name, Error.unrecognizedCommand name ≠ .connectionClosed := nofun
  have harguments := open_decode RequestArguments.table hunknown command
  exact (open_decodeOptional harguments _).bind fun _ => .ok _

theorem open_readResponse (payload : Bytes) : Open (readResponse payload) := by
  refine (open_liftJson _).bind fun fields => (open_liftJson _).bind fun seq =>
    (open_liftJson _).bind fun requestSeq => (open_liftJson _).bind fun success =>
    (open_liftJson _).bind fun command => ?_
  have hunknown : ∀ name, Error.unrecognizedCommand name ≠ .connectionClosed := nofun
  have hbody := open_decode ResponseBody.table hunknown (if success then command else "error")
  exact (open_decodeOptional hbody _).bind fun _ => .ok _

theorem open_readEvent (payload : Bytes) : Open (readEvent payload) := by
  refine (open_liftJson _).bind fun fields => (open_liftJson _).bind fun seq =>
    (open_liftJson _).bind fun event => ?_
  have hunknown : ∀ name, Error.unrecognizedEvent name ≠ .connectionClosed := nofun
  have hbody := open_decode EventBody.table hunknown event
  exact (open_decodeOptional hbody _).bind fun _ => .ok _

/-- Whatever is wrong with a payload, it is not that the connection was closed. -/
theorem open_ofPayload (payload : Bytes) : Open (Message.ofPayload payload) := by
  refine (open_readKind payload).bind fun kind => ?_
  cases kind with
  | request => exact (open_readRequest payload).bind fun _ => .ok _
  | response => exact (open_readResponse payload).bind fun _ => .ok _
  | event => exact (open_readEvent payload).bind fun _ => .ok _

/-! ## Between two frames -/

/-- Inside a header block the end of the stream is another error. -/
theorem open_readBlock (left : Nat) {read : Bytes} (hread : read ≠ []) (s : Source) :
    Open (readBlock left read s).1 := by
  fun_induction readBlock left read s with
  | case1 => exact .ok _
  | case2 => exact .error (by simp)
  | case3 read s _ left b s' hnext ih => exact ih (List.cons_ne_nil b read)
  | case4 read s _ left s' hnext =>
    rw [if_neg (mt List.isEmpty_iff.mp hread)]
    exact .error (by simp)
  | case5 => exact .error (by simp)

theorem remaining_of_readBlock_closed {left : Nat} {s s' : Source} (hattached : s.feed.attached = true)
    (h : readBlock left [] s = (.error .connectionClosed, s')) :
    s.remaining = [] ∧ s'.remaining = [] := by
  have hopen : terminated [] = false := rfl
  cases left with
  | zero => simp [readBlock, hopen] at h
  | succ left =>
    rw [readBlock, hopen] at h
    simp only [Bool.false_eq_true, if_false] at h
    split at h
    · rename_i b t hnext
      exact absurd rfl (open_readBlock left (List.cons_ne_nil b []) t _ (congrArg (·.1) h))
    · rename_i t hnext
      exact (Prod.mk.inj h).2 ▸ Source.remaining_of_next_none hattached hnext
    · simp at h

theorem open_readMissing {bound missing : Nat} {s : Source} {e : Error}
    (h : (readMissing bound missing s).1 = some e) : e ≠ .connectionClosed := by
  fun_induction readMissing bound missing s with
  | case1 | case2 => simp at h
  | case3 | case4 =>
    obtain rfl := Option.some.inj h
    simp
  | case5 bound missing s _ bytes s' _ hready n error more t hmore ih =>
    rw [hmore] at ih
    exact ih h

/-- When a decoder reports that the connection was closed, nothing was left to read, so the last
frame was a whole one. -/
theorem Decoder.remaining_of_decode_closed {d d' : Decoder} (hattached : d.source.feed.attached = true)
    (h : d.decode = (.error .connectionClosed, d')) :
    d.source.remaining = [] ∧ d'.source.remaining = [] := by
  have hblock : ∀ source, readBlock headerLimit [] d.source = (.error .connectionClosed, source) →
      d.source.remaining = [] ∧ source.remaining = [] :=
    fun _ => remaining_of_readBlock_closed hattached
  unfold decode readHeader at h
  split at h
  · rename_i e d₁ heq
    obtain ⟨he, rfl⟩ := Prod.mk.inj h
    split at heq
    · split at heq
      · exact nomatch (Prod.mk.inj heq).1
      · cases (Prod.mk.inj heq).1
        cases he
    · rename_i source hread
      obtain ⟨he', rfl⟩ := Prod.mk.inj heq
      rw [Except.error.inj he', Except.error.inj he] at hread
      exact hblock source hread
  · rename_i length d₁ heq
    split at h
    · rename_i e received source hmissing
      have hne := open_readMissing (congrArg (·.1) hmissing)
      exact absurd (Except.error.inj (Prod.mk.inj h).1) hne
    · exact absurd rfl (open_ofPayload _ _ (Prod.mk.inj h).1)

end Framing

end DebugAdapter
