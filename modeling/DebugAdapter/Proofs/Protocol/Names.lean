import DebugAdapter.Protocol.Envelope

/-! # Messages that may be sent

The name of a message that may be sent is the one it declares or else the one of its payload, and
the two agree. The bytes of such a message begin with its number, which is positive. -/

namespace DebugAdapter.Protocol

open Json

/-! ## Resolved names -/

namespace Message

/-- The command or the event that a message declares. -/
def declaredName : Message → String
  | .request r => r.command
  | .response r => r.command
  | .event e => e.event

/-- The name of the payload. -/
def payloadName : Message → Option String
  | .request r => r.arguments.map (·.name)
  | .response r => r.payloadName
  | .event e => e.body.map (·.name)

/-- The declared name, or the one of the payload where none is declared. -/
def resolvedName (m : Message) : String :=
  if m.declaredName = "" then m.payloadName.getD "" else m.declaredName

/-- A message that declares its name. -/
def named (m : Message) : Message :=
  match m with
  | .request r => .request { r with command := m.resolvedName }
  | .response r => .response { r with command := m.resolvedName }
  | .event e => .event { e with event := m.resolvedName }

end Message

theorem RequestArguments.name_ne (arguments : RequestArguments) : arguments.name ≠ "" := by
  cases arguments <;> rw [name] <;> decide

theorem ResponseBody.name_ne (body : ResponseBody) : body.name ≠ "" := by
  cases body <;> rw [name] <;> decide

theorem EventBody.name_ne (body : EventBody) : body.name ≠ "" := by
  cases body <;> rw [name] <;> decide

/-- Every payload has a name. -/
theorem Message.payloadName_ne (m : Message) : ∀ p ∈ m.payloadName, p ≠ "" := by
  intro p hp
  cases m with
  | request r =>
    obtain ⟨arguments, -, rfl⟩ := Option.map_eq_some_iff.mp hp
    exact arguments.name_ne
  | response r =>
    obtain ⟨seq, requestSeq, success, command, message, _ | body⟩ := r
    · exact nomatch hp
    · simp only [payloadName, Response.payloadName] at hp
      split at hp
      · exact nomatch hp
      · exact Option.some.inj hp ▸ body.name_ne
  | event e =>
    obtain ⟨body, -, rfl⟩ := Option.map_eq_some_iff.mp hp
    exact body.name_ne

theorem resolve_ok {kind : MessageKind} {declared name : String} {payload : Option String}
    (h : resolve kind declared payload = .ok name) :
    name = (if declared = "" then payload.getD "" else declared) ∧ ∀ p ∈ payload, p = name := by
  unfold resolve at h
  by_cases hdeclared : declared = ""
  · rw [if_pos hdeclared] at h ⊢
    cases payload with
    | none => exact absurd h (by simp)
    | some p =>
      obtain rfl := Except.ok.inj h
      exact ⟨rfl, fun q hq => (Option.some.inj hq).symm⟩
  · rw [if_neg hdeclared] at h ⊢
    cases payload with
    | none =>
      obtain rfl := Except.ok.inj h
      exact ⟨rfl, fun q hq => absurd hq (by simp)⟩
    | some p =>
      simp only at h
      split at h
      · rename_i hp
        obtain rfl := Except.ok.inj h
        exact ⟨rfl, fun q hq => (Option.some.inj hq).symm.trans hp⟩
      · exact absurd h (by simp)

theorem resolve_of_agree {kind : MessageKind} {declared : String} {payload : Option String}
    (hdeclared : declared ≠ "") (hagree : ∀ name ∈ payload, name = declared) :
    resolve kind declared payload = .ok declared := by
  unfold resolve
  rw [if_neg hdeclared]
  cases payload with
  | none => rfl
  | some name => exact if_pos (hagree name rfl)

theorem Event.resolve_of_resolvedEvent {e : Event} {name : String}
    (h : e.resolvedEvent = .ok name) :
    resolve .event e.event (e.body.map (·.name)) = .ok name := by
  rw [resolvedEvent] at h
  split at h
  · exact absurd h (by simp)
  · exact h

namespace Message

theorem checkedName_ok {m : Message} {name : String} (h : m.checkedName = .ok name) :
    0 < m.seq ∧ name = m.resolvedName ∧ ∀ p ∈ m.payloadName, p = name := by
  unfold checkedName at h
  split at h
  · exact absurd h (by simp)
  · rename_i hseq
    refine ⟨Int64.not_le.mp hseq, ?_⟩
    cases m with
    | request r => exact resolve_ok h
    | response r =>
      simp only at h
      split at h
      · exact absurd h (by simp)
      · exact resolve_ok h
    | event e => exact resolve_ok (Event.resolve_of_resolvedEvent h)

/-- The bytes of a message that may be sent are those of its document under the resolved name. -/
theorem toPayload_ok {m : Message} {payload : Bytes} (h : m.toPayload = .ok payload) :
    0 < m.seq ∧ (∀ p ∈ m.payloadName, p = m.resolvedName) ∧
      payload = Printer.value (m.document m.resolvedName) := by
  unfold toPayload at h
  cases hname : m.checkedName with
  | error e =>
    rw [hname] at h
    exact absurd h (by simp [bind, Except.bind])
  | ok name =>
    obtain ⟨hseq, rfl, hagree⟩ := checkedName_ok hname
    rw [hname] at h
    exact ⟨hseq, hagree, (Except.ok.inj h).symm⟩

theorem toPayload_of_checkedName {m : Message} {name : String}
    (h : m.checkedName = .ok name) : ∃ payload, m.toPayload = .ok payload := by
  rw [toPayload, h]
  exact ⟨_, rfl⟩

/-- The text of a document begins with the number of its message. -/
theorem exists_print_document (name : String) (m : Message) :
    ∃ rest, Printer.value (m.document name) =
      Utf8.encode "\x7b\"seq\":" ++ Decimal.encodeInt m.seq.toInt ++ 0x2C :: rest := by
  have hkey : Utf8.encode "\x7b\"seq\":" = 0x7B :: (Printer.string "seq" ++ [0x3A]) := by
    decide +kernel
  obtain ⟨members, hmembers⟩ : ∃ members, m.document name = .object (m.heading ++ members) :=
    ⟨_, rfl⟩
  refine ⟨Printer.string "type" ++
    0x3A :: (Printer.value (.string m.kind.name) ++ Printer.members members), ?_⟩
  rw [hmembers, hkey, List.cons_append, List.append_assoc, List.cons_append, List.append_assoc]
  rfl

end Message

end DebugAdapter.Protocol
