import DebugAdapter.Proofs.Json.Records
import DebugAdapter.Protocol.Payload

/-! # Payloads survive their written form

Every argument and every body is read back from its value under the name it belongs to. Launches
and terminations carry free-form data, which has to fit beside the fields of its record. -/

namespace DebugAdapter.Protocol

open Json

/-! ## Records -/

namespace OutputCategory

@[simp] theorem ofValue?_toValue (c : OutputCategory) : ofValue? c.toValue = some c :=
  ofName?_name c

@[simp] theorem isPlain_toValue (c : OutputCategory) : c.toValue.isPlain = true :=
  Value.isPlain_string c.name

end OutputCategory

instance : LawfulRecord Thread where
instance : LawfulRecord Source where
instance : LawfulRecord StackFrame where
instance : LawfulRecord Scope where
instance : LawfulRecord Variable where
instance : LawfulRecord ErrorMessage where

instance : LawfulRecord InitializeArguments where
instance : LawfulRecord TerminateArguments where
instance : LawfulRecord DisconnectArguments where
instance : LawfulRecord StackTraceArguments where
instance : LawfulRecord ScopesArguments where
instance : LawfulRecord VariablesArguments where
instance : LawfulRecord ContinueArguments where

instance : LawfulRecord Capabilities where
instance : LawfulRecord ThreadsBody where
instance : LawfulRecord StackTraceBody where
instance : LawfulRecord ScopesBody where
instance : LawfulRecord VariablesBody where
instance : LawfulRecord ContinueBody where
instance : LawfulRecord ErrorBody where

instance : LawfulRecord OutputBody where
instance : LawfulRecord StoppedBody where
instance : LawfulRecord ContinuedBody where
instance : LawfulRecord ExitedBody where
instance : LawfulRecord ThreadBody where

/-! ## Records with free-form data -/

/-- The free-form data of a launch has no member with the key of its own field. -/
def LaunchArguments.isCarried (a : LaunchArguments) : Bool :=
  a.additional.members.all fun m => m.1 ≠ noDebugKey && m.2.isIntegral

theorem LaunchArguments.ofValue?_toValue {a : LaunchArguments} (h : a.isCarried = true) :
    ofValue? a.toValue = some a := by
  obtain ⟨noDebug, additional⟩ := a
  have hkeys : ∀ m ∈ additional.members, m.1 ≠ noDebugKey := fun m hm => by
    simpa using (Bool.and_eq_true_iff.mp (List.all_eq_true.mp h m hm)).1
  have hlookup := Value.lookup?_of_forall_ne hkeys
  have hfilter : additional.members.filter (·.1 != noDebugKey) = additional.members :=
    List.filter_eq_self.mpr fun m hm => bne_iff_ne.mpr (hkeys m hm)
  rw [toValue, ofValue?]
  cases noDebug with
  | none =>
    rw [Option.map_none, Option.toList_none, List.nil_append, hlookup, hfilter,
      FreeMembers.ofMembers_members]
    rfl
  | some b =>
    rw [Option.map_some, Option.toList_some, List.singleton_append, Value.lookup?_cons, hlookup,
      if_pos rfl, List.filter_cons_of_neg (by simp), hfilter, FreeMembers.ofMembers_members]
    rfl

theorem LaunchArguments.isIntegral_toValue {a : LaunchArguments} (h : a.isCarried = true) :
    a.toValue.isIntegral = true := by
  refine Value.isIntegral_object.mpr fun m hm => ?_
  rcases List.mem_append.mp hm with hm | hm
  · obtain ⟨b, -, rfl⟩ := Option.map_eq_some_iff.mp (Option.mem_toList.mp hm)
    rfl
  · exact (Bool.and_eq_true_iff.mp (List.all_eq_true.mp h m hm)).2

/-- The free-form data of a termination is not `null`, which stands for no data. -/
def TerminatedBody.isCarried (b : TerminatedBody) : Bool := b.restart.all (·.value.isPlain)

theorem TerminatedBody.isPlain_of_mem_fields {b : TerminatedBody} (h : b.isCarried = true)
    {v : Value} (hv : some v ∈ Record.fields b) : v.isIntegral = true ∧ v ≠ .null := by
  obtain ⟨data, hdata, rfl⟩ := Option.map_eq_some_iff.mp (List.mem_singleton.mp hv).symm
  rw [isCarried, hdata] at h
  simpa [Value.isPlain] using h

theorem TerminatedBody.ofValue?_toValue {b : TerminatedBody} (h : b.isCarried = true) :
    Record.ofValue? (Record.toValue b) = some b := by
  refine Record.ofValue?_toValue_of_ne_null (by decide) rfl
    (fun v hv => (isPlain_of_mem_fields h hv).2) ?_
  obtain ⟨restart⟩ := b
  cases restart <;> simp [Record.ofFields?, Record.fields]

theorem TerminatedBody.isIntegral_toValue {b : TerminatedBody} (h : b.isCarried = true) :
    (Record.toValue b).isIntegral = true :=
  Record.isIntegral_toValue_of_fields fun _ hv => (isPlain_of_mem_fields h hv).1

/-! ## Payloads by name -/

theorem PayloadTable.decode_of_lookup {α : Type} {table : PayloadTable α}
    {unknown : String → Error} {name : String} {v : Value} {read : Value → Option α} {payload : α}
    (hlookup : table.lookup name = some read) (hread : read v = some payload) :
    table.decode unknown name v = .ok payload := by
  rw [decode, hlookup]
  simp only
  rw [hread]

namespace RequestArguments

/-- Arguments that are written without loss. -/
def isCarried : RequestArguments → Bool
  | launch a => a.isCarried
  | _ => true

theorem decode_toValue {a : RequestArguments} (h : a.isCarried = true) :
    decode a.name a.toValue = .ok a := by
  cases a with
  | launch a =>
    refine PayloadTable.decode_of_lookup rfl ?_
    exact congrArg (Option.map launch) (LaunchArguments.ofValue?_toValue h)
  | configurationDone | threads => rfl
  | initialization | terminate | disconnect | stackTrace | scopes | variableList | resume =>
    refine PayloadTable.decode_of_lookup rfl ?_
    simp [toValue]

theorem isIntegral_toValue {a : RequestArguments} (h : a.isCarried = true) :
    a.toValue.isIntegral = true := by
  cases a with
  | launch a => exact LaunchArguments.isIntegral_toValue h
  | configurationDone | threads => rfl
  | initialization | terminate | disconnect | stackTrace | scopes | variableList | resume =>
    exact Record.isIntegral_toValue _

theorem toValue_ne_null (a : RequestArguments) : a.toValue ≠ .null := by
  cases a <;> exact Value.noConfusion

end RequestArguments

namespace ResponseBody

theorem decode_toValue (b : ResponseBody) : decode b.name b.toValue = .ok b := by
  cases b <;> exact PayloadTable.decode_of_lookup rfl (by simp [toValue])

theorem isIntegral_toValue (b : ResponseBody) : b.toValue.isIntegral = true := by
  cases b <;> exact Record.isIntegral_toValue _

theorem toValue_ne_null (b : ResponseBody) : b.toValue ≠ .null := by
  cases b <;> exact Value.noConfusion

end ResponseBody

namespace EventBody

/-- A body that is written without loss. -/
def isCarried : EventBody → Bool
  | terminated b => b.isCarried
  | _ => true

theorem decode_toValue {b : EventBody} (h : b.isCarried = true) :
    decode b.name b.toValue = .ok b := by
  cases b with
  | terminated b =>
    refine PayloadTable.decode_of_lookup rfl ?_
    exact congrArg (Option.map terminated) (TerminatedBody.ofValue?_toValue h)
  | output | stopped | continued | exited | thread =>
    refine PayloadTable.decode_of_lookup rfl ?_
    simp [toValue]

theorem isIntegral_toValue {b : EventBody} (h : b.isCarried = true) :
    b.toValue.isIntegral = true := by
  cases b with
  | terminated b => exact TerminatedBody.isIntegral_toValue h
  | output | stopped | continued | exited | thread => exact Record.isIntegral_toValue _

theorem toValue_ne_null (b : EventBody) : b.toValue ≠ .null := by
  cases b <;> exact Value.noConfusion

end EventBody

end DebugAdapter.Protocol
