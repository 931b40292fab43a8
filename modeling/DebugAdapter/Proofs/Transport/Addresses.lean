import DebugAdapter.Proofs.Text.Trimming
import DebugAdapter.Transport.Address

/-! # What addresses are written like

Which texts are addresses, once the blank characters around them are gone, and what is wrong with
the others. An address is written as the text that it was read from, so reading and writing may
follow each other as often as one likes. -/

namespace DebugAdapter.Transport

open Text (Trimmed trimmed_iff trimmed_trim)

namespace Address

variable {text core : String} {result : Except AddressError Address}

/-! ## Schemes -/

theorem after?_append (scheme rest : List Char) : after? scheme (scheme ++ rest) = some rest := by
  rw [after?, if_pos (List.isPrefixOf_iff_prefix.mpr (List.prefix_append scheme rest)),
    List.drop_left]

theorem after?_eq_none {scheme : String} (h : ∀ rest, core ≠ scheme ++ rest) :
    after? scheme.toList core.toList = none := by
  refine if_neg fun hprefix => ?_
  obtain ⟨rest, hrest⟩ := List.isPrefixOf_iff_prefix.mp hprefix
  refine h (String.ofList rest) (String.toList_inj.mp ?_)
  rw [String.toList_append, String.toList_ofList, hrest]

/-- A scheme needs something after it, and whatever that is is kept as it is. -/
theorem match_after (rest : String) (e : AddressError) (make : String → Address)
    (other : Except AddressError Address) :
    (match some rest.toList with
      | some [] => .error e
      | some cs => .ok (make (String.ofList cs))
      | none => other : Except AddressError Address) = if rest = "" then .error e else .ok (make rest) := by
  by_cases hrest : rest = ""
  · rw [if_pos hrest, hrest]
    rfl
  · rw [if_neg hrest]
    split
    · rename_i hnil
      exact absurd (String.toList_eq_nil_iff.mp (Option.some.inj hnil)) hrest
    · rename_i hsome
      rw [← Option.some.inj hsome, String.ofList_toList]
    · rename_i hnone
      exact nomatch hnone

/-! ## Reading -/

theorem ne_stdioText {c : Char} {rest : List Char} (h : c ≠ 's') : c :: rest ≠ stdioText :=
  fun heq => h (List.head_eq_of_cons_eq heq)

theorem parse_stdio (h : Trimmed text.toList "stdio".toList) : parse text = .ok .stdio := by
  simp only [parse, h.trim_eq]
  exact if_pos rfl

theorem parse_tcp (host : String) (h : Trimmed text.toList ("tcp://" ++ host).toList) :
    parse text = if host = "" then .error (.empty "tcp") else .ok (.tcp host) := by
  have htrim : Text.trim text.toList = tcpScheme ++ host.toList :=
    h.trim_eq.trans String.toList_append
  have hstdio : tcpScheme ++ host.toList ≠ stdioText := ne_stdioText (c := 't') (by decide)
  simp only [parse, htrim, if_neg hstdio, after?_append]
  exact match_after host _ .tcp _

theorem parse_unix (path : String) (h : Trimmed text.toList ("unix://" ++ path).toList) :
    parse text = if path = "" then .error (.empty "unix") else .ok (.unix path) := by
  have htrim : Text.trim text.toList = unixScheme ++ path.toList :=
    h.trim_eq.trans String.toList_append
  have hstdio : unixScheme ++ path.toList ≠ stdioText := ne_stdioText (c := 'u') (by decide)
  have htcp : after? tcpScheme (unixScheme ++ path.toList) = none := rfl
  simp only [parse, htrim, if_neg hstdio, htcp, after?_append]
  exact match_after path _ .unix _

theorem parse_unknown (h : Trimmed text.toList core.toList) (hstdio : core ≠ "stdio")
    (htcp : ∀ rest, core ≠ "tcp://" ++ rest) (hunix : ∀ rest, core ≠ "unix://" ++ rest) :
    parse text = .error (.unknownScheme core) := by
  have hstdio' : core.toList ≠ stdioText := fun heq => hstdio (String.toList_inj.mp heq)
  have htcp' : after? tcpScheme core.toList = none := after?_eq_none htcp
  have hunix' : after? unixScheme core.toList = none := after?_eq_none hunix
  simp only [parse, h.trim_eq, if_neg hstdio', htcp', hunix', String.ofList_toList]

/-! ## The grammar -/

/-- What a text comes to that has no blank characters around it. -/
inductive Means : String → Except AddressError Address → Prop where
  | stdio : Means "stdio" (.ok .stdio)
  | tcp (host : String) (h : host ≠ "") : Means ("tcp://" ++ host) (.ok (.tcp host))
  | unix (path : String) (h : path ≠ "") : Means ("unix://" ++ path) (.ok (.unix path))
  | noHost : Means "tcp://" (.error (.empty "tcp"))
  | noPath : Means "unix://" (.error (.empty "unix"))
  | unknown (text : String) (hstdio : text ≠ "stdio") (htcp : ∀ rest, text ≠ "tcp://" ++ rest)
      (hunix : ∀ rest, text ≠ "unix://" ++ rest) : Means text (.error (.unknownScheme text))

/-- Every text comes to something. -/
theorem exists_means (core : String) : ∃ result, Means core result := by
  by_cases hstdio : core = "stdio"
  · subst hstdio
    exact ⟨_, .stdio⟩
  by_cases htcp : ∃ host, core = "tcp://" ++ host
  · obtain ⟨host, rfl⟩ := htcp
    by_cases hhost : host = ""
    · subst hhost
      exact ⟨_, .noHost⟩
    · exact ⟨_, .tcp host hhost⟩
  by_cases hunix : ∃ path, core = "unix://" ++ path
  · obtain ⟨path, rfl⟩ := hunix
    by_cases hpath : path = ""
    · subst hpath
      exact ⟨_, .noPath⟩
    · exact ⟨_, .unix path hpath⟩
  · exact ⟨_, .unknown core hstdio (not_exists.mp htcp) (not_exists.mp hunix)⟩

theorem Means.parse_eq (hmeans : Means core result) (h : Trimmed text.toList core.toList) :
    parse text = result := by
  cases hmeans with
  | stdio => exact parse_stdio h
  | tcp host hhost => rw [parse_tcp host h, if_neg hhost]
  | unix path hpath => rw [parse_unix path h, if_neg hpath]
  | noHost => exact parse_tcp "" h
  | noPath => exact parse_unix "" h
  | unknown core hstdio htcp hunix => exact parse_unknown h hstdio htcp hunix

theorem parse_eq_iff (h : Trimmed text.toList core.toList) :
    parse text = result ↔ Means core result := by
  refine ⟨?_, fun hmeans => hmeans.parse_eq h⟩
  rintro rfl
  obtain ⟨result, hmeans⟩ := exists_means core
  exact hmeans.parse_eq h ▸ hmeans

/-! ## Writing -/

theorem Means.text_eq {a : Address} (h : Means core (.ok a)) : a.text = core := by
  cases h <;> rfl

theorem means_ok_iff : (∃ a, Means core (.ok a)) ↔
    core = "stdio" ∨ ∃ rest, rest ≠ "" ∧ (core = "tcp://" ++ rest ∨ core = "unix://" ++ rest) := by
  constructor
  · rintro ⟨a, h⟩
    cases h with
    | stdio => exact .inl rfl
    | tcp host hhost => exact .inr ⟨host, hhost, .inl rfl⟩
    | unix path hpath => exact .inr ⟨path, hpath, .inr rfl⟩
  · rintro (rfl | ⟨rest, hrest, rfl | rfl⟩)
    · exact ⟨_, .stdio⟩
    · exact ⟨_, .tcp rest hrest⟩
    · exact ⟨_, .unix rest hrest⟩

theorem means_error_iff {e : AddressError} : Means core (.error e) ↔
    core = "tcp://" ∧ e = .empty "tcp" ∨ core = "unix://" ∧ e = .empty "unix" ∨
      core ≠ "stdio" ∧ (∀ rest, core ≠ "tcp://" ++ rest ∧ core ≠ "unix://" ++ rest) ∧
        e = .unknownScheme core := by
  constructor
  · intro h
    cases h with
    | noHost => exact .inl ⟨rfl, rfl⟩
    | noPath => exact .inr (.inl ⟨rfl, rfl⟩)
    | unknown core hstdio htcp hunix =>
      exact .inr (.inr ⟨hstdio, fun rest => ⟨htcp rest, hunix rest⟩, rfl⟩)
  · rintro (⟨rfl, rfl⟩ | ⟨rfl, rfl⟩ | ⟨hstdio, hscheme, rfl⟩)
    · exact .noHost
    · exact .noPath
    · exact .unknown core hstdio (fun rest => (hscheme rest).1) fun rest => (hscheme rest).2

/-- A text without the blank characters around it is an address if it is `stdio` or has a scheme
with something after it. The address is written as that text, which is read as the same address
again. All other texts are refused, those that end after a scheme because something is missing. -/
theorem parse_written (text : String) :
    ∃ core : String, (∀ other : String, Trimmed text.toList other.toList ↔ other = core) ∧
      ((∃ a, parse text = .ok a) ↔ core = "stdio" ∨
        ∃ rest, rest ≠ "" ∧ (core = "tcp://" ++ rest ∨ core = "unix://" ++ rest)) ∧
      (∀ a, parse text = .ok a → a.text = core ∧ parse a.text = .ok a) ∧
      ∀ e, parse text = .error e ↔
        core = "tcp://" ∧ e = .empty "tcp" ∨ core = "unix://" ∧ e = .empty "unix" ∨
          core ≠ "stdio" ∧ (∀ rest, core ≠ "tcp://" ++ rest ∧ core ≠ "unix://" ++ rest) ∧
            e = .unknownScheme core := by
  let core := String.ofList (Text.trim text.toList)
  have hcore : Trimmed text.toList core.toList := by
    rw [String.toList_ofList]
    exact trimmed_trim _
  refine ⟨core, fun other => ?_, ?_, fun a ha => ?_, fun e => ?_⟩
  · rw [trimmed_iff, hcore.trim_eq, String.toList_inj, eq_comm]
  · simp only [parse_eq_iff hcore, means_ok_iff]
  · have hmeans : Means core (.ok a) := (parse_eq_iff hcore).mp ha
    rw [hmeans.text_eq]
    exact ⟨rfl, hmeans.parse_eq hcore.self⟩
  · rw [parse_eq_iff hcore, means_error_iff]

/-- Blanks are dropped at the ends, of any kind, and kept after the scheme. -/
theorem parse_written_padded :
    parse "\u3000unix:// a b\u0085" = .ok (.unix " a b") ∧
      parse "unix:// a b" = .ok (.unix " a b") := by
  obtain ⟨core, hcore, -, hwritten, -⟩ := parse_written "\u3000unix:// a b\u0085"
  have hparse : parse "\u3000unix:// a b\u0085" = .ok (.unix " a b") := rfl
  exact ⟨hparse, (hwritten _ hparse).2⟩

end Address

end DebugAdapter.Transport
