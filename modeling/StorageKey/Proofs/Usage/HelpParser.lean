import StorageKey.Proofs.Usage.HelpRequest

/-!
# The parser of a command's arguments

A command has no options but the one for help, and no operands. So it accepts no arguments at all:
whatever stands there asks for help or is an error.

* `mem_switches_of_token`: an option that a parser finds is one of its own;
* `refused_parse_helpParser`: no argument is accepted;
* `Parser.head?_help`: how a help text starts.
-/

namespace StorageKey.Usage

open StorageKey.Text

variable {σ : Type}

theorem mem_switches_of_switch? {p : Parser σ} {name : String} {s : Switch σ}
    (h : p.switch? name = some s) : s ∈ p.switches :=
  List.mem_of_find?_eq_some h

theorem mem_switches_of_mem_names {p : Parser σ} {e : String × Switch σ} (h : e ∈ p.names) :
    e.2 ∈ p.switches := by
  obtain ⟨s, hs, he⟩ := List.mem_flatMap.1 h
  obtain ⟨n, -, rfl⟩ := List.mem_map.1 he
  exact hs

theorem mem_switches_of_mem_candidates {p : Parser σ} {token : String}
    {e : Switch σ × String × Option String} (h : e ∈ p.candidates token) : e.1 ∈ p.switches := by
  unfold Parser.candidates at h
  split at h
  · obtain ⟨f, hf, rfl⟩ := List.mem_map.1 h
    exact mem_switches_of_mem_names (List.mem_filter.1 hf).1
  · obtain ⟨f, hf, he⟩ := List.mem_filterMap.1 h
    have hs := mem_switches_of_mem_names hf
    split at he
    · cases he
      exact hs
    split at he
    · cases he
      exact hs
    · cases he

/-- An option that a parser finds in a token is one of its own. -/
theorem mem_switches_of_token {p : Parser σ} {token : String} {s : Switch σ} {n : String}
    {v : Option String} (h : p.token token = .ok (.option s n v)) : s ∈ p.switches := by
  simp only [Parser.token] at h
  split at h
  · cases h
  split at h
  · next hs =>
    cases h
    exact mem_switches_of_switch? hs
  split at h
  · cases h
  split at h
  · next hb =>
    cases h
    rw [Option.bind_eq_some_iff] at hb
    obtain ⟨w, -, hb⟩ := hb
    obtain ⟨u, hu, he⟩ := Option.map_eq_some_iff.1 hb
    cases he
    exact mem_switches_of_switch? hu
  · split at h
    · next hc =>
      cases h
      exact mem_switches_of_mem_candidates (hc ▸ List.mem_singleton_self _)
    · split at h <;> cases h
    · cases h

theorem mem_switches_of_tokens {p : Parser σ} {args : List String} {ts : Tokens σ}
    (h : p.tokens args = .ok ts) {t : String} {s : Switch σ} {n : String} {v : Option String}
    (ht : (t, .option s n v) ∈ ts) : s ∈ p.switches := by
  induction args generalizing ts with
  | nil =>
    cases h
    cases ht
  | cons a r ih =>
    rw [Parser.tokens] at h
    split at h
    · cases h
      rcases List.mem_cons.1 ht with ht | ht
      · cases ht
      · obtain ⟨w, -, hw⟩ := List.mem_map.1 ht
        cases hw
    · cases hf : p.token a with
      | error e => rw [hf] at h; cases h
      | ok first =>
        cases hr : p.tokens r with
        | error e => rw [hf, hr] at h; cases h
        | ok us =>
          rw [hf, hr] at h
          cases h
          rcases List.mem_cons.1 ht with ht | ht
          · cases ht
            exact mem_switches_of_token hf
          · exact ih hr ht

/-! ### Help only -/

/-- Parsing ended with a request for help or an error. -/
def Refused (x : Parsed σ) : Prop := x.stop = some .help ∨ ∃ e, x.stop = some (.failure e)

/-- A command without options and operands accepts no arguments. -/
theorem refused_parse_helpParser (program description : String) (settings : σ) {args : List String}
    (h : args ≠ []) : Refused ((helpParser σ program description).parse settings args) := by
  rw [(helpOnly_helpParser program description).parse_eq]
  rcases (helpParser σ program description).firstVerdict? args with _ | e | ⟨⟩
  · exact .inr ⟨.unrecognized args, by simp [parsedBy, h]⟩
  · exact .inr ⟨e, rfl⟩
  · exact .inl rfl

/-! ### Help texts -/

theorem collapse_cons_of_ne {c : Char} (h : c ≠ '\n') (r : List Char) :
    collapse (c :: r) = c :: collapse r := by
  rw [collapse]
  intro r hc
  exact absurd hc h

/-- Stripping keeps a first character that is not stripped. -/
theorem head?_stripBy {p : Char → Bool} {c : Char} (h : p c = false) (r : List Char) :
    (stripBy p (c :: r)).head? = some c := by
  have keeps : ¬p c = true := by simp [h]
  rw [stripBy, List.dropWhile_cons_of_neg keeps, List.head?_reverse, List.reverse_cons,
    List.dropWhile_append]
  split
  · rw [List.dropWhile_cons_of_neg keeps, List.getLast?_singleton]
  · rw [List.getLast?_append, List.getLast?_singleton]
    rfl

/-- A help text starts with the usage. -/
theorem Parser.head?_help {p : Parser σ} {help : String} (h : p.help = .ok help) :
    help.toList.head? = some 'u' := by
  unfold Parser.help at h
  cases hd : p.descriptionText with
  | error f =>
    rw [hd] at h
    cases h
  | ok description =>
    rw [hd] at h
    cases h
    rw [tidy, String.toList_ofList]
    simp only [String.toList_append]
    show ((stripBy _ (collapse ('u' :: _))) ++ ['\n']).head? = _
    rw [collapse_cons_of_ne (by decide), List.head?_append, head?_stripBy (by decide)]
    rfl

end StorageKey.Usage
