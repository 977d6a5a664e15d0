import StorageKey.Proofs.Invocation.Cluster

/-!
# How the parser reads a token

The parser compares a token with its table of names: as a whole, by the part before an equals sign,
and by its start. What it finds agrees with what the token spells.

* `token_short`, `token_long`: the reading of a token behind one hyphen or two;
* `readsAs_spelling`: the parser reads every token as it is spelled.
-/

namespace StorageKey

open Text Usage

/-! ### Short names -/

/-- A token of short names starts no other name. -/
theorem isStart_names_short {t : String} {a : Char} {r : List Char} (ht : t.toList = '-' :: a :: r)
    (ha : a ≠ '-') (hs : topParser.switch? t = none) :
    ∀ e ∈ topParser.names, isStart t e.1 = false := by
  simp only [switch?_topParser, ← String.toList_inj, ht] at hs
  simp only [names_topParser, List.forall_mem_cons, isStart, ht]
  simp at hs
  simp
  grind

/-- The candidates for a token of short names. -/
theorem candidates_short {t : String} {a : Char} {r : List Char} (ht : t.toList = '-' :: a :: r)
    (ha : a ≠ '-') (hs : topParser.switch? t = none) :
    topParser.candidates t = match topParser.switch? (String.ofList ['-', a]) with
      | some s => [(s, String.ofList ['-', a], some (String.ofList r))]
      | none => [] := by
  have hd : isStart "--" t = false := by
    simp [isStart, ht, List.isPrefixOf, Ne.symm ha]
  have hn := isStart_names_short ht ha hs
  have value (e : String × Switch Settings) (he : e ∈ topParser.names) :
      (if e.1 = String.ofList (t.toList.take 2) then
          some (e.2, e.1, some (String.ofList (t.toList.drop 2)))
        else if isStart t e.1 then some (e.2, e.1, none) else none) =
      if e.1 = String.ofList ['-', a] then some (e.2, e.1, some (String.ofList r)) else none := by
    rw [hn e he, ht]
    rfl
  simp only [Parser.candidates, hd, Bool.false_eq_true, if_false]
  rw [List.filterMap_congr value]
  by_cases hh : a = 'h'
  · subst hh
    rfl
  by_cases hv : a = 'v'
  · subst hv
    rfl
  by_cases hc : a = 'c'
  · subst hc
    rfl
  by_cases hV : a = 'V'
  · subst hV
    rfl
  · rw [switch?_short]
    simp only [names_topParser, ← String.toList_inj, String.toList_ofList, hh, hv, hc, hV, if_false]
    simp [Ne.symm hh, Ne.symm hv, Ne.symm hc, Ne.symm hV]

/-- What follows a short name in its token; an equals sign right behind the name is left aside. -/
def shortValue? : List Char → Option String
  | [] => none
  | c :: r => some (String.ofList (if c = '=' then r else c :: r))

/-- No name of the table is longer than a short name without being a long one. -/
theorem switch?_eq_none {s : String} {a c : Char} {r : List Char}
    (hs : s.toList = '-' :: a :: c :: r) (ha : a ≠ '-') : topParser.switch? s = none := by
  rw [switch?_topParser]
  simp only [← String.toList_inj, hs]
  simp [ha]

theorem fst_splitEquals_short {t : String} {a : Char} {r : List Char}
    (ht : t.toList = '-' :: a :: '=' :: r) (ha : a ≠ '=') :
    (splitEquals t).1 = String.ofList ['-', a] := by
  rw [← String.toList_inj, toList_fst_splitEquals, ht, String.toList_ofList]
  simp [ha]

/-- The part of a token of short names before its equals sign is a name only if it is the first
short name alone. -/
theorem bind_splitEquals_short {t : String} {a : Char} {r : List Char}
    (ht : t.toList = '-' :: a :: r) (ha : a ≠ '-') :
    (splitEquals t).2.bind (fun v => (topParser.switch? (splitEquals t).1).map fun s => (s, v)) =
      if r.head? = some '=' then
        (topParser.switch? (String.ofList ['-', a])).map fun s => (s, String.ofList r.tail)
      else none := by
  have h1 := toList_fst_splitEquals t
  have h2 := snd_splitEquals t
  rw [ht, List.takeWhile_cons_of_pos (by decide)] at h1
  rw [ht, List.dropWhile_cons_of_pos (by decide)] at h2
  by_cases hae : a = '='
  · subst hae
    have hn : topParser.switch? (splitEquals t).1 = none := by
      rw [switch?_topParser]
      simp [← String.toList_inj, h1]
    rw [hn, switch?_short]
    simp
  rw [List.takeWhile_cons_of_pos (by simp [hae])] at h1
  rw [List.dropWhile_cons_of_pos (by simp [hae])] at h2
  cases r with
  | nil => simp [h2]
  | cons c r =>
    by_cases hc : c = '='
    · subst hc
      simp [h2, fst_splitEquals_short ht hae]
    · rw [List.takeWhile_cons_of_pos (by simp [hc])] at h1
      simp [switch?_eq_none h1 ha, hc]

/-- The parser reads a token of short names by its first one. -/
theorem token_short {t : String} {a : Char} {r : List Char} (ht : t.toList = '-' :: a :: r)
    (ha : a ≠ '-') :
    topParser.token t = match topParser.switch? (String.ofList ['-', a]) with
      | some s => .ok (.option s (String.ofList ['-', a]) (shortValue? r))
      | none => .ok (if isNegativeNumber t || t.toList.contains ' ' then .word else .unknown) := by
  have hd : isStart "-" t = true := by simp [isStart, ht]
  have hne : t ≠ "-" := by
    rintro rfl
    simp at ht
  simp only [Parser.token, hd, Bool.not_true, Bool.false_eq_true, if_false, hne]
  cases hs : topParser.switch? t with
  | some s =>
    cases r with
    | nil =>
      have : t = String.ofList ['-', a] := by rw [← String.toList_inj, ht, String.toList_ofList]
      rw [← this, hs]
      rfl
    | cons c r =>
      rw [switch?_eq_none ht ha] at hs
      cases hs
  | none =>
    simp only [bind_splitEquals_short ht ha, candidates_short ht ha hs]
    cases hs' : topParser.switch? (String.ofList ['-', a]) with
    | none => cases r <;> simp <;> split <;> rfl
    | some s =>
      cases r with
      | nil =>
        have : t = String.ofList ['-', a] := by rw [← String.toList_inj, ht, String.toList_ofList]
        rw [this, hs'] at hs
        cases hs
      | cons c r =>
        by_cases hc : c = '='
        · subst hc
          have ha : a ≠ '=' := by
            rintro rfl
            rw [switch?_short] at hs'
            simp at hs'
          simp [shortValue?, fst_splitEquals_short ht ha]
        · simp [shortValue?, hc]

/-! ### Long names -/

theorem isStart_long {start : String} {name : List Char} (h : start.toList = '-' :: '-' :: name)
    {s : String} {n : List Char} (hs : s.toList = '-' :: '-' :: n) :
    isStart start s = decide (name <+: n) := by
  rw [Bool.eq_iff_iff, isStart, h, hs, List.isPrefixOf_iff_prefix, decide_eq_true_iff,
    List.cons_prefix_cons, List.cons_prefix_cons]
  simp

theorem isStart_long_short {start : String} {name : List Char}
    (h : start.toList = '-' :: '-' :: name) {s : String} {a : Char} (ha : a ≠ '-')
    (hs : s.toList = ['-', a]) : isStart start s = false := by
  rw [Bool.eq_false_iff, Ne, isStart, h, hs, List.isPrefixOf_iff_prefix, List.cons_prefix_cons,
    List.cons_prefix_cons]
  simp [Ne.symm ha]

/-- The long names that a text behind two hyphens starts. -/
theorem filter_names_long {start : String} {name : List Char}
    (h : start.toList = '-' :: '-' :: name) :
    topParser.names.filter (fun e => isStart start e.1) =
      (if name <+: "help".toList then [("--help", helpSwitch Settings)] else []) ++
      ((if name <+: "verbose".toList then [("--verbose", verboseSwitch)] else []) ++
      ((if name <+: "config".toList then [("--config", configSwitch)] else []) ++
      (if name <+: "version".toList then [("--version", versionSwitch)] else []))) := by
  have short (a : Char) (ha : a ≠ '-') : isStart start (String.ofList ['-', a]) = false :=
    isStart_long_short h ha String.toList_ofList
  have hh : isStart start "-h" = false := short 'h' (by decide)
  have hv : isStart start "-v" = false := short 'v' (by decide)
  have hc : isStart start "-c" = false := short 'c' (by decide)
  have hV : isStart start "-V" = false := short 'V' (by decide)
  have help : isStart start "--help" = decide (name <+: "help".toList) := isStart_long h rfl
  have verbose : isStart start "--verbose" = decide (name <+: "verbose".toList) :=
    isStart_long h rfl
  have config : isStart start "--config" = decide (name <+: "config".toList) := isStart_long h rfl
  have version : isStart start "--version" = decide (name <+: "version".toList) :=
    isStart_long h rfl
  rw [names_topParser]
  simp only [List.filter_cons, List.filter_nil, hh, hv, hc, hV, help, verbose, config, version,
    decide_eq_true_eq, Bool.false_eq_true, if_false]
  split_ifs <;> rfl

theorem eq_of_switch?_long {name : String} {x : List Char} (h : name.toList = '-' :: '-' :: x)
    {w : Switch Settings} (hw : topParser.switch? name = some w) :
    name = "--help" ∨ name = "--verbose" ∨ name = "--config" ∨ name = "--version" := by
  by_contra hn
  rw [switch?_topParser] at hw
  simp only [← String.toList_inj, h] at hw hn
  simp_all

/-- A whole long name starts no other. -/
theorem filter_names_of_switch? {name : String} {x : List Char} (h : name.toList = '-' :: '-' :: x)
    {w : Switch Settings} (hw : topParser.switch? name = some w) :
    topParser.names.filter (fun e => isStart name e.1) = [(name, w)] := by
  rcases eq_of_switch?_long h hw with rfl | rfl | rfl | rfl <;> cases hw <;> rfl

/-- The parser reads a token of a long name by the names it starts. -/
theorem token_long {t : String} {x : List Char} (ht : t.toList = '-' :: '-' :: x) :
    topParser.token t =
      match topParser.names.filter fun e => isStart (splitEquals t).1 e.1 with
      | [e] => .ok (.option e.2 e.1 (splitEquals t).2)
      | [] => .ok (if isNegativeNumber t || t.toList.contains ' ' then .word else .unknown)
      | es => .error (.ambiguous t (es.map (·.1))) := by
  have hd : isStart "-" t = true := by simp [isStart, ht]
  have hdd : isStart "--" t = true := by simp [isStart, ht]
  have hne : t ≠ "-" := by
    rintro rfl
    simp at ht
  have h1 : (splitEquals t).1.toList = '-' :: '-' :: x.takeWhile (· ≠ '=') := by
    rw [toList_fst_splitEquals, ht]
    rfl
  simp only [Parser.token, hd, Bool.not_true, Bool.false_eq_true, if_false, hne]
  cases hs : topParser.switch? t with
  | some s =>
    have whole : splitEquals t = (t, none) := by
      rcases eq_of_switch?_long ht hs with rfl | rfl | rfl | rfl <;> rfl
    rw [whole, filter_names_of_switch? ht hs]
  | none =>
    cases hb : (splitEquals t).2.bind fun v =>
        (topParser.switch? (splitEquals t).1).map fun s => (s, v) with
    | some e =>
      obtain ⟨s, v⟩ := e
      simp only [Option.bind_eq_some_iff, Option.map_eq_some_iff, Prod.mk.injEq] at hb
      obtain ⟨w, hv, s, hs, rfl, rfl⟩ := hb
      rw [filter_names_of_switch? h1 hs, hv]
    | none =>
      simp only [Parser.candidates, hdd, if_true]
      generalize topParser.names.filter (fun e => isStart (splitEquals t).1 e.1) = es
      rcases es with _ | ⟨e, _ | ⟨f, es⟩⟩
      · simp; split <;> rfl
      · rfl
      · simp

/-- A text that starts two long names is too short for either; a longer start is of one only. -/
theorem verb_prefix_iff {name : List Char} (h : name <+: "verbose".toList) :
    "verb".toList <+: name ↔ ¬name <+: "version".toList := by
  have all : ∀ name ∈ "verbose".toList.inits,
      ("verb".toList <+: name ↔ ¬name <+: "version".toList) := by decide
  exact all name ((List.mem_inits _ _).2 h)

/-- No text starts two others that differ in their first letters. -/
theorem not_prefix_of_prefix {l m n : List Char} (hl : l ≠ []) (hm : l <+: m)
    (h : m.head? ≠ n.head?) : ¬l <+: n := by
  rintro hn
  obtain ⟨a, l, rfl⟩ := List.exists_cons_of_ne_nil hl
  obtain ⟨m, rfl⟩ := hm
  obtain ⟨n, rfl⟩ := hn
  exact h rfl

/-! ### Agreement -/

/-- The parser finds an option that does what is spelled, or none that lets it go on. -/
def ReadsAs (x : Except UsageError (Token Settings)) (o : Option Spelling) : Prop :=
  match x with
  | .ok (.option s name value) => Decides (topParser.cluster s name value) o
  | _ => o = none

theorem readsAs_short {t : String} {a : Char} {r : List Char} (ht : t.toList = '-' :: a :: r)
    (ha : a ≠ '-') : ReadsAs (topParser.token t) (Spelling.ofShort a r) := by
  rw [token_short ht ha, switch?_short]
  by_cases hh : a = 'h'
  · subst hh
    rw [Spelling.ofShort_eq_none (by decide) (by decide)]
    exact stops_cluster (by simp [helpSwitch]) rfl _ _
  by_cases hv : a = 'v'
  · subst hv
    have cluster (value : List Char) : topParser.cluster verboseSwitch (String.ofList ['-', 'v'])
        (some (String.ofList value)) = topParser.clusterWith verboseSwitch true value := by
      simp only [Parser.cluster, String.toList_ofList]
      rfl
    cases r with
    | nil => exact ⟨_, rfl, applies_verbose⟩
    | cons c r =>
      by_cases hc : c = '='
      · subst hc
        have := decides_clusterWith_verbose r
        rw [← cluster] at this
        exact this
      · have := decides_clusterWith_verbose (c :: r)
        rw [← cluster] at this
        simpa [ReadsAs, shortValue?, hc, Spelling.ofShort, Spelling.ofLetters] using this
  by_cases hc : a = 'c'
  · subst hc
    have := decides_cluster_config (String.ofList ['-', 'c']) (shortValue? r)
    cases r with
    | nil => exact this
    | cons c r =>
      by_cases hc : c = '='
      · subst hc
        exact this
      · simpa [ReadsAs, shortValue?, hc, Spelling.ofShort, Spelling.ofLetters] using this
  by_cases hV : a = 'V'
  · subst hV
    rw [Spelling.ofShort_eq_none (by decide) (by decide)]
    exact stops_cluster (by simp [versionSwitch]) rfl _ _
  · rw [Spelling.ofShort_eq_none hv hc]
    simp only [hh, hv, hc, hV, if_false]
    cases isNegativeNumber t || t.toList.contains ' ' <;> rfl

theorem readsAs_long {t : String} {x : List Char} (ht : t.toList = '-' :: '-' :: x) :
    ReadsAs (topParser.token t) (Spelling.ofLong (x.takeWhile (· ≠ '=')) (splitEquals t).2) := by
  have h1 : (splitEquals t).1.toList = '-' :: '-' :: x.takeWhile (· ≠ '=') := by
    rw [toList_fst_splitEquals, ht]
    rfl
  rw [token_long ht, filter_names_long h1]
  generalize x.takeWhile (· ≠ '=') = name, (splitEquals t).2 = value
  by_cases hn : name = []
  · subst hn
    simp only [List.nil_prefix, if_true, List.cons_append, List.nil_append]
    rfl
  -- A start of one of the long names starts another only if both are the ones with `ver`.
  by_cases hc : name <+: "config".toList
  · have hh : ¬name <+: "help".toList := not_prefix_of_prefix hn hc (by decide)
    have hv : ¬name <+: "verbose".toList := not_prefix_of_prefix hn hc (by decide)
    have hV : ¬name <+: "version".toList := not_prefix_of_prefix hn hc (by decide)
    rw [Spelling.ofLong_of_prefix_config hn hc]
    simp only [hc, hh, hv, hV, if_true, if_false, List.nil_append, List.append_nil]
    exact decides_cluster_config _ _
  by_cases hv : name <+: "verbose".toList
  · have hh : ¬name <+: "help".toList := not_prefix_of_prefix hn hv (by decide)
    have hverb := verb_prefix_iff hv
    by_cases hV : name <+: "version".toList
    · rw [Spelling.ofLong_eq_none hc fun h => absurd hV (hverb.1 h)]
      simp only [hc, hh, hv, hV, if_true, if_false, List.nil_append, List.cons_append]
      rfl
    · rw [Spelling.ofLong_of_prefix_verbose hc hv (hverb.2 hV)]
      simp only [hc, hh, hv, hV, if_true, if_false, List.nil_append, List.append_nil]
      cases value with
      | none => exact ⟨_, rfl, applies_verbose⟩
      | some v => exact stops_long_verbose v
  rw [Spelling.ofLong_eq_none hc fun _ => hv]
  by_cases hh : name <+: "help".toList
  · have hV : ¬name <+: "version".toList := not_prefix_of_prefix hn hh (by decide)
    simp only [hc, hh, hv, hV, if_true, if_false, List.append_nil]
    exact stops_cluster (by simp [helpSwitch]) rfl _ _
  by_cases hV : name <+: "version".toList
  · simp only [hc, hh, hv, hV, if_true, if_false, List.nil_append]
    exact stops_cluster (by simp [versionSwitch]) rfl _ _
  · simp only [hc, hh, hv, hV, if_false, List.nil_append]
    cases isNegativeNumber t || t.toList.contains ' ' <;> rfl

/-- The parser reads every token as it is spelled. -/
theorem readsAs_spelling (t : String) :
    ReadsAs (topParser.token t) (spelling? t) := by
  unfold spelling?
  split
  · next a r h =>
    split
    · next ha =>
      subst ha
      exact readsAs_long h
    · next ha => exact readsAs_short h ha
  · next h =>
    have word : topParser.token t = .ok .word := by
      cases hl : t.toList with
      | nil => simp [Parser.token, isStart, hl]
      | cons a r =>
        by_cases ha : a = '-'
        · subst ha
          cases r with
          | nil =>
            rw [show t = "-" from String.toList_inj.1 hl]
            rfl
          | cons b r => exact absurd hl (h b r)
        · simp [Parser.token, isStart, hl, Ne.symm ha]
    rw [word]
    rfl

end StorageKey
