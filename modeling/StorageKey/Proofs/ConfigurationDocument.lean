import StorageKey.Proofs.Configuration
import StorageKey.Proofs.Yaml.Root

/-!
# The configuration that a document makes

The document of a configuration must be a mapping, whose entries are the settings. A document that
counts as nothing is taken for a mapping without entries, though its root may be an empty list or a
zero. Any other root makes an error.

* `Config.SetBy`: the configuration that the entries of a mapping set;
* `World.Finds`, `World.finds_iff`: what is found where the configuration is looked for;
* `Act.loadConfig_eq_ok_iff`, `Act.loadConfig_eq_config_iff`: what is found is loaded;
* `Act.configuration_root`: what becomes of a document by its root, and when nothing is set.
-/

namespace StorageKey

open Record Yaml

/-! ### The settings of a mapping -/

namespace Record

variable {α : Type} {r : Reader α} {name : String} {es : List (Value × Value)} {default a : α}

/-- What a field of a record says: what is given for it, or what it says if it is left out. -/
inductive Says (r : Reader α) (name : String) (es : List (Value × Value)) (default : α) : α → Prop
  | given {v : Value} {a : α} (hf : field? es name = some v) (hr : r v = .ok a) :
      Says r name es default a
  | absent (hf : field? es name = none) : Says r name es default default

theorem toExcept_map_eq_ok_iff {β : Type} {f : α → β} {x : Checked α} {b : β} :
    (x.map f).toExcept = .ok b ↔ ∃ a, x.toExcept = .ok a ∧ f a = b := by
  cases x <;> simp [Checked.map, Checked.toExcept]

theorem optional_eq_ok_iff :
    (optional es name default r).toExcept = .ok a ↔ Says r name es default a := by
  unfold optional
  cases hf : field? es name with
  | none =>
    constructor
    · rintro ⟨⟩
      exact .absent hf
    · rintro (⟨hg, -⟩ | -)
      · cases hf.symm.trans hg
      · rfl
  | some v =>
    show (check [name] r v).toExcept = _ ↔ _
    unfold check
    constructor
    · intro h
      cases hr : r v with
      | ok b =>
        rw [hr] at h
        cases h
        exact .given hf hr
      | error c =>
        rw [hr] at h
        cases h
    · rintro (⟨hg, hr⟩ | hg)
      · cases hf.symm.trans hg
        rw [hr]
        rfl
      · cases hf.symm.trans hg

end Record

/-- The configuration that entries set: there are no unknown fields, and each field says what it
is. -/
structure Config.SetBy (es : List (Value × Value)) (c : Config) : Prop where
  known : unknownFields es fieldNames = []
  backend : Says (orNothing asText) "backend" es usual.backend c.backend
  agentProgram : Says asText "gpg_connect_agent" es usual.agentProgram c.agentProgram
  attempts : Says (asAtLeast 1) "open_retries" es usual.attempts c.attempts

namespace Config

variable {es : List (Value × Value)} {c : Config}

theorem ofEntries_eq_ok_iff : (ofEntries es).toExcept = .ok c ↔ SetBy es c := by
  unfold ofEntries
  rw [Checked.toExcept_also_eq_ok_iff]
  show (((Checked.map Config.mk (optional es "backend" _ _)).seq
    (optional es "gpg_connect_agent" _ _)).seq (optional es "open_retries" _ _)).toExcept = _ ∧ _ ↔ _
  simp only [Checked.toExcept_seq_eq_ok_iff, toExcept_map_eq_ok_iff, optional_eq_ok_iff]
  constructor
  · rintro ⟨⟨_, attempts, ⟨_, agentProgram, ⟨backend, hb, rfl⟩, ha, rfl⟩, hn, rfl⟩, known⟩
    exact ⟨known, hb, ha, hn⟩
  · rintro ⟨known, hb, ha, hn⟩
    exact ⟨⟨_, _, ⟨_, _, ⟨_, hb, rfl⟩, ha, rfl⟩, hn, rfl⟩, known⟩

/-- Without entries the configuration is the usual one. -/
theorem setBy_nil : SetBy [] usual := ⟨rfl, .absent rfl, .absent rfl, .absent rfl⟩

end Config

/-- The configuration that a document makes: the usual one if it is blank, or what its entries
set. -/
inductive Config.MadeOf : Document → Config → Prop
  | blank {d : Document} (hb : d.IsBlank) : MadeOf d usual
  | settings {es : List (Value × Value)} {c : Config} (hc : c.SetBy es) : MadeOf (.mapping es) c

/-! ### What is found -/

namespace World

/-- The file of the configuration is there, and this is its content. -/
structure HoldsContent (w : World) (given : Option Path) (source : ConfigSource)
    (content : List UInt8) : Prop where
  selected : w.configSource given = .ok source
  found : w.files.exists? source.path.text = .ok true
  content : w.files.read source.path.text = .ok content

/-- The content of the file of the configuration is this document. -/
def HoldsDocument (w : World) (given : Option Path) (source : ConfigSource) (d : Document) : Prop :=
  ∃ content, w.HoldsContent given source content ∧ w.loadDocument content = .ok d

/-- The file of the configuration is absent, and may be. -/
structure LacksFile (w : World) (given : Option Path) (source : ConfigSource) : Prop where
  selected : w.configSource given = .ok source
  optional : source.required = false
  absent : w.files.exists? source.path.text = .ok false

/-- What is found where the configuration is looked for, and what comes of it. -/
inductive Finds (w : World) (given : Option Path) : Except Failure Config → Prop
  | nowhere (hs : w.configSource given = .error .noHome) : Finds w given (.error .noHome)
  | unclear {source : ConfigSource} {f : SystemFault} (hs : w.configSource given = .ok source)
      (he : w.files.exists? source.path.text = .error f) :
      Finds w given (.error (.system f source.path.text))
  | missing {source : ConfigSource} (hs : w.configSource given = .ok source)
      (hr : source.required = true) (he : w.files.exists? source.path.text = .ok false) :
      Finds w given (.error (.config (.notFound source.path.text)))
  | absent {source : ConfigSource} (h : w.LacksFile given source) : Finds w given (.ok .usual)
  | unreadable {source : ConfigSource} {f : SystemFault} (hs : w.configSource given = .ok source)
      (he : w.files.exists? source.path.text = .ok true)
      (hr : w.files.read source.path.text = .error f) :
      Finds w given (.error (.config (.unreadable source.path.text (.system f source.path.text))))
  | unread {source : ConfigSource} {content : List UInt8} {f : Text.Utf8.Fault}
      (h : w.HoldsContent given source content) (hd : w.loadDocument content = .error (.unread f)) :
      Finds w given (.error (.config (.unreadable source.path.text (.text f))))
  | malformed {source : ConfigSource} {content : List UInt8}
      (h : w.HoldsContent given source content) (hd : w.loadDocument content = .error .malformed) :
      Finds w given (.error (.config (.noDocument source.path.text)))
  | faulty {source : ConfigSource} {content : List UInt8} {f : Fault}
      (h : w.HoldsContent given source content) (hd : w.loadDocument content = .error f)
      (hm : f ≠ .malformed) (hu : ∀ e, f ≠ .unread e) : Finds w given (.error (.document f))
  | noMapping {source : ConfigSource} {v : Value} (h : w.HoldsDocument given source (.other v))
      (hb : ¬(Document.other v).IsBlank) :
      Finds w given (.error (.config (.noMapping source.path.text)))
  | invalid {source : ConfigSource} {es : List (Value × Value)} {is : List Issue}
      (h : w.HoldsDocument given source (.mapping es))
      (hi : (Config.ofEntries es).toExcept = .error is) :
      Finds w given (.error (.config (.invalid source.path.text is)))
  | document {source : ConfigSource} {d : Document} {c : Config}
      (h : w.HoldsDocument given source d) (hc : c.MadeOf d) : Finds w given (.ok c)

variable {w : World} {given : Option Path} {source : ConfigSource} {d : Document} {c : Config}

theorem config_of_found (hs : w.configSource given = .ok source)
    (he : w.files.exists? source.path.text = .ok true) :
    w.config given = w.configAt source.path.text := by
  rw [config_of_source hs, he]
  rfl

/-- What a document makes of a configuration: its entries are read as one, and a document without
entries is none. -/
def configOf (path : String) (d : Document) : Except Failure Config :=
  match d.entries? with
  | some es => (Config.ofEntries es).toExcept.mapError fun is => .config (.invalid path is)
  | none => .error (.config (.noMapping path))

theorem HoldsContent.documentAt_eq {content : List UInt8} (h : w.HoldsContent given source content) :
    w.documentAt source.path.text =
      (w.loadDocument content).mapError (documentFailure source.path.text) :=
  documentAt_of_read h.content

/-- A file without a document makes no configuration, for the same reason. -/
theorem HoldsContent.config_of_error {content : List UInt8} {f : Fault}
    (h : w.HoldsContent given source content) (hd : w.loadDocument content = .error f) :
    w.config given = .error (documentFailure source.path.text f) := by
  rw [config_of_found h.selected h.found]
  exact configAt_of_documentAt_error (documentAt_of_error h.content hd)

theorem HoldsDocument.config_eq (h : w.HoldsDocument given source d) :
    w.config given = configOf source.path.text d := by
  obtain ⟨content, hc, hd⟩ := h
  have document : w.documentAt source.path.text = .ok d := by
    rw [hc.documentAt_eq, hd]
    rfl
  rw [config_of_found hc.selected hc.found, configAt, entriesAt, document, configOf]
  show (match d.entries? with
    | some es => .ok es
    | none => .error (.config (.noMapping source.path.text)) : Except Failure _) >>= _ = _
  cases d.entries? <;> rfl

theorem HoldsDocument.config_of_blank (h : w.HoldsDocument given source d) (hb : d.IsBlank) :
    w.config given = .ok Config.usual := by
  have none : (Config.ofEntries []).toExcept = .ok Config.usual :=
    Config.ofEntries_eq_ok_iff.2 Config.setBy_nil
  rw [h.config_eq, configOf, Document.entries?_eq_some_iff.2 (.inr ⟨hb, rfl⟩)]
  simp only [none]
  rfl

theorem HoldsDocument.config_of_not_blank {v : Value}
    (h : w.HoldsDocument given source (.other v)) (hb : ¬(Document.other v).IsBlank) :
    w.config given = .error (.config (.noMapping source.path.text)) := by
  have full : v.isEmptyLike = false := by
    rw [← Document.isEmptyLike_iff] at hb
    exact Bool.eq_false_iff.2 hb
  rw [h.config_eq, configOf, Document.entries?, full]
  rfl

/-- What is found is the configuration of the world. -/
theorem Finds.config_eq {r : Except Failure Config} (h : w.Finds given r) : w.config given = r := by
  cases h with
  | nowhere hs =>
    rw [config, hs]
    rfl
  | unclear hs he =>
    rw [config_of_source hs, he]
    rfl
  | missing hs hr he =>
    rw [config_of_source hs, he]
    show (if _ then _ else _) = _
    rw [if_pos hr]
  | absent h =>
    rw [config_of_source h.selected, h.absent]
    show (if _ then _ else _) = _
    rw [h.optional]
    rfl
  | unreadable hs he hr =>
    rw [config_of_found hs he]
    exact configAt_of_documentAt_error (documentAt_of_unreadable hr)
  | unread h hd => exact h.config_of_error hd
  | malformed h hd => exact h.config_of_error hd
  | faulty h hd hm hu => rw [h.config_of_error hd, documentFailure_eq_document hm hu]
  | noMapping h hb => exact h.config_of_not_blank hb
  | invalid h hi =>
    rw [h.config_eq, configOf, Document.entries?]
    simp only [hi]
    rfl
  | document h hc =>
    cases hc with
    | blank hb => exact h.config_of_blank hb
    | settings hc =>
      rw [h.config_eq, configOf, Document.entries?]
      simp only [Config.ofEntries_eq_ok_iff.2 hc]
      rfl

theorem HoldsDocument.exists_finds (h : w.HoldsDocument given source d) :
    ∃ r, w.Finds given r := by
  cases d with
  | other v =>
    by_cases hb : (Document.other v).IsBlank
    · exact ⟨_, .document h (.blank hb)⟩
    · exact ⟨_, .noMapping h hb⟩
  | mapping es =>
    cases hc : (Config.ofEntries es).toExcept with
    | error is => exact ⟨_, .invalid h hc⟩
    | ok c => exact ⟨_, .document h (.settings (Config.ofEntries_eq_ok_iff.1 hc))⟩

theorem HoldsContent.exists_finds {content : List UInt8} (h : w.HoldsContent given source content) :
    ∃ r, w.Finds given r := by
  cases hd : w.loadDocument content with
  | error f =>
    cases f with
    | malformed => exact ⟨_, .malformed h hd⟩
    | unread e => exact ⟨_, .unread h hd⟩
    | _ => exact ⟨_, .faulty h hd nofun nofun⟩
  | ok d => exact HoldsDocument.exists_finds ⟨content, h, hd⟩

/-- Something is found in every world. -/
theorem exists_finds (w : World) (given : Option Path) : ∃ r, w.Finds given r := by
  cases hs : w.configSource given with
  | error f =>
    obtain ⟨-, -, -, home⟩ := configSource_eq_error_iff.1 hs
    obtain ⟨rfl, -⟩ := home_eq_error_iff.1 home
    exact ⟨_, .nowhere hs⟩
  | ok source =>
    cases he : w.files.exists? source.path.text with
    | error f => exact ⟨_, .unclear hs he⟩
    | ok found =>
      cases found with
      | false =>
        cases hr : source.required with
        | true => exact ⟨_, .missing hs hr he⟩
        | false => exact ⟨_, .absent ⟨hs, hr, he⟩⟩
      | true =>
        cases hr : w.files.read source.path.text with
        | error f => exact ⟨_, .unreadable hs he hr⟩
        | ok content => exact HoldsContent.exists_finds ⟨hs, he, hr⟩

theorem finds_iff {r : Except Failure Config} : w.Finds given r ↔ w.config given = r := by
  refine ⟨Finds.config_eq, ?_⟩
  rintro rfl
  obtain ⟨r, hr⟩ := w.exists_finds given
  rwa [hr.config_eq]

end World

/-! ### Loading -/

namespace Act

variable {s : State} {given : Option Path} {source : ConfigSource} {d : Document} {c : Config}

/-- A configuration is loaded if it is found, and if it can be told. -/
theorem loadConfig_eq_ok_iff : (∃ u, loadConfig given s = .ok c u) ↔
    s.world.Finds given (.ok c) ∧ s.logging.canTell (.int c.attempts) = true := by
  rw [World.finds_iff]
  refine (exists_loadConfig_iff (r := .ok c)).trans ⟨Logging.eq_ok_of_told, ?_⟩
  rintro ⟨found, tells⟩
  rw [found, Logging.told, if_pos tells]

theorem loadConfig_eq_usual_iff :
    (∃ u, loadConfig given s = .ok Config.usual u) ↔ s.world.Finds given (.ok Config.usual) := by
  have tells := (Logging.eq_ok_of_told (told_usual s.logging)).2
  exact loadConfig_eq_ok_iff.trans (and_iff_left tells)

/-- An error about the configuration is raised if it is found. -/
theorem loadConfig_eq_config_iff {fault : ConfigFault} :
    (∃ u, loadConfig given s = .error (.config fault) u) ↔
      s.world.Finds given (.error (.config fault)) := by
  rw [World.finds_iff]
  refine (exists_loadConfig_iff (r := .error (.config fault))).trans ⟨fun h => ?_, fun found => ?_⟩
  · cases hc : s.world.config given with
    | error f =>
      rw [hc] at h
      exact h
    | ok c =>
      rw [hc, Logging.told] at h
      split at h <;> cases h
  · rw [found]
    rfl

/-- Every document is what its root says. A blank one sets nothing; any other that is no mapping makes
an error, which nothing else makes. The configuration is the usual one just if the file is absent and
may be, or if its document is blank or a mapping that sets nothing else. -/
theorem configuration_root (given : Option Path) (s : State) :
    (∀ limits content d, load limits content = .ok d →
      ∃ root g, Graph.ofTokens limits.nodes (tokens (Source.ofBytes content)) = .ok (root, g) ∧
        d.OfRoot limits g root) ∧
    (∀ source d, s.world.HoldsDocument given source d → d.IsBlank →
      ∃ u, loadConfig given s = .ok Config.usual u) ∧
    (∀ source v, s.world.HoldsDocument given source (.other v) → ¬(Document.other v).IsBlank →
      ∃ f u, loadConfig given s = .error f u ∧ f.kind? = some .configuration ∧
        f.message = "configuration root must be a mapping in " ++ source.path.text) ∧
    (∀ path, (∃ u, loadConfig given s = .error (.config (.noMapping path)) u) ↔
      ∃ source v, s.world.HoldsDocument given source (.other v) ∧ ¬(Document.other v).IsBlank ∧
        path = source.path.text) ∧
    ((∃ u, loadConfig given s = .ok Config.usual u) ↔
      (∃ source, s.world.LacksFile given source) ∨
      (∃ source d, s.world.HoldsDocument given source d ∧ d.IsBlank) ∨
      ∃ source es, s.world.HoldsDocument given source (.mapping es) ∧ Config.usual.SetBy es) := by
  refine ⟨fun _ _ _ => Document.ofRoot_of_read,
    fun source d h hb => loadConfig_eq_usual_iff.2 (.document h (.blank hb)), fun source v h hb => ?_,
    fun path => loadConfig_eq_config_iff.trans ?_, loadConfig_eq_usual_iff.trans ?_⟩
  · obtain ⟨u, hu⟩ := loadConfig_eq_config_iff.2 (World.Finds.noMapping h hb)
    exact ⟨_, u, hu, rfl, rfl⟩
  · constructor
    · intro found
      cases found with
      | noMapping h hb => exact ⟨_, _, h, hb, rfl⟩
    · rintro ⟨source, v, h, hb, rfl⟩
      exact .noMapping h hb
  · constructor
    · intro found
      cases found with
      | absent h => exact .inl ⟨_, h⟩
      | document h hc =>
        cases hc with
        | blank hb => exact .inr (.inl ⟨_, _, h, hb⟩)
        | settings hc => exact .inr (.inr ⟨_, _, h, hc⟩)
    · rintro (⟨source, h⟩ | ⟨source, d, h, hb⟩ | ⟨source, es, h, hc⟩)
      · exact .absent h
      · exact .document h (.blank hb)
      · exact .document h (.settings hc)

example : (match load .usual "[]\n".toUTF8.toList with
    | .ok (.other (.list [])) => true
    | _ => false) = true := by decide +kernel

end Act

end StorageKey
