import StorageKey.Proofs.Session.Steps

/-!
# Which backends can be loaded

A specification names a module and an attribute of it, with a colon between them. A module is loaded
after the one above it, which must be a package, unless it is there already. Whatever keeps the
attribute from being called is an error of the device, but for four things: a module that is named
relative to another, modules that are nested too deeply, a module whose code raises an error that does
not say that something is missing, and a module whose own code raises an error when it is asked for
the attribute.

* `Specifies`: the two names in a specification;
* `Modules.Imports`, `Modules.imports_iff`: what becomes of the modules on the way to one;
* `Resolves`, `World.backend_eq_iff`: what a specification comes to;
* `BackendEscapes`, `Act.backend_failures`: the failures that are no errors of the device.
-/

namespace StorageKey

open Text

/-! ### Specifications -/

/-- A specification that names a module and an attribute: neither name is empty, and the first colon
stands between them. -/
structure Specifies (text module name : String) : Prop where
  text_eq : text = module ++ ":" ++ name
  module_ne : module ≠ ""
  name_ne : name ≠ ""
  noColon : ':' ∉ module.toList

/-- The part of a text before a character that it does not hold, and the rest. -/
theorem span_append_cons {a : Char} {p : List Char} (h : a ∉ p) (s : List Char) :
    (p ++ a :: s).takeWhile (· ≠ a) = p ∧ (p ++ a :: s).dropWhile (· ≠ a) = a :: s := by
  have keep : ∀ c ∈ p, decide (c ≠ a) = true := by
    intro c hc
    exact decide_eq_true fun he => h (he ▸ hc)
  rw [List.takeWhile_append_of_pos keep, List.dropWhile_append_of_pos keep]
  simp

theorem Specifies.splitSpecification_eq {text module name : String}
    (h : Specifies text module name) : splitSpecification text = some (module, name) := by
  obtain ⟨rfl, hm, hn, hc⟩ := h
  have chars : (module ++ ":" ++ name).toList = module.toList ++ ':' :: name.toList := by simp
  obtain ⟨before, after⟩ := span_append_cons hc name.toList
  simp only [splitSpecification, chars, before, after]
  cases hm' : module.toList with
  | nil => exact absurd (String.toList_inj.1 hm') hm
  | cons m ms =>
    cases hn' : name.toList with
    | nil => exact absurd (String.toList_inj.1 hn') hn
    | cons n ns => simp only [← hm', ← hn', String.ofList_toList]

theorem specifies_of_splitSpecification {text module name : String}
    (h : splitSpecification text = some (module, name)) : Specifies text module name := by
  have whole := List.takeWhile_append_dropWhile (p := (· ≠ ':')) (l := text.toList)
  simp only [splitSpecification] at h
  split at h
  · next m ms c a as before after =>
    rw [before, after] at whole
    obtain rfl : c = ':' := by
      have stop := List.head?_dropWhile_not (· ≠ ':') text.toList
      rw [after] at stop
      simpa using stop
    cases h
    refine ⟨?_, by simp, by simp, fun hc => ?_⟩
    · rw [← String.toList_inj, ← whole]
      simp
    · rw [String.toList_ofList, ← before] at hc
      simpa using List.all_eq_true.1 List.all_takeWhile _ hc
  · cases h

theorem splitSpecification_eq_some_iff {text module name : String} :
    splitSpecification text = some (module, name) ↔ Specifies text module name :=
  ⟨specifies_of_splitSpecification, Specifies.splitSpecification_eq⟩

/-! ### Modules -/

namespace Modules

variable {ms : Modules} {room : Nat} {name : String} {r : Except Raised Loaded} {e : Raised}

theorem above?_child (parent : String) {part : String} (hp : '.' ∉ part.toList) :
    above? (parent ++ "." ++ part) = some parent := by
  have chars : (parent ++ "." ++ part).toList.reverse =
      part.toList.reverse ++ '.' :: parent.toList.reverse := by simp
  obtain ⟨-, after⟩ := span_append_cons (p := part.toList.reverse)
    (fun hc => hp (List.mem_reverse.1 hc)) parent.toList.reverse
  rw [above?, chars, after]
  simp

/-- A name without a dot has none above it, and any other has one last dot. -/
theorem above?_cases (name : String) : (above? name = none ∧ '.' ∉ name.toList) ∨
    ∃ parent part, above? name = some parent ∧ '.' ∉ part.toList ∧ name = parent ++ "." ++ part := by
  have whole := List.takeWhile_append_dropWhile (p := (· ≠ '.')) (l := name.toList.reverse)
  have start : '.' ∉ name.toList.reverse.takeWhile (· ≠ '.') := by
    intro hc
    simpa using List.all_eq_true.1 List.all_takeWhile _ hc
  unfold above?
  cases hd : name.toList.reverse.dropWhile (· ≠ '.') with
  | nil =>
    rw [hd, List.append_nil] at whole
    refine .inl ⟨rfl, ?_⟩
    rwa [whole, List.mem_reverse] at start
  | cons c rest =>
    obtain rfl : c = '.' := by
      have stop := List.head?_dropWhile_not (· ≠ '.') name.toList.reverse
      rw [hd] at stop
      simpa using stop
    generalize name.toList.reverse.takeWhile (· ≠ '.') = part at whole start
    refine .inr ⟨String.ofList rest.reverse, String.ofList part.reverse, rfl, by simpa using start, ?_⟩
    rw [hd] at whole
    rw [← String.toList_inj, ← List.reverse_inj, ← whole]
    simp

/-- What loading a module comes to, if there is room for so many modules above it. The part of its
name before the last dot is the module above it, which is loaded first. -/
inductive Imports (ms : Modules) : Nat → String → Except Raised Loaded → Prop
  | present {room : Nat} {name : String} {m : Loaded} (hl : ms.lookup name = some (.present m)) :
      Imports ms room name (.ok m)
  | top {room : Nat} {part : String} (hl : ∀ m, ms.lookup part ≠ some (.present m))
      (hp : '.' ∉ part.toList) : Imports ms room part (ms.own part)
  | deep {parent part : String} (hl : ∀ m, ms.lookup (parent ++ "." ++ part) ≠ some (.present m))
      (hp : '.' ∉ part.toList) : Imports ms 0 (parent ++ "." ++ part) (.error tooDeep)
  | child {room : Nat} {parent part : String} {r : Except Raised Loaded}
      (hl : ∀ m, ms.lookup (parent ++ "." ++ part) ≠ some (.present m)) (hp : '.' ∉ part.toList)
      (h : Imports ms room parent r) :
      Imports ms (room + 1) (parent ++ "." ++ part)
        (r >>= ms.ownBelow (parent ++ "." ++ part) parent)

theorem load_of_present {m : Loaded} (hl : ms.lookup name = some (.present m)) (room : Nat) :
    ms.load room name = .ok m := by
  unfold load
  rw [hl]

theorem load_of_not_present (hl : ∀ m, ms.lookup name ≠ some (.present m)) (room : Nat) :
    ms.load room name = match above? name with
      | none => ms.own name
      | some parent =>
        match room with
        | 0 => .error tooDeep
        | room + 1 => ms.load room parent >>= ms.ownBelow name parent := by
  conv => lhs; unfold load
  split
  · next m hm => exact absurd hm (hl m)
  · rfl

theorem imports_load (ms : Modules) (room : Nat) (name : String) :
    Imports ms room name (ms.load room name) := by
  induction room generalizing name with
  | zero =>
    by_cases hl : ∃ m, ms.lookup name = some (.present m)
    · obtain ⟨m, hl⟩ := hl
      rw [load_of_present hl]
      exact .present hl
    · have hl := not_exists.1 hl
      rw [load_of_not_present hl]
      rcases above?_cases name with ⟨ha, hp⟩ | ⟨parent, part, ha, hp, rfl⟩ <;> rw [ha]
      · exact .top hl hp
      · exact .deep hl hp
  | succ room ih =>
    by_cases hl : ∃ m, ms.lookup name = some (.present m)
    · obtain ⟨m, hl⟩ := hl
      rw [load_of_present hl]
      exact .present hl
    · have hl := not_exists.1 hl
      rw [load_of_not_present hl]
      rcases above?_cases name with ⟨ha, hp⟩ | ⟨parent, part, ha, hp, rfl⟩ <;> rw [ha]
      · exact .top hl hp
      · exact .child hl hp (ih parent)

theorem above?_of_noDot (hp : '.' ∉ name.toList) : above? name = none := by
  rcases above?_cases name with ⟨ha, -⟩ | ⟨parent, part, -, -, rfl⟩
  · exact ha
  · exact absurd (by simp) hp

theorem Imports.load_eq (h : Imports ms room name r) : ms.load room name = r := by
  induction h with
  | present hl => exact load_of_present hl _
  | top hl hp => rw [load_of_not_present hl, above?_of_noDot hp]
  | deep hl hp => rw [load_of_not_present hl, above?_child _ hp]
  | child hl hp h ih =>
    rw [load_of_not_present hl, above?_child _ hp]
    show ms.load _ _ >>= _ = _
    rw [ih]

/-- Loading a module comes to one thing. -/
theorem imports_iff : Imports ms room name r ↔ ms.load room name = r :=
  ⟨Imports.load_eq, fun h => h ▸ imports_load ms room name⟩

/-- A module, or one above it. -/
inductive OnTheWay : String → String → Prop
  | self (name : String) : OnTheWay name name
  | above {name parent : String} (part : String) (h : OnTheWay name parent) :
      OnTheWay name (parent ++ "." ++ part)

/-- Why loading a module raises an error that does not say that something is missing: a module on the
way raises it, or one that is no package does when it is asked for the modules below it, or there are
more modules above it than there is room for. -/
inductive Breaks (ms : Modules) (room : Nat) (name : String) (e : Raised) : Prop
  | raises {culprit : String} (hw : OnTheWay culprit name)
      (hl : ms.lookup culprit = some (.raises e))
  | refuses {culprit : String} {left : Nat} {m : Loaded} (hw : OnTheWay culprit name)
      (hi : Imports ms left culprit (.ok m)) (hk : m.isPackage = false)
      (hr : m.refusal? placesName = some e)
  | tooDeep (hd : room < name.toList.count '.') (he : e = tooDeep)

theorem raises_of_own (h : ms.own name = .error e) (he : e.isImport = false) :
    ms.lookup name = some (.raises e) := by
  unfold own at h
  split at h
  · cases h
    cases he
  · next hl =>
    cases h
    exact hl
  · cases h
  · cases h
  · cases h

theorem count_dots_child (parent part : String) : (parent ++ "." ++ part).toList.count '.' =
    parent.toList.count '.' + 1 + part.toList.count '.' := by
  simp only [String.toList_append, List.count_append]
  rfl

theorem Breaks.above {parent : String} (part : String) (h : Breaks ms room parent e) :
    Breaks ms (room + 1) (parent ++ "." ++ part) e := by
  cases h with
  | raises hw hl => exact .raises (hw.above part) hl
  | refuses hw hi hk hr => exact .refuses (hw.above part) hi hk hr
  | tooDeep hd he =>
    have dots := count_dots_child parent part
    exact .tooDeep (by omega) he

/-- An error that does not say that something is missing has one of these reasons. -/
theorem Imports.breaks (h : Imports ms room name (.error e)) (he : e.isImport = false) :
    Breaks ms room name e := by
  generalize hr : (Except.error e : Except Raised Loaded) = r at h
  -- An error above is handed down, and that nothing or no package is there is an error of its own.
  induction h with
  | present => cases hr
  | top => exact .raises (.self _) (raises_of_own hr.symm he)
  | @deep parent part =>
    have dots := count_dots_child parent part
    exact .tooDeep (by omega) (Except.error.inj hr)
  | @child room parent part r hl hp h ih =>
    cases r with
    | error e' =>
      obtain rfl : e = e' := Except.error.inj hr
      exact (ih rfl).above part
    | ok m =>
      change .error e = ms.ownBelow _ _ m at hr
      unfold ownBelow at hr
      split at hr
      · exact .raises (.self _) (raises_of_own hr.symm he)
      · next hk =>
        have single : m.isPackage = false := by
          simp only [Bool.or_eq_true, not_or] at hk
          exact Bool.eq_false_iff.2 hk.1
        cases hm : m.refusal? placesName with
        | none =>
          rw [hm] at hr
          cases hr
          cases he
        | some e' =>
          rw [hm] at hr
          cases hr
          exact .refuses ((OnTheWay.self _).above part) h single hm

end Modules

/-! ### What a specification comes to -/

open Modules

/-- What loading a module comes to in a world. -/
def World.Imports (w : World) (module : String) (r : Except Raised Loaded) : Prop :=
  Modules.Imports w.modules (w.host.importRoom module) module r

/-- What a specification comes to: the attribute that it names, or why there is none. -/
inductive Resolves (w : World) : Option String → Except Failure Attribute → Prop
  | notConfigured {spec : Option String} (h : spec.getD "" = "") :
      Resolves w spec (.error (.backend .notConfigured))
  | malformed {text : String} (h : text ≠ "") (hs : ∀ module name, ¬Specifies text module name) :
      Resolves w (some text) (.error (.backend (.badSpecification text)))
  | relative {text module name : String} (hs : Specifies text module name)
      (hm : module.toList.head? = some '.') :
      Resolves w (some text) (.error (.relativeModule module))
  | notImported {text module name : String} {e : Raised} (hs : Specifies text module name)
      (hm : module.toList.head? ≠ some '.') (hi : w.Imports module (.error e))
      (he : e.isImport = true) : Resolves w (some text) (.error (.backend (.notImported module e)))
  | crashed {text module name : String} {e : Raised} (hs : Specifies text module name)
      (hm : module.toList.head? ≠ some '.') (hi : w.Imports module (.error e))
      (he : e.isImport = false) : Resolves w (some text) (.error (.raised e))
  | refused {text module name : String} {m : Loaded} {e : Raised} (hs : Specifies text module name)
      (hm : module.toList.head? ≠ some '.') (hi : w.Imports module (.ok m))
      (ha : m.attribute? name = .error e) : Resolves w (some text) (.error (.raised e))
  | notCallable {text module name : String} {m : Loaded} {a : Option Attribute}
      (hs : Specifies text module name) (hm : module.toList.head? ≠ some '.')
      (hi : w.Imports module (.ok m)) (ha : m.attribute? name = .ok a)
      (hc : ∀ b, a = some b → b.isCallable = false) :
      Resolves w (some text) (.error (.backend (.notCallable text)))
  | callable {text module name : String} {m : Loaded} {a : Attribute}
      (hs : Specifies text module name) (hm : module.toList.head? ≠ some '.')
      (hi : w.Imports module (.ok m)) (ha : m.attribute? name = .ok (some a))
      (hc : a.isCallable = true) : Resolves w (some text) (.ok a)

theorem Specifies.ne_empty {text module name : String} (h : Specifies text module name) :
    text ≠ "" := by
  obtain ⟨rfl, -, -, -⟩ := h
  intro he
  have := congrArg String.toList he
  simp at this

namespace World

variable {w : World} {text module name : String}

theorem backend_of_specifies (w : World) (h : Specifies text module name) :
    w.backend (some text) =
      if module.toList.head? = some '.' then .error (.relativeModule module)
      else
        match w.loadModule module with
        | .error e => .error (if e.isImport then .backend (.notImported module e) else .raised e)
        | .ok m =>
          match m.attribute? name with
          | .error e => .error (.raised e)
          | .ok none => .error (.backend (.notCallable text))
          | .ok (some a) => if a.isCallable then .ok a else .error (.backend (.notCallable text)) := by
  unfold backend
  have parts : splitSpecification ((some text).getD "") = some (module, name) :=
    h.splitSpecification_eq
  exact (if_neg h.ne_empty).trans (parts ▸ rfl)

theorem imports_loadModule (w : World) (module : String) : w.Imports module (w.loadModule module) :=
  imports_load _ _ _

theorem Imports.loadModule_eq {r : Except Raised Loaded} (h : w.Imports module r) :
    w.loadModule module = r :=
  Modules.Imports.load_eq h

theorem backend_of_error {e : Raised} (hs : Specifies text module name)
    (hm : module.toList.head? ≠ some '.') (hi : w.Imports module (.error e)) :
    w.backend (some text) =
      .error (if e.isImport then .backend (.notImported module e) else .raised e) := by
  rw [backend_of_specifies w hs, if_neg hm, hi.loadModule_eq]

theorem backend_of_ok {m : Loaded} (hs : Specifies text module name)
    (hm : module.toList.head? ≠ some '.') (hi : w.Imports module (.ok m)) :
    w.backend (some text) =
      match m.attribute? name with
      | .error e => .error (.raised e)
      | .ok none => .error (.backend (.notCallable text))
      | .ok (some a) => if a.isCallable then .ok a else .error (.backend (.notCallable text)) := by
  rw [backend_of_specifies w hs, if_neg hm, hi.loadModule_eq]

/-- The backend of a world is what the specification comes to. -/
theorem resolves_backend (w : World) (spec : Option String) : Resolves w spec (w.backend spec) := by
  by_cases he : spec.getD "" = ""
  · rw [backend, if_pos he]
    exact .notConfigured he
  obtain ⟨text, rfl⟩ : ∃ text, spec = some text := by
    cases spec with
    | none => exact absurd rfl he
    | some text => exact ⟨text, rfl⟩
  rw [Option.getD_some] at he
  cases hp : splitSpecification text with
  | none =>
    rw [backend, Option.getD_some, if_neg he, hp]
    exact .malformed he fun module name hs => by cases hp.symm.trans hs.splitSpecification_eq
  | some parts =>
    obtain ⟨module, name⟩ := parts
    have hs := splitSpecification_eq_some_iff.1 hp
    by_cases hm : module.toList.head? = some '.'
    · rw [backend_of_specifies w hs, if_pos hm]
      exact .relative hs hm
    have hi := imports_loadModule w module
    cases hl : w.loadModule module with
    | error e =>
      rw [hl] at hi
      rw [backend_of_error hs hm hi]
      split
      · next he => exact .notImported hs hm hi he
      · next he => exact .crashed hs hm hi (Bool.eq_false_iff.2 he)
    | ok m =>
      rw [hl] at hi
      rw [backend_of_ok hs hm hi]
      cases ha : m.attribute? name with
      | error e => exact .refused hs hm hi ha
      | ok found =>
        cases found with
        | none => exact .notCallable hs hm hi ha nofun
        | some a =>
          simp only
          split
          · next hc => exact .callable hs hm hi ha hc
          · next hc =>
            refine .notCallable hs hm hi ha fun b h => ?_
            obtain rfl := Option.some.inj h
            exact Bool.eq_false_iff.2 hc

/-- A specification comes to one thing. -/
theorem backend_eq_iff {spec : Option String} {r : Except Failure Attribute} :
    w.backend spec = r ↔ Resolves w spec r := by
  refine ⟨fun h => h ▸ resolves_backend w spec, fun h => ?_⟩
  cases h with
  | notConfigured h => rw [backend, if_pos h]
  | malformed h hs =>
    have none : splitSpecification _ = none :=
      Option.eq_none_iff_forall_ne_some.2 fun parts hp =>
        hs _ _ (splitSpecification_eq_some_iff.1 hp)
    rw [backend, Option.getD_some, if_neg h, none]
  | relative hs hm => rw [backend_of_specifies w hs, if_pos hm]
  | notImported hs hm hi he => rw [backend_of_error hs hm hi, if_pos he]
  | crashed hs hm hi he => rw [backend_of_error hs hm hi, he]; rfl
  | refused hs hm hi ha => rw [backend_of_ok hs hm hi, ha]
  | @notCallable _ _ name m a hs hm hi ha hc =>
    rw [backend_of_ok hs hm hi, ha]
    cases a with
    | none => rfl
    | some b => simp [hc b rfl]
  | callable hs hm hi ha hc => rw [backend_of_ok hs hm hi, ha]; simp [hc]

end World

/-- Whether a failure is an error of the device. -/
def Failure.isDeviceError (f : Failure) : Bool :=
  match f.kind? with
  | some kind => kind.lineage.contains .device
  | none => false

/-- Failures of a specification that are no errors of the device. -/
inductive BackendEscapes (w : World) : Option String → Failure → Prop
  /-- The module is named relative to another. -/
  | relative {text module name : String} (hs : Specifies text module name)
      (hm : module.toList.head? = some '.') :
      BackendEscapes w (some text) (.relativeModule module)
  /-- The code of a module on the way raises an error that is another, or there is no room for all the
  modules above the one that is named. -/
  | crashed {text module name : String} {e : Raised} (hs : Specifies text module name)
      (hm : module.toList.head? ≠ some '.') (hi : w.Imports module (.error e))
      (hb : Breaks w.modules (w.host.importRoom module) module e) (he : e.isImport = false)
      (hd : (Failure.raised e).isDeviceError = false) : BackendEscapes w (some text) (.raised e)
  /-- The own code of the module raises an error that is another when it is asked for the
  attribute. -/
  | refused {text module name : String} {m : Loaded} {e : Raised} (hs : Specifies text module name)
      (hm : module.toList.head? ≠ some '.') (hi : w.Imports module (.ok m))
      (ha : m.attributes.lookup name = none) (hr : m.refusal? name = some e)
      (hd : (Failure.raised e).isDeviceError = false) : BackendEscapes w (some text) (.raised e)

theorem Loaded.attribute?_eq_error_iff {m : Loaded} {name : String} {e : Raised} :
    m.attribute? name = .error e ↔ m.attributes.lookup name = none ∧ m.refusal? name = some e := by
  unfold attribute?
  cases m.attributes.lookup name <;> cases m.refusal? name <;> simp

namespace Act

/-- Loading a backend changes nothing and prints at most log entries. It gives the attribute that
the specification names, if this can be called; else it fails with an error of the device, or in one
of the ways that are none, and it does fail in each of these. -/
theorem backend_failures (spec : Option String) (s : State) :
    ∃ r u, loadBackend spec s = ended r u ∧ OnlyPrints s u ∧ Resolves s.world spec r ∧
      (∀ f, r = .error f → f.isDeviceError = true ∨ BackendEscapes s.world spec f) ∧
      ∀ f, BackendEscapes s.world spec f → r = .error f ∧ f.isDeviceError = false := by
  obtain ⟨u, hu, prints⟩ := loadBackend_apply spec s
  refine ⟨s.world.backend spec, u, hu, prints, World.resolves_backend _ _, fun f hf => ?_,
    fun f hf => ?_⟩
  · cases World.backend_eq_iff.1 hf with
    | relative hs hm => exact .inr (.relative hs hm)
    | @crashed _ _ _ e hs hm hi he =>
      cases hd : (Failure.raised e).isDeviceError with
      | true => exact .inl rfl
      | false => exact .inr (.crashed hs hm hi (hi.breaks he) he hd)
    | @refused _ _ _ m e hs hm hi ha =>
      obtain ⟨ha, hr⟩ := Loaded.attribute?_eq_error_iff.1 ha
      cases hd : (Failure.raised e).isDeviceError with
      | true => exact .inl rfl
      | false => exact .inr (.refused hs hm hi ha hr hd)
    | _ => exact .inl rfl
  · cases hf with
    | relative hs hm => exact ⟨World.backend_eq_iff.2 (.relative hs hm), rfl⟩
    | crashed hs hm hi _ he hd => exact ⟨World.backend_eq_iff.2 (.crashed hs hm hi he), hd⟩
    | refused hs hm hi ha hr hd =>
      have refused := Loaded.attribute?_eq_error_iff.2 ⟨ha, hr⟩
      exact ⟨World.backend_eq_iff.2 (.refused hs hm hi refused), hd⟩

example (w : World) : BackendEscapes w (some ".storage:open") (.relativeModule ".storage") := by
  have named : Specifies ".storage:open" ".storage" "open" :=
    ⟨by decide, by decide, by decide, by decide⟩
  exact .relative named (by decide)

end Act

end StorageKey
