import Mathlib.Data.List.Infix
import StorageKey.Invocation

/-!
# How the program's own options are spelled

`spelling?` reads a token by its letters alone: short names are joined behind one hyphen, a long
name may be shortened, and a path follows in the token or is left to the next one.

* `Spelling`, `spelling?`: what a token spells;
* `Settings.addVerbose`, `Settings.setConfig`: what is done to the settings.
-/

namespace StorageKey

open Text Usage

/-- Where an option leaves the path of the configuration. -/
inductive ConfigPart
  | absent
  | next
  | given (path : String)
  deriving DecidableEq, Repr

/-- What a token of options spells: whether output is verbose, and where the path of the
configuration is. -/
structure Spelling where
  verbose : Bool
  config : ConfigPart
  deriving DecidableEq, Repr

namespace Spelling

/-- The spelling with verbose output besides. -/
def andVerbose (s : Spelling) : Spelling := { s with verbose := true }

/-- What joined short names spell. -/
def ofLetters : List Char → Option Spelling
  | [] => none
  | a :: r =>
    if a = 'c' then some ⟨false, if r = [] then .next else .given (String.ofList r)⟩
    else if a = 'v' then (if r = [] then some ⟨true, .absent⟩ else (ofLetters r).map andVerbose)
    else none

/-- What a short name and the text behind it spell. An equals sign right behind the name is left
aside. -/
def ofShort (a : Char) (r : List Char) : Option Spelling :=
  match r with
  | '=' :: value =>
    if a = 'c' then some ⟨false, .given (String.ofList value)⟩
    else if a = 'v' then (ofLetters value).map andVerbose
    else none
  | _ => ofLetters (a :: r)

/-- What a long name, perhaps shortened, and a value in the same token spell. -/
def ofLong (name : List Char) (value : Option String) : Option Spelling :=
  if name ≠ [] ∧ name <+: "config".toList then some ⟨false, value.elim .next .given⟩
  else if "verb".toList <+: name ∧ name <+: "verbose".toList ∧ value = none then
    some ⟨true, .absent⟩
  else none

/-! ### What names spell -/

theorem ofLetters_verbose {l : List Char} (hl : l ≠ []) :
    ofLetters ('v' :: l) = (ofLetters l).map andVerbose := by
  simp [ofLetters, hl]

theorem ofShort_eq_none {a : Char} (hv : a ≠ 'v') (hc : a ≠ 'c') (r : List Char) :
    ofShort a r = none := by
  unfold ofShort
  split <;> simp [ofLetters, hv, hc]

variable {name : List Char} {value : Option String}

theorem ofLong_of_prefix_config (hn : name ≠ []) (hc : name <+: "config".toList) :
    ofLong name value = some ⟨false, value.elim .next .given⟩ :=
  if_pos ⟨hn, hc⟩

theorem ofLong_of_prefix_verbose (hc : ¬name <+: "config".toList) (hv : name <+: "verbose".toList)
    (hverb : "verb".toList <+: name) :
    ofLong name value = if value = none then some ⟨true, .absent⟩ else none := by
  rw [ofLong, if_neg fun h => hc h.2]
  exact if_congr (by simp only [hverb, hv, true_and]) rfl rfl

theorem ofLong_eq_none (hc : ¬name <+: "config".toList)
    (hv : "verb".toList <+: name → ¬name <+: "verbose".toList) : ofLong name value = none := by
  rw [ofLong, if_neg fun h => hc h.2, if_neg fun h => hv h.1 h.2.1]

end Spelling

/-- What a token spells, if it is an option that lets the program go on. -/
def spelling? (t : String) : Option Spelling :=
  match t.toList with
  | '-' :: a :: r =>
    if a = '-' then Spelling.ofLong (r.takeWhile (· ≠ '=')) (splitEquals t).2
    else Spelling.ofShort a r
  | _ => none

/-- The settings with verbose output, if it is asked for. -/
def Settings.addVerbose (s : Settings) (b : Bool) : Settings := { s with verbose := s.verbose || b }

/-- The settings with a path for the configuration; a double hyphen counts as none. -/
def Settings.setConfig (s : Settings) (path : String) : Settings :=
  { s with config := some (if path = "--" then none else some (Path.ofString path)) }

theorem applyValue_configSwitch (s : Settings) (path : String) :
    applyValue s configSwitch path = ⟨s.setConfig path, none⟩ := by
  simp only [applyValue, configSwitch, Settings.setConfig]
  split <;> rfl

end StorageKey
