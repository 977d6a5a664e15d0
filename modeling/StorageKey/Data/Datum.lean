import StorageKey.Data.Entries
import StorageKey.Decimal.Binary64

/-!
# Plain data

The data that a log entry carries: nothing, truth values, integers, floating-point numbers,
texts, lists, and mappings from texts. The entries of a mapping keep their order.

* `Datum`: one piece of data;
* `Context`: the named data of a log entry.

What is put under a name is found there, and what stands under other names stays
(`Context.get?_put_self`, `Context.get?_put_of_ne`).
-/

namespace StorageKey

open Decimal Entries

/-- One piece of plain data. -/
inductive Datum
  | null
  | bool (b : Bool)
  | int (i : Int)
  | real (x : Binary64)
  | text (s : String)
  | list (items : List Datum)
  | map (entries : List (String × Datum))
  deriving Repr, Inhabited

/-- Named data in order. -/
abbrev Context := List (String × Datum)

namespace Context

/-- The value of a name. -/
def get? (c : Context) (name : String) : Option Datum := c.lookup name

/-- Set the value of a name: in its place if the name is there, else at the end. -/
def put (c : Context) (name : String) (value : Datum) : Context :=
  if c.any (·.1 = name) then c.map fun e => if e.1 = name then (name, value) else e
  else c ++ [(name, value)]

/-- Drop a name. -/
def erase (c : Context) (name : String) : Context := c.filter (·.1 ≠ name)

/-- The context in which the entries of `d` have replaced or followed those of `c`. -/
def update (c d : Context) : Context := d.foldl (fun c e => c.put e.1 e.2) c

@[simp] theorem get?_put_self (c : Context) (name : String) (value : Datum) :
    (c.put name value).get? name = some value := by
  unfold put get?
  split
  case isTrue h =>
    induction c with
    | nil => simp at h
    | cons e c ih =>
      obtain ⟨a, b⟩ := e
      by_cases ha : a = name
      · simp [ha]
      · have hne : (name == a) = false := by simpa using fun h => ha h.symm
        have hc : c.any (·.1 = name) = true := by simpa [ha] using h
        simpa [ha, List.lookup_cons, hne] using ih hc
  case isFalse h =>
    induction c with
    | nil => simp
    | cons e c ih =>
      obtain ⟨a, b⟩ := e
      simp only [List.any_cons, Bool.or_eq_true, not_or, decide_eq_true_eq] at h
      have hne : (name == a) = false := by simpa using fun e => h.1 e.symm
      simpa [List.lookup_cons, hne] using ih h.2

theorem get?_put_of_ne (c : Context) {name other : String} (value : Datum) (h : other ≠ name) :
    (c.put name value).get? other = c.get? other := by
  have hne : (other == name) = false := by simpa using h
  unfold put get?
  split
  case isTrue hc =>
    clear hc
    induction c with
    | nil => rfl
    | cons e c ih =>
      obtain ⟨a, b⟩ := e
      by_cases ha : a = name
      · simpa [ha, List.lookup_cons, hne] using ih
      · simp only [List.map_cons, ha, if_false, List.lookup_cons, ih]
  case isFalse hc =>
    clear hc
    induction c with
    | nil => simp [List.lookup_cons, hne]
    | cons e c ih =>
      obtain ⟨a, b⟩ := e
      simp only [List.cons_append, List.lookup_cons, ih]

end Context

end StorageKey
