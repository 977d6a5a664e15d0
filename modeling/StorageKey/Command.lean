/-!
# Commands

* `Command`: what the program can be told to do;
* `Command.word`, `Command.ofString?`: the word for it on the command line, and back.
-/

namespace StorageKey

/-- A command of the program. -/
inductive Command
  | clearPassphrase
  | closeVolume
  | openVolume
  | showStatus
  deriving DecidableEq, Repr

namespace Command

/-- All commands, in the order in which messages list them. -/
def all : List Command := [clearPassphrase, closeVolume, openVolume, showStatus]

/-- The word for a command. -/
def word : Command → String
  | clearPassphrase => "clear"
  | closeVolume => "close"
  | openVolume => "open"
  | showStatus => "status"

/-- What a command does, for its help. -/
def description : Command → String
  | clearPassphrase => "Clears the cached passphrase"
  | closeVolume => "Closes the encrypted volume on a Nitrokey Storage"
  | openVolume => "Opens the encrypted volume on a Nitrokey Storage"
  | showStatus => "Print the status of the connected Nitrokey Storage"

/-- The command of a word. -/
def ofString? (s : String) : Option Command := all.find? (·.word = s)

@[simp] theorem ofString?_word (c : Command) : ofString? c.word = some c := by
  cases c <;> decide

theorem eq_word_of_ofString? {s : String} {c : Command} (h : ofString? s = some c) :
    s = c.word := by
  have := List.find?_some h
  exact (of_decide_eq_true this).symm

theorem word_injective {c d : Command} (h : c.word = d.word) : c = d := by
  have := ofString?_word c
  rw [h, ofString?_word] at this
  exact (Option.some.inj this).symm

end Command

end StorageKey
