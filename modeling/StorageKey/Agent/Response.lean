import StorageKey.Failure
import StorageKey.Text.Lines
import StorageKey.Text.Start

/-!
# Answers of the agent program

An answer is a text in lines. A passphrase comes as a data line and an `OK` line, a bare success as
an `OK` line alone; an answer whose first line is an error line is a refusal, and any other is
unexpected.

* `passphraseOf`, `checkSuccess`: the two answers.
-/

namespace StorageKey

open Text

/-- Why an answer is not accepted. -/
def rejectionOf (response : List Char) : AgentFault :=
  match (splitLines response).head?.bind (after? "ERR ") with
  | some reason => .refused reason
  | none => .unexpected response

/-- The passphrase in an answer. -/
def passphraseOf (response : List Char) : Except AgentFault (List Char) :=
  match splitLines response with
  | [data, last] =>
    match after? "D " data with
    | some passphrase =>
      if last = "OK".toList then .ok passphrase else .error (rejectionOf response)
    | none => .error (rejectionOf response)
  | _ => .error (rejectionOf response)

/-- Check that an answer is a bare success. -/
def checkSuccess (response : List Char) : Except AgentFault Unit :=
  if splitLines response = ["OK".toList] then .ok () else .error (rejectionOf response)

end StorageKey
