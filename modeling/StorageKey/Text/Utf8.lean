import StorageKey.Text.Quoted

/-!
# Reading UTF-8

A strict decoder that says where it failed. Bytes arrive in chunks: a character may be cut by
the end of a chunk and goes on in the next one, and a fault is placed by its distance from the
start of the bytes that were still open.

* `next`: the first character of a byte string, or why there is none;
* `decode`: the characters of a byte string that ends here;
* `decodeChunks`: the characters of a byte string that is read chunk by chunk, up to its first
  fault;
* `encode`: the bytes of a text.
-/

namespace StorageKey.Text.Utf8

/-- Why bytes are not UTF-8. -/
inductive Reason
  | invalidStart
  | invalidContinuation
  | unexpectedEnd
  deriving DecidableEq, Repr

/-- The faulty bytes: the first one, and their places from `start` up to `stop`. -/
structure Fault where
  first : UInt8
  start : Nat
  stop : Nat
  reason : Reason
  deriving DecidableEq, Repr

/-- The wording of a reason. -/
def Reason.message : Reason → String
  | .invalidStart => "invalid start byte"
  | .invalidContinuation => "invalid continuation byte"
  | .unexpectedEnd => "unexpected end of data"

/-- The wording of a fault. -/
def Fault.message (f : Fault) : String :=
  (if f.stop = f.start + 1 then
    "'utf-8' codec can't decode byte 0x" ++ String.ofList (hexDigits 2 f.first.toNat) ++
      " in position " ++ toString f.start
  else
    "'utf-8' codec can't decode bytes in position " ++ toString f.start ++ "-" ++
      toString (f.stop - 1)) ++ ": " ++ f.reason.message

/-- The start of a byte string: a character and the bytes after it, a character that the end
cuts after `present` bytes, or bytes that start no character. -/
inductive Next
  | done
  | char (c : Char) (rest : List UInt8)
  | cut (present : Nat)
  | bad (length : Nat) (reason : Reason)

/-- The value of a continuation byte, if it is one and lies in the given range. -/
def continuation? (low high : Nat) (b : UInt8) : Option Nat :=
  if low ≤ b.toNat ∧ b.toNat ≤ high then some (b.toNat - 0x80) else none

/-- The least and the greatest second byte after a first one. -/
def secondRange (first : Nat) : Nat × Nat :=
  if first = 0xe0 then (0xa0, 0xbf)
  else if first = 0xed then (0x80, 0x9f)
  else if first = 0xf0 then (0x90, 0xbf)
  else if first = 0xf4 then (0x80, 0x8f)
  else (0x80, 0xbf)

/-- How many bytes a character with this first byte has. -/
def length? (first : Nat) : Option Nat :=
  if first < 0x80 then some 1
  else if first < 0xc2 then none
  else if first < 0xe0 then some 2
  else if first < 0xf0 then some 3
  else if first < 0xf5 then some 4
  else none

/-- Read the last `owed` continuation bytes of a character of which `present` bytes are read. -/
def tail (value present owed : Nat) (bs : List UInt8) : Next :=
  match owed with
  | 0 => .char (Char.ofNat value) bs
  | owed + 1 =>
    match bs with
    | [] => .cut present
    | b :: r =>
      match continuation? 0x80 0xbf b with
      | some v => tail (value * 64 + v) (present + 1) owed r
      | none => .bad present .invalidContinuation

/-- The first character of a byte string, or why there is none. -/
def next : List UInt8 → Next
  | [] => .done
  | a :: r =>
    match length? a.toNat with
    | none => .bad 1 .invalidStart
    | some 1 => .char (Char.ofNat a.toNat) r
    | some n =>
      match r with
      | [] => .cut 1
      | b :: r =>
        match continuation? (secondRange a.toNat).1 (secondRange a.toNat).2 b with
        | none => .bad 1 .invalidContinuation
        | some v =>
          let lead := if n = 2 then a.toNat - 0xc0 else if n = 3 then a.toNat - 0xe0
            else a.toNat - 0xf0
          tail (lead * 64 + v) 2 (n - 2) r

theorem length_le_of_tail {value present owed : Nat} {bs rest : List UInt8} {c : Char}
    (h : tail value present owed bs = .char c rest) : rest.length ≤ bs.length := by
  induction owed generalizing value present bs with
  | zero => simp_all [tail]
  | succ owed ih =>
    cases bs with
    | nil => simp [tail] at h
    | cons b r =>
      simp only [tail] at h
      split at h
      · have := ih h
        simp only [List.length_cons]
        omega
      · simp at h

/-- A character takes at least one byte. -/
theorem length_lt_of_next {bs rest : List UInt8} {c : Char} (h : next bs = .char c rest) :
    rest.length < bs.length := by
  unfold next at h
  split at h
  · simp at h
  · split at h
    · simp at h
    · simp only [Next.char.injEq] at h
      simp [h.2]
    · split at h
      · simp at h
      · split at h
        · simp at h
        · have := length_le_of_tail h
          simp only [List.length_cons]
          omega

/-- The characters up to the end or the first fault, the bytes of a cut character, and the
fault; `place` is the place of the first byte. -/
def run (fuel : Nat) (place : Nat) (bs : List UInt8) : List Char × List UInt8 × Option Fault :=
  match fuel with
  | 0 => ([], [], none)
  | fuel + 1 =>
    match next bs with
    | .done => ([], [], none)
    | .char c rest =>
      let (cs, open', fault) := run fuel (place + (bs.length - rest.length)) rest
      (c :: cs, open', fault)
    | .cut _ => ([], bs, none)
    | .bad n reason =>
      ([], [], some ⟨bs.headD 0, place, place + n, reason⟩)

/-- The fault of bytes that end inside a character. -/
def endFault (place : Nat) (bs : List UInt8) : Fault :=
  ⟨bs.headD 0, place, place + bs.length, .unexpectedEnd⟩

/-- The characters of a byte string that ends here. -/
def decode (bs : List UInt8) : Except Fault (List Char) :=
  match run (bs.length + 1) 0 bs with
  | (_, _, some f) => .error f
  | (cs, [], none) => .ok cs
  | (_, rest, none) => .error (endFault (bs.length - rest.length) rest)

@[simp] theorem decode_nil : decode [] = .ok [] := rfl

/-- The characters of a byte string read in chunks of `size` bytes, and the fault that ends them;
`left` holds the bytes of a character that the last chunk cut. A chunk with a fault gives none of
its characters. -/
def decodeChunks (size : Nat) (left bs : List UInt8) (fuel : Nat) : List Char × Option Fault :=
  match fuel with
  | 0 => ([], none)
  | fuel + 1 =>
    if bs.isEmpty then ([], if left.isEmpty then none else some (endFault 0 left))
    else
      let chunk := left ++ bs.take size
      match run (chunk.length + 1) 0 chunk with
      | (_, _, some f) => ([], some f)
      | (cs, rest, none) =>
        let (more, fault) := decodeChunks size rest (bs.drop size) fuel
        (cs ++ more, fault)

/-- The characters of a file up to its first fault. The file is read in chunks of 8192 bytes. -/
def decodeFile (bs : List UInt8) : List Char × Option Fault :=
  decodeChunks 8192 [] bs (bs.length + 1)

/-- The bytes of a text. -/
def encode (s : List Char) : List UInt8 := s.flatMap String.utf8EncodeChar

end StorageKey.Text.Utf8
