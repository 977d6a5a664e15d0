import StorageKey.Text.Blank
import StorageKey.Text.WordCharacter

/-!
# Filled paragraphs

A paragraph is filled into lines of at most a given number of characters. It may be broken at
blanks, after the hyphen of a compound word and before and after a dash; a piece that is longer
than a line is broken after a hyphen inside it, or where the line ends.

* `chunks`: the pieces between which a paragraph may be broken;
* `fillLines`: the lines of a paragraph.
-/

namespace StorageKey.Text

/-- The blanks of ASCII, at which paragraphs are broken. -/
def isSpaceChar (c : Char) : Bool := c = ' ' || (9 ≤ c.toNat && c.toNat ≤ 13)

/-- A paragraph with each run of ASCII blanks replaced by one space. -/
def squeeze (s : List Char) : List Char :=
  (s.splitBy fun a b => isSpaceChar a == isSpaceChar b).flatMap fun r =>
    if r.any isSpaceChar then [' '] else r

/-! ### Chunks -/

/-- Whether a dash may follow a character: it ends a word or a sentence. -/
def allowsDash (c : Char) : Bool := isWordChar c || "!\"'&.,?".toList.contains c

/-- The dash at the start of a text, if it has two hyphens or more and a word follows. -/
def dash? (s : List Char) : Option (List Char) :=
  let hyphens := s.takeWhile (· = '-')
  match s.drop hyphens.length with
  | c :: _ => if 2 ≤ hyphens.length && isWordChar c then some hyphens else none
  | [] => none

/-- Whether a compound word may be broken after the hyphen that follows `before`, which is last
character first: two letters, or a letter, a hyphen and a letter, stand before it. -/
def breaksBefore (before : List Char) : Bool :=
  match before with
  | b :: a :: r =>
    (isWordLetter a && isWordLetter b) ||
    (a = '-' && isWordLetter b && (match r with
      | l :: _ => isWordLetter l
      | [] => false))
  | _ => false

/-- Whether a compound word may be broken before `after`: two letters, or two with a hyphen
between them, start it. -/
def breaksAfter (after : List Char) : Bool :=
  match after with
  | a :: '-' :: b :: _ => isWordLetter a && isWordLetter b
  | a :: b :: _ => isWordLetter a && isWordLetter b
  | _ => false

/-- The length of the chunk that a word starts with; `before` holds what stands before it, last
character first, and `first` says that nothing of the chunk is read yet. -/
def wordChunk (first : Bool) (before : List Char) : List Char → Nat
  | [] => 0
  | c :: r =>
    if isSpaceChar c then 0
    else if !first && c = '-' && breaksBefore before && breaksAfter r then 1
    else if !first && (before.head?.any allowsDash) && (dash? (c :: r)).isSome then 0
    else 1 + wordChunk false (c :: before) r

/-- The length of the first chunk of a text that is not empty. -/
def chunkLength (before s : List Char) : Nat :=
  match s with
  | [] => 0
  | c :: _ =>
    if isSpaceChar c then (s.takeWhile isSpaceChar).length
    else
      match (if before.head?.any allowsDash then dash? s else none) with
      | some d => d.length
      | none => wordChunk true before s

/-- The chunks of a text. -/
def chunksFrom (fuel : Nat) (before s : List Char) : List (List Char) :=
  match fuel with
  | 0 => []
  | fuel + 1 =>
    if s.isEmpty then []
    else
      let n := max 1 (chunkLength before s)
      s.take n :: chunksFrom fuel ((s.take n).reverse ++ before) (s.drop n)

/-- The chunks of a text. -/
def chunks (s : List Char) : List (List Char) := chunksFrom s.length [] s

/-! ### Lines -/

/-- How much of a chunk that is longer than a line goes into `room` characters. -/
def longPart (room : Nat) (chunk : List Char) : Nat :=
  let start := chunk.take room
  let hyphen := room - 1 - (start.reverse.takeWhile (· ≠ '-')).length
  if room < chunk.length && start.contains '-' && 0 < hyphen &&
      (chunk.take hyphen).any (· ≠ '-') then
    hyphen + 1
  else room

/-- The chunks that fit in `width` characters, and the others. -/
def takeFitting (width : Nat) : List (List Char) → List (List Char) × List (List Char)
  | [] => ([], [])
  | c :: r =>
    if c.length ≤ width then
      let (taken, rest) := takeFitting (width - c.length) r
      (c :: taken, rest)
    else ([], c :: r)

/-- Drop the last chunk of a line if it is blank. -/
def dropLastBlank (line : List (List Char)) : List (List Char) :=
  match line.getLast? with
  | some c => if allBlank c then line.dropLast else line
  | none => []

/-- Drop the first chunk of a line if it is blank, unless the line is the first. -/
def dropFirstBlank (first : Bool) (cs : List (List Char)) : List (List Char) :=
  match cs with
  | c :: r => if !first && allBlank c then r else cs
  | [] => []

/-- The chunks of a line, and the others. A chunk that is longer than a line is broken. -/
def takeLine (width : Nat) (cs : List (List Char)) : List (List Char) × List (List Char) :=
  match takeFitting width cs with
  | (line, c :: r) =>
    if c.length > width then
      let n := longPart (width - line.flatten.length) c
      (line ++ [c.take n], c.drop n :: r)
    else (line, c :: r)
  | (line, []) => (line, [])

/-- The lines of chunks. -/
def fillFrom (fuel width : Nat) (first : Bool) (cs : List (List Char)) : List (List Char) :=
  match fuel with
  | 0 => []
  | fuel + 1 =>
    let cs := dropFirstBlank first cs
    if cs.isEmpty then []
    else
      let (line, rest) := takeLine width cs
      let line := dropLastBlank line
      if line.isEmpty then fillFrom fuel width first rest
      else line.flatten :: fillFrom fuel width false rest

/-- The lines of a paragraph, with its blanks squeezed and dropped at its ends. -/
def fillLines (width : Nat) (s : List Char) : List (List Char) :=
  let s := strip (squeeze s)
  fillFrom (2 * s.length + 2) width true (chunks s)

end StorageKey.Text
