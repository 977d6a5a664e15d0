import StorageKey.Usage.Token

/-!
# Parsing command lines

Options take effect in their order. Short options may be joined behind one hyphen; the last of
them may have a value, which follows in the same token or is the next word. The first word that is
no value starts the operands and takes all that follows. Without operands, words are left over.

* `Parser.cluster`: the options of one token;
* `Parser.parse`: the settings that a command line makes, and why parsing stopped, if it did.
-/

namespace StorageKey.Usage

open StorageKey.Text

variable {σ : Type}

/-- Why parsing stops before its end. -/
inductive Stop
  | help
  | version (text : String)
  | failure (error : UsageError)
  deriving DecidableEq, Repr

/-- The settings so far, and why parsing stopped, if it did. -/
structure Parsed (σ : Type) where
  settings : σ
  stop : Option Stop

/-! ### Options of one token -/

/-- The options of one token: those without value, and one with a value at the end, if there is one;
its value may still be missing. -/
structure Cluster (σ : Type) where
  plain : List (Switch σ)
  valued : Option (Switch σ × Option String)

/-- The cluster of an option with nothing behind it. -/
def Cluster.single (s : Switch σ) : Cluster σ :=
  if s.takesValue then ⟨[], some (s, none)⟩ else ⟨[s], none⟩

/-- The cluster of an option and the text behind it in its token. Behind a short name without value
stand further short names. -/
def Parser.clusterWith (p : Parser σ) (s : Switch σ) (isShort : Bool) :
    List Char → Except UsageError (Cluster σ)
  | [] =>
    if s.takesValue then .ok ⟨[], some (s, some "")⟩
    else .error (.argument s.title (.unusedValue ""))
  | c :: r =>
    let text := String.ofList (c :: r)
    if s.takesValue then .ok ⟨[], some (s, some text)⟩
    else if !isShort then .error (.argument s.title (.unusedValue text))
    else
      match p.switch? (String.ofList ['-', c]) with
      | none => .error (.argument s.title (.unusedValue text))
      | some t =>
        (if r.isEmpty then .ok (.single t) else p.clusterWith t true r).map fun k =>
          { k with plain := s :: k.plain }

/-- The options of one token. -/
def Parser.cluster (p : Parser σ) (s : Switch σ) (name : String) (value : Option String) :
    Except UsageError (Cluster σ) :=
  match value with
  | none => .ok (.single s)
  | some v => p.clusterWith s (!isStart "--" name) v.toList

/-! ### Effects -/

/-- Let options without value take effect. -/
def applyPlain (settings : σ) : List (Switch σ) → Parsed σ
  | [] => ⟨settings, none⟩
  | s :: r =>
    match s.effect with
    | .help => ⟨settings, some .help⟩
    | .version text => ⟨settings, some (.version text)⟩
    | .set change => applyPlain (change settings) r
    | .value _ _ _ => applyPlain settings r

/-- Let an option with a value take effect. -/
def applyValue (settings : σ) (s : Switch σ) (value : String) : Parsed σ :=
  match s.effect with
  | .value _ read noValue =>
    if value = "--" then ⟨noValue settings, none⟩
    else
      match read value with
      | .ok change => ⟨change settings, none⟩
      | .error cause => ⟨settings, some (.failure (.argument s.title (.badValue cause)))⟩
  | _ => ⟨settings, none⟩

/-- Go on unless parsing has stopped. -/
def Parsed.andThen (x : Parsed σ) (next : σ → Parsed σ) : Parsed σ :=
  match x.stop with
  | none => next x.settings
  | some _ => x

theorem Parsed.andThen_of_stop_ne_none {x : Parsed σ} (next : σ → Parsed σ) (h : x.stop ≠ none) :
    x.andThen next = x := by
  unfold Parsed.andThen
  split
  · contradiction
  · rfl

/-! ### Command lines -/

/-- The end of a command line without operands: they may be missing, or tokens be left over. -/
def Parser.finish (p : Parser σ) (settings : σ) (left : List String) : Parsed σ :=
  match p.operands with
  | some o => ⟨settings, some (.failure (.missing [o.word, o.rest]))⟩
  | none => ⟨settings, if left.isEmpty then none else some (.failure (.unrecognized left))⟩

/-- Take a word and all tokens after it as operands. -/
def takeOperands (o : Operands σ) (settings : σ) (left : List String) (word : String)
    (rest : List String) : Parsed σ :=
  match o.read word rest with
  | .error cause => ⟨settings, some (.failure (.argument o.word (.badValue cause)))⟩
  | .ok change =>
    ⟨change settings, if left.isEmpty then none else some (.failure (.unrecognized left))⟩

/-- The texts of tokens without a double hyphen at their start. -/
def restTexts : Tokens σ → List String
  | (_, .dashes) :: r => r.map (·.1)
  | r => r.map (·.1)

/-- Parse tokens. `left` holds the tokens that are left over so far. -/
def Parser.run (p : Parser σ) (settings : σ) (left : List String) : Tokens σ → Parsed σ
  | [] => p.finish settings left
  | (text, .unknown) :: r => p.run settings (left ++ [text]) r
  | (text, .word) :: r =>
    match p.operands with
    | some o => takeOperands o settings left text (restTexts r)
    | none => p.run settings (left ++ [text]) r
  | (text, .dashes) :: r =>
    match p.operands, r with
    | some o, (word, _) :: r => takeOperands o settings left word (r.map (·.1))
    | _, _ => p.finish settings (left ++ text :: r.map (·.1))
  | (_, .option s name value) :: r =>
    match p.cluster s name value with
    | .error e => ⟨settings, some (.failure e)⟩
    | .ok ⟨plain, none⟩ => (applyPlain settings plain).andThen fun settings => p.run settings left r
    | .ok ⟨plain, some (t, some v)⟩ =>
      ((applyPlain settings plain).andThen fun settings => applyValue settings t v).andThen
        fun settings => p.run settings left r
    | .ok ⟨plain, some (t, none)⟩ =>
      match r with
      | (v, .word) :: r =>
        ((applyPlain settings plain).andThen fun settings => applyValue settings t v).andThen
          fun settings => p.run settings left r
      | _ => ⟨settings, some (.failure (.argument t.title .missingValue))⟩

/-- Parse a command line. -/
def Parser.parse (p : Parser σ) (settings : σ) (args : List String) : Parsed σ :=
  match p.tokens args with
  | .error e => ⟨settings, some (.failure e)⟩
  | .ok ts => p.run settings [] ts

end StorageKey.Usage
