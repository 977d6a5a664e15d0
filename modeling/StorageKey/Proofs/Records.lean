import Mathlib.Data.List.Forall2
import StorageKey.Invocation
import StorageKey.Proofs.ConfigurationDocument
import StorageKey.Status

/-!
# Records in normal form

A value that is accepted as a record may spell its fields in many ways. What is read from it keeps the
rules of the record, and is read again from its own data.

* `Status.SaidBy`, `Invocation.SaidBy`: what a record says, field by field, as `Config.SetBy`;
* `Status.ofValue_eq_ok_iff` and its like: a value is accepted just if it says a record;
* `Status.KeepsRules` and its like: the rules on the data of a record;
* `Status.ofValue_value` and its like: the data of a record are read again;
* `accepted_records_normal`: accepted records keep their rules and are in normal form.
-/

namespace StorageKey

open Record Text

/-! ### Readers -/

namespace Record

variable {α β : Type} {r : Reader α} {name : String} {es : List (Value × Value)} {v : Value} {a : α}

/-- What a field says that a record must have. -/
def Gives (r : Reader α) (name : String) (es : List (Value × Value)) (a : α) : Prop :=
  ∃ v, field? es name = some v ∧ r v = .ok a

theorem check_eq_ok_iff {place : List String} :
    (check place r v).toExcept = .ok a ↔ r v = .ok a := by
  unfold check
  cases r v <;> simp [Checked.toExcept]

theorem required_eq_ok_iff : (required es name r).toExcept = .ok a ↔ Gives r name es a := by
  unfold required Gives
  cases field? es name with
  | none => simp [Checked.toExcept]
  | some v => simp [check_eq_ok_iff]

theorem toExcept_fmap_eq_ok_iff {f : α → β} {x : Checked α} {b : β} :
    (f <$> x).toExcept = .ok b ↔ ∃ a, x.toExcept = .ok a ∧ f a = b := toExcept_map_eq_ok_iff

theorem toExcept_ap_eq_ok_iff {f : Checked (α → β)} {x : Checked α} {b : β} :
    (f <*> x).toExcept = .ok b ↔ ∃ g a, f.toExcept = .ok g ∧ x.toExcept = .ok a ∧ g a = b :=
  Checked.toExcept_seq_eq_ok_iff

/-- A value is read as a record if it is a mapping whose entries are. -/
theorem entriesOf_bind_eq_ok_iff {f : List (Value × Value) → Except (List Issue) α} :
    (entriesOf name v >>= f) = .ok a ↔ ∃ es, v = .map es ∧ f es = .ok a := by
  cases v <;> simp [entriesOf, bind, Except.bind]

theorem asAtLeast_eq_ok_iff {least n : Nat} :
    asAtLeast least v = .ok n ↔ asInteger v = .ok n ∧ least ≤ n := by
  unfold asAtLeast
  cases asInteger v with
  | error c => simp
  | ok i =>
    by_cases hi : (least : Int) ≤ i
    · simp only [hi, if_true, Except.ok.injEq]
      omega
    · simp only [hi, if_false, Except.ok.injEq, reduceCtorEq, false_iff]
      omega

/-- What is read as a path has names that can stand in a text. -/
theorem hasNames_of_asPath {p : Path} (h : asPath v = .ok p) : p.HasNames := by
  cases v with
  | text s =>
    cases h
    exact Path.hasNames_ofString s
  | _ => cases h

theorem orNothing_eq_some_iff : orNothing r v = .ok (some a) ↔ v ≠ .null ∧ r v = .ok a := by
  cases v <;> simp [orNothing, Except.map] <;> split <;> simp_all

/-- The texts of a list are read one by one. -/
theorem checkTexts_eq_ok_iff {n : Nat} {vs : List Value} {ts : List String} :
    (checkTexts name n vs).toExcept = .ok ts ↔ List.Forall₂ (fun v t => asText v = .ok t) vs ts := by
  induction vs generalizing n ts with
  | nil =>
    constructor
    · rintro ⟨⟩
      exact .nil
    · rintro ⟨⟩
      rfl
  | cons v vs ih =>
    rw [checkTexts, Checked.toExcept_seq_eq_ok_iff]
    simp only [toExcept_map_eq_ok_iff, check_eq_ok_iff, ih]
    constructor
    · rintro ⟨_, ts, ⟨t, ht, rfl⟩, hts, rfl⟩
      exact .cons ht hts
    · rintro (_ | ⟨ht, hts⟩)
      exact ⟨_, _, ⟨_, ht, rfl⟩, hts, rfl⟩

/-- What a field says that must be a list of texts. -/
def GivesTexts (name : String) (es : List (Value × Value)) (ts : List String) : Prop :=
  ∃ v vs, field? es name = some v ∧ listed? v = some vs ∧
    List.Forall₂ (fun v t => asText v = .ok t) vs ts

theorem requiredTexts_eq_ok_iff {ts : List String} :
    (requiredTexts es name).toExcept = .ok ts ↔ GivesTexts name es ts := by
  unfold requiredTexts GivesTexts
  cases field? es name with
  | none => simp [Checked.toExcept]
  | some v =>
    cases hv : listed? v with
    | none => simp [hv, Checked.toExcept]
    | some vs => simp [hv, checkTexts_eq_ok_iff]

/-- There are no unknown fields just if every key is the name of a field. -/
theorem unknownFields_eq_nil_iff {names : List String} :
    unknownFields es names = [] ↔ ∀ e ∈ es, ∃ name ∈ names, e.1 = .text name := by
  unfold unknownFields
  rw [List.flatMap_eq_nil_iff]
  refine forall₂_congr fun e _ => ?_
  obtain ⟨k, v⟩ := e
  cases k <;> simp

end Record

/-- The data of a record as a value. -/
def Context.value (c : Context) : Value := .ofDatum (.map c)

/-! ### The status of a key -/

namespace Status

variable {es : List (Value × Value)} {s : Status} {v : Value}

/-- The status that entries say: each field says what it is, and a volume that is left out is
inactive. -/
structure SaidBy (es : List (Value × Value)) (s : Status) : Prop where
  cardId : Gives asInteger "sd_card_id" es s.cardId
  major : Gives asInteger "firmware_version_major" es s.firmwareMajor
  minor : Gives asInteger "firmware_version_minor" es s.firmwareMinor
  locked : Gives asTruth "firmware_locked" es s.firmwareLocked
  keys : Gives asTruth "stored_keys" es s.keysCreated
  user : Gives (asAtLeast 0) "user_retry_count" es s.userRetries
  admin : Gives (asAtLeast 0) "admin_retry_count" es s.adminRetries
  unencrypted : Says asVolume "unencrypted_volume" es .inactive s.unencrypted
  encrypted : Says asVolume "encrypted_volume" es .inactive s.encrypted
  hidden : Says asVolume "hidden_volume" es .inactive s.hidden

theorem ofEntries_eq_ok_iff : (ofEntries es).toExcept = .ok s ↔ SaidBy es s := by
  unfold ofEntries
  simp only [toExcept_ap_eq_ok_iff, toExcept_fmap_eq_ok_iff, required_eq_ok_iff, optional_eq_ok_iff]
  -- The fields are applied from the left, so the reader of the first one lies innermost.
  constructor
  · rintro ⟨_, _, ⟨_, _, ⟨_, _, ⟨_, _, ⟨_, _, ⟨_, _, ⟨_, _, ⟨_, _, ⟨_, _, ⟨_, card, rfl⟩, major, rfl⟩,
      minor, rfl⟩, locked, rfl⟩, keys, rfl⟩, user, rfl⟩, admin, rfl⟩, unencrypted, rfl⟩, encrypted,
      rfl⟩, hidden, rfl⟩
    exact ⟨card, major, minor, locked, keys, user, admin, unencrypted, encrypted, hidden⟩
  · rintro ⟨card, major, minor, locked, keys, user, admin, unencrypted, encrypted, hidden⟩
    exact ⟨_, _, ⟨_, _, ⟨_, _, ⟨_, _, ⟨_, _, ⟨_, _, ⟨_, _, ⟨_, _, ⟨_, _, ⟨_, card, rfl⟩, major, rfl⟩,
      minor, rfl⟩, locked, rfl⟩, keys, rfl⟩, user, rfl⟩, admin, rfl⟩, unencrypted, rfl⟩, encrypted,
      rfl⟩, hidden, rfl⟩

/-- A value is accepted as a status just if it is a mapping that says one. -/
theorem ofValue_eq_ok_iff : ofValue v = .ok s ↔ ∃ es, v = .map es ∧ SaidBy es s := by
  unfold ofValue
  rw [entriesOf_bind_eq_ok_iff]
  simp only [ofEntries_eq_ok_iff]

/-- The rules on the data of a status: the counts are natural numbers, and each volume is in one of
three states. -/
structure KeepsRules (c : Context) : Prop where
  counts : ∀ name ∈ ["user_retry_count", "admin_retry_count"],
    ∃ n : Int, c.get? name = some (.int n) ∧ 0 ≤ n
  volumes : ∀ name ∈ ["unencrypted_volume", "encrypted_volume", "hidden_volume"],
    ∃ w ∈ ["active", "read-only", "inactive"], c.get? name = some (.text w)

theorem word_mem (x : VolumeState) : x.word ∈ ["active", "read-only", "inactive"] := by
  cases x <;> decide

/-- The data of every status keep the rules. -/
theorem keepsRules (s : Status) : KeepsRules s.context := by
  constructor
  · simp only [List.forall_mem_cons]
    exact ⟨⟨_, rfl, Int.natCast_nonneg _⟩, ⟨_, rfl, Int.natCast_nonneg _⟩, nofun⟩
  · simp only [List.forall_mem_cons]
    exact ⟨⟨_, word_mem _, rfl⟩, ⟨_, word_mem _, rfl⟩, ⟨_, word_mem _, rfl⟩, nofun⟩

theorem asVolume_word (x : VolumeState) : asVolume (.text x.word) = .ok x := by
  cases x <;> rfl

/-- A status is read again from its data. -/
theorem ofValue_value (s : Status) : ofValue s.context.value = .ok s := by
  have count (n : Nat) : asAtLeast 0 (.int n) = .ok n :=
    asAtLeast_eq_ok_iff.2 ⟨rfl, Nat.zero_le n⟩
  refine ofValue_eq_ok_iff.2 ⟨_, rfl, ⟨_, rfl, rfl⟩, ⟨_, rfl, rfl⟩, ⟨_, rfl, rfl⟩, ⟨_, rfl, rfl⟩,
    ⟨_, rfl, rfl⟩, ⟨_, rfl, count _⟩, ⟨_, rfl, count _⟩, ?_, ?_, ?_⟩
  · exact .given rfl (asVolume_word _)
  · exact .given rfl (asVolume_word _)
  · exact .given rfl (asVolume_word _)

end Status

/-! ### The configuration -/

namespace Config

variable {es : List (Value × Value)} {c : Config} {v : Value}

/-- A value is accepted as a configuration just if it is a mapping that sets one. -/
theorem ofValue_eq_ok_iff : ofValue v = .ok c ↔ ∃ es, v = .map es ∧ SetBy es c := by
  unfold ofValue
  rw [entriesOf_bind_eq_ok_iff]
  simp only [ofEntries_eq_ok_iff]

/-- There is at least one attempt in every configuration that is set. -/
theorem SetBy.one_le_attempts (h : SetBy es c) : 1 ≤ c.attempts := by
  obtain ⟨backend, program, attempts⟩ := c
  cases h.attempts with
  | given _ hr => exact (asAtLeast_eq_ok_iff.1 hr).2
  | absent _ => exact show 1 ≤ usual.attempts by decide

/-- The rules on the data of a configuration: there is at least one attempt. -/
def KeepsRules (c : Context) : Prop := ∃ n : Int, c.get? "open_retries" = some (.int n) ∧ 1 ≤ n

theorem keepsRules (h : 1 ≤ c.attempts) : KeepsRules c.context :=
  ⟨c.attempts, rfl, Int.ofNat_le.2 h⟩

/-- The only names that entries set are those of the fields. -/
theorem SetBy.names (h : SetBy es c) :
    ∀ e ∈ es, ∃ name ∈ ["backend", "gpg_connect_agent", "open_retries"], e.1 = .text name :=
  unknownFields_eq_nil_iff.1 h.known

/-- A configuration with an attempt is read again from its data. -/
theorem ofValue_value (h : 1 ≤ c.attempts) : ofValue c.context.value = .ok c := by
  refine ofValue_eq_ok_iff.2 ⟨_, rfl, rfl, .given rfl ?_, .given rfl rfl,
    .given rfl (asAtLeast_eq_ok_iff.2 ⟨rfl, h⟩)⟩
  obtain ⟨backend, program, attempts⟩ := c
  cases backend <;> rfl

end Config

/-! ### Invocations -/

namespace Invocation

variable {es : List (Value × Value)} {i : Invocation} {v : Value}

/-- Whether arguments start with a name. -/
def StartWithName (args : List String) : Prop :=
  ∃ a r, args = a :: r ∧ allBlank a.toList = false

/-- The invocation that entries say: each field says what it is, and the arguments start with a
name. -/
structure SaidBy (es : List (Value × Value)) (i : Invocation) : Prop where
  command : Gives (asWord commandWords .noneOfChoices) "command" es i.command
  arguments : GivesTexts "arguments" es i.arguments
  named : StartWithName i.arguments
  verbose : Says asTruth "verbose" es false i.verbose
  config : Says (orNothing asPath) "config" es none i.config

theorem checkArguments_eq_ok_iff {args ts : List String} :
    (checkArguments v args).toExcept = .ok ts ↔ args = ts ∧ StartWithName ts := by
  cases args with
  | nil =>
    constructor
    · rintro ⟨⟩
    · rintro ⟨rfl, a, r, h, -⟩
      cases h
  | cons a r =>
    have run : checkArguments v (a :: r) =
        if allBlank a.toList then checkArguments.broken v else .ok (a :: r) := rfl
    cases ha : allBlank a.toList with
    | true =>
      rw [run, ha, if_pos rfl]
      constructor
      · rintro ⟨⟩
      · rintro ⟨rfl, b, q, h, hb⟩
        cases h
        rw [ha] at hb
        cases hb
    | false =>
      rw [run, ha, if_neg Bool.false_ne_true]
      constructor
      · rintro ⟨⟩
        exact ⟨rfl, a, r, rfl, ha⟩
      · rintro ⟨rfl, -⟩
        rfl

theorem argumentsOf_eq_ok_iff {ts : List String} :
    (argumentsOf es).toExcept = .ok ts ↔ GivesTexts "arguments" es ts ∧ StartWithName ts := by
  unfold argumentsOf
  rw [← requiredTexts_eq_ok_iff]
  cases requiredTexts es "arguments" with
  | bad is => simp [Checked.toExcept]
  | ok args =>
    show (checkArguments _ args).toExcept = _ ↔ Except.ok args = Except.ok ts ∧ _
    rw [checkArguments_eq_ok_iff, Except.ok.injEq]

theorem ofEntries_eq_ok_iff : (ofEntries es).toExcept = .ok i ↔ SaidBy es i := by
  unfold ofEntries
  simp only [toExcept_ap_eq_ok_iff, toExcept_fmap_eq_ok_iff, required_eq_ok_iff, optional_eq_ok_iff,
    argumentsOf_eq_ok_iff]
  constructor
  · rintro ⟨_, _, ⟨_, _, ⟨_, _, ⟨_, command, rfl⟩, ⟨arguments, named⟩, rfl⟩, verbose, rfl⟩, config, rfl⟩
    exact ⟨command, arguments, named, verbose, config⟩
  · rintro ⟨command, arguments, named, verbose, config⟩
    exact ⟨_, _, ⟨_, _, ⟨_, _, ⟨_, command, rfl⟩, ⟨arguments, named⟩, rfl⟩, verbose, rfl⟩, config, rfl⟩

/-- A value is accepted as an invocation just if it is a mapping that says one. -/
theorem ofValue_eq_ok_iff : ofValue v = .ok i ↔ ∃ es, v = .map es ∧ SaidBy es i := by
  unfold ofValue
  rw [entriesOf_bind_eq_ok_iff]
  simp only [ofEntries_eq_ok_iff]

/-- The invocation as named data: the command by its word, and the path as it is printed. -/
def context (i : Invocation) : Context := [
  ("command", .text i.command.word),
  ("arguments", .list (i.arguments.map .text)),
  ("verbose", .bool i.verbose),
  ("config", match i.config with
    | some p => .text p.text
    | none => .null)]

/-- The rules on the data of an invocation: the command is one of four, and the arguments start with
a text that is not blank. -/
structure KeepsRules (c : Context) : Prop where
  command : ∃ w ∈ ["clear", "close", "open", "status"], c.get? "command" = some (.text w)
  arguments : ∃ a r, c.get? "arguments" = some (.list (.text a :: r)) ∧ allBlank a.toList = false

theorem word_mem (c : Command) : c.word ∈ ["clear", "close", "open", "status"] := by
  cases c <;> decide

theorem keepsRules (h : StartWithName i.arguments) : KeepsRules i.context := by
  obtain ⟨a, r, hi, ha⟩ := h
  refine ⟨⟨_, word_mem _, rfl⟩, a, r.map .text, ?_, ha⟩
  show some (Datum.list (i.arguments.map .text)) = _
  rw [hi]
  rfl

theorem asWord_word (c : Command) : asWord commandWords .noneOfChoices (.text c.word) = .ok c := by
  cases c <;> rfl

theorem ofDatumList_texts (ts : List String) :
    Value.ofDatumList (ts.map .text) = ts.map .text := by
  induction ts with
  | nil => rfl
  | cons t ts ih =>
    rw [List.map_cons, Value.ofDatumList, ih]
    rfl

/-- The path of an invocation that is said has names that can stand in a text. -/
theorem SaidBy.hasNames (h : SaidBy es i) {p : Path} (hp : i.config = some p) : p.HasNames := by
  have config := h.config
  rw [hp] at config
  cases config with
  | given _ hr => exact hasNames_of_asPath (orNothing_eq_some_iff.1 hr).2

/-- An invocation whose arguments start with a name, and whose path has names that can stand in a
text, is read again from its data. -/
theorem ofValue_value (named : StartWithName i.arguments)
    (path : ∀ p, i.config = some p → p.HasNames) : ofValue i.context.value = .ok i := by
  have texts : List.Forall₂ (fun v t => asText v = .ok t) (Value.ofDatumList (i.arguments.map .text))
      i.arguments := by
    rw [ofDatumList_texts, List.forall₂_map_left_iff]
    exact List.forall₂_same.2 fun _ _ => rfl
  refine ofValue_eq_ok_iff.2 ⟨_, rfl, ⟨_, rfl, asWord_word _⟩, ⟨_, _, rfl, rfl, texts⟩, named,
    .given rfl rfl, .given rfl ?_⟩
  cases hc : i.config with
  | none => rfl
  | some p => exact orNothing_eq_some_iff.2 ⟨by simp [Value.ofDatum], by
      show Except.ok (Path.ofString p.text) = _
      rw [Path.ofString_text (path p hc)]⟩

end Invocation

/-! ### Normal forms -/

/-- A value is accepted as a status, a configuration or an invocation just if it says it field by
field. The data of what is read keep the rules of the record, and are accepted as the same record
again. -/
theorem accepted_records_normal :
    (∀ v s, Status.ofValue v = .ok s ↔
      (∃ es, v = .map es ∧ Status.SaidBy es s) ∧ Status.KeepsRules s.context ∧
        Status.ofValue s.context.value = .ok s) ∧
    (∀ v c, Config.ofValue v = .ok c ↔
      (∃ es, v = .map es ∧ Config.SetBy es c ∧
          ∀ e ∈ es, ∃ name ∈ ["backend", "gpg_connect_agent", "open_retries"], e.1 = .text name) ∧
        Config.KeepsRules c.context ∧ Config.ofValue c.context.value = .ok c) ∧
    (∀ v i, Invocation.ofValue v = .ok i ↔
      (∃ es, v = .map es ∧ Invocation.SaidBy es i) ∧ Invocation.KeepsRules i.context ∧
        Invocation.ofValue i.context.value = .ok i) := by
  refine ⟨fun v s => ⟨fun hs => ?status, fun h => Status.ofValue_eq_ok_iff.2 h.1⟩,
    fun v c => ⟨fun hc => ?config, ?set⟩,
    fun v i => ⟨fun hi => ?invocation, fun h => Invocation.ofValue_eq_ok_iff.2 h.1⟩⟩
  case status =>
    exact ⟨Status.ofValue_eq_ok_iff.1 hs, Status.keepsRules s, Status.ofValue_value s⟩
  case config =>
    obtain ⟨es, rfl, set⟩ := Config.ofValue_eq_ok_iff.1 hc
    have attempts := set.one_le_attempts
    exact ⟨⟨es, rfl, set, set.names⟩, Config.keepsRules attempts, Config.ofValue_value attempts⟩
  case set =>
    rintro ⟨⟨es, rfl, set, -⟩, -⟩
    exact Config.ofValue_eq_ok_iff.2 ⟨es, rfl, set⟩
  case invocation =>
    obtain ⟨es, rfl, said⟩ := Invocation.ofValue_eq_ok_iff.1 hi
    exact ⟨⟨es, rfl, said⟩, Invocation.keepsRules said.named,
      Invocation.ofValue_value said.named fun _ => said.hasNames⟩

/-- Texts, truth values and a word for a status, with an unknown field. -/
def spelledStatus : Value := .map [
  (.text "sd_card_id", .text " +007.0"), (.text "firmware_version_major", .bool true),
  (.text "firmware_version_minor", .text "-12.000"), (.text "firmware_locked", .text "YES"),
  (.text "stored_keys", .int 0), (.text "user_retry_count", .bytes [0x30, 0x33]),
  (.text "admin_retry_count", .bool false), (.text "hidden_volume", .text "read-only"),
  (.int 5, .null)]

/-- A numeral with a fraction for the attempts, and no backend. -/
def spelledConfig : Value := .map [
  (.text "open_retries", .text " +2.0"), (.text "backend", .null),
  (.text "gpg_connect_agent", .bytes [0x67, 0x70, 0x67])]

/-- A set of arguments, and a path that is not the shortest. -/
def spelledInvocation : Value := .map [
  (.text "command", .text "open"), (.text "arguments", .set [.text " open", .bytes []]),
  (.text "verbose", .text "On"), (.text "config", .text "./a//b/")]

/-- The data that three records of other spellings come to are accepted again. -/
theorem accepted_records_normal_spelled :
    (∃ s, Status.ofValue spelledStatus = .ok s ∧ s = ⟨7, 1, -12, true, false, 3, 0, .inactive,
        .inactive, .readOnly⟩ ∧ Status.ofValue s.context.value = .ok s) ∧
      (∃ c, Config.ofValue spelledConfig = .ok c ∧ c = ⟨none, "gpg", 2⟩ ∧
        Config.ofValue c.context.value = .ok c) ∧
      ∃ i, Invocation.ofValue spelledInvocation = .ok i ∧
        i = ⟨.openVolume, [" open", ""], true, some ⟨.here, ["a", "b"]⟩⟩ ∧
        Invocation.ofValue i.context.value = .ok i :=
  ⟨⟨_, rfl, rfl, ((accepted_records_normal.1 spelledStatus _).1 rfl).2.2⟩,
    ⟨_, rfl, rfl, ((accepted_records_normal.2.1 spelledConfig _).1 rfl).2.2⟩,
    ⟨_, rfl, rfl, ((accepted_records_normal.2.2 spelledInvocation _).1 rfl).2.2⟩⟩

end StorageKey
