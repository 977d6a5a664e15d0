import StorageKey.Proofs.Session.Alike

/-!
# Failures that are not of logging

Besides the entries that cannot be printed nothing fails for the sake of logging: what is read, the
agent program and the key have failures of their own.

* `Unlogged`: results that are no failure of logging;
* `Act.noLogFault_proceed`: operations whose entries can be printed.
-/

namespace StorageKey

open Yaml

/-- A result that is no failure of logging. -/
def Unlogged {α : Type} (r : Except Failure α) : Prop := ∀ e, r ≠ .error (.log e)

section

variable {α β ε : Type}

theorem unlogged_ok (a : α) : Unlogged (.ok a : Except Failure α) := by
  intro e h
  cases h

theorem unlogged_error {f : Failure} (h : ∀ e, f ≠ .log e) :
    Unlogged (.error f : Except Failure α) := by
  intro e he
  cases he
  exact h e rfl

theorem Unlogged.bind {r : Except Failure α} {f : α → Except Failure β} (h : Unlogged r)
    (hf : ∀ a, Unlogged (f a)) : Unlogged (r >>= f) := by
  cases r with
  | ok a => exact hf a
  | error g => exact unlogged_error fun e he => h e (congrArg _ he)

theorem Unlogged.ite {c : Prop} [Decidable c] {r r' : Except Failure α} (h : Unlogged r)
    (h' : Unlogged r') : Unlogged (if c then r else r') := by
  split
  · exact h
  · exact h'

theorem unlogged_mapError {g : ε → Failure} (h : ∀ x e, g x ≠ .log e) (r : Except ε α) :
    Unlogged (r.mapError g) := by
  cases r with
  | ok a => exact unlogged_ok a
  | error x => exact unlogged_error (h x)

theorem unlogged_unlessRaised (e : Option Raised) : Unlogged (unlessRaised e) := by
  cases e with
  | none => exact unlogged_ok ()
  | some e => exact unlogged_error nofun

end

/-! ### The world -/

namespace World

variable (w : World)

theorem documentFailure_ne_log (path : String) (f : Fault) (e : LogFault) :
    documentFailure path f ≠ .log e := by
  cases f <;> nofun

theorem unlogged_documentAt (path : String) : Unlogged (w.documentAt path) :=
  (unlogged_mapError nofun _).bind fun _ => unlogged_mapError (documentFailure_ne_log path) _

theorem unlogged_entriesAt (path : String) : Unlogged (w.entriesAt path) := by
  refine (w.unlogged_documentAt path).bind fun d => ?_
  split
  · exact unlogged_ok _
  · exact unlogged_error nofun

theorem unlogged_configAt (path : String) : Unlogged (w.configAt path) :=
  (w.unlogged_entriesAt path).bind fun _ => unlogged_mapError nofun _

theorem unlogged_configSource (given : Option Path) : Unlogged (w.configSource given) := by
  have home : Unlogged w.home := by
    unfold World.home
    split
    · exact unlogged_error nofun
    · simp only
      split
      · exact unlogged_ok _
      · exact unlogged_error nofun
      · exact unlogged_ok _
  unfold World.configSource
  split
  · exact unlogged_ok _
  · exact unlogged_ok _
  · unfold World.ownConfigPath World.configHome
    split
    · exact unlogged_ok _
    · cases hh : w.home with
      | ok p => exact unlogged_ok _
      | error f => exact unlogged_error fun e he => home e (hh.trans (congrArg _ he))

theorem unlogged_config (given : Option Path) : Unlogged (w.config given) := by
  refine (w.unlogged_configSource given).bind fun source => ?_
  refine (unlogged_mapError nofun _).bind fun found => ?_
  exact .ite (w.unlogged_configAt _) (.ite (unlogged_error nofun) (unlogged_ok _))

theorem unlogged_backend (spec : Option String) : Unlogged (w.backend spec) := by
  unfold World.backend
  simp only
  refine .ite (unlogged_error nofun) ?_
  split
  · exact unlogged_error nofun
  · refine .ite (unlogged_error nofun) ?_
    split
    · split <;> exact unlogged_error nofun
    · split
      · exact unlogged_error nofun
      · exact unlogged_error nofun
      · exact .ite (unlogged_ok _) (unlogged_error nofun)

theorem unlogged_answer (program : String) : Unlogged (w.answer program) := by
  refine (unlogged_mapError nofun _).bind fun out => (unlogged_mapError nofun _).bind fun err => ?_
  exact .ite (unlogged_ok _) (unlogged_error nofun)

theorem unlogged_passphrase (program : String) : Unlogged (w.passphrase program) :=
  (w.unlogged_answer program).bind fun _ => (unlogged_mapError nofun _).bind fun _ => unlogged_ok _

theorem unlogged_clearance (program : String) : Unlogged (w.clearance program) :=
  (w.unlogged_answer program).bind fun _ => unlogged_mapError nofun _

theorem startFault?_ne_log (program : String) (e : LogFault) :
    w.startFault? program ≠ some (.log e) := by
  unfold World.startFault?
  split
  · simp
  · split <;> simp

end World

theorem Device.unlogged_answer (d : Device) : Unlogged d.answer :=
  (unlogged_unlessRaised _).bind fun _ => unlogged_mapError nofun _

/-! ### Attempts -/

theorem Tries.unlogged {program : String} {w w' : World} {a : Attempt} (h : Tries program w a w') :
    Unlogged a.ending := by
  cases h with
  | unasked hs => exact unlogged_error fun e he => w.startFault?_ne_log program e (he ▸ hs)
  | unanswered hs hp => exact unlogged_error fun e he => w.unlogged_passphrase program e (he ▸ hp)
  | opened => exact unlogged_ok ()
  | failed => exact unlogged_error nofun
  | uncleared hs hp hu he hc =>
    exact unlogged_error fun e hf => World.unlogged_clearance _ program e (hf ▸ hc)
  | rejected => exact unlogged_error nofun

/-- Attempts whose warnings can be shown end without a failure of logging. -/
theorem Attempts.unlogged {program : String} {l : Logging} {more : Nat} {w w' : World}
    {as : List Attempt} (h : Attempts program l more w as w') {b : Attempt}
    (hb : as.getLast? = some b) (hw : ∀ left, left ≤ more → CanWarn l left) :
    Unlogged (b.endingWith (more + 1 - as.length)) := by
  induction h with
  | @last more w w' a ht hl =>
    cases hb
    cases a with
    | rejected p e =>
      have none : more = 0 := (hl rfl).resolve_right fun hn => hn (hw more (Nat.le_refl more))
      subst none
      exact unlogged_error nofun
    | _ => exact ht.unlogged
  | @next more w w' w'' p e as ht hc hr ih =>
    have pos := hr.length_pos
    rw [List.length_cons, Nat.add_sub_add_right]
    refine ih ?_ fun left hl => hw left (by omega)
    cases as with
    | nil => simp at pos
    | cons a as => exact hb

/-! ### Operations -/

namespace Act

variable {c : Config} {s : State}

/-- An end of an action that is no failure of logging. -/
def NoLogFault {α : Type} (r : EStateM.Result Failure State α) : Prop :=
  ∀ e t, r ≠ .error (.log e) t

theorem noLogFault_of_ok {α : Type} {r : EStateM.Result Failure State α} {a : α} {t : State}
    (h : r = .ok a t) : NoLogFault r := by
  subst h
  intro e u h
  cases h

theorem noLogFault_ended {α : Type} {r : Except Failure α} (h : Unlogged r) (t : State) :
    NoLogFault (ended r t) := by
  cases r with
  | ok a => exact noLogFault_of_ok rfl
  | error f =>
    intro e u he
    cases he
    exact h e rfl

theorem NoLogFault.bind {α β : Type} {x : Act α} {f : α → Act β} (h : NoLogFault (x s))
    (hf : ∀ a t, x s = .ok a t → NoLogFault (f a t)) : NoLogFault ((x >>= f) s) := by
  cases hx : x s with
  | ok a t =>
    rw [bind_of_ok hx]
    exact hf a t hx
  | error g t =>
    rw [hx] at h
    rw [bind_of_error hx]
    intro e u he
    cases he
    exact h e _ rfl

theorem noLogFault_log {level : Level} {event : String} (h : Showable level event = true)
    {d : Context} (hd : d.Writable) (s : State) : NoLogFault (log level event d s) :=
  noLogFault_of_ok (log_apply h hd s)

theorem noLogFault_connect (h : s.session.config = some c) : NoLogFault (connect s) := by
  cases hf : factoryOf s c with
  | error f =>
    obtain ⟨u, hu, -⟩ := connect_of_error h hf
    have backend : Unlogged (.error f : Except Failure Attribute) := by
      rw [← hf]
      unfold factoryOf
      split
      · exact unlogged_ok _
      · exact s.world.unlogged_backend _
    rw [hu]
    exact noLogFault_ended (α := Unit) (unlogged_error fun e he => backend e (congrArg _ he)) u
  | ok a =>
    obtain ⟨u, hu, -⟩ := connect_of_ok h hf
    rw [hu]
    exact noLogFault_ended (unlogged_unlessRaised _) u

/-- An operation of a session that knows its configuration does not fail for the sake of logging, if
the warnings about rejections and the status that the key answers can be printed. -/
theorem noLogFault_proceed (h : s.session.config = some c)
    (hw : ∀ left, left ≤ c.attempts → CanWarn s.logging left) (o : Operation)
    (ht : o = .showStatus → ∀ u, connect s = .ok () u → ∀ status,
      s.world.device.answer = .ok status → s.logging.canTell (.map status.context) = true) :
    NoLogFault (proceed o s) := by
  cases o with
  | showStatus =>
    refine (noLogFault_connect h).bind fun _ u hu => ?_
    obtain ⟨es, hr⟩ := reaches_of_connect h hu
    refine NoLogFault.bind ?_ fun status v hv => ?_
    · rw [deviceStatus_apply]
      exact noLogFault_ended u.world.device.unlogged_answer _
    rw [deviceStatus_apply] at hv
    obtain ⟨answer, rfl⟩ := eq_of_ended hv
    have printable : u.logging.canPrint .debug "status_received" (statusContext status) = true := by
      rw [canPrint_status, hr.logging]
      exact ht rfl u hu status (hr.world ▸ answer)
    refine NoLogFault.bind ?_ fun _ v _ => ?_
    · exact noLogFault_of_ok (log_of_canPrint (by decide +kernel) printable)
    · cases status.text with
      | ok text => exact noLogFault_of_ok rfl
      | error f =>
        have other : Unlogged (.error (.integer f) : Except Failure Unit) := unlogged_error nofun
        exact noLogFault_ended other v
  | openVolume =>
    refine (noLogFault_connect h).bind fun _ u hu => ?_
    obtain ⟨es, hr⟩ := reaches_of_connect h hu
    have known := hr.config.trans h
    rw [bind_of_ok (sessionConfig_of_some known)]
    obtain ⟨as, b, w, v, hs, hb, -, run⟩ := unlockAttempts_cases (c.attempts - 1) known
    rw [run]
    refine noLogFault_ended (hs.unlogged hb fun left hl => ?_) v
    rw [hr.logging]
    exact hw left (by omega)
  | closeVolume =>
    refine (noLogFault_connect h).bind fun _ u hu => NoLogFault.bind ?_ fun _ v _ =>
      noLogFault_log (by decide +kernel) Context.writable_nil v
    rw [lock_apply]
    exact noLogFault_ended (unlogged_unlessRaised _) _
  | clearPassphrase =>
    show NoLogFault ((sessionAgent >>= clearPassphrase) s)
    cases hs : s.world.startFault? (agentOf s c) with
    | some f =>
      obtain ⟨u, hu, -⟩ := clear_of_fault h hs
      rw [hu]
      intro e t he
      cases he
      exact s.world.startFault?_ne_log _ e hs
    | none =>
      obtain ⟨u, hu, -⟩ := clear_of_start h hs
      rw [hu]
      exact noLogFault_ended (s.world.unlogged_clearance _) u

end Act

end StorageKey
