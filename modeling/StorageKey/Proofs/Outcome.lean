import StorageKey.Proofs.Secrecy
import StorageKey.Proofs.Session.Warnings

/-!
# What a command line prints, and the code that it returns

A command line that returns a code has printed one thing on the standard output, or nothing: the
help of its command, or the status that the key answers. The code is one just if the command fails
with an error that is reported, and the error is then the last thing printed.

* `Command.IsHelp`, `World.ShowsStatus`: the texts of help and status;
* `Connected`, `Opened`: what a fresh session does until it is connected, and to open the volume;
* `Handled`: what carrying out an invocation comes to;
* `Act.runProgram_returned`: whole command lines.
-/

namespace StorageKey

open Usage

/-! ### The texts on the standard output -/

/-- Whether a text is the help of a command. -/
def Command.IsHelp (c : Command) (text : String) : Prop :=
  (helpParser Unit (programName ++ " " ++ c.word) c.description).help = .ok text

/-- Whether a text shows the status that the key answers. -/
def World.ShowsStatus (w : World) (text : String) : Prop :=
  ∃ status shown, w.device.answer = .ok status ∧ status.text = .ok shown ∧
    text = String.ofList shown

theorem Command.IsHelp.head? {c : Command} {text : String} (h : c.IsHelp text) :
    text.toList.head? = some 'u' :=
  Parser.head?_help h

theorem Status.head?_text {status : Status} {shown : List Char} (h : status.text = .ok shown) :
    shown.head? = some 'S' := by
  obtain ⟨version, -, h⟩ := exists_of_except_bind h
  obtain ⟨user, -, h⟩ := exists_of_except_bind h
  obtain ⟨admin, -, h⟩ := exists_of_except_bind h
  cases h
  rfl

theorem World.ShowsStatus.head? {w : World} {text : String} (h : w.ShowsStatus text) :
    text.toList.head? = some 'S' := by
  obtain ⟨status, shown, -, hs, rfl⟩ := h
  rw [String.toList_ofList]
  exact Status.head?_text hs

theorem Command.not_isHelp_empty (c : Command) : ¬c.IsHelp "" := by
  intro h
  cases h.head?

theorem World.not_showsStatus_empty (w : World) : ¬w.ShowsStatus "" := by
  intro h
  cases h.head?

/-- A help text shows no status. -/
theorem Command.IsHelp.not_showsStatus {c : Command} {text : String} (h : c.IsHelp text)
    (w : World) : ¬w.ShowsStatus text := by
  intro hs
  have first : some 'u' = some 'S' := h.head?.symm.trans hs.head?
  revert first
  decide

/-! ### What actions print -/

/-- What is printed on either output between two states. -/
structure Prints (s t : State) (out err : String) : Prop where
  out : t.out = s.out ++ out
  err : t.err = s.err ++ err

/-- Discreet steps print nothing but entries, and none if these are not shown. -/
theorem Keeps.prints {level : Level} {s t : State} (h : Keeps level s t) :
    ∃ err, Prints s t "" err ∧ (s.logging.shows level = false → err = "") := by
  obtain ⟨err, he, quiet⟩ := h.err
  exact ⟨err, ⟨by rw [h.out, String.append_empty], he⟩, quiet⟩

/-- An operation prints after the entry about the invocation. -/
theorem Prints.of_operationStart {i : Invocation} {s t : State} {out err : String}
    (h : Prints (Act.operationStart i s) t out err) :
    Prints s t out (Act.dispatchLog i ++ err) where
  out := h.out
  err := h.err.trans String.append_assoc

/-! ### Fresh sessions -/

/-- A fresh session that is connected: it has found the configuration of the world and the way to
reach the key, and has called it. -/
structure Connected (path : Option Path) (s t : State) (c : Config) : Prop where
  config : s.world.config path = .ok c
  known : t.session.config = some c
  program : Act.agentOf t c = c.agentProgram
  world : t.world = s.world
  logging : t.logging = s.logging
  called : ∃ a, s.world.backend c.backend = .ok a ∧ t.events = s.events ++ a.callEvents

/-- A session without verbose output has opened the volume, after attempts that were rejected. -/
structure Opened (path : Option Path) (s t : State) (c : Config) (rejected : List Attempt) :
    Prop where
  config : s.world.config path = .ok c
  rejections : ∀ a ∈ rejected, a.isRejected = true
  attempts : ∃ p, Attempts c.agentProgram (.ofVerbose false) (c.attempts - 1) s.world
    (rejected ++ [.opened p]) t.world ∧ ∃ a, s.world.backend c.backend = .ok a ∧
      t.events = s.events ++ a.callEvents ++ (rejected ++ [Attempt.opened p]).flatMap Attempt.events

namespace Act

variable {path : Option Path} {s t u : State} {c : Config}

/-- A fresh session finds the configuration of the world. -/
theorem config_of_fresh (h : s.session = .fresh path) (hc : sessionConfig s = .ok c t) :
    s.world.config path = .ok c := by
  rw [sessionConfig_of_none (by rw [h]; rfl), h] at hc
  obtain ⟨d, u, hd, hc⟩ := exists_of_bind_ok hc
  obtain rfl : d = c := by
    injection hc
  obtain ⟨v, hv, -⟩ := loadConfig_apply path s
  have told := eq_of_ended (hv.symm.trans hd)
  exact (Logging.eq_ok_of_told told.1).1

theorem connected_of_connect (h : s.session = .fresh path) (hc : connect s = .ok () t) :
    ∃ c, Connected path s t c := by
  -- The session finds its configuration first, so it connects as one that knows it.
  have first : FindsConfig connect s := findsConfig_connect (by rw [h]; rfl)
  rw [first] at hc
  obtain ⟨c, u, hu, hc⟩ := exists_of_bind_ok hc
  have found := config_of_fresh h hu
  have known := config_of_sessionConfig hu
  obtain ⟨err, ht⟩ := eq_of_sessionConfig hu
  have program : agentOf u c = c.agentProgram := by
    rw [ht, agentOf, h]
    rfl
  have factory : factoryOf u c = s.world.backend c.backend := by
    rw [ht, factoryOf, h]
    rfl
  have events : u.events = s.events := by rw [ht]
  have world : u.world = s.world := by rw [ht]
  have logging : u.logging = s.logging := by rw [ht]
  refine ⟨c, ?_⟩
  cases hb : s.world.backend c.backend with
  | error f =>
    obtain ⟨v, hv, -⟩ := connect_of_error known (factory.trans hb)
    rw [hv] at hc
    cases hc
  | ok a =>
    obtain ⟨v, hv, hr⟩ := connect_of_ok known (factory.trans hb)
    rw [hv] at hc
    obtain ⟨-, rfl⟩ := eq_of_ended hc
    exact ⟨found, hr.config.trans known, (hr.program c known).trans program, hr.world.trans world,
      hr.logging.trans logging, a, hb, by rw [hr.events, events]⟩

/-- What is shown is the status that the key answers. -/
theorem showsStatus_of_readStatus (h : s.session = .fresh path) {shown : List Char}
    (hr : readStatus s = .ok shown u) : s.world.ShowsStatus (String.ofList shown) := by
  obtain ⟨_, s₁, h₁, hr⟩ := exists_of_bind_ok hr
  obtain ⟨status, s₂, h₂, hr⟩ := exists_of_bind_ok hr
  obtain ⟨_, s₃, h₃, hr⟩ := exists_of_bind_ok hr
  obtain ⟨c, connected⟩ := connected_of_connect h h₁
  rw [deviceStatus_apply, connected.world] at h₂
  refine ⟨status, shown, (eq_of_ended h₂).1, ?_, rfl⟩
  cases ht : status.text with
  | error f =>
    rw [ht] at hr
    cases hr
  | ok text =>
    rw [ht] at hr
    cases hr
    rfl

/-! ### Operations -/

/-- All operations but showing the status print nothing but entries, and for opening the volume
these may be warnings. -/
theorem perform_prints {o : Operation} (ho : o ≠ .showStatus) (s : State) :
    ∃ err, Prints s (endState (perform o s)) "" err ∧
      (o ≠ .openVolume → s.logging.shows .info = false → err = "") := by
  rw [perform_apply]
  -- Warnings are louder than all other entries, so only opening the volume needs their level.
  by_cases hv : o = .openVolume
  · have kept : Keeps .warning (s.begun o) (endState (proceed o (s.begun o))) :=
      discreet_proceed (by decide) ho (fun _ => Nat.le_refl _) _
    obtain ⟨err, hp, -⟩ := kept.prints
    exact ⟨err, ⟨hp.out, hp.err⟩, fun h => absurd hv h⟩
  · have kept : Keeps .info (s.begun o) (endState (proceed o (s.begun o))) :=
      discreet_proceed (Nat.le_refl _) ho (fun h => absurd h hv) _
    obtain ⟨err, hp, quiet⟩ := kept.prints
    exact ⟨err, ⟨hp.out, hp.err⟩, fun _ => quiet⟩

/-- Showing the status prints it if it ends well, and entries for debugging in any case. -/
theorem showStatus_prints (h : s.session = .fresh path) :
    ∃ out err, Prints s (endState (showStatus s)) out err ∧
      (s.logging.shows .debug = false → err = "") ∧
      ((∃ f u, showStatus s = .error f u ∧ out = "") ∨
        ∃ u, showStatus s = .ok () u ∧ s.world.ShowsStatus out) := by
  have kept : Keeps .debug s (endState (readStatus s)) := discreet_readStatus s
  obtain ⟨err, hp, quiet⟩ := kept.prints
  rw [showStatus_eq]
  cases hr : readStatus s with
  | error f u =>
    rw [hr] at hp
    rw [bind_of_error hr]
    exact ⟨"", err, hp, quiet, .inl ⟨f, u, rfl, rfl⟩⟩
  | ok shown u =>
    rw [hr] at hp
    rw [bind_of_ok hr]
    refine ⟨String.ofList shown, err, ⟨?_, hp.err⟩, quiet,
      .inr ⟨_, rfl, showsStatus_of_readStatus h hr⟩⟩
    have same : u.out = s.out := hp.out.trans String.append_empty
    show u.out ++ String.ofList shown = s.out ++ String.ofList shown
    rw [same]

/-- A session without verbose output that opens the volume says nothing but how many attempts are
left after each rejection. -/
theorem openVolume_quiet (h : s.session = .fresh path) (hl : s.logging = .ofVerbose false)
    (run : openVolume s = .ok () u) :
    ∃ c rejected, Opened path s u c rejected ∧
      u.err = s.err ++ warnings c.attempts rejected.length := by
  obtain ⟨_, t, ht, run⟩ := exists_of_bind_ok run
  obtain ⟨c, connected⟩ := connected_of_connect h ht
  have err : t.err = s.err := by
    have kept : Keeps .info s (endState (connect s)) := discreet_connect s
    rw [ht] at kept
    exact kept.err_of_quiet (by rw [hl]; rfl)
  have logging := connected.logging.trans hl
  rw [bind_of_ok (sessionConfig_of_some connected.known)] at run
  obtain ⟨as, p, hs, rejections, hu, err'⟩ := unlockAttempts_opened logging connected.known run
  rw [connected.program, connected.world] at hs
  obtain ⟨a, ha, events⟩ := connected.called
  refine ⟨c, as, ⟨connected.config, rejections, p, hs, a, ha, ?_⟩, ?_⟩
  · rw [hu.events, events]
  · have fewer : as.length ≤ c.attempts - 1 := by
      have := hs.length_le
      rw [List.length_append, List.length_singleton] at this
      omega
    rw [err', err, warnings_sub_add fewer]

end Act

/-! ### Invocations -/

theorem Command.operation_injective : Function.Injective Command.operation := by
  intro c d h
  cases c <;> cases d <;> first | rfl | cases h

/-- What carrying out an invocation comes to, by the arguments of its command: it fails, prints the
help, or performs the operation of the command. -/
inductive Handled (i : Invocation) (tail : List String) (s : State) :
    EStateM.Result Failure State (Option Unit) → Prop
  | failed {f : Failure} {u : State} {err : String} (h : Prints s u "" err) :
      Handled i tail s (.error f u)
  | helped {u : State} {out err : String} (ht : tail ≠ []) (h : Prints s u out err)
      (help : i.command.IsHelp out) (quiet : i.verbose = false → err = "") :
      Handled i tail s (.ok none u)
  | performed {u : State} {out err : String} (ht : tail = []) (h : Prints s u out err)
      (status : i.command = .showStatus → s.world.ShowsStatus out)
      (nothing : i.command ≠ .showStatus → out = "")
      (quiet : i.verbose = false → i.command ≠ .openVolume → err = "")
      (opened : i.verbose = false → i.command = .openVolume →
        ∃ c rejected, Opened i.config s u c rejected ∧
          err = warnings c.attempts rejected.length) :
      Handled i tail s (.ok (some ()) u)

namespace Act

variable {i : Invocation} {tail : List String} {s t : State} {code : Nat}

theorem dispatchLog_quiet (hv : i.verbose = false) : dispatchLog i = "" := by
  rw [dispatchLog, hv]
  rfl

theorem dispatchLog_append (hv : i.verbose = false) (err : String) :
    dispatchLog i ++ err = err := by
  rw [dispatchLog_quiet hv, String.empty_append]

theorem handled_showStatus (hc : i.command = .showStatus) (s : State) : Handled i [] s
    ((some <$> showStatus) (operationStart i s)) := by
  obtain ⟨out, err, hp, quiet, run⟩ := showStatus_prints (s := operationStart i s) rfl
  rw [map_eq_pure_bind]
  rcases run with ⟨f, u, run, rfl⟩ | ⟨u, run, shows⟩
  · rw [run] at hp
    rw [bind_of_error run]
    exact .failed hp.of_operationStart
  · rw [run] at hp
    rw [bind_of_ok run]
    refine .performed rfl hp.of_operationStart (fun _ => shows) (fun h => absurd hc h) ?_ ?_
    · intro hv _
      rw [dispatchLog_append hv]
      refine quiet ?_
      show (Logging.ofVerbose i.verbose).shows .debug = false
      rw [hv]
      rfl
    · intro _ h
      rw [hc] at h
      cases h

theorem handled_perform (hc : i.command ≠ .showStatus) (s : State) : Handled i [] s
    ((some <$> perform i.command.operation) (operationStart i s)) := by
  have other : i.command.operation ≠ .showStatus := fun h => hc (Command.operation_injective h)
  obtain ⟨err, hp, quiet⟩ := perform_prints other (operationStart i s)
  rw [map_eq_pure_bind]
  cases run : perform i.command.operation (operationStart i s) with
  | error f u =>
    rw [run] at hp
    rw [bind_of_error run]
    exact .failed hp.of_operationStart
  | ok _ u =>
    rw [run] at hp
    rw [bind_of_ok run]
    refine .performed rfl hp.of_operationStart (fun h => absurd h hc) (fun _ => rfl) ?_ ?_
    · intro hv ho
      rw [dispatchLog_append hv]
      refine quiet (fun h => ho (Command.operation_injective h)) ?_
      show (Logging.ofVerbose i.verbose).shows .info = false
      rw [hv]
      rfl
    · intro hv ho
      rw [ho] at run
      obtain ⟨c, rejected, opened, he⟩ :=
        openVolume_quiet (s := operationStart i s) rfl (congrArg Logging.ofVerbose hv) run
      refine ⟨c, rejected, ⟨opened.config, opened.rejections, opened.attempts⟩, ?_⟩
      -- Both say what stands behind the same text.
      rw [dispatchLog_append hv]
      exact (String.append_right_inj _).1 (hp.err.symm.trans he)

theorem handled_dispatch (ha : i.arguments = (programName ++ " " ++ i.command.word) :: tail)
    (s : State) : Handled i tail s (dispatch Act.perform i (startOf i s)) := by
  by_cases ht : tail = []
  · subst ht
    rw [dispatch_of_name ha]
    by_cases hc : i.command = .showStatus
    · rw [hc]
      exact handled_showStatus hc s
    · exact handled_perform hc s
  · rw [dispatch_apply, ha]
    rcases execute_of_tail Act.perform i.command _ ht with ⟨help, hh, run⟩ | ⟨e, run⟩
    · rw [run]
      refine .helped ht ⟨rfl, String.append_assoc⟩ hh fun hv => ?_
      show dispatchLog i ++ (Logging.ofVerbose i.verbose).printed .debug "help_shown" [] = ""
      rw [dispatchLog_quiet hv, hv]
      rfl
    · rw [run]
      exact .failed ⟨String.append_empty.symm, String.append_assoc⟩

/-- An invocation that returns a code has been carried out, or has failed with an error that is
reported last. -/
theorem runInvocation_cases (h : runInvocation i s = .ok code t) :
    (code = 0 ∧ ∃ a, dispatch Act.perform i (startOf i s) = .ok a t) ∨
      (code = 1 ∧ ∃ f u before, dispatch Act.perform i (startOf i s) = .error f u ∧
        f.kind?.isSome = true ∧ Prints u t "" (before ++ ("Error: " ++ f.message ++ "\n"))) := by
  cases hd : dispatch Act.perform i (startOf i s) with
  | ok a u =>
    rw [runInvocation_of_ok hd] at h
    cases h
    exact .inl ⟨rfl, a, rfl⟩
  | error f u =>
    rw [runInvocation_of_error hd] at h
    cases hk : f.kind? with
    | none =>
      rw [report_of_none hk] at h
      cases h
    | some k =>
      rw [report_of_some hk] at h
      cases h
      exact .inr ⟨rfl, f, u, _, rfl, Option.isSome_iff_exists.2 ⟨k, hk⟩, String.append_empty.symm,
        String.append_assoc⟩

end Act

/-! ### Reports -/

/-- The standard output of an invocation that returns a code: the help just if its command has
arguments and succeeds, the status that the key answers just if the command shows it and succeeds,
and nothing just if neither. -/
structure ShowsOne (i : Invocation) (tail : List String) (w : World) (code : Nat) (out : String) :
    Prop where
  help : i.command.IsHelp out ↔ tail ≠ [] ∧ code = 0
  status : w.ShowsStatus out ↔ i.command = .showStatus ∧ tail = [] ∧ code = 0
  nothing : out = "" ↔ ¬i.command.IsHelp out ∧ ¬w.ShowsStatus out

/-- What an invocation that returns a code prints. The code is one just if the invocation fails with
an error that is reported, and the error ends the standard error output. -/
structure Reported (i : Invocation) (tail : List String) (s t : State) (code : Nat)
    (out err : String) : Prop extends ShowsOne i tail s.world code out where
  zero_or_one : code = 0 ∨ code = 1
  failed : code = 1 ↔ ∃ f u, Act.dispatch Act.perform i (Act.startOf i s) = .error f u ∧
    f.kind?.isSome = true
  told : ∀ f u, Act.dispatch Act.perform i (Act.startOf i s) = .error f u →
    out = "" ∧ ∃ before, err = before ++ ("Error: " ++ f.message ++ "\n")
  quiet : i.verbose = false → code = 0 → i.command ≠ .openVolume ∨ tail ≠ [] → err = ""
  warned : i.verbose = false → code = 0 → i.command = .openVolume → tail = [] →
    ∃ c rejected, Opened i.config s t c rejected ∧ err = warnings c.attempts rejected.length

section

variable {i : Invocation} {tail : List String} {w : World} {s t : State} {code : Nat}
  {out err : String}

theorem showsOne_of_isHelp (h : i.command.IsHelp out) (ht : tail ≠ []) :
    ShowsOne i tail w 0 out where
  help := iff_of_true h ⟨ht, rfl⟩
  status := iff_of_false (h.not_showsStatus w) fun hs => ht hs.2.1
  nothing := by
    refine iff_of_false ?_ fun hn => hn.1 h
    rintro rfl
    exact i.command.not_isHelp_empty h

theorem showsOne_of_showsStatus (h : w.ShowsStatus out) (hc : i.command = .showStatus) :
    ShowsOne i [] w 0 out where
  help := iff_of_false (fun hh => hh.not_showsStatus w h) fun ht => ht.1 rfl
  status := iff_of_true h ⟨hc, rfl, rfl⟩
  nothing := by
    refine iff_of_false ?_ fun hn => hn.2 h
    rintro rfl
    exact w.not_showsStatus_empty h

theorem showsOne_empty (hh : ¬(tail ≠ [] ∧ code = 0))
    (hs : ¬(i.command = .showStatus ∧ tail = [] ∧ code = 0)) : ShowsOne i tail w code "" where
  help := iff_of_false i.command.not_isHelp_empty hh
  status := iff_of_false w.not_showsStatus_empty hs
  nothing := iff_of_true rfl ⟨i.command.not_isHelp_empty, w.not_showsStatus_empty⟩

/-- An invocation that is carried out returns zero. -/
theorem reported_of_ok {a : Option Unit}
    (hd : Act.dispatch Act.perform i (Act.startOf i s) = .ok a t)
    (h : ShowsOne i tail s.world 0 out)
    (quiet : i.verbose = false → i.command ≠ .openVolume ∨ tail ≠ [] → err = "")
    (warned : i.verbose = false → i.command = .openVolume → tail = [] →
      ∃ c rejected, Opened i.config s t c rejected ∧ err = warnings c.attempts rejected.length) :
    Reported i tail s t 0 out err where
  toShowsOne := h
  zero_or_one := .inl rfl
  failed := by
    refine iff_of_false (by decide) ?_
    rintro ⟨f, u, hf, -⟩
    rw [hd] at hf
    cases hf
  told := by
    intro f u hf
    rw [hd] at hf
    cases hf
  quiet hv _ := quiet hv
  warned hv _ := warned hv

/-- An invocation that fails with an error that is reported returns one. -/
theorem reported_of_error {f : Failure} {u : State} {before : String}
    (hd : Act.dispatch Act.perform i (Act.startOf i s) = .error f u) (hk : f.kind?.isSome = true) :
    Reported i tail s t 1 "" (before ++ ("Error: " ++ f.message ++ "\n")) where
  toShowsOne := showsOne_empty (by simp) (by simp)
  zero_or_one := .inr rfl
  failed := iff_of_true rfl ⟨f, u, hd, hk⟩
  told := by
    intro g v hg
    rw [hd] at hg
    cases hg
    exact ⟨rfl, before, rfl⟩
  quiet := by
    intro _ h
    cases h
  warned := by
    intro _ h
    cases h

end

namespace Act

variable {i : Invocation} {tail : List String} {s t : State} {code : Nat}

theorem reported_of_handled (hr : Handled i tail s (dispatch Act.perform i (startOf i s)))
    (h : runInvocation i s = .ok code t) :
    ∃ out err, Prints s t out err ∧ Reported i tail s t code out err := by
  rcases runInvocation_cases h with ⟨rfl, a, hd⟩ | ⟨rfl, f, u, before, hd, hk, hp⟩
  · rw [hd] at hr
    cases hr with
    | @helped _ out err ht hp help quiet =>
      refine ⟨out, err, hp, reported_of_ok hd (showsOne_of_isHelp help ht) ?_ ?_⟩
      · exact fun hv _ => quiet hv
      · exact fun _ _ h => absurd h ht
    | @performed _ out err ht hp status nothing quiet opened =>
      subst ht
      refine ⟨out, err, hp, reported_of_ok hd ?_ ?_ ?_⟩
      · by_cases hc : i.command = .showStatus
        · exact showsOne_of_showsStatus (status hc) hc
        · obtain rfl := nothing hc
          exact showsOne_empty (fun h => h.1 rfl) fun h => hc h.1
      · exact fun hv h => quiet hv (h.resolve_right fun h => h rfl)
      · exact fun hv hc _ => opened hv hc
  · rw [hd] at hr
    cases hr with
    | @failed _ _ err hp' =>
      refine ⟨"", err ++ before ++ ("Error: " ++ f.message ++ "\n"), ⟨?_, ?_⟩,
        reported_of_error hd hk⟩
      · rw [hp.out, hp'.out, String.append_empty]
      · rw [hp.err, hp'.err]
        simp only [String.append_assoc]

/-- A command line that returns a code has printed on the standard output nothing, the help of its
command, or the status that the key answers. It returns one just if carrying out the command fails
with an error that is reported, and then that error ends the standard error output. Without verbose
output a command that succeeds says nothing there but how many attempts are left after each rejected
passphrase. -/
theorem runProgram_returned {args : List String}
    (h : runProgram args s = .ok (.returned code) t) :
    ∃ i out err, Invocation.parse args = .ok i ∧ Prints s t out err ∧
      Reported i (args.drop (commandIndex args + 1)) s t code out err := by
  cases hp : Invocation.parse args with
  | ok i =>
    rw [runProgram_of_invocation hp] at h
    obtain ⟨n, u, hr, h⟩ := exists_of_bind_ok h
    cases h
    obtain ⟨out, err, printed, reported⟩ :=
      reported_of_handled (handled_dispatch (arguments_of_parse hp) s) hr
    exact ⟨i, out, err, rfl, printed, reported⟩
  | error f =>
    obtain ⟨r, _, _, unreturned, -, run⟩ := runProgram_of_error hp
    rw [run] at h
    exact absurd (eq_of_ended h).1 (unreturned code)

/-- The code and the texts of a run that returns. -/
def textsOfReturn : EStateM.Result Failure State Ending → Option (Nat × String × String)
  | .ok (.returned code) t => some (code, t.out, t.err)
  | _ => none

/-- A volume that is opened with the second passphrase. -/
theorem runProgram_returned_guessedWorld :
    let args := ["-c", "c.yaml", "open"]
    let s := startIn (guessedWorld "0000" "1234")
    ∃ t, runProgram args s = .ok (.returned 0) t ∧
      (∃ i out err, Invocation.parse args = .ok i ∧ Prints s t out err ∧
        Reported i [] s t 0 out err) ∧
      t.out = "" ∧ t.err = "[WARNING] wrong_passphrase\n  retries_left: 2\n" := by
  intro args s
  have texts : textsOfReturn (runProgram args s) =
      some (0, "", "[WARNING] wrong_passphrase\n  retries_left: 2\n") := by decide +kernel
  cases run : runProgram args s with
  | error f t =>
    rw [run] at texts
    cases texts
  | ok ending t =>
    rw [run] at texts
    cases ending with
    | exited code => cases texts
    | returned code =>
      simp only [textsOfReturn, Option.some.injEq, Prod.mk.injEq] at texts
      obtain ⟨rfl, out, err⟩ := texts
      exact ⟨t, rfl, runProgram_returned run, out, err⟩

end Act

end StorageKey
