import StorageKey.Proofs.Session.Frame
import StorageKey.Proofs.Session.Respects

/-!
# A session over time

A session goes on while the world around it changes. It looks for its configuration until it finds
one, and never again: from then on its operations are those of a session that was given this
configuration, whatever has happened before.

* `Change`, `Turn`: what happens between operations, and what happens at all;
* `firstConfig?`: the configuration that is found first;
* `Seeking`, `Settled`: a session before it finds a configuration, and after;
* `Act.seeking_or_settled`: every session is the one or the other, by what it has found.
-/

namespace StorageKey

open Act

/-! ### Turns -/

/-- What happens between the operations of a session: anything, but the modules of backends stay. -/
structure Change where
  world : World → World
  logging : Logging → Logging
  modules : ∀ w, (world w).loadModule = w.loadModule

/-- A turn of a session and its surroundings. -/
inductive Turn
  | change (d : Change)
  | operation (o : Operation)

namespace Turn

/-- The state after a turn, however it ends. -/
def after : Turn → State → State
  | change d, s => { s with world := d.world s.world, logging := d.logging s.logging }
  | operation o, s => endState (perform o s)

/-- The configuration that is found in a turn of a session that looks for one. -/
def found? (given : Option Path) : Turn → State → Option Config
  | change _, _ => none
  | operation o, s =>
    match loadConfig given (s.begun o) with
    | .ok c _ => some c
    | .error _ _ => none

end Turn

/-- The state after turns. -/
def State.afterTurns (s : State) (ts : List Turn) : State := ts.foldl (fun s t => t.after s) s

/-- The configuration that is found first, if one is found. -/
def firstConfig? (given : Option Path) : List Turn → State → Option Config
  | [], _ => none
  | t :: ts, s =>
    match t.found? given s with
    | some c => some c
    | none => firstConfig? given ts (t.after s)

/-- A state whose session is given a configuration, and a path that it need not look at. -/
def State.given (s : State) (path : Option Path) (c : Config) : State :=
  { s with session := ⟨path, some c, none, none⟩ }

/-! ### Before and after a configuration is found -/

/-- A session that has not found a configuration. If it finds none, an operation fails with the
reason, and the session is as before; if it finds one, the operation is that of a session that was
given this configuration. -/
structure Seeking (path : Option Path) (s : State) : Prop where
  session : s.session = .fresh path
  fails : ∀ o f u, loadConfig path (s.begun o) = .error f u →
    perform o s = .error f u ∧ u.session = s.session
  finds : ∀ o c u, loadConfig path (s.begun o) = .ok c u →
    (endState (perform o s)).session.config = some c ∧
      ∀ q, SameEnd Alike (perform o s) (perform o (s.given q c))

/-- A session that has found a configuration. No operation looks at the path of the configuration,
even in its log entries; each is that of a session that was given the configuration; and the backend
is looked for again as long as it is not found. -/
structure Settled (c : Config) (s : State) : Prop where
  config : s.session.config = some c
  unread : ∀ o q, SameEnd DifferInPath (perform o s)
    (perform o { s with session := { s.session with configPath := q } })
  given : ∀ o q, SameEnd Alike (perform o s) (perform o (s.given q c))
  unreached : s.session.factory = none → ∀ f, s.world.backend c.backend = .error f →
    ∀ o, o ≠ .clearPassphrase → ∃ u, perform o s = .error f u ∧ u.session = s.session

namespace Act

variable {s t : State} {c : Config} {path : Option Path}

/-- A session that is given a configuration knows it. -/
theorem remembers_given (s : State) (path : Option Path) (c : Config) :
    Remembers c (s.given path c) :=
  ⟨rfl, fun _ h => (nomatch h), fun _ h => (nomatch h)⟩

/-- A session that remembers a configuration acts as one that is given it. -/
theorem proceed_given (h : Remembers c s) (ht : OnlyPrints s t) (o : Operation)
    (q : Option Path) : SameEnd Alike (proceed o s) (proceed o (t.given q c)) := by
  obtain ⟨err, rfl⟩ := ht
  have factory : factoryOf s c = factoryOf (State.given { s with err := err } q c) c := by
    show factoryOf s c = s.world.backend c.backend
    unfold factoryOf
    cases ha : s.session.factory with
    | none => rfl
    | some a => exact (h.factory a ha).symm
  have known : SameKnowledge c s.logging s.logging s (State.given { s with err := err } q c) :=
    ⟨⟨rfl, rfl, rfl⟩, h.config, rfl, h.agentOf_eq, rfl, rfl⟩
  refine (proceed_alike known factory (fun _ _ => Iff.rfl) o fun _ _ _ _ _ => rfl).mono ?_
  intro u v k
  exact k.toAlike

/-! ### Seeking -/

/-- Loading a configuration changes nothing but what is printed on the standard error output. -/
theorem onlyPrints_loadConfig (given : Option Path) (s : State) :
    OnlyPrints s (endState (loadConfig given s)) := by
  obtain ⟨u, hu, hp⟩ := loadConfig_apply given s
  rw [hu, endState_ended]
  exact hp

/-- A session that finds no configuration goes no further. -/
theorem proceed_of_load_error (h : s.session = .fresh path) {f : Failure}
    (hu : loadConfig path s = .error f t) (o : Operation) : proceed o s = .error f t := by
  have first : FindsConfig (proceed o) s := proceed_of_fresh (by rw [h]; rfl) (by rw [h]; rfl) o
  rw [first]
  refine bind_of_error ?_
  rw [sessionConfig_of_none (by rw [h]; rfl), h]
  exact bind_of_error hu

/-- A session that finds a configuration goes on as if it were given it. -/
theorem proceed_of_load_ok (h : s.session = .fresh path) (hu : loadConfig path s = .ok c t)
    (o : Operation) : proceed o s = proceed o (t.given path c) := by
  have first : FindsConfig (proceed o) s := proceed_of_fresh (by rw [h]; rfl) (by rw [h]; rfl) o
  have prints := onlyPrints_loadConfig path s
  rw [hu] at prints
  obtain ⟨err, rfl⟩ := prints
  have known : sessionConfig s = .ok c (State.given { s with err := err } path c) := by
    rw [sessionConfig_of_none (by rw [h]; rfl), h]
    refine (bind_of_ok hu).trans ?_
    show EStateM.Result.ok c { s with err, session := { s.session with config := some c } } = _
    rw [h]
    rfl
  rw [first]
  exact bind_of_ok known

/-- A fresh session fails as it finds no configuration that can be told, or goes on as if it were
given the one that it finds. -/
theorem proceed_fresh_cases (h : s.session = .fresh path) (o : Operation) :
    ∃ u, OnlyPrints s u ∧
      ((∃ f, s.logging.told (s.world.config path) = .error f ∧ proceed o s = .error f u) ∨
        ∃ c, s.logging.told (s.world.config path) = .ok c ∧
          proceed o s = proceed o (u.given path c)) := by
  obtain ⟨u, hu, hp⟩ := loadConfig_apply path s
  refine ⟨u, hp, ?_⟩
  cases ht : s.logging.told (s.world.config path) with
  | error f =>
    rw [ht] at hu
    exact .inl ⟨f, rfl, proceed_of_load_error h hu o⟩
  | ok c =>
    rw [ht] at hu
    exact .inr ⟨c, rfl, proceed_of_load_ok h hu o⟩

theorem seeking_of_fresh (h : s.session = .fresh path) : Seeking path s where
  session := h
  fails := by
    intro o f u hu
    refine ⟨(perform_apply o s).trans (proceed_of_load_error (s := s.begun o) h hu o), ?_⟩
    have prints := onlyPrints_loadConfig path (s.begun o)
    rw [hu] at prints
    obtain ⟨err, rfl⟩ := prints
    rfl
  finds := by
    intro o c u hu
    have prints := onlyPrints_loadConfig path (s.begun o)
    rw [hu] at prints
    obtain ⟨err, rfl⟩ := prints
    have run := (perform_apply o s).trans (proceed_of_load_ok (s := s.begun o) h hu o)
    rw [run]
    refine ⟨(remembers_proceed (remembers_given _ path c) o).config, fun q => ?_⟩
    rw [perform_apply]
    exact proceed_given (remembers_given _ path c) ⟨s.err, rfl⟩ o q

/-! ### Settled -/

/-- A session whose backend is not found goes no further, and is as before. -/
theorem connect_of_unreached (h : s.session.config = some c) (hf : s.session.factory = none)
    {f : Failure} (hb : s.world.backend c.backend = .error f) :
    ∃ u, connect s = .error f u ∧ OnlyPrints s u := by
  obtain ⟨u, hu, hp⟩ := loadBackend_apply c.backend s
  rw [hb] at hu
  refine ⟨u, bind_of_error ?_, hp⟩
  rw [sessionFactory_of_unknown hf, bind_of_ok (sessionConfig_of_some h)]
  exact bind_of_error hu

theorem proceed_of_connect_error {f : Failure} {u : State} (h : connect s = .error f u)
    {o : Operation} (ho : o ≠ .clearPassphrase) : proceed o s = .error f u := by
  cases o with
  | clearPassphrase => contradiction
  | _ => exact bind_of_error h

theorem settled_of_remembers (h : Remembers c s) : Settled c s where
  config := h.config
  unread := by
    intro o q
    refine respects_perform unread_differInPath o s _ ⟨?_, q, rfl⟩
    rw [h.config]
    exact Option.some_ne_none c
  given := by
    intro o q
    have begun : Remembers c (s.begun o) := ⟨h.config, h.factory, h.program⟩
    rw [perform_apply, perform_apply]
    exact proceed_given begun (OnlyPrints.refl _) o q
  unreached := by
    intro hf f hb o ho
    obtain ⟨u, hu, err, rfl⟩ := connect_of_unreached (s := s.begun o) h.config hf hb
    exact ⟨_, (perform_apply o s).trans (proceed_of_connect_error hu ho), rfl⟩

/-! ### Turns -/

/-- A turn does not lose what the session knows. -/
theorem remembers_after (h : Remembers c s) (t : Turn) : Remembers c (t.after s) := by
  cases t with
  | operation o => exact remembers_perform h o
  | change d =>
    refine ⟨h.config, fun a ha => ?_, h.program⟩
    rw [Turn.after, World.backend_congr (d.modules s.world)]
    exact h.factory a ha

theorem remembers_afterTurns (h : Remembers c s) (ts : List Turn) :
    Remembers c (s.afterTurns ts) := by
  induction ts generalizing s with
  | nil => exact h
  | cons t ts ih => exact ih (remembers_after h t)

/-- A turn in which no configuration is found leaves the session as it is. -/
theorem fresh_after (h : s.session = .fresh path) {t : Turn} (ht : t.found? path s = none) :
    (t.after s).session = .fresh path := by
  cases t with
  | change d => exact h
  | operation o =>
    rw [Turn.found?] at ht
    cases hu : loadConfig path (s.begun o) with
    | ok c u => simp [hu] at ht
    | error f u =>
      obtain ⟨run, same⟩ := (seeking_of_fresh h).fails o f u hu
      rw [Turn.after, run]
      exact same.trans h

/-- A session remembers the configuration that is found in a turn. -/
theorem remembers_of_found (h : s.session = .fresh path) {t : Turn}
    (ht : t.found? path s = some c) : Remembers c (t.after s) := by
  cases t with
  | change d => cases ht
  | operation o =>
    rw [Turn.found?] at ht
    cases hu : loadConfig path (s.begun o) with
    | error f u => simp [hu] at ht
    | ok d u =>
      obtain rfl : d = c := by simpa [hu] using ht
      rw [Turn.after, perform_apply, proceed_of_load_ok (s := s.begun o) h hu]
      exact remembers_proceed (remembers_given u path d) o

/-- After any turns a session is seeking if it has found no configuration, and else settled with the
one that it has found first. -/
theorem seeking_or_settled (path : Option Path) (ts : List Turn) (s : State) :
    match firstConfig? path ts { s with session := .fresh path } with
    | none => Seeking path (State.afterTurns { s with session := .fresh path } ts)
    | some c => Settled c (State.afterTurns { s with session := .fresh path } ts) := by
  generalize hs : ({ s with session := .fresh path } : State) = u
  have fresh : u.session = .fresh path := by rw [← hs]
  clear hs
  induction ts generalizing u with
  | nil => exact seeking_of_fresh fresh
  | cons t ts ih =>
    rw [firstConfig?]
    cases ht : t.found? path u with
    | some c => exact settled_of_remembers (remembers_afterTurns (remembers_of_found fresh ht) ts)
    | none => exact ih (t.after u) (fresh_after fresh ht)

end Act

end StorageKey
