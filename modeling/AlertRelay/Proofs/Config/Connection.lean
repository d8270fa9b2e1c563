import AlertRelay.Proofs.Config.Broker

/-!
# The connection to the database

Settings are read, overridden, assigned and copied, and in between they are asked for the connection
to the database (`SettingsAct`, `Shelf`). The first time fixes the answer: the settings give it from
then on, and so do their copies, until they are read anew (`Shelf.dsn_fixed_once_asked`). An
environment that names no connection leaves what is configured; one whose secret document names the
empty text does not (`Shelf.dsn_emptied_by_secret`).
-/

namespace AlertRelay

/-- The settings with a connection put into them, or with none. -/
def ServiceConfig.withDsn (c : ServiceConfig) (dsn : Option Secret) : ServiceConfig :=
  { c with database := { c.database with dsn := dsn } }

/-- Whether the secret document of an environment names a connection. -/
def ServiceConfig.Supplies (env : Environment) (s : String) : Prop :=
  ∃ secret members, env "DB_SECRET_JSON" = some secret ∧
    Json.parse? secret = some (.object members) ∧ Json.member? "dsn" members = some (.text s)

/-- Whether an environment names no connection. -/
structure ServiceConfig.Silent (env : Environment) : Prop where
  empty : ∀ s, env "DATABASE_DSN" = some s → s = ""
  unsupplied : ∀ s, ¬ Supplies env s

/-- How settings are read: from a text, or as the service reads them when it starts. -/
inductive SettingsReading where
  | text (text : String)
  | startup (file : ServiceConfig.SettingsFile) (env : Environment)

/-- What is read. -/
def SettingsReading.result : SettingsReading → Except ConfigError ServiceConfig
  | text s => ServiceConfig.ofToml s
  | startup file env => ServiceConfig.load file env

/-- What is done with settings. They are numbered, and a copy takes the place of the settings that
had its number. -/
inductive SettingsAct where
  | read (id : Nat) (reading : SettingsReading)
  | override (id : Nat) (env : Environment)
  | assign (id : Nat) (dsn : Option Secret)
  | copy (source target : Nat)
  | ask (id : Nat)

/-- Settings by number. -/
structure Shelf where
  config : Nat → ServiceConfig

namespace Shelf

/-- Puts settings at a number. -/
def put (shelf : Shelf) (id : Nat) (c : ServiceConfig) : Shelf where
  config := fun i => if i = id then c else shelf.config i

/-- Puts settings that were read, if there are any. -/
def renew (shelf : Shelf) (id : Nat) : Except ConfigError ServiceConfig → Shelf
  | .ok c => shelf.put id c
  | .error _ => shelf

/-- What settings give when they are asked for the connection. -/
def dsn (shelf : Shelf) (id : Nat) : Secret := (shelf.config id).databaseDsn.1

/-- One act. -/
def act (shelf : Shelf) : SettingsAct → Shelf
  | .read id reading => shelf.renew id reading.result
  | .override id env => shelf.put id ((shelf.config id).applyEnvironment env)
  | .assign id dsn => shelf.put id ((shelf.config id).withDsn dsn)
  | .copy source target => shelf.put target (shelf.config source)
  | .ask id => shelf.put id (shelf.config id).databaseDsn.2

/-- The settings after some acts. -/
def after (shelf : Shelf) (acts : List SettingsAct) : Shelf := acts.foldl act shelf

end Shelf

namespace SettingsAct

/-- Whether an act reads the settings at a number anew. -/
def renews (id : Nat) : SettingsAct → Bool
  | read target reading => id = target && reading.result.isOk
  | _ => false

/-- Where the settings at a number were before an act, unless it read them anew. -/
def source? (id : Nat) : SettingsAct → Option Nat
  | copy source target => some (if id = target then source else id)
  | a => if a.renews id then none else some id

/-- Where the settings at a number were before some acts, unless they were read anew since. -/
def origin? (id : Nat) : List SettingsAct → Option Nat
  | [] => some id
  | a :: rest => (origin? id rest).bind fun later => a.source? later

/-- Whether something has been done to the settings at a number since they were read, to them or to
those that they were copied from. -/
def Met (does : Nat → SettingsAct → Prop) (id : Nat) : List SettingsAct → Prop
  | [] => False
  | a :: rest => Met does id rest ∨ ∃ later, origin? id rest = some later ∧ does later a

/-- Whether an act asks the settings at a number for the connection. -/
def Asks (id : Nat) (a : SettingsAct) : Prop := a = ask id

/-- Whether an act puts a connection into the settings at a number, or takes theirs out. -/
def Names (id : Nat) : SettingsAct → Prop
  | assign target _ => id = target
  | override target env => id = target ∧ ¬ ServiceConfig.Silent env
  | _ => False

end SettingsAct

/-! ## What the environment names -/

namespace ServiceConfig

variable {c : ServiceConfig} {env : Environment} {s : String}

/-- A secret names a connection just if it is an object with a text as its connection. -/
theorem dsnOfSecret?_eq_some {secret : String} :
    dsnOfSecret? secret = some s ↔ ∃ members, Json.parse? secret = some (.object members) ∧
      Json.member? "dsn" members = some (.text s) := by
  unfold dsnOfSecret?
  constructor
  · intro named
    split at named
    · next members parsed =>
      split at named
      · next found =>
        cases named
        exact ⟨members, parsed, found⟩
      · cases named
    · cases named
  · rintro ⟨members, parsed, found⟩
    simp only [parsed, found]

/-- An environment takes a connection from its secret document just if that supplies one. -/
theorem bind_dsnOfSecret?_eq_some :
    (env "DB_SECRET_JSON").bind dsnOfSecret? = some s ↔ Supplies env s := by
  simp only [Option.bind_eq_some_iff, dsnOfSecret?_eq_some, Supplies, exists_and_left]

/-- A text in `DATABASE_DSN` is the connection, whatever the secret document holds. -/
theorem dsn_applyEnvironment_of_text (set : env "DATABASE_DSN" = some s) (text : s ≠ "") :
    (c.applyEnvironment env).database.dsn = some ⟨s⟩ := by
  have named : (some s).filter (fun s => !s.isEmpty) = some s := by simpa using text
  simp [applyEnvironment, resolveDsn?, set, named]

/-- With nothing in `DATABASE_DSN`, the secret document decides. -/
theorem dsn_applyEnvironment_of_empty (empty : ∀ s, env "DATABASE_DSN" = some s → s = "") :
    (c.applyEnvironment env).database.dsn =
      (((env "DB_SECRET_JSON").bind dsnOfSecret?).map Secret.mk).or c.database.dsn := by
  have nothing : (env "DATABASE_DSN").filter (fun s => !s.isEmpty) = none := by
    simpa [Option.filter_eq_none_iff] using empty
  simp [applyEnvironment, resolveDsn?, nothing]

/-- Without a connection of its own, an environment gives the one that its secret document supplies.
-/
theorem dsn_applyEnvironment_of_supplies (empty : ∀ s, env "DATABASE_DSN" = some s → s = "")
    (supplies : Supplies env s) : (c.applyEnvironment env).database.dsn = some ⟨s⟩ := by
  rw [dsn_applyEnvironment_of_empty empty, bind_dsnOfSecret?_eq_some.mpr supplies]
  rfl

/-- An environment that names no connection leaves what is configured. -/
theorem dsn_applyEnvironment_of_silent (silent : Silent env) :
    (c.applyEnvironment env).database.dsn = c.database.dsn := by
  have nothing : (env "DB_SECRET_JSON").bind dsnOfSecret? = none :=
    Option.eq_none_iff_forall_ne_some.mpr fun s named =>
      silent.unsupplied s (bind_dsnOfSecret?_eq_some.mp named)
  rw [dsn_applyEnvironment_of_empty silent.empty, nothing]
  rfl

/-! ## What is fixed -/

/-- Settings that were decoded have not been asked for their connection. -/
theorem resolvedDsn_of_decoder {rules : DecodeRules} {d : Document}
    (read : decoder rules d = .ok c) : c.resolvedDsn = none := by
  obtain ⟨found, _, complete⟩ := Decoder.exists_of_record (fun _ => True)
    (fun _ _ _ _ _ _ _ _ => trivial) trivial read
  cases complete
  rfl

/-- Settings that were read from a text have not been asked for their connection. -/
theorem resolvedDsn_of_ofToml {text : String} (read : ofToml text = .ok c) :
    c.resolvedDsn = none := by
  obtain ⟨d, decoded⟩ := exists_of_ofToml read
  exact resolvedDsn_of_decoder decoded

/-- Settings that were loaded have not been asked for their connection. -/
theorem resolvedDsn_of_load {file : SettingsFile} (loaded : load file env = .ok c) :
    c.resolvedDsn = none := by
  obtain ⟨read, origin, rfl, _⟩ := exists_of_load loaded
  change read.resolvedDsn = none
  rcases origin with rfl | ⟨text, spelled⟩
  · rfl
  · exact resolvedDsn_of_ofToml spelled

/-- Settings that were asked for their connection give the same one again. -/
theorem databaseDsn_of_resolved {dsn : Secret} (resolved : c.resolvedDsn = some dsn) :
    c.databaseDsn.1 = dsn := by
  simp only [ServiceConfig.databaseDsn, resolved]

/-- Settings that were not asked before give the connection that is in them, or the standard one. -/
theorem databaseDsn_of_unresolved (unresolved : c.resolvedDsn = none) :
    c.databaseDsn.1 = c.database.dsn.getD standardDsn := by
  simp only [ServiceConfig.databaseDsn, unresolved]

/-- What is given is fixed. -/
theorem resolvedDsn_databaseDsn (c : ServiceConfig) :
    c.databaseDsn.2.resolvedDsn = some c.databaseDsn.1 := by
  cases resolved : c.resolvedDsn <;> simp only [ServiceConfig.databaseDsn, resolved]

/-- To ask for the connection does not change the one in the settings. -/
theorem database_databaseDsn (c : ServiceConfig) : c.databaseDsn.2.database = c.database := by
  cases resolved : c.resolvedDsn <;> simp only [ServiceConfig.databaseDsn, resolved]

end ServiceConfig

/-- However settings are read, they have not been asked for their connection. -/
theorem SettingsReading.resolvedDsn_of_result (reading : SettingsReading) {c : ServiceConfig}
    (read : reading.result = .ok c) : c.resolvedDsn = none := by
  cases reading with
  | text s => exact ServiceConfig.resolvedDsn_of_ofToml read
  | startup file env => exact ServiceConfig.resolvedDsn_of_load read

/-! ## Acts -/

namespace Shelf

open SettingsAct ServiceConfig

variable {shelf : Shelf} {id first : Nat} {acts : List SettingsAct}

theorem config_put_self (shelf : Shelf) (id : Nat) (c : ServiceConfig) :
    (shelf.put id c).config id = c := if_pos rfl

/-- Settings at a number are those that were put there, or what they were. -/
theorem put_cases (shelf : Shelf) (id target : Nat) (c : ServiceConfig) :
    id = target ∧ (shelf.put target c).config id = c ∨
      id ≠ target ∧ (shelf.put target c).config id = shelf.config id := by
  by_cases here : id = target
  · exact .inl ⟨here, if_pos here⟩
  · exact .inr ⟨here, if_neg here⟩

/-- What an act makes of the settings at a number: it reads them anew; or they are as they were,
here or where they were copied from; or it asks them, assigns a connection, or overrides them. -/
theorem config_act (shelf : Shelf) (a : SettingsAct) (id : Nat) :
    (a.source? id = none ∧
      ∃ reading : SettingsReading, reading.result = .ok ((shelf.act a).config id)) ∨
    (∃ before, a.source? id = some before ∧ (shelf.act a).config id = shelf.config before) ∨
    a.source? id = some id ∧
      (a = .ask id ∧ (shelf.act a).config id = (shelf.config id).databaseDsn.2 ∨
        (∃ dsn, a = .assign id dsn ∧ (shelf.act a).config id = (shelf.config id).withDsn dsn) ∨
        ∃ env, a = .override id env ∧
          (shelf.act a).config id = (shelf.config id).applyEnvironment env) := by
  cases a with
  | read target reading =>
      cases result : reading.result with
      | error cause =>
          refine .inr (.inl ⟨id, ?_, ?_⟩)
          · simp [source?, renews, result, Except.isOk, Except.toBool]
          · rw [Shelf.act, result, Shelf.renew]
      | ok c =>
          have renewed : shelf.act (.read target reading) = shelf.put target c := by
            rw [Shelf.act, result, Shelf.renew]
          rw [renewed]
          rcases put_cases shelf id target c with ⟨rfl, put⟩ | ⟨other, kept⟩
          · refine .inl ⟨?_, reading, result.trans (congrArg _ put.symm)⟩
            simp [source?, renews, result, Except.isOk, Except.toBool]
          · refine .inr (.inl ⟨id, ?_, kept⟩)
            simp [source?, renews, other]
  | copy source target =>
      exact .inr (.inl ⟨_, rfl, (apply_ite shelf.config (id = target) source id).symm⟩)
  | override target env =>
      rcases put_cases shelf id target ((shelf.config target).applyEnvironment env) with
        ⟨rfl, put⟩ | ⟨_, kept⟩
      · exact .inr (.inr ⟨rfl, .inr (.inr ⟨env, rfl, put⟩)⟩)
      · exact .inr (.inl ⟨id, rfl, kept⟩)
  | assign target dsn =>
      rcases put_cases shelf id target ((shelf.config target).withDsn dsn) with
        ⟨rfl, put⟩ | ⟨_, kept⟩
      · exact .inr (.inr ⟨rfl, .inr (.inl ⟨dsn, rfl, put⟩)⟩)
      · exact .inr (.inl ⟨id, rfl, kept⟩)
  | ask target =>
      rcases put_cases shelf id target (shelf.config target).databaseDsn.2 with
        ⟨rfl, put⟩ | ⟨_, kept⟩
      · exact .inr (.inr ⟨rfl, .inl ⟨rfl, put⟩⟩)
      · exact .inr (.inl ⟨id, rfl, kept⟩)

/-- A connection that is fixed stays so, unless the settings are read anew. -/
theorem resolvedDsn_act {a : SettingsAct} {before : Nat} {dsn : Secret}
    (source : a.source? id = some before)
    (fixed : (shelf.config before).resolvedDsn = some dsn) :
    ((shelf.act a).config id).resolvedDsn = some dsn := by
  rcases config_act shelf a id with ⟨anew, _⟩ | ⟨other, same, kept⟩ | ⟨same, done⟩
  · cases source.symm.trans anew
  · cases source.symm.trans same
    rw [kept, fixed]
  · cases source.symm.trans same
    rcases done with ⟨_, asked⟩ | ⟨_, _, assigned⟩ | ⟨_, _, overridden⟩
    · rw [asked, resolvedDsn_databaseDsn, databaseDsn_of_resolved fixed]
    · rw [assigned]
      exact fixed
    · rw [overridden]
      exact fixed

/-- Only asking fixes a connection. -/
theorem resolvedDsn_act_of_not_asks {a : SettingsAct} (unasked : ¬ Asks id a)
    (free : ∀ before, a.source? id = some before → (shelf.config before).resolvedDsn = none) :
    ((shelf.act a).config id).resolvedDsn = none := by
  rcases config_act shelf a id with ⟨_, reading, read⟩ | ⟨before, source, kept⟩ | ⟨source, done⟩
  · exact reading.resolvedDsn_of_result read
  · rw [kept]
    exact free before source
  · rcases done with ⟨asks, _⟩ | ⟨_, _, assigned⟩ | ⟨_, _, overridden⟩
    · exact (unasked asks).elim
    · rw [assigned]
      exact free id source
    · rw [overridden]
      exact free id source

/-- A connection that is configured stays so, unless the settings are read anew or the act names
another one. -/
theorem dsn_act_of_not_names {a : SettingsAct} {before : Nat} (source : a.source? id = some before)
    (unnamed : ¬ Names id a) :
    ((shelf.act a).config id).database.dsn = (shelf.config before).database.dsn := by
  rcases config_act shelf a id with ⟨anew, _⟩ | ⟨other, same, kept⟩ | ⟨same, done⟩
  · cases source.symm.trans anew
  · cases source.symm.trans same
    rw [kept]
  · cases source.symm.trans same
    rcases done with ⟨_, asked⟩ | ⟨dsn, rfl, _⟩ | ⟨env, rfl, overridden⟩
    · rw [asked, database_databaseDsn]
    · exact (unnamed rfl).elim
    · have silent : Silent env := Classical.not_not.mp fun loud => unnamed ⟨rfl, loud⟩
      rw [overridden, dsn_applyEnvironment_of_silent silent]

/-! ## Runs -/

/-- What settings have answered goes with their copies. -/
theorem resolvedDsn_after {dsn : Secret} (origin : origin? id acts = some first)
    (fixed : (shelf.config first).resolvedDsn = some dsn) :
    ((shelf.after acts).config id).resolvedDsn = some dsn := by
  induction acts generalizing shelf first with
  | nil =>
      cases origin
      exact fixed
  | cons a rest ih =>
      obtain ⟨later, origin, source⟩ := Option.bind_eq_some_iff.mp origin
      exact ih origin (resolvedDsn_act source fixed)

/-- Settings that nobody has asked since they were read have no answer yet. -/
theorem resolvedDsn_after_of_not_asked (unasked : ¬ Met Asks id acts)
    (free : ∀ first, origin? id acts = some first → (shelf.config first).resolvedDsn = none) :
    ((shelf.after acts).config id).resolvedDsn = none := by
  induction acts generalizing shelf with
  | nil => exact free id rfl
  | cons a rest ih =>
      obtain ⟨unasked, now⟩ := not_or.mp unasked
      apply ih unasked
      intro later origin
      apply resolvedDsn_act_of_not_asks fun asks => now ⟨later, origin, asks⟩
      intro before source
      exact free before (Option.bind_eq_some_iff.mpr ⟨later, origin, source⟩)

/-- A connection that nobody has put in or taken out since the settings were read is the one they
were read with. -/
theorem dsn_after_of_not_named (origin : origin? id acts = some first)
    (unnamed : ¬ Met Names id acts) :
    ((shelf.after acts).config id).database.dsn = (shelf.config first).database.dsn := by
  induction acts generalizing shelf first with
  | nil =>
      cases origin
      rfl
  | cons a rest ih =>
      obtain ⟨unnamed, now⟩ := not_or.mp unnamed
      obtain ⟨later, origin, source⟩ := Option.bind_eq_some_iff.mp origin
      apply (ih origin unnamed).trans
      exact dsn_act_of_not_names source fun names => now ⟨later, origin, names⟩

/-- Settings keep the connection that is configured, unless they are read anew, one is assigned, or
an environment that overrides them names one: `DATABASE_DSN` if it is not empty, or else what the
secret document holds. Settings that have not been asked for the connection since they were read
give the one that is configured, or the standard one. Once they have given one, they and the copies
that are made of them give the same one whatever else is done to them, until they are read anew. -/
theorem dsn_fixed_once_asked (shelf : Shelf) (acts : List SettingsAct) :
    let now := shelf.after acts
    (∀ id first, origin? id acts = some first → ¬ Met Names id acts →
      (now.config id).database.dsn = (shelf.config first).database.dsn) ∧
    (∀ id env s, env "DATABASE_DSN" = some s → s ≠ "" →
      ((now.act (.override id env)).config id).database.dsn = some ⟨s⟩) ∧
    (∀ id env s, (∀ t, env "DATABASE_DSN" = some t → t = "") → Supplies env s →
      ((now.act (.override id env)).config id).database.dsn = some ⟨s⟩) ∧
    (∀ id, ¬ Met Asks id acts →
      (∀ first, origin? id acts = some first → (shelf.config first).resolvedDsn = none) →
      now.dsn id = (now.config id).database.dsn.getD standardDsn) ∧
    ∀ id between other, origin? other between = some id →
      (now.after (.ask id :: between)).dsn other = now.dsn id := by
  intro now
  have overridden (id : Nat) (env : Environment) :
      (now.act (.override id env)).config id = (now.config id).applyEnvironment env :=
    config_put_self now id _
  refine ⟨fun id first => dsn_after_of_not_named, fun id env s set text => ?_,
    fun id env s empty supplies => ?_, fun id unasked free => ?_,
    fun id between other origin => ?_⟩
  · rw [overridden, dsn_applyEnvironment_of_text set text]
  · rw [overridden, dsn_applyEnvironment_of_supplies empty supplies]
  · exact databaseDsn_of_unresolved (resolvedDsn_after_of_not_asked unasked free)
  · have fixed : ((now.act (.ask id)).config id).resolvedDsn = some (now.dsn id) := by
      rw [Shelf.act, config_put_self]
      exact resolvedDsn_databaseDsn (now.config id)
    have kept := resolvedDsn_after origin fixed
    exact databaseDsn_of_resolved kept

/-- Settings are asked and then copied. Their copy is assigned another connection, and they are
overridden with yet another one; both still give the first. -/
theorem dsn_fixed_once_asked_copied :
    let shelf : Shelf := (⟨fun _ => .standard⟩ : Shelf).act
      (.assign 0 (some ⟨"postgresql://first/alerts"⟩))
    let env : Environment := fun name =>
      if name = "DATABASE_DSN" then some "postgresql://second/alerts" else none
    let between : List SettingsAct :=
      [.copy 0 1, .override 0 env, .assign 1 (some ⟨"postgresql://third/alerts"⟩)]
    let later := shelf.after (.ask 0 :: between)
    origin? 0 between = some 0 ∧ origin? 1 between = some 0 ∧
      (later.config 0).database.dsn = some ⟨"postgresql://second/alerts"⟩ ∧
      (later.config 1).database.dsn = some ⟨"postgresql://third/alerts"⟩ ∧
      later.dsn 0 = ⟨"postgresql://first/alerts"⟩ ∧
      later.dsn 1 = ⟨"postgresql://first/alerts"⟩ := by
  intro shelf env between later
  obtain ⟨_, _, _, _, fixed⟩ := dsn_fixed_once_asked shelf []
  refine ⟨rfl, rfl, ?_, rfl, fixed 0 between 0 rfl, fixed 0 between 1 rfl⟩
  exact dsn_applyEnvironment_of_text rfl (by decide)

/-- A connection is configured, nothing is in `DATABASE_DSN`, and the secret document names the
empty text, as if it named no connection. The empty text replaces the connection. -/
theorem dsn_emptied_by_secret :
    let env : Environment := fun name =>
      if name = "DB_SECRET_JSON" then some "\x7b\"dsn\":\"\"\x7d" else none
    let shelf : Shelf := (⟨fun _ => .standard⟩ : Shelf).act
      (.assign 0 (some ⟨"postgresql://relay@db/alerts"⟩))
    env "DATABASE_DSN" = none ∧ (∀ s, Supplies env s → s = "") ∧
      (shelf.config 0).database.dsn = some ⟨"postgresql://relay@db/alerts"⟩ ∧
      ((shelf.act (.override 0 env)).config 0).database.dsn = some ⟨""⟩ ∧
      (shelf.act (.override 0 env)).dsn 0 = ⟨""⟩ := by
  intro env shelf
  have named : dsnOfSecret? "\x7b\"dsn\":\"\"\x7d" = some "" := by decide +kernel
  have set : env "DB_SECRET_JSON" = some "\x7b\"dsn\":\"\"\x7d" := rfl
  have held : (env "DB_SECRET_JSON").bind dsnOfSecret? = some "" := by
    rw [set, Option.bind_some, named]
  have emptied : ((shelf.act (.override 0 env)).config 0).database.dsn = some ⟨""⟩ :=
    dsn_applyEnvironment_of_supplies nofun (bind_dsnOfSecret?_eq_some.mp held)
  refine ⟨rfl, fun s supplies => ?_, rfl, emptied, ?_⟩
  · exact Option.some.inj ((bind_dsnOfSecret?_eq_some.mpr supplies).symm.trans held)
  · have free : ((shelf.act (.override 0 env)).config 0).resolvedDsn = none := rfl
    rw [Shelf.dsn, databaseDsn_of_unresolved free, emptied]
    rfl

end Shelf

end AlertRelay
