import StaffSearch.CommandLine.Run
import StaffSearch.Proofs.EntryOrder

/-!
# Starting with checked settings

Settings are checked when they are loaded, and the parts of the program check again what they are
given: the server its address, the compiler its window and its terms, and the document database its
connection.  The first check should leave nothing for the others to find.

It does so for the address and for the compiler (`validate_eq_ok_iff`).  Of a connection it looks at
the address of the database alone, so that what decides about the connection are the two names it
has not looked at (`parts_of_validate`).

Since what is loaded has been checked (`validate_of_load`), a run with loaded settings and records
in memory can fail only where the system refuses something (`run_listening_iff`).
-/

namespace StaffSearch.Settings

open StaffSearch.Query StaffSearch.Text

/-! ## What is checked -/

/-- A socket address has a colon in it, so a blank text is none. -/
theorem isBlankText_of_parse? {text : String} {address : SocketAddress}
    (h : SocketAddress.parse? text = some address) : isBlankText text = false := by
  rw [Bool.eq_false_iff]
  intro hBlank
  have hNone : cutAtLast? ':' text.toList = none := by
    rw [cutAtLast?_eq_none_iff]
    intro hMem
    exact absurd (List.all_eq_true.mp hBlank _ hMem) (by decide)
  rw [SocketAddress.parse?, hNone] at h
  exact absurd h (by simp)

theorem address_eq_ok_iff {settings : Settings} {address : SocketAddress} :
    settings.address = .ok address ↔
      SocketAddress.parse? settings.server.bindAddress = some address := by
  rw [Settings.address]
  cases SocketAddress.parse? settings.server.bindAddress with
  | none => simp
  | some found => simp

/-- **Settings pass the checks** when there is an address to listen at, the window is not zero, a
document database has an address that is not blank, and the added terms are for categories. -/
theorem validate_eq_ok_iff {settings : Settings} :
    settings.validate = .ok () ↔
      (∃ address, settings.address = .ok address) ∧
      settings.search.window ≠ 0 ∧
      (settings.store.backend = .mongodb → isBlankText settings.store.uri = false) ∧
      ∃ given, settings.compilerSettings = .ok given := by
  have hUri : ¬ (settings.store.backend = .mongodb ∧ isBlankText settings.store.uri = true) ↔
      (settings.store.backend = .mongodb → isBlankText settings.store.uri = false) := by
    rw [not_and, Bool.not_eq_true]
  rw [validate, ← hUri]
  cases hAddress : settings.address with
  | error cause =>
      by_cases hBlank : isBlankText settings.server.bindAddress = true <;> simp [hBlank]
  | ok address =>
      have hBlank : ¬ isBlankText settings.server.bindAddress = true := by
        rw [Bool.not_eq_true]
        exact isBlankText_of_parse? (address_eq_ok_iff.mp hAddress)
      rw [if_neg hBlank]
      by_cases hWindow : settings.search.window = 0
      · simp [hWindow]
      · by_cases hStore :
          settings.store.backend = .mongodb ∧ isBlankText settings.store.uri = true
        · simp [hWindow, hStore]
        · cases hGiven : settings.compilerSettings with
          | error cause => simp [hWindow, hStore]
          | ok given => simp [hWindow, hStore]

/-! ## What the parts of the program get -/

theorem window_of_compilerSettings {settings : Settings} {given : CompilerSettings}
    (h : settings.compilerSettings = .ok given) : given.window = settings.search.window := by
  obtain ⟨-, rfl⟩ := compilerSettings_eq_ok_iff.mp h
  rfl

/-- A connection whose address is not blank is valid when its database and its collection have
names. -/
theorem validate_connection_eq_ok_iff {settings : Settings}
    (hUri : isBlankText settings.store.uri = false) :
    settings.connection.validate = .ok () ↔
      settings.store.database ≠ "" ∧ settings.store.collection ≠ "" := by
  have hSome : settings.store.uri.isEmpty = false := by
    rw [Bool.eq_false_iff]
    intro hEmpty
    rw [String.isEmpty_iff.mp hEmpty] at hUri
    exact absurd hUri (by decide)
  rw [Connection.validate_eq_ok_iff]
  simp only [connection, hSome, true_and, Bool.eq_false_iff, ne_eq, String.isEmpty_iff]

/-- Checked settings make a compiler. -/
theorem exists_compiler_of_validate {settings : Settings} (h : settings.validate = .ok ()) :
    ∃ given, settings.compilerSettings = .ok given ∧
      ∃ compiler, Compiler.ofSettings given = .ok compiler := by
  obtain ⟨-, hWindow, -, given, hGiven⟩ := validate_eq_ok_iff.mp h
  refine ⟨given, hGiven, Compiler.exists_ofSettings given ?_⟩
  rw [window_of_compilerSettings hGiven]
  exact hWindow

/--
**What checked settings are good for.**  There is an address to listen at, and a compiler.  If the
records are in a document database, the connection passes its own checks exactly when neither the
name of the database nor that of the collection is empty.
-/
theorem parts_of_validate {settings : Settings} (h : settings.validate = .ok ()) :
    (∃ address, settings.address = .ok address) ∧
    (∃ given, settings.compilerSettings = .ok given ∧
      ∃ compiler, Compiler.ofSettings given = .ok compiler) ∧
    (settings.store.backend = .mongodb →
      (settings.connection.validate = .ok () ↔
        settings.store.database ≠ "" ∧ settings.store.collection ≠ "")) := by
  obtain ⟨hAddress, -, hUri, -⟩ := validate_eq_ok_iff.mp h
  refine ⟨hAddress, exists_compiler_of_validate h, ?_⟩
  intro hBackend
  exact validate_connection_eq_ok_iff (hUri hBackend)

/-- Settings with an address of the newer kind, an added vocabulary and a database of their own. -/
private def ownDatabase : Settings where
  server := { bindAddress := "[::1]:8080" }
  store := { uri := " mongodb://db", database := "staff", collection := "people" }
  search := { window := 2, extraTerms := [(" Skill", ["Rust"])] }

/-- These settings are good for everything. -/
theorem parts_of_validate_own_database :
    ownDatabase.validate = .ok () ∧
      (∃ address, ownDatabase.address = .ok address) ∧
      (∃ given, ownDatabase.compilerSettings = .ok given ∧
        ∃ compiler, Compiler.ofSettings given = .ok compiler) ∧
      ownDatabase.connection.validate = .ok () := by
  have hListens : SocketAddress.parse? "[::1]:8080" =
      some { host := .six [0, 0, 0, 0, 0, 0, 0, 1] 0, port := 8080 } := by decide +kernel
  have hUri : isBlankText " mongodb://db" = false := by decide +kernel
  have hValid : ownDatabase.validate = .ok () := validate_eq_ok_iff.mpr
    ⟨⟨_, address_eq_ok_iff.mpr hListens⟩, by decide, fun _ => hUri, _, rfl⟩
  obtain ⟨hAddress, hCompiler, hConnection⟩ := parts_of_validate hValid
  exact ⟨hValid, hAddress, hCompiler, (hConnection rfl).mpr (by decide)⟩

/-- Settings that leave the database without a name. -/
private def unnamedDatabase : Settings where
  store := { database := "" }

/-- Settings without a name for the database pass the checks, and the connection does not. -/
theorem unnamed_database_passes_validate :
    unnamedDatabase.validate = .ok () ∧ unnamedDatabase.store.backend = .mongodb ∧
      unnamedDatabase.connection.validate =
        .error (.configurationError "Database name cannot be empty") := by
  have hUri : isBlankText "mongodb://localhost:27017" = false := by decide +kernel
  refine ⟨?_, rfl, rfl⟩
  exact validate_eq_ok_iff.mpr
    ⟨⟨_, address_eq_ok_iff.mpr parse?_default⟩, by decide, fun _ => hUri, _, rfl⟩

/-! ## What is loaded has been checked -/

theorem validate_of_finish {sources : Sources} {settings loaded : Settings}
    (h : finish sources settings = .ok loaded) : loaded.validate = .ok () := by
  rw [finish] at h
  split at h
  next given outcome _ =>
    cases outcome with
    | error cause => exact absurd h (by simp)
    | ok _ =>
        dsimp only at h
        split at h
        · exact absurd h (by simp)
        · next hValid =>
            rw [← Except.ok.inj h]
            exact hValid

/-- **Loaded settings have passed the checks**, wherever they come from. -/
theorem validate_of_load {sources : Sources} {settings : Settings}
    (h : load sources = .ok settings) : settings.validate = .ok () := by
  rw [load] at h
  split at h
  · exact absurd h (by simp)
  · split at h
    · exact absurd h (by simp)
    · next found _ =>
        cases hFinish : finish sources found with
        | error cause =>
            rw [hFinish] at h
            cases h
        | ok loaded =>
            rw [hFinish] at h
            rw [← Except.ok.inj h]
            exact validate_of_finish hFinish

end StaffSearch.Settings

namespace StaffSearch.CommandLine

open StaffSearch.Query

/-! ## A run that listens -/

/-- With checked settings and records in memory, a run goes on to the address it is told and
listens, unless the system refuses. -/
theorem operate_of_validate {settings : Settings} (h : settings.validate = .ok ())
    (hMemory : settings.store.backend = .memory) (surroundings : Surroundings) :
    ∃ address, settings.address = .ok address ∧
      (operate surroundings settings).1 = match surroundings.listenFault? address with
        | some reason => .failed (SearchError.io reason).describe none
        | none => .listening address := by
  obtain ⟨⟨address, hAddress⟩, -⟩ := Settings.validate_eq_ok_iff.mp h
  obtain ⟨given, hGiven, compiler, hCompiler⟩ := Settings.exists_compiler_of_validate h
  have hMade : settings.compilerSettings >>= Compiler.ofSettings = .ok compiler := by
    rw [hGiven]
    exact hCompiler
  refine ⟨address, hAddress, ?_⟩
  rw [operate, hMemory]
  dsimp only
  rw [hMade, hAddress]
  dsimp only
  cases surroundings.listenFault? address <;> rfl

/-- No database can be asked, so a run that needs one fails. -/
theorem operate_of_mongodb {settings : Settings} (hDatabase : settings.store.backend = .mongodb)
    (surroundings : Surroundings) : (operate surroundings settings).1 =
      .failed "Failed to connect to MongoDB"
        (some (connectFault settings.connection).describe) := by
  rw [operate, hDatabase]

/-- Whether the directory of the log is there or can be made, if there is to be one. -/
def Surroundings.HasLogDirectory (surroundings : Surroundings) (logging : LogSettings) : Prop :=
  ∀ directory, logging.directory = some directory → surroundings.canMakeDirectory directory = true

theorem ending_runWith (surroundings : Surroundings) (settings : Settings)
    (hDirectory : surroundings.HasLogDirectory settings.logging) :
    (runWith surroundings settings).ending = (operate surroundings settings).1 := by
  rw [runWith]
  dsimp only
  cases hSome : settings.logging.directory with
  | none => rfl
  | some directory =>
      dsimp only
      rw [if_pos (hDirectory directory hSome)]

theorem ending_runWith_of_no_directory {surroundings : Surroundings} {settings : Settings}
    (hDirectory : ¬ surroundings.HasLogDirectory settings.logging) :
    ∃ message, (runWith surroundings settings).ending = .failed message none := by
  obtain ⟨directory, hSome, hRefused⟩ : ∃ directory, settings.logging.directory = some directory ∧
      ¬ surroundings.canMakeDirectory directory = true := by
    simpa [Surroundings.HasLogDirectory] using hDirectory
  rw [runWith]
  dsimp only
  rw [hSome]
  dsimp only
  rw [if_neg hRefused]
  exact ⟨_, rfl⟩

/-- With checked settings a run listens exactly if the records are in memory and the system refuses
nothing. -/
theorem runWith_listening_iff {settings : Settings} (h : settings.validate = .ok ())
    (surroundings : Surroundings) (address : SocketAddress) :
    (runWith surroundings settings).ending = .listening address ↔
      surroundings.HasLogDirectory settings.logging ∧ settings.store.backend = .memory ∧
        settings.address = .ok address ∧ surroundings.listenFault? address = none := by
  by_cases hDirectory : surroundings.HasLogDirectory settings.logging
  · rw [ending_runWith _ _ hDirectory]
    cases hBackend : settings.store.backend with
    | mongodb => simp [operate_of_mongodb hBackend]
    | memory =>
        obtain ⟨found, hFound, hEnding⟩ := operate_of_validate h hBackend surroundings
        rw [hEnding, hFound]
        constructor
        · intro hListening
          split at hListening
          · exact absurd hListening (by simp)
          · next hFree =>
              obtain rfl := Ending.listening.inj hListening
              exact ⟨hDirectory, rfl, rfl, hFree⟩
        · rintro ⟨-, -, hSame, hFree⟩
          rw [Except.ok.inj hSame, hFree]
  · obtain ⟨message, hEnding⟩ := ending_runWith_of_no_directory hDirectory
    simp [hEnding, hDirectory]

/--
**When the program comes to listen.**  It does so exactly if the command line asks for a run, the
settings can be loaded, the directory of the log can be made, the records are in memory, and the
system lets it listen at the address of the settings.  There is nothing else in the settings that
keeps it from listening.  Surroundings have no database, so a run that needs one does not get so far.
-/
theorem run_listening_iff (surroundings : Surroundings) (words : List String)
    (address : SocketAddress) :
    (run surroundings words).ending = .listening address ↔
      ∃ arguments settings, parse (configVariable? surroundings) words = .ok (.run arguments) ∧
        arguments.generateConfig = none ∧
        Settings.load (sourcesOf surroundings arguments) = .ok settings ∧
        surroundings.HasLogDirectory settings.logging ∧ settings.store.backend = .memory ∧
        settings.address = .ok address ∧ surroundings.listenFault? address = none := by
  rw [run]
  cases hParse : parse (configVariable? surroundings) words with
  | error cause => simp
  | ok command =>
      cases command with
      | answer question => simp
      | run arguments =>
          dsimp only
          cases hGenerate : arguments.generateConfig with
          | some path =>
              by_cases hWritten : surroundings.canWrite path = true <;> simp [hGenerate, hWritten]
          | none =>
              cases hLoad : Settings.load (sourcesOf surroundings arguments) with
              | error failure => simp [hGenerate, hLoad]
              | ok settings =>
                  have hEnding := runWith_listening_iff (Settings.validate_of_load hLoad)
                    surroundings address
                  simp [hGenerate, hLoad, hEnding]

end StaffSearch.CommandLine
