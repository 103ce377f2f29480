import StaffSearch.Proofs.Digits
import StaffSearch.Proofs.Startup

/-!
# Variables that hosts set

Many hosts say through the environment where the database is and at which port the program is to
listen.  The port is put into the socket address as into a text: what stands behind the last colon
gives way to it.  There may be many colons in a host, but none is in a port, so that the last one is
where the host ends (`SocketAddress.parse?_eq_some_iff`).  Hence the host stays what it was
(`host_of_spelled_port`), however the port is spelled.

The address of the database is taken over before anybody looks at the port.  If the port turns out
to be none, the settings have changed although there is an error (`settings_of_port_error`).
-/

namespace StaffSearch

open StaffSearch.Text

/-! ## Ports -/

/-- A number is taken for a port if it fits the word. -/
theorem port_eq_some_iff {number : Option Nat} {port : UInt16} :
    (number.filter (Word.fitsUnsigned 16)).map UInt16.ofNat = some port ↔
      number = some port.toNat := by
  have hCount : Word.count 16 = 65536 := by decide
  rw [Option.map_eq_some_iff]
  simp only [Option.filter_eq_some_iff, Word.fitsUnsigned_iff, hCount]
  constructor
  · rintro ⟨value, ⟨hNumber, hFits⟩, rfl⟩
    rw [hNumber, UInt16.toNat_ofNat', Nat.mod_eq_of_lt hFits]
  · intro hNumber
    exact ⟨port.toNat, ⟨hNumber, port.toNat_lt⟩, UInt16.ofNat_toNat⟩

/-! ## Socket addresses -/

namespace SocketAddress

theorem port?_eq_some_iff {text : List Char} {port : UInt16} :
    port? text = some port ↔ digits? text = some port.toNat :=
  port_eq_some_iff

theorem colon_not_mem_of_port? {text : List Char} {port : UInt16} (h : port? text = some port) :
    ':' ∉ text := by
  intro hMem
  have hDigits := (digits?_eq_some_iff.mp (port?_eq_some_iff.mp h)).2.1
  exact absurd (hDigits ':' hMem) (by decide)

/-- **A socket address** is a host, a colon and a port. -/
theorem parse?_eq_some_iff {text : String} {address : SocketAddress} :
    parse? text = some address ↔
      ∃ host port, text.toList = host ++ ':' :: port ∧ Host.parse? host = some address.host ∧
        port? port = some address.port := by
  constructor
  · intro h
    unfold parse? at h
    split at h
    · exact absurd h (by simp)
    · next host port hCut =>
        split at h
        · next readHost readPort hHost hPort =>
            cases h
            exact ⟨host, port, (cutAtLast?_eq_some hCut).1, hHost, hPort⟩
        · exact absurd h (by simp)
  · rintro ⟨host, port, hText, hHost, hPort⟩
    rw [← String.ofList_toList (s := text), hText,
      parse?_host_port (colon_not_mem_of_port? hPort), hHost, hPort]

end SocketAddress

namespace Settings

/-- The host stays what it was. -/
theorem parse?_replacePort {bindAddress : String} {address : SocketAddress} (port : UInt16)
    (h : SocketAddress.parse? bindAddress = some address) :
    SocketAddress.parse? (replacePort bindAddress port) = some { address with port } := by
  obtain ⟨host, old, hText, hHost, hOld⟩ := SocketAddress.parse?_eq_some_iff.mp h
  have hCut : cutAtLast? ':' bindAddress.toList = some (host, old) := by
    rw [hText, cutAtLast?_append (SocketAddress.colon_not_mem_of_port? hOld)]
  have hReplaced : (replacePort bindAddress port).toList =
      host ++ ':' :: Nat.toDigits 10 port.toNat := by
    have hRepr : toString port.toNat = String.ofList (Nat.toDigits 10 port.toNat) := rfl
    simp only [replacePort, hCut, hRepr, String.toList_append, String.toList_ofList]
    rw [List.append_assoc]
    rfl
  rw [SocketAddress.parse?_eq_some_iff]
  exact ⟨host, _, hReplaced, hHost, SocketAddress.port?_eq_some_iff.mpr (digits?_toDigits _)⟩

/-! ## The two variables -/

/-- Between the blank characters at its ends the text has the digits of the port, with any number of
zeros and perhaps a plus sign in front of them. -/
def SpellsPort (text : String) (port : UInt16) : Prop :=
  ∃ digits, (trimList text.toList = digits ∨ trimList text.toList = '+' :: digits) ∧
    digits ≠ [] ∧ (∀ c ∈ digits, isAsciiDigit c = true) ∧ decimalValue digits = port.toNat

theorem portOfText?_eq_some_iff {text : String} {port : UInt16} :
    portOfText? text = some port ↔ SpellsPort text port := by
  rw [portOfText?, port_eq_some_iff, natural?_eq_some_iff, SpellsPort]
  simp only [digits?_eq_some_iff]

/-- The address of the database that counts: the given one unless it is blank. -/
def uriOf (settings : Settings) (uri : Option String) : String :=
  (uri.filter fun given => !isBlankText given).getD settings.store.uri

theorem uriOf_eq_iff {settings : Settings} {uri : Option String} :
    settings.uriOf uri = settings.store.uri ↔
      ∀ given, uri = some given → isBlankText given = true ∨ given = settings.store.uri := by
  cases uri with
  | none => simp [uriOf]
  | some given =>
      cases hBlank : isBlankText given with
      | false => simp [uriOf, hBlank, Option.filter]
      | true => simp [uriOf, hBlank, Option.filter]

theorem withUri_eq_self_iff {settings : Settings} {uri : String} :
    settings.withUri uri = settings ↔ uri = settings.store.uri := by
  constructor
  · intro h
    exact congrArg (fun changed : Settings => changed.store.uri) h
  · rintro rfl
    rfl

/-- First the address of the database is taken over, then comes the port. -/
theorem withHostVariables_eq (settings : Settings) (uri port : Option String) :
    settings.withHostVariables uri port =
      (settings.withUri (settings.uriOf uri)).withHostVariables none port := by
  cases uri with
  | none => rfl
  | some given =>
      cases hBlank : isBlankText given with
      | false => simp [withHostVariables, uriOf, hBlank, Option.filter]
      | true =>
          simp only [withHostVariables, uriOf, hBlank, Option.filter]
          rfl

theorem withHostVariables_of_spelled {settings : Settings} {text : String} {port : UInt16}
    (hPort : SpellsPort text port) :
    settings.withHostVariables none (some text) =
      (settings.withBindAddress (replacePort settings.server.bindAddress port), .ok ()) := by
  rw [withHostVariables, portOfText?_eq_some_iff.mpr hPort]

theorem withHostVariables_of_not_spelled {settings : Settings} {text : String}
    (hPort : ∀ port, ¬ SpellsPort text port) :
    settings.withHostVariables none (some text) =
      (settings, .error (.configuration ("Invalid PORT value '" ++ text ++ "'"))) := by
  have hNone : portOfText? text = none := by
    rw [Option.eq_none_iff_forall_ne_some]
    intro port hSome
    exact hPort port (portOfText?_eq_some_iff.mp hSome)
  rw [withHostVariables, hNone]

/--
**A port replaces the port only.**  If there is an address to listen at and the variable spells a
port, there is no error; the host is the same as before and the port is the new one.  The address of
the database is the given one unless that is blank, and nothing else has changed.
-/
theorem host_of_spelled_port {settings : Settings} {address : SocketAddress} {text : String}
    {port : UInt16} (uri : Option String) (hAddress : settings.address = .ok address)
    (hPort : SpellsPort text port) :
    ∃ changed : Settings,
      settings.withHostVariables uri (some text) = (changed, .ok ()) ∧
      changed.address = .ok { host := address.host, port := port } ∧
      changed.store.uri = settings.uriOf uri ∧
      changed = { settings with
        server := { settings.server with bindAddress := changed.server.bindAddress }
        store := { settings.store with uri := changed.store.uri } } := by
  refine ⟨(settings.withUri (settings.uriOf uri)).withBindAddress
    (replacePort settings.server.bindAddress port), ?_, ?_, rfl, rfl⟩
  · rw [withHostVariables_eq, withHostVariables_of_spelled hPort]
    rfl
  · exact address_eq_ok_iff.mpr (parse?_replacePort port (address_eq_ok_iff.mp hAddress))

/-- Settings with a host that is full of colons. -/
private def linkLocal : Settings where
  server := { bindAddress := "[fe80::1%7]:5000", allowsAnyOrigin := false }

/-- Neither blank characters nor a sign nor zeros keep the port from its place. -/
theorem host_of_spelled_port_link_local :
    linkLocal.address =
        .ok { host := .six [0xFE80, 0, 0, 0, 0, 0, 0, 1] 7, port := 5000 } ∧
      SpellsPort " +0080\n" 80 ∧
      ∃ changed : Settings,
        linkLocal.withHostVariables (some "mongodb://db") (some " +0080\n") = (changed, .ok ()) ∧
        changed.address = .ok { host := .six [0xFE80, 0, 0, 0, 0, 0, 0, 1] 7, port := 80 } ∧
        changed.store.uri = "mongodb://db" ∧
        changed = { linkLocal with
          server := { linkLocal.server with bindAddress := changed.server.bindAddress }
          store := { linkLocal.store with uri := changed.store.uri } } := by
  have hAddress : linkLocal.address =
      .ok { host := .six [0xFE80, 0, 0, 0, 0, 0, 0, 1] 7, port := 5000 } :=
    address_eq_ok_iff.mpr (by decide)
  have hPort : SpellsPort " +0080\n" 80 := portOfText?_eq_some_iff.mp (by decide)
  have hUri : linkLocal.uriOf (some "mongodb://db") = "mongodb://db" := by decide
  have h := host_of_spelled_port (some "mongodb://db") hAddress hPort
  rw [hUri] at h
  exact ⟨hAddress, hPort, h⟩

/--
**What an error leaves behind.**  There is an error only if a port is given that is none.  The
address of the database has been taken over by then, and nothing else has changed; so the settings
are what they were exactly if no address is given, or a blank one, or the one they have.
-/
theorem settings_of_port_error {settings : Settings} {uri port : Option String}
    {cause : SearchError} (h : (settings.withHostVariables uri port).2 = .error cause) :
    (∃ text, port = some text ∧ (∀ number, ¬ SpellsPort text number) ∧
      cause = .configuration ("Invalid PORT value '" ++ text ++ "'")) ∧
    (settings.withHostVariables uri port).1 = settings.withUri (settings.uriOf uri) ∧
    ((settings.withHostVariables uri port).1 = settings ↔
      ∀ given, uri = some given → isBlankText given = true ∨ given = settings.store.uri) := by
  cases port with
  | none =>
      rw [withHostVariables_eq] at h
      exact absurd h (by simp)
  | some text =>
      by_cases hPort : ∃ number, SpellsPort text number
      · obtain ⟨number, hNumber⟩ := hPort
        rw [withHostVariables_eq, withHostVariables_of_spelled hNumber] at h
        exact absurd h (by simp)
      · rw [not_exists] at hPort
        rw [withHostVariables_eq, withHostVariables_of_not_spelled hPort] at h ⊢
        refine ⟨⟨text, rfl, hPort, (Except.error.inj h).symm⟩, rfl, ?_⟩
        rw [withUri_eq_self_iff, uriOf_eq_iff]

/-- A port that is none changes nothing by itself. -/
theorem settings_of_port_error_alone :
    ((({} : Settings).withHostVariables (some " ") (some "http")).2 =
        .error (.configuration "Invalid PORT value 'http'")) ∧
      (({} : Settings).withHostVariables (some " ") (some "http")).1 = {} := by
  have hError : (({} : Settings).withHostVariables (some " ") (some "http")).2 =
      .error (.configuration "Invalid PORT value 'http'") := by decide
  have hBlank : isBlankText " " = true := by decide
  refine ⟨hError, (settings_of_port_error hError).2.2.mpr ?_⟩
  rintro given ⟨⟩
  exact Or.inl hBlank

/-- With an address of the database beside it, half of the variables have been taken over when the
error comes. -/
theorem uri_taken_despite_port_error :
    (({} : Settings).withHostVariables (some "mongodb://db:27017") (some "http")).2 =
        .error (.configuration "Invalid PORT value 'http'") ∧
      (({} : Settings).withHostVariables (some "mongodb://db:27017") (some "http")).1 ≠ {} := by
  decide

end Settings

end StaffSearch
