import StaffSearch.Error
import StaffSearch.Network.SocketAddress
import StaffSearch.Word

/-!
# Connecting to a document database

What a connection to a database needs to know, and the checks that come before any attempt.

The address of a database is a scheme, who asks, hosts with commas between them, and behind a slash
the name of a database and options. Before any attempt to connect the address is read, and a fault
in it is reported at once.

## Main results

* `Connection.validate_eq_ok_iff` — the checks ask that no name is empty.
-/

namespace StaffSearch

/-- The settings of a connection to a document database. -/
structure Connection where
  /-- Where the database is. -/
  uri : String
  /-- The name of the database. -/
  database : String
  /-- The name of the collection. -/
  collection : String
  /-- The largest number of connections kept open. -/
  maxPoolSize : Nat := 20
  /-- The smallest number of connections kept open. -/
  minPoolSize : Nat := 1
  /-- Seconds to wait for a connection. -/
  connectSeconds : Nat := 10
  /-- Seconds to wait for a server to be found. -/
  selectionSeconds : Nat := 30
  /-- The name under which the program appears. -/
  application : String := "employee-search"
  deriving DecidableEq, Repr

/-- Checks that no name is empty. -/
def Connection.validate (connection : Connection) : Except StoreError Unit :=
  if connection.uri.isEmpty then .error (.configurationError "MongoDB URI cannot be empty")
  else if connection.database.isEmpty then
    .error (.configurationError "Database name cannot be empty")
  else if connection.collection.isEmpty then
    .error (.configurationError "Collection name cannot be empty")
  else .ok ()

theorem Connection.validate_eq_ok_iff (connection : Connection) :
    connection.validate = .ok () ↔
      connection.uri.isEmpty = false ∧ connection.database.isEmpty = false ∧
        connection.collection.isEmpty = false := by
  unfold validate
  cases connection.uri.isEmpty <;> cases connection.database.isEmpty <;>
    cases connection.collection.isEmpty <;> simp

end StaffSearch

/-! ## Addresses of databases -/

namespace StaffSearch.ConnectionString

open StaffSearch.Text

/-- How the hosts of an address are found. -/
inductive Scheme where
  /-- They are given. -/
  | direct
  /-- They are looked up under a name. -/
  | lookup
  deriving DecidableEq, Repr

/-- What stands before and behind the sign between scheme and hosts. -/
def cutScheme? : List Char → Option (List Char × List Char)
  | ':' :: '/' :: '/' :: rest => some ([], rest)
  | c :: rest => (cutScheme? rest).map fun (before, behind) => (c :: before, behind)
  | [] => none

/-- The scheme of a word. -/
def schemeOf? (word : List Char) : Option Scheme :=
  if word == "mongodb".toList then some .direct
  else if word == "mongodb+srv".toList then some .lookup
  else none

/-! ## Hosts -/

/-- Whether a text is the number of a port. -/
def isPort (text : List Char) : Bool :=
  ((natural? text).filter fun port => 0 < port && Word.fitsUnsigned 16 port).isSome

/-- Whether a text is the rest of a host behind its name: nothing, or a port behind a colon. -/
def isPortSuffix : List Char → Bool
  | [] => true
  | ':' :: port => isPort port
  | _ => false

/-- Whether a text is a host, perhaps with a port. -/
def isHost (text : List Char) : Bool :=
  match text with
  | '[' :: rest =>
    match cutAtFirst? ']' rest with
    | some (address, behind) => (eightGroups? address).isSome && isPortSuffix behind
    | none => false
  | _ =>
    let name := text.takeWhile (· != ':')
    !name.isEmpty && isPortSuffix (text.drop name.length)

/-- Whether the hosts of an address are what its scheme asks for. -/
def areHosts (scheme : Scheme) (hosts : List (List Char)) : Bool :=
  hosts.all isHost &&
    match scheme, hosts with
    | .direct, _ => true
    | .lookup, [host] => !host.contains ':'
    | .lookup, _ => false

/-! ## Who asks -/

/-- Whether every percent sign is followed by two hexadecimal digits. -/
def isPercentEncoded : List Char → Bool
  | '%' :: a :: b :: rest => isHexDigit a && isHexDigit b && isPercentEncoded rest
  | '%' :: _ => false
  | _ :: rest => isPercentEncoded rest
  | [] => true

/-- Whether a text may be a name or a secret. -/
def isCredential (text : List Char) : Bool :=
  isPercentEncoded text && !text.any fun c => [':', '/', '?', '#', '[', ']', '@'].contains c

/-- Whether a name and a secret are written as they should be. -/
def areCredentials (text : List Char) : Bool :=
  let name := text.takeWhile (· != ':')
  isCredential name && isCredential (text.drop (name.length + 1))

/-! ## Options -/

/-- Options that are truth values. -/
def switches : List String := [
  "directconnection", "journal", "loadbalanced", "retryreads", "retrywrites", "ssl", "tls",
  "tlsallowinvalidcertificates", "tlsinsecure"]

/-- Options that are numbers. -/
def sizes : List String := [
  "connecttimeoutms", "heartbeatfrequencyms", "localthresholdms", "maxconnecting", "maxidletimems",
  "maxpoolsize", "minpoolsize", "serverselectiontimeoutms", "sockettimeoutms", "srvmaxhosts",
  "waitqueuetimeoutms", "wtimeoutms"]

/-- Whether the value of an option is of the right kind; other options may have any value. -/
def isOptionValue (name : String) (value : List Char) : Bool :=
  if switches.contains name then value == "true".toList || value == "false".toList
  else if sizes.contains name then (natural? value).isSome
  else if name == "readpreference" then
    ["primary", "secondary", "primaryPreferred", "secondaryPreferred", "nearest"].contains
      (String.ofList value)
  else true

/-- Whether texts are options: names with values, and no name twice. -/
def areOptions (seen : List String) : List (List Char) → Bool
  | [] => true
  | option :: rest =>
    match cutAtFirst? '=' option with
    | none => false
    | some (name, value) =>
      let name := lowercaseAscii (String.ofList name)
      (name == "readpreferencetags" || !seen.contains name) && isOptionValue name value &&
        areOptions (name :: seen) rest

/-! ## Addresses -/

/-- Whether a text may be the name of a database. -/
def isDatabase (text : List Char) : Bool :=
  isPercentEncoded text && !text.any fun c => ['/', '\\', ' ', '"', '$'].contains c

/-- Whether what stands behind the slash of an address is a database and options. -/
def isTail (text : List Char) : Bool :=
  match cutAtFirst? '?' text with
  | none => isDatabase text
  | some (database, options) =>
    isDatabase database && (options.isEmpty || areOptions [] (pieces '&' options))

/-- Whether what stands between scheme and slash is hosts, perhaps with who asks. -/
def isAuthority (scheme : Scheme) (text : List Char) : Bool :=
  match cutAtLast? '@' text with
  | none => areHosts scheme (pieces ',' text)
  | some (credentials, hosts) => areCredentials credentials && areHosts scheme (pieces ',' hosts)

/-- The scheme of an address, if the address is written as it should be. -/
def parse? (uri : String) : Option Scheme :=
  match cutScheme? uri.toList with
  | none => none
  | some (word, rest) =>
    (schemeOf? word).filter fun scheme =>
      match cutAtFirst? '/' rest with
      | none => !rest.contains '?' && isAuthority scheme rest
      | some (authority, tail) => isAuthority scheme authority && isTail tail

end StaffSearch.ConnectionString
