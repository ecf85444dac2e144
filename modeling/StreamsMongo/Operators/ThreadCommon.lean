import StreamsMongo.Library.Machine
import StreamsMongo.Shared.BsonData

set_option autoImplicit false

namespace StreamsMongo.ThreadCommon

inductive Credentials where
  | params (doc : BSONObj)
  | password (db username password : String)

structure Config where
  autoReconnect : Bool
  authentication : Option BSONObj
  login : Option (String × String)

def Config.credentials (cfg : Config) (db : String) : Option Credentials :=
  match cfg.authentication, cfg.login with
  | some doc, _ => some (.params doc)
  | none, some (username, password) => some (.password db username password)
  | none, none => none

def buildConnUrl (dbHost : String) (dbPort : UInt32) : String :=
  dbHost ++ ":" ++ toString dbPort.toNat

structure Request where
  db : String
  dbHost : String
  dbPort : UInt32

def Request.connUrl (request : Request) : String := buildConnUrl request.dbHost request.dbPort

structure DBClientConnection where
  failed : Bool := false
  server : String := ""
  authenticated : List Credentials := []
  authCache : List Credentials := []

namespace DBClientConnection

-- The driver remembers the server for reconnects, also when it cannot be reached.
def connect (conn : DBClientConnection) (connUrl : String) (reached : Bool) : DBClientConnection :=
  { conn with server := connUrl, failed := !reached }

def auth (conn : DBClientConnection) (credentials : Credentials) : DBClientConnection :=
  { conn with
    authenticated := credentials :: conn.authenticated
    authCache := credentials :: conn.authCache }

end DBClientConnection

structure Attempt where
  connect : Except String Unit
  auth : Except String Unit

def Attempt.success : Attempt := ⟨.ok (), .ok ()⟩

inductive DriverEvent where
  | lose
  | reconnect

def DriverEvent.apply (cfg : Config) (conn : DBClientConnection) :
    DriverEvent → DBClientConnection
  | .lose => { conn with failed := true, authenticated := [] }
  | .reconnect =>
      if conn.failed && cfg.autoReconnect then
        { conn with failed := false, authenticated := conn.authCache }
      else conn

def caught (cfg : Config) (what : String) : Except Raised Unit :=
  if cfg.autoReconnect then .ok () else .error (.splRuntime what)

def getDBClientConnection (cfg : Config) (request : Request) (attempt : Attempt) :
    Option DBClientConnection → DBClientConnection × Except Raised Unit
  | some conn => (conn, .ok ())
  | none =>
      -- The slot is set before the connection is opened, so every path below leaves it set.
      let conn : DBClientConnection := {}
      match attempt.connect with
      | .error what => (conn.connect request.connUrl false, caught cfg what)
      | .ok _ =>
          let conn := conn.connect request.connUrl true
          match cfg.credentials request.db, attempt.auth with
          | none, _ => (conn, .ok ())
          | some credentials, .ok _ => (conn.auth credentials, .ok ())
          | some _, .error what => (conn, caught cfg what)

def aborted (request : Request) : Raised :=
  .splRuntime ("Connection to " ++ request.connUrl ++ " aborted")

inductive Event where
  -- `meanwhile` happens between the test of `isFailed` and the driver call of the operation.
  | call (request : Request) (attempt : Attempt) (meanwhile : List DriverEvent)
  | driver (event : DriverEvent)

structure Answer where
  raised : Option Raised := none
  issued : Option DBClientConnection := none

def useConnection (cfg : Config) (request : Request) (meanwhile : List DriverEvent) :
    DBClientConnection × Except Raised Unit → DBClientConnection × Answer
  | (conn, .error e) => (conn, { raised := some e })
  | (conn, .ok _) =>
      -- `isStillConnected` looks at the socket and leaves the connection as it is.
      if conn.failed && !cfg.autoReconnect then (conn, { raised := some (aborted request) })
      else
        let conn := meanwhile.foldl (DriverEvent.apply cfg) conn
        (conn, { issued := if conn.failed then none else some conn })

def step (cfg : Config) (slot : Option DBClientConnection) :
    Event → Option DBClientConnection × Answer
  | .driver event => (slot.map fun conn => event.apply cfg conn, {})
  | .call request attempt meanwhile =>
      let used := useConnection cfg request meanwhile
        (getDBClientConnection cfg request attempt slot)
      (some used.1, used.2)

end StreamsMongo.ThreadCommon
