import StreamsMongo.Operators.ThreadCommon

set_option autoImplicit false

namespace StreamsMongo.ThreadCommon

section Authenticated

variable (cfg : Config) (credentials : Credentials)

def Attempt.Sound (attempt : Attempt) : Prop :=
  match attempt.connect, attempt.auth with
  | .ok _, .ok _ => True
  | .error _, _ => cfg.autoReconnect = false
  | .ok _, .error _ => False

-- Only the call that finds the slot empty opens a connection.
def Sound : Option DBClientConnection → Event → Prop
  | none, .call _ attempt _ => attempt.Sound cfg
  | _, _ => True

/-- Authenticated while it is connected and again after each reconnect, or failed for good. -/
def DBClientConnection.Ready (conn : DBClientConnection) : Prop :=
  (credentials ∈ conn.authCache ∧ (conn.failed = false → credentials ∈ conn.authenticated)) ∨
    (conn.failed = true ∧ cfg.autoReconnect = false)

theorem apply_ready (conn : DBClientConnection) (event : DriverEvent)
    (ready : conn.Ready cfg credentials) : (event.apply cfg conn).Ready cfg credentials := by
  cases event with
  | lose =>
    rcases ready with ⟨cached, _⟩ | ⟨_, single⟩
    · exact Or.inl ⟨cached, nofun⟩
    · exact Or.inr ⟨rfl, single⟩
  | reconnect =>
    unfold DriverEvent.apply
    split_ifs with reopens
    · rw [Bool.and_eq_true] at reopens
      rcases ready with ⟨cached, _⟩ | ⟨_, single⟩
      · exact Or.inl ⟨cached, fun _ => cached⟩
      · exact absurd (single.symm.trans reopens.2) (by decide)
    · exact ready

theorem foldl_apply_ready (events : List DriverEvent) (conn : DBClientConnection)
    (ready : conn.Ready cfg credentials) :
    (events.foldl (DriverEvent.apply cfg) conn).Ready cfg credentials := by
  induction events generalizing conn with
  | nil => exact ready
  | cons event rest ih => exact ih _ (apply_ready cfg credentials conn event ready)

def SlotReady (slot : Option DBClientConnection) : Prop :=
  ∀ conn ∈ slot, conn.Ready cfg credentials

theorem opened_ready (request : Request) (attempt : Attempt) (sound : attempt.Sound cfg)
    (configured : cfg.credentials request.db = some credentials) :
    (getDBClientConnection cfg request attempt none).1.Ready cfg credentials := by
  obtain ⟨connect, auth⟩ := attempt
  cases connect with
  | error what => exact Or.inr ⟨rfl, sound⟩
  | ok _ =>
    cases auth with
    | error what => exact absurd sound id
    | ok _ =>
      refine Or.inl ?_
      simp [getDBClientConnection, configured, DBClientConnection.auth]

def Event.Asks (request : Request) : Event → Prop
  | .call asked _ _ => asked = request
  | .driver _ => True

def Answer.Authenticated (answer : Answer) : Prop :=
  ∀ conn ∈ answer.issued, credentials ∈ conn.authenticated

theorem fetched_ready (request : Request) (attempt : Attempt) (meanwhile : List DriverEvent)
    (configured : cfg.credentials request.db = some credentials)
    (slot : Option DBClientConnection) (ready : SlotReady cfg credentials slot)
    (sound : Sound cfg slot (.call request attempt meanwhile)) :
    (getDBClientConnection cfg request attempt slot).1.Ready cfg credentials := by
  cases slot with
  | none => exact opened_ready cfg credentials request attempt sound configured
  | some conn => exact ready conn rfl

theorem useConnection_ready (request : Request) (meanwhile : List DriverEvent)
    (conn : DBClientConnection) (returned : Except Raised Unit)
    (ready : conn.Ready cfg credentials) :
    (useConnection cfg request meanwhile (conn, returned)).1.Ready cfg credentials ∧
      (useConnection cfg request meanwhile (conn, returned)).2.Authenticated credentials := by
  cases returned with
  | error e => exact ⟨ready, nofun⟩
  | ok _ =>
    simp only [useConnection]
    split_ifs with throws failed
    · exact ⟨ready, nofun⟩
    · exact ⟨foldl_apply_ready cfg credentials meanwhile conn ready, nofun⟩
    · have later := foldl_apply_ready cfg credentials meanwhile conn ready
      refine ⟨later, ?_⟩
      intro issued member
      cases member
      rcases later with ⟨_, connected⟩ | ⟨dead, _⟩
      · exact connected (by simpa using failed)
      · exact absurd dead failed

theorem step_ready (request : Request)
    (configured : cfg.credentials request.db = some credentials)
    (slot : Option DBClientConnection) (event : Event) (ready : SlotReady cfg credentials slot)
    (asks : event.Asks request) (sound : Sound cfg slot event) :
    SlotReady cfg credentials (step cfg slot event).1 ∧
      (step cfg slot event).2.Authenticated credentials := by
  cases event with
  | driver event =>
    constructor
    · intro conn member
      obtain ⟨before, held, rfl⟩ := Option.map_eq_some_iff.mp member
      exact apply_ready cfg credentials before event (ready before held)
    · exact nofun
  | call asked attempt meanwhile =>
    cases asks
    have fetched := fetched_ready cfg credentials request attempt meanwhile configured slot ready
      sound
    have used := useConnection_ready cfg credentials request meanwhile _
      (getDBClientConnection cfg request attempt slot).2 fetched
    refine ⟨?_, used.2⟩
    intro conn member
    cases member
    exact used.1

theorem run_authenticated (request : Request)
    (configured : cfg.credentials request.db = some credentials)
    (slot : Option DBClientConnection) (ready : SlotReady cfg credentials slot)
    (events : List Event) (asks : ∀ event ∈ events, event.Asks request)
    (sound : Machine.Along (step cfg) (Sound cfg) slot events) :
    ∀ answer ∈ (Machine.run (step cfg) slot events).2, answer.Authenticated credentials := by
  induction events generalizing slot with
  | nil => simp [Machine.run]
  | cons event rest ih =>
    obtain ⟨next, here⟩ := step_ready cfg credentials request configured slot event ready
      (asks event (by simp)) sound.1
    intro answer member
    rcases List.mem_cons.mp member with rfl | later
    · exact here
    · exact ih _ next (fun event member => asks event (by simp [member])) sound.2 answer later

def DBClientConnection.Stranded (conn : DBClientConnection) : Prop :=
  conn.authenticated = [] ∧ conn.authCache = [] ∧ (conn.failed = true → cfg.autoReconnect = true)

theorem foldl_apply_bare (events : List DriverEvent) (conn : DBClientConnection)
    (bare : conn.authenticated = [] ∧ conn.authCache = []) :
    (events.foldl (DriverEvent.apply cfg) conn).authenticated = [] ∧
      (events.foldl (DriverEvent.apply cfg) conn).authCache = [] := by
  induction events generalizing conn with
  | nil => exact bare
  | cons event rest ih =>
    apply ih
    cases event with
    | lose => exact ⟨rfl, bare.2⟩
    | reconnect =>
      unfold DriverEvent.apply
      split_ifs
      · exact ⟨bare.2, bare.2⟩
      · exact bare

theorem unsound_stranded (request : Request) (attempt : Attempt) (meanwhile : List DriverEvent)
    (configured : cfg.credentials request.db = some credentials)
    (unsound : ¬ attempt.Sound cfg) :
    (useConnection cfg request meanwhile
      (getDBClientConnection cfg request attempt none)).1.Stranded cfg := by
  obtain ⟨connect, auth⟩ := attempt
  have bare := foldl_apply_bare cfg meanwhile
  cases reconnecting : cfg.autoReconnect with
  | true =>
    -- The exception is only logged, so the connection is used by this very call.
    cases connect with
    | error what =>
      simp only [getDBClientConnection, caught, reconnecting, useConnection, if_true,
        Bool.not_true, Bool.and_false, Bool.false_eq_true, if_false]
      exact ⟨(bare _ ⟨rfl, rfl⟩).1, (bare _ ⟨rfl, rfl⟩).2, fun _ => reconnecting⟩
    | ok _ =>
      cases auth with
      | ok _ => exact absurd trivial unsound
      | error what =>
        simp only [getDBClientConnection, configured, caught, reconnecting, useConnection, if_true,
          Bool.not_true, Bool.and_false, Bool.false_eq_true, if_false]
        exact ⟨(bare _ ⟨rfl, rfl⟩).1, (bare _ ⟨rfl, rfl⟩).2, fun _ => reconnecting⟩
  | false =>
    cases connect with
    | error what => exact absurd reconnecting unsound
    | ok _ =>
      cases auth with
      | ok _ => exact absurd trivial unsound
      | error what =>
        simp only [getDBClientConnection, configured, caught, reconnecting, useConnection,
          Bool.false_eq_true, if_false]
        exact ⟨rfl, rfl, nofun⟩

theorem stranded_unauthenticated (request : Request) (attempt : Attempt)
    (conn : DBClientConnection) (stranded : conn.Stranded cfg) :
    ¬ (step cfg (some conn) (.call request attempt [.reconnect])).2.Authenticated credentials := by
  obtain ⟨authenticated, authCache, reopens⟩ := stranded
  have passes : (conn.failed && !cfg.autoReconnect) = false := by
    cases failed : conn.failed with
    | false => rfl
    | true => rw [reopens failed]; rfl
  have connected : (DriverEvent.apply cfg conn .reconnect).failed = false := by
    cases failed : conn.failed with
    | false => simp [DriverEvent.apply, failed]
    | true => simp [DriverEvent.apply, failed, reopens failed]
  have bare := foldl_apply_bare cfg [.reconnect] conn ⟨authenticated, authCache⟩
  simp only [List.foldl_cons, List.foldl_nil] at bare
  intro all
  have issued : (DriverEvent.apply cfg conn .reconnect) ∈
      (step cfg (some conn) (.call request attempt [.reconnect])).2.issued := by
    simp [step, getDBClientConnection, useConnection, passes, connected]
  have member := all _ issued
  rw [bare.1] at member
  cases member

end Authenticated

/-- After any opening that is not sound, some run issues an unauthenticated operation. -/
theorem credentials_before_operations (cfg : Config) (request : Request)
    (credentials : Credentials) (configured : cfg.credentials request.db = some credentials) :
    (∀ events : List Event, (∀ event ∈ events, event.Asks request) →
      Machine.Along (step cfg) (Sound cfg) none events →
      ∀ answer ∈ (Machine.run (step cfg) none events).2, answer.Authenticated credentials) ∧
    (∀ (attempt : Attempt) (meanwhile : List DriverEvent), ¬ attempt.Sound cfg →
      ∃ answer ∈ (Machine.run (step cfg) none
        [.call request attempt meanwhile, .call request attempt [.reconnect]]).2,
        ¬ answer.Authenticated credentials) := by
  constructor
  · intro events asks sound
    exact run_authenticated cfg credentials request configured none nofun events asks sound
  · intro attempt meanwhile unsound
    refine ⟨_, List.mem_cons_of_mem _ (List.mem_singleton_self _), ?_⟩
    exact stranded_unauthenticated cfg credentials request attempt _
      (unsound_stranded cfg credentials request attempt meanwhile configured unsound)

def sampleConfig : Config := ⟨true, none, some ("mongouser", "passw0rd")⟩

def sampleRequest : Request := ⟨"streams", "localhost", 27017⟩

theorem credentials_before_operations_login :
    (∀ events : List Event, (∀ event ∈ events, event.Asks sampleRequest) →
      Machine.Along (step sampleConfig) (Sound sampleConfig) none events →
      ∀ answer ∈ (Machine.run (step sampleConfig) none events).2,
        answer.Authenticated (.password "streams" "mongouser" "passw0rd")) ∧
    (∀ (attempt : Attempt) (meanwhile : List DriverEvent), ¬ attempt.Sound sampleConfig →
      ∃ answer ∈ (Machine.run (step sampleConfig) none
        [.call sampleRequest attempt meanwhile, .call sampleRequest attempt [.reconnect]]).2,
        ¬ answer.Authenticated (.password "streams" "mongouser" "passw0rd")) :=
  credentials_before_operations sampleConfig sampleRequest
    (.password "streams" "mongouser" "passw0rd") rfl

theorem unauthenticated_after_reconnect :
    (Machine.run (step sampleConfig) none
      [.call sampleRequest ⟨.error "couldn't connect to server", .ok ()⟩ [],
        .call sampleRequest .success [.reconnect]]).2 =
      [{}, { issued := some { server := sampleRequest.connUrl, authenticated := [] } }] ∧
    ¬ ({ issued := some { server := sampleRequest.connUrl, authenticated := [] } } :
      Answer).Authenticated (.password "streams" "mongouser" "passw0rd") := by
  refine ⟨rfl, ?_⟩
  intro all
  cases all _ rfl

section Requests

variable (cfg : Config)

def fetch (slot : Option DBClientConnection) (request : Request) :
    Option DBClientConnection × (DBClientConnection × Except Raised Unit) :=
  let fetched := getDBClientConnection cfg request .success slot
  (some fetched.1, fetched)

def Matches (request : Request) (fetched : DBClientConnection × Except Raised Unit) : Prop :=
  fetched.2 = .ok () ∧ fetched.1.failed = false ∧ fetched.1.server = request.connUrl ∧
    ∀ username password, cfg.login = some (username, password) →
      .password request.db username password ∈ fetched.1.authenticated

def opened (request : Request) : DBClientConnection × Except Raised Unit :=
  getDBClientConnection cfg request .success none

theorem fetch_opened (request : Request) :
    (opened cfg request).2 = .ok () ∧ (opened cfg request).1.failed = false ∧
      (opened cfg request).1.server = request.connUrl ∧
      (opened cfg request).1.authenticated = (cfg.credentials request.db).toList := by
  unfold opened getDBClientConnection Attempt.success
  cases configured : cfg.credentials request.db with
  | none => simp [DBClientConnection.connect]
  | some credentials => simp [DBClientConnection.connect, DBClientConnection.auth]

-- The first request opens the connection that all of them get.
theorem run_fetch (first : Request) (rest : List Request) :
    (Machine.run (fetch cfg) none (first :: rest)).2 =
      (first :: rest).map fun _ => opened cfg first := by
  rw [Machine.run, List.map_cons]
  refine congrArg (opened cfg first :: ·) ?_
  have returned := (fetch_opened cfg first).1
  apply Machine.run_outputs (fetch cfg) (fun slot => slot = some (opened cfg first).1)
    (fun _ => True)
  · rintro _ request rfl _
    rfl
  · rintro _ request rfl _
    exact Prod.ext rfl returned.symm
  · rfl
  · exact fun _ _ => trivial

theorem matches_opened (first request : Request) :
    Matches cfg request (opened cfg first) ↔
      request.connUrl = first.connUrl ∧
        (cfg.login ≠ none → cfg.authentication = none ∧ request.db = first.db) := by
  obtain ⟨returned, connected, server, authenticated⟩ := fetch_opened cfg first
  simp only [Matches, returned, connected, server, authenticated, true_and]
  refine and_congr eq_comm ?_
  obtain ⟨autoReconnect, authentication, login⟩ := cfg
  cases login with
  | none => simp
  | some login =>
    obtain ⟨username, password⟩ := login
    cases authentication with
    | none => simp [Config.credentials]
    | some doc => simp [Config.credentials]

theorem every_request_matched (cfg : Config) (first : Request) (rest : List Request) :
    List.Forall₂ (Matches cfg) (first :: rest)
        (Machine.run (fetch cfg) none (first :: rest)).2 ↔
      ∀ request ∈ first :: rest, request.connUrl = first.connUrl ∧
        (cfg.login ≠ none → cfg.authentication = none ∧ request.db = first.db) := by
  rw [run_fetch, List.forall₂_map_right_iff, List.forall₂_same]
  exact forall₂_congr fun request _ => matches_opened cfg first request

def archiveRequest : Request := ⟨"archive", "localhost", 27017⟩

theorem second_database_unauthenticated :
    (Machine.run (fetch sampleConfig) none [sampleRequest, archiveRequest]).2 =
        [opened sampleConfig sampleRequest, opened sampleConfig sampleRequest] ∧
      (opened sampleConfig sampleRequest).1.authenticated =
        [.password "streams" "mongouser" "passw0rd"] ∧
      ¬ Matches sampleConfig archiveRequest (opened sampleConfig sampleRequest) := by
  refine ⟨rfl, rfl, ?_⟩
  rintro ⟨_, _, _, authenticated⟩
  have member := authenticated "mongouser" "passw0rd" rfl
  simp [opened, getDBClientConnection, Attempt.success, Config.credentials, sampleConfig,
    sampleRequest, archiveRequest, DBClientConnection.auth, DBClientConnection.connect] at member

end Requests

end StreamsMongo.ThreadCommon
