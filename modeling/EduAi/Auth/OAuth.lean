import EduAi.Auth.Tokens
import EduAi.Store.OneTime
import EduAi.Store.Trim

set_option autoImplicit false

namespace EduAi.Auth

open EduAi.Store

inductive SocialOAuthProvider where
  | facebook | zalo
deriving DecidableEq, Repr

inductive OAuthMode where
  | login | register
deriving DecidableEq, Repr

inductive OAuthRegistrationRole where
  | student | instructor
deriving DecidableEq, Repr

inductive OAuthTicketKind where
  | session | onboarding | profile
deriving DecidableEq, Repr

structure OAuthStateRecord where
  provider : SocialOAuthProvider
  mode : OAuthMode
  role : Option OAuthRegistrationRole
  createdAt : Instant
deriving DecidableEq, Repr

structure OAuthTicketRecord where
  kind : OAuthTicketKind
  mode : OAuthMode
  provider : SocialOAuthProvider
  userId : Option Uuid
  externalIdentityId : Option Uuid
  role : Option OAuthRegistrationRole
  requiresEmail : Option Bool
  expiresAt : Instant
deriving DecidableEq, Repr

-- What a provider answers for a code. Its email has been trimmed and lower-cased.
structure OAuthIdentity where
  providerUserId : String
  email : Option String
deriving DecidableEq, Repr

structure OAuthUser where
  id : Uuid
  email : String
  status : UserStatus
  deleted : Bool
deriving DecidableEq, Repr

structure ExternalIdentity where
  id : Uuid
  provider : SocialOAuthProvider
  providerUserId : String
  userId : Option Uuid
  providerEmail : Option String
  pendingExpiresAt : Option Instant
deriving DecidableEq, Repr

structure OAuthProfileDto where
  role : OAuthRegistrationRole
  email : Option String
deriving DecidableEq, Repr

structure OAuthConfig where
  stateTtlSeconds : Nat
  ticketTtlSeconds : Nat
  facebook : Bool
  zalo : Bool

-- Who the provider said the client is.
abbrev Subject := SocialOAuthProvider × String

def ExternalIdentity.subject (e : ExternalIdentity) : Subject :=
  (e.provider, e.providerUserId)

structure OAuthTicket where
  record : OAuthTicketRecord
  subject : Subject
deriving DecidableEq, Repr

-- Where a request stands between two of its statements. After the provider has answered it goes with the subject.
inductive OAuthStage where
  | returned (state : OAuthStateRecord)
  | identified (state : OAuthStateRecord) (identity : OAuthIdentity)
  | linkedTo (subject : Subject) (state : OAuthStateRecord) (userId : Uuid)
  | unlinked (state : OAuthStateRecord) (identity : OAuthIdentity) (existing : Option Uuid)
  | pending (state : OAuthStateRecord) (identity : OAuthIdentity) (existing : Option Uuid)
  | granted (subject : Subject) (record : OAuthTicketRecord) (ttlSeconds : Nat)
  | exchanged (subject : Subject) (userId : Uuid)
  | entering (subject : Subject) (user : OAuthUser)
  | completing (subject : Subject) (record : OAuthTicketRecord) (externalId : Uuid) (input : OAuthProfileDto)
  | profiled (subject : Subject) (externalId : Uuid) (email : String)
  | creating (subject : Subject) (externalId : Uuid) (email : String)
  | ended
deriving DecidableEq, Repr

-- The tables, the two one-time stores and the requests under way; and, for the record, the accounts opened elsewhere, the
-- links made with the identity each of them is of, and the sessions issued with the identity they were issued for.
structure OAuthSystem where
  users : List OAuthUser
  externals : List ExternalIdentity
  states : OneTime OAuthStateRecord
  tickets : OneTime OAuthTicket
  now : Instant
  requests : List OAuthStage
  accounts : List Uuid
  links : List (Uuid × Subject)
  sessions : List (Uuid × Subject)

inductive OAuthEvent where
  | elapse (ms : Nat)
  | setUser (user : OAuthUser)
  | start (provider : SocialOAuthProvider) (mode : OAuthMode) (role : Option OAuthRegistrationRole) (value : String)
  | callback (provider : SocialOAuthProvider) (value : String) (cancelled : Bool)
  | identify (n : Nat) (identity : OAuthIdentity)
  | readExternal (n : Nat)
  | readLinked (n : Nat)
  | readEmail (n : Nat)
  | savePending (n : Nat) (rowId : Uuid)
  | giveTicket (n : Nat) (value : String)
  | exchange (value : String)
  | readSession (n : Nat)
  | openSession (n : Nat)
  | complete (value : String) (input : OAuthProfileDto)
  | readPending (n : Nat)
  | readTaken (n : Nat)
  | link (n : Nat) (userId : Uuid)
deriving DecidableEq, Repr

def profileTicketTtlSeconds : Nat :=
  10 * 60

-- /^[^\s@]+@[^\s@]+\.[^\s@]+$/, at most 254 long.
def isValidEmail (text : String) : Bool :=
  text.toList.length ≤ 254 && text.toList.all (fun c => ¬ isJsSpace c) &&
    match text.toList.splitOn '@' with
    | [name, domain] => name ≠ [] && (domain.drop 1).dropLast.contains '.'
    | _ => false

def assertActiveUser (user : OAuthUser) : Bool :=
  user.status = .active ∧ user.deleted = false

section Requests

variable (config : OAuthConfig)

def OAuthConfig.enabled (provider : SocialOAuthProvider) : Bool :=
  match provider with
  | .facebook => config.facebook
  | .zalo => config.zalo

def isFreshState (now : Instant) (state : OAuthStateRecord) : Bool :=
  state.createdAt ≤ now + 30000 ∧ now - state.createdAt ≤ config.stateTtlSeconds * 1000 ∧
    (state.mode = .register → state.role.isSome)

def userById (s : OAuthSystem) (id : Uuid) : Option OAuthUser :=
  s.users.find? (fun u => u.id = id)

def userByEmail (s : OAuthSystem) (email : String) : Option OAuthUser :=
  s.users.find? (fun u => u.email = email)

def externalById (s : OAuthSystem) (id : Uuid) : Option ExternalIdentity :=
  s.externals.find? (fun e => e.id = id)

def externalOf (s : OAuthSystem) (subject : Subject) : Option ExternalIdentity :=
  s.externals.find? (fun e => e.subject = subject)

def setRequest (s : OAuthSystem) (n : Nat) (stage : OAuthStage) : OAuthSystem :=
  { s with requests := s.requests.set n stage }

def addRequest (s : OAuthSystem) (stage : OAuthStage) : OAuthSystem :=
  { s with requests := s.requests ++ [stage] }

def afterExternal (state : OAuthStateRecord) (identity : OAuthIdentity) (existing : Option ExternalIdentity) : OAuthStage :=
  match existing.bind (fun e => e.userId) with
  | some userId => if state.mode = .register then .ended else .linkedTo (state.provider, identity.providerUserId) state userId
  | none =>
      match identity.email with
      | some _ => .unlinked state identity (existing.map (fun e => e.id))
      | none => .pending state identity (existing.map (fun e => e.id))

def sessionTicket (config : OAuthConfig) (now : Instant) (state : OAuthStateRecord) (userId : Uuid) : OAuthTicketRecord where
  kind := .session
  mode := state.mode
  provider := state.provider
  userId := some userId
  externalIdentityId := none
  role := none
  requiresEmail := none
  expiresAt := now + config.ticketTtlSeconds * 1000

def onboardingTicket (config : OAuthConfig) (now : Instant) (state : OAuthStateRecord) (identity : OAuthIdentity) (externalId : Uuid) :
    OAuthTicketRecord where
  kind := .onboarding
  mode := state.mode
  provider := state.provider
  userId := none
  externalIdentityId := some externalId
  role := state.role
  requiresEmail := some identity.email.isNone
  expiresAt := now + config.ticketTtlSeconds * 1000

def afterLinked (now : Instant) (subject : Subject) (state : OAuthStateRecord) (user : Option OAuthUser) : OAuthStage :=
  match user with
  | some user =>
      if assertActiveUser user then .granted subject (sessionTicket config now state user.id) config.ticketTtlSeconds else .ended
  | none => .ended

def pendingUntil (now : Instant) : Instant :=
  now + profileTicketTtlSeconds * 1000

-- The update of a known identity and the insert of a new one, which the unique index on provider and user may refuse.
def savePending (s : OAuthSystem) (n : Nat) (state : OAuthStateRecord) (identity : OAuthIdentity) (existing : Option Uuid) (rowId : Uuid) :
    OAuthSystem :=
  let subject := (state.provider, identity.providerUserId)
  match existing with
  | some id =>
      setRequest { s with
        externals := updateWhere (fun e => e.id = id)
          (fun e => { e with pendingExpiresAt := some (pendingUntil s.now), providerEmail := identity.email }) s.externals }
        n (.granted subject (onboardingTicket config s.now state identity id) config.ticketTtlSeconds)
  | none =>
      if s.externals.all (fun e => e.id ≠ rowId ∧ e.subject ≠ subject) then
        setRequest { s with
          externals := s.externals ++ [{
            id := rowId
            provider := state.provider
            providerUserId := identity.providerUserId
            userId := none
            providerEmail := identity.email
            pendingExpiresAt := some (pendingUntil s.now) }] }
          n (.granted subject (onboardingTicket config s.now state identity rowId) config.ticketTtlSeconds)
      else setRequest s n .ended

def afterExchange (now : Instant) (ticket : OAuthTicket) : OAuthStage :=
  if ticket.record.expiresAt ≤ now then .ended
  else if ticket.record.kind = .session then
    match ticket.record.userId with
    | some userId => .exchanged ticket.subject userId
    | none => .ended
  else
    match ticket.record.externalIdentityId with
    | some _ =>
        .granted ticket.subject
          { ticket.record with
            kind := .onboarding
            requiresEmail := some (ticket.record.requiresEmail.getD true)
            expiresAt := pendingUntil now }
          profileTicketTtlSeconds
    | none => .ended

def afterComplete (now : Instant) (input : OAuthProfileDto) (ticket : OAuthTicket) : OAuthStage :=
  if ticket.record.kind = .session ∨ ticket.record.expiresAt ≤ now then .ended
  else
    match ticket.record.externalIdentityId with
    | some externalId => .completing ticket.subject ticket.record externalId input
    | none => .ended

def afterPending (now : Instant) (subject : Subject) (record : OAuthTicketRecord) (input : OAuthProfileDto)
    (external : Option ExternalIdentity) :
    OAuthStage :=
  match external with
  | some e =>
      if e.provider = record.provider ∧ e.userId = none ∧ (∃ until_ ∈ e.pendingExpiresAt, now < until_) ∧
          ¬ (record.mode = .register ∧ record.role = none) ∧ (∀ role ∈ record.role, role = input.role) then
        match e.providerEmail.or input.email with
        | some email => if isValidEmail email then .profiled subject e.id email else .ended
        | none => .ended
      else .ended
  | none => .ended

def newUser (userId : Uuid) (email : String) : OAuthUser where
  id := userId
  email := email
  status := .active
  deleted := false

-- The transaction's writes at its commit: the new user, whose email is unique, the link, and the session. The update names
-- the identity by its id only.
def linkAndOpen (s : OAuthSystem) (subject : Subject) (e : ExternalIdentity) (email : String) (userId : Uuid) : OAuthSystem :=
  { s with
    users := s.users ++ [newUser userId email]
    externals := updateWhere (fun x => x.id = e.id)
      (fun x => { x with userId := some userId, pendingExpiresAt := none, providerEmail := some email }) s.externals
    links := s.links ++ [(userId, e.subject)]
    sessions := s.sessions ++ [(userId, subject)] }

def linkable (s : OAuthSystem) (email : String) (userId : Uuid) : Bool :=
  s.users.all (fun u => u.email ≠ email ∧ u.id ≠ userId)

def linkStep (s : OAuthSystem) (n : Nat) (subject : Subject) (externalId : Uuid) (email : String) (userId : Uuid) : OAuthSystem :=
  match externalById s externalId with
  | some e => if linkable s email userId then setRequest (linkAndOpen s subject e email userId) n .ended else setRequest s n .ended
  | none => setRequest s n .ended

def oauthStep (s : OAuthSystem) : OAuthEvent → OAuthSystem
  | .elapse ms => { s with now := s.now + ms }
  | .setUser user =>
      if s.users.any (fun u => u.id = user.id) then
        { s with users := updateWhere (fun u => u.id = user.id) (fun _ => user) s.users }
      else
        { s with
          users := s.users ++ [user]
          accounts := s.accounts ++ [user.id] }
  | .start provider mode role value =>
      if config.enabled provider ∧ (mode = .register ↔ role.isSome) then
        { s with states := s.states.set value (s.now + config.stateTtlSeconds * 1000) { provider, mode, role, createdAt := s.now } }
      else s
  | .callback provider value cancelled =>
      let s' := { s with states := s.states.consume s.now value }
      match s.states.live s.now value with
      | some state =>
          if isFreshState config s.now state ∧ state.provider = provider ∧ cancelled = false then addRequest s' (.returned state) else s'
      | none => s'
  | .identify n identity =>
      match s.requests[n]? with
      | some (.returned state) => setRequest s n (.identified state identity)
      | _ => s
  | .readExternal n =>
      match s.requests[n]? with
      | some (.identified state identity) =>
          setRequest s n (afterExternal state identity (externalOf s (state.provider, identity.providerUserId)))
      | _ => s
  | .readLinked n =>
      match s.requests[n]? with
      | some (.linkedTo subject state userId) => setRequest s n (afterLinked config s.now subject state (userById s userId))
      | _ => s
  | .readEmail n =>
      match s.requests[n]? with
      | some (.unlinked state identity existing) =>
          setRequest s n (if (identity.email.bind (userByEmail s)).isSome then .ended else .pending state identity existing)
      | _ => s
  | .savePending n rowId =>
      match s.requests[n]? with
      | some (.pending state identity existing) => savePending config s n state identity existing rowId
      | _ => s
  | .giveTicket n value =>
      match s.requests[n]? with
      | some (.granted subject record ttlSeconds) =>
          setRequest { s with tickets := s.tickets.set value (s.now + ttlSeconds * 1000) { record, subject } } n .ended
      | _ => s
  | .exchange value =>
      let s' := { s with tickets := s.tickets.consume s.now value }
      match s.tickets.live s.now value with
      | some ticket => addRequest s' (afterExchange s.now ticket)
      | none => s'
  | .readSession n =>
      match s.requests[n]? with
      | some (.exchanged subject userId) =>
          setRequest s n (match (userById s userId).filter assertActiveUser with
            | some user => .entering subject user
            | none => .ended)
      | _ => s
  | .openSession n =>
      match s.requests[n]? with
      | some (.entering subject user) => setRequest { s with sessions := s.sessions ++ [(user.id, subject)] } n .ended
      | _ => s
  | .complete value input =>
      if input.email.all isValidEmail then
        let s' := { s with tickets := s.tickets.consume s.now value }
        match s.tickets.live s.now value with
        | some ticket => addRequest s' (afterComplete s.now input ticket)
        | none => s'
      else s
  | .readPending n =>
      match s.requests[n]? with
      | some (.completing subject record externalId input) =>
          setRequest s n (afterPending s.now subject record input (externalById s externalId))
      | _ => s
  | .readTaken n =>
      match s.requests[n]? with
      | some (.profiled subject externalId email) =>
          setRequest s n (if (userByEmail s email).isSome then .ended else .creating subject externalId email)
      | _ => s
  | .link n userId =>
      match s.requests[n]? with
      | some (.creating subject externalId email) => linkStep s n subject externalId email userId
      | _ => s

end Requests

end EduAi.Auth
