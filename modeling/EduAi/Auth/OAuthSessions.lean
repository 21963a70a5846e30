import EduAi.Auth.OAuthLinks

set_option autoImplicit false

namespace EduAi.Auth

open EduAi.Store

def LinksStand (s : OAuthSystem) : Prop :=
  ∀ x ∈ s.links, ∃ e ∈ s.externals, e.subject = x.2 ∧ e.userId = some x.1

instance (s : OAuthSystem) : Decidable (LinksStand s) := by
  unfold LinksStand
  infer_instance

-- Links stand, and every session was issued for the user linked to the identity the provider has returned.
structure OAuthProper (s : OAuthSystem) : Prop where
  linked : LinksStand s
  sessions : ∀ x ∈ s.sessions, ∃ e ∈ s.externals, e.subject = x.2 ∧ e.userId = some x.1

def linksFirst (s : OAuthSystem) : OAuthEvent → Prop
  | .link n userId =>
      match s.requests[n]? with
      | some (.creating _ externalId email) => linkable s email userId = true → ∀ e ∈ externalById s externalId, e.userId = none
      | _ => True
  | _ => True

instance (s : OAuthSystem) (e : OAuthEvent) : Decidable (linksFirst s e) := by
  unfold linksFirst
  split
  · split <;> infer_instance
  · infer_instance

structure Stays (s t : OAuthSystem) : Prop where
  links : t.links = s.links
  users : ∀ e ∈ s.externals, ∃ e' ∈ t.externals, e'.subject = e.subject ∧ e'.userId = e.userId

theorem stays_same (s t : OAuthSystem) (links : t.links = s.links) (externals : t.externals = s.externals) : Stays s t :=
  ⟨links, fun e member => ⟨e, externals ▸ member, rfl, rfl⟩⟩

theorem stays_links (s t : OAuthSystem) (stays : Stays s t) (stand : LinksStand s) : LinksStand t := by
  intro x member
  rw [stays.links] at member
  obtain ⟨e, listed, same, linked⟩ := stand x member
  obtain ⟨e', listed', kept, user⟩ := stays.users e listed
  exact ⟨e', listed', kept.trans same, user.trans linked⟩

theorem savePending_stays (config : OAuthConfig) (s : OAuthSystem) (n : Nat) (state : OAuthStateRecord) (identity : OAuthIdentity)
    (existing : Option Uuid) (rowId : Uuid) : Stays s (savePending config s n state identity existing rowId) := by
  unfold savePending
  cases existing with
  | some id =>
      refine ⟨rfl, fun e member => ⟨_, (mem_updateWhere _ _ _ _).mpr ⟨e, member, rfl⟩, ?_⟩⟩
      split
      · exact ⟨rfl, rfl⟩
      · exact ⟨rfl, rfl⟩
  | none =>
      dsimp only
      split
      · exact ⟨rfl, fun e member => ⟨e, List.mem_append_left _ member, rfl, rfl⟩⟩
      · exact stays_same s _ rfl rfl

theorem step_stays (config : OAuthConfig) (s : OAuthSystem) (e : OAuthEvent) (other : ∀ n userId, e ≠ .link n userId) :
    Stays s (oauthStep config s e) := by
  cases e with
  | link n userId => exact (other n userId rfl).elim
  | savePending n rowId =>
      dsimp only [oauthStep]
      split
      · exact savePending_stays config s n _ _ _ rowId
      · exact stays_same s s rfl rfl
  | complete value input =>
      dsimp only [oauthStep]
      split
      · split <;> exact stays_same s _ rfl rfl
      · exact stays_same s s rfl rfl
  | callback provider value cancelled =>
      dsimp only [oauthStep]
      split
      · split <;> exact stays_same s _ rfl rfl
      · exact stays_same s _ rfl rfl
  | elapse ms => exact stays_same s _ rfl rfl
  | setUser user => dsimp only [oauthStep]; split <;> exact stays_same s _ rfl rfl
  | start provider mode role value => dsimp only [oauthStep]; split <;> exact stays_same s _ rfl rfl
  | identify n identity => dsimp only [oauthStep]; split <;> exact stays_same s _ rfl rfl
  | readExternal n => dsimp only [oauthStep]; split <;> exact stays_same s _ rfl rfl
  | readLinked n => dsimp only [oauthStep]; split <;> exact stays_same s _ rfl rfl
  | readEmail n => dsimp only [oauthStep]; split <;> exact stays_same s _ rfl rfl
  | giveTicket n value => dsimp only [oauthStep]; split <;> exact stays_same s _ rfl rfl
  | exchange value => dsimp only [oauthStep]; split <;> exact stays_same s _ rfl rfl
  | readSession n => dsimp only [oauthStep]; split <;> exact stays_same s _ rfl rfl
  | openSession n => dsimp only [oauthStep]; split <;> exact stays_same s _ rfl rfl
  | readPending n => dsimp only [oauthStep]; split <;> exact stays_same s _ rfl rfl
  | readTaken n => dsimp only [oauthStep]; split <;> exact stays_same s _ rfl rfl

section Linking

variable (s : OAuthSystem) (sound : OAuthSound s) (subject : Subject) (e : ExternalIdentity) (member : e ∈ s.externals) (email : String)
  (userId : Uuid)

include sound member

theorem linkAndOpen_stands (free : e.userId = none) (stand : LinksStand s) : LinksStand (linkAndOpen s subject e email userId) := by
  intro x listed
  rcases List.mem_append.mp listed with old | new
  · obtain ⟨row, before_, same, linked⟩ := stand x old
    refine ⟨_, (mem_updateWhere _ _ _ _).mpr ⟨row, before_, rfl⟩, ?_⟩
    by_cases own : decide (row.id = e.id) = true
    · have picked : row = e := unique_eq _ _ sound.rows.ids row e e.id before_ member (by rw [of_decide_eq_true own]) rfl
      rw [picked, free] at linked
      cases linked
    · rw [if_neg own]
      exact ⟨same, linked⟩
  · rw [List.mem_singleton.mp new]
    exact ⟨_, (mem_updateWhere _ _ _ _).mpr ⟨e, member, rfl⟩, by simp [ExternalIdentity.subject]⟩

theorem linkAndOpen_forgets (fits : linkable s email userId = true) (stand : LinksStand (linkAndOpen s subject e email userId)) :
    e.userId = none := by
  cases linked : e.userId with
  | none => rfl
  | some first =>
      exfalso
      have logged := sound.rows.logged e member first linked
      obtain ⟨row, listed, same, user⟩ := stand (first, e.subject) (List.mem_append_left _ logged)
      obtain ⟨old, before_, rfl⟩ := (mem_updateWhere _ _ _ row).mp listed
      have kept : old.subject = e.subject := by
        refine Eq.trans ?_ same
        split
        · rfl
        · rfl
      have picked : old = e := unique_eq _ _ sound.rows.subjects old e e.subject before_ member (by rw [kept]) rfl
      rw [if_pos (decide_eq_true (by rw [picked]))] at user
      obtain ⟨u, known, named⟩ := sound.rows.known _ logged
      exact (of_decide_eq_true (List.all_eq_true.mp fits u known)).2 (named.trans (Option.some.inj user).symm)

end Linking

theorem step_stands (config : OAuthConfig) (s : OAuthSystem) (e : OAuthEvent) (sound : OAuthSound s) (stand : LinksStand s)
    (first : linksFirst s e) : LinksStand (oauthStep config s e) := by
  by_cases linking : ∃ n userId, e = .link n userId
  · obtain ⟨n, userId, rfl⟩ := linking
    dsimp only [oauthStep]
    split
    case h_1 subject externalId email found =>
      dsimp only [linksFirst] at first
      rw [found] at first
      unfold linkStep
      cases row : externalById s externalId with
      | none => exact stays_links s _ (stays_same s _ rfl rfl) stand
      | some x =>
          dsimp only
          split
          case isTrue fits =>
            have made := linkAndOpen_stands s sound subject x (externalById_some s externalId x row).1 email userId (first fits x row) stand
            exact stays_links _ _ (stays_same _ _ rfl rfl) made
          case isFalse => exact stays_links s _ (stays_same s _ rfl rfl) stand
    case h_2 => exact stand
  · refine stays_links s _ (step_stays config s e (fun n userId same => linking ⟨n, userId, same⟩)) stand

theorem stands_first (config : OAuthConfig) (s : OAuthSystem) (e : OAuthEvent) (sound : OAuthSound s)
    (stand : LinksStand (oauthStep config s e)) : linksFirst s e := by
  unfold linksFirst
  split
  case h_1 n userId =>
    split
    case h_1 subject externalId email found =>
      intro fits x row
      dsimp only [oauthStep] at stand
      rw [found] at stand
      dsimp only [linkStep] at stand
      rw [row] at stand
      dsimp only at stand
      rw [if_pos fits] at stand
      exact linkAndOpen_forgets s sound subject x (externalById_some s externalId x row).1 email userId fits stand
    case h_2 => trivial
  case h_2 => trivial

theorem proper_stands (s : OAuthSystem) (sound : OAuthSound s) (stand : LinksStand s) : OAuthProper s where
  linked := stand
  sessions := fun x member => stand x (sound.rows.sessions x member)

def OAuthSystem.start (users : List OAuthUser) (now : Instant) : OAuthSystem where
  users := users
  externals := []
  states := OneTime.empty
  tickets := OneTime.empty
  now := now
  requests := []
  accounts := users.map (fun u => u.id)
  links := []
  sessions := []

theorem oauthStart_sound (users : List OAuthUser) (now : Instant) : OAuthSound (OAuthSystem.start users now) where
  states := oneTime_empty
  tickets := oneTime_empty
  rows := {
    ids := unique_nil _
    subjects := unique_nil _
    logged := fun _ member => (by cases member)
    known := fun _ member => (by cases member)
    outside := fun id member => by
      obtain ⟨u, listed, named⟩ := List.mem_map.mp member
      exact ⟨u, listed, named⟩
    apart := fun _ member => (by cases member)
    sessions := fun _ member => (by cases member) }
  held := ⟨fun _ member => (by cases member), fun _ member => (by cases member)⟩

/-- In every run each state and ticket is taken once, an identity has one row, and no account opened elsewhere gets a session.
Links stand and sessions are for the linked user exactly in the runs in which no identity is linked a second time. -/
theorem oauth_sessions_linked (config : OAuthConfig) (users : List OAuthUser) (now : Instant) (events : List OAuthEvent) :
    let s := run (oauthStep config) (OAuthSystem.start users now) events
    s.states.taken.Nodup ∧ s.tickets.taken.Nodup ∧ UniqueKey (fun e : ExternalIdentity => some e.subject) s.externals ∧
    (∀ x ∈ s.sessions, x.1 ∉ s.accounts) ∧
    (AllMeet (oauthStep config) linksFirst (OAuthSystem.start users now) events ↔
      AllMeet (oauthStep config) (fun s e => OAuthProper (oauthStep config s e)) (OAuthSystem.start users now) events) := by
  intro s
  have begins := oauthStart_sound users now
  have kept : OAuthSound s := run_invariant (oauthStep config) OAuthSound (oauthStep_sound config) _ events begins
  refine ⟨kept.states.once, kept.tickets.once, kept.rows.subjects, fun x member => kept.rows.apart x (kept.rows.sessions x member), ?_, ?_⟩
  · intro first
    refine allMeet_shows (oauthStep config) linksFirst _ (fun s => OAuthSound s ∧ LinksStand s) ?_ ?_ _ events
      ⟨begins, fun _ member => (by cases member)⟩ first
    · intro s e held meets
      exact ⟨oauthStep_sound config s e held.1, step_stands config s e held.1 held.2 meets⟩
    · intro s e held meets
      exact proper_stands _ (oauthStep_sound config s e held.1) (step_stands config s e held.1 held.2 meets)
  · intro proper
    exact allMeet_shows (oauthStep config) _ linksFirst OAuthSound (fun s e held _ => oauthStep_sound config s e held)
      (fun s e held meets => stands_first config s e held meets.linked) _ events begins proper

def sampleOAuth : OAuthConfig where
  stateTtlSeconds := 600
  ticketTtlSeconds := 300
  facebook := true
  zalo := true

-- Two browsers of one person ask for an account; the provider gives no email.
def sampleOnboarding : List OAuthEvent :=
  [.start .zalo .register (some .student) "state-1", .start .zalo .register (some .student) "state-2",
    .callback .zalo "state-1" false, .callback .zalo "state-2" false,
    .identify 0 { providerUserId := "zalo-7", email := none }, .identify 1 { providerUserId := "zalo-7", email := none },
    .readExternal 0, .savePending 0 "identity-1", .giveTicket 0 "ticket-1",
    .readExternal 1, .savePending 1 "identity-2", .giveTicket 1 "ticket-2"]

def sampleCompletion (ticket email : String) : OAuthEvent :=
  .complete ticket { role := .student, email := some email }

def completedInTurn : List OAuthEvent :=
  sampleOnboarding ++ [sampleCompletion "ticket-1" "lan@eduai.vn", .readPending 2, .readTaken 2, .link 2 "user-1",
    sampleCompletion "ticket-2" "hoa@eduai.vn", .readPending 3, .readTaken 3, .link 3 "user-2"]

def completedAtOnce : List OAuthEvent :=
  sampleOnboarding ++ [sampleCompletion "ticket-1" "lan@eduai.vn", sampleCompletion "ticket-2" "hoa@eduai.vn",
    .readPending 2, .readPending 3, .readTaken 2, .readTaken 3, .link 2 "user-1", .link 3 "user-2"]

theorem oauth_sessions_linked_sample :
    (run (oauthStep sampleOAuth) (OAuthSystem.start [] 0) completedInTurn).sessions = [("user-1", (.zalo, "zalo-7"))] ∧
    AllMeet (oauthStep sampleOAuth) (fun s e => OAuthProper (oauthStep sampleOAuth s e)) (OAuthSystem.start [] 0) completedInTurn := by
  refine ⟨by decide +kernel, (oauth_sessions_linked sampleOAuth [] 0 completedInTurn).2.2.2.2.mp ?_⟩
  decide +kernel

theorem identity_linked_twice : ¬ OAuthProper (run (oauthStep sampleOAuth) (OAuthSystem.start [] 0) completedAtOnce) := by
  intro proper
  have stand := proper.linked
  revert stand
  decide +kernel

end EduAi.Auth
