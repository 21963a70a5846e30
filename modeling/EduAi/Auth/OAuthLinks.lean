import EduAi.Auth.OAuth

set_option autoImplicit false

namespace EduAi.Auth

open EduAi.Store

section Invariant

def IdentityOf (s : OAuthSystem) (externalId : Uuid) (subject : Subject) : Prop :=
  ∃ e ∈ s.externals, e.id = externalId ∧ e.subject = subject

structure TicketSound (s : OAuthSystem) (subject : Subject) (record : OAuthTicketRecord) : Prop where
  user : ∀ userId ∈ record.userId, (userId, subject) ∈ s.links
  external : ∀ externalId ∈ record.externalIdentityId, IdentityOf s externalId subject

def StageSound (s : OAuthSystem) : OAuthStage → Prop
  | .returned _ => True
  | .identified _ _ => True
  | .linkedTo subject _ userId => (userId, subject) ∈ s.links
  | .unlinked state identity existing => ∀ externalId ∈ existing, IdentityOf s externalId (state.provider, identity.providerUserId)
  | .pending state identity existing => ∀ externalId ∈ existing, IdentityOf s externalId (state.provider, identity.providerUserId)
  | .granted subject record _ => TicketSound s subject record
  | .exchanged subject userId => (userId, subject) ∈ s.links
  | .entering subject user => (user.id, subject) ∈ s.links
  | .completing subject _ externalId _ => IdentityOf s externalId subject
  | .profiled subject externalId _ => IdentityOf s externalId subject
  | .creating subject externalId _ => IdentityOf s externalId subject
  | .ended => True

structure RowsSound (s : OAuthSystem) : Prop where
  ids : UniqueKey (fun e : ExternalIdentity => some e.id) s.externals
  subjects : UniqueKey (fun e : ExternalIdentity => some e.subject) s.externals
  logged : ∀ e ∈ s.externals, ∀ userId, e.userId = some userId → (userId, e.subject) ∈ s.links
  known : ∀ x ∈ s.links, ∃ u ∈ s.users, u.id = x.1
  outside : ∀ id ∈ s.accounts, ∃ u ∈ s.users, u.id = id
  apart : ∀ x ∈ s.links, x.1 ∉ s.accounts
  sessions : ∀ x ∈ s.sessions, x ∈ s.links

structure HeldSound (s : OAuthSystem) : Prop where
  tickets : ∀ t ∈ s.tickets.entries, TicketSound s t.record.subject t.record.record
  requests : ∀ r ∈ s.requests, StageSound s r

structure OAuthSound (s : OAuthSystem) : Prop where
  states : s.states.Sound
  tickets : s.tickets.Sound
  rows : RowsSound s
  held : HeldSound s

structure Grows (s t : OAuthSystem) : Prop where
  links : ∀ x ∈ s.links, x ∈ t.links
  identities : ∀ e ∈ s.externals, ∃ e' ∈ t.externals, e'.id = e.id ∧ e'.subject = e.subject

end Invariant

section Grown

variable (s t : OAuthSystem) (grows : Grows s t)

include grows

theorem identityOf_grows (externalId : Uuid) (subject : Subject) (known : IdentityOf s externalId subject) :
    IdentityOf t externalId subject := by
  obtain ⟨e, member, named, same⟩ := known
  obtain ⟨e', listed, id, kept⟩ := grows.identities e member
  exact ⟨e', listed, id.trans named, kept.trans same⟩

theorem ticketSound_grows (subject : Subject) (record : OAuthTicketRecord) (sound : TicketSound s subject record) :
    TicketSound t subject record where
  user := fun userId named => grows.links _ (sound.user userId named)
  external := fun externalId named => identityOf_grows s t grows externalId subject (sound.external externalId named)

theorem stageSound_grows (stage : OAuthStage) (sound : StageSound s stage) : StageSound t stage := by
  cases stage with
  | returned state => trivial
  | identified state identity => trivial
  | linkedTo subject state userId => exact grows.links _ sound
  | unlinked state identity existing => exact fun externalId named => identityOf_grows s t grows externalId _ (sound externalId named)
  | pending state identity existing => exact fun externalId named => identityOf_grows s t grows externalId _ (sound externalId named)
  | granted subject record ttlSeconds => exact ticketSound_grows s t grows subject record sound
  | exchanged subject userId => exact grows.links _ sound
  | entering subject user => exact grows.links _ sound
  | completing subject record externalId input => exact identityOf_grows s t grows externalId subject sound
  | profiled subject externalId email => exact identityOf_grows s t grows externalId subject sound
  | creating subject externalId email => exact identityOf_grows s t grows externalId subject sound
  | ended => trivial

theorem heldSound_grows (tickets : t.tickets = s.tickets) (requests : t.requests = s.requests) (held : HeldSound s) : HeldSound t where
  tickets := by
    rw [tickets]
    exact fun x member => ticketSound_grows s t grows _ _ (held.tickets x member)
  requests := by
    rw [requests]
    exact fun r member => stageSound_grows s t grows r (held.requests r member)

end Grown

section Parts

variable (s : OAuthSystem) (sound : OAuthSound s)

include sound

theorem sound_setRequest (n : Nat) (stage : OAuthStage) (ok : StageSound s stage) : OAuthSound (setRequest s n stage) where
  states := sound.states
  tickets := sound.tickets
  rows := ⟨sound.rows.ids, sound.rows.subjects, sound.rows.logged, sound.rows.known, sound.rows.outside, sound.rows.apart, sound.rows.sessions⟩
  held := by
    have grows : Grows s (setRequest s n stage) := ⟨fun _ member => member, fun e member => ⟨e, member, rfl, rfl⟩⟩
    refine ⟨fun x member => ticketSound_grows s _ grows _ _ (sound.held.tickets x member), fun r member => ?_⟩
    refine stageSound_grows s _ grows r ?_
    rcases List.mem_or_eq_of_mem_set member with old | new
    · exact sound.held.requests r old
    · rw [new]
      exact ok

theorem sound_addRequest (stage : OAuthStage) (ok : StageSound s stage) : OAuthSound (addRequest s stage) where
  states := sound.states
  tickets := sound.tickets
  rows := ⟨sound.rows.ids, sound.rows.subjects, sound.rows.logged, sound.rows.known, sound.rows.outside, sound.rows.apart, sound.rows.sessions⟩
  held := by
    have grows : Grows s (addRequest s stage) := ⟨fun _ member => member, fun e member => ⟨e, member, rfl, rfl⟩⟩
    refine ⟨fun x member => ticketSound_grows s _ grows _ _ (sound.held.tickets x member), fun r member => ?_⟩
    refine stageSound_grows s _ grows r ?_
    rcases List.mem_append.mp member with old | new
    · exact sound.held.requests r old
    · rw [List.mem_singleton.mp new]
      exact ok

theorem sound_states (states : OneTime OAuthStateRecord) (ok : states.Sound) : OAuthSound { s with states } where
  states := ok
  tickets := sound.tickets
  rows := ⟨sound.rows.ids, sound.rows.subjects, sound.rows.logged, sound.rows.known, sound.rows.outside, sound.rows.apart, sound.rows.sessions⟩
  held := heldSound_grows s _ ⟨fun _ member => member, fun e member => ⟨e, member, rfl, rfl⟩⟩ rfl rfl sound.held

theorem sound_tickets (tickets : OneTime OAuthTicket) (ok : tickets.Sound)
    (held : ∀ t ∈ tickets.entries, TicketSound s t.record.subject t.record.record) : OAuthSound { s with tickets } where
  states := sound.states
  tickets := ok
  rows := ⟨sound.rows.ids, sound.rows.subjects, sound.rows.logged, sound.rows.known, sound.rows.outside, sound.rows.apart, sound.rows.sessions⟩
  held := by
    have grows : Grows s { s with tickets } := ⟨fun _ member => member, fun e member => ⟨e, member, rfl, rfl⟩⟩
    exact ⟨fun x member => ticketSound_grows s _ grows _ _ (held x member),
      fun r member => stageSound_grows s _ grows r (sound.held.requests r member)⟩

theorem sound_consumed (value : String) : OAuthSound { s with tickets := s.tickets.consume s.now value } :=
  sound_tickets s sound _ (oneTime_consume s.tickets sound.tickets s.now value)
    (fun t member => sound.held.tickets t (mem_consume s.tickets s.now value t member))

theorem sound_session (userId : Uuid) (subject : Subject) (linked : (userId, subject) ∈ s.links) :
    OAuthSound { s with sessions := s.sessions ++ [(userId, subject)] } where
  states := sound.states
  tickets := sound.tickets
  rows := by
    refine ⟨sound.rows.ids, sound.rows.subjects, sound.rows.logged, sound.rows.known, sound.rows.outside, sound.rows.apart, fun x member => ?_⟩
    rcases List.mem_append.mp member with old | new
    · exact sound.rows.sessions x old
    · rw [List.mem_singleton.mp new]
      exact linked
  held := heldSound_grows s _ ⟨fun _ member => member, fun e member => ⟨e, member, rfl, rfl⟩⟩ rfl rfl sound.held

theorem sound_edited (user : OAuthUser) : OAuthSound { s with users := updateWhere (fun u => u.id = user.id) (fun _ => user) s.users } where
  states := sound.states
  tickets := sound.tickets
  rows := by
    have carried (id : Uuid) (known : ∃ u ∈ s.users, u.id = id) :
        ∃ u ∈ updateWhere (fun u => decide (u.id = user.id)) (fun _ => user) s.users, u.id = id := by
      obtain ⟨u, member, named⟩ := known
      refine ⟨_, (mem_updateWhere _ _ _ _).mpr ⟨u, member, rfl⟩, ?_⟩
      by_cases own : decide (u.id = user.id) = true
      · rw [if_pos own]
        exact (of_decide_eq_true own).symm.trans named
      · rw [if_neg own]
        exact named
    exact ⟨sound.rows.ids, sound.rows.subjects, sound.rows.logged, fun x member => carried x.1 (sound.rows.known x member),
      fun id member => carried id (sound.rows.outside id member), sound.rows.apart, sound.rows.sessions⟩
  held := heldSound_grows s _ ⟨fun _ member => member, fun e member => ⟨e, member, rfl, rfl⟩⟩ rfl rfl sound.held

theorem sound_registered (user : OAuthUser) (fresh : ∀ u ∈ s.users, u.id ≠ user.id) : OAuthSound { s with
    users := s.users ++ [user]
    accounts := s.accounts ++ [user.id] } where
  states := sound.states
  tickets := sound.tickets
  rows := by
    have carried (id : Uuid) (known : ∃ u ∈ s.users, u.id = id) : ∃ u ∈ s.users ++ [user], u.id = id := by
      obtain ⟨u, member, named⟩ := known
      exact ⟨u, List.mem_append_left _ member, named⟩
    refine ⟨sound.rows.ids, sound.rows.subjects, sound.rows.logged, fun x member => carried x.1 (sound.rows.known x member), ?outside, ?apart,
      sound.rows.sessions⟩
    case outside =>
      intro id member
      rcases List.mem_append.mp member with old | new
      · exact carried id (sound.rows.outside id old)
      · rw [List.mem_singleton.mp new]
        exact ⟨user, List.mem_append_right _ (List.mem_singleton.mpr rfl), rfl⟩
    case apart =>
      intro x member outside
      rcases List.mem_append.mp outside with old | new
      · exact sound.rows.apart x member old
      · obtain ⟨u, listed, named⟩ := sound.rows.known x member
        exact fresh u listed (named.trans (List.mem_singleton.mp new))
  held := heldSound_grows s _ ⟨fun _ member => member, fun e member => ⟨e, member, rfl, rfl⟩⟩ rfl rfl sound.held

theorem sound_updated (id : Uuid) (f : ExternalIdentity → ExternalIdentity)
    (keeps : ∀ e, (f e).id = e.id ∧ (f e).subject = e.subject ∧ (f e).userId = e.userId) :
    OAuthSound { s with externals := updateWhere (fun e => e.id = id) f s.externals } where
  states := sound.states
  tickets := sound.tickets
  rows := by
    refine ⟨unique_updateWhere _ _ _ _ sound.rows.ids (fun e _ _ => by rw [(keeps e).1]),
      unique_updateWhere _ _ _ _ sound.rows.subjects (fun e _ _ => by rw [(keeps e).2.1]), fun e member userId linked => ?_, sound.rows.known,
      sound.rows.outside, sound.rows.apart, sound.rows.sessions⟩
    obtain ⟨old, listed, rfl⟩ := (mem_updateWhere _ _ _ e).mp member
    by_cases own : decide (old.id = id) = true
    · rw [if_pos own] at linked ⊢
      rw [(keeps old).2.1]
      exact sound.rows.logged old listed userId ((keeps old).2.2 ▸ linked)
    · rw [if_neg own] at linked ⊢
      exact sound.rows.logged old listed userId linked
  held := by
    refine heldSound_grows s _ ⟨fun _ member => member, fun e member => ?_⟩ rfl rfl sound.held
    refine ⟨_, (mem_updateWhere _ _ _ _).mpr ⟨e, member, rfl⟩, ?_⟩
    split
    · exact ⟨(keeps e).1, (keeps e).2.1⟩
    · exact ⟨rfl, rfl⟩

theorem sound_inserted (e : ExternalIdentity) (fresh : s.externals.all (fun x => x.id ≠ e.id ∧ x.subject ≠ e.subject) = true)
    (unlinked : e.userId = none) : OAuthSound { s with externals := s.externals ++ [e] } where
  states := sound.states
  tickets := sound.tickets
  rows := by
    have apart (x : ExternalIdentity) (member : x ∈ s.externals) : x.id ≠ e.id ∧ x.subject ≠ e.subject :=
      of_decide_eq_true (List.all_eq_true.mp fresh x member)
    refine ⟨unique_append _ _ _ sound.rows.ids ((free_iff _ _ _).mpr ?ids),
      unique_append _ _ _ sound.rows.subjects ((free_iff _ _ _).mpr ?subjects),
      ?logged, sound.rows.known, sound.rows.outside, sound.rows.apart, sound.rows.sessions⟩
    case ids =>
      intro x member k own same
      exact (apart x member).1 (Option.some.inj (same.trans own.symm))
    case subjects =>
      intro x member k own same
      exact (apart x member).2 (Option.some.inj (same.trans own.symm))
    case logged =>
      intro x member userId linked
      rcases List.mem_append.mp member with old | new
      · exact sound.rows.logged x old userId linked
      · rw [List.mem_singleton.mp new, unlinked] at linked
        cases linked
  held := heldSound_grows s _ ⟨fun _ member => member, fun x member => ⟨x, List.mem_append_left _ member, rfl, rfl⟩⟩ rfl rfl sound.held

theorem sound_linked (subject : Subject) (e : ExternalIdentity) (member : e ∈ s.externals) (same : e.subject = subject) (email : String)
    (userId : Uuid) (fits : linkable s email userId = true) : OAuthSound (linkAndOpen s subject e email userId) where
  states := sound.states
  tickets := sound.tickets
  rows := by
    have fresh (u : OAuthUser) (listed : u ∈ s.users) : u.id ≠ userId := (of_decide_eq_true (List.all_eq_true.mp fits u listed)).2
    have carried (id : Uuid) (known : ∃ u ∈ s.users, u.id = id) : ∃ u ∈ s.users ++ [newUser userId email], u.id = id := by
      obtain ⟨u, listed, named⟩ := known
      exact ⟨u, List.mem_append_left _ listed, named⟩
    refine ⟨unique_updateWhere _ _ _ _ sound.rows.ids (fun _ _ _ => rfl), unique_updateWhere _ _ _ _ sound.rows.subjects (fun _ _ _ => rfl),
      ?logged, ?known, fun id known => carried id (sound.rows.outside id known), ?apart, ?sessions⟩
    case logged =>
      intro x listed u linked
      obtain ⟨old, before_, rfl⟩ := (mem_updateWhere _ _ _ x).mp listed
      by_cases own : decide (old.id = e.id) = true
      · rw [if_pos own] at linked ⊢
        obtain rfl := Option.some.inj linked
        have picked : old = e := unique_eq _ _ sound.rows.ids old e e.id before_ member (by rw [of_decide_eq_true own]) rfl
        rw [picked]
        exact List.mem_append_right _ (List.mem_singleton.mpr rfl)
      · rw [if_neg own] at linked ⊢
        exact List.mem_append_left _ (sound.rows.logged old before_ u linked)
    case known =>
      intro x listed
      rcases List.mem_append.mp listed with old | new
      · exact carried x.1 (sound.rows.known x old)
      · rw [List.mem_singleton.mp new]
        exact ⟨newUser userId email, List.mem_append_right _ (List.mem_singleton.mpr rfl), rfl⟩
    case apart =>
      intro x listed outside
      rcases List.mem_append.mp listed with old | new
      · exact sound.rows.apart x old outside
      · rw [List.mem_singleton.mp new] at outside
        obtain ⟨u, known, named⟩ := sound.rows.outside userId outside
        exact fresh u known named
    case sessions =>
      intro x listed
      rcases List.mem_append.mp listed with old | new
      · exact List.mem_append_left _ (sound.rows.sessions x old)
      · rw [List.mem_singleton.mp new, ← same]
        exact List.mem_append_right _ (List.mem_singleton.mpr rfl)
  held := by
    refine heldSound_grows s _ ⟨fun _ listed => List.mem_append_left _ listed, fun x listed => ?_⟩ rfl rfl sound.held
    refine ⟨_, (mem_updateWhere _ _ _ _).mpr ⟨x, listed, rfl⟩, ?_⟩
    split
    · exact ⟨rfl, rfl⟩
    · exact ⟨rfl, rfl⟩

end Parts

section Reads

variable (config : OAuthConfig) (s : OAuthSystem)

theorem externalOf_some (subject : Subject) (e : ExternalIdentity) (found : externalOf s subject = some e) :
    e ∈ s.externals ∧ e.subject = subject := by
  obtain ⟨member, same⟩ := find_some _ s.externals e found
  exact ⟨member, of_decide_eq_true same⟩

theorem externalById_some (id : Uuid) (e : ExternalIdentity) (found : externalById s id = some e) : e ∈ s.externals ∧ e.id = id := by
  obtain ⟨member, same⟩ := find_some _ s.externals e found
  exact ⟨member, of_decide_eq_true same⟩

theorem userById_some (id : Uuid) (u : OAuthUser) (found : userById s id = some u) : u.id = id :=
  of_decide_eq_true (find_some _ s.users u found).2

theorem live_ticket (sound : OAuthSound s) (value : String) (ticket : OAuthTicket) (live : s.tickets.live s.now value = some ticket) :
    TicketSound { s with tickets := s.tickets.consume s.now value } ticket.subject ticket.record := by
  obtain ⟨t, member, _, rfl⟩ := live_entry s.tickets s.now value ticket live
  have grows : Grows s { s with tickets := s.tickets.consume s.now value } := ⟨fun _ known => known, fun e known => ⟨e, known, rfl, rfl⟩⟩
  exact ticketSound_grows s _ grows _ _ (sound.held.tickets t member)

variable (sound : OAuthSound s)

include sound

theorem afterExternal_sound (state : OAuthStateRecord) (identity : OAuthIdentity) :
    StageSound s (afterExternal state identity (externalOf s (state.provider, identity.providerUserId))) := by
  cases found : externalOf s (state.provider, identity.providerUserId) with
  | none =>
      unfold afterExternal
      cases identity.email with
      | none => exact fun _ named => by cases named
      | some email => exact fun _ named => by cases named
  | some e =>
      obtain ⟨member, same⟩ := externalOf_some s _ e found
      have known : ∀ externalId ∈ some e.id, IdentityOf s externalId (state.provider, identity.providerUserId) := by
        intro externalId named
        obtain rfl := Option.some.inj named
        exact ⟨e, member, rfl, same⟩
      unfold afterExternal
      dsimp only [Option.bind_some]
      cases linked : e.userId with
      | none =>
          dsimp only
          cases identity.email with
          | none => exact known
          | some email => exact known
      | some userId =>
          dsimp only
          split
          · trivial
          · exact same ▸ sound.rows.logged e member userId linked

omit sound in
theorem afterLinked_sound (subject : Subject) (state : OAuthStateRecord) (userId : Uuid) (linked : (userId, subject) ∈ s.links) :
    StageSound s (afterLinked config s.now subject state (userById s userId)) := by
  unfold afterLinked
  cases found : userById s userId with
  | none => trivial
  | some user =>
      dsimp only
      split
      · refine ⟨fun u named => ?_, fun _ named => (by cases named)⟩
        obtain rfl := Option.some.inj named
        rw [userById_some s userId user found]
        exact linked
      · trivial

omit sound in
theorem afterExchange_sound (ticket : OAuthTicket) (ok : TicketSound s ticket.subject ticket.record) :
    StageSound s (afterExchange s.now ticket) := by
  unfold afterExchange
  split
  case isTrue => trivial
  case isFalse =>
    split
    case isTrue =>
      cases named : ticket.record.userId with
      | none => trivial
      | some userId => exact ok.user userId named
    case isFalse =>
      cases named : ticket.record.externalIdentityId with
      | none => trivial
      | some externalId => exact ⟨ok.user, ok.external⟩

omit sound in
theorem afterComplete_sound (input : OAuthProfileDto) (ticket : OAuthTicket) (ok : TicketSound s ticket.subject ticket.record) :
    StageSound s (afterComplete s.now input ticket) := by
  unfold afterComplete
  split
  case isTrue => trivial
  case isFalse =>
    cases named : ticket.record.externalIdentityId with
    | none => trivial
    | some externalId => exact ok.external externalId named

omit sound in
theorem afterPending_sound (subject : Subject) (record : OAuthTicketRecord) (externalId : Uuid) (input : OAuthProfileDto)
    (known : IdentityOf s externalId subject) : StageSound s (afterPending s.now subject record input (externalById s externalId)) := by
  unfold afterPending
  cases found : externalById s externalId with
  | none => trivial
  | some e =>
      dsimp only
      split
      case isTrue =>
        cases e.providerEmail.or input.email with
        | none => trivial
        | some email =>
            dsimp only
            split
            · rw [(externalById_some s externalId e found).2]
              exact known
            · trivial
      case isFalse => trivial

theorem savePending_sound (n : Nat) (state : OAuthStateRecord) (identity : OAuthIdentity) (existing : Option Uuid) (rowId : Uuid)
    (known : ∀ externalId ∈ existing, IdentityOf s externalId (state.provider, identity.providerUserId)) :
    OAuthSound (savePending config s n state identity existing rowId) := by
  unfold savePending
  cases existing with
  | some id =>
      have updated := sound_updated s sound id
        (fun e => { e with pendingExpiresAt := some (pendingUntil s.now), providerEmail := identity.email }) (fun _ => ⟨rfl, rfl, rfl⟩)
      refine sound_setRequest _ updated n _ ⟨fun _ named => (by cases named), fun externalId named => ?_⟩
      obtain rfl := Option.some.inj named
      obtain ⟨e, member, id_, same⟩ := known id rfl
      refine ⟨_, (mem_updateWhere _ _ _ _).mpr ⟨e, member, rfl⟩, ?_⟩
      split
      · exact ⟨id_, same⟩
      · exact ⟨id_, same⟩
  | none =>
      dsimp only
      split
      case isTrue fresh =>
        have inserted := sound_inserted s sound {
          id := rowId
          provider := state.provider
          providerUserId := identity.providerUserId
          userId := none
          providerEmail := identity.email
          pendingExpiresAt := some (pendingUntil s.now) } fresh rfl
        refine sound_setRequest _ inserted n _ ⟨fun _ named => (by cases named), fun externalId named => ?_⟩
        obtain rfl := Option.some.inj named
        exact ⟨_, List.mem_append_right _ (List.mem_singleton.mpr rfl), rfl, rfl⟩
      case isFalse => exact sound_setRequest s sound n .ended trivial

theorem linkStep_sound (n : Nat) (subject : Subject) (externalId : Uuid) (email : String) (userId : Uuid)
    (known : IdentityOf s externalId subject) : OAuthSound (linkStep s n subject externalId email userId) := by
  unfold linkStep
  cases found : externalById s externalId with
  | none => exact sound_setRequest s sound n .ended trivial
  | some e =>
      dsimp only
      split
      case isTrue fits =>
        obtain ⟨member, named⟩ := externalById_some s externalId e found
        obtain ⟨e', listed, named', same⟩ := known
        obtain rfl : e' = e := unique_eq _ _ sound.rows.ids e' e externalId listed member (by rw [named']) (by rw [named])
        exact sound_setRequest _ (sound_linked s sound subject e' member same email userId fits) n .ended trivial
      case isFalse => exact sound_setRequest s sound n .ended trivial

end Reads

theorem oauthStep_sound (config : OAuthConfig) (s : OAuthSystem) (e : OAuthEvent) (sound : OAuthSound s) :
    OAuthSound (oauthStep config s e) := by
  cases e with
  | elapse ms =>
      exact ⟨sound.states, sound.tickets, ⟨sound.rows.ids, sound.rows.subjects, sound.rows.logged, sound.rows.known, sound.rows.outside,
        sound.rows.apart, sound.rows.sessions⟩,
        heldSound_grows s _ ⟨fun _ member => member, fun e member => ⟨e, member, rfl, rfl⟩⟩ rfl rfl sound.held⟩
  | setUser user =>
      dsimp only [oauthStep]
      by_cases known : s.users.any (fun u => decide (u.id = user.id)) = true
      · rw [if_pos known]
        exact sound_edited s sound user
      · rw [if_neg known]
        refine sound_registered s sound user (fun u member same => known ?_)
        exact List.any_eq_true.mpr ⟨u, member, decide_eq_true same⟩
  | start provider mode role value =>
      dsimp only [oauthStep]
      split
      · exact sound_states s sound _ (oneTime_set s.states sound.states value _ _)
      · exact sound
  | callback provider value cancelled =>
      have taken := sound_states s sound _ (oneTime_consume s.states sound.states s.now value)
      dsimp only [oauthStep]
      cases s.states.live s.now value with
      | none => exact taken
      | some state =>
          dsimp only
          split
          · exact sound_addRequest _ taken (.returned state) trivial
          · exact taken
  | identify n identity =>
      dsimp only [oauthStep]
      split
      · exact sound_setRequest s sound n _ trivial
      · exact sound
  | readExternal n =>
      dsimp only [oauthStep]
      split
      · exact sound_setRequest s sound n _ (afterExternal_sound s sound _ _)
      · exact sound
  | readLinked n =>
      dsimp only [oauthStep]
      split
      case h_1 subject state userId found =>
        exact sound_setRequest s sound n _ (afterLinked_sound config s subject state userId (sound.held.requests _ (List.mem_of_getElem? found)))
      case h_2 => exact sound
  | readEmail n =>
      dsimp only [oauthStep]
      split
      case h_1 state identity existing found =>
        have known := sound.held.requests _ (List.mem_of_getElem? found)
        refine sound_setRequest s sound n _ ?_
        split
        · trivial
        · exact known
      case h_2 => exact sound
  | savePending n rowId =>
      dsimp only [oauthStep]
      split
      case h_1 state identity existing found =>
        exact savePending_sound config s sound n state identity existing rowId (sound.held.requests _ (List.mem_of_getElem? found))
      case h_2 => exact sound
  | giveTicket n value =>
      dsimp only [oauthStep]
      split
      case h_1 subject record ttlSeconds found =>
        have granted : TicketSound s subject record := sound.held.requests _ (List.mem_of_getElem? found)
        refine sound_setRequest _ (sound_tickets s sound _ (oneTime_set s.tickets sound.tickets value _ _) (fun t member => ?_)) n .ended trivial
        rcases mem_set s.tickets value _ _ t member with old | new
        · exact sound.held.tickets t old
        · rw [new]
          exact granted
      case h_2 => exact sound
  | exchange value =>
      have taken := sound_consumed s sound value
      dsimp only [oauthStep]
      cases live : s.tickets.live s.now value with
      | none => exact taken
      | some ticket => exact sound_addRequest _ taken _ (afterExchange_sound _ ticket (live_ticket s sound value ticket live))
  | readSession n =>
      dsimp only [oauthStep]
      split
      case h_1 subject userId found =>
        have linked : (userId, subject) ∈ s.links := sound.held.requests _ (List.mem_of_getElem? found)
        refine sound_setRequest s sound n _ ?_
        split
        case h_1 user active =>
          have named := userById_some s userId user (Option.filter_eq_some_iff.mp active).1
          show (user.id, subject) ∈ s.links
          rw [named]
          exact linked
        case h_2 => trivial
      case h_2 => exact sound
  | openSession n =>
      dsimp only [oauthStep]
      split
      case h_1 subject user found =>
        exact sound_setRequest _ (sound_session s sound user.id subject (sound.held.requests _ (List.mem_of_getElem? found))) n .ended trivial
      case h_2 => exact sound
  | complete value input =>
      have taken := sound_consumed s sound value
      dsimp only [oauthStep]
      split
      case isTrue =>
        cases live : s.tickets.live s.now value with
        | none => exact taken
        | some ticket => exact sound_addRequest _ taken _ (afterComplete_sound _ input ticket (live_ticket s sound value ticket live))
      case isFalse => exact sound
  | readPending n =>
      dsimp only [oauthStep]
      split
      case h_1 subject record externalId input found =>
        exact sound_setRequest s sound n _ (afterPending_sound s subject record externalId input
            (sound.held.requests _ (List.mem_of_getElem? found)))
      case h_2 => exact sound
  | readTaken n =>
      dsimp only [oauthStep]
      split
      case h_1 subject externalId email found =>
        have known := sound.held.requests _ (List.mem_of_getElem? found)
        refine sound_setRequest s sound n _ ?_
        split
        · trivial
        · exact known
      case h_2 => exact sound
  | link n userId =>
      dsimp only [oauthStep]
      split
      case h_1 subject externalId email found =>
        exact linkStep_sound s sound n subject externalId email userId (sound.held.requests _ (List.mem_of_getElem? found))
      case h_2 => exact sound

end EduAi.Auth
