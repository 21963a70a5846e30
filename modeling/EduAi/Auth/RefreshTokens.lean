import EduAi.Auth.Tokens

set_option autoImplicit false

namespace EduAi.Auth

open EduAi.Store

structure RefreshToken (H : Type) where
  id : Uuid
  userId : Uuid
  tokenHash : H
  expiresAt : Instant
  revokedAt : Option Instant
deriving DecidableEq, Repr

inductive CallKind where
  | refresh | logout
deriving DecidableEq, Repr

inductive Stage where
  | verified
  | found (user : AuthUser)
  | matched (user : AuthUser) (rowId : Uuid)
  | ended
deriving DecidableEq, Repr

structure Call where
  kind : CallKind
  token : Bytes
  sub : Uuid
  stage : Stage
deriving DecidableEq, Repr

-- The tables and the clock, the calls under way, which row each token was issued with, and the tokens that refresh and
-- logout have accepted, each with the row it has revoked.
structure AuthSystem (H : Type) where
  users : List AuthUser
  refreshTokens : List (RefreshToken H)
  now : Instant
  calls : List Call
  issued : List (Uuid × Bytes)
  uses : List (Uuid × Bytes)
deriving DecidableEq, Repr

structure SessionDraw where
  rowId : Uuid
  salt : Nat
deriving DecidableEq, Repr

inductive SessionEvent (H : Type) where
  | elapse (ms : Nat)
  | setUser (user : AuthUser)
  | revokeAll (userId : Uuid)
  | issue (user : AuthUser) (draw : SessionDraw)
  | present (kind : CallKind) (token : Bytes)
  | readUser (n : Nat)
  | readTokens (n : Nat) (rows : List (RefreshToken H))
  | revoke (n : Nat) (draw : SessionDraw)
deriving DecidableEq, Repr

section Calls

variable {H : Type} (p : Primitives H)

def refreshTokenOf (user : AuthUser) (now : Instant) : Bytes :=
  signedToken p.hmac user.id (claimsText user now)

def sessionRow (user : AuthUser) (now : Instant) (draw : SessionDraw) : RefreshToken H where
  id := draw.rowId
  userId := user.id
  tokenHash := p.hash draw.salt (refreshTokenOf p user now)
  expiresAt := now + refreshTokenExpiresInSeconds * 1000
  revokedAt := none

def rowFree (s : AuthSystem H) (draw : SessionDraw) : Bool :=
  s.refreshTokens.all (fun r => r.id ≠ draw.rowId)

def issueTokenResponse (user : AuthUser) (draw : SessionDraw) (s : AuthSystem H) : AuthSystem H :=
  { s with
    refreshTokens := s.refreshTokens ++ [sessionRow p user s.now draw]
    issued := s.issued ++ [(draw.rowId, refreshTokenOf p user s.now)] }

def openTokens (s : AuthSystem H) (userId : Uuid) : List (RefreshToken H) :=
  s.refreshTokens.filter (fun r => r.userId = userId ∧ s.now < r.expiresAt ∧ r.revokedAt = none)

def findMatchingRefreshToken (token : Bytes) (rows : List (RefreshToken H)) : Option (RefreshToken H) :=
  rows.find? (fun r => p.compare token r.tokenHash)

def revokedNow (now : Instant) (r : RefreshToken H) : RefreshToken H :=
  { r with revokedAt := some now }

def revokeRow (rowId : Uuid) (token : Bytes) (s : AuthSystem H) : AuthSystem H :=
  { s with
    refreshTokens := updateWhere (fun r => r.id = rowId) (revokedNow s.now) s.refreshTokens
    uses := s.uses ++ [(rowId, token)] }

def setStage (s : AuthSystem H) (n : Nat) (c : Call) (stage : Stage) : AuthSystem H :=
  { s with calls := s.calls.set n { c with stage } }

def afterUser (c : Call) (user : Option AuthUser) : Stage :=
  match user with
  | some user => if c.kind = .refresh ∧ user.status ≠ .active then .ended else .found user
  | none => .ended

def afterTokens (user : AuthUser) (storedToken : Option (RefreshToken H)) : Stage :=
  match storedToken with
  | some row => .matched user row.id
  | none => .ended

-- The last statement of a call. The two writes of refresh are seen by nobody before they commit together.
def revokeStep (s : AuthSystem H) (n : Nat) (c : Call) (user : AuthUser) (rowId : Uuid) (draw : SessionDraw) : AuthSystem H :=
  match c.kind with
  | .logout => setStage (revokeRow rowId c.token s) n c .ended
  | .refresh =>
      if rowFree s draw then setStage (issueTokenResponse p user draw (revokeRow rowId c.token s)) n c .ended
      else setStage s n c .ended

def sessionStep [DecidableEq H] (s : AuthSystem H) : SessionEvent H → AuthSystem H
  | .elapse ms => { s with now := s.now + ms }
  | .setUser user => { s with users := s.users.filter (fun u => u.id ≠ user.id) ++ [user] }
  | .revokeAll userId =>
      { s with
        refreshTokens := updateWhere (fun r => r.userId = userId ∧ r.revokedAt = none) (revokedNow s.now) s.refreshTokens }
  | .issue user draw => if rowFree s draw then issueTokenResponse p user draw s else s
  | .present kind token =>
      match p.verify s.now token with
      | some sub => { s with calls := s.calls ++ [{ kind, token, sub, stage := .verified }] }
      | none => s
  | .readUser n =>
      match s.calls[n]? with
      | some c => if c.stage = .verified then setStage s n c (afterUser c (s.users.find? (fun u => u.id = c.sub))) else s
      | none => s
  | .readTokens n rows =>
      match s.calls[n]? with
      | some c =>
          match c.stage with
          | .found user =>
              -- The query leaves the order of its rows to the database.
              if rows.isPerm (openTokens s c.sub) then setStage s n c (afterTokens user (findMatchingRefreshToken p c.token rows))
              else s
          | _ => s
      | none => s
  | .revoke n draw =>
      match s.calls[n]? with
      | some c =>
          match c.stage with
          | .matched user rowId => revokeStep p s n c user rowId draw
          | _ => s
      | none => s

def AuthSystem.start (users : List AuthUser) (now : Instant) : AuthSystem H where
  users := users
  refreshTokens := []
  now := now
  calls := []
  issued := []
  uses := []

structure SingleUse (s : AuthSystem H) : Prop where
  once : s.uses.Pairwise (fun x y => x.2 ≠ y.2)
  own : ∀ x ∈ s.uses, x ∈ s.issued
  revoked : ∀ x ∈ s.uses, ∀ r ∈ s.refreshTokens, r.id = x.1 → r.revokedAt ≠ none

-- The rows that the last statement of a call changes are those of the token it was given.
def RevokesOwn [DecidableEq H] (s : AuthSystem H) (e : SessionEvent H) : Prop :=
  match e with
  | .revoke n _ => ∀ c ∈ s.calls[n]?, ∀ r ∈ s.refreshTokens, r ∉ (sessionStep p s e).refreshTokens → (r.id, c.token) ∈ s.issued
  | _ => True

def TokenNew (s : AuthSystem H) (user : AuthUser) : Prop :=
  ∀ x ∈ s.issued, x.2 ≠ refreshTokenOf p user s.now

instance (s : AuthSystem H) (user : AuthUser) : Decidable (TokenNew p s user) := by
  unfold TokenNew
  infer_instance

def stillOpen (s : AuthSystem H) (c : Call) : Prop :=
  match c.stage with
  | .matched user rowId =>
      (∃ r ∈ s.refreshTokens, r.id = rowId ∧ r.revokedAt = none) ∧ (c.kind = .refresh → TokenNew p s user)
  | _ => True

instance (s : AuthSystem H) (c : Call) : Decidable (stillOpen p s c) := by
  unfold stillOpen
  split <;> infer_instance

-- The user of a presented token has no other session open, nothing else closes the session in between, and no token is
-- signed a second time.
def sessionMeets (s : AuthSystem H) : SessionEvent H → Prop
  | .issue user _ => TokenNew p s user
  | .readTokens n _ => ∀ c ∈ s.calls[n]?, ∀ r ∈ openTokens s c.sub, (r.id, c.token) ∈ s.issued
  | .revoke n _ => ∀ c ∈ s.calls[n]?, stillOpen p s c
  | _ => True

instance (s : AuthSystem H) (e : SessionEvent H) : Decidable (sessionMeets p s e) := by
  unfold sessionMeets
  split <;> infer_instance

structure SessionsSound (s : AuthSystem H) : Prop where
  single : SingleUse s
  distinct : ∀ x ∈ s.issued, ∀ y ∈ s.issued, x.2 = y.2 → x.1 = y.1
  stored : ∀ x ∈ s.issued, ∃ r ∈ s.refreshTokens, r.id = x.1
  matched : ∀ c ∈ s.calls, ∀ user rowId, c.stage = .matched user rowId → (rowId, c.token) ∈ s.issued

section Preserved

variable (s : AuthSystem H) (sound : SessionsSound s)

include sound

theorem sound_setStage (n : Nat) (c : Call) (stage : Stage)
    (own : ∀ user rowId, stage = .matched user rowId → (rowId, c.token) ∈ s.issued) : SessionsSound (setStage s n c stage) where
  single := ⟨sound.single.once, sound.single.own, sound.single.revoked⟩
  distinct := sound.distinct
  stored := sound.stored
  matched := by
    intro x member user rowId staged
    rcases List.mem_or_eq_of_mem_set member with old | new
    · exact sound.matched x old user rowId staged
    · subst new
      exact own user rowId staged

theorem sound_revoked (q : RefreshToken H → Bool) :
    SessionsSound { s with refreshTokens := updateWhere q (revokedNow s.now) s.refreshTokens } where
  single := by
    refine ⟨sound.single.once, sound.single.own, fun x used r member named => ?_⟩
    obtain ⟨old, listed, rfl⟩ := (mem_updateWhere _ _ _ r).mp member
    split at named
    case isTrue picked =>
      rw [if_pos picked]
      exact fun none => by cases none
    case isFalse kept =>
      rw [if_neg kept]
      exact sound.single.revoked x used old listed named
  distinct := sound.distinct
  stored := by
    intro x known
    obtain ⟨r, listed, same⟩ := sound.stored x known
    refine ⟨_, (mem_updateWhere _ _ _ _).mpr ⟨r, listed, rfl⟩, ?_⟩
    split
    · exact same
    · exact same
  matched := sound.matched

theorem sound_issued (user : AuthUser) (draw : SessionDraw) (fresh : rowFree s draw = true) (new : TokenNew p s user) :
    SessionsSound (issueTokenResponse p user draw s) where
  single := by
    refine ⟨sound.single.once, fun x used => List.mem_append_left _ (sound.single.own x used), fun x used r member named => ?_⟩
    rcases List.mem_append.mp member with old | row
    · exact sound.single.revoked x used r old named
    · obtain ⟨r', listed, same⟩ := sound.stored x (sound.single.own x used)
      have apart := of_decide_eq_true (List.all_eq_true.mp fresh r' listed)
      rw [List.mem_singleton.mp row] at named
      exact (apart (same.trans named.symm)).elim
  distinct := by
    intro x known y known' same
    rcases List.mem_append.mp known with old | row
    · rcases List.mem_append.mp known' with old' | row'
      · exact sound.distinct x old y old' same
      · rw [List.mem_singleton.mp row'] at same
        exact (new x old same).elim
    · rcases List.mem_append.mp known' with old' | row'
      · rw [List.mem_singleton.mp row] at same
        exact (new y old' same.symm).elim
      · rw [List.mem_singleton.mp row, List.mem_singleton.mp row']
  stored := by
    intro x known
    rcases List.mem_append.mp known with old | row
    · obtain ⟨r, listed, same⟩ := sound.stored x old
      exact ⟨r, List.mem_append_left _ listed, same⟩
    · refine ⟨_, List.mem_append_right _ (List.mem_singleton.mpr rfl), ?_⟩
      rw [List.mem_singleton.mp row]
      rfl
  matched := by
    intro c member user' rowId staged
    exact List.mem_append_left _ (sound.matched c member user' rowId staged)

theorem sound_used (rowId : Uuid) (token : Bytes) (own : (rowId, token) ∈ s.issued)
    (live : ∃ r ∈ s.refreshTokens, r.id = rowId ∧ r.revokedAt = none) : SessionsSound (revokeRow rowId token s) := by
  have closed := sound_revoked s sound (fun r => r.id = rowId)
  refine ⟨⟨?once, ?own, ?revoked⟩, closed.distinct, closed.stored, closed.matched⟩
  case once =>
    refine List.pairwise_append.mpr ⟨sound.single.once, List.pairwise_singleton _ _, fun x used y new same => ?_⟩
    rw [List.mem_singleton.mp new] at same
    have rows := sound.distinct x (sound.single.own x used) (rowId, token) own same
    obtain ⟨r, listed, named, unrevoked⟩ := live
    exact sound.single.revoked x used r listed (named.trans rows.symm) unrevoked
  case own =>
    intro x used
    rcases List.mem_append.mp used with old | new
    · exact sound.single.own x old
    · rw [List.mem_singleton.mp new]
      exact own
  case revoked =>
    intro x used r member named
    rcases List.mem_append.mp used with old | new
    · exact closed.single.revoked x old r member named
    · rw [List.mem_singleton.mp new] at named
      obtain ⟨old, listed, rfl⟩ := (mem_updateWhere _ _ _ r).mp member
      by_cases picked : decide (old.id = rowId) = true
      · rw [if_pos picked]
        exact fun none => by cases none
      · rw [if_neg picked] at named
        exact (picked (decide_eq_true named)).elim

theorem sound_revokeStep (n : Nat) (c : Call) (member : c ∈ s.calls) (user : AuthUser) (rowId : Uuid) (staged : c.stage = .matched user rowId)
    (draw : SessionDraw) (open_ : stillOpen p s c) : SessionsSound (revokeStep p s n c user rowId draw) := by
  have own := sound.matched c member user rowId staged
  unfold stillOpen at open_
  rw [staged] at open_
  obtain ⟨live, new⟩ := open_
  have used := sound_used s sound rowId c.token own live
  have ended : ∀ (user' : AuthUser) (rowId' : Uuid), Stage.ended = .matched user' rowId' → False :=
    fun _ _ same => by cases same
  unfold revokeStep
  cases kind : c.kind with
  | logout => exact sound_setStage _ used n c .ended (fun user' rowId' same => (ended user' rowId' same).elim)
  | refresh =>
      by_cases fresh : rowFree s draw = true
      · rw [if_pos fresh]
        have stillFree : rowFree (revokeRow rowId c.token s) draw = true := by
          refine List.all_eq_true.mpr (fun r member => ?_)
          obtain ⟨old, listed, rfl⟩ := (mem_updateWhere _ _ _ r).mp member
          have apart := List.all_eq_true.mp fresh old listed
          split
          · exact apart
          · exact apart
        have issued := sound_issued p _ used user draw stillFree (new kind)
        exact sound_setStage _ issued n c .ended (fun user' rowId' same => (ended user' rowId' same).elim)
      · rw [if_neg fresh]
        exact sound_setStage s sound n c .ended (fun user' rowId' same => (ended user' rowId' same).elim)

end Preserved

theorem afterUser_unmatched (c : Call) (found : Option AuthUser) (user : AuthUser) (rowId : Uuid) : afterUser c found ≠ .matched user rowId := by
  unfold afterUser
  split
  case h_1 =>
    split
    · exact fun same => by cases same
    · exact fun same => by cases same
  case h_2 => exact fun same => by cases same

theorem sessionStep_sound [DecidableEq H] (s : AuthSystem H) (e : SessionEvent H) (sound : SessionsSound s) (meets : sessionMeets p s e) :
    SessionsSound (sessionStep p s e) := by
  cases e with
  | elapse ms => exact ⟨⟨sound.single.once, sound.single.own, sound.single.revoked⟩, sound.distinct, sound.stored, sound.matched⟩
  | setUser user => exact ⟨⟨sound.single.once, sound.single.own, sound.single.revoked⟩, sound.distinct, sound.stored, sound.matched⟩
  | revokeAll userId => exact sound_revoked s sound _
  | issue user draw =>
      dsimp only [sessionStep]
      by_cases fresh : rowFree s draw = true
      · rw [if_pos fresh]
        exact sound_issued p s sound user draw fresh meets
      · rw [if_neg fresh]
        exact sound
  | present kind token =>
      dsimp only [sessionStep]
      cases p.verify s.now token with
      | none => exact sound
      | some sub =>
          refine ⟨⟨sound.single.once, sound.single.own, sound.single.revoked⟩, sound.distinct, sound.stored, ?_⟩
          intro c member user rowId staged
          rcases List.mem_append.mp member with old | new
          · exact sound.matched c old user rowId staged
          · rw [List.mem_singleton.mp new] at staged
            cases staged
  | readUser n =>
      dsimp only [sessionStep]
      cases found : s.calls[n]? with
      | none => exact sound
      | some c =>
          dsimp only
          split
          · exact sound_setStage s sound n c _ (fun user rowId same => (afterUser_unmatched c _ user rowId same).elim)
          · exact sound
  | readTokens n rows =>
      dsimp only [sessionStep]
      cases found : s.calls[n]? with
      | none => exact sound
      | some c =>
          dsimp only
          cases staged : c.stage with
          | found user =>
              dsimp only
              split
              case isTrue listed =>
                refine sound_setStage s sound n c _ (fun user' rowId matched => ?_)
                cases stored : findMatchingRefreshToken p c.token rows with
                | none =>
                    rw [stored] at matched
                    cases matched
                | some r =>
                    rw [stored] at matched
                    obtain ⟨rfl, rfl⟩ := Stage.matched.inj matched
                    have member := (List.isPerm_iff.mp listed).mem_iff.mp (find_some _ rows r stored).1
                    exact meets c found r member
              case isFalse => exact sound
          | _ => exact sound
  | revoke n draw =>
      dsimp only [sessionStep]
      cases found : s.calls[n]? with
      | none => exact sound
      | some c =>
          dsimp only
          cases staged : c.stage with
          | matched user rowId =>
              exact sound_revokeStep p s sound n c (List.mem_of_getElem? found) user rowId staged draw (meets c found)
          | _ => exact sound

theorem revokeStep_kept (s : AuthSystem H) (n : Nat) (c : Call) (user : AuthUser) (rowId : Uuid) (draw : SessionDraw)
    (r : RefreshToken H) (member : r ∈ s.refreshTokens) (apart : r.id ≠ rowId) : r ∈ (revokeStep p s n c user rowId draw).refreshTokens := by
  have kept : r ∈ updateWhere (fun r => decide (r.id = rowId)) (revokedNow s.now) s.refreshTokens := by
    refine (mem_updateWhere _ _ _ r).mpr ⟨r, member, ?_⟩
    rw [if_neg (by simpa using apart)]
  unfold revokeStep
  cases c.kind with
  | logout => exact kept
  | refresh =>
      dsimp only
      split
      · exact List.mem_append_left _ kept
      · exact member

theorem sessionStep_revokesOwn [DecidableEq H] (s : AuthSystem H) (e : SessionEvent H) (sound : SessionsSound s) : RevokesOwn p s e := by
  cases e with
  | revoke n draw =>
      intro c found r member gone
      rw [Option.mem_def] at found
      dsimp only [sessionStep] at gone
      rw [found] at gone
      dsimp only at gone
      cases staged : c.stage with
      | matched user rowId =>
          rw [staged] at gone
          by_cases named : r.id = rowId
          · rw [named]
            exact sound.matched c (List.mem_of_getElem? found) user rowId staged
          · exact (gone (revokeStep_kept p s n c user rowId draw r member named)).elim
      | _ =>
          rw [staged] at gone
          exact (gone member).elim
  | _ => trivial

-- Every stored hash and every token under way was made from a token signed for its user.
structure SessionsSigned (s : AuthSystem H) : Prop where
  rows : ∀ r ∈ s.refreshTokens, ∃ claims salt, r.tokenHash = p.hash salt (signedToken p.hmac r.userId claims)
  calls : ∀ c ∈ s.calls, ∃ claims, c.token = signedToken p.hmac c.sub claims

section Signed

variable (s : AuthSystem H) (signed : SessionsSigned p s)

include signed

theorem signed_setStage (n : Nat) (c : Call) (member : c ∈ s.calls) (stage : Stage) : SessionsSigned p (setStage s n c stage) where
  rows := signed.rows
  calls := by
    intro x listed
    rcases List.mem_or_eq_of_mem_set listed with old | new
    · exact signed.calls x old
    · rw [new]
      exact signed.calls c member

theorem signed_revoked (q : RefreshToken H → Bool) (uses : List (Uuid × Bytes)) : SessionsSigned p { s with
    refreshTokens := updateWhere q (revokedNow s.now) s.refreshTokens
    uses := uses } where
  rows := by
    intro r member
    obtain ⟨old, listed, rfl⟩ := (mem_updateWhere _ _ _ r).mp member
    split
    · exact signed.rows old listed
    · exact signed.rows old listed
  calls := signed.calls

theorem signed_issued (user : AuthUser) (draw : SessionDraw) : SessionsSigned p (issueTokenResponse p user draw s) where
  rows := by
    intro r member
    rcases List.mem_append.mp member with old | new
    · exact signed.rows r old
    · rw [List.mem_singleton.mp new]
      exact ⟨claimsText user s.now, draw.salt, rfl⟩
  calls := signed.calls

theorem signed_revokeStep (n : Nat) (c : Call) (member : c ∈ s.calls) (user : AuthUser) (rowId : Uuid) (draw : SessionDraw) :
    SessionsSigned p (revokeStep p s n c user rowId draw) := by
  have used : SessionsSigned p (revokeRow rowId c.token s) := signed_revoked p s signed _ _
  unfold revokeStep
  cases c.kind with
  | logout => exact signed_setStage p _ used n c member .ended
  | refresh =>
      dsimp only
      split
      · exact signed_setStage p _ (signed_issued p _ used user draw) n c member .ended
      · exact signed_setStage p s signed n c member .ended

theorem sessionStep_signed [DecidableEq H] (e : SessionEvent H) : SessionsSigned p (sessionStep p s e) := by
  cases e with
  | elapse ms => exact ⟨signed.rows, signed.calls⟩
  | setUser user => exact ⟨signed.rows, signed.calls⟩
  | revokeAll userId => exact signed_revoked p s signed _ _
  | issue user draw =>
      dsimp only [sessionStep]
      split
      · exact signed_issued p s signed user draw
      · exact signed
  | present kind token =>
      dsimp only [sessionStep]
      cases verified : p.verify s.now token with
      | none => exact signed
      | some sub =>
          refine ⟨signed.rows, fun c member => ?_⟩
          rcases List.mem_append.mp member with old | new
          · exact signed.calls c old
          · rw [List.mem_singleton.mp new]
            exact p.verify_signed s.now token sub verified
  | readUser n =>
      dsimp only [sessionStep]
      cases found : s.calls[n]? with
      | none => exact signed
      | some c =>
          dsimp only
          split
          · exact signed_setStage p s signed n c (List.mem_of_getElem? found) _
          · exact signed
  | readTokens n rows =>
      dsimp only [sessionStep]
      cases found : s.calls[n]? with
      | none => exact signed
      | some c =>
          dsimp only
          cases c.stage with
          | found user =>
              dsimp only
              split
              · exact signed_setStage p s signed n c (List.mem_of_getElem? found) _
              · exact signed
          | _ => exact signed
  | revoke n draw =>
      dsimp only [sessionStep]
      cases found : s.calls[n]? with
      | none => exact signed
      | some c =>
          dsimp only
          cases c.stage with
          | matched user rowId => exact signed_revokeStep p s signed n c (List.mem_of_getElem? found) user rowId draw
          | _ => exact signed

theorem first_row_matches (c : Call) (member : c ∈ s.calls) (long : 19 ≤ (utf8 c.sub).length) (r : RefreshToken H)
    (open_ : r ∈ openTokens s c.sub) (rest : List (RefreshToken H)) : findMatchingRefreshToken p c.token (r :: rest) = some r := by
  obtain ⟨listed, selected⟩ := List.mem_filter.mp open_
  have owner := (of_decide_eq_true selected).1
  obtain ⟨claims, salt, hashed⟩ := signed.rows r listed
  obtain ⟨claims', presented⟩ := signed.calls c member
  refine List.find?_cons_of_pos ?_
  rw [hashed, presented, owner, p.compare_hash]
  exact signedToken_take p.hmac c.sub claims' claims long

end Signed

theorem start_sound (users : List AuthUser) (now : Instant) : SessionsSound (AuthSystem.start users now : AuthSystem H) where
  single := ⟨List.Pairwise.nil, fun _ used => (by cases used), fun _ used => (by cases used)⟩
  distinct := fun _ known => (by cases known)
  stored := fun _ known => (by cases known)
  matched := fun _ member => (by cases member)

theorem start_signed (users : List AuthUser) (now : Instant) : SessionsSigned p (AuthSystem.start users now) where
  rows := fun _ member => (by cases member)
  calls := fun _ member => (by cases member)

/-- Where a user has no second session open and nothing else closes the session of a call, tokens are single use. Any other
open session of the user is taken in the token's place when the query returns it first. -/
theorem refresh_tokens_single_use [DecidableEq H] (users : List AuthUser) (now : Instant) (events : List (SessionEvent H)) :
    (AllMeet (sessionStep p) (sessionMeets p) (AuthSystem.start users now) events →
      SingleUse (run (sessionStep p) (AuthSystem.start users now) events) ∧
      AllMeet (sessionStep p) (RevokesOwn p) (AuthSystem.start users now) events) ∧
    let s := run (sessionStep p) (AuthSystem.start users now) events
    ∀ n c user, s.calls[n]? = some c → c.stage = .found user → 19 ≤ (utf8 c.sub).length → ∀ r ∈ openTokens s c.sub,
      ∃ rows, (sessionStep p s (.readTokens n rows)).calls[n]? = some { c with stage := .matched user r.id } := by
  constructor
  · intro meets
    have kept := run_invariant_meet (sessionStep p) (sessionMeets p) SessionsSound (sessionStep_sound p)
      (AuthSystem.start users now) events (start_sound users now) meets
    exact ⟨kept.single, allMeet_shows (sessionStep p) (sessionMeets p) (RevokesOwn p) SessionsSound (sessionStep_sound p)
      (fun s e sound _ => sessionStep_revokesOwn p s e sound) _ events (start_sound users now) meets⟩
  · intro s n c user found staged long r open_
    have signed : SessionsSigned p s := run_invariant (sessionStep p) (SessionsSigned p)
      (fun s e kept => sessionStep_signed p s kept e)
      (AuthSystem.start users now) events (start_signed p users now)
    refine ⟨r :: (openTokens s c.sub).erase r, ?_⟩
    have listed : (r :: (openTokens s c.sub).erase r).isPerm (openTokens s c.sub) = true :=
      List.isPerm_iff.mpr (List.perm_cons_erase open_).symm
    have first := first_row_matches p s signed c (List.mem_of_getElem? found) long r open_ ((openTokens s c.sub).erase r)
    dsimp only [sessionStep]
    rw [found]
    dsimp only
    rw [staged]
    dsimp only
    rw [if_pos listed, first]
    exact List.getElem?_set_self (List.getElem?_eq_some_iff.mp found).1

end Calls

def sampleUser : AuthUser where
  id := "0b9cbb6f-62b4-4b0c-8f0e-2f6f7a1d9c11"
  email := "lan@eduai.vn"
  roles := ["student"]
  status := .active

def sampleHmac (input : Bytes) : Bytes :=
  input.drop (input.length - 32)

def sampleToken (now : Instant) : Bytes :=
  signedToken sampleHmac sampleUser.id (claimsText sampleUser now)

def samplePrimitives : Primitives Bytes where
  hmac := sampleHmac
  verify := fun now token =>
    if token ∈ [sampleToken 0, sampleToken 1000] ∧ now < refreshTokenExpiresInSeconds * 1000 then some sampleUser.id else none
  hash := fun _ x => x.take 72
  compare := fun x y => x.take 72 = y
  verify_signed := by
    intro now token sub verified
    split at verified
    case isTrue known =>
      obtain rfl := Option.some.inj verified
      rcases List.mem_pair.mp known.1 with first | second
      · exact ⟨_, first⟩
      · exact ⟨_, second⟩
    case isFalse => cases verified
  compare_hash := by
    intro x salt y
    exact decide_eq_true_iff

def sampleSession (n : String) (now : Instant) : RefreshToken Bytes :=
  sessionRow samplePrimitives sampleUser now { rowId := "session-" ++ n, salt := 1 }

def sampleIssue (n : String) : SessionEvent Bytes :=
  .issue sampleUser { rowId := "session-" ++ n, salt := 1 }

def sampleDraw : SessionDraw where
  rowId := "session-9"
  salt := 1

def sampleRotation : List (SessionEvent Bytes) :=
  [.setUser sampleUser, sampleIssue "1", .elapse 1000, .present .refresh (sampleToken 0), .readUser 0,
    .readTokens 0 [sampleSession "1" 0], .revoke 0 sampleDraw, .present .logout (sampleToken 1000), .readUser 1,
    .readTokens 1 [sessionRow samplePrimitives sampleUser 1000 sampleDraw], .revoke 1 sampleDraw]

theorem refresh_tokens_single_use_sample :
    (run (sessionStep samplePrimitives) (AuthSystem.start [] 0) sampleRotation).uses =
        [("session-1", sampleToken 0), ("session-9", sampleToken 1000)] ∧
      SingleUse (run (sessionStep samplePrimitives) (AuthSystem.start [] 0) sampleRotation) := by
  refine ⟨by decide +kernel, ((refresh_tokens_single_use samplePrimitives [] 0 sampleRotation).1 ?_).1⟩
  decide +kernel

def twoSessions : List (SessionEvent Bytes) :=
  [.setUser sampleUser, sampleIssue "1", .elapse 1000, sampleIssue "2", .present .logout (sampleToken 1000), .readUser 0,
    .readTokens 0 [sampleSession "1" 0, sampleSession "2" 1000], .revoke 0 sampleDraw, .present .logout (sampleToken 1000), .readUser 1,
    .readTokens 1 [sampleSession "2" 1000], .revoke 1 sampleDraw]

def twoRefreshes : List (SessionEvent Bytes) :=
  [.setUser sampleUser, sampleIssue "1", .elapse 1000, .present .refresh (sampleToken 0), .present .refresh (sampleToken 0), .readUser 0,
    .readUser 1, .readTokens 0 [sampleSession "1" 0], .readTokens 1 [sampleSession "1" 0], .revoke 0 sampleDraw,
    .revoke 1 { sampleDraw with rowId := "session-8" }]

theorem refresh_token_accepted_twice :
    ¬ SingleUse (run (sessionStep samplePrimitives) (AuthSystem.start [] 0) twoSessions) ∧
    ¬ SingleUse (run (sessionStep samplePrimitives) (AuthSystem.start [] 0) twoRefreshes) := by
  constructor
  · intro single
    have once := single.once
    revert once
    decide +kernel
  · intro single
    have once := single.once
    revert once
    decide +kernel

end EduAi.Auth
