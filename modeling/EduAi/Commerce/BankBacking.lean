import EduAi.Commerce.Backing

set_option autoImplicit false

namespace EduAi.Commerce

open EduAi.Store EduAi.Gds EduAi.Payments

structure RequestOfAttempt (r : CommerceBankTransferRequest) (a : CommercePaymentAttempt) : Prop where
  attempt : a.id = r.paymentAttemptId
  order : a.orderId = r.orderId
  provider : a.provider = .bankTransfer
  amount : a.amountMinor = r.amountMinor
  identity : a.providerPaymentIdentity = some r.id

def RequestBacked (db : CommerceDb) (r : CommerceBankTransferRequest) : Prop :=
  ∃ a ∈ db.attempts, RequestOfAttempt r a

def RequestsBacked (db : CommerceDb) : Prop :=
  ∀ r ∈ db.bankRequests, RequestBacked db r

section Preserved

variable (db t : CommerceDb)

theorem requestBacked_kept (kept : Kept db t) (r r' : CommerceBankTransferRequest) (same : BankRequestKept r r')
    (backed : RequestBacked db r) : RequestBacked t r' := by
  obtain ⟨a, ha, of⟩ := backed
  obtain ⟨a', ha', attempt⟩ := kept.attempts a ha
  have shape := same.same
  refine ⟨a', ha', ?_⟩
  constructor
  · rw [attempt.id, of.attempt, ← shape]
  · rw [attempt.orderId, of.order, ← shape]
  · rw [attempt.provider, of.provider]
  · rw [attempt.amount, of.amount, ← shape]
  · refine attempt.identity _ ?_
    rw [of.identity, ← shape]

theorem write_bankRequests_from (keys : Keys db) (w : Write db t) (r' : CommerceBankTransferRequest) (hr' : r' ∈ t.bankRequests) :
    (∃ r ∈ db.bankRequests, BankRequestKept r r') ∨ BankRequestFits db r' := by
  cases w with
  | routine _ w =>
    cases w with
    | bankRequest r fits =>
      rcases List.mem_append.mp hr' with old | new
      · exact .inl ⟨r', old, bankRequestKept_refl r'⟩
      · rw [List.mem_singleton.mp new]
        exact .inr fits
    | moveBankRequest id status old moves =>
      obtain ⟨r, hr, rfl⟩ := (mem_updateWhere _ _ _ _).mp hr'
      refine .inl ⟨r, hr, ?_⟩
      by_cases selected : r.id = id
      · obtain ⟨member, named⟩ := find_some _ db.bankRequests old moves.found
        have same : r = old := unique_eq _ db.bankRequests keys.bank.ids r old old.id hr member
          (by rw [selected, of_decide_eq_true named]) rfl
        rw [if_pos (by simp [selected])]
        refine ⟨rfl, ?_⟩
        intro paid
        rcases moves.transition with kept | ⟨opened, _⟩
        · rw [← kept, ← same]
          exact paid
        · rw [← same, paid] at opened
          simp [bankWindowOpen] at opened
      · rw [if_neg (by simp [selected])]
        exact bankRequestKept_refl r
    | _ => exact .inl ⟨r', hr', bankRequestKept_refl r'⟩
  | _ => exact .inl ⟨r', hr', bankRequestKept_refl r'⟩

theorem write_requestsBacked (keys : Keys db) (requests : RequestsBacked db) (w : Write db t) : RequestsBacked t := by
  have kept := write_kept db t keys w
  intro r' hr'
  rcases write_bankRequests_from db t keys w r' hr' with ⟨r, hr, same⟩ | fits
  · exact requestBacked_kept db t kept r r' same (requests r hr)
  · obtain ⟨a, found, bound⟩ := (Option.any_eq_true _ _).mp fits.bound.2.1
    obtain ⟨order, provider, _, amount, _, identity⟩ := of_decide_eq_true bound
    obtain ⟨ha, named⟩ := attemptById_some db r'.paymentAttemptId a found
    exact requestBacked_kept db t kept r' r' (bankRequestKept_refl r') ⟨a, ha, named, order, provider, amount, identity⟩

theorem writes_requestsBacked (keys : Keys db) (requests : RequestsBacked db) (writes : Writes Write db t) : RequestsBacked t := by
  have both := writes_invariant (fun s => Keys s ∧ RequestsBacked s)
    (fun s u w held => ⟨write_keys s u w held.1, write_requestsBacked s u held.1 held.2 w⟩) db t writes ⟨keys, requests⟩
  exact both.2

end Preserved

end EduAi.Commerce
