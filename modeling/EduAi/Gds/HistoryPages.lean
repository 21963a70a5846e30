import EduAi.Gds.HistoryCursor

set_option autoImplicit false

namespace EduAi.Gds.History

open EduAi.Store

section Rows

variable (tables : Tables) (owner : UuidText)

theorem prefixed_id (mark : Units) (uuid : UuidText) (known : (mark = journalPrefix ∧ mark.length = 8) ∨
    (mark = withdrawalPrefix ∧ mark.length = 11)) : isHistoryId (mark ++ uuid.text) = true := by
  have parts : (mark ++ uuid.text).take mark.length = mark ∧ (mark ++ uuid.text).drop mark.length = uuid.text :=
    ⟨List.take_left, List.drop_left⟩
  refine decide_eq_true ?_
  rcases known with ⟨same, length⟩ | ⟨same, length⟩
  · rw [length] at parts
    left
    rw [parts.1, parts.2]
    exact ⟨same, uuid.form⟩
  · rw [length] at parts
    right
    rw [parts.1, parts.2]
    exact ⟨same, uuid.form⟩

theorem activity_id : ∀ row ∈ activity tables owner, isHistoryId row.id = true := by
  intro row member
  rcases List.mem_append.mp member with posted | requested
  · obtain ⟨j, _, rfl⟩ := List.mem_map.mp posted
    exact prefixed_id journalPrefix j.id (.inl ⟨rfl, by decide⟩)
  · obtain ⟨d, _, rfl⟩ := List.mem_map.mp requested
    exact prefixed_id withdrawalPrefix d.id (.inr ⟨rfl, by decide⟩)

theorem prefixed_injective (mark : Units) : Function.Injective (fun uuid : UuidText => mark ++ uuid.text) := by
  intro a b same
  have texts : a.text = b.text := List.append_cancel_left same
  cases a
  cases b
  simp_all

theorem activity_ids : ((activity tables owner).map (·.id)).Nodup := by
  have posted : (tables.journal.map (fun j => journalPrefix ++ j.id.text)).Nodup := by
    have renamed := tables.journalKey.map (prefixed_injective journalPrefix)
    rwa [List.map_map] at renamed
  have requested : (tables.withdrawals.map (fun d => withdrawalPrefix ++ d.id.text)).Nodup := by
    have renamed := tables.withdrawalKey.map (prefixed_injective withdrawalPrefix)
    rwa [List.map_map] at renamed
  rw [activity, List.map_append, List.map_map, List.map_map, List.nodup_append]
  refine ⟨posted.sublist (List.filter_sublist.map _), requested.sublist (List.filter_sublist.map _), ?_⟩
  intro a inPosted b inRequested same
  obtain ⟨j, _, rfl⟩ := List.mem_map.mp inPosted
  obtain ⟨d, _, rfl⟩ := List.mem_map.mp inRequested
  have first : some (106 : UInt16) = some 119 := congrArg List.head? same
  exact absurd first (by decide)

theorem rowKey_id (a b : ActivityRow) (same : rowKey a = rowKey b) : a.id = b.id := by
  have keys : (a.occurredAt, a.id.map UInt16.toNat) = (b.occurredAt, b.id.map UInt16.toNat) := toLex.injective same
  have ids := (Prod.mk.inj keys).2
  exact List.map_injective_iff.mpr (fun c d level => UInt16.toNat_inj.mp level) ids

theorem matching_keys (filter : HistoryFilter) : ((matching tables owner filter).map rowKey).Nodup := by
  have ids : ((matching tables owner filter).map (·.id)).Nodup :=
    (activity_ids tables owner).sublist (List.filter_sublist.map _)
  rw [List.nodup_map_iff_inj_on (ids.of_map _)]
  intro a memberA b memberB same
  exact List.inj_on_of_nodup_map ids memberA memberB (rowKey_id a b same)

end Rows

-- From 1970 on, and less than 10^18 microseconds later.
def WrittenTime (micros : Int) : Prop :=
  0 ≤ micros ∧ micros < 1000000000000000000

theorem microsText_written (micros : Int) (time : WrittenTime micros) :
    isMicros (microsText micros) = true ∧ (digitsValue (microsText micros) : Int) = micros := by
  obtain ⟨least, most⟩ := time
  have text : microsText micros = decimal micros.toNat := by
    rw [microsText, if_neg (by omega)]
  rw [text]
  refine ⟨decide_eq_true ⟨decimal_length_pos _, decimal_length_le _ 18 (by omega) (by omega), ?_⟩, ?_⟩
  · exact List.all_eq_true.mpr (decimal_digits _)
  · rw [digitsValue_decimal]
    omega

theorem limitOf_range (value : QueryValue) (limit : Nat) (read : limitOf value = some limit) : 1 ≤ limit ∧ limit ≤ 50 := by
  cases value with
  | several => cases read
  | text s =>
      rw [limitOf] at read
      split at read
      next shape =>
        obtain ⟨digits, length, notZero, most⟩ := shape
        obtain rfl := Option.some.inj read
        refine ⟨Nat.pos_of_ne_zero ?_, most⟩
        intro zero
        have back := padded_value s (List.all_eq_true.mp digits)
        rw [zero] at back
        rcases length with one | two
        · rw [one] at back
          exact notZero (by rw [← back]; rfl)
        · rw [two] at back
          exact notZero (by rw [← back]; rfl)
      next => cases read

section Pages

variable (tables : Tables) (owner : UuidText)

def positionOf (row : ActivityRow) : Position where
  micros := microsText row.occurredAt
  id := row.id

def Behind (done : List ActivityRow) (before : Option Position) : Prop :=
  before = done.getLast?.map positionOf

theorem historyQuery_rest (query : HistoryQuery) (done rest : List ActivityRow)
    (split : newestFirst rowKey (matching tables owner query.filter) = done ++ rest) (behind : Behind done query.before)
    (times : ∀ row ∈ matching tables owner query.filter, WrittenTime row.occurredAt) :
    historyQuery tables owner query = rest.take (query.limit + 1) := by
  rw [historyQuery, behind]
  cases ends : done.getLast? with
  | none =>
      rw [List.getLast?_eq_none_iff.mp ends, List.nil_append] at split
      rw [Option.map_none, Option.map_none, pageAfter_none, split]
  | some last =>
      have listed : last ∈ newestFirst rowKey (matching tables owner query.filter) := by
        rw [split]
        exact List.mem_append_left rest (List.mem_of_getLast? ends)
      have member := (newestFirst_perm rowKey _).mem_iff.mp listed
      have key : sortKey (digitsValue (positionOf last).micros) (positionOf last).id = rowKey last := by
        show sortKey (digitsValue (microsText last.occurredAt)) last.id = _
        rw [(microsText_written _ (times last member)).2]
        rfl
      rw [Option.map_some, Option.map_some, key]
      exact pageAfter_last rowKey _ done rest (matching_keys tables owner query.filter) split last ends _

theorem readHistoryPage_rest (query : HistoryQuery) (rest : List ActivityRow)
    (rows : historyQuery tables owner query = rest.take (query.limit + 1)) :
    (readHistoryPage tables owner query).items = (rest.take query.limit).map historyItem ∧
      (readHistoryPage tables owner query).nextCursor =
        if query.limit < rest.length then
          (rest.take query.limit).getLast?.map (fun last =>
            encodeHistoryCursor owner query.filter (microsText last.occurredAt) last.id)
        else none := by
  have selected : (rest.take (query.limit + 1)).take query.limit = rest.take query.limit := by
    rw [List.take_take, Nat.min_eq_left (by omega)]
  have more : query.limit < (rest.take (query.limit + 1)).length ↔ query.limit < rest.length := by
    rw [List.length_take]
    omega
  unfold readHistoryPage
  dsimp only
  rw [rows, selected]
  refine ⟨rfl, ?_⟩
  simp only [more, decide_eq_true_eq]

end Pages

section Follow

variable (isOne : Units → Bool) (one : isOne (ascii "1") = true) (tables : Tables) (owner : UuidText)
  (filter limit : Option QueryValue)

theorem parse_first (query : HistoryQuery) (admitted : parseHistoryQuery isOne owner filter limit none = .ok query) :
    filterOf (filter.getD (.text (ascii "all"))) = some query.filter ∧
      limitOf (limit.getD (.text (ascii "20"))) = some query.limit ∧ query.before = none := by
  unfold parseHistoryQuery at admitted
  cases known : filterOf (filter.getD (.text (ascii "all"))) with
  | none =>
      rw [known] at admitted
      cases admitted
  | some f =>
      cases sized : limitOf (limit.getD (.text (ascii "20"))) with
      | none =>
          rw [known, sized] at admitted
          cases admitted
      | some l =>
          rw [known, sized] at admitted
          obtain rfl := Except.ok.inj admitted
          exact ⟨rfl, rfl, rfl⟩

include one in
theorem parse_written (query : HistoryQuery) (admitted : parseHistoryQuery isOne owner filter limit none = .ok query)
    (micros id : Units) (written : isMicros micros = true) (named : isHistoryId id = true) :
    parseHistoryQuery isOne owner filter limit (some (.text (encodeHistoryCursor owner query.filter micros id))) =
      .ok { query with before := some { micros := micros, id := id } } := by
  obtain ⟨known, sized, _⟩ := parse_first isOne owner filter limit query admitted
  unfold parseHistoryQuery
  rw [known, sized]
  dsimp only
  rw [cursorPosition_encode owner query.filter micros id written named isOne one]

variable (query : HistoryQuery) (admitted : parseHistoryQuery isOne owner filter limit none = .ok query)
  (times : ∀ row ∈ matching tables owner query.filter, WrittenTime row.occurredAt)

def cursorAfter (done : List ActivityRow) : Option Units :=
  done.getLast?.map (fun last => encodeHistoryCursor owner query.filter (microsText last.occurredAt) last.id)

include one admitted times

theorem parse_after (done rest : List ActivityRow)
    (split : newestFirst rowKey (matching tables owner query.filter) = done ++ rest) :
    parseHistoryQuery isOne owner filter limit ((cursorAfter owner query done).map .text) =
      .ok { query with before := done.getLast?.map positionOf } := by
  obtain ⟨_, _, first⟩ := parse_first isOne owner filter limit query admitted
  rw [cursorAfter]
  cases ends : done.getLast? with
  | none =>
      rw [Option.map_none, Option.map_none, Option.map_none, admitted, ← first]
  | some last =>
      have listed : last ∈ newestFirst rowKey (matching tables owner query.filter) := by
        rw [split]
        exact List.mem_append_left rest (List.mem_of_getLast? ends)
      have member := (newestFirst_perm rowKey _).mem_iff.mp listed
      exact parse_written isOne one owner filter limit query admitted _ _ (microsText_written _ (times last member)).1
        (activity_id tables owner last (List.mem_of_mem_filter member))

theorem followPages_rest (requests : Nat) (done rest : List ActivityRow)
    (split : newestFirst rowKey (matching tables owner query.filter) = done ++ rest) (enough : rest.length < requests) :
    followPages isOne tables owner filter limit requests (cursorAfter owner query done) = some (.ok (rest.map historyItem)) := by
  have sized := (limitOf_range _ _ (parse_first isOne owner filter limit query admitted).2.1).1
  induction requests generalizing done rest with
  | zero => omega
  | succ requests ih =>
      have parsed := parse_after isOne one tables owner filter limit query admitted times done rest split
      have rows := historyQuery_rest tables owner { query with before := done.getLast?.map positionOf } done rest split rfl times
      obtain ⟨items, next⟩ := readHistoryPage_rest tables owner _ rest rows
      rw [followPages, parsed]
      dsimp only
      rw [next, items]
      by_cases more : query.limit < rest.length
      · have taken : (rest.take query.limit).getLast?.isSome = true := by
          rw [List.getLast?_isSome]
          intro empty
          have length := congrArg List.length empty
          rw [List.length_take, List.length_nil] at length
          omega
        obtain ⟨last, ends⟩ := Option.isSome_iff_exists.mp taken
        have cursor : cursorAfter owner query (done ++ rest.take query.limit) =
            some (encodeHistoryCursor owner query.filter (microsText last.occurredAt) last.id) := by
          rw [cursorAfter, List.getLast?_append, ends]
          rfl
        have later := ih (done ++ rest.take query.limit) (rest.drop query.limit)
          (by rw [List.append_assoc, List.take_append_drop]; exact split) (by rw [List.length_drop]; omega)
        rw [cursor] at later
        rw [if_pos more, ends, Option.map_some]
        dsimp only
        rw [later, Option.map_some, Except.map, ← List.map_append, List.take_append_drop]
      · have all : rest.length ≤ query.limit := by omega
        rw [if_neg more, List.take_of_length_le all]

end Follow

/-- The cursor of a row is read back, and following the pages visits every matching row once, the latest first. -/
theorem history_pages (isOne : Units → Bool) (one : isOne (ascii "1") = true) (tables : Tables) (owner : UuidText)
    (filter limit : Option QueryValue) (query : HistoryQuery)
    (admitted : parseHistoryQuery isOne owner filter limit none = .ok query) :
    (∀ micros id, isMicros micros = true → isHistoryId id = true →
      parseHistoryQuery isOne owner filter limit (some (.text (encodeHistoryCursor owner query.filter micros id))) =
        .ok { query with before := some { micros := micros, id := id } }) ∧
    ((∀ row ∈ matching tables owner query.filter, WrittenTime row.occurredAt) →
      ∃ visited : List ActivityRow, visited.Perm (matching tables owner query.filter) ∧ Descending rowKey visited ∧
        ∀ requests, (matching tables owner query.filter).length < requests →
          followPages isOne tables owner filter limit requests none = some (.ok (visited.map historyItem))) := by
  refine ⟨parse_written isOne one owner filter limit query admitted, ?_⟩
  intro times
  have perm := newestFirst_perm rowKey (matching tables owner query.filter)
  refine ⟨newestFirst rowKey (matching tables owner query.filter), perm,
    newestFirst_descending rowKey _ (matching_keys tables owner query.filter), ?_⟩
  intro requests enough
  rw [← perm.length_eq] at enough
  exact followPages_rest isOne one tables owner filter limit query admitted times requests [] _ rfl enough

def sampleUuid (last : UInt16) (form : isUuid (ascii "3f2504e0-4f89-41d3-9a0c-0305e82c330" ++ [last]) = true) : UuidText where
  text := ascii "3f2504e0-4f89-41d3-9a0c-0305e82c330" ++ [last]
  form := form

def sampleOwner : UuidText :=
  sampleUuid 49 (by decide +kernel)

def sampleWallet : UuidText :=
  sampleUuid 50 (by decide +kernel)

def topup (last : UInt16) (form : isUuid (ascii "3f2504e0-4f89-41d3-9a0c-0305e82c330" ++ [last]) = true) (occurredAt : Int) :
    JournalRow where
  id := sampleUuid last form
  walletId := sampleWallet
  kind := .topupCredit
  amountMinor := 50000
  orderRef := none
  occurredAt := occurredAt

def twoTopups (occurredAt : Int) : Tables where
  wallets := [{ id := sampleWallet, buyerId := sampleOwner }]
  journal := [topup 51 (by decide +kernel) occurredAt, topup 52 (by decide +kernel) occurredAt]
  withdrawals := []
  journalKey := by
    show [sampleUuid 51 _, sampleUuid 52 _].Nodup
    decide +kernel
  withdrawalKey := List.nodup_nil

def literalOne (literal : Units) : Bool :=
  literal = ascii "1"

theorem history_pages_sample : ∃ visited : List ActivityRow,
    visited.Perm (matching (twoTopups 1735664400123000) sampleOwner .incoming) ∧ Descending rowKey visited ∧
      ∀ requests, (matching (twoTopups 1735664400123000) sampleOwner .incoming).length < requests →
        followPages literalOne (twoTopups 1735664400123000) sampleOwner (some (.text (ascii "incoming"))) (some (.text (ascii "1")))
          requests none = some (.ok (visited.map historyItem)) :=
  (history_pages literalOne (by decide) (twoTopups 1735664400123000) sampleOwner (some (.text (ascii "incoming")))
    (some (.text (ascii "1"))) { filter := .incoming, limit := 1, before := none } (by decide +kernel)).2 (by
      unfold WrittenTime
      decide +kernel)

-- The cursor of a row from before 1970 is refused, and the second row is never reached.
theorem early_row_unreached :
    followPages literalOne (twoTopups (-1000000)) sampleOwner none (some (.text (ascii "1"))) 3 none = some (.error .invalidCursor) := by
  decide +kernel

end EduAi.Gds.History
