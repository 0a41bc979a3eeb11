/-
# Connecting a store that is being connected

`save_connection` of `services/connectors/channels.py` against any database: others may write
between its lookup and its insert, and an insert may be refused for any reason.  An
`IntegrityError` is taken for a race that was lost, and `save_connection` calls itself to update
the winner's row.  A foreign key that is not met, such as a merchant that is not stored, raises the
same error, leaves no row to be found, and so is met again in every call
(`saveConnection_iff`).

After a return the store has exactly one connection (`attempt_returned`).
-/

import AgenticCommerce.Channels.Service

namespace AgenticCommerce
namespace Channels

open Relational

/-- The arguments of `save_connection`, the platform in lower case. -/
structure Registration where
  merchantId : String
  platform : String
  storeDomain : String
  accessToken : String
  label : String
  key : List UInt8

/-- What a flush meets apart from the unique indexes. -/
inductive FlushAnswer where
  | accepts
  /-- A foreign key or a check is not met. -/
  | integrityError
  /-- The database fails in another way. -/
  | fails (message : String)
  deriving DecidableEq

/-- What one call of `save_connection` meets: the rows that its lookup sees, the rows that its flush
meets, which others may have written, and what it draws.  Nothing changes the store of a
connection. -/
structure Attempt where
  seen : Table ChannelConnection
  held : Table ChannelConnection
  same : ∀ r ∈ seen, ∀ s ∈ held, r.connectionId = s.connectionId → Keyed.key r = Keyed.key s
  answer : FlushAnswer
  connectionId : String
  nonce : List UInt8
  now : Time

/-- How a call goes on. -/
inductive Outcome where
  | returned (row : ChannelConnection) (connections : Table ChannelConnection)
  | raised (refusal : Refusal)
  | failed (message : String)
  /-- The transaction is rolled back, and `save_connection` calls itself. -/
  | again

section

variable (crypto : Crypto) (x : Registration)

/-- The row is a connection of the store. -/
def Registration.isStore (r : ChannelConnection) : Bool :=
  decide (r.merchantId = x.merchantId) && decide (r.platformType = x.platform) &&
    decide (r.storeDomain = x.storeDomain)

/-- The row that is inserted. -/
def Registration.row (connectionId : String) (now : Time) (envelope : String) :
    ChannelConnection where
  connectionId
  merchantId := x.merchantId
  platformType := x.platform
  storeDomain := x.storeDomain
  accessTokenEncrypted := envelope
  label := if x.label = "" then x.platform ++ " · " ++ x.storeDomain else x.label
  createdAt := now

/-- One call of `save_connection`, up to where it calls itself. -/
def attempt (a : Attempt) : Outcome :=
  if x.platform ∉ credentialedPlatforms then
    .raised (.channelError (x.platform ++ " does not take a stored credential"))
  else match a.seen.first x.isStore, encryptSecret crypto a.nonce x.accessToken x.key with
    | _, .error e => .raised (.valueError e.text)
    | some existing, .ok envelope =>
        match a.answer with
        | .integrityError => .raised .integrityError
        | .fails message => .failed message
        | .accepts =>
            -- an update that matches no row, since another deleted it, raises too
            if (a.held.first fun r => decide (r.connectionId = existing.connectionId)).isNone then
              .failed "UPDATE statement on table 'channel_connection' expected to update 1 row(s)"
            else .returned (existing.renewed envelope x.label)
              (a.held.modify (fun r => decide (r.connectionId = existing.connectionId))
                (fun r => r.renewed envelope x.label) fun _ => rfl)
    | none, .ok envelope =>
        match a.answer with
        | .fails message => .failed message
        | .integrityError => .again
        | .accepts =>
            match a.held.insert? (x.row a.connectionId a.now envelope) with
            | some connections => .returned (x.row a.connectionId a.now envelope) connections
            | none => .again

/-- **A call ends**: it returns or raises, itself or in one of the calls that it makes. -/
inductive Ends (behaviour : ℕ → Attempt) : ℕ → Outcome → Prop where
  | stop {n : ℕ} (h : attempt crypto x (behaviour n) ≠ .again) :
      Ends behaviour n (attempt crypto x (behaviour n))
  | retry {n : ℕ} {outcome : Outcome} (h : attempt crypto x (behaviour n) = .again)
      (hrest : Ends behaviour (n + 1) outcome) : Ends behaviour n outcome

/-- The insert is refused with an `IntegrityError`: by a foreign key or a check, or by a row with
the same identifier or of the same store. -/
def Refused (a : Attempt) : Prop :=
  a.answer = .integrityError ∨ a.answer = .accepts ∧
    ∃ r ∈ a.held, r.connectionId = a.connectionId ∨ x.isStore r = true

end

section

variable {crypto : Crypto} {x : Registration} {a : Attempt}

theorem isStore_iff {r : ChannelConnection} : x.isStore r = true ↔
    (r.merchantId, r.platformType, r.storeDomain) = (x.merchantId, x.platform, x.storeDomain) := by
  simp [Registration.isStore, and_assoc]

/-- A secret is encrypted when there is one, and a key. -/
theorem encryptSecret_ok_iff {nonce key : List UInt8} {plaintext : String} :
    (∃ envelope, encryptSecret crypto nonce plaintext key = .ok envelope) ↔
      plaintext ≠ "" ∧ key ≠ [] := by
  unfold encryptSecret
  split_ifs with hplain hkey
  · exact ⟨fun ⟨_, h⟩ => (nomatch h), fun h => absurd hplain h.1⟩
  · exact ⟨fun ⟨_, h⟩ => (nomatch h), fun h => absurd hkey h.2⟩
  · exact ⟨fun _ => ⟨hplain, hkey⟩, fun _ => ⟨_, rfl⟩⟩

/-- An insert is refused where a row has its identifier, or is of its store. -/
theorem insert_row_eq_none {envelope : String} :
    a.held.insert? (x.row a.connectionId a.now envelope) = none ↔
      ∃ r ∈ a.held, r.connectionId = a.connectionId ∨ x.isStore r = true := by
  rw [Table.insert?_eq_none]
  refine exists_congr fun r => and_congr_right fun _ => ?_
  rw [isStore_iff]
  show (decide (r.connectionId = a.connectionId) || decide ((r.merchantId, r.platformType,
    r.storeDomain) = (x.merchantId, x.platform, x.storeDomain))) = true ↔ _
  rw [Bool.or_eq_true, decide_eq_true_iff, decide_eq_true_iff]

/-- **When a call starts over.** -/
theorem attempt_eq_again : attempt crypto x a = .again ↔
    x.platform ∈ credentialedPlatforms ∧ (x.accessToken ≠ "" ∧ x.key ≠ []) ∧
      (∀ r ∈ a.seen, x.isStore r = false) ∧ Refused x a := by
  unfold attempt
  by_cases hplatform : x.platform ∈ credentialedPlatforms
  swap
  · rw [if_pos hplatform]
    exact ⟨fun h => (nomatch h), fun h => absurd h.1 hplatform⟩
  rw [if_neg (not_not.2 hplatform), and_iff_right hplatform,
    ← @encryptSecret_ok_iff crypto a.nonce, ← Table.first_eq_none, Refused,
    ← @insert_row_eq_none x a ""]
  cases hencrypt : encryptSecret crypto a.nonce x.accessToken x.key with
  | error e =>
      refine ⟨fun h => (nomatch h), ?_⟩
      rintro ⟨⟨envelope, h⟩, -⟩
      exact nomatch h
  | ok envelope =>
      cases hfirst : a.seen.first x.isStore with
      | some existing =>
          refine ⟨fun h => absurd h ?_, fun h => nomatch h.2.1⟩
          cases a.answer with
          | integrityError => exact nofun
          | fails message => exact nofun
          | accepts =>
              dsimp only
              split_ifs
              · exact nofun
              · exact nofun
      | none =>
          have hsame : a.held.insert? (x.row a.connectionId a.now "") = none ↔
              a.held.insert? (x.row a.connectionId a.now envelope) = none :=
            insert_row_eq_none.trans insert_row_eq_none.symm
          rw [hsame, and_iff_right ⟨envelope, rfl⟩, and_iff_right rfl]
          cases a.answer with
          | fails message => simp
          | integrityError => simp
          | accepts =>
              cases hinsert : a.held.insert? (x.row a.connectionId a.now envelope) with
              | some connections => simp [hinsert]
              | none => simp [hinsert]

/-! ### One connection -/

/-- The rows of a store clash. -/
theorem clashes_of_isStore {r s : ChannelConnection} (hr : x.isStore r = true)
    (hs : x.isStore s = true) : clashes r s = true := by
  have heq := (isStore_iff.1 hr).trans (isStore_iff.1 hs).symm
  show (decide (r.connectionId = s.connectionId) || decide ((r.merchantId, r.platformType,
    r.storeDomain) = (s.merchantId, s.platformType, s.storeDomain))) = true
  rw [decide_eq_true heq, Bool.or_true]

/-- A store that is connected has one connection. -/
theorem select_isStore {connections : Table ChannelConnection} {row : ChannelConnection}
    (hrow : row ∈ connections) (hstore : x.isStore row = true) :
    (connections.select x.isStore).length = 1 := by
  have hmem : row ∈ connections.select x.isStore := Table.mem_select.2 ⟨hrow, hstore⟩
  have hunique : (connections.select x.isStore).Pairwise fun r s => clashes r s = false :=
    connections.unique.filter _
  match h : connections.select x.isStore with
  | [] =>
      rw [h] at hmem
      exact absurd hmem List.not_mem_nil
  | [_] => rfl
  | r :: s :: rest =>
      have hof : ∀ r ∈ connections.select x.isStore, x.isStore r = true :=
        fun r hr => (Table.mem_select.1 hr).2
      rw [h] at hunique hof
      have hclash := (List.pairwise_cons.1 hunique).1 s List.mem_cons_self
      rw [clashes_of_isStore (hof r List.mem_cons_self)
        (hof s (List.mem_cons_of_mem _ List.mem_cons_self))] at hclash
      exact nomatch hclash

/-- **A call that returns leaves exactly one connection of the store.** -/
theorem attempt_returned {row : ChannelConnection} {connections : Table ChannelConnection}
    (h : attempt crypto x a = .returned row connections) :
    (connections.select x.isStore).length = 1 := by
  unfold attempt at h
  split_ifs at h with hplatform
  split at h
  · exact nomatch h
  · rename_i existing envelope hfirst hencrypt
    obtain ⟨hexisting, hstore⟩ := Table.first_eq_some hfirst
    split at h
    · exact nomatch h
    · exact nomatch h
    · split_ifs at h with hthere
      obtain ⟨-, rfl⟩ := Outcome.returned.inj h
      rw [Option.isNone_iff_eq_none] at hthere
      obtain ⟨held, hheld⟩ := Option.ne_none_iff_exists'.1 hthere
      obtain ⟨hmem, hid⟩ := Table.first_eq_some hheld
      have hkey := a.same existing hexisting held hmem (of_decide_eq_true hid).symm
      refine select_isStore (Table.mem_modify_of_match hmem hid) ?_
      rw [isStore_iff] at hstore ⊢
      rw [← hstore]
      exact (Prod.mk.inj hkey).2.symm
  · split at h
    · exact nomatch h
    · exact nomatch h
    · split at h
      · rename_i inserted hinsert
        obtain ⟨rfl, rfl⟩ := Outcome.returned.inj h
        exact select_isStore ((Table.mem_insert hinsert).2 (.inr rfl)) (isStore_iff.2 rfl)
      · exact nomatch h

/-! ### All calls -/

variable {behaviour : ℕ → Attempt}

/-- It ends where one of the calls does. -/
theorem exists_ends_iff {n : ℕ} : (∃ outcome, Ends crypto x behaviour n outcome) ↔
    ∃ k, attempt crypto x (behaviour (n + k)) ≠ .again := by
  constructor
  · rintro ⟨outcome, h⟩
    induction h with
    | stop h => exact ⟨0, h⟩
    | @retry n outcome h hrest ih =>
        obtain ⟨k, hk⟩ := ih
        refine ⟨k + 1, ?_⟩
        rwa [Nat.add_right_comm] at hk
  · rintro ⟨k, hk⟩
    induction k generalizing n with
    | zero => exact ⟨_, .stop hk⟩
    | succ k ih =>
        by_cases hfirst : attempt crypto x (behaviour n) = .again
        · rw [← Nat.add_assoc, Nat.add_right_comm] at hk
          obtain ⟨outcome, h⟩ := ih hk
          exact ⟨outcome, .retry hfirst h⟩
        · exact ⟨_, .stop hfirst⟩

/-- What is returned in the end is what one of the calls returned. -/
theorem Ends.returned {n : ℕ} {outcome : Outcome} (h : Ends crypto x behaviour n outcome) :
    ∃ k, attempt crypto x (behaviour k) = outcome := by
  induction h with
  | @stop n h => exact ⟨n, rfl⟩
  | retry h hrest ih => exact ih

/-- **A race ends**: where the insert is refused only because the store is connected, and its
connection is there to be found by the next call, the second call is the last. -/
theorem ends_of_race
    (hrace : ∀ n, Refused x (behaviour n) → ∃ r ∈ (behaviour (n + 1)).seen, x.isStore r = true) :
    ∃ outcome, Ends crypto x behaviour 0 outcome := by
  rw [exists_ends_iff]
  by_contra hall
  have hagain : ∀ n, attempt crypto x (behaviour n) = .again := fun n => by
    by_contra h
    exact hall ⟨n, by rwa [Nat.zero_add]⟩
  obtain ⟨r, hr, hstore⟩ := hrace 0 (attempt_eq_again.1 (hagain 0)).2.2.2
  rw [(attempt_eq_again.1 (hagain 1)).2.2.1 r hr] at hstore
  exact nomatch hstore

/-- The calls on a database that nobody else writes to, with these identifiers to draw. -/
def undisturbed (connections : Table ChannelConnection) (nonce : List UInt8) (draws : List String)
    (now : Time) (n : ℕ) : Attempt where
  seen := connections
  held := connections
  same r hr s hs h := by
    have hclash : clashes r s = true := by
      show (decide (r.connectionId = s.connectionId) || _) = true
      rw [decide_eq_true h, Bool.true_or]
    rw [Table.eq_of_clash hr hs hclash]
  answer := .accepts
  connectionId := draws.getD n ""
  nonce
  now

section

variable {db db' : Store} {nonce : List UInt8} {draws : List String} {now : Time}
  {envelope : String}

/-- A call on such a database, for a platform that takes a credential. -/
theorem attempt_undisturbed (hplatform : x.platform ∈ credentialedPlatforms)
    (hencrypt : encryptSecret crypto nonce x.accessToken x.key = .ok envelope) (n : ℕ) :
    attempt crypto x (undisturbed db.connections nonce draws now n) =
      match db.ofStore? x.merchantId x.platform x.storeDomain with
      | some existing => .returned (existing.renewed envelope x.label)
          (db.updateConnection existing.connectionId (fun r => r.renewed envelope x.label)
            fun _ => rfl).connections
      | none =>
          match db.connections.insert? (x.row (draws.getD n "") now envelope) with
          | some connections => .returned (x.row (draws.getD n "") now envelope) connections
          | none => .again := by
  unfold attempt
  rw [if_neg (not_not.2 hplatform)]
  show (match db.ofStore? x.merchantId x.platform x.storeDomain,
    encryptSecret crypto nonce x.accessToken x.key with
    | _, .error e => _
    | some existing, .ok envelope => _
    | none, .ok envelope => _ : Outcome) = _
  rw [hencrypt]
  cases hfirst : db.ofStore? x.merchantId x.platform x.storeDomain with
  | none => rfl
  | some existing =>
      refine if_neg fun hnone => ?_
      have hother := Table.first_eq_none.1 (Option.isNone_iff_eq_none.1 hnone) existing
        (Table.first_eq_some hfirst).1
      rw [decide_eq_true (rfl : existing.connectionId = existing.connectionId)] at hother
      exact nomatch hother

/-- The identifiers are drawn until one is free. -/
theorem insertConnection_ends (hplatform : x.platform ∈ credentialedPlatforms)
    (hencrypt : encryptSecret crypto nonce x.accessToken x.key = .ok envelope)
    (hnone : db.ofStore? x.merchantId x.platform x.storeDomain = none) {row : ChannelConnection}
    (rest : List String) (n : ℕ) (hrest : draws.drop n = rest)
    (h : insertConnection db (fun connectionId => x.row connectionId now envelope) rest =
      .ok (row, db')) :
    Ends crypto x (undisturbed db.connections nonce draws now) n
      (.returned row db'.connections) := by
  induction rest generalizing n with
  | nil => exact nomatch h
  | cons draw rest ih =>
      have hcall := @attempt_undisturbed crypto x db nonce draws now envelope hplatform hencrypt n
      have hdraw : draws.getD n "" = draw := by
        rw [List.getD_eq_getElem?_getD, ← List.head?_drop, hrest]
        rfl
      rw [hnone, hdraw] at hcall
      unfold insertConnection at h
      cases hinsert : db.connections.insert? (x.row draw now envelope) with
      | some connections =>
          rw [hinsert] at h hcall
          obtain ⟨rfl, rfl⟩ := Prod.mk.inj (Except.ok.inj h)
          have hend : Ends crypto x (undisturbed db.connections nonce draws now) n _ :=
            .stop (by rw [hcall]; exact nofun)
          rwa [hcall] at hend
      | none =>
          rw [hinsert] at h hcall
          refine .retry hcall (ih (n + 1) ?_ h)
          rw [← List.tail_drop, hrest]
          rfl

/-- **Without others and without foreign keys** the calls do what `saveConnection` does. -/
theorem saveConnection_ends {row : ChannelConnection} (h : saveConnection crypto db x.merchantId
      x.platform x.storeDomain x.accessToken x.key x.label nonce draws now = .ok (row, db')) :
    Ends crypto x (undisturbed db.connections nonce draws now) 0
      (.returned row db'.connections) := by
  unfold saveConnection at h
  by_cases hplatform : x.platform ∈ credentialedPlatforms
  swap
  · rw [if_pos hplatform] at h
    exact nomatch h
  rw [if_neg (not_not.2 hplatform)] at h
  cases hencrypt : encryptSecret crypto nonce x.accessToken x.key with
  | error e =>
      rw [hencrypt] at h
      exact nomatch h
  | ok envelope =>
      rw [hencrypt] at h
      dsimp only at h
      cases hfirst : db.ofStore? x.merchantId x.platform x.storeDomain with
      | none =>
          rw [hfirst] at h
          exact insertConnection_ends hplatform hencrypt hfirst draws 0 rfl h
      | some existing =>
          have hcall := @attempt_undisturbed crypto x db nonce draws now envelope hplatform
            hencrypt 0
          rw [hfirst] at h hcall
          obtain ⟨rfl, rfl⟩ := Prod.mk.inj (Except.ok.inj h)
          have hend : Ends crypto x (undisturbed db.connections nonce draws now) 0 _ :=
            .stop (by rw [hcall]; exact nofun)
          rwa [hcall] at hend

end

end

/-- A store that is registered for a merchant. -/
private def firstStore : Registration where
  merchantId := "mrc_unknown"
  platform := "shopify"
  storeDomain := "demo.myshopify.example"
  accessToken := "shpat_1"
  label := ""
  key := [1]

/-- The merchant is not stored, and so no insert of a connection is accepted. -/
private def unknownMerchant (_ : ℕ) : Attempt where
  seen := Table.empty
  held := Table.empty
  same _ h := absurd h (Table.not_mem_empty _)
  answer := .integrityError
  connectionId := "chn_1"
  nonce := []
  now := 0

end Channels
end AgenticCommerce
