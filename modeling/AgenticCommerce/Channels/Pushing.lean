/-
# Order pushes

An order is to reach a store once.  `record_order_push` keeps one row for each connection and
order and answers `duplicate` once that row is a success, but the route asks it only after it
has called the connector, and it hands it a success for everything a connector returns:
`queued`, `failed` and `logged` as well as `created` and `received`.

So the connector is called again at every further request, and a success is what a store
reported only where the store took the order (`pushed_once_iff`).
-/

import AgenticCommerce.Channels.Isolation

namespace AgenticCommerce
namespace Channels

open Relational
open Access (Principal)

/-- A success is recorded for the push of the order to the connection. -/
def Recorded (w : World) (connectionId orderId : String) : Bool :=
  ((w.db.pushOf? connectionId orderId).map ChannelOrderPush.status) == some .success

/-- The contact is a push of the order to the connection. -/
def Contact.isPush (x : Contact) (connectionId orderId : String) : Bool :=
  match x.purpose with
  | .push o _ => o == orderId && x.connection.connectionId == connectionId
  | .sync => false

/-- The connected store reported that it created or received the order. -/
def Contact.Reports (platform : Platform) (key : List UInt8) (x : Contact) (orderId : String) :
    Prop :=
  ∃ result, x.purpose = .push orderId (.ok result) ∧ result.status.Reported ∧
    x.connector.Serves platform.crypto key x.connection

/-- How often the connector is called for the order after a success has been recorded. -/
def callsAfterSuccess (platform : Platform) (connectionId orderId : String) (w : World)
    (events : List Event) : ℕ :=
  tally (step platform) (fun w e => if Recorded w connectionId orderId then
    ((handle platform w e).contacts.filter (·.isPush connectionId orderId)).length else 0) w
    events

/-- After a success has been recorded, the connector is called at most once. -/
def PushedOnce (platform : Platform) (connectionId orderId : String) (w : World)
    (events : List Event) : Prop := callsAfterSuccess platform connectionId orderId w events ≤ 1

/-- A success is recorded only when the connected store reported one. -/
def SuccessReported (platform : Platform) (connectionId orderId : String) (w : World)
    (events : List Event) : Prop :=
  Always (step platform) (fun w e => Recorded w connectionId orderId = false →
    Recorded (step platform w e) connectionId orderId = true →
    ∃ x ∈ (handle platform w e).contacts, x.isPush connectionId orderId = true ∧
      x.Reports platform w.key orderId) w events

/-- The event is a request to push the order that reaches a connector. -/
def Event.reaches (platform : Platform) (w : World) (connectionId orderId : String) :
    Event → Bool
  | .push principal body _ => body.connectionId == connectionId && body.orderId == orderId &&
      (reach platform w principal connectionId).toBool
  | _ => false

/-- How many requests to push the order reach a connector after a success has been recorded. -/
def requestsAfterSuccess (platform : Platform) (connectionId orderId : String) (w : World)
    (events : List Event) : ℕ :=
  tally (step platform) (fun w e => if Recorded w connectionId orderId then
    if e.reaches platform w connectionId orderId then 1 else 0 else 0) w events

/-- The store the request reaches is the connected one, and it took the order. -/
def Event.Taken (platform : Platform) (w : World) : Event → Prop
  | .push principal body x => ∀ row connector registry,
      reach platform w principal body.connectionId = .ok (row, connector, registry) →
      connector.Serves platform.crypto w.key row ∧ connector.StoreTook body.checkout x.reply
  | _ => True

/-! ### Recording -/

section

variable {db : Store} {row : ChannelConnection} {orderId connectionId o : String}
  {status : RunStatus} {remoteReference errorMessage : Option String} {pushId : String}
  {now : Time}

/-- **What is recorded** is the last attempt, unless an earlier one is a success; the rows of
other pairs stay. -/
theorem pushOf?_recordOrderPush :
    ((recordOrderPush db row orderId status remoteReference errorMessage pushId
        now).2.pushOf? connectionId o).map ChannelOrderPush.status =
      if connectionId = row.connectionId ∧ o = orderId then
        if (db.pushOf? connectionId o).map ChannelOrderPush.status = some .success then
          some .success
        else some status
      else (db.pushOf? connectionId o).map ChannelOrderPush.status := by
  unfold recordOrderPush
  cases hfound : db.pushOf? row.connectionId orderId with
  | some existing =>
      dsimp only
      by_cases hsuccess : existing.status = .success
      · rw [if_pos hsuccess]
        by_cases hpair : connectionId = row.connectionId ∧ o = orderId
        · obtain ⟨rfl, rfl⟩ := hpair
          simp only [hfound, Option.map_some, hsuccess, and_self, if_true]
        · simp only [hpair, if_false]
      · rw [if_neg hsuccess]
        dsimp only
        rw [Store.pushOf?_retryPush]
        by_cases hpair : connectionId = row.connectionId ∧ o = orderId
        · obtain ⟨rfl, rfl⟩ := hpair
          simp only [hfound, Option.map_some, Option.some.injEq, hsuccess, and_self, if_true,
            if_false, ChannelOrderPush.retried]
        · simp only [hpair, if_false, Option.map_id']
  | none =>
      dsimp only
      rw [Store.pushOf?_addPush hfound]
      dsimp only
      split_ifs with hpair hsuccess
      · rw [hpair.1, hpair.2, hfound] at hsuccess
        exact nomatch hsuccess
      · rfl
      · rfl

end

/-! ### One event -/

section

variable {platform : Platform} {w : World} {connectionId orderId : String}

theorem runSync_pushes {db : Store} {row : ChannelConnection} {connector : Connector} {limit : ℤ}
    {fetch : Fetch} {syncRunId : String} {startedAt finishedAt : Time} :
    (runSync db row connector limit fetch syncRunId startedAt finishedAt).2.pushes =
      db.pushes := by
  unfold runSync
  cases fetch connector limit <;> rfl

/-- What a request to push an order that reaches a connector does: it calls the connector
before it looks at the row, and records a success. -/
theorem pushOrder_reached {principal : Principal} {body : PushOrderRequest} {x : Encounter}
    {row : ChannelConnection} {connector : Connector} {registry : Registry}
    (hreach : reach platform w principal body.connectionId = .ok (row, connector, registry)) :
    let result : PushResult := { status := connector.pushStatus body.checkout x.reply,
                                 orderId := body.orderId, merchantId := connector.merchantId,
                                 platformType := connector.platformType }
    (pushOrder platform w principal body x).contacts =
        [{ connection := row, connector, purpose := .push body.orderId (.ok result) }] ∧
      ∀ c o, Recorded (pushOrder platform w principal body x).world c o =
        (Recorded w c o || (c == body.connectionId && o == body.orderId)) := by
  have hne : body.orderId ≠ "" := fun he => by
    have := body.orderId_ok.1
    rw [he] at this
    exact absurd this (by decide)
  have hid := (reach_eq_ok hreach).1.2
  dsimp only
  unfold pushOrder
  rw [hreach]
  dsimp only
  rw [Connector.pushOrder_of_ne hne]
  refine ⟨rfl, fun c o => ?_⟩
  unfold Recorded recordAttempt
  dsimp only
  rw [pushOf?_recordOrderPush, hid]
  by_cases hpair : c = body.connectionId ∧ o = body.orderId
  · rw [if_pos hpair, hpair.1, hpair.2]
    split_ifs <;> simp
  · rw [if_neg hpair]
    have hfalse : (c == body.connectionId && o == body.orderId) = false := by
      simpa using hpair
    rw [hfalse, Bool.or_false]

/-- An event that is no request to push the order leaves its record as it was, and calls no
connector for it. -/
theorem handle_other {e : Event} (h : e.reaches platform w connectionId orderId = false) :
    (handle platform w e).contacts.filter (·.isPush connectionId orderId) = [] ∧
      Recorded (step platform w e) connectionId orderId = Recorded w connectionId orderId := by
  unfold step
  cases e with
  | connect principal body x =>
      simp only [handle]
      unfold connectStore
      cases hsaved : savedStore platform w principal body x with
      | error e => exact ⟨rfl, rfl⟩
      | ok saved =>
          obtain ⟨row, db, connector⟩ := saved
          have hpushes := (savedStore_eq_ok hsaved).2.2.2.1
          dsimp only
          split_ifs
          · refine ⟨rfl, ?_⟩
            unfold Recorded Store.pushOf?
            rw [runSync_pushes, hpushes]
          · refine ⟨rfl, ?_⟩
            unfold Recorded Store.pushOf?
            rw [hpushes]
  | disconnect principal id =>
      simp only [handle]
      unfold disconnectStore
      cases ownConnection w principal id with
      | error e => exact ⟨rfl, rfl⟩
      | ok row => exact ⟨rfl, rfl⟩
  | restart key scan => exact ⟨rfl, rfl⟩
  | sync principal body x =>
      simp only [handle]
      unfold syncNow
      cases reach platform w principal body.connectionId with
      | error e => exact ⟨rfl, rfl⟩
      | ok reached =>
          obtain ⟨row, connector, registry⟩ := reached
          refine ⟨rfl, ?_⟩
          unfold Recorded Store.pushOf?
          dsimp only
          rw [runSync_pushes]
  | push principal body x =>
      simp only [handle]
      cases hreach : reach platform w principal body.connectionId with
      | error e =>
          unfold pushOrder
          rw [hreach]
          exact ⟨rfl, rfl⟩
      | ok reached =>
          obtain ⟨row, connector, registry⟩ := reached
          obtain ⟨hcontacts, hrecorded⟩ := pushOrder_reached (x := x) hreach
          have hother : (connectionId == body.connectionId && orderId == body.orderId) = false := by
            rw [Bool.eq_false_iff]
            intro hpair
            rw [Bool.and_eq_true, beq_iff_eq, beq_iff_eq] at hpair
            obtain ⟨rfl, rfl⟩ := hpair
            simp [Event.reaches, hreach, Except.toBool] at h
          refine ⟨?_, ?_⟩
          · rw [hcontacts, List.filter_eq_nil_iff]
            intro c hc hpush
            obtain rfl := List.mem_singleton.1 hc
            simp only [Contact.isPush, (reach_eq_ok hreach).1.2, Bool.and_eq_true, beq_iff_eq]
              at hpush
            rw [hpush.1, hpush.2] at hother
            simp at hother
          · rw [hrecorded, hother, Bool.or_false]

/-- A request to push the order that reaches a connector. -/
theorem reaches_cases {e : Event} (h : e.reaches platform w connectionId orderId = true) :
    ∃ principal body x row connector registry, e = .push principal body x ∧
      connectionId = body.connectionId ∧ orderId = body.orderId ∧
      reach platform w principal body.connectionId = .ok (row, connector, registry) := by
  cases e with
  | push principal body x =>
      simp only [Event.reaches, Bool.and_eq_true, beq_iff_eq] at h
      obtain ⟨⟨rfl, rfl⟩, hok⟩ := h
      cases hreach : reach platform w principal body.connectionId with
      | error e =>
          rw [hreach] at hok
          exact nomatch hok
      | ok reached =>
          obtain ⟨row, connector, registry⟩ := reached
          exact ⟨principal, body, x, row, connector, registry, rfl, rfl, rfl, hreach⟩
  | connect | disconnect | restart | sync => exact nomatch h

/-- The connector is called for the order once by each request that reaches it. -/
theorem length_pushes (e : Event) :
    ((handle platform w e).contacts.filter (·.isPush connectionId orderId)).length =
      if e.reaches platform w connectionId orderId then 1 else 0 := by
  cases h : e.reaches platform w connectionId orderId with
  | false =>
      rw [(handle_other h).1]
      rfl
  | true =>
      obtain ⟨principal, body, x, row, connector, registry, rfl, rfl, rfl, hreach⟩ :=
        reaches_cases h
      have hcontacts := (pushOrder_reached (x := x) hreach).1
      simp only [handle]
      rw [hcontacts]
      simp [Contact.isPush, (reach_eq_ok hreach).1.2]

/-- A success that an event records is reported exactly if the store the event reaches is the
connected one and took the order. -/
theorem success_reported_iff (e : Event) (hnone : Recorded w connectionId orderId = false) :
    (Recorded (step platform w e) connectionId orderId = true →
        ∃ x ∈ (handle platform w e).contacts, x.isPush connectionId orderId = true ∧
          x.Reports platform w.key orderId) ↔
      (e.reaches platform w connectionId orderId = true → e.Taken platform w) := by
  cases h : e.reaches platform w connectionId orderId with
  | false =>
      rw [(handle_other h).2, hnone]
      exact ⟨fun _ => nofun, fun _ => nofun⟩
  | true =>
      obtain ⟨principal, body, x, row, connector, registry, rfl, rfl, rfl, hreach⟩ :=
        reaches_cases h
      obtain ⟨hcontacts, hrecorded⟩ := pushOrder_reached (x := x) hreach
      have hnow : Recorded (step platform w (.push principal body x)) body.connectionId
          body.orderId = true := by
        simp only [step, handle]
        rw [hrecorded]
        simp
      have htaken : Event.Taken platform w (.push principal body x) ↔
          connector.Serves platform.crypto w.key row ∧ connector.StoreTook body.checkout x.reply := by
        refine ⟨fun ht => ht row connector registry hreach, fun ht row' connector' registry' h' => ?_⟩
        rw [hreach] at h'
        obtain ⟨rfl, hpair⟩ := Prod.mk.inj (Except.ok.inj h')
        obtain ⟨rfl, -⟩ := Prod.mk.inj hpair
        exact ht
      rw [htaken, ← Connector.pushStatus_reported]
      simp only [handle]
      rw [hcontacts]
      constructor
      · intro hreport _
        obtain ⟨c, hc, -, result, hpurpose, hstatus, hserves⟩ := hreport hnow
        obtain rfl := List.mem_singleton.1 hc
        obtain ⟨-, hresult⟩ := Purpose.push.inj hpurpose
        obtain rfl := Except.ok.inj hresult
        exact ⟨hserves, hstatus⟩
      · intro ht _
        obtain ⟨hserves, hstatus⟩ := ht trivial
        refine ⟨_, List.mem_singleton_self _, ?_, _, rfl, hstatus, hserves⟩
        simp [Contact.isPush, (reach_eq_ok hreach).1.2]

/-- **The record stops no call**: every request that reaches the connector calls it, also after
a success. -/
theorem callsAfterSuccess_eq (w : World) (events : List Event) :
    callsAfterSuccess platform connectionId orderId w events =
      requestsAfterSuccess platform connectionId orderId w events :=
  tally_congr (fun w e => by rw [length_pushes]) w events

end

/-- **When an order is pushed once.**  In every run from any state, for every connection and
order: after a success the connector is called at most once exactly if at most one later
request for the pair reaches a connector; and a success is recorded only on a report of the
connected store exactly if, until there is one, every request for the pair that reaches a
connector reaches the connection's own store and that store takes the order. -/
theorem pushed_once_iff (platform : Platform) (connectionId orderId : String) (w : World)
    (events : List Event) :
    (PushedOnce platform connectionId orderId w events ∧
        SuccessReported platform connectionId orderId w events) ↔
      requestsAfterSuccess platform connectionId orderId w events ≤ 1 ∧
        Always (step platform) (fun w e => Recorded w connectionId orderId = false →
          e.reaches platform w connectionId orderId = true → e.Taken platform w) w events := by
  unfold PushedOnce SuccessReported
  rw [callsAfterSuccess_eq]
  refine and_congr_right fun _ => ?_
  have hreports : ∀ w e, True → ((Recorded w connectionId orderId = false →
      Recorded (step platform w e) connectionId orderId = true →
        ∃ x ∈ (handle platform w e).contacts, x.isPush connectionId orderId = true ∧
          x.Reports platform w.key orderId) ↔
      (Recorded w connectionId orderId = false →
        e.reaches platform w connectionId orderId = true → e.Taken platform w)) :=
    fun w e _ => forall_congr' fun hnone => success_reported_iff e hnone
  exact always_congr (fun _ _ _ => trivial) hreports trivial events

/-! An order that is pushed three times. -/

/-- The order is pushed to the store. -/
def pushShop (id orderId : String) (h : (1 ≤ id.length ∧ id.length ≤ 64) ∧
    1 ≤ orderId.length ∧ orderId.length ≤ 64) (reply : HttpReply) : Event :=
  .push admin { connectionId := id, orderId, connectionId_ok := h.1, orderId_ok := h.2 }
    { encounter id with reply }

theorem c1_fits : (1 ≤ "https://one.example".length ∧ "https://one.example".length ≤ 512) ∧
    1 ≤ "c1".length ∧ "c1".length ≤ 512 := by decide

/-- The store takes the order each time it is asked. -/
def threePushes : List Event :=
  [connectShop "c1" "https://one.example" c1_fits,
    pushShop "c1" "o1" (by decide) (.response 201 (some (.obj []))),
    pushShop "c1" "o1" (by decide) (.response 201 (some (.obj []))),
    pushShop "c1" "o1" (by decide) (.response 201 (some (.obj [])))]

/-- The store refuses the order. -/
def refusedPush : List Event :=
  [connectShop "c1" "https://one.example" c1_fits,
    pushShop "c1" "o1" (by decide) (.response 500 none)]

/-- What came of the pushes among the contacts: none but `queued`. -/
def onlyQueued (contacts : List Contact) : Bool :=
  contacts.all fun x => match x.purpose with
    | .push _ (.ok result) => result.status == .queued
    | _ => true

theorem order_pushed_again :
    ¬PushedOnce demoPlatform "c1" "o1" (start demoPlatform emptyStore [1] sameOrder) threePushes ∧
      ¬SuccessReported demoPlatform "c1" "o1" (start demoPlatform emptyStore [1] sameOrder)
        refusedPush := by
  refine ⟨by unfold PushedOnce callsAfterSuccess; decide, fun hreported => ?_⟩
  obtain ⟨-, hlast, -⟩ := hreported
  obtain ⟨x, hx, -, result, hpurpose, hstatus, -⟩ := hlast (by decide) (by decide)
  have hqueued := List.all_eq_true.1 (show onlyQueued _ = true by decide) x hx
  rw [hpurpose] at hqueued
  rw [PushStatus.Reported, beq_iff_eq.1 hqueued] at hstatus
  exact absurd hstatus (by decide)

end Channels
end AgenticCommerce
