import Mathlib.Order.OrderDual
import StoryEngine.Data.Pages
import StoryEngine.Schema.Database

namespace StoryEngine.Access

open Data Schema

/-! # Pages of the audit log

The route lists the newest entries that match its filters, and pages by the time of the last
entry shown.
-/

structure AuditLog where
  id : RowId
  organizationId : RowId
  actorUserId : Option Text := none
  category : Text
  action : Text
  schemaVersion : Nat := 1
  targetType : Option Text := none
  targetId : Option Text := none
  severity : Text := "INFO"
  metadata : Json := .null
  ipAddress : Option Text := none
  userAgent : Option Text := none
  expiresAt : Option Date := none
  createdAt : Date
deriving DecidableEq

/-- The trimmed query parameters; an empty one filters nothing. -/
structure AuditFilters where
  category : Text := []
  actorUserId : Text := []
  action : Text := []
  severity : Text := []
  targetType : Text := []
  targetId : Text := []

def passesFilter (filter : Text) (column : Option Text) : Bool :=
  filter.isEmpty || column == some filter

/-- The `where` of `queryAuditLogs` without its cursor. -/
def AuditFilters.selects (filters : AuditFilters) (organizationId : RowId) (log : AuditLog) : Bool :=
  log.organizationId == organizationId && passesFilter filters.category (some log.category) &&
    passesFilter filters.actorUserId log.actorUserId &&
    passesFilter filters.action (some log.action) &&
    passesFilter filters.severity (some log.severity) &&
    passesFilter filters.targetType log.targetType && passesFilter filters.targetId log.targetId

/-- The order of the entries, `createdAt` descending. -/
def newestFirst (log : AuditLog) : OrderDual Date := OrderDual.toDual log.createdAt

def matchingLogs (auditLogs : List AuditLog) (organizationId : RowId) (filters : AuditFilters) :
    List AuditLog :=
  auditLogs.filter (filters.selects organizationId)

/-- `createdAt: { lt: cursor }`, when there is a cursor. -/
def beforeCursor (cursor : Option Date) (log : AuditLog) : Bool :=
  match cursor with
  | some cursorCreatedAt => decide (log.createdAt < cursorCreatedAt)
  | none => true

/-- What `queryAuditLogs` may answer: entries of one time stand in any order. -/
def QueryAuditLogs (auditLogs : List AuditLog) (organizationId : RowId) (filters : AuditFilters)
    (cursorCreatedAt : Option Date) (take : Nat) (logs : List AuditLog) : Prop :=
  TopBy newestFirst take
    ((matchingLogs auditLogs organizationId filters).filter (beforeCursor cursorCreatedAt)) logs

def listDefault : Nat := 100

def listMax : Nat := 200

/-- `parsePaginationParams`, of the number that the parameter parses to. -/
def parseLimit (rawLimit : Option Int) : Nat :=
  match rawLimit with
  | some limit => if 0 < limit then min limit.toNat listMax else listDefault
  | none => listDefault

structure AuditPage where
  logs : List AuditLog
  hasMore : Bool
  nextCursor : Option Date

def auditPage (limit : Nat) (logs : List AuditLog) : AuditPage :=
  let hasMore := decide (limit < logs.length)
  let page := if hasMore then logs.take limit else logs
  { logs := page
    hasMore
    nextCursor := if hasMore then page.getLast?.map (·.createdAt) else none }

/-- A client follows `next_cursor` until it is absent. -/
inductive FollowsCursor (auditLogs : List AuditLog) (organizationId : RowId) (filters : AuditFilters)
    (limit : Nat) : Option Date → List AuditPage → Prop where
  | last {cursor : Option Date} {logs : List AuditLog}
      (answered : QueryAuditLogs auditLogs organizationId filters cursor (limit + 1) logs)
      (absent : (auditPage limit logs).nextCursor = none) :
      FollowsCursor auditLogs organizationId filters limit cursor [auditPage limit logs]
  | next {cursor : Option Date} {logs : List AuditLog} {nextCursor : Date} {pages : List AuditPage}
      (answered : QueryAuditLogs auditLogs organizationId filters cursor (limit + 1) logs)
      (present : (auditPage limit logs).nextCursor = some nextCursor)
      (later : FollowsCursor auditLogs organizationId filters limit (some nextCursor) pages) :
      FollowsCursor auditLogs organizationId filters limit cursor (auditPage limit logs :: pages)

theorem parseLimit_pos (rawLimit : Option Int) : 0 < parseLimit rawLimit := by
  cases rawLimit with
  | none => decide
  | some limit =>
    simp only [parseLimit, listMax, listDefault]
    split
    · omega
    · decide

theorem auditPage_last {limit : Nat} (positive : 0 < limit) {logs : List AuditLog} :
    (auditPage limit logs).nextCursor = none ↔ logs.length ≤ limit := by
  rw [auditPage]
  by_cases more : limit < logs.length
  · have occupied : logs.take limit ≠ [] := by
      apply List.ne_nil_of_length_pos
      rw [List.length_take]
      omega
    simp [more, occupied]
  · simp [more]
    omega

theorem filter_beforeCursor (auditLogs : List AuditLog) (organizationId : RowId)
    (filters : AuditFilters) (cursor : Option Date) :
    (matchingLogs auditLogs organizationId filters).filter (beforeCursor cursor) =
      beyond newestFirst (matchingLogs auditLogs organizationId filters)
        (cursor.map OrderDual.toDual) := by
  cases cursor with
  | none => exact List.filter_true _
  | some cursorCreatedAt => rfl

theorem FollowsCursor.keyset {auditLogs : List AuditLog} {organizationId : RowId}
    {filters : AuditFilters} {limit : Nat} (positive : 0 < limit) {cursor : Option Date}
    {pages : List AuditPage}
    (follows : FollowsCursor auditLogs organizationId filters limit cursor pages) :
    KeysetPages newestFirst limit (matchingLogs auditLogs organizationId filters)
      (cursor.map OrderDual.toDual) (pages.map (·.logs)) := by
  induction follows with
  | @last cursor logs answered absent =>
    have few := (auditPage_last positive).mp absent
    have whole : (auditPage limit logs).logs = logs := if_neg (by simpa using few)
    rw [QueryAuditLogs, filter_beforeCursor] at answered
    rw [List.map_singleton, whole]
    exact .last answered few
  | @next cursor logs nextCursor pages answered present later ih =>
    have more : limit < logs.length := by
      refine Nat.lt_of_not_le fun few => ?_
      rw [(auditPage_last positive).mpr few] at present
      cases present
    have shown : (auditPage limit logs).logs = logs.take limit := if_pos (by simpa using more)
    have ends : (logs.take limit).getLast?.map (·.createdAt) = some nextCursor := by
      simpa [auditPage, more] using present
    obtain ⟨final, last, rfl⟩ := Option.map_eq_some_iff.mp ends
    rw [QueryAuditLogs, filter_beforeCursor] at answered
    rw [List.map_cons, shown]
    exact .next answered more last ih

/-- A client that follows the cursor sees every matching entry exactly once if, and only if, no
page ends between two entries of one time. -/
theorem audit_pages_perm_iff {auditLogs : List AuditLog} {organizationId : RowId}
    {filters : AuditFilters} {rawLimit : Option Int} {pages : List AuditPage}
    (follows : FollowsCursor auditLogs organizationId filters (parseLimit rawLimit) none pages) :
    (pages.flatMap (·.logs)).Perm (matchingLogs auditLogs organizationId filters) ↔
      CleanCuts (parseLimit rawLimit)
        (sortedKeys newestFirst (matchingLogs auditLogs organizationId filters)) := by
  rw [List.flatMap_def]
  exact (follows.keyset (parseLimit_pos rawLimit)).perm_iff (parseLimit_pos rawLimit)

def loginAt (id : RowId) (createdAt : Date) : AuditLog where
  id := id
  organizationId := 1
  category := "AUTH"
  action := "LOGIN"
  createdAt := createdAt

def bulkLogs : List AuditLog := [loginAt 1 30, loginAt 2 20, loginAt 3 20]

theorem bulkLogs_first (take : Nat) : QueryAuditLogs bulkLogs 1 {} none take (bulkLogs.take take) :=
  ⟨bulkLogs, .of_eq (by decide), by decide, rfl⟩

/-- With three entries to a page there is one page. -/
theorem bulkLogs_one_page :
    ([auditPage (parseLimit (some 3)) bulkLogs].flatMap (·.logs)).Perm (matchingLogs bulkLogs 1 {}) ↔
      CleanCuts (parseLimit (some 3)) (sortedKeys newestFirst (matchingLogs bulkLogs 1 {})) :=
  audit_pages_perm_iff (.last (bulkLogs_first 4) (by decide))

/-- With two entries to a page the third is lost: it is not older than the second. -/
theorem bulk_entry_lost :
    ∃ pages, FollowsCursor bulkLogs 1 {} (parseLimit (some 2)) none pages ∧
      ¬(pages.flatMap (·.logs)).Perm (matchingLogs bulkLogs 1 {}) := by
  have second : QueryAuditLogs bulkLogs 1 {} (some 20) 3 [] :=
    ⟨[], .of_eq (by decide), .nil, rfl⟩
  have rest : FollowsCursor bulkLogs 1 {} (parseLimit (some 2)) (some 20) [auditPage 2 []] :=
    .last second (by decide)
  have pages : FollowsCursor bulkLogs 1 {} (parseLimit (some 2)) none
      [auditPage 2 bulkLogs, auditPage 2 []] := .next (bulkLogs_first 3) (by decide) rest
  exact ⟨_, pages, by decide⟩

end StoryEngine.Access
