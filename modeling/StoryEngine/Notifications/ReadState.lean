import Mathlib.Data.List.Sort
import StoryEngine.Data.Rows
import StoryEngine.Data.Run
import StoryEngine.Schema.Rows

namespace StoryEngine.Notifications

open Data Schema

/-! # Notification service

The rows of a user are those addressed to it and the broadcasts of its organization.  Whether a
notification is read is a column of the row, which the users of a broadcast share.
-/

def addressedTo (userId : RowId) (notification : Notification) : Bool :=
  notification.userId == some userId || notification.userId == none

/-- `{ organizationId, OR: [{ userId }, { userId: null }] }`. -/
def belongsTo (organizationId userId : RowId) (notification : Notification) : Bool :=
  notification.organizationId == organizationId && addressedTo userId notification

structure ListOptions where
  limit : Option Nat := none
  offset : Option Nat := none
  unreadOnly : Option Bool := none

structure ListedNotification where
  id : RowId
  type : NotificationType
  title : Text
  body : Text
  metadata : Option Json
  read : Bool
  createdAt : Date

def ListedNotification.of (notification : Notification) : ListedNotification where
  id := notification.id
  type := notification.type
  title := notification.title
  body := notification.body
  metadata := notification.metadata
  read := notification.read
  createdAt := notification.createdAt

structure NotificationListResult where
  notifications : List ListedNotification
  unreadCount : Nat
  total : Nat

def getUnreadCount (table : List Notification) (organizationId userId : RowId) : Nat :=
  table.countP fun notification =>
    belongsTo organizationId userId notification && !notification.read

def listForUser (table : List Notification) (organizationId userId : RowId)
    (options : ListOptions) : NotificationListResult :=
  let limit := options.limit.getD 50
  let offset := options.offset.getD 0
  let rows := table.filter fun notification =>
    belongsTo organizationId userId notification &&
      !(options.unreadOnly.getD false && notification.read)
  let newest := rows.insertionSort fun first second => second.createdAt ≤ first.createdAt
  { notifications := ((newest.drop offset).take limit).map .of
    unreadCount := getUnreadCount table organizationId userId
    total := rows.length }

def markRead (notification : Notification) : Notification :=
  { notification with read := true }

def markAsRead (table : List Notification) (notificationId userId : RowId) : List Notification :=
  updateWhere table (fun notification =>
    notification.id == notificationId && addressedTo userId notification) markRead

def markAllAsRead (table : List Notification) (organizationId userId : RowId) :
    List Notification × Nat :=
  let selects := fun notification : Notification =>
    belongsTo organizationId userId notification && !notification.read
  (updateWhere table selects markRead, table.countP selects)

/-! # Read flags of other users

A call leaves the notifications of the other users alone exactly when it marks no unread
broadcast that one of them shares.
-/

inductive ReadCall where
  | markAsRead (notificationId userId : RowId)
  | markAllAsRead (organizationId userId : RowId)

namespace ReadCall

def userId : ReadCall → RowId
  | markAsRead _ userId => userId
  | markAllAsRead _ userId => userId

def selects : ReadCall → Notification → Bool
  | markAsRead notificationId userId, notification =>
    notification.id == notificationId && addressedTo userId notification
  | markAllAsRead organizationId userId, notification =>
    belongsTo organizationId userId notification && !notification.read

end ReadCall

def readStep (table : List Notification) : ReadCall → List Notification
  | .markAsRead notificationId userId => markAsRead table notificationId userId
  | .markAllAsRead organizationId userId => (markAllAsRead table organizationId userId).1

/-- What the other users list and count is what it was before the call. -/
def LeavesOthers (users : List User) (table : List Notification) (call : ReadCall) : Prop :=
  ∀ user ∈ users, user.id ≠ call.userId →
    getUnreadCount (readStep table call) user.organizationId user.id =
        getUnreadCount table user.organizationId user.id ∧
      ∀ options, listForUser (readStep table call) user.organizationId user.id options =
        listForUser table user.organizationId user.id options

/-- Whoever shares an unread broadcast that the call marks is its caller. -/
def MarksUnshared (users : List User) (table : List Notification) (call : ReadCall) : Prop :=
  ∀ notification ∈ table, call.selects notification = true →
    notification.userId = none → notification.read = false →
      ∀ user ∈ users, user.organizationId = notification.organizationId → user.id = call.userId

instance (users : List User) (table : List Notification) (call : ReadCall) :
    Decidable (MarksUnshared users table call) :=
  inferInstanceAs (Decidable (∀ notification ∈ table, _ → _ → _ → ∀ user ∈ users, _ → _))

variable {table : List Notification} {organizationId userId : RowId} {call : ReadCall}

@[simp] theorem belongsTo_markRead {notification : Notification} :
    belongsTo organizationId userId (markRead notification) =
      belongsTo organizationId userId notification := rfl

@[simp] theorem markRead_read {notification : Notification} :
    (markRead notification).read = true := rfl

theorem ReadCall.selects_addressed {notification : Notification}
    (selected : call.selects notification = true) :
    addressedTo call.userId notification = true := by
  cases call with
  | markAsRead notificationId userId =>
    simp only [ReadCall.selects, Bool.and_eq_true] at selected
    exact selected.2
  | markAllAsRead organizationId userId =>
    simp only [ReadCall.selects, belongsTo, Bool.and_eq_true] at selected
    exact selected.1.2

theorem readStep_eq :
    readStep table call =
      updateWhere table (fun row => call.selects row && !row.read) markRead := by
  cases call with
  | markAsRead notificationId userId =>
    simp only [readStep, markAsRead, updateWhere]
    apply List.map_congr_left
    intro row _
    by_cases isRead : row.read = true
    · have same : markRead row = row := by
        cases row
        simp only at isRead
        simp [markRead, isRead]
      simp [same]
    · simp [ReadCall.selects, isRead]
  | markAllAsRead organizationId userId =>
    simp [readStep, markAllAsRead, ReadCall.selects]

theorem changed_elsewhere {users : List User} (unshared : MarksUnshared users table call)
    {user : User} (member : user ∈ users) (other : user.id ≠ call.userId) :
    ∀ row ∈ table, (call.selects row && !row.read) = true →
      belongsTo user.organizationId user.id row = false := by
  intro row stored changed
  obtain ⟨selected, unread⟩ : call.selects row = true ∧ row.read = false := by
    simpa using changed
  have addressed := ReadCall.selects_addressed selected
  cases audience : row.userId with
  | none =>
    have elsewhere : row.organizationId ≠ user.organizationId := by
      intro same
      exact other (unshared row stored selected audience unread user member same.symm)
    simp [belongsTo, elsewhere]
  | some owner =>
    have own : owner = call.userId := by simpa [addressedTo, audience] using addressed
    have apart : owner ≠ user.id := by
      rw [own]
      exact other.symm
    simp [belongsTo, addressedTo, audience, apart]

theorem leavesOthers_of_unshared {users : List User}
    (unshared : MarksUnshared users table call) : LeavesOthers users table call := by
  intro user member other
  have elsewhere := changed_elsewhere unshared member other
  have kept (extra : Notification → Bool) :
      (readStep table call).filter
          (fun row => belongsTo user.organizationId user.id row && extra row) =
        table.filter fun row => belongsTo user.organizationId user.id row && extra row := by
    rw [readStep_eq]
    apply filter_updateWhere
    intro row stored changed
    simp [elsewhere row stored changed]
  have count : getUnreadCount (readStep table call) user.organizationId user.id =
      getUnreadCount table user.organizationId user.id := by
    simp only [getUnreadCount, List.countP_eq_length_filter, kept]
  constructor
  · exact count
  · intro options
    simp only [listForUser, count, kept]

theorem unread_readStep :
    getUnreadCount (readStep table call) organizationId userId =
      (table.filter fun row =>
        !call.selects row && (belongsTo organizationId userId row && !row.read)).length := by
  rw [readStep_eq, getUnreadCount, updateWhere, List.countP_map, List.countP_eq_length_filter]
  congr 1
  apply List.filter_congr
  intro row _
  simp only [Function.comp_apply]
  cases call.selects row with
  | false => simp
  | true => cases isRead : row.read <;> simp [isRead]

theorem unshared_of_leavesOthers {users : List User} (leaves : LeavesOthers users table call) :
    MarksUnshared users table call := by
  intro broadcast stored selected audience unread user member same
  by_contra other
  have count := (leaves user member other).1
  rw [unread_readStep, getUnreadCount, List.countP_eq_length_filter] at count
  let counted := fun row => belongsTo user.organizationId user.id row && !row.read
  have smaller : (table.filter fun row => !call.selects row && counted row).Sublist
      (table.filter counted) := by
    rw [← List.filter_filter]
    exact List.filter_sublist
  have wasCounted : broadcast ∈ table.filter counted := by
    simp [counted, stored, belongsTo, addressedTo, audience, unread, same]
  rw [← smaller.eq_of_length count] at wasCounted
  simp [selected] at wasCounted

theorem read_state_per_user_iff (users : List User) (table : List Notification)
    (calls : List ReadCall) :
    Guarded readStep (LeavesOthers users) table calls ↔
      Guarded readStep (MarksUnshared users) table calls := by
  apply guarded_iff_guarded fun _ => True
  · exact fun _ _ _ _ => trivial
  · intro state action _
    exact ⟨unshared_of_leavesOthers, leavesOthers_of_unshared⟩
  · trivial

/-- A colleague marks all as read, and a stranger marks a notification by its id. -/
theorem broadcast_read_for_all :
    ∃ (users : List User) (broadcast : Notification) (colleague stranger user : User),
      users = [colleague, stranger, user] ∧ broadcast.userId = none ∧
      colleague.organizationId = user.organizationId ∧
      stranger.organizationId ≠ user.organizationId ∧
      getUnreadCount [broadcast] user.organizationId user.id = 1 ∧
      getUnreadCount
        (readStep [broadcast] (.markAllAsRead colleague.organizationId colleague.id))
        user.organizationId user.id = 0 ∧
      getUnreadCount (readStep [broadcast] (.markAsRead broadcast.id stranger.id))
        user.organizationId user.id = 0 ∧
      ¬Guarded readStep (LeavesOthers users) [broadcast]
        [.markAllAsRead colleague.organizationId colleague.id] ∧
      ¬Guarded readStep (LeavesOthers users) [broadcast]
        [.markAsRead broadcast.id stranger.id] := by
  let colleague : User := { id := 1, organizationId := 1, role := .member }
  let stranger : User := { id := 2, organizationId := 2, role := .member }
  let user : User := { id := 3, organizationId := 1, role := .member }
  let broadcast : Notification := {
    id := 4, organizationId := 1, type := .callProcessed, title := "Call processed",
    body := "A new call recording has been processed, tagged, and indexed." }
  have counted (call : ReadCall) (other : user.id ≠ call.userId)
      (lost : getUnreadCount (readStep [broadcast] call) user.organizationId user.id ≠
        getUnreadCount [broadcast] user.organizationId user.id) :
      ¬Guarded readStep (LeavesOthers [colleague, stranger, user]) [broadcast] [call] := by
    intro guarded
    have leaves := (guarded_cons.mp guarded).1
    exact lost (leaves user (by simp) other).1
  exact ⟨[colleague, stranger, user], broadcast, colleague, stranger, user, rfl, rfl, rfl,
    by decide, by decide, by decide, by decide,
    counted _ (by decide) (by decide), counted _ (by decide) (by decide)⟩

end StoryEngine.Notifications
