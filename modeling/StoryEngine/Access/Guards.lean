import StoryEngine.Access.Roles
import StoryEngine.Pages.Editor

namespace StoryEngine.Access

open Data Schema

/-! # Route guards -/

structure HttpFailure where
  status : Nat
  error : Text
  message : Option Text := none
  requestId : Option RowId := none
  requiredPermission : Option PermissionType := none
  denyReason : Option PolicyReason := none
  cause : Option Pages.EditorError := none
deriving DecidableEq

def forbidden (message : String) : HttpFailure where
  status := 403
  error := ("forbidden" : String)
  message := some message.toList

def badRequest (message : Text) : HttpFailure where
  status := 400
  error := ("bad_request" : String)
  message := some message

def validationError : HttpFailure where
  status := 400
  error := ("validation_error" : String)

def notFound (message : String) : HttpFailure where
  status := 404
  error := ("not_found" : String)
  message := some message.toList

def conflict (message : String) : HttpFailure where
  status := 409
  error := ("conflict" : String)
  message := some message.toList

def featureDisabled : HttpFailure where
  status := 403
  error := ("feature_disabled" : String)
  message := some ("Landing pages have been disabled by your organization admin." : String)

def requireLandingPagesEnabled (db : Database) (caller : Caller) : Except HttpFailure Unit :=
  ensure ((db.orgSettings.find? (·.organizationId == caller.organizationId)).all
    (·.landingPagesEnabled)) featureDisabled

/-- The actions that the page and settings routes ask permission for. -/
inductive PermissionAction where
  | create
  | publish
  | managePermissions
deriving DecidableEq

def PermissionAction.policyAction : PermissionAction → PolicyAction
  | .create => .createLandingPage
  | .publish => .publishLandingPage
  | .managePermissions => .managePermissions

def PermissionAction.label : PermissionAction → String
  | .create => "create"
  | .publish => "publish"
  | .managePermissions => "manage permissions"

def allowedPublisher (db : Database) (action : PermissionAction) (caller : Caller) : Bool :=
  action = .publish &&
    caller.userRole.any fun role =>
      (db.orgSettings.find? (·.organizationId == caller.organizationId)).any
        (·.allowedPublishers.contains role)

def permissionDenied (action : PermissionAction) (decision : PolicyDecision) : HttpFailure where
  status := 403
  error := ("permission_denied" : String)
  message := some (("You don't have permission to " : String).toList ++ action.label.toList ++
    (" landing pages. Contact your admin." : String).toList)
  requiredPermission := decision.requiredPermission
  denyReason := some decision.reason

def requirePermission (db : Database) (action : PermissionAction) (caller : Caller) :
    Except HttpFailure Unit :=
  let decision := evaluate db action.policyAction caller
  ensure (decision.allowed || allowedPublisher db action caller) (permissionDenied action decision)

def pageNotFound : HttpFailure where
  status := 404
  error := ("Landing page not found" : String)

def notPageOwner : HttpFailure where
  status := 403
  error := ("permission_denied" : String)
  message := some
    ("You can only edit landing pages you created, or need EDIT_ANY permission." : String)

def requirePageOwnerOrPermission (db : Database) (caller : Caller) (pageId : RowId) :
    Except HttpFailure Unit :=
  if isAdminRole caller.userRole then .ok ⟨⟩
  else
    match Pages.findPageForOrg db pageId caller.organizationId with
    | none => .error pageNotFound
    | some page =>
      ensure (page.createdById == caller.userId ||
        (caller.policy db).permissions.contains .editAnyLandingPage ||
        hasUserPermission db caller.userId .editAnyLandingPage) notPageOwner

end StoryEngine.Access
