import StoryEngine.Approval.Workflow
import StoryEngine.Pages.Anonymity
import StoryEngine.Routes.Effects

namespace StoryEngine.Approval

open Data Schema Access Pages Routes

/-! # Publication under an approval policy

The routes, the reviewers and the worker act on one database.  A page may go
public while its organization asks for approval only through a review.
-/

inductive SystemAction where
  | request (http : HttpRequest)
  | review (input : ReviewInput)
  | runScheduledPublish (job : ScheduledPagePublishJobData) (now : Date)
  | updateSettings (caller : Caller) (updates : OrgSettingsUpdates)
  | completePermissionsSetup (organizationId : RowId) (allowedPublishers : List UserRole)
      (requireApprovalToPublish : Bool)

def executeJob (platform : Platform) (db : Database) (job : ScheduledPagePublishJobData)
    (now : Date) : Database :=
  if job ∈ db.scheduledPublishJobs ∧ job.publishAt ≤ now then
    match runScheduledPublish platform db job now with
    | .ok (_, next) =>
      { next with scheduledPublishJobs := deleteWhere next.scheduledPublishJobs (· == job) }
    | .error _ => db
  else db

def systemStep (platform : Platform) (db : Database) : SystemAction → Database
  | .request http => serve platform db http
  | .review input =>
    match review platform db input with
    | .ok (_, next) => next
    | .error _ => db
  | .runScheduledPublish job now => executeJob platform db job now
  | .updateSettings caller updates =>
    match updateSettingsRoute db caller updates with
    | .ok next => next
    | .error _ => db
  | .completePermissionsSetup organizationId allowedPublishers requireApprovalToPublish =>
    completePermissionsSetup db organizationId allowedPublishers requireApprovalToPublish

section

variable {platform : Platform} {db next : Database} {input : ReviewInput}

structure Reviewable (db : Database) (input : ReviewInput) (request : ApprovalRequest) : Prop where
  allowed : canReviewPublishApprovals db input.caller = true
  known : request ∈ db.approvalRequests
  named : request.id = input.requestId
  own : request.organizationId = input.caller.organizationId
  pending : request.status = .pending

/-- A publish is planned only for an approved landing-page request. -/
structure Approves (input : ReviewInput) (request : ApprovalRequest) : Prop where
  decision : input.decision = .approve
  requestType : request.requestType = .landingPagePublish

variable {request : ApprovalRequest} {plan : ReviewPlan}

theorem findPublishApprovalRequest_some {requestId organizationId : RowId}
    {requestTypes : List ApprovalRequestType}
    (found : findPublishApprovalRequest db requestId organizationId requestTypes = some request) :
    request ∈ db.approvalRequests ∧ request.id = requestId ∧
      request.organizationId = organizationId ∧ request.requestType ∈ requestTypes := by
  have criteria := List.find?_some found
  simp only [Bool.and_eq_true, beq_iff_eq, List.contains_iff_mem] at criteria
  exact ⟨List.mem_of_find?_eq_some found, criteria.1.1, criteria.1.2, criteria.2⟩

theorem planApproval_request (input : ReviewInput) (request : ApprovalRequest) :
    (planApproval input request).request = request := by
  simp only [planApproval]
  split <;> rfl

theorem planReview_ok (planned : planReview db input = .ok plan) :
    Reviewable db input plan.request ∧
      ∀ request payload, plan = .publish request payload → Approves input request := by
  simp only [planReview, bind_eq_ok, required_eq_ok, ensure_eq_ok, exists_const, beq_iff_eq]
    at planned
  obtain ⟨_, allowed, request, found, pending, _, decided⟩ := planned
  obtain ⟨known, named, own, requestType⟩ := findPublishApprovalRequest_some found
  have reviewable : Reviewable db input request := ⟨allowed, known, named, own, pending⟩
  cases decision : input.decision with
  | reject =>
    simp only [decision, pure_eq_ok] at decided
    subst decided
    exact ⟨reviewable, fun _ _ planned => by cases planned⟩
  | approve =>
    simp only [decision, bind_eq_ok, ensure_eq_ok, pure_eq_ok, exists_const] at decided
    obtain ⟨_, rfl⟩ := decided
    refine ⟨by rwa [planApproval_request], fun read payload planned => ?_⟩
    have same := planApproval_request input request
    rw [planned] at same
    obtain rfl : read = request := same
    exact ⟨decision, by simpa using requestType⟩

theorem planQueueReview_ok (planned : planQueueReview db input = .ok plan) :
    Reviewable db input plan.request ∧
      ∀ request payload, plan = .publish request payload → Approves input request := by
  simp only [planQueueReview, bind_eq_ok, required_eq_ok, ensure_eq_ok, exists_const, beq_iff_eq]
    at planned
  obtain ⟨_, allowed, request, found, pending, decided⟩ := planned
  obtain ⟨known, named, own, _⟩ := findPublishApprovalRequest_some found
  have reviewable : Reviewable db input request := ⟨allowed, known, named, own, pending⟩
  cases decision : input.decision with
  | reject =>
    simp only [decision, pure_eq_ok] at decided
    subst decided
    exact ⟨reviewable, fun _ _ planned => by cases planned⟩
  | approve =>
    simp only [decision] at decided
    split at decided
    · rename_i landingPage
      obtain rfl := Except.ok.inj decided
      refine ⟨reviewable, fun read payload planned => ?_⟩
      cases planned
      simp only [Bool.and_eq_true, beq_iff_eq] at landingPage
      exact ⟨decision, landingPage.1⟩
    · obtain rfl := Except.ok.inj decided
      exact ⟨reviewable, fun _ _ planned => by cases planned⟩

theorem plan_ok (planned : input.plan db = .ok plan) :
    Reviewable db input plan.request ∧
      ∀ request payload, plan = .publish request payload → Approves input request := by
  unfold ReviewInput.plan at planned
  split at planned
  · simp only [bind_eq_ok] at planned
    obtain ⟨_, _, planned⟩ := planned
    exact planReview_ok planned
  · exact planQueueReview_ok planned

theorem updateApprovalRequest_finalized
    {change : ApprovalRequest → ApprovalRequest} (known : request ∈ db.approvalRequests) :
    change request ∈ (updateApprovalRequest db request.id change).approvalRequests :=
  mem_updateWhere.mpr ⟨request, known, .inl ⟨by simp, rfl⟩⟩

theorem finalize_sameTables (db : Database) (input : ReviewInput) (status : ApprovalStatus)
    (plan : ReviewPlan) : SameTables db (finalize db input status plan) :=
  ⟨rfl, rfl, rfl, Nat.le_refl _⟩

theorem afterPublish_sameTables (db : Database) (input : ReviewInput) (request : ApprovalRequest) :
    SameTables db (afterPublish db input request) := by
  unfold afterPublish
  split
  · exact ⟨rfl, rfl, rfl, Nat.le_refl _⟩
  · exact ⟨rfl, rfl, rfl, Nat.le_refl _⟩

theorem publish_approvalRequests {pageId : RowId} {options : PublishOptions} {now : Date}
    {receipt : PublishReceipt} (published : publish platform db pageId options now =
      .ok (next, receipt)) : next.approvalRequests = db.approvalRequests := by
  obtain ⟨page, scrubbed, _, same⟩ := publish_eq_ok.mp published
  obtain ⟨rfl, -⟩ := Prod.mk.inj same
  rfl

theorem afterPublish_approvalRequests (db : Database) (input : ReviewInput)
    (request : ApprovalRequest) :
    (afterPublish db input request).approvalRequests = db.approvalRequests := by
  unfold afterPublish
  split <;> rfl

/-- The request that a review has published for, as the review leaves it. -/
def Finalized (next : Database) (input : ReviewInput) (request : ApprovalRequest) : Prop :=
  ∃ row ∈ next.approvalRequests, row.id = request.id ∧ row.status = .approved ∧
    row.reviewerUserId = some input.caller.userId

theorem review_ok {response : ReviewResponse}
    (reviewed : review platform db input = .ok (response, next)) :
    SameTables db next ∨ ∃ request payload published receipt,
      input.plan db = .ok (.publish request payload) ∧
      publish platform db request.targetId (reviewOptions input request payload) input.now =
        .ok (published, receipt) ∧
      SameTables published next ∧ Finalized next input request := by
  simp only [review, bind_eq_ok] at reviewed
  obtain ⟨plan, planned, carried⟩ := reviewed
  cases plan with
  | reject request =>
    obtain ⟨-, rfl⟩ := Prod.mk.inj (Except.ok.inj carried)
    exact .inl (finalize_sameTables db input .rejected _)
  | recordApproval request payload =>
    obtain ⟨-, rfl⟩ := Prod.mk.inj (Except.ok.inj carried)
    exact .inl ⟨rfl, rfl, rfl, Nat.le_refl _⟩
  | approveOnly request =>
    obtain ⟨-, rfl⟩ := Prod.mk.inj (Except.ok.inj carried)
    exact .inl (finalize_sameTables db input .approved _)
  | publish request payload =>
    simp only [bind_eq_ok, mapError_eq_ok, pure_eq_ok] at carried
    obtain ⟨_, _, ⟨published, receipt⟩, publishes, same⟩ := carried
    obtain ⟨-, rfl⟩ := Prod.mk.inj same
    refine .inr ⟨request, payload, published, receipt, planned, publishes, ?_, ?_⟩
    · have cleared := afterPublish_sameTables published input request
      exact ⟨cleared.pages, cleared.versions, cleared.stories, cleared.ids⟩
    · have known : request ∈ (afterPublish published input request).approvalRequests := by
        rw [afterPublish_approvalRequests, publish_approvalRequests publishes]
        exact (plan_ok planned).1.known
      refine ⟨_, updateApprovalRequest_finalized known, ?_⟩
      split <;> exact ⟨rfl, rfl, rfl⟩

end

/-- The editor method behind a step, with what was checked on the way. -/
inductive SystemRealizes (db next : Database) : SystemAction → PageAction → Prop where
  | request {http : HttpRequest} {action : PageAction}
      (realizes : Realizes db http.caller http.now http.request action) :
      SystemRealizes db next (.request http) action
  | review {input : ReviewInput} {request : ApprovalRequest} {payload : PublishApprovalPayload}
      (planned : input.plan db = .ok (.publish request payload))
      (finalized : Finalized next input request) :
      SystemRealizes db next (.review input)
        (.publish request.targetId (reviewOptions input request payload) input.now)
  | scheduled {job : ScheduledPagePublishJobData} {now : Date} {page : LandingPage}
      (queued : job ∈ db.scheduledPublishJobs) (due : job.publishAt ≤ now)
      (found : findLandingPage db job.pageId = .ok page)
      (own : page.organizationId = job.organizationId) :
      SystemRealizes db next (.runScheduledPublish job now)
        (.publish job.pageId (scheduledOptions job) now)

section

variable {platform : Platform} {db : Database}

theorem runScheduledPublish_ok {job : ScheduledPagePublishJobData} {now : Date}
    {outcome : ScheduledOutcome} {next : Database}
    (ran : runScheduledPublish platform db job now = .ok (outcome, next)) :
    next = db ∨ ∃ page receipt, findLandingPage db job.pageId = .ok page ∧
      page.organizationId = job.organizationId ∧
      publish platform db job.pageId (scheduledOptions job) now = .ok (next, receipt) := by
  unfold runScheduledPublish at ran
  split at ran
  · exact .inl (Prod.mk.inj (Except.ok.inj ran)).2.symm
  · rename_i page found
    split at ran
    · exact .inl (Prod.mk.inj (Except.ok.inj ran)).2.symm
    · rename_i own
      split at ran
      · exact .inl (Prod.mk.inj (Except.ok.inj ran)).2.symm
      · simp only [bind_eq_ok, pure_eq_ok] at ran
        obtain ⟨⟨published, receipt⟩, publishes, same⟩ := ran
        obtain ⟨-, rfl⟩ := Prod.mk.inj same
        exact .inr ⟨page, receipt, findLandingPage_eq_ok.mpr found, by simpa using own, publishes⟩

theorem upsertOrgSettings_sameTables (db : Database) (organizationId : RowId)
    (change : OrgSettings → OrgSettings) :
    SameTables db (upsertOrgSettings db organizationId change) := by
  unfold upsertOrgSettings
  split
  · exact ⟨rfl, rfl, rfl, Nat.le_refl _⟩
  · exact ⟨rfl, rfl, rfl, Nat.le_refl _⟩

theorem systemStep_cases (platform : Platform) (db : Database) (action : SystemAction) :
    SameTables db (systemStep platform db action) ∨ ∃ method written,
      SystemRealizes db (systemStep platform db action) action method ∧
      apply platform db method = .ok written ∧
      SameTables written (systemStep platform db action) := by
  have unchanged : SameTables db db := ⟨rfl, rfl, rfl, Nat.le_refl _⟩
  cases action with
  | request http =>
    simp only [systemStep, serve]
    split
    · rename_i response next handled
      rcases handle_ok handled with same | ⟨method, written, realizes, applied, same⟩
      · exact .inl same
      · exact .inr ⟨method, written, .request realizes, applied, same⟩
    · exact .inl unchanged
  | review input =>
    simp only [systemStep]
    split
    · rename_i response next reviewed
      rcases review_ok reviewed with same | ⟨request, payload, published, receipt, planned,
        publishes, same, finalized⟩
      · exact .inl same
      · exact .inr ⟨_, published, .review planned finalized, map_eq_ok.mpr ⟨_, publishes, rfl⟩,
          same⟩
    · exact .inl unchanged
  | runScheduledPublish job now =>
    simp only [systemStep, executeJob]
    split
    · rename_i ready
      split
      · rename_i outcome next ran
        rcases runScheduledPublish_ok ran with rfl | ⟨page, receipt, found, own, publishes⟩
        · exact .inl ⟨rfl, rfl, rfl, Nat.le_refl _⟩
        · exact .inr ⟨_, next, .scheduled ready.1 ready.2 found own,
            map_eq_ok.mpr ⟨_, publishes, rfl⟩, rfl, rfl, rfl, Nat.le_refl _⟩
      · exact .inl unchanged
    · exact .inl unchanged
  | updateSettings caller updates =>
    simp only [systemStep]
    split
    · rename_i next updated
      simp only [updateSettingsRoute, bind_eq_ok, pure_eq_ok] at updated
      obtain ⟨_, _, rfl⟩ := updated
      exact .inl (upsertOrgSettings_sameTables db caller.organizationId _)
    · exact .inl unchanged
  | completePermissionsSetup organizationId allowedPublishers requireApprovalToPublish =>
    simp only [systemStep, completePermissionsSetup]
    exact .inl (upsertOrgSettings_sameTables db organizationId _)

theorem systemStep_wellKeyed {action : SystemAction} (keyed : WellKeyed db) :
    WellKeyed (systemStep platform db action) := by
  rcases systemStep_cases platform db action with same | ⟨method, written, _, applied, same⟩
  · exact same.wellKeyed keyed
  · exact same.wellKeyed ((apply_effect applied).wellKeyed keyed)

theorem systemStep_grown (platform : Platform) (db : Database) (action : SystemAction) :
    Grown db (systemStep platform db action) := by
  rcases systemStep_cases platform db action with same | ⟨method, written, _, applied, same⟩
  · exact ⟨by rw [same.pages], by rw [same.versions]⟩
  · exact (apply_effect applied).grown.trans ⟨by rw [same.pages], by rw [same.versions]⟩

/-- A page that was not public is public under the same id. -/
structure GoesPublic (before after : Database) (page : LandingPage) : Prop where
  known : page ∈ before.landingPages
  hidden : page.status ≠ .published
  shown : ∃ published ∈ after.landingPages, published.id = page.id ∧ published.status = .published

def publishedPage : PageAction → Option RowId
  | .publish pageId _ _ | .rollbackToVersion pageId _ _ _ => some pageId
  | .create _ _ _ | .update _ _ _ _ | .unpublish _ _ | .archive _ _ => none

variable {next : Database} {page : LandingPage}

private theorem goesPublic_rewritten {pageId : RowId} (change : LandingPage → LandingPage)
    (keyed : WellKeyed db) (kept : ∀ row, (change row).id = row.id)
    (pages : next.landingPages = updateWhere db.landingPages (·.id == pageId) change)
    (goesPublic : GoesPublic db next page) :
    page.id = pageId ∧ (change page).status = .published := by
  obtain ⟨known, hidden, published, member, sameId, isPublished⟩ := goesPublic
  rw [pages] at member
  obtain ⟨old, inOld, ⟨selected, rfl⟩ | ⟨_, rfl⟩⟩ := mem_updateWhere.mp member
  · obtain rfl : old = page :=
      List.inj_on_of_nodup_map keyed.distinctIds inOld known ((kept old).symm.trans sameId)
    exact ⟨by simpa using selected, isPublished⟩
  · obtain rfl : published = page := List.inj_on_of_nodup_map keyed.distinctIds inOld known sameId
    exact absurd isPublished hidden

theorem apply_goesPublic {method : PageAction} (keyed : WellKeyed db)
    (applied : apply platform db method = .ok next) (goesPublic : GoesPublic db next page) :
    publishedPage method = some page.id := by
  cases method with
  | create input random now =>
    obtain ⟨result, created, rfl⟩ := map_eq_ok.mp applied
    obtain ⟨story, _, _, rfl⟩ := create_eq_ok.mp created
    obtain ⟨known, hidden, published, member, sameId, isPublished⟩ := goesPublic
    rcases List.mem_append.mp member with inOld | isNew
    · obtain rfl := List.inj_on_of_nodup_map keyed.distinctIds inOld known sameId
      exact absurd isPublished hidden
    · rw [List.mem_singleton.mp isNew] at isPublished
      cases isPublished
  | update pageId userId input now =>
    obtain ⟨result, updated, rfl⟩ := map_eq_ok.mp applied
    obtain ⟨existing, _, _, rfl⟩ := update_eq_ok.mp updated
    obtain ⟨_, isPublished⟩ := goesPublic_rewritten (pageUpdateData input now) keyed
      (fun _ => rfl) (recordEdit_pages _ _ _ _) goesPublic
    exact absurd isPublished goesPublic.hidden
  | publish pageId options now =>
    obtain ⟨result, published, rfl⟩ := map_eq_ok.mp applied
    obtain ⟨source, scrubbed, prepared, rfl⟩ := publish_eq_ok.mp published
    obtain ⟨own, _⟩ := goesPublic_rewritten (publishData platform scrubbed options now) keyed
      (fun _ => rfl) rfl goesPublic
    rw [publishedPage, own, (findLandingPage_id (preparePublish_eq_ok.mp prepared).1).2]
  | unpublish pageId now =>
    obtain ⟨source, _, rfl⟩ := changeStatus_eq_ok.mp applied
    obtain ⟨_, isPublished⟩ := goesPublic_rewritten (unpublishData now) keyed (fun _ => rfl) rfl
      goesPublic
    cases isPublished
  | archive pageId now =>
    obtain ⟨source, _, rfl⟩ := changeStatus_eq_ok.mp applied
    obtain ⟨_, isPublished⟩ := goesPublic_rewritten (archiveData now) keyed (fun _ => rfl) rfl
      goesPublic
    cases isPublished
  | rollbackToVersion pageId versionId actorUserId now =>
    obtain ⟨source, version, _, _, rfl⟩ := rollback_eq_ok.mp applied
    obtain ⟨own, _⟩ := goesPublic_rewritten (rollbackData version now) keyed (fun _ => rfl) rfl
      goesPublic
    rw [publishedPage, own]

end

def approvalInForce (db : Database) (page : LandingPage) : Bool :=
  (requiresApproval db page.organizationId page.includeCompanyName).required

/-- The action is the approval of a pending publish request for the page, and
its reviewer finalizes the request. -/
def ExecutesApproval (db next : Database) (page : LandingPage) (action : SystemAction) : Prop :=
  ∃ input request, action = .review input ∧ Reviewable db input request ∧
    Approves input request ∧ request.targetId = page.id ∧ Finalized next input request

/-- The page that an action publishes without asking for the approval policy of
the page's organization. -/
def uncheckedPage (db : Database) : SystemAction → Option RowId
  | .request http =>
    match http.request with
    | .rollback pageId _ => some pageId
    | .publish pageId _ =>
      -- The route asks for the policy of the caller's organization.
      if (findPageForOrg db pageId http.caller.organizationId).isSome then none
      else some pageId
    | _ => none
  | .runScheduledPublish job now =>
    -- The worker leaves pages of other organizations than the job's alone.
    if job ∈ db.scheduledPublishJobs ∧ job.publishAt ≤ now ∧
        (findPageForOrg db job.pageId job.organizationId).isSome then some job.pageId
    else none
  | _ => none

/-- An unchecked publish meets a public page or one that needs no approval. -/
def NeedsNoApproval (db : Database) (action : SystemAction) : Prop :=
  ∀ pageId page, uncheckedPage db action = some pageId → findLandingPage db pageId = .ok page →
    page.status = .published ∨ approvalInForce db page = false

theorem NeedsNoApproval.of_checked {db : Database} {action : SystemAction}
    (checked : uncheckedPage db action = none) : NeedsNoApproval db action := by
  intro pageId page unchecked
  rw [checked] at unchecked
  cases unchecked

section

variable {platform : Platform} {db : Database} {action : SystemAction} {page : LandingPage}

private theorem found_of_known (keyed : WellKeyed db) (known : page ∈ db.landingPages) :
    findLandingPage db page.id = .ok page :=
  findLandingPage_eq_ok.mpr ((find?_key_eq_some keyed.distinctIds).mpr ⟨known, rfl⟩)

private theorem findPageForOrg_isSome (keyed : WellKeyed db) (known : page ∈ db.landingPages)
    (organizationId : RowId) :
    (findPageForOrg db page.id organizationId).isSome = true ↔
      page.organizationId = organizationId := by
  simp only [findPageForOrg, List.find?_isSome, Bool.and_eq_true, beq_iff_eq]
  constructor
  · rintro ⟨other, member, sameId, own⟩
    rwa [List.inj_on_of_nodup_map keyed.distinctIds member known sameId] at own
  · intro own
    exact ⟨page, known, rfl, own⟩

private theorem unchecked_contradiction (keyed : WellKeyed db) (free : NeedsNoApproval db action)
    (known : page ∈ db.landingPages) (hidden : page.status ≠ .published)
    (inForce : approvalInForce db page = true) : uncheckedPage db action ≠ some page.id := by
  intro unchecked
  rcases free page.id page unchecked (found_of_known keyed known) with isPublished | noApproval
  · exact hidden isPublished
  · rw [noApproval] at inForce
    cases inForce

theorem systemStep_needs_approval (keyed : WellKeyed db) (free : NeedsNoApproval db action)
    (goesPublic : GoesPublic db (systemStep platform db action) page)
    (inForce : approvalInForce db page = true) :
    ExecutesApproval db (systemStep platform db action) page action := by
  obtain ⟨known, hidden, published, member, sameId, isPublished⟩ := goesPublic
  have refused := unchecked_contradiction keyed free known hidden inForce
  rcases systemStep_cases platform db action with same | ⟨method, written, realizes, applied, same⟩
  · rw [same.pages] at member
    obtain rfl := List.inj_on_of_nodup_map keyed.distinctIds member known sameId
    exact absurd isPublished hidden
  · rw [same.pages] at member
    have own := apply_goesPublic keyed applied
      ⟨known, hidden, published, member, sameId, isPublished⟩
    cases realizes with
    | review planned finalized =>
      obtain ⟨reviewable, approves⟩ := plan_ok planned
      exact ⟨_, _, rfl, reviewable, approves _ _ rfl, Option.some.inj own, finalized⟩
    | @scheduled job now source queued due found inOrganization =>
      have named : job.pageId = page.id := Option.some.inj own
      rw [named, found_of_known keyed known] at found
      obtain rfl := Except.ok.inj found
      have visible := (findPageForOrg_isSome keyed known job.organizationId).mpr inOrganization
      exact absurd (by simp [uncheckedPage, queued, due, named, visible]) refused
    | @request http method realizes =>
      obtain ⟨caller, request, now⟩ := http
      cases realizes with
      | create found storyId organization => cases own
      | update allowed => cases own
      | unpublish allowed => cases own
      | archive allowed => cases own
      | @rollback pageId versionId allowed => exact absurd own refused
      | @publish pageId body allowed checked =>
        have named : pageId = page.id := Option.some.inj own
        subst named
        -- Foreign pages are published without a look at their own policy.
        by_cases sameOrganization : page.organizationId = caller.organizationId
        · have noApproval := checked page (found_of_known keyed known)
          rw [approvalInForce, sameOrganization, noApproval] at inForce
          cases inForce
        · have foreign := mt (findPageForOrg_isSome keyed known caller.organizationId).mp
            sameOrganization
          exact absurd (if_neg foreign) refused

end

/-- In a run whose unchecked publishes need no approval, a page that goes public
under an approval policy does so by the approval of its publish request. -/
theorem publication_needs_approval {platform : Platform} {initial : Database}
    {actions : List SystemAction} (keyed : WellKeyed initial)
    (guarded : Guarded (systemStep platform) NeedsNoApproval initial actions) :
    ∀ taken ∈ trace (systemStep platform) initial actions, ∀ page,
      GoesPublic taken.1 (systemStep platform taken.1 taken.2) page →
        approvalInForce taken.1 page = true →
          ExecutesApproval taken.1 (systemStep platform taken.1 taken.2) page taken.2 := by
  intro taken member page goesPublic inForce
  obtain ⟨keyedThere, free⟩ := trace_guarded_invariant WellKeyed
    (fun _ _ kept _ => systemStep_wellKeyed kept) keyed guarded taken member
  exact systemStep_needs_approval keyedThere free goesPublic inForce

def acmeAdmin : Caller where
  userId := 3
  organizationId := 7
  userRole := some .admin

def requireApprovals : List SystemAction := [
  .request { caller := acmeAdmin, request := .unpublish 10, now := 3 },
  .updateSettings acmeAdmin { approvalPolicy := some .allRequired }]

def requestPublish : SystemAction :=
  .request { caller := acmeAdmin, request := .publish 10 { visibility := .sharedWithLink }, now := 4 }

def approvePublish : ReviewInput where
  endpoint := .landingPages
  caller := acmeAdmin
  requestId := 12
  decision := .approve
  now := 5

def queuedDatabase : Database :=
  run (systemStep .ascii) launchedDatabase (requireApprovals ++ [requestPublish])

theorem approved_publish_is_executed :
    ∃ page, GoesPublic queuedDatabase (systemStep .ascii queuedDatabase (.review approvePublish))
        page ∧
      ExecutesApproval queuedDatabase (systemStep .ascii queuedDatabase (.review approvePublish))
        page (.review approvePublish) := by
  have shown : ∃ page ∈ queuedDatabase.landingPages, page.status ≠ .published ∧
      approvalInForce queuedDatabase page = true ∧
      ∃ published ∈ (systemStep .ascii queuedDatabase (.review approvePublish)).landingPages,
        published.id = page.id ∧ published.status = .published := by
    decide +kernel
  obtain ⟨page, known, hidden, inForce, shown⟩ := shown
  have guarded : Guarded (systemStep .ascii) NeedsNoApproval launchedDatabase
      (requireApprovals ++ [requestPublish, .review approvePublish]) := by
    refine guarded_cons.mpr ⟨.of_checked rfl, guarded_cons.mpr ⟨.of_checked rfl,
      guarded_cons.mpr ⟨.of_checked ?_, guarded_cons.mpr ⟨.of_checked rfl, guarded_nil _ _ _⟩⟩⟩⟩
    decide +kernel
  refine ⟨page, ⟨known, hidden, shown⟩, ?_⟩
  exact publication_needs_approval launchedDatabase_wellKeyed guarded
    (queuedDatabase, .review approvePublish) (by simp [trace, requireApprovals, queuedDatabase])
    page ⟨known, hidden, shown⟩ inForce

def rollBackLaunch : SystemAction :=
  .request { caller := acmeAdmin, request := .rollback 10 11, now := 5 }

/-- A rollback publishes the hidden page although approvals are required. -/
theorem rollback_publishes_without_approval :
    WellKeyed launchedDatabase ∧
    ∃ taken ∈ trace (systemStep .ascii) launchedDatabase (requireApprovals ++ [rollBackLaunch]),
      ∃ page, GoesPublic taken.1 (systemStep .ascii taken.1 taken.2) page ∧
        approvalInForce taken.1 page = true ∧
        ¬ExecutesApproval taken.1 (systemStep .ascii taken.1 taken.2) page taken.2 := by
  have shown : ∃ page ∈ (run (systemStep .ascii) launchedDatabase requireApprovals).landingPages,
      page.status ≠ .published ∧
      approvalInForce (run (systemStep .ascii) launchedDatabase requireApprovals) page = true ∧
      ∃ published ∈ (systemStep .ascii (run (systemStep .ascii) launchedDatabase
          requireApprovals) rollBackLaunch).landingPages,
        published.id = page.id ∧ published.status = .published := by
    decide +kernel
  obtain ⟨page, known, hidden, inForce, shown⟩ := shown
  refine ⟨launchedDatabase_wellKeyed, (run (systemStep .ascii) launchedDatabase requireApprovals,
    rollBackLaunch), by simp [trace, requireApprovals], page, ⟨known, hidden, shown⟩, inForce, ?_⟩
  rintro ⟨input, request, isReview, -⟩
  cases isReview

/-- In every run each page stays at its address, with its organization, story and mode, and each
version stays as it was recorded. -/
theorem pages_and_versions_stay {platform : Platform} {initial : Database}
    (keyed : WellKeyed initial) (actions : List SystemAction) :
    (∀ page ∈ initial.landingPages,
      ((run (systemStep platform) initial actions).landingPages.find? (·.slug == page.slug)).map
        LandingPage.identity = some (LandingPage.identity page)) ∧
      initial.publishedArtifactVersions.map PublishedArtifactVersion.snapshot <+:
        (run (systemStep platform) initial actions).publishedArtifactVersions.map
          PublishedArtifactVersion.snapshot := by
  obtain ⟨grown, keyedThere⟩ : Grown initial (run (systemStep platform) initial actions) ∧
      WellKeyed (run (systemStep platform) initial actions) :=
    run_invariant (fun state => Grown initial state ∧ WellKeyed state)
      (fun state action kept => ⟨kept.1.trans (systemStep_grown platform state action),
        systemStep_wellKeyed kept.2⟩) actions ⟨.refl initial, keyed⟩
  exact ⟨fun page known => grown.found keyedThere known, grown.versions⟩

theorem launch_stays_recorded :
    launchedDatabase.publishedArtifactVersions.map (·.id) = [11] ∧
      launchedDatabase.publishedArtifactVersions.map PublishedArtifactVersion.snapshot <+:
        (run (systemStep .ascii) launchedDatabase
          (requireApprovals ++ [rollBackLaunch])).publishedArtifactVersions.map
            PublishedArtifactVersion.snapshot :=
  ⟨by decide +kernel, (pages_and_versions_stay launchedDatabase_wellKeyed _).2⟩

end StoryEngine.Approval
