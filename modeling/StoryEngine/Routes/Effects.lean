import StoryEngine.Pages.Lifecycle
import StoryEngine.Routes.Pages

namespace StoryEngine.Routes

open Data Schema Access Approval Pages

/-! # Effects of the landing-page routes -/

structure HttpRequest where
  caller : Caller
  request : PageRequest
  now : Date

def serve (platform : Platform) (db : Database) (http : HttpRequest) : Database :=
  match handle platform db http.caller http.now http.request with
  | .ok (_, next) => next
  | .error _ => db

def respond (platform : Platform) (db : Database) (http : HttpRequest) :
    Except HttpFailure PageResponse :=
  (handle platform db http.caller http.now http.request).map Prod.fst

section

variable {platform : Platform} {db next : Database} {caller : Caller} {now : Date}
  {pageId versionId : RowId} {response : PageResponse}

theorem createRoute_ok {body : CreatePageBody} {random : SlugSuffixes}
    (handled : createRoute platform db caller now body random = .ok (response, next)) :
    ∃ story input newId, findStoryForOrg db body.storyId caller.organizationId = some story ∧
      input.storyId = body.storyId ∧ input.organizationId = caller.organizationId ∧
      create platform db input random now = .ok (next, newId) := by
  simp only [createRoute, bind_eq_ok, required_eq_ok, mapError_eq_ok, pure_eq_ok] at handled
  obtain ⟨_, _, _, _, story, found, _, _, ⟨created, newId⟩, creates, page, _, same⟩ := handled
  obtain ⟨-, rfl⟩ := Prod.mk.inj same
  exact ⟨story, _, newId, found, rfl, rfl, creates⟩

theorem updateRoute_ok {body : UpdateLandingPageInput}
    (handled : updateRoute platform db caller now pageId body = .ok (response, next)) :
    requirePageOwnerOrPermission db caller pageId = .ok ⟨⟩ ∧
      ∃ updatedAt, update db pageId caller.userId body now = .ok (next, updatedAt) := by
  simp only [updateRoute, bind_eq_ok, mapError_eq_ok, pure_eq_ok] at handled
  obtain ⟨_, guarded, _, _, page, _, _, _, ⟨updated, updatedAt⟩, updates, same⟩ := handled
  obtain ⟨-, rfl⟩ := Prod.mk.inj same
  exact ⟨guarded, updatedAt, updates⟩

theorem publishRoute_ok {body : PublishRequestOptions}
    (handled : publishRoute platform db caller now pageId body = .ok (response, next)) :
    requirePermission db .publish caller = .ok ⟨⟩ ∧
      ∃ page, findLandingPage db pageId = .ok page ∧
        (((requiresApproval db caller.organizationId page.includeCompanyName).required = true ∧
            next = (createPublishApprovalRequest db caller page.id body).2) ∨
          ((requiresApproval db caller.organizationId page.includeCompanyName).required = false ∧
            ∃ published receipt, publish platform db pageId
              (publishOptions body caller.userId none) now = .ok (published, receipt) ∧
              next = clearScheduledPublish published pageId)) := by
  simp only [publishRoute, bind_eq_ok, mapError_eq_ok] at handled
  obtain ⟨_, guarded, _, _, page, found, _, _, _, _, decided⟩ := handled
  refine ⟨guarded, page, found, ?_⟩
  split at decided
  · rename_i needed
    split at decided
    · cases decided
    · exact .inl ⟨needed, (congrArg Prod.snd (Except.ok.inj decided)).symm⟩
  · rename_i free
    simp only [bind_eq_ok, mapError_eq_ok, pure_eq_ok] at decided
    obtain ⟨⟨published, receipt⟩, publishes, same⟩ := decided
    obtain ⟨-, rfl⟩ := Prod.mk.inj same
    exact .inr ⟨by simpa using free, published, receipt, publishes, rfl⟩

theorem rollbackRoute_ok
    (handled : rollbackRoute db caller now pageId versionId = .ok (response, next)) :
    requirePermission db .publish caller = .ok ⟨⟩ ∧
      rollbackLandingPageToVersion db pageId versionId caller.userId now = .ok next := by
  simp only [rollbackRoute, bind_eq_ok, mapError_eq_ok, pure_eq_ok] at handled
  obtain ⟨_, guarded, rolledBack, rollsBack, same⟩ := handled
  obtain ⟨-, rfl⟩ := Prod.mk.inj same
  exact ⟨guarded, rollsBack⟩

theorem unpublishRoute_ok
    (handled : unpublishRoute db caller now pageId = .ok (response, next)) :
    requirePageOwnerOrPermission db caller pageId = .ok ⟨⟩ ∧
      ∃ hidden, unpublish db pageId now = .ok hidden ∧
        next = clearScheduledPublish hidden pageId := by
  simp only [unpublishRoute, bind_eq_ok, mapError_eq_ok, pure_eq_ok] at handled
  obtain ⟨_, guarded, page, _, _, _, hidden, hides, same⟩ := handled
  obtain ⟨-, rfl⟩ := Prod.mk.inj same
  exact ⟨guarded, hidden, hides, rfl⟩

theorem archiveRoute_ok
    (handled : archiveRoute db caller now pageId = .ok (response, next)) :
    requirePageOwnerOrPermission db caller pageId = .ok ⟨⟩ ∧
      ∃ hidden, archive db pageId now = .ok hidden ∧
        next = clearScheduledPublish hidden pageId := by
  simp only [archiveRoute, bind_eq_ok, mapError_eq_ok, pure_eq_ok] at handled
  obtain ⟨_, guarded, page, _, _, _, hidden, hides, same⟩ := handled
  obtain ⟨-, rfl⟩ := Prod.mk.inj same
  exact ⟨guarded, hidden, hides, rfl⟩

theorem schedulePublishRoute_ok {body : PublishRequestOptions} {publishAt : Date}
    (handled : schedulePublishRoute db caller now pageId body publishAt = .ok (response, next)) :
    ∃ jobs, next = { db with scheduledPublishJobs := jobs } := by
  simp only [schedulePublishRoute, bind_eq_ok, mapError_eq_ok, pure_eq_ok] at handled
  obtain ⟨_, _, _, _, _, _, page, _, _, _, _, _, _, _, same⟩ := handled
  obtain ⟨-, rfl⟩ := Prod.mk.inj same
  exact ⟨_, rfl⟩

end

structure SameTables (before after : Database) : Prop where
  pages : after.landingPages = before.landingPages
  versions : after.publishedArtifactVersions = before.publishedArtifactVersions
  stories : after.stories = before.stories
  ids : before.nextId ≤ after.nextId

theorem SameTables.wellKeyed {before after : Database} (same : SameTables before after)
    (keyed : WellKeyed before) : WellKeyed after := by
  obtain ⟨distinctIds, distinctSlugs, freshPages, freshVersions, versionPages⟩ := keyed
  refine ⟨?_, ?_, ?_, ?_, ?_⟩
  · rwa [same.pages]
  · rwa [same.pages]
  · rw [same.pages]
    exact fun page member => Nat.lt_of_lt_of_le (freshPages page member) same.ids
  · rw [same.versions]
    exact fun version member => Nat.lt_of_lt_of_le (freshVersions version member) same.ids
  · rw [same.versions]
    exact fun version member => Nat.lt_of_lt_of_le (versionPages version member) same.ids

/-- The editor method behind a request, with what the route has checked. -/
inductive Realizes (db : Database) (caller : Caller) (now : Date) :
    PageRequest → PageAction → Prop where
  | create {body : CreatePageBody} {random : SlugSuffixes} {input : CreateLandingPageInput}
      {story : Story} (found : findStoryForOrg db body.storyId caller.organizationId = some story)
      (storyId : input.storyId = body.storyId)
      (organization : input.organizationId = caller.organizationId) :
      Realizes db caller now (.create body random) (.create input random now)
  | update {pageId : RowId} {body : UpdateLandingPageInput}
      (allowed : requirePageOwnerOrPermission db caller pageId = .ok ⟨⟩) :
      Realizes db caller now (.update pageId body) (.update pageId caller.userId body now)
  | publish {pageId : RowId} {body : PublishRequestOptions}
      (allowed : requirePermission db .publish caller = .ok ⟨⟩)
      (free : ∀ page, findLandingPage db pageId = .ok page →
        (requiresApproval db caller.organizationId page.includeCompanyName).required = false) :
      Realizes db caller now (.publish pageId body)
        (.publish pageId (publishOptions body caller.userId none) now)
  | rollback {pageId versionId : RowId}
      (allowed : requirePermission db .publish caller = .ok ⟨⟩) :
      Realizes db caller now (.rollback pageId versionId)
        (.rollbackToVersion pageId versionId caller.userId now)
  | unpublish {pageId : RowId}
      (allowed : requirePageOwnerOrPermission db caller pageId = .ok ⟨⟩) :
      Realizes db caller now (.unpublish pageId) (.unpublish pageId now)
  | archive {pageId : RowId}
      (allowed : requirePageOwnerOrPermission db caller pageId = .ok ⟨⟩) :
      Realizes db caller now (.archive pageId) (.archive pageId now)

section

variable {platform : Platform} {db next : Database} {caller : Caller} {now : Date}
  {request : PageRequest} {response : PageResponse}

theorem handle_ok (handled : handle platform db caller now request = .ok (response, next)) :
    SameTables db next ∨ ∃ action written, Realizes db caller now request action ∧
      apply platform db action = .ok written ∧ SameTables written next := by
  simp only [handle, bind_eq_ok] at handled
  obtain ⟨_, _, routed⟩ := handled
  cases request with
  | create body random =>
    obtain ⟨story, input, newId, found, storyId, organization, created⟩ := createRoute_ok routed
    exact .inr ⟨_, next, .create found storyId organization, map_eq_ok.mpr ⟨_, created, rfl⟩,
      rfl, rfl, rfl, Nat.le_refl _⟩
  | editData pageId =>
    simp only [bind_eq_ok, pure_eq_ok] at routed
    obtain ⟨_, _, same⟩ := routed
    obtain ⟨-, rfl⟩ := Prod.mk.inj same
    exact .inl ⟨rfl, rfl, rfl, Nat.le_refl _⟩
  | update pageId body =>
    obtain ⟨allowed, updatedAt, updated⟩ := updateRoute_ok routed
    exact .inr ⟨_, next, .update allowed, map_eq_ok.mpr ⟨_, updated, rfl⟩, rfl, rfl, rfl,
      Nat.le_refl _⟩
  | publish pageId body =>
    obtain ⟨allowed, page, found, ⟨_, rfl⟩ | ⟨free, published, receipt, publishes, rfl⟩⟩ :=
      publishRoute_ok routed
    · exact .inl ⟨rfl, rfl, rfl, Nat.le_succ _⟩
    · refine .inr ⟨_, published, .publish allowed fun other known => ?_,
        map_eq_ok.mpr ⟨_, publishes, rfl⟩, rfl, rfl, rfl, Nat.le_refl _⟩
      obtain rfl := Except.ok.inj (found.symm.trans known)
      exact free
  | rollback pageId versionId =>
    obtain ⟨allowed, rolledBack⟩ := rollbackRoute_ok routed
    exact .inr ⟨_, next, .rollback allowed, rolledBack, rfl, rfl, rfl, Nat.le_refl _⟩
  | unpublish pageId =>
    obtain ⟨allowed, hidden, hides, rfl⟩ := unpublishRoute_ok routed
    exact .inr ⟨_, hidden, .unpublish allowed, hides, rfl, rfl, rfl, Nat.le_refl _⟩
  | archive pageId =>
    obtain ⟨allowed, hidden, hides, rfl⟩ := archiveRoute_ok routed
    exact .inr ⟨_, hidden, .archive allowed, hides, rfl, rfl, rfl, Nat.le_refl _⟩
  | schedulePublish pageId body publishAt =>
    obtain ⟨jobs, rfl⟩ := schedulePublishRoute_ok routed
    exact .inl ⟨rfl, rfl, rfl, Nat.le_refl _⟩

end

end StoryEngine.Routes
