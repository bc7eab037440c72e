import StoryEngine.Pages.Versions

namespace StoryEngine.Pages

open Data Schema

/-! # Edits and the public view

An update writes the editable columns only.  The public reads these, too: for a
page that is served with its originals, and wherever a scrubbed column is empty.
-/

def exposesTitle (db : Database) (page : LandingPage) : Bool :=
  servesOriginal db page || page.scrubbedTitle.isNone

def exposesSubtitle (db : Database) (page : LandingPage) : Bool :=
  servesOriginal db page || page.scrubbedSubtitle.isNone

def exposesBody (db : Database) (page : LandingPage) : Bool :=
  servesOriginal db page || page.scrubbedBody.isEmpty

def exposesCallouts (db : Database) (page : LandingPage) : Bool :=
  servesOriginal db page || (decodeCalloutBoxes page.scrubbedCalloutBoxes).isEmpty

/-- Every field that an update writes stays behind its scrubbed column, or has the
value already. -/
structure EditHidden (db : Database) (page : LandingPage) (input : UpdateLandingPageInput) :
    Prop where
  title : exposesTitle db page = true → ∀ title, input.title = some title → title = page.title
  subtitle : exposesSubtitle db page = true →
    ∀ subtitle, input.subtitle = some subtitle → page.subtitle = some subtitle
  body : exposesBody db page = true →
    ∀ body, input.editableBody = some body → body = page.editableBody
  callouts : exposesCallouts db page = true → ∀ boxes, input.calloutBoxes = some boxes →
    boxes = decodeCalloutBoxes page.calloutBoxes

section

variable {platform : Platform} {db next : Database} {page : LandingPage}
  {input : UpdateLandingPageInput} {now : Date}

theorem servesOriginal_update (settings : next.orgSettings = db.orgSettings) :
    servesOriginal next (pageUpdateData input now page) = servesOriginal db page :=
  servesOriginal_congr settings rfl

theorem getD_eq_iff {α : Type} {written : Option α} {old : α} :
    written.getD old = old ↔ ∀ value, written = some value → value = old := by
  cases written <;> simp

theorem or_eq_iff {α : Type} {written old : Option α} :
    written.or old = old ↔ ∀ value, written = some value → old = some value := by
  cases written with
  | none => simp
  | some value => simp [eq_comm]

theorem exposed_eq_iff {α : Type} {exposed : Bool} {edited current masked : α} :
    (if exposed then edited else masked) = (if exposed then current else masked) ↔
      (exposed = true → edited = current) := by
  cases exposed <;> simp

theorem servedContent_eq (db : Database) (page : LandingPage) : servedContent db page = {
    title := if exposesTitle db page then page.title else page.scrubbedTitle.getD []
    subtitle := if exposesSubtitle db page then page.subtitle else page.scrubbedSubtitle
    body := if exposesBody db page then page.editableBody else page.scrubbedBody
    calloutBoxes :=
      if exposesCallouts db page then decodeCalloutBoxes page.calloutBoxes
      else decodeCalloutBoxes page.scrubbedCalloutBoxes } := by
  unfold servedContent exposesTitle exposesSubtitle exposesBody exposesCallouts
  cases servesOriginal db page with
  | true => simp [originalContent]
  | false =>
    cases title : page.scrubbedTitle <;> cases subtitle : page.scrubbedSubtitle <;>
      simp [anonymizedContent, title, subtitle]

theorem servedContent_update_iff (settings : next.orgSettings = db.orgSettings) :
    servedContent next (pageUpdateData input now page) = servedContent db page ↔
      EditHidden db page input := by
  have original : servesOriginal next (pageUpdateData input now page) = servesOriginal db page :=
    servesOriginal_update settings
  have titles : exposesTitle next (pageUpdateData input now page) = exposesTitle db page := by
    rw [exposesTitle, original]
    rfl
  have subtitles : exposesSubtitle next (pageUpdateData input now page) =
      exposesSubtitle db page := by
    rw [exposesSubtitle, original]
    rfl
  have bodies : exposesBody next (pageUpdateData input now page) = exposesBody db page := by
    rw [exposesBody, original]
    rfl
  have callouts : exposesCallouts next (pageUpdateData input now page) =
      exposesCallouts db page := by
    rw [exposesCallouts, original]
    rfl
  rw [servedContent_eq, servedContent_eq, PageContent.mk.injEq, titles, subtitles, bodies, callouts]
  simp only [pageUpdateData, exposed_eq_iff, getD_eq_iff, or_eq_iff]
  have boxes : decodeCalloutBoxes (input.calloutBoxes.or page.calloutBoxes) =
      decodeCalloutBoxes page.calloutBoxes ↔
        ∀ written, input.calloutBoxes = some written →
          written = decodeCalloutBoxes page.calloutBoxes := by
    cases input.calloutBoxes <;> simp [decodeCalloutBoxes]
  rw [boxes]
  constructor
  · rintro ⟨title, subtitle, body, callouts⟩
    exact ⟨title, subtitle, body, callouts⟩
  · intro hidden
    exact ⟨hidden.title, hidden.subtitle, hidden.body, hidden.callouts⟩

end

def publicContent (platform : Platform) (db : Database) (slug : Text) (password : Option Text)
    (clock : Date) : Option PageContent :=
  (getPublicBySlug platform db slug password clock).map fun served => served.1.content

section

variable {platform : Platform} {db next : Database} {page : LandingPage} {slug : Text}
  {password : Option Text} {clock now : Date} {input : UpdateLandingPageInput}

theorem publicContent_eq : publicContent platform db slug password clock =
    (db.landingPages.find? (·.slug == slug)).bind fun page =>
      (publicView platform db page password clock).map (·.content) := by
  have view := getPublicBySlug_view platform db slug password clock
  have content := congrArg (Option.map PublicPage.content) view
  rw [Option.map_map, Option.map_bind] at content
  exact content

theorem publicView_content : (publicView platform db page password clock).map (·.content) =
    if (publicView platform db page password clock).isSome then some (servedContent db page)
    else none := by
  unfold publicView
  split <;> rfl

theorem publicView_settings (settings : next.orgSettings = db.orgSettings) :
    publicView platform next page password clock = publicView platform db page password clock := by
  unfold publicView servedContent servesOriginal getPagePresentationSettings
  rw [settings]

theorem publicView_unpublished (unpublished : page.status ≠ .published) :
    publicView platform db page password clock = none :=
  if_neg fun shown => unpublished shown.1

theorem publicView_isSome_update :
    (publicView platform next (pageUpdateData input now page) password clock).isSome =
      (publicView platform db page password clock).isSome := by
  have shown : (pageUpdateData input now page).status = .published ∧
      isExpired (pageUpdateData input now page) clock = false ∧
      (pageUpdateData input now page).visibility = .sharedWithLink ∧
      passwordAccepted platform (pageUpdateData input now page) password = true ↔
      page.status = .published ∧ isExpired page clock = false ∧
      page.visibility = .sharedWithLink ∧ passwordAccepted platform page password = true := Iff.rfl
  unfold publicView
  rw [if_congr shown rfl rfl]
  split <;> rfl

theorem content_update_iff (settings : next.orgSettings = db.orgSettings) :
    (publicView platform next (pageUpdateData input now page) password clock).map (·.content) =
        (publicView platform db page password clock).map (·.content) ↔
      ((publicView platform db page password clock).isSome = true → EditHidden db page input) := by
  have edited : servedContent next (pageUpdateData input now page) = servedContent db page ↔
      EditHidden db page input := servedContent_update_iff settings
  rw [publicView_content, publicView_content, publicView_isSome_update, ← edited]
  cases (publicView platform db page password clock).isSome with
  | false => simp
  | true => simp

end

/-- The methods of the editor and the views of the public. -/
inductive PageCall where
  | method (action : PageAction)
  | view (slug : Text) (password : Option Text) (now : Date)

def answer (platform : Platform) (db : Database) : PageCall → Database
  | .method action => step platform db action
  | .view slug password now =>
    match getPublicBySlug platform db slug password now with
    | some (_, counted) => counted
    | none => db

def Republishes : PageCall → Bool
  | .method (.publish _ _ _) | .method (.unpublish _ _) | .method (.archive _ _)
  | .method (.rollbackToVersion _ _ _ _) => true
  | _ => false

/-- An update that goes through on the page that the visitor sees hides its edits. -/
def HidesEdits (platform : Platform) (db : Database) (slug : Text) (password : Option Text)
    (clock : Date) : PageCall → Prop
  | .method (.update pageId _ input _) =>
    ∀ page, db.landingPages.find? (·.slug == slug) = some page → page.id = pageId →
      input.expectedUpdatedAt.all (· == page.updatedAt) = true →
        (publicView platform db page password clock).isSome = true → EditHidden db page input
  | _ => True

section

variable {platform : Platform} {db next : Database} {slug : Text} {password : Option Text}
  {clock : Date}

theorem publicContent_create {input : CreateLandingPageInput} {random : SlugSuffixes} {now : Date}
    {pageId : RowId} (created : create platform db input random now = .ok (next, pageId)) :
    publicContent platform next slug password clock =
      publicContent platform db slug password clock := by
  obtain ⟨story, -, -, same⟩ := create_eq_ok.mp created
  obtain ⟨rfl, -⟩ := Prod.mk.inj same
  rw [publicContent_eq, publicContent_eq, List.find?_append]
  cases db.landingPages.find? (·.slug == slug) with
  | some page => rfl
  | none =>
    -- The new page is a draft, whatever its slug is.
    simp only [Option.none_or, List.find?_cons, List.find?_nil]
    split
    · have draft : (newLandingPage platform db input story random now).status ≠ .published :=
        fun published => PageStatus.noConfusion published
      rw [Option.bind_some, publicView_unpublished draft]
      rfl
    · rfl

theorem publicContent_update_iff {pageId userId : RowId} {input : UpdateLandingPageInput}
    {now updatedAt : Date} (keyed : WellKeyed db)
    (updated : update db pageId userId input now = .ok (next, updatedAt)) :
    publicContent platform next slug password clock =
        publicContent platform db slug password clock ↔
      HidesEdits platform db slug password clock (.method (.update pageId userId input now)) := by
  obtain ⟨existing, found, expected, same⟩ := update_eq_ok.mp updated
  obtain ⟨rfl, -⟩ := Prod.mk.inj same
  obtain ⟨known, rfl⟩ := findLandingPage_id found
  rw [publicContent_eq, publicContent_eq, recordEdit_pages, updateLandingPage_pages,
    find?_updateWhere]
  · unfold HidesEdits
    cases shown : db.landingPages.find? (·.slug == slug) with
    | none => simp
    | some page =>
      simp only [Option.map_some, Option.bind_some, Option.some.injEq, forall_eq']
      by_cases own : page.id = existing.id
      · have row : page = existing :=
          List.inj_on_of_nodup_map keyed.distinctIds (List.mem_of_find?_eq_some shown) known own
        subst row
        have settings : (recordEdit (updateLandingPage db page.id (pageUpdateData input now)) page
            userId input).orgSettings = db.orgSettings := recordEdit_orgSettings _ _ _ _
        rw [if_pos (by simp), content_update_iff settings]
        exact ⟨fun hidden _ _ => hidden, fun hidden => hidden rfl expected⟩
      · rw [if_neg (by simpa using own), publicView_settings (recordEdit_orgSettings _ _ _ _)]
        exact ⟨fun _ same => absurd same own, fun _ => rfl⟩
  · exact fun _ => rfl

theorem publicContent_view (viewed : Text) (given : Option Text) (now : Date) :
    publicContent platform (answer platform db (.view viewed given now)) slug password clock =
      publicContent platform db slug password clock := by
  simp only [answer]
  split
  · rename_i view counted served
    simp only [getPublicBySlug_eq, Option.bind_eq_some_iff, Option.map_eq_some_iff] at served
    obtain ⟨row, -, -, -, -, rfl⟩ := served
    rw [publicContent_eq, publicContent_eq, updateLandingPage_pages, find?_updateWhere]
    · cases db.landingPages.find? (·.slug == slug) with
      | none => rfl
      | some page =>
        simp only [Option.map_some, Option.bind_some]
        split
        · rfl
        · rfl
    · exact fun _ => rfl
  · rfl

end

/-- Between two publishes a call leaves what a visitor reads exactly when it hides
its edits. -/
theorem public_content_kept_iff {platform : Platform} {db : Database} (keyed : WellKeyed db)
    {call : PageCall} (between : Republishes call = false) (slug : Text) (password : Option Text)
    (clock : Date) :
    publicContent platform (answer platform db call) slug password clock =
        publicContent platform db slug password clock ↔
      HidesEdits platform db slug password clock call := by
  cases call with
  | view viewed given now => exact ⟨fun _ => trivial, fun _ => publicContent_view viewed given now⟩
  | method action =>
    cases action with
    | publish pageId options now => cases between
    | unpublish pageId now => cases between
    | archive pageId now => cases between
    | rollbackToVersion pageId versionId actorUserId now => cases between
    | create input random now =>
      refine ⟨fun _ => trivial, fun _ => ?_⟩
      simp only [answer, step, apply]
      cases created : create platform db input random now with
      | error failure => rfl
      | ok result => exact publicContent_create created
    | update pageId userId input now =>
      simp only [answer, step, apply]
      cases updated : update db pageId userId input now with
      | ok result => exact publicContent_update_iff keyed updated
      | error failure =>
        refine ⟨fun _ page shown own expected _ => ?_, fun _ => rfl⟩
        -- The page that the visitor sees is there, and the token fits.
        have known := List.mem_of_find?_eq_some shown
        have found : findLandingPage db pageId = .ok page :=
          findLandingPage_eq_ok.mpr
            ((find?_key_eq_some keyed.distinctIds).mpr ⟨known, own⟩)
        have succeeds : ∃ result, update db pageId userId input now = .ok result :=
          ⟨_, update_eq_ok.mpr ⟨page, found, expected, rfl⟩⟩
        obtain ⟨result, succeeded⟩ := succeeds
        cases updated.symm.trans succeeded

theorem retitled_page_keeps_content :
    publicContent .ascii (answer .ascii launchedDatabase (.method retitle)) launchSlug none 4 =
      publicContent .ascii launchedDatabase launchSlug none 4 := by
  refine (public_content_kept_iff launchedDatabase_wellKeyed rfl launchSlug none 4).mpr ?_
  intro page found _ _ _
  obtain rfl : launchedPage = page := Option.some.inj found
  exact {
    title := fun exposed => by revert exposed; decide
    subtitle := fun _ subtitle written => by cases written
    body := fun _ body written => by cases written
    callouts := fun _ boxes written => by cases written }

/-- A published page with the company's name serves a new title at once. -/
theorem named_page_serves_edits :
    let published := step .ascii draftDatabase (.publish 10 { visibility := .sharedWithLink } 2)
    WellKeyed draftDatabase ∧
      publicContent .ascii (answer .ascii published (.method retitle)) launchSlug none 4 ≠
        publicContent .ascii published launchSlug none 4 := by
  refine ⟨draftDatabase_wellKeyed, fun same => ?_⟩
  have titles := congrArg (Option.map PageContent.title) same
  revert titles
  decide +kernel

end StoryEngine.Pages
