import StoryEngine.Pages.Lifecycle

namespace StoryEngine.Pages

open Data Schema Scrub Text

/-! # Exports of a page

The PDF, the document and the Slack message are made from the page as `getExportablePage`
returns it, whatever the settings of the organization say about names.
-/

structure ExportablePage where
  content : PageContent
  totalCallHours : Nat
  heroImageUrl : Option Text
  customCss : Option Text
  branding : Option PublishedBrandingSettings

def exportedContent (page : LandingPage) : PageContent where
  title := page.title
  subtitle := page.subtitle
  body := if page.scrubbedBody.isEmpty then page.editableBody else page.scrubbedBody
  calloutBoxes := decodeCalloutBoxes page.calloutBoxes

def getExportablePage (db : Database) (pageId : RowId) : Except EditorError ExportablePage := do
  let page ← findLandingPage db pageId
  let settings := db.orgSettings.find? (·.organizationId == page.organizationId)
  return {
    content := exportedContent page
    totalCallHours := page.totalCallHours
    heroImageUrl := page.heroImageUrl
    customCss := page.customCss
    branding := (settings.bind (·.publishedBranding)).map fun branding => {
      brandName := branding.brandName
      logoUrl := branding.logoUrl
      primaryColor := branding.primaryColor
      accentColor := branding.accentColor
      surfaceColor := branding.surfaceColor } }

/-- The columns that one of the two takes raw and the other scrubbed hold the same: the body of
a page that is shown with names, and all the others of one that is not. -/
def ScrubbedAlike (db : Database) (page : LandingPage) : Prop :=
  if servesOriginal db page then
    page.scrubbedBody = [] ∨ page.scrubbedBody = page.editableBody
  else
    (∀ title ∈ page.scrubbedTitle, title = page.title) ∧
    (∀ subtitle ∈ page.scrubbedSubtitle, page.subtitle = some subtitle) ∧
    (decodeCalloutBoxes page.scrubbedCalloutBoxes = [] ∨
      decodeCalloutBoxes page.scrubbedCalloutBoxes = decodeCalloutBoxes page.calloutBoxes)

instance (db : Database) (page : LandingPage) : Decidable (ScrubbedAlike db page) :=
  inferInstanceAs (Decidable (if servesOriginal db page then _ else _))

section

variable {platform : Platform} {db counted : Database} {page : LandingPage}
  {exported : ExportablePage} {view : PublicPage} {pageId : RowId} {slug : Text}
  {password : Option Text} {now : Date}

theorem exportedContent_eq_original_iff :
    exportedContent page = originalContent page ↔
      page.scrubbedBody = [] ∨ page.scrubbedBody = page.editableBody := by
  simp only [exportedContent, originalContent, PageContent.mk.injEq, true_and, and_true]
  split
  · next empty => simp [List.isEmpty_iff.mp empty]
  · next present =>
      have nonempty : page.scrubbedBody ≠ [] := by simpa using present
      simp [nonempty]

theorem exportedContent_eq_anonymized_iff :
    exportedContent page = anonymizedContent page ↔
      (∀ title ∈ page.scrubbedTitle, title = page.title) ∧
      (∀ subtitle ∈ page.scrubbedSubtitle, page.subtitle = some subtitle) ∧
      (decodeCalloutBoxes page.scrubbedCalloutBoxes = [] ∨
        decodeCalloutBoxes page.scrubbedCalloutBoxes = decodeCalloutBoxes page.calloutBoxes) := by
  have title : page.title = page.scrubbedTitle.getD page.title ↔
      ∀ title ∈ page.scrubbedTitle, title = page.title := by
    cases page.scrubbedTitle with
    | none => simp
    | some scrubbed => simp [eq_comm]
  have subtitle : page.subtitle = page.scrubbedSubtitle.or page.subtitle ↔
      ∀ subtitle ∈ page.scrubbedSubtitle, page.subtitle = some subtitle := by
    cases page.scrubbedSubtitle with
    | none => simp
    | some scrubbed => simp
  have callouts : decodeCalloutBoxes page.calloutBoxes =
      (if (decodeCalloutBoxes page.scrubbedCalloutBoxes).isEmpty then
        decodeCalloutBoxes page.calloutBoxes
      else decodeCalloutBoxes page.scrubbedCalloutBoxes) ↔
      decodeCalloutBoxes page.scrubbedCalloutBoxes = [] ∨
        decodeCalloutBoxes page.scrubbedCalloutBoxes = decodeCalloutBoxes page.calloutBoxes := by
    split
    · next empty => simp [List.isEmpty_iff.mp empty]
    · next present =>
        have nonempty : decodeCalloutBoxes page.scrubbedCalloutBoxes ≠ [] := by
          simpa using present
        simp [nonempty, eq_comm]
  simp only [exportedContent, anonymizedContent, PageContent.mk.injEq, true_and]
  rw [title, subtitle, callouts]

theorem exportedContent_eq_served_iff :
    exportedContent page = servedContent db page ↔ ScrubbedAlike db page := by
  simp only [servedContent, ScrubbedAlike]
  split
  · exact exportedContent_eq_original_iff
  · exact exportedContent_eq_anonymized_iff

theorem getExportablePage_eq_ok :
    getExportablePage db pageId = .ok exported ↔
      ∃ page, findLandingPage db pageId = .ok page ∧ exported = {
        content := exportedContent page
        totalCallHours := page.totalCallHours
        heroImageUrl := page.heroImageUrl
        customCss := page.customCss
        branding := (getPagePresentationSettings db page.organizationId).publishedBranding } := by
  have branding (page : LandingPage) :
      (((db.orgSettings.find? (·.organizationId == page.organizationId)).bind
        (·.publishedBranding)).map fun branding => ({
          brandName := branding.brandName
          logoUrl := branding.logoUrl
          primaryColor := branding.primaryColor
          accentColor := branding.accentColor
          surfaceColor := branding.surfaceColor } : PublishedBrandingSettings)) =
        (getPagePresentationSettings db page.organizationId).publishedBranding :=
    Option.map_id'
  simp only [getExportablePage, bind_eq_ok, pure_eq_ok, branding]
  constructor
  · intro found
    obtain ⟨page, isPage, same⟩ := found
    exact ⟨page, isPage, same.symm⟩
  · intro found
    obtain ⟨page, isPage, same⟩ := found
    exact ⟨page, isPage, same.symm⟩

/-- A page that is public shows its public content in exports exactly when the columns on which
the two differ hold the same. -/
theorem exports_show_public_content_iff
    (exports : getExportablePage db pageId = .ok exported)
    (serves : getPublicBySlug platform db slug password now = some (view, counted))
    (same : db.landingPages.find? (·.id == pageId) = db.landingPages.find? (·.slug == slug))
    (found : findLandingPage db pageId = .ok page) :
    exported.content = view.content ↔ ScrubbedAlike db page := by
  obtain ⟨shown, shownFound, rfl⟩ := getExportablePage_eq_ok.mp exports
  obtain rfl : page = shown := Except.ok.inj (found.symm.trans shownFound)
  obtain ⟨row, inSlugs, _, _, content⟩ := getPublicBySlug_served serves
  rw [findLandingPage_eq_ok, same, inSlugs] at found
  obtain rfl := Option.some.inj found
  rw [content]
  exact exportedContent_eq_served_iff

end

def acmePage : LandingPage where
  id := 6
  organizationId := 1
  storyId := 4
  createdById := 2
  slug := ['s']
  title := ("Acme moved" : String).toList
  editableBody := ("Acme moved." : String).toList
  visibility := .sharedWithLink
  status := .published

def anonymousPage : LandingPage :=
  { acmePage with
    scrubbedTitle := some ("A client moved" : String).toList
    scrubbedBody := ("A client moved." : String).toList }

def pageDatabase (anonymizationEnabled : Bool) (page : LandingPage) : Database where
  orgSettings := [{ organizationId := 1, anonymizationEnabled }]
  landingPages := [page]

def bothContents (db : Database) : Option (PageContent × PageContent) := do
  let exported ← (getExportablePage db 6).toOption
  let (view, _) ← getPublicBySlug .ascii db ['s'] none 0
  return (exported.content, view.content)

theorem named_page_is_exported_as_shown :
    ∃ exported view counted, getExportablePage (pageDatabase false acmePage) 6 = .ok exported ∧
      getPublicBySlug .ascii (pageDatabase false acmePage) ['s'] none 0 = some (view, counted) ∧
      exported.content = view.content := by
  have alike := @exports_show_public_content_iff .ascii (pageDatabase false acmePage) _ acmePage
    _ _ 6 ['s'] none 0 rfl rfl rfl rfl
  exact ⟨_, _, _, rfl, rfl, alike.mpr (by decide)⟩

/-- The export of an anonymous page has its raw title, and when names are shown later, the
scrubbed body. -/
theorem exports_differ_from_the_page :
    (bothContents (pageDatabase true anonymousPage)).map
        (fun contents => (contents.1.title, contents.2.title)) =
      some (("Acme moved" : String).toList, ("A client moved" : String).toList) ∧
    (bothContents (pageDatabase false anonymousPage)).map
        (fun contents => (contents.1.body, contents.2.body)) =
      some (("A client moved." : String).toList, ("Acme moved." : String).toList) := by
  decide +kernel

end StoryEngine.Pages
