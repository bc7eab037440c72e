import StoryEngine.Pages.Anonymity
import StoryEngine.Scrub.Passes

namespace StoryEngine.Pages

open Data Schema Scrub Text

/-! # Identifiers in published pages

The leak detector has checked every text that an anonymous publish stores, so the texts show what its
patterns miss: what the passes of the scrubber leave of an identifier, or make of one, where the
pattern of the identifier does not reach it.
-/

def calloutTexts (boxes : Option (List CalloutBox)) : List Text :=
  (decodeCalloutBoxes boxes).flatMap fun box => [box.title, box.body]

def pageTexts (page : LandingPage) : List Text :=
  [page.editableBody, page.title] ++ (page.subtitle.filter fun text => !text.isEmpty).toList ++
    calloutTexts page.calloutBoxes

def scrubbedTexts (page : LandingPage) : List Text :=
  [page.scrubbedBody] ++ page.scrubbedTitle.toList ++ page.scrubbedSubtitle.toList ++
    calloutTexts page.scrubbedCalloutBoxes

/-- The scrubbed callouts of an earlier publish, which a page without callouts keeps. -/
def staleTexts (page : LandingPage) : List Text :=
  match page.calloutBoxes with
  | none => calloutTexts page.scrubbedCalloutBoxes
  | some _ => []

/-- The identifier is shown where the leak detector's pattern for it does not reach. -/
def Overlooked (cases : CaseMapping) (isAlphanumeric : Char → Bool)
    (identifier before found after : Text) : Prop :=
  Shown cases isAlphanumeric identifier before found after ∧ ¬Reached cases identifier before after

section

variable {platform : Platform} {page : LandingPage} {account : ScrubAccount}

private theorem calloutTexts_scrubbed (boxes : List CalloutBox) :
    calloutTexts (some (boxes.map (scrubCallout platform.cases account))) =
      (calloutTexts (some boxes)).map (scrubText platform.cases account) := by
  simp only [calloutTexts, decodeCalloutBoxes, Option.getD_some, List.flatMap_map, List.map_flatMap]
  rfl

private theorem scrubbedTexts_published (options : PublishOptions) (now : Date) :
    scrubbedTexts
        (publishData platform (scrubPage platform.cases account page) options now page) =
      (pageTexts page).map (scrubText platform.cases account) ++ staleTexts page := by
  cases boxes : page.calloutBoxes with
  | none =>
    simp [scrubbedTexts, publishData, scrubPage, pageTexts, staleTexts, boxes, calloutTexts,
      decodeCalloutBoxes, Option.toList_map]
  | some raw =>
    simp [scrubbedTexts, publishData, scrubPage, pageTexts, staleTexts, boxes,
      calloutTexts_scrubbed, Option.toList_map]

private theorem fragments_scrubbed {text : Text} (member : text ∈ pageTexts page) :
    scrubText platform.cases account text ∈
      (scrubPage platform.cases account page).fragments := by
  simp only [pageTexts, List.mem_append, List.mem_cons, List.not_mem_nil, or_false] at member
  simp only [ScrubbedContent.fragments, List.mem_append, List.mem_cons]
  rcases member with ((rfl | rfl) | subtitle) | callout
  · exact .inl (.inl rfl)
  · exact .inl (.inr (.inl rfl))
  · refine .inl (.inr (.inr (.inl ?_)))
    rw [Option.mem_toList] at subtitle
    simp [scrubPage, Option.mem_def.mp subtitle]
  · right
    cases boxes : page.calloutBoxes with
    | none => simp [boxes, calloutTexts, decodeCalloutBoxes] at callout
    | some raw =>
      rw [boxes] at callout
      have scrubbed : scrubText platform.cases account text ∈
          (calloutTexts (some raw)).map (scrubText platform.cases account) :=
        List.mem_map_of_mem callout
      rw [← calloutTexts_scrubbed] at scrubbed
      simpa [scrubPage, boxes, calloutTexts, decodeCalloutBoxes] using scrubbed

/-- Where the detector has found nothing, the scrubbed texts show what it overlooks. -/
theorem scrubbed_exposes_iff {isAlphanumeric : Char → Bool} {identifier text : Text}
    (lawful : platform.cases.Lawful isAlphanumeric) (identifies : account.Identifies identifier)
    (clean : detectScrubLeakage platform.cases account
      (scrubPage platform.cases account page).fragments = [])
    (member : text ∈ pageTexts page) :
    Exposes platform.cases isAlphanumeric (scrubText platform.cases account text) identifier ↔
      Lasts (Overlooked platform.cases isAlphanumeric identifier)
        (scrubPasses platform.cases account {}) text := by
  have inFragments := @fragments_scrubbed platform page account text member
  rw [scrubText, scrubForAccount_text account {} rfl] at inFragments ⊢
  rw [← lasts_iff]
  constructor
  · rintro ⟨before, found, after, whole, shown⟩
    refine ⟨before, found, after, whole, shown, fun reached => ?_⟩
    rw [whole] at inFragments
    exact detectScrubLeakage_reports lawful identifies inFragments reached shown clean
  · rintro ⟨before, found, after, whole, shown, _⟩
    exact ⟨before, found, after, whole, shown⟩

end

def draftPage : LandingPage where
  id := 10
  organizationId := 7
  storyId := 2
  createdById := 3
  slug := launchSlug
  title := ("Faster support" : String)
  editableBody := launchedPage.editableBody
  calloutBoxes := some []
  createdAt := 1
  updatedAt := 1

def acmeAccount : ScrubAccount where
  name := ("Acme" : String)
  normalizedName := ("acme" : String)
  domain := none
  domainAliases := []
  contacts := []
  companyNameReplacements := []

def yahooDatabase : Database where
  nextId := 10
  accounts := [{
    id := 1
    organizationId := 7
    name := ("Yahoo!" : String)
    normalizedName := ("yahoo!" : String) }]
  stories := [{
    id := 2
    organizationId := 7
    accountId := 1
    markdownBody :=
      ("Yahoo! moved all of its support teams to the new platform within a month." : String) }]

end StoryEngine.Pages
