import StoryEngine.Scrub.Passes

namespace StoryEngine.Scrub

open Text Pattern

/-! # Contact names in scrubbed text

The last passes replace the contact names one after the other, where they stand between word
boundaries.  A name stays where its pass does not read it, when it does not begin and end with a word
character, when an underscore stands beside it, and when lower casing and the patterns compare its
letters differently; and where a label brings it back.
-/

def longNames (account : ScrubAccount) : List Text :=
  (account.contacts.filterMap ContactInfo.name).filter fun name => 4 ≤ length16 name

section

variable (cases : CaseMapping) (isAlphanumeric : Char → Bool)

/-- The name stands there between word boundaries, in letters that the pattern takes for its own. -/
structure Readable (name left found right : Text) : Prop where
  edged : Edged found
  letters : found.map cases.canonicalize = name.map cases.canonicalize
  opens : Free left.getLast?
  closes : Free right.head?

/-- In the text that the pass of the name gets, what it does not read of the name is taken by a
later one, and neither its label nor a later one makes the name, with the text beside it, for good. -/
structure Removed (name text : Text) (own : Pass) (later : List Pass) : Prop where
  unread : ∀ left found right, text = left ++ (found ++ right) →
    Readable cases name left found right ∨
      ¬Survives (Shown cases isAlphanumeric name) (own :: later) left found right
  unmade : ¬Arises (Shown cases isAlphanumeric name) (own :: later) text

def NamesRemoved (account : ScrubAccount) (config : ScrubConfig) (text : Text) : Prop :=
  let bare := barePasses cases (config.placeholder.getD defaultPlaceholder)
  ∀ earlier contact later, account.contacts = earlier ++ contact :: later →
    ∀ name ∈ contact.name, 4 ≤ length16 name →
      Removed cases isAlphanumeric name
        (applyPasses (earlyPasses cases account config ++ earlier.flatMap bare) text)
        (namePass cases name (bareLabel cases (config.placeholder.getD defaultPlaceholder) contact))
        (later.flatMap bare)

end

section

variable {cases : CaseMapping} {isAlphanumeric : Char → Bool} {account : ScrubAccount}
  {config : ScrubConfig} {text name label left found right : Text} {later : List Pass}

theorem Readable.not_survives (readable : Readable cases name left found right)
    {shows : Text → Text → Text → Prop} :
    ¬Survives shows (namePass cases name label :: later) left found right := by
  rintro ⟨nextLeft, nextRight, keeps, _⟩
  obtain ⟨edged, letters, opens, closes⟩ := readable
  have some : name ≠ [] := by
    rintro rfl
    exact edged.ne_nil (List.map_eq_nil_iff.mp letters)
  rw [← List.head?_reverse] at opens
  exact namePass_matches edged letters opens closes
    (keeps.ends (namePass_consumes some) edged.ne_nil)

theorem removed_iff : Removed cases isAlphanumeric name text (namePass cases name label) later ↔
    ¬Exposes cases isAlphanumeric (applyPasses (namePass cases name label :: later) text) name := by
  have lasts : Exposes cases isAlphanumeric
      (applyPasses (namePass cases name label :: later) text) name ↔ Lasts _ _ _ :=
    @lasts_iff (Shown cases isAlphanumeric name) _ text
  rw [lasts]
  constructor
  · rintro ⟨unread, unmade⟩ (⟨left, found, right, isText, survives⟩ | arises)
    · rcases unread left found right isText with readable | fades
      · exact readable.not_survives survives
      · exact fades survives
    · exact unmade arises
  · intro fades
    refine ⟨fun left found right isText => .inr fun survives => ?_, fun arises => ?_⟩
    · exact fades (.inl ⟨left, found, right, isText, survives⟩)
    · exact fades (.inr arises)

theorem scrubPasses_name {earlier later : List ContactInfo} {contact : ContactInfo}
    (split : account.contacts = earlier ++ contact :: later) (named : contact.name = some name)
    (long : 4 ≤ length16 name) :
    scrubPasses cases account config =
      (earlyPasses cases account config ++
          earlier.flatMap (barePasses cases (config.placeholder.getD defaultPlaceholder))) ++
        namePass cases name (bareLabel cases (config.placeholder.getD defaultPlaceholder) contact) ::
          later.flatMap (barePasses cases (config.placeholder.getD defaultPlaceholder)) := by
  obtain ⟨own, title⟩ := contact
  obtain rfl : own = some name := named
  rw [scrubPasses, latePasses, split, List.flatMap_append, List.flatMap_cons,
    barePasses_long (Nat.not_lt.mpr long), List.append_assoc, List.singleton_append]

theorem removed_iff_hidden (active : config.skipScrub = false)
    {earlier later : List ContactInfo} {contact : ContactInfo}
    (split : account.contacts = earlier ++ contact :: later) (named : contact.name = some name)
    (long : 4 ≤ length16 name) :
    Removed cases isAlphanumeric name
        (applyPasses (earlyPasses cases account config ++
          earlier.flatMap (barePasses cases (config.placeholder.getD defaultPlaceholder))) text)
        (namePass cases name (bareLabel cases (config.placeholder.getD defaultPlaceholder) contact))
        (later.flatMap (barePasses cases (config.placeholder.getD defaultPlaceholder))) ↔
      ¬Exposes cases isAlphanumeric (scrubForAccount cases account text config).scrubbedText
        name := by
  rw [removed_iff, ← applyPasses_append, ← scrubPasses_name split named long,
    scrubForAccount_text account config active]

end

def robotics : ScrubAccount where
  name := ("Acme Robotics" : String)
  normalizedName := ("acme robotics" : String)
  domain := some ("acme.com" : String)
  domainAliases := []
  contacts := [{ name := some ("Jane Doe" : String), title := some ("CEO" : String) },
    { name := some ("John A Smith" : String), title := none }]
  companyNameReplacements := []

def roboticsText : Text := ("Ask JANE DOE or John A Smith of Acme" : String)

def junior : ScrubAccount :=
  { robotics with contacts := [{ name := some ("J. Doe Jr." : String), title := none }] }

end StoryEngine.Scrub
