import StoryEngine.Platform
import StoryEngine.Schema.Rows
import StoryEngine.Text.Pattern

namespace StoryEngine.Publish

open Schema Text

/-! # Links in page content -/

structure LinkCandidate where
  field : Text
  url : Text
deriving DecidableEq

inductive LinkSyntaxCode where
  | unsafeLinkScheme
  | unsupportedLinkScheme
  | malformedLinkUrl
deriving DecidableEq

structure LinkSyntaxIssue where
  field : Text
  url : Text
  code : LinkSyntaxCode
  message : Text

section

variable (platform : Platform)

private def lit (text : String) : Pattern := .literal platform.cases false text.toList

private def litIgnoringCase (text : String) : Pattern :=
  .literal platform.cases true text.toList

private def noneOf (excluded : List Char) : Pattern := .accept fun c => !excluded.contains c

private def isQuote (c : Char) : Bool := c.toNat == 0x22 || c.toNat == 0x27

/-- `[label](url "title")`; the group is what stands between the parentheses. -/
def markdownLinkRegex : Pattern :=
  .sequence [lit platform "[", .star (noneOf [']']), lit platform "](",
    .group (.seq (.plus (.accept fun c => c ≠ ')' && !isSpace c))
      (.optional (.sequence [.plus .space, .accept isQuote, .star (.accept fun c => !isQuote c),
        .accept isQuote]))),
    lit platform ")"]

/-- `https?://`, `mailto:` or `tel:`. -/
def linkScheme : Pattern :=
  .choice [.sequence [litIgnoringCase platform "http", .optional (litIgnoringCase platform "s"),
      lit platform "://"],
    litIgnoringCase platform "mailto:", litIgnoringCase platform "tel:"]

def autoLinkRegex : Pattern :=
  .sequence [lit platform "<",
    .group (.seq (linkScheme platform) (.plus (.accept fun c => c ≠ '>' && !isSpace c))),
    lit platform ">"]

def bareUrlRegex : Pattern :=
  .sequence [.wordBoundary, linkScheme platform,
    .plus (.accept fun c => !isSpace c && !(['<', '>', '(', ')'].contains c))]

def cleanUrlToken (rawUrl : Text) : Text :=
  ((trim rawUrl).takeWhile fun c => !isSpace c).rdropWhile fun c =>
    [')', ',', '.', ';', '!', '?'].contains c

/-- `match[1] ?? match[0]` of every match, cleaned; empty urls are dropped. -/
def appendMatches (field text : Text) (regex : Pattern) : List LinkCandidate :=
  (regex.scan text).filterMap fun
    | .plain _ => none
    | .hit _ matched _ captured =>
      let extracted := cleanUrlToken (captured.getD matched)
      if extracted.isEmpty then none else some { field, url := extracted }

def collectLinkCandidates (parts : List (Text × Text)) : List LinkCandidate :=
  (parts.flatMap fun part =>
    [markdownLinkRegex platform, autoLinkRegex platform, bareUrlRegex platform].flatMap
      (appendMatches part.1 part.2)).eraseDups

private def schemeAtStart (schemes : List String) : Pattern :=
  .sequence [.atStart, .choice (schemes.map (litIgnoringCase platform)), lit platform ":"]

/-- `/^[a-z][a-z0-9+.-]*:/i`. -/
private def anyScheme : Pattern :=
  let letter (c : Char) : Bool := (c.toLower ≥ 'a' && c.toLower ≤ 'z')
  .sequence [.atStart, .accept letter,
    .star (.accept fun c => letter c || c.isDigit || ['+', '.', '-'].contains c), lit platform ":"]

def linkSyntaxIssue (candidate : LinkCandidate) : Option LinkSyntaxIssue :=
  let { field, url } := candidate
  let issue (code : LinkSyntaxCode) (message : String) : Option LinkSyntaxIssue :=
    some { field, url, code, message := message.toList ++ url }
  if (schemeAtStart platform ["javascript", "data", "vbscript", "file"]).test url then
    issue .unsafeLinkScheme "Unsafe URL scheme is not allowed: "
  else if ["#", "/", "./", "../"].any fun start => startsWith url start.toList then none
  else if (schemeAtStart platform ["mailto", "tel"]).test url then none
  else if (anyScheme platform).test url && !(schemeAtStart platform ["http", "https"]).test url then
    issue .unsupportedLinkScheme "Unsupported URL scheme in link: "
  else if (schemeAtStart platform ["http", "https"]).test url then
    match platform.urlHostname url with
    | some (_ :: _) => none
    | _ => issue .malformedLinkUrl "Malformed URL in link: "
  else
    issue .malformedLinkUrl
      "Link must be absolute (https://...) or a valid relative path: "

def validateLinkSyntax (candidates : List LinkCandidate) : List LinkSyntaxIssue :=
  candidates.filterMap (linkSyntaxIssue platform)

end

/-! ## Validation of a page before and after scrubbing -/

inductive FieldPrefix where
  | editable
  | scrubbed

inductive PublishIssueCode where
  | titleTooShort
  | bodyRequired
  | bodyTooShort
  | calloutTitleRequired
  | calloutBodyRequired
  | link (code : LinkSyntaxCode)
deriving DecidableEq

structure PublishValidationIssue where
  field : Text
  code : PublishIssueCode
  message : Text
deriving DecidableEq

structure PublishSnapshot where
  title : Text
  subtitle : Option Text
  body : Text
  calloutBoxes : List CalloutBox
  fieldPrefix : FieldPrefix

namespace FieldPrefix

def titleField : FieldPrefix → Text
  | .editable => ("title" : String)
  | .scrubbed => ("scrubbed_title" : String)

def subtitleField : FieldPrefix → Text
  | .editable => ("subtitle" : String)
  | .scrubbed => ("scrubbed_subtitle" : String)

def bodyField : FieldPrefix → Text
  | .editable => ("editable_body" : String)
  | .scrubbed => ("scrubbed_body" : String)

end FieldPrefix

def calloutField (index : Nat) (column : String) : Text :=
  ("callout_boxes." : String).toList ++ Nat.toDigits 10 index ++ '.' :: column.toList

def isMarkdownMark (c : Char) : Bool :=
  c.toNat == 0x60 ||
    ['*', '_', '#', '>', '|', '[', ']', '(', ')', '!', '~', '-'].contains c

def titleIssues (snapshot : PublishSnapshot) : List PublishValidationIssue :=
  if length16 (trim snapshot.title) < 3 then
    [{ field := snapshot.fieldPrefix.titleField, code := .titleTooShort,
       message := ("Title must be at least 3 characters before publish." : String) }]
  else []

def bodyIssues (snapshot : PublishSnapshot) : List PublishValidationIssue :=
  let body := trim snapshot.body
  if body.isEmpty then
    [{ field := snapshot.fieldPrefix.bodyField, code := .bodyRequired,
       message := ("Body content is required before publish." : String) }]
  else
    let plainText := trim ((Pattern.plus .space).replace [' ']
      ((Pattern.accept isMarkdownMark).replace [' '] body))
    let words := if plainText.isEmpty then [] else splitAt (· == ' ') plainText
    if length16 plainText < 40 ∨ words.length < 8 then
      [{ field := snapshot.fieldPrefix.bodyField, code := .bodyTooShort,
         message :=
           ("Body content is too short to publish. Add more narrative context." : String) }]
    else []

def calloutIssues (box : CalloutBox) (index : Nat) : List PublishValidationIssue :=
  let label := ("Callout " : String).toList ++ Nat.toDigits 10 (index + 1)
  (if (trim box.title).isEmpty then
    [{ field := calloutField index "title", code := .calloutTitleRequired,
       message := label ++ (" needs a title before publish." : String).toList }]
   else []) ++
  (if (trim box.body).isEmpty then
    [{ field := calloutField index "body", code := .calloutBodyRequired,
       message := label ++ (" needs body text before publish." : String).toList }]
   else [])

def linkParts (snapshot : PublishSnapshot) : List (Text × Text) :=
  [(snapshot.fieldPrefix.titleField, snapshot.title),
   (snapshot.fieldPrefix.subtitleField, snapshot.subtitle.getD []),
   (snapshot.fieldPrefix.bodyField, snapshot.body)] ++
  (snapshot.calloutBoxes.mapIdx fun index box =>
    [(calloutField index "title", box.title), (calloutField index "body", box.body)]).flatten

def validatePublishSnapshot (platform : Platform) (snapshot : PublishSnapshot) :
    List PublishValidationIssue :=
  titleIssues snapshot ++ bodyIssues snapshot ++
    (snapshot.calloutBoxes.mapIdx fun index box => calloutIssues box index).flatten ++
    (validateLinkSyntax platform (collectLinkCandidates platform (linkParts snapshot))).map
      fun issue => { field := issue.field, code := .link issue.code, message := issue.message }

theorem validatePublishSnapshot_body {platform : Platform} {snapshot : PublishSnapshot}
    (valid : validatePublishSnapshot platform snapshot = []) : snapshot.body ≠ [] := by
  intro empty
  have noBodyIssue : bodyIssues snapshot = [] := by
    simp only [validatePublishSnapshot, List.append_eq_nil_iff] at valid
    exact valid.1.1.2
  simp [bodyIssues, empty, trim] at noBodyIssue

end StoryEngine.Publish
