import StoryEngine.Text.Removals

namespace StoryEngine.Pages

open Text Pattern

/-! # Custom CSS

Seven patterns are removed from the CSS of a page, each in one pass.  A removal may join what a pass
before it, or the pass itself, is there to remove.
-/

/-- `[^c]*c` -/
def upToChar (closing : Char) : Pattern :=
  .seq (.star (.accept (· != closing))) (.accept (· == closing))

/-- `[^;]*(;|$)` -/
def declarationValue : Pattern :=
  .seq (.star (.accept (· != ';'))) (.alt (.accept (· == ';')) .atEnd)

def spaces : Pattern := .star .space

/-- `["']?` -/
def quoteMark : Pattern := .optional (.accept fun c => c == '"' || c.toNat == 0x27)

/-- `<[^>]*>` -/
def htmlTag : Pattern := .seq (.accept (· == '<')) (upToChar '>')

section

variable (cases : CaseMapping)

def keyword (text : String) : Pattern := .literal cases true text.toList

/-- `@import\s+[^;]*;?` -/
def importRule : Pattern :=
  .seq (keyword cases "@import") (.seq (.plus .space)
    (.seq (.star (.accept (· != ';'))) (.optional (.accept (· == ';')))))

/-- `javascript\s*:` -/
def javascriptUrl : Pattern :=
  .seq (keyword cases "javascript") (.seq spaces (.accept (· == ':')))

/-- `expression\s*\([^)]*\)` -/
def expressionCall : Pattern :=
  .seq (keyword cases "expression") (.seq spaces (.seq (.accept (· == '(')) (upToChar ')')))

/-- `name\s*:[^;]*(;|$)` -/
def declaration (name : String) : Pattern :=
  .seq (keyword cases name) (.seq spaces (.seq (.accept (· == ':')) declarationValue))

def mozBinding : Pattern := declaration cases "-moz-binding"

def behavior : Pattern := declaration cases "behavior"

/-- `url\s*\(\s*["']?\s*data:[^)]*\)` -/
def dataUrl : Pattern :=
  .seq (keyword cases "url") (.seq spaces (.seq (.accept (· == '('))
    (.seq spaces (.seq quoteMark (.seq spaces (.seq (keyword cases "data:") (upToChar ')')))))))

def sanitizeCustomCss : Option Text → Option Text
  | none => none
  | some css =>
    let sanitized := htmlTag.replace [] css
    let sanitized := (importRule cases).replace [] sanitized
    let sanitized := (javascriptUrl cases).replace [] sanitized
    let sanitized := (expressionCall cases).replace [] sanitized
    let sanitized := (mozBinding cases).replace [] sanitized
    let sanitized := (behavior cases).replace [] sanitized
    let sanitized := (dataUrl cases).replace [] sanitized
    some sanitized

end

def Blanks (word : Text) : Prop := ∀ c ∈ word, isSpace c = true

def Keyword (cases : CaseMapping) (text : String) (word : Text) : Prop :=
  word.map cases.canonicalize = text.toList.map cases.canonicalize

def Quote (word : Text) : Prop :=
  (∃ c, (c == '"' || c.toNat == 0x27) = true ∧ word = [c]) ∨ word = []

def tagRemoval : Removal where
  pattern := htmlTag
  head := Followed (· = ['<']) (· = [])
  tail := ('>' ∈ ·)
  consumes := rfl
  finds := Opens.after (spells_char '<') (opens_until '>')
  solid := by
    rintro word ⟨before, after, rfl, rfl, rfl⟩ empty
    cases empty
  grows _ _ sub member := sub.subset member

def keywordRemoval (cases : CaseMapping) (text : String) (nonempty : text.toList ≠ [])
    (later : Pattern) (head tail : Text → Prop) (opens : later.Opens head tail)
    (grows : ∀ rest more, rest.Sublist more → tail rest → tail more) : Removal where
  pattern := .seq (keyword cases text) later
  head := Followed (Keyword cases text) head
  tail := tail
  consumes := by
    have first : (keyword cases text).consumes = true := literal_consumes nonempty
    simp [consumes, first]
  finds := Opens.after (spells_literal _) opens
  solid := by
    rintro word ⟨name, after, rfl, isName, _⟩ empty
    rw [(List.append_eq_nil_iff.mp empty).1] at isName
    exact nonempty (List.map_eq_nil_iff.mp isName.symm)
  grows := grows

section

variable (cases : CaseMapping)

def importRemoval : Removal :=
  keywordRemoval cases "@import" (by decide) _ (Followed (fun word => word ≠ [] ∧ Blanks word) (· = []))
    (fun _ => True) (Opens.after spells_plus (opens_rest ';')) fun _ _ _ _ => trivial

def javascriptRemoval : Removal :=
  keywordRemoval cases "javascript" (by decide) _ (Followed Blanks (· = [':'])) (fun _ => True)
    (Opens.after spells_star (opens_char ':')) fun _ _ _ _ => trivial

def expressionRemoval : Removal :=
  keywordRemoval cases "expression" (by decide) _ (Followed Blanks (Followed (· = ['(']) (· = [])))
    (')' ∈ ·) (Opens.after spells_star (Opens.after (spells_char '(') (opens_until ')')))
    fun _ _ sub member => sub.subset member

def declarationRemoval (name : String) (nonempty : name.toList ≠ []) : Removal :=
  keywordRemoval cases name nonempty _ (Followed Blanks (Followed (· = [':']) (· = []))) (fun _ => True)
    (Opens.after spells_star (Opens.after (spells_char ':') (opens_untilEnd ';')))
    fun _ _ _ _ => trivial

def dataUrlRemoval : Removal :=
  keywordRemoval cases "url" (by decide) _
    (Followed Blanks (Followed (· = ['(']) (Followed Blanks (Followed Quote (Followed Blanks
      (Followed (Keyword cases "data:") (· = []))))))) (')' ∈ ·)
    (Opens.after spells_star (Opens.after (spells_char '(') (Opens.after spells_star
      (Opens.after spells_accept.optional (Opens.after spells_star
        (Opens.after (spells_literal _) (opens_until ')')))))))
    fun _ _ sub member => sub.subset member

def cssRemovals : List Removal :=
  [tagRemoval, importRemoval cases, javascriptRemoval cases, expressionRemoval cases,
    declarationRemoval cases "-moz-binding" (by decide),
    declarationRemoval cases "behavior" (by decide), dataUrlRemoval cases]

def cssPatterns : List Pattern :=
  [htmlTag, importRule cases, javascriptUrl cases, expressionCall cases, mozBinding cases,
    behavior cases, dataUrl cases]

theorem cssRemovals_patterns : (cssRemovals cases).map Removal.pattern = cssPatterns cases := rfl

theorem sanitizeCustomCss_eq (css : Text) :
    sanitizeCustomCss cases (some css) = some (applyRemovals (cssRemovals cases) css) := by
  rw [applyRemovals_eq, cssRemovals_patterns]
  simp only [cssPatterns, List.foldl_cons, List.foldl_nil, sanitizeCustomCss]

/-- Nothing that is to be removed is left, and sanitizing once more changes nothing, exactly when
no removal joins for good what it or one before it is there to remove. -/
theorem sanitizeCustomCss_complete_iff (css : Text) :
    (∀ sanitized, sanitizeCustomCss cases (some css) = some sanitized →
        (∀ pattern ∈ cssPatterns cases, pattern.test sanitized = false) ∧
          sanitizeCustomCss cases (some sanitized) = some sanitized) ↔
      ¬LastingJoin [] (cssRemovals cases) css := by
  rw [← found_iff_lastingJoin, sanitizeCustomCss_eq]
  have clean_iff (text : Text) : (∀ pattern ∈ cssPatterns cases, pattern.test text = false) ↔
      ¬∃ removal ∈ cssRemovals cases, removal.Found text := by
    rw [← cssRemovals_patterns, List.forall_mem_map]
    simp only [Removal.found_iff_test, not_exists, not_and, Bool.not_eq_true]
  constructor
  · intro complete
    exact (clean_iff _).mp (complete _ rfl).1
  · intro clean sanitized same
    obtain rfl := Option.some.inj same
    refine ⟨(clean_iff _).mpr clean, ?_⟩
    rw [sanitizeCustomCss_eq, applyRemovals_of_none]
    intro removal known found
    exact clean ⟨removal, known, found⟩

end

/-- A URL of JavaScript that interrupts another one leaves it whole. -/
theorem interruptedUrl_left :
    sanitizeCustomCss CaseMapping.ascii (some ("javajavascript:script:" : String).toList) =
        some ("javascript:" : String).toList ∧
      (javascriptUrl CaseMapping.ascii).test ("javascript:" : String).toList = true := by
  refine ⟨?_, ?_⟩
  · decide +kernel
  · decide +kernel

end StoryEngine.Pages
