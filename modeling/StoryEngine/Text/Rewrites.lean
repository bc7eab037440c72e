import StoryEngine.Text.Basic

namespace StoryEngine.Text

/-! # Global replacements

A replacement goes through a text from the left and goes on behind what it has replaced.  It
keeps a text made of whole tokens so, if what it puts is made of whole tokens.
-/

/-- What a replacement finds at the beginning of a text: what it puts there, and what is left. -/
structure Hit where
  put : Text
  after : Text

def rewriteFrom (find : Text → Option Hit) : Nat → Text → Text
  | _, [] => []
  | taken + 1, _ :: rest => rewriteFrom find taken rest
  | 0, c :: rest =>
    match find (c :: rest) with
    | none => c :: rewriteFrom find 0 rest
    | some hit => hit.put ++ rewriteFrom find (rest.length - hit.after.length) rest

def rewrite (find : Text → Option Hit) (text : Text) : Text := rewriteFrom find 0 text

def behind (beginning text : Text) : Option Text :=
  if beginning.isPrefixOf text then some (text.drop beginning.length) else none

/-- `replace` of every occurrence of a text. -/
def replaceEvery (old new text : Text) : Text :=
  rewrite (fun text => (behind old text).map fun after => { put := new, after }) text

/-- Where `.` stops and `^` and `$` match. -/
def isLineEnd (c : Char) : Bool :=
  c == '\n' || c == '\r' || c.toNat == 0x2028 || c.toNat == 0x2029

/-- The text up to the first occurrence of another one in the same line, and what follows that:
`.*?` and the other text. -/
def upTo (close : Text) : Text → Option (Text × Text)
  | [] => none
  | c :: rest =>
    match behind close (c :: rest) with
    | some after => some ([], after)
    | none =>
      if isLineEnd c then none
      else (upTo close rest).map fun (between, after) => (c :: between, after)

/-- The same after one character at least: `.+?`. -/
def upToSolid (close : Text) : Text → Option (Text × Text)
  | [] => none
  | c :: rest =>
    if isLineEnd c then none
    else (upTo close rest).map fun (between, after) => (c :: between, after)

def mapLinesFrom (pass : Text → Text) (line : Text) : Text → Text
  | [] => pass line
  | c :: rest =>
    if isLineEnd c then pass line ++ c :: mapLinesFrom pass [] rest
    else mapLinesFrom pass (line ++ [c]) rest

/-- A replacement from `^` to `$`. -/
def mapLines (pass : Text → Text) (text : Text) : Text := mapLinesFrom pass [] text

section

variable {beginning text after close between : Text}

theorem behind_eq_some : behind beginning text = some after ↔ text = beginning ++ after := by
  simp only [behind, List.isPrefixOf_iff_prefix, Option.ite_none_right_eq_some, Option.some.injEq]
  constructor
  · rintro ⟨⟨rest, rfl⟩, rfl⟩
    rw [List.drop_left]
  · rintro rfl
    exact ⟨List.prefix_append _ _, List.drop_left⟩

theorem behind_other {c other : Char} {rest : Text} (differs : c ≠ other) :
    behind (other :: beginning) (c :: rest) = none := by
  rw [behind, if_neg]
  simp [Ne.symm differs]

theorem upTo_eq_some (found : upTo close text = some (between, after)) :
    text = between ++ (close ++ after) ∧ ∀ c ∈ between, isLineEnd c = false := by
  induction text generalizing between with
  | nil => cases found
  | cons c rest ih =>
    rw [upTo] at found
    split at found
    · next isBehind =>
        cases found
        exact ⟨by rw [behind_eq_some.mp isBehind, List.nil_append], by simp⟩
    · split at found
      · cases found
      · next inLine =>
          obtain ⟨⟨later, _⟩, isLater, same⟩ := Option.map_eq_some_iff.mp found
          cases same
          obtain ⟨parts, free⟩ := ih isLater
          refine ⟨by rw [parts, List.cons_append], ?_⟩
          intro d member
          rcases List.mem_cons.mp member with rfl | inRest
          · simpa using inLine
          · exact free d inRest

theorem upToSolid_eq_some (found : upToSolid close text = some (between, after)) :
    text = between ++ (close ++ after) ∧ between ≠ [] ∧
      ∀ c ∈ between, isLineEnd c = false := by
  cases text with
  | nil => cases found
  | cons c rest =>
    rw [upToSolid] at found
    split at found
    · cases found
    · next inLine =>
        obtain ⟨⟨later, _⟩, isLater, same⟩ := Option.map_eq_some_iff.mp found
        cases same
        obtain ⟨parts, free⟩ := upTo_eq_some isLater
        refine ⟨by rw [parts, List.cons_append], List.cons_ne_nil _ _, ?_⟩
        intro d member
        rcases List.mem_cons.mp member with rfl | inRest
        · simpa using inLine
        · exact free d inRest

end

/-- Tokens that begin with a mark; no mark and no character of the rest of a token is taken for
the other. -/
structure Tokens where
  isMark : Char → Bool
  isInner : Char → Bool
  tokens : List Text
  inner_unmarked : ∀ c, isInner c = true → isMark c = false
  bodies : ∀ token ∈ tokens, token.tail.all isInner = true

inductive Tokens.Whole (kinds : Tokens) : Text → Prop
  | nil : kinds.Whole []
  | cons {c : Char} {rest : Text}
      (starts : kinds.isMark c = true → ∃ token ∈ kinds.tokens, token <+: c :: rest)
      (later : kinds.Whole rest) : kinds.Whole (c :: rest)

section

variable {kinds : Tokens} {part tail text : Text}

theorem Tokens.whole_cons {c : Char} : kinds.Whole (c :: tail) ↔
    (kinds.isMark c = true → ∃ token ∈ kinds.tokens, token <+: c :: tail) ∧ kinds.Whole tail := by
  constructor
  · rintro (_ | ⟨starts, later⟩)
    exact ⟨starts, later⟩
  · rintro ⟨starts, later⟩
    exact .cons starts later

theorem Tokens.whole_iff : kinds.Whole text ↔ ∀ before c after, text = before ++ c :: after →
    kinds.isMark c = true → ∃ token ∈ kinds.tokens, token <+: c :: after := by
  induction text with
  | nil => simp [Tokens.Whole.nil]
  | cons c rest ih =>
    rw [Tokens.whole_cons, ih]
    constructor
    · rintro ⟨first, later⟩ before d after parts marked
      cases before with
      | nil =>
        cases parts
        exact first marked
      | cons e before =>
        cases parts
        exact later before d after rfl marked
    · intro all
      refine ⟨all [] c rest rfl, ?_⟩
      intro before d after parts
      exact all (c :: before) d after (by rw [parts, List.cons_append])

theorem Tokens.Whole.append (first : kinds.Whole part) (second : kinds.Whole tail) :
    kinds.Whole (part ++ tail) := by
  induction part with
  | nil => exact second
  | cons c rest ih =>
    obtain ⟨starts, later⟩ := whole_cons.mp first
    refine .cons ?_ (ih later)
    intro marked
    obtain ⟨token, isToken, begins⟩ := starts marked
    exact ⟨token, isToken, begins.trans (List.prefix_append (c :: rest) tail)⟩

theorem Tokens.Whole.right (whole : kinds.Whole (part ++ tail)) : kinds.Whole tail := by
  induction part with
  | nil => exact whole
  | cons c rest ih => exact ih (whole_cons.mp whole).2

theorem Tokens.Whole.left (whole : kinds.Whole (part ++ tail))
    (cut : tail.head?.all (kinds.isInner · == false) = true) : kinds.Whole part := by
  induction part with
  | nil => exact .nil
  | cons c rest ih =>
    obtain ⟨starts, later⟩ := whole_cons.mp whole
    refine .cons ?_ (ih later)
    intro marked
    obtain ⟨token, isToken, begins⟩ := starts marked
    refine ⟨token, isToken, ?_⟩
    rcases List.prefix_or_prefix_of_prefix begins (List.prefix_append (c :: rest) tail) with
      inside | ⟨beyond, rfl⟩
    · exact inside
    · replace begins : beyond <+: tail := (List.prefix_append_right_inj (c :: rest)).mp begins
      cases beyond with
      | nil => simp
      | cons d beyond =>
        -- a token that reaches over the cut has its next character there
        obtain ⟨later, rfl⟩ := begins
        have body := kinds.bodies _ isToken
        simp only [List.cons_append, List.tail_cons, List.all_append, List.all_cons,
          Bool.and_eq_true] at body
        simp [body.2.1] at cut

theorem Tokens.whole_of_unmarked (unmarked : ∀ c ∈ text, kinds.isMark c = false) :
    kinds.Whole text := by
  induction text with
  | nil => exact .nil
  | cons c rest ih =>
    refine .cons ?_ (ih fun d inRest => unmarked d (List.mem_cons_of_mem c inRest))
    intro marked
    rw [unmarked c List.mem_cons_self] at marked
    cases marked

theorem Tokens.whole_token {token : Text} (isToken : token ∈ kinds.tokens) :
    kinds.Whole token := by
  cases token with
  | nil => exact .nil
  | cons c body =>
    refine .cons (fun _ => ⟨c :: body, isToken, List.prefix_rfl⟩) (whole_of_unmarked ?_)
    intro d inBody
    exact kinds.inner_unmarked d (List.all_eq_true.mp (kinds.bodies _ isToken) d inBody)

end

section

variable {kinds : Tokens} {find : Text → Option Hit} {text : Text}

/-- A replacement that begins at no inner character and puts whole tokens. -/
structure Tokens.Keeps (kinds : Tokens) (find : Text → Option Hit) : Prop where
  starts : ∀ c rest, kinds.isInner c = true → find (c :: rest) = none
  puts : ∀ text hit, find text = some hit → kinds.Whole text → kinds.Whole hit.put

theorem rewriteFrom_inner (keeps : kinds.Keeps find) {body rest : Text}
    (inner : body.all kinds.isInner = true) :
    rewriteFrom find 0 (body ++ rest) = body ++ rewriteFrom find 0 rest := by
  induction body with
  | nil => rfl
  | cons c body ih =>
    rw [List.all_cons, Bool.and_eq_true] at inner
    rw [List.cons_append, rewriteFrom, keeps.starts c _ inner.1]
    simp only
    rw [ih inner.2, List.cons_append]

theorem Tokens.Keeps.rewriteFrom (keeps : kinds.Keeps find) (whole : kinds.Whole text)
    (taken : Nat) : kinds.Whole (rewriteFrom find taken text) := by
  induction text generalizing taken with
  | nil => exact .nil
  | cons c rest ih =>
    obtain ⟨starts, later⟩ := whole_cons.mp whole
    cases taken with
    | succ taken => exact ih later taken
    | zero =>
      rw [Text.rewriteFrom]
      split
      · next missed =>
          refine .cons ?_ (ih later 0)
          intro marked
          obtain ⟨token, isToken, begins⟩ := starts marked
          refine ⟨token, isToken, ?_⟩
          cases token with
          | nil => exact List.nil_prefix
          | cons d body =>
            obtain ⟨rfl, tail, rfl⟩ : d = c ∧ body <+: rest := List.cons_prefix_cons.mp begins
            have inner : body.all kinds.isInner = true := kinds.bodies _ isToken
            rw [rewriteFrom_inner keeps inner]
            exact List.prefix_append (d :: body) _
      · next hit found =>
          exact (keeps.puts _ hit found whole).append (ih later _)

theorem Tokens.Keeps.rewrite (keeps : kinds.Keeps find) (whole : kinds.Whole text) :
    kinds.Whole (rewrite find text) := keeps.rewriteFrom whole 0

theorem Tokens.Whole.mapLines
    (ends : ∀ c, isLineEnd c = true → kinds.isMark c = false ∧ kinds.isInner c = false)
    {pass : Text → Text} (keeps : ∀ line, kinds.Whole line → kinds.Whole (pass line))
    (whole : kinds.Whole text) : kinds.Whole (mapLines pass text) := by
  have lines : ∀ line, kinds.Whole (line ++ text) → kinds.Whole (mapLinesFrom pass line text) := by
    clear whole
    induction text with
    | nil =>
      intro line whole
      rw [List.append_nil] at whole
      exact keeps line whole
    | cons c rest ih =>
      intro line whole
      rw [mapLinesFrom]
      split
      · next isEnd =>
          obtain ⟨unmarked, cut⟩ := ends c isEnd
          have first : kinds.Whole line := whole.left (by simp [cut])
          refine (keeps line first).append (.cons ?_ (ih [] (whole_cons.mp whole.right).2))
          intro marked
          rw [unmarked] at marked
          cases marked
      · exact ih (line ++ [c]) (by simpa using whole)
  exact lines [] whole

theorem Tokens.Whole.before {separates : Char → Bool} {part tail : Text}
    (cut : ∀ c, separates c = true → kinds.isInner c = false)
    (ends : tail.head?.all separates = true) (whole : kinds.Whole (part ++ tail)) :
    kinds.Whole part := by
  refine whole.left ?_
  cases tail with
  | nil => rfl
  | cons c tail => simpa using cut c (by simpa using ends)

theorem Tokens.Whole.splitAt {separates : Char → Bool}
    (cut : ∀ c, separates c = true → kinds.isInner c = false) (whole : kinds.Whole text) :
    ∀ part ∈ splitAt separates text, kinds.Whole part := by
  have parts : ∃ first others, Text.splitAt separates text = first :: others ∧
      (∃ rest, text = first ++ rest ∧ rest.head?.all separates = true) ∧
        ∀ part ∈ others, kinds.Whole part := by
    induction text with
    | nil => exact ⟨[], [], rfl, ⟨[], rfl, rfl⟩, by simp⟩
    | cons c rest ih =>
      have inRest := (whole_cons.mp whole).2
      obtain ⟨first, others, split, ⟨tail, isRest, ends⟩, wholes⟩ := ih inRest
      rw [Text.splitAt, split]
      split
      · next separated =>
          refine ⟨[], first :: others, rfl, ⟨c :: rest, rfl, by simpa using separated⟩, ?_⟩
          intro part member
          rcases List.mem_cons.mp member with rfl | inOthers
          · have later : kinds.Whole (part ++ tail) := isRest ▸ inRest
            exact later.before cut ends
          · exact wholes part inOthers
      · exact ⟨c :: first, others, rfl, ⟨tail, by rw [isRest, List.cons_append], ends⟩, wholes⟩
  obtain ⟨first, others, split, ⟨tail, isText, ends⟩, wholes⟩ := parts
  intro part member
  rw [split] at member
  rcases List.mem_cons.mp member with rfl | inOthers
  · have all : kinds.Whole (part ++ tail) := isText ▸ whole
    exact all.before cut ends
  · exact wholes part inOthers

theorem Tokens.Whole.trim (cut : ∀ c, isSpace c = true → kinds.isInner c = false)
    (whole : kinds.Whole text) : kinds.Whole (trim text) := by
  obtain ⟨leading, trailing, parts, _, spaces⟩ := trim_decomposition text
  rw [parts] at whole
  have inside : kinds.Whole (leading ++ Text.trim text) := by
    refine whole.before cut ?_
    cases trailing with
    | nil => rfl
    | cons c trailing => simpa using spaces c List.mem_cons_self
  exact inside.right

end

end StoryEngine.Text
