import StoryEngine.Text.Rewrites

namespace StoryEngine.Pages

open Text

/-! # Markdown of a page

The converter of the public pages escapes a text and then rewrites it, pass after pass, over
what the earlier passes have inserted.
-/

def htmlEscapeMap : List (Char × Text) := [
  ('&', ("&amp;" : String)), ('<', ("&lt;" : String)), ('>', ("&gt;" : String)),
  ('"', ("&quot;" : String)), ('\'', ("&#39;" : String))]

def escapeEntity (c : Char) : Text := (htmlEscapeMap.lookup c).getD [c]

def escapeHtml (text : Text) : Text := text.flatMap escapeEntity

/-- `^marker(.+)$`, where the rest of the line goes between two tags. -/
def wrapLine (marker opening closing line : Text) : Text :=
  match behind marker line with
  | some (c :: rest) => opening ++ (c :: rest) ++ closing
  | _ => line

def headerLine (marker tag : Text) : Text → Text :=
  wrapLine marker ('<' :: tag ++ ['>']) ('<' :: '/' :: tag ++ ['>'])

def blockquoteLine : Text → Text :=
  wrapLine ("> " : String) ("<blockquote><p>" : String) ("</p></blockquote>" : String)

def listLine : Text → Text := wrapLine ("- " : String) ("<li>" : String) ("</li>" : String)

def ruleLine (line : Text) : Text :=
  if line = ("---" : String).toList then ("<hr>" : String) else line

def tableCell (cell : Text) : Text := ("<td>" : String).toList ++ trim cell ++ ("</td>" : String)

def tableLine (line : Text) : Text :=
  match line with
  | '|' :: c :: rest =>
    if rest.getLast? = some '|' then
      let cells := splitAt (· == '|') (c :: rest.dropLast)
      ("<tr>" : String).toList ++ cells.flatMap tableCell ++ ("</tr>" : String)
    else line
  | _ => line

/-- `mark(.+?)mark`. -/
def findSpan (mark opening closing text : Text) : Option Hit :=
  (behind mark text).bind fun inside =>
    (upToSolid mark inside).map fun (content, after) =>
      { put := opening ++ content ++ closing, after }

def bold : Text → Text :=
  rewrite (findSpan ("**" : String) ("<strong>" : String) ("</strong>" : String))

def italic : Text → Text := rewrite (findSpan ("*" : String) ("<em>" : String) ("</em>" : String))

/-- `<tag>.*?</tag>`, as it stands, and what follows. -/
def element (opening closing text : Text) : Option (Text × Text) :=
  (behind opening text).bind fun inside =>
    (upTo closing inside).map fun (content, after) => (opening ++ content ++ closing, after)

def group (item : Text → Option (Text × Text)) : Nat → Text → Text × Text
  | 0, text => ([], text)
  | fuel + 1, text =>
    match item text with
    | none => ([], text)
    | some (first, after) =>
      let (others, left) := group item fuel after
      (first ++ others, left)

/-- `<li>.*?</li>(?:<br>)?`. -/
def listItem (text : Text) : Option (Text × Text) :=
  (element ("<li>" : String) ("</li>" : String) text).map fun (item, after) =>
    match behind ("<br>" : String) after with
    | some left => (item ++ ("<br>" : String), left)
    | none => (item, after)

def findList (text : Text) : Option Hit :=
  (listItem text).map fun (first, after) =>
    let (others, left) := group listItem after.length after
    let items := replaceEvery ("<br>" : String) [] (first ++ others)
    { put := ("<ul>" : String).toList ++ items ++ ("</ul>" : String), after := left }

def tableRow : Text → Option (Text × Text) := element ("<tr>" : String) ("</tr>" : String)

/-- `\s*<tr>.*?</tr>`. -/
def nextRow (text : Text) : Option (Text × Text) :=
  (tableRow (text.dropWhile isSpace)).map fun (row, after) =>
    (text.takeWhile isSpace ++ row, after)

def findTable (text : Text) : Option Hit :=
  (tableRow text).map fun (first, after) =>
    let (others, left) := group nextRow after.length after
    { put := ("<table>" : String).toList ++ (first ++ others) ++ ("</table>" : String)
      after := left }

def findBare (before : Text) (tags : List Text) (closing text : Text) : Option Hit :=
  (behind before text).bind fun inside =>
    tags.findSome? fun tag =>
      (behind (tag ++ closing) inside).map fun after => { put := tag, after }

def paragraph : Text := ("<p>" : String)

def paragraphEnd : Text := ("</p>" : String)

def bareBefore (tags : List Text) : Text → Text := rewrite (findBare paragraph tags [])

def bareAfter (tags : List Text) : Text → Text := rewrite (findBare [] tags paragraphEnd)

def headerTags : List Text :=
  [("<h1>" : String), ("<h2>" : String), ("<h3>" : String), ("<h4>" : String)]

def headerEnds : List Text :=
  [("</h1>" : String), ("</h2>" : String), ("</h3>" : String), ("</h4>" : String)]

def convertLines (text : Text) : Text :=
  let text := mapLines (headerLine ("#### " : String) ("h4" : String)) text
  let text := mapLines (headerLine ("### " : String) ("h3" : String)) text
  let text := mapLines (headerLine ("## " : String) ("h2" : String)) text
  let text := mapLines (headerLine ("# " : String) ("h1" : String)) text
  let text := bold text
  let text := italic text
  let text := mapLines blockquoteLine text
  let text := mapLines listLine text
  let text := mapLines ruleLine text
  mapLines tableLine text

def convertBreaks (text : Text) : Text :=
  let text := replaceEvery ("\n\n" : String) ("</p><p>" : String) text
  replaceEvery ("\n" : String) ("<br>" : String) text

def cleanParagraphs (text : Text) : Text :=
  let text := replaceEvery ("<p></p>" : String) [] text
  let text := bareBefore headerTags text
  let text := bareAfter headerEnds text
  let text := bareBefore [("<blockquote>" : String)] text
  let text := bareAfter [("</blockquote>" : String)] text
  let text := bareBefore [("<ul>" : String)] text
  let text := bareAfter [("</ul>" : String)] text
  rewrite (findBare paragraph [("<hr>" : String)] paragraphEnd) text

def markdownToHtml (md : Text) : Text :=
  let html := convertBreaks (convertLines (escapeHtml md))
  let html := rewrite findList html
  let html := cleanParagraphs (paragraph ++ html ++ paragraphEnd)
  rewrite findTable html

def otherTags : List Text := [
  ("<strong>" : String), ("</strong>" : String), ("<em>" : String), ("</em>" : String),
  ("<blockquote>" : String), ("</blockquote>" : String), ("<p>" : String), ("</p>" : String),
  ("<li>" : String), ("</li>" : String), ("<ul>" : String), ("</ul>" : String),
  ("<hr>" : String), ("<br>" : String), ("<table>" : String), ("</table>" : String),
  ("<tr>" : String), ("</tr>" : String), ("<td>" : String), ("</td>" : String)]

def insertedTags : List Text := headerTags ++ headerEnds ++ otherTags

/-- The entities that `escapeHtml` produces. -/
def escapeEntities : List Text := htmlEscapeMap.map (·.2)

def isTagChar (c : Char) : Bool :=
  c.isLower || c.isDigit || c == '/' || c == '>' || c == '#' || c == ';'

def htmlTokens : Tokens where
  isMark c := c == '<' || c == '&'
  isInner := isTagChar
  tokens := insertedTags ++ escapeEntities
  inner_unmarked := by
    intro c inner
    by_contra marked
    rw [Bool.not_eq_false, Bool.or_eq_true, beq_iff_eq, beq_iff_eq] at marked
    rcases marked with rfl | rfl
    · exact absurd inner (by decide)
    · exact absurd inner (by decide)
  bodies := by
    have all : (insertedTags ++ escapeEntities).all (·.tail.all isTagChar) = true := by
      decide +kernel
    exact fun token isToken => List.all_eq_true.mp all token isToken


section

variable {text line marker opening closing mark after : Text}

theorem whole_tag (isTag : text ∈ insertedTags) : htmlTokens.Whole text :=
  Tokens.whole_token (List.mem_append_left _ isTag)

theorem isTagChar_range {c : Char} (inner : isTagChar c = true) :
    35 ≤ c.toNat ∧ c.toNat ≤ 122 := by
  simp only [isTagChar, Char.isDigit, Bool.or_eq_true, Bool.and_eq_true, decide_eq_true_eq,
    beq_iff_eq, ge_iff_le, UInt32.le_iff_toNat_le] at inner
  rcases inner with ((((lower | digit) | rfl) | rfl) | rfl) | rfl
  · obtain ⟨first, last⟩ := Bool.and_eq_true_iff.mp lower
    have above : 97 ≤ c.toNat := UInt32.le_iff_toNat_le.mp (of_decide_eq_true first)
    have below : c.toNat ≤ 122 := UInt32.le_iff_toNat_le.mp (of_decide_eq_true last)
    omega
  · have above : 48 ≤ c.toNat := digit.1
    have below : c.toNat ≤ 57 := digit.2
    omega
  all_goals decide

theorem isTagChar_of_isSpace (c : Char) (space : isSpace c = true) : isTagChar c = false := by
  by_contra inner
  rw [Bool.not_eq_false] at inner
  have range := isTagChar_range inner
  simp only [isSpace, Bool.or_eq_true, Bool.and_eq_true, decide_eq_true_eq, beq_iff_eq] at space
  omega

theorem isSpace_of_isLineEnd {c : Char} (isEnd : isLineEnd c = true) : isSpace c = true := by
  simp only [isLineEnd, Bool.or_eq_true, beq_iff_eq] at isEnd
  simp only [isSpace, Bool.or_eq_true, Bool.and_eq_true, decide_eq_true_eq, beq_iff_eq]
  rcases isEnd with ((rfl | rfl) | wide) | wide
  · decide
  · decide
  · omega
  · omega

theorem isMark_of_isSpace {c : Char} (space : isSpace c = true) : htmlTokens.isMark c = false := by
  by_contra marked
  simp only [htmlTokens, Bool.not_eq_false, Bool.or_eq_true, beq_iff_eq] at marked
  rcases marked with rfl | rfl
  · exact absurd space (by decide)
  · exact absurd space (by decide)

theorem whole_escapeEntity (c : Char) : htmlTokens.Whole (escapeEntity c) := by
  rw [escapeEntity]
  cases found : htmlEscapeMap.lookup c with
  | some entity =>
    obtain ⟨before, after, parts, _⟩ := List.lookup_eq_some_iff.mp found
    have listed : (c, entity) ∈ htmlEscapeMap := by
      rw [parts]
      exact List.mem_append_right _ List.mem_cons_self
    exact Tokens.whole_token (List.mem_append_right _ (List.mem_map_of_mem listed))
  | none =>
    apply Tokens.whole_of_unmarked
    intro d member
    obtain rfl : d = c := List.mem_singleton.mp member
    by_contra marked
    rw [Bool.not_eq_false, htmlTokens, Bool.or_eq_true, beq_iff_eq, beq_iff_eq] at marked
    rcases marked with rfl | rfl
    · cases found
    · cases found

theorem whole_escapeHtml (text : Text) : htmlTokens.Whole (escapeHtml text) := by
  induction text with
  | nil => exact .nil
  | cons c rest ih => exact (whole_escapeEntity c).append ih

theorem whole_wrapLine (whole : htmlTokens.Whole line) (first : htmlTokens.Whole opening)
    (last : htmlTokens.Whole closing) :
    htmlTokens.Whole (wrapLine marker opening closing line) := by
  rw [wrapLine]
  split
  · next c rest isBehind =>
      have inside : htmlTokens.Whole (marker ++ c :: rest) := behind_eq_some.mp isBehind ▸ whole
      exact (first.append inside.right).append last
  · exact whole

theorem whole_headerLine {tag : Text} (whole : htmlTokens.Whole line)
    (isTag : ('<' :: tag ++ ['>']) ∈ insertedTags ∧ ('<' :: '/' :: tag ++ ['>']) ∈ insertedTags) :
    htmlTokens.Whole (headerLine marker tag line) :=
  whole_wrapLine whole (whole_tag isTag.1) (whole_tag isTag.2)

theorem whole_blockquoteLine (whole : htmlTokens.Whole line) :
    htmlTokens.Whole (blockquoteLine line) := by
  apply whole_wrapLine whole
  · have opening : htmlTokens.Whole ("<blockquote>" : String).toList := whole_tag (by decide)
    exact opening.append (whole_tag (by decide))
  · have closing : htmlTokens.Whole ("</p>" : String).toList := whole_tag (by decide)
    exact closing.append (whole_tag (by decide))

theorem whole_listLine (whole : htmlTokens.Whole line) : htmlTokens.Whole (listLine line) :=
  whole_wrapLine whole (whole_tag (by decide)) (whole_tag (by decide))

theorem whole_ruleLine (whole : htmlTokens.Whole line) : htmlTokens.Whole (ruleLine line) := by
  rw [ruleLine]
  split
  · exact whole_tag (by decide)
  · exact whole

theorem whole_tableLine (whole : htmlTokens.Whole line) : htmlTokens.Whole (tableLine line) := by
  unfold tableLine
  split
  · next c rest =>
      split
      · next closes =>
          obtain ⟨content, rfl⟩ := List.getLast?_eq_some_iff.mp closes
          rw [List.dropLast_concat]
          have inside : htmlTokens.Whole (c :: content) := by
            have closed : htmlTokens.Whole ((c :: content) ++ ['|']) :=
              (Tokens.whole_cons.mp whole).2
            exact closed.left (by decide)
          have cells : htmlTokens.Whole ((splitAt (· == '|') (c :: content)).flatMap tableCell) := by
            have symbol : ∀ d, (d == '|') = true → htmlTokens.isInner d = false := by
              intro d isBar
              rw [beq_iff_eq] at isBar
              subst isBar
              decide
            have each := inside.splitAt symbol
            generalize splitAt (· == '|') (c :: content) = parts at each
            induction parts with
            | nil => exact .nil
            | cons cell parts ih =>
              rw [List.flatMap_cons]
              refine Tokens.Whole.append (Tokens.Whole.append (Tokens.Whole.append ?_ ?_) ?_) ?_
              · exact whole_tag (by decide)
              · exact (each cell List.mem_cons_self).trim isTagChar_of_isSpace
              · exact whole_tag (by decide)
              · exact ih fun part inRest => each part (List.mem_cons_of_mem cell inRest)
          exact ((whole_tag (by decide)).append cells).append (whole_tag (by decide))
      · exact whole
  · exact whole

theorem keeps_findSpan (first : htmlTokens.Whole opening) (last : htmlTokens.Whole closing) :
    htmlTokens.Keeps (findSpan ('*' :: mark) opening closing) where
  starts := by
    intro c rest inner
    have other : c ≠ '*' := by
      rintro rfl
      exact absurd inner (by decide)
    rw [findSpan, behind_other other, Option.bind_none]
  puts := by
    intro text hit found whole
    simp only [findSpan, Option.bind_eq_some_iff, Option.map_eq_some_iff] at found
    obtain ⟨inside, isInside, ⟨content, after⟩, isContent, rfl⟩ := found
    rw [behind_eq_some.mp isInside, (upToSolid_eq_some isContent).1] at whole
    have content : htmlTokens.Whole content := whole.right.left (by simp [htmlTokens]; decide)
    exact (first.append content).append last

variable {old : Char} {before : Text} {tags : List Text}

theorem keeps_replaceEvery (rest : Text) (starts : isTagChar old = false)
    (new : htmlTokens.Whole text) :
    htmlTokens.Keeps fun html => (behind (old :: rest) html).map fun after =>
      { put := text, after } where
  starts := by
    intro c html inner
    have other : c ≠ old := by
      rintro rfl
      exact absurd inner (by simp [htmlTokens, starts])
    rw [behind_other other, Option.map_none]
  puts := by
    intro html hit found _
    obtain ⟨after, _, rfl⟩ := Option.map_eq_some_iff.mp found
    exact new

def KeepsItem (item : Text → Option (Text × Text)) : Prop :=
  ∀ text first after, item text = some (first, after) → htmlTokens.Whole text →
    htmlTokens.Whole first ∧ htmlTokens.Whole after

theorem keepsItem_element {inner : Text} (first : htmlTokens.Whole opening)
    (last : htmlTokens.Whole ('<' :: inner)) : KeepsItem (element opening ('<' :: inner)) := by
  intro text taken after found whole
  simp only [element, Option.bind_eq_some_iff, Option.map_eq_some_iff] at found
  obtain ⟨inside, isInside, ⟨content, left⟩, isContent, same⟩ := found
  cases same
  rw [behind_eq_some.mp isInside, (upTo_eq_some isContent).1] at whole
  have content : htmlTokens.Whole content := whole.right.left (by simp [htmlTokens]; decide)
  exact ⟨(first.append content).append last, whole.right.right.right⟩

theorem whole_group {item : Text → Option (Text × Text)} (keeps : KeepsItem item) (fuel : Nat)
    (whole : htmlTokens.Whole text) : htmlTokens.Whole (group item fuel text).1 := by
  induction fuel generalizing text with
  | zero => exact .nil
  | succ fuel ih =>
    rw [group]
    split
    · exact .nil
    · next first after found =>
        obtain ⟨taken, left⟩ := keeps text first after found whole
        exact taken.append (ih left)

theorem keepsItem_listItem : KeepsItem listItem := by
  intro text taken after found whole
  obtain ⟨⟨item, left⟩, isItem, same⟩ := Option.map_eq_some_iff.mp found
  obtain ⟨wholeItem, wholeLeft⟩ :=
    keepsItem_element (whole_tag (by decide)) (whole_tag (by decide)) text item _ isItem whole
  simp only at same
  split at same
  · next rest isBreak =>
      cases same
      rw [behind_eq_some.mp isBreak] at wholeLeft
      exact ⟨wholeItem.append (whole_tag (by decide)), wholeLeft.right⟩
  · cases same
    exact ⟨wholeItem, wholeLeft⟩

theorem keepsItem_tableRow : KeepsItem tableRow :=
  keepsItem_element (whole_tag (by decide)) (whole_tag (by decide))

theorem keepsItem_nextRow : KeepsItem nextRow := by
  intro text taken after found whole
  obtain ⟨⟨row, left⟩, isRow, same⟩ := Option.map_eq_some_iff.mp found
  cases same
  rw [← List.takeWhile_append_dropWhile (p := isSpace) (l := text)] at whole
  obtain ⟨wholeRow, wholeLeft⟩ := keepsItem_tableRow _ row _ isRow whole.right
  refine ⟨Tokens.Whole.append (Tokens.whole_of_unmarked ?_) wholeRow, wholeLeft⟩
  intro c member
  exact isMark_of_isSpace (List.mem_takeWhile_imp member)

theorem element_other {c : Char} {inner rest : Text} (other : c ≠ '<') :
    element ('<' :: inner) closing (c :: rest) = none := by
  rw [element, behind_other other, Option.bind_none]

theorem isTagChar_ne {c : Char} (inner : htmlTokens.isInner c = true) : c ≠ '<' := by
  rintro rfl
  exact absurd inner (by decide)

theorem keeps_findList : htmlTokens.Keeps findList where
  starts := by
    intro c rest inner
    have none : listItem (c :: rest) = none := by
      have missed : element ("<li>" : String) ("</li>" : String) (c :: rest) = none :=
        element_other (isTagChar_ne inner)
      rw [listItem, missed, Option.map_none]
    rw [findList, none, Option.map_none]
  puts := by
    intro text hit found whole
    obtain ⟨⟨first, after⟩, isItem, rfl⟩ := Option.map_eq_some_iff.mp found
    obtain ⟨wholeFirst, wholeAfter⟩ := keepsItem_listItem text first after isItem whole
    have others := whole_group keepsItem_listItem after.length wholeAfter
    have drops : htmlTokens.Keeps fun html =>
        (behind ('<' :: ("br>" : String)) html).map fun after => { put := [], after } :=
      keeps_replaceEvery _ (by decide) .nil
    have items := drops.rewrite (wholeFirst.append others)
    exact ((whole_tag (by decide)).append items).append (whole_tag (by decide))

theorem keeps_findTable : htmlTokens.Keeps findTable where
  starts := by
    intro c rest inner
    have missed : tableRow (c :: rest) = none := element_other (isTagChar_ne inner)
    rw [findTable, missed, Option.map_none]
  puts := by
    intro text hit found whole
    obtain ⟨⟨first, after⟩, isRow, rfl⟩ := Option.map_eq_some_iff.mp found
    obtain ⟨wholeFirst, wholeAfter⟩ := keepsItem_tableRow text first after isRow whole
    have others := whole_group keepsItem_nextRow after.length wholeAfter
    exact ((whole_tag (by decide)).append (wholeFirst.append others)).append
      (whole_tag (by decide))

theorem findBare_eq_some {hit : Hit}
    (found : findBare before tags closing text = some hit) :
    ∃ tag ∈ tags, text = before ++ (tag ++ (closing ++ hit.after)) ∧ hit.put = tag := by
  simp only [findBare, Option.bind_eq_some_iff] at found
  obtain ⟨inside, isInside, isTag⟩ := found
  obtain ⟨tag, listed, isBehind⟩ := List.exists_of_findSome?_eq_some isTag
  obtain ⟨after, isAfter, rfl⟩ := Option.map_eq_some_iff.mp isBehind
  refine ⟨tag, listed, ?_, rfl⟩
  rw [behind_eq_some.mp isInside, behind_eq_some.mp isAfter, List.append_assoc]

theorem keeps_findBare
    (opens : tags.all (fun tag => (before ++ tag).head? == some '<') = true)
    (inserted : ∀ tag ∈ tags, tag ∈ insertedTags) :
    htmlTokens.Keeps (findBare before tags closing) where
  starts := by
    intro c rest inner
    cases found : findBare before tags closing (c :: rest) with
    | none => rfl
    | some hit =>
      obtain ⟨tag, listed, parts, _⟩ := findBare_eq_some found
      have first := List.all_eq_true.mp opens tag listed
      rw [← List.append_assoc] at parts
      cases whole : before ++ tag with
      | nil => simp [whole] at first
      | cons d others =>
        rw [whole] at parts first
        cases parts
        exact absurd (by simpa using first) (isTagChar_ne inner)
  puts := by
    intro text hit found _
    obtain ⟨tag, listed, _, isTag⟩ := findBare_eq_some found
    rw [isTag]
    exact whole_tag (inserted tag listed)

theorem whole_bold (whole : htmlTokens.Whole text) : htmlTokens.Whole (bold text) := by
  have keeps : htmlTokens.Keeps (findSpan ['*', '*'] ("<strong>" : String) ("</strong>" : String)) :=
    keeps_findSpan (whole_tag (by decide)) (whole_tag (by decide))
  exact keeps.rewrite whole

theorem whole_italic (whole : htmlTokens.Whole text) : htmlTokens.Whole (italic text) := by
  have keeps : htmlTokens.Keeps (findSpan ['*'] ("<em>" : String) ("</em>" : String)) :=
    keeps_findSpan (whole_tag (by decide)) (whole_tag (by decide))
  exact keeps.rewrite whole

theorem whole_mapLines {pass : Text → Text}
    (keeps : ∀ line, htmlTokens.Whole line → htmlTokens.Whole (pass line))
    (whole : htmlTokens.Whole text) : htmlTokens.Whole (mapLines pass text) := by
  refine whole.mapLines ?_ keeps
  intro c isEnd
  have space := isSpace_of_isLineEnd isEnd
  exact ⟨isMark_of_isSpace space, isTagChar_of_isSpace c space⟩

theorem whole_convertLines (whole : htmlTokens.Whole text) :
    htmlTokens.Whole (convertLines text) := by
  simp only [convertLines]
  apply whole_mapLines fun line => whole_tableLine
  apply whole_mapLines fun line => whole_ruleLine
  apply whole_mapLines fun line => whole_listLine
  apply whole_mapLines fun line => whole_blockquoteLine
  apply whole_italic
  apply whole_bold
  apply whole_mapLines fun line wholeLine => whole_headerLine wholeLine (by decide)
  apply whole_mapLines fun line wholeLine => whole_headerLine wholeLine (by decide)
  apply whole_mapLines fun line wholeLine => whole_headerLine wholeLine (by decide)
  apply whole_mapLines fun line wholeLine => whole_headerLine wholeLine (by decide)
  exact whole

theorem whole_replaceEvery (rest new : Text) (starts : isTagChar old = false)
    (wholeNew : htmlTokens.Whole new) (whole : htmlTokens.Whole text) :
    htmlTokens.Whole (replaceEvery (old :: rest) new text) :=
  (keeps_replaceEvery rest starts wholeNew).rewrite whole

theorem whole_convertBreaks (whole : htmlTokens.Whole text) :
    htmlTokens.Whole (convertBreaks text) := by
  simp only [convertBreaks]
  apply whole_replaceEvery [] _ (by decide) (whole_tag (by decide))
  apply whole_replaceEvery ['\n'] _ (by decide) _ whole
  have closing : htmlTokens.Whole ("</p>" : String).toList := whole_tag (by decide)
  exact closing.append (whole_tag (by decide))

theorem whole_findBare
    (opens : tags.all (fun tag => (before ++ tag).head? == some '<') = true)
    (inserted : ∀ tag ∈ tags, tag ∈ insertedTags) (whole : htmlTokens.Whole text) :
    htmlTokens.Whole (rewrite (findBare before tags closing) text) :=
  (keeps_findBare opens inserted).rewrite whole

theorem whole_cleanParagraphs (whole : htmlTokens.Whole text) :
    htmlTokens.Whole (cleanParagraphs text) := by
  simp only [cleanParagraphs, bareBefore, bareAfter]
  apply whole_findBare (by decide) (by decide)
  apply whole_findBare (by decide) (by decide)
  apply whole_findBare (by decide) (by decide)
  apply whole_findBare (by decide) (by decide)
  apply whole_findBare (by decide) (by decide)
  apply whole_findBare (by decide) (by decide)
  apply whole_findBare (by decide) (by decide)
  exact whole_replaceEvery ("p></p>" : String) [] (by decide) .nil whole

end

theorem whole_markdownToHtml (md : Text) : htmlTokens.Whole (markdownToHtml md) := by
  have lines := whole_convertBreaks (whole_convertLines (whole_escapeHtml md))
  rw [markdownToHtml]
  generalize convertBreaks (convertLines (escapeHtml md)) = html at lines
  have first : paragraph ∈ insertedTags := by decide
  have last : paragraphEnd ∈ insertedTags := by decide
  have items := keeps_findList.rewrite lines
  have wrapped := ((whole_tag first).append items).append (whole_tag last)
  have cleaned := whole_cleanParagraphs wrapped
  exact keeps_findTable.rewrite cleaned

/-- Whatever the text, every `<` of the page begins a tag that the converter inserts, and every
`&` an entity that stands for an escaped character. -/
theorem markdownToHtml_injects_nothing (md before after : Text) :
    (markdownToHtml md = before ++ '<' :: after → ∃ tag ∈ insertedTags, tag <+: '<' :: after) ∧
      (markdownToHtml md = before ++ '&' :: after →
        ∃ entity ∈ escapeEntities, entity <+: '&' :: after) := by
  have whole := whole_markdownToHtml md
  generalize markdownToHtml md = html at whole
  have marked : ∀ before c after, html = before ++ c :: after → htmlTokens.isMark c = true →
      ∃ token ∈ insertedTags ++ escapeEntities, token <+: c :: after := Tokens.whole_iff.mp whole
  have tags : insertedTags.all (fun tag => tag.head? == some '<') = true := by decide +kernel
  have entities : escapeEntities.all (fun entity => entity.head? == some '&') = true := by
    decide +kernel
  constructor
  · intro parts
    obtain ⟨token, isToken, begins⟩ := marked before '<' after parts (by decide)
    rcases List.mem_append.mp isToken with isTag | isEntity
    · exact ⟨token, isTag, begins⟩
    · have first := List.all_eq_true.mp entities token isEntity
      obtain ⟨rest, same⟩ := begins
      cases token with
      | nil => cases first
      | cons c inner =>
        cases same
        simp at first
  · intro parts
    obtain ⟨token, isToken, begins⟩ := marked before '&' after parts (by decide)
    rcases List.mem_append.mp isToken with isTag | isEntity
    · have first := List.all_eq_true.mp tags token isTag
      obtain ⟨rest, same⟩ := begins
      cases token with
      | nil => cases first
      | cons c inner =>
        cases same
        simp at first
    · exact ⟨token, isEntity, begins⟩

end StoryEngine.Pages
