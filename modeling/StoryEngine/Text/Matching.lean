import StoryEngine.Text.Pattern
import Mathlib.Tactic.Tauto

namespace StoryEngine.Text

/-! # Rules for matching and replacing -/

/-- A later cursor of the same text, after reading what lies between. -/
def Cursor.Reaches (cursor later : Cursor) : Prop :=
  ∃ read, cursor.ahead = read ++ later.ahead ∧ later.behind = read.reverse ++ cursor.behind

theorem Cursor.Reaches.refl (cursor : Cursor) : cursor.Reaches cursor := ⟨[], rfl, rfl⟩

theorem Cursor.Reaches.trans {first second third : Cursor}
    (before : first.Reaches second) (after : second.Reaches third) : first.Reaches third := by
  obtain ⟨read, ahead, behind⟩ := before
  obtain ⟨next, ahead', behind'⟩ := after
  exact ⟨read ++ next, by rw [ahead, ahead', List.append_assoc],
    by rw [behind', behind, List.reverse_append, List.append_assoc]⟩

theorem Cursor.Reaches.ahead_eq {cursor later : Cursor} (reaches : cursor.Reaches later) :
    cursor.ahead = cursor.upTo later ++ later.ahead := by
  obtain ⟨read, ahead, _⟩ := reaches
  have width : cursor.ahead.length - later.ahead.length = read.length := by
    rw [ahead, List.length_append, Nat.add_sub_cancel]
  rw [Cursor.upTo, width, ahead, List.take_left]

private theorem repeatEnds_reaches {body : Cursor → List Cursor}
    (sound : ∀ cursor, ∀ next ∈ body cursor, cursor.Reaches next) (fuel : Nat) :
    ∀ cursor, ∀ next ∈ repeatEnds body fuel cursor, cursor.Reaches next := by
  induction fuel with
  | zero =>
    intro cursor next member
    rw [List.mem_singleton.mp member]
    exact .refl cursor
  | succ fuel ih =>
    intro cursor next member
    rcases List.mem_append.mp member with later | same
    · obtain ⟨middle, inBody, inRest⟩ := List.mem_flatMap.mp later
      exact (sound cursor middle (List.mem_of_mem_filter inBody)).trans (ih middle next inRest)
    · rw [List.mem_singleton.mp same]
      exact .refl cursor

namespace Pattern

theorem ends_reaches (pattern : Pattern) :
    ∀ cursor, ∀ next ∈ pattern.ends cursor, cursor.Reaches next := by
  induction pattern with
  | empty =>
    intro cursor next member
    rw [List.mem_singleton.mp member]
    exact .refl cursor
  | accept accepts =>
    intro cursor next member
    unfold ends at member
    split at member
    · cases member
    · rename_i c rest ahead
      split at member
      · rw [List.mem_singleton.mp member]
        exact ⟨[c], by rw [ahead]; rfl, rfl⟩
      · cases member
  | wordBoundary =>
    intro cursor next member
    unfold ends at member
    split at member
    · rw [List.mem_singleton.mp member]
      exact .refl cursor
    · cases member
  | atStart =>
    intro cursor next member
    unfold ends at member
    split at member
    · rw [List.mem_singleton.mp member]
      exact .refl cursor
    · cases member
  | atEnd =>
    intro cursor next member
    unfold ends at member
    split at member
    · rw [List.mem_singleton.mp member]
      exact .refl cursor
    · cases member
  | seq first second firstIH secondIH =>
    intro cursor next member
    obtain ⟨middle, before, after⟩ := List.mem_flatMap.mp member
    exact (firstIH cursor middle before).trans (secondIH middle next after)
  | alt first second firstIH secondIH =>
    intro cursor next member
    rcases List.mem_append.mp member with left | right
    · exact firstIH cursor next left
    · exact secondIH cursor next right
  | star body ih => exact fun cursor => repeatEnds_reaches ih cursor.ahead.length cursor
  | group body ih =>
    intro cursor next member
    obtain ⟨inner, found, rfl⟩ := List.mem_map.mp member
    exact ih cursor inner found
  | notAhead body ih =>
    intro cursor next member
    unfold ends at member
    split at member
    · rw [List.mem_singleton.mp member]
      exact .refl cursor
    · cases member
  | backReference =>
    intro cursor next member
    unfold ends at member
    dsimp only at member
    split at member
    · next isPrefix =>
        obtain ⟨rest, ahead⟩ := List.isPrefixOf_iff_prefix.mp isPrefix
        rw [List.mem_singleton.mp member]
        exact ⟨cursor.captured.getD [], by rw [← ahead, List.drop_left], rfl⟩
    · cases member

def Piece.source : Piece → Text
  | .plain c => [c]
  | .hit _ matched _ _ => matched

def passes (pattern : Pattern) (fuel : Nat) (cursor : Cursor) : List Piece :=
  match cursor.ahead with
  | [] => []
  | c :: rest => .plain c :: pattern.scanFrom fuel { behind := c :: cursor.behind, ahead := rest }

/-- One turn of a scan: it passes a character, or reads a match and goes on behind it, or passes
a character after a match that reads nothing. -/
theorem scanFrom_turn (pattern : Pattern) (fuel : Nat) (cursor : Cursor) :
    (pattern.ends cursor = [] ∧
        pattern.scanFrom (fuel + 1) cursor = pattern.passes fuel cursor) ∨
      ∃ next ∈ pattern.ends cursor, (pattern.ends cursor).head? = some next ∧
        (next.ahead.length < cursor.ahead.length ∧ pattern.scanFrom (fuel + 1) cursor =
            .hit cursor.behind (cursor.upTo next) next.ahead next.captured ::
              pattern.scanFrom fuel { next with captured := none } ∨
          ¬next.ahead.length < cursor.ahead.length ∧ pattern.scanFrom (fuel + 1) cursor =
            .hit cursor.behind [] cursor.ahead next.captured :: pattern.passes fuel cursor) := by
  cases found : (pattern.ends cursor).head? with
  | none =>
    refine .inl ⟨List.head?_eq_none_iff.mp found, ?_⟩
    simp only [scanFrom, found]
    rfl
  | some next =>
    refine .inr ⟨next, List.mem_of_mem_head? found, rfl, ?_⟩
    by_cases less : next.ahead.length < cursor.ahead.length
    · refine .inl ⟨less, ?_⟩
      simp only [scanFrom, found, if_pos less]
    · refine .inr ⟨less, ?_⟩
      simp only [scanFrom, found, if_neg less]
      rfl

theorem scanFrom_source (pattern : Pattern) (fuel : Nat) (cursor : Cursor) :
    (pattern.scanFrom fuel cursor).flatMap Piece.source = cursor.ahead := by
  induction fuel generalizing cursor with
  | zero => simp [scanFrom, List.flatMap_map, Piece.source]
  | succ fuel ih =>
    have passed : (pattern.passes fuel cursor).flatMap Piece.source = cursor.ahead := by
      rw [passes]
      split
      · rename_i finished
        rw [finished]
        rfl
      · rename_i c rest unread
        simp [Piece.source, ih, unread]
    rcases pattern.scanFrom_turn fuel cursor with
      ⟨_, turn⟩ | ⟨next, inEnds, _, ⟨_, turn⟩ | ⟨_, turn⟩⟩
    · rw [turn]
      exact passed
    · rw [turn, List.flatMap_cons, ih]
      exact (pattern.ends_reaches cursor next inEnds).ahead_eq.symm
    · rw [turn]
      exact passed

variable {pattern : Pattern} {cases : CaseMapping}

theorem scanFrom_hit_mem {fuel : Nat} {cursor : Cursor}
    {behind matched ahead : Text} {captured : Option Text}
    (member : .hit behind matched ahead captured ∈ pattern.scanFrom fuel cursor) :
    ∀ c, c ∈ behind ∨ c ∈ matched ∨ c ∈ ahead → c ∈ cursor.behind ∨ c ∈ cursor.ahead := by
  induction fuel generalizing cursor with
  | zero => simp [scanFrom] at member
  | succ fuel ih =>
    have passed (later : .hit behind matched ahead captured ∈ pattern.passes fuel cursor) :
        ∀ c, c ∈ behind ∨ c ∈ matched ∨ c ∈ ahead → c ∈ cursor.behind ∨ c ∈ cursor.ahead := by
      rw [passes] at later
      split at later
      · cases later
      · rename_i first rest split
        simp only [List.mem_cons, reduceCtorEq, false_or] at later
        intro c inside
        have found := ih later c inside
        simp only [List.mem_cons] at found
        rw [split, List.mem_cons]
        tauto
    rcases pattern.scanFrom_turn fuel cursor with
      ⟨_, turn⟩ | ⟨next, inEnds, _, ⟨_, turn⟩ | ⟨_, turn⟩⟩
    · rw [turn] at member
      exact passed member
    · obtain ⟨read, aheadEq, behindEq⟩ := pattern.ends_reaches cursor next inEnds
      rw [turn] at member
      rcases List.mem_cons.mp member with same | later
      · cases same
        intro c inside
        rcases inside with inside | inside | inside
        · exact .inl inside
        · exact .inr (List.mem_of_mem_take inside)
        · exact .inr (by simp [aheadEq, inside])
      · intro c inside
        have found := ih later c inside
        simp only [behindEq, List.mem_append, List.mem_reverse] at found
        rw [aheadEq, List.mem_append]
        tauto
    · rw [turn] at member
      rcases List.mem_cons.mp member with same | later
      · cases same
        intro c inside
        simpa using inside
      · exact passed later

theorem mem_expand {c : Char} {matched behind ahead replacement : Text}
    (member : c ∈ expand matched behind ahead replacement) :
    c ∈ replacement ∨ c ∈ behind ∨ c ∈ matched ∨ c ∈ ahead := by
  induction replacement using expand.induct with
  | case1 => simp [expand] at member
  | case2 d => simp_all [expand]
  | _ => 
    simp_all [expand]
    try grind

/-- A replacement brings in no characters but those of the text and of the
replacement template. -/
theorem mem_replace {c : Char} {replacement text : Text}
    (member : c ∈ pattern.replace replacement text) : c ∈ text ∨ c ∈ replacement := by
  obtain ⟨piece, inScan, rendered⟩ := List.mem_flatMap.mp member
  have whole := pattern.scanFrom_source (text.length + 1) (Cursor.ofText text)
  cases piece with
  | plain d =>
    have inSource : c ∈ (pattern.scan text).flatMap Piece.source :=
      List.mem_flatMap.mpr ⟨_, inScan, rendered⟩
    rw [scan, whole] at inSource
    exact .inl inSource
  | hit behind matched ahead captured =>
    have origin := scanFrom_hit_mem inScan c
    rcases mem_expand rendered with found | found | found | found
    · exact .inr found
    · exact .inl (by simpa [Cursor.ofText] using origin (.inl (List.mem_reverse.mp found)))
    · exact .inl (by simpa [Cursor.ofText] using origin (.inr (.inl found)))
    · exact .inl (by simpa [Cursor.ofText] using origin (.inr (.inr found)))

theorem mem_positions (behind before after : Text) :
    { behind := before.reverse ++ behind, ahead := after } ∈ positions behind (before ++ after) := by
  induction before generalizing behind with
  | nil => cases after <;> simp [positions]
  | cons c rest ih =>
    have later := ih (c :: behind)
    simp only [List.cons_append, positions, List.reverse_cons, List.append_assoc]
    exact List.mem_cons_of_mem _ later

theorem test_of_ends {before after : Text} {next : Cursor}
    (matched : next ∈ pattern.ends { behind := before.reverse, ahead := after }) :
    pattern.test (before ++ after) = true := by
  have position := mem_positions [] before after
  rw [List.append_nil] at position
  refine List.any_eq_true.mpr ⟨_, position, ?_⟩
  simpa using List.ne_nil_of_mem matched

theorem ends_literal {wanted found : Text}
    (same : wanted.map cases.canonicalize = found.map cases.canonicalize)
    (behind ahead : Text) (captured : Option Text) :
    (literal cases true wanted).ends { behind, ahead := found ++ ahead, captured } =
      [{ behind := found.reverse ++ behind, ahead, captured }] := by
  induction wanted generalizing found behind with
  | nil =>
    have none : found = [] := List.map_eq_nil_iff.mp same.symm
    subst none
    rfl
  | cons c rest ih =>
    cases found with
    | nil => simp at same
    | cons d others =>
      obtain ⟨first, later⟩ := List.cons.inj same
      have tail := ih later (d :: behind)
      simp only [literal, sequence] at tail
      simp [literal, sequence, ends, acceptsChar, first, tail]

/-- `\b…\b` around a literal matches an occurrence that begins and ends with a
word character and whose neighbours are none. -/
theorem test_bounded_literal {wanted found before after : Text}
    (same : wanted.map cases.canonicalize = found.map cases.canonicalize)
    (first : found.head?.any isWordChar = true) (last : found.getLast?.any isWordChar = true)
    (left : before.getLast?.any isWordChar = false) (right : after.head?.any isWordChar = false) :
    (Pattern.seq .wordBoundary (.seq (literal cases true wanted) .wordBoundary)).test
      (before ++ (found ++ after)) = true := by
  have opens : ({ behind := before.reverse, ahead := found ++ after } : Cursor).atBoundary =
      true := by
    cases found with
    | nil => simp at first
    | cons c rest =>
      simp only [Cursor.atBoundary, List.head?_reverse, left, List.cons_append, List.head?_cons,
        bne_iff_ne]
      simpa using first.symm
  have closes : ({ behind := found.reverse ++ before.reverse, ahead := after } : Cursor).atBoundary =
      true := by
    cases known : found.getLast? with
    | none => simp [known] at last
    | some c =>
      have word : isWordChar c = true := by simpa [known] using last
      simp [Cursor.atBoundary, List.head?_append, List.head?_reverse, known, word, right]
  have matched : ({ behind := found.reverse ++ before.reverse, ahead := after } : Cursor) ∈
      (Pattern.seq .wordBoundary (.seq (literal cases true wanted) .wordBoundary)).ends
        { behind := before.reverse, ahead := found ++ after } := by
    simp [ends, opens, ends_literal same, closes]
  exact test_of_ends matched

theorem test_literal {wanted found before after : Text}
    (same : wanted.map cases.canonicalize = found.map cases.canonicalize) :
    (literal cases true wanted).test (before ++ (found ++ after)) = true := by
  have matched : ({ behind := found.reverse ++ before.reverse, ahead := after } : Cursor) ∈
      (literal cases true wanted).ends { behind := before.reverse, ahead := found ++ after } := by
    simp [ends_literal same]
  exact test_of_ends matched

end Pattern

end StoryEngine.Text
