import StoryEngine.Text.Stops

namespace StoryEngine.Text

/-! # Searching a part of a text

When no match of a pattern is cut by the edges of a part of a text, a search of the text finds in
the part what a search of the part alone finds.
-/

namespace Pattern

/-- The pattern reads nothing across the beginning of the middle part, and in that part it reads
what it reads when the part is all there is. -/
structure Uncut (pattern : Pattern) (before inside after : Text) : Prop where
  starts : ∀ read rest, before = read ++ rest → rest ≠ [] →
    ∀ next ∈ pattern.ends { behind := read.reverse, ahead := rest ++ (inside ++ after) },
      (inside ++ after).length ≤ next.ahead.length
  alike : ∀ read rest, inside = read ++ rest → rest ≠ [] →
    pattern.ends { behind := read.reverse ++ before.reverse, ahead := rest ++ after } =
      (pattern.ends { behind := read.reverse, ahead := rest }).map (·.within before.reverse after)

def Stop (pattern : Pattern) (c : Char) : Prop :=
  pattern.stopsAt c = true ∧ isWordChar c = false

def Piece.within (left right : Text) : Piece → Piece
  | .plain c => .plain c
  | .hit behind matched ahead captured =>
    .hit (behind ++ left) matched (ahead ++ right) captured

def Before (place : Nat) (pieces : List Piece) : Prop :=
  ∀ behind matched ahead captured, .hit behind matched ahead captured ∈ pieces →
    behind.length + matched.length ≤ place

def Behind (place : Nat) (pieces : List Piece) : Prop :=
  ∀ behind matched ahead captured, .hit behind matched ahead captured ∈ pieces →
    place ≤ behind.length

section

variable {pattern : Pattern} {before inside after read rest : Text} {fuel more : Nat}
  {place : Nat} {pieces : List Piece}

theorem Before.plain {c : Char} (later : Before place pieces) : Before place (.plain c :: pieces) := by
  intro behind matched ahead captured member
  rcases List.mem_cons.mp member with isPlain | inPieces
  · cases isPlain
  · exact later behind matched ahead captured inPieces

theorem clean_fresh (right behind ahead : Text) : Clean right { behind, ahead } := by
  intro stop _ text isText
  cases isText

theorem ends_beside (unanchored : pattern.unanchored = true) {left right : Text}
    (leftEdge : ∀ c ∈ left.head?, pattern.Stop c) (rightEdge : ∀ c ∈ right.head?, pattern.Stop c)
    (behind ahead : Text) :
    pattern.ends { behind := behind ++ left, ahead := ahead ++ right } =
      (pattern.ends { behind, ahead }).map (·.within left right) := by
  have plain {text : Text} (edge : ∀ c ∈ text.head?, pattern.Stop c) :
      text.head?.any isWordChar = false := by
    cases text with
    | nil => rfl
    | cons c rest => exact (edge c rfl).2
  exact ends_within (plain leftEdge) (plain rightEdge) pattern unanchored
    (fun stop isStop => (rightEdge stop isStop).1) { behind, ahead } (clean_fresh _ _ _)

theorem uncut_iff :
    pattern.Uncut before inside after ↔
      (∀ place < before.length,
        ∀ next ∈ pattern.ends {
            behind := (before.take place).reverse
            ahead := before.drop place ++ (inside ++ after) },
          (inside ++ after).length ≤ next.ahead.length) ∧
      ∀ place < inside.length,
        pattern.ends {
            behind := (inside.take place).reverse ++ before.reverse
            ahead := inside.drop place ++ after } =
          (pattern.ends { behind := (inside.take place).reverse, ahead := inside.drop place }).map
            (·.within before.reverse after) := by
  have split {text : Text} {place : Nat} (within : place < text.length) :
      text = text.take place ++ text.drop place ∧ text.drop place ≠ [] :=
    ⟨(List.take_append_drop place text).symm, fun empty => by
      rw [List.drop_eq_nil_iff] at empty
      omega⟩
  have place {read rest : Text} (nonempty : rest ≠ []) : read.length < (read ++ rest).length := by
    have solid := List.length_pos_of_ne_nil nonempty
    rw [List.length_append]
    omega
  constructor
  · rintro ⟨starts, alike⟩
    constructor
    · intro place within
      exact starts _ _ (split within).1 (split within).2
    · intro place within
      exact alike _ _ (split within).1 (split within).2
  · rintro ⟨starts, alike⟩
    constructor
    · rintro read rest rfl nonempty
      simpa using starts read.length (place nonempty)
    · rintro read rest rfl nonempty
      simpa using alike read.length (place nonempty)

instance : DecidableEq Cursor := fun first second =>
  decidable_of_iff (first.behind = second.behind ∧ first.ahead = second.ahead ∧
    first.captured = second.captured) ⟨fun ⟨behind, ahead, captured⟩ => by
      cases first
      cases second
      cases behind
      cases ahead
      cases captured
      rfl, fun same => same ▸ ⟨rfl, rfl, rfl⟩⟩

instance (pattern : Pattern) (before inside after : Text) :
    Decidable (pattern.Uncut before inside after) :=
  decidable_of_iff _ uncut_iff.symm

theorem uncut_of_stops (unanchored : pattern.unanchored = true)
    (leftEdge : ∀ c ∈ before.getLast?, pattern.Stop c)
    (rightEdge : (∀ c ∈ inside.getLast?, pattern.Stop c) ∨ ∀ c ∈ after.head?, pattern.Stop c) :
    pattern.Uncut before inside after := by
  have noEdge : ∀ c ∈ ([] : Text).head?, pattern.Stop c := by
    intro c absent
    cases absent
  have behindEdge : ∀ c ∈ before.reverse.head?, pattern.Stop c := by
    rw [List.head?_reverse]
    exact leftEdge
  constructor
  · intro read rest split nonempty next member
    obtain ⟨others, last, isRest⟩ := (List.eq_nil_or_concat' rest).resolve_left nonempty
    subst isRest
    have isLast : before.getLast? = some last := by
      rw [split, ← List.append_assoc, List.getLast?_append, List.getLast?_singleton]
      rfl
    have stops := leftEdge last isLast
    have alike := @ends_beside pattern unanchored [] (last :: (inside ++ after)) noEdge
      (fun c isStop => Option.some.inj isStop ▸ stops) read.reverse others
    rw [List.append_nil] at alike
    rw [List.append_assoc, List.singleton_append, alike] at member
    obtain ⟨inner, _, rfl⟩ := List.mem_map.mp member
    simp only [Cursor.within, List.length_append, List.length_cons]
    omega
  · intro read rest split nonempty
    rcases rightEdge with insideEdge | afterEdge
    · obtain ⟨others, last, isRest⟩ := (List.eq_nil_or_concat' rest).resolve_left nonempty
      subst isRest
      have isLast : inside.getLast? = some last := by
        rw [split, ← List.append_assoc, List.getLast?_append, List.getLast?_singleton]
        rfl
      have stops := insideEdge last isLast
      have whole := @ends_beside pattern unanchored before.reverse (last :: after) behindEdge
        (fun c isStop => Option.some.inj isStop ▸ stops) read.reverse others
      have part := @ends_beside pattern unanchored [] [last] noEdge
        (fun c isStop => Option.some.inj isStop ▸ stops) read.reverse others
      rw [List.append_nil] at part
      rw [List.append_assoc, List.singleton_append, whole, part, List.map_map]
      apply List.map_congr_left
      intro next _
      simp only [Function.comp_apply, Cursor.within, List.append_nil, List.append_assoc,
        List.singleton_append]
    · exact ends_beside unanchored behindEdge afterEdge read.reverse rest

theorem scanFrom_behind (consumes : pattern.consumes = true) {cursor : Cursor} :
    Behind cursor.behind.length (pattern.scanFrom fuel cursor) := by
  induction fuel generalizing cursor with
  | zero =>
    intro behind matched ahead captured member
    obtain ⟨c, _, isPlain⟩ := List.mem_map.mp member
    cases isPlain
  | succ fuel ih =>
    intro behind matched ahead captured member
    rcases pattern.scanFrom_turn fuel cursor with
      ⟨_, turn⟩ | ⟨next, inEnds, _, ⟨_, turn⟩ | ⟨more, _⟩⟩
    · rw [turn, passes] at member
      split at member
      · cases member
      · rcases List.mem_cons.mp member with isPlain | later
        · cases isPlain
        · exact Nat.le_of_succ_le (ih behind matched ahead captured later)
    · obtain ⟨text, _, behindIs⟩ := pattern.ends_reaches cursor next inEnds
      rw [turn] at member
      rcases List.mem_cons.mp member with isHit | later
      · cases isHit
        exact le_rfl
      · have further := ih behind matched ahead captured later
        rw [behindIs, List.length_append] at further
        omega
    · exact absurd (pattern.ends_consume consumes cursor next inEnds) more

theorem scanFrom_toPart (consumes : pattern.consumes = true)
    (uncut : pattern.Uncut before inside after) (split : before = read ++ rest)
    (enough : (rest ++ (inside ++ after)).length < fuel) :
    ∃ earlier left, (inside ++ after).length < left ∧ Before before.length earlier ∧
      pattern.scanFrom fuel { behind := read.reverse, ahead := rest ++ (inside ++ after) } =
        earlier ++ pattern.scanFrom left { behind := before.reverse, ahead := inside ++ after } := by
  induction fuel generalizing read rest with
  | zero => exact absurd enough (Nat.not_lt_zero _)
  | succ fuel ih =>
    cases rest with
    | nil =>
      rw [List.append_nil] at split
      refine ⟨[], fuel + 1, enough, fun _ _ _ _ absent => ?_, ?_⟩
      · cases absent
      · rw [split]
        rfl
    | cons c rest =>
      rcases pattern.scanFrom_turn fuel
          { behind := read.reverse, ahead := c :: rest ++ (inside ++ after) } with
        ⟨_, turn⟩ | ⟨next, inEnds, _, ⟨_, turn⟩ | ⟨more, _⟩⟩
      · obtain ⟨earlier, left, enoughLeft, ending, later⟩ := @ih (read ++ [c]) rest
          (by rw [split, List.append_assoc, List.singleton_append])
          (Nat.lt_of_succ_lt_succ enough)
        refine ⟨.plain c :: earlier, left, enoughLeft, ending.plain, ?_⟩
        rw [List.reverse_append, List.reverse_singleton, List.singleton_append] at later
        rw [turn]
        simp only [passes, List.cons_append, later]
      · have short := uncut.starts read (c :: rest) split (List.cons_ne_nil c rest) next inEnds
        have less : next.ahead.length < (c :: rest ++ (inside ++ after)).length :=
          pattern.ends_consume consumes _ next inEnds
        obtain ⟨text, aheadIs, behindIs⟩ := pattern.ends_reaches _ next inEnds
        replace aheadIs : c :: rest ++ (inside ++ after) = text ++ next.ahead := aheadIs
        -- What the match leaves of the text before the part.
        have kept : ∃ remaining, next.ahead = remaining ++ (inside ++ after) ∧
            c :: rest = text ++ remaining := by
          obtain ⟨remaining, isAhead⟩ :=
            List.suffix_of_suffix_length_le ⟨_, rfl⟩ ⟨_, aheadIs.symm⟩ short
          rw [← isAhead, ← List.append_assoc text] at aheadIs
          exact ⟨remaining, isAhead.symm, List.append_cancel_right aheadIs⟩
        obtain ⟨remaining, aheadNext, taken⟩ := kept
        have enoughNext : (remaining ++ (inside ++ after)).length < fuel := by
          rw [← aheadNext]
          omega
        obtain ⟨earlier, left, enoughLeft, ending, later⟩ := @ih (read ++ text) remaining
          (by rw [split, taken, List.append_assoc]) enoughNext
        have onward : ({ next with captured := none } : Cursor) =
            { behind := (read ++ text).reverse, ahead := remaining ++ (inside ++ after) } := by
          rw [behindIs, aheadNext, List.reverse_append]
        refine ⟨.hit read.reverse
          (Cursor.upTo { behind := read.reverse, ahead := c :: rest ++ (inside ++ after) } next)
          next.ahead next.captured :: earlier, left, enoughLeft, ?_, ?_⟩
        · intro behind matched ahead captured member
          rcases List.mem_cons.mp member with isHit | inEarlier
          · cases isHit
            have width := congrArg List.length split
            have parts := congrArg List.length taken
            simp only [List.length_append] at width parts
            rw [Cursor.upTo, List.length_take, List.length_reverse]
            simp only [aheadNext, List.length_append]
            omega
          · exact ending behind matched ahead captured inEarlier
        · rw [turn, onward, later, List.cons_append]
          rfl
      · exact absurd (pattern.ends_consume consumes _ next inEnds) more

theorem scanFrom_inPart (consumes : pattern.consumes = true)
    (uncut : pattern.Uncut before inside after) (split : inside = read ++ rest)
    (enough : (rest ++ after).length < fuel) (enoughPart : rest.length < more) :
    ∃ later, Behind (before.length + inside.length) later ∧
      pattern.scanFrom fuel
          { behind := read.reverse ++ before.reverse, ahead := rest ++ after } =
        (pattern.scanFrom more { behind := read.reverse, ahead := rest }).map
          (Piece.within before.reverse after) ++ later := by
  induction more generalizing read rest fuel with
  | zero => exact absurd enoughPart (Nat.not_lt_zero _)
  | succ more ih =>
    cases fuel with
    | zero => exact absurd enough (Nat.not_lt_zero _)
    | succ fuel =>
    cases rest with
    | nil =>
      have none : pattern.scanFrom (more + 1) { behind := read.reverse, ahead := [] } = [] := by
        rcases pattern.scanFrom_turn more { behind := read.reverse, ahead := [] } with
          ⟨_, turn⟩ | ⟨next, inEnds, _⟩
        · rw [turn]
          rfl
        · exact absurd (pattern.ends_consume consumes _ next inEnds) (Nat.not_lt_zero _)
      rw [none, List.map_nil, List.nil_append]
      refine ⟨_, ?_, rfl⟩
      have behind := @scanFrom_behind pattern (fuel + 1) consumes
        { behind := read.reverse ++ before.reverse, ahead := [] ++ after }
      rw [List.append_nil] at split
      simp only [List.length_append, List.length_reverse] at behind
      rw [split, Nat.add_comm]
      exact behind
    | cons c rest =>
      have alike := uncut.alike read (c :: rest) split (List.cons_ne_nil c rest)
      rcases pattern.scanFrom_turn more { behind := read.reverse, ahead := c :: rest } with
        ⟨none, turn⟩ | ⟨next, inEnds, isFirst, ⟨_, turn⟩ | ⟨more, _⟩⟩
      · rw [none, List.map_nil] at alike
        obtain ⟨later, behind, same⟩ := @ih (read ++ [c]) rest fuel
          (by rw [split, List.append_assoc, List.singleton_append])
          (Nat.lt_of_succ_lt_succ enough) (Nat.lt_of_succ_lt_succ enoughPart)
        refine ⟨later, behind, ?_⟩
        rcases pattern.scanFrom_turn fuel
            { behind := read.reverse ++ before.reverse, ahead := c :: rest ++ after } with
          ⟨_, whole⟩ | ⟨other, inWhole, _⟩
        · rw [List.reverse_append, List.reverse_singleton, List.singleton_append] at same
          rw [turn, whole, passes, passes]
          simp only [List.cons_append, List.map_cons] at same ⊢
          rw [same]
          rfl
        · rw [alike] at inWhole
          cases inWhole
      · obtain ⟨text, aheadIs, behindIs⟩ := pattern.ends_reaches _ next inEnds
        replace aheadIs : c :: rest = text ++ next.ahead := aheadIs
        have less : next.ahead.length < (c :: rest).length :=
          pattern.ends_consume consumes _ next inEnds
        rcases pattern.scanFrom_turn fuel
            { behind := read.reverse ++ before.reverse, ahead := c :: rest ++ after } with
          ⟨none, _⟩ | ⟨other, _, isOther, ⟨_, whole⟩ | ⟨more, _⟩⟩
        · rw [alike] at none
          rw [List.map_eq_nil_iff.mp none] at inEnds
          cases inEnds
        · rw [alike, List.head?_map, isFirst, Option.map_some] at isOther
          obtain rfl := Option.some.inj isOther
          obtain ⟨later, behind, same⟩ := @ih (read ++ text) next.ahead fuel
            (by rw [split, aheadIs, List.append_assoc])
            (by
              simp only [List.length_append, List.length_cons] at enough less ⊢
              omega)
            (by
              simp only [List.length_cons] at enoughPart less
              omega)
          refine ⟨later, behind, ?_⟩
          have upTo := @Cursor.within_upTo before.reverse after _ _
            (pattern.ends_reaches _ next inEnds)
          have onward : ({ next with captured := none } : Cursor) =
              { behind := (read ++ text).reverse, ahead := next.ahead } := by
            rw [behindIs, List.reverse_append]
          have onwardWhole :
              ({ next.within before.reverse after with captured := none } : Cursor) =
                { behind := (read ++ text).reverse ++ before.reverse
                  ahead := next.ahead ++ after } := by
            rw [Cursor.within, behindIs, List.reverse_append, List.append_assoc]
          rw [turn, whole, onward, onwardWhole, same, List.map_cons, List.cons_append]
          congr 1
          rw [Piece.within, ← upTo]
          rfl
        · rw [alike, List.head?_map, isFirst, Option.map_some] at isOther
          obtain rfl := Option.some.inj isOther
          have lessWhole := (Cursor.within_less before.reverse after
            { behind := read.reverse, ahead := c :: rest } next).mpr less
          exact absurd lessWhole more
      · exact absurd (pattern.ends_consume consumes _ next inEnds) more

theorem scan_part (consumes : pattern.consumes = true)
    (uncut : pattern.Uncut before inside after) :
    ∃ earlier later, Before before.length earlier ∧
      Behind (before.length + inside.length) later ∧
      pattern.scan (before ++ (inside ++ after)) =
        earlier ++ ((pattern.scan inside).map (Piece.within before.reverse after) ++ later) := by
  obtain ⟨earlier, left, enough, ending, toPart⟩ :=
    @scanFrom_toPart pattern before inside after [] before
      ((before ++ (inside ++ after)).length + 1) consumes uncut rfl (Nat.lt_succ_self _)
  obtain ⟨later, starting, inPart⟩ :=
    @scanFrom_inPart pattern before inside after [] inside left (inside.length + 1) consumes uncut
      rfl enough (Nat.lt_succ_self _)
  refine ⟨earlier, later, ending, starting, ?_⟩
  rw [scan, Cursor.ofText, scan, Cursor.ofText]
  rw [List.reverse_nil] at toPart
  rw [List.reverse_nil, List.nil_append] at inPart
  rw [toPart, inPart]

end

end Pattern

end StoryEngine.Text
