import StoryEngine.Text.Matching

namespace StoryEngine.Text

/-! # What patterns read -/

/-- A later cursor of the same text, with the character in neither what lies between nor what
has been captured. -/
structure Cursor.ReachesWithout (wanted : Char) (cursor later : Cursor) : Prop where
  read : ∃ read, cursor.ahead = read ++ later.ahead ∧ wanted ∉ read
  captured : ∀ text ∈ later.captured, wanted ∉ text

theorem Cursor.ReachesWithout.refl {wanted : Char} {cursor : Cursor}
    (clean : ∀ text ∈ cursor.captured, wanted ∉ text) : cursor.ReachesWithout wanted cursor :=
  ⟨⟨[], rfl, List.not_mem_nil⟩, clean⟩

theorem Cursor.ReachesWithout.trans {wanted : Char} {first second third : Cursor}
    (before : first.ReachesWithout wanted second) (after : second.ReachesWithout wanted third) :
    first.ReachesWithout wanted third := by
  obtain ⟨read, ahead, outside⟩ := before.read
  obtain ⟨next, aheadNext, outsideNext⟩ := after.read
  refine ⟨⟨read ++ next, by rw [ahead, aheadNext, List.append_assoc], ?_⟩, after.captured⟩
  intro member
  rcases List.mem_append.mp member with inRead | inNext
  · exact outside inRead
  · exact outsideNext inNext

theorem Cursor.ReachesWithout.upTo {wanted : Char} {cursor later : Cursor}
    (reaches : cursor.ReachesWithout wanted later) : wanted ∉ cursor.upTo later := by
  obtain ⟨read, ahead, outside⟩ := reaches.read
  have width : cursor.ahead.length - later.ahead.length = read.length := by
    rw [ahead, List.length_append, Nat.add_sub_cancel]
  rw [Cursor.upTo, width, ahead, List.take_left]
  exact outside

namespace Pattern

def avoids (wanted : Char) : Pattern → Bool
  | .accept accepts => !accepts wanted
  | .seq first second | .alt first second => first.avoids wanted && second.avoids wanted
  | .star body | .group body => body.avoids wanted
  | .empty | .wordBoundary | .atStart | .atEnd | .notAhead _ | .backReference => true

def consumes : Pattern → Bool
  | .accept _ => true
  | .seq first second => first.consumes || second.consumes
  | .alt first second => first.consumes && second.consumes
  | .group body => body.consumes
  | .empty | .wordBoundary | .atStart | .atEnd | .star _ | .notAhead _ | .backReference => false

def capturesNothing : Pattern → Bool
  | .group _ => false
  | .seq first second | .alt first second => first.capturesNothing && second.capturesNothing
  | .star body => body.capturesNothing
  | .empty | .accept _ | .wordBoundary | .atStart | .atEnd | .notAhead _ | .backReference => true

theorem repeatEnds_induct {body : Cursor → List Cursor} {relates : Cursor → Cursor → Prop}
    {holds : Cursor → Prop} (refl : ∀ cursor, holds cursor → relates cursor cursor)
    (step : ∀ cursor next later, holds cursor → next ∈ body cursor →
      (holds next → relates next later) → relates cursor later)
    (fuel : Nat) : ∀ cursor, holds cursor → ∀ next ∈ repeatEnds body fuel cursor,
      relates cursor next := by
  induction fuel with
  | zero =>
    intro cursor start next member
    rw [List.mem_singleton.mp member]
    exact refl cursor start
  | succ fuel ih =>
    intro cursor start next member
    rcases List.mem_append.mp member with later | same
    · obtain ⟨middle, inBody, inRest⟩ := List.mem_flatMap.mp later
      exact step cursor middle next start (List.mem_of_mem_filter inBody)
        fun holds => ih middle holds next inRest
    · rw [List.mem_singleton.mp same]
      exact refl cursor start

theorem ends_avoid {wanted : Char} (pattern : Pattern) (avoids : pattern.avoids wanted = true) :
    ∀ cursor, (∀ text ∈ cursor.captured, wanted ∉ text) → ∀ next ∈ pattern.ends cursor,
      cursor.ReachesWithout wanted next := by
  have stays {cursor next : Cursor} {condition : Bool}
      (clean : ∀ text ∈ cursor.captured, wanted ∉ text)
      (member : next ∈ if condition then [cursor] else []) :
      cursor.ReachesWithout wanted next := by
    split at member
    · rw [List.mem_singleton.mp member]
      exact .refl clean
    · cases member
  induction pattern with
  | empty =>
    intro cursor clean next member
    rw [List.mem_singleton.mp member]
    exact .refl clean
  | accept accepts =>
    intro cursor clean next member
    unfold ends at member
    split at member
    · cases member
    · next c rest ahead =>
        split at member
        · next accepted =>
            rw [List.mem_singleton.mp member]
            refine ⟨⟨[c], by rw [ahead]; rfl, ?_⟩, clean⟩
            intro isWanted
            rw [← List.mem_singleton.mp isWanted] at accepted
            simp [Pattern.avoids, accepted] at avoids
        · cases member
  | wordBoundary => exact fun cursor clean next member => stays clean member
  | atStart => exact fun cursor clean next member => stays clean member
  | atEnd => exact fun cursor clean next member => stays clean member
  | notAhead body => exact fun cursor clean next member => stays clean member
  | seq first second firstIH secondIH =>
    obtain ⟨left, right⟩ := Bool.and_eq_true_iff.mp avoids
    intro cursor clean next member
    obtain ⟨middle, before, after⟩ := List.mem_flatMap.mp member
    have reached := firstIH left cursor clean middle before
    exact reached.trans (secondIH right middle reached.captured next after)
  | alt first second firstIH secondIH =>
    obtain ⟨left, right⟩ := Bool.and_eq_true_iff.mp avoids
    intro cursor clean next member
    rcases List.mem_append.mp member with inFirst | inSecond
    · exact firstIH left cursor clean next inFirst
    · exact secondIH right cursor clean next inSecond
  | star body ih =>
    intro cursor clean next member
    refine @repeatEnds_induct body.ends (Cursor.ReachesWithout wanted)
      (fun cursor => ∀ text ∈ cursor.captured, wanted ∉ text) (fun _ => .refl) ?_
      cursor.ahead.length cursor clean next member
    intro cursor next later clean inBody onward
    have reached := ih avoids cursor clean next inBody
    exact reached.trans (onward reached.captured)
  | group body ih =>
    intro cursor clean next member
    obtain ⟨inner, found, rfl⟩ := List.mem_map.mp member
    have reached := ih avoids cursor clean inner found
    refine ⟨reached.read, ?_⟩
    intro text isText
    rw [← Option.some.inj isText]
    exact reached.upTo
  | backReference =>
    intro cursor clean next member
    unfold ends at member
    dsimp only at member
    split at member
    · next isPrefix =>
        obtain ⟨rest, ahead⟩ := List.isPrefixOf_iff_prefix.mp isPrefix
        rw [List.mem_singleton.mp member]
        refine ⟨⟨cursor.captured.getD [], by rw [← ahead, List.drop_left], ?_⟩, clean⟩
        cases captured : cursor.captured with
        | none => exact List.not_mem_nil
        | some text => exact clean text captured
    · cases member

theorem ends_consume (pattern : Pattern) (consumes : pattern.consumes = true) :
    ∀ cursor, ∀ next ∈ pattern.ends cursor, next.ahead.length < cursor.ahead.length := by
  have within {pattern : Pattern} {cursor next : Cursor} (member : next ∈ pattern.ends cursor) :
      next.ahead.length ≤ cursor.ahead.length := by
    obtain ⟨read, ahead, _⟩ := pattern.ends_reaches cursor next member
    rw [ahead, List.length_append]
    exact Nat.le_add_left _ _
  induction pattern with
  | accept accepts =>
    intro cursor next member
    unfold ends at member
    split at member
    · cases member
    · next c rest ahead =>
        split at member
        · rw [List.mem_singleton.mp member, ahead]
          exact Nat.lt_succ_self _
        · cases member
  | seq first second firstIH secondIH =>
    intro cursor next member
    obtain ⟨middle, before, after⟩ := List.mem_flatMap.mp member
    rcases Bool.or_eq_true_iff.mp consumes with left | right
    · exact Nat.lt_of_le_of_lt (within after) (firstIH left cursor middle before)
    · exact Nat.lt_of_lt_of_le (secondIH right middle next after) (within before)
  | alt first second firstIH secondIH =>
    obtain ⟨left, right⟩ := Bool.and_eq_true_iff.mp consumes
    intro cursor next member
    rcases List.mem_append.mp member with inFirst | inSecond
    · exact firstIH left cursor next inFirst
    · exact secondIH right cursor next inSecond
  | group body ih =>
    intro cursor next member
    obtain ⟨inner, found, rfl⟩ := List.mem_map.mp member
    exact ih consumes cursor inner found
  | empty => cases consumes
  | wordBoundary => cases consumes
  | atStart => cases consumes
  | atEnd => cases consumes
  | star body => cases consumes
  | notAhead body => cases consumes
  | backReference => cases consumes

theorem ends_captured (pattern : Pattern) (plain : pattern.capturesNothing = true) :
    ∀ cursor, ∀ next ∈ pattern.ends cursor, next.captured = cursor.captured := by
  have stays {cursor next : Cursor} {condition : Bool}
      (member : next ∈ if condition then [cursor] else []) : next.captured = cursor.captured := by
    split at member
    · rw [List.mem_singleton.mp member]
    · cases member
  induction pattern with
  | empty =>
    intro cursor next member
    rw [List.mem_singleton.mp member]
  | accept accepts =>
    intro cursor next member
    unfold ends at member
    split at member
    · cases member
    · split at member
      · rw [List.mem_singleton.mp member]
      · cases member
  | wordBoundary => exact fun cursor next member => stays member
  | atStart => exact fun cursor next member => stays member
  | atEnd => exact fun cursor next member => stays member
  | notAhead body => exact fun cursor next member => stays member
  | seq first second firstIH secondIH =>
    obtain ⟨left, right⟩ := Bool.and_eq_true_iff.mp plain
    intro cursor next member
    obtain ⟨middle, before, after⟩ := List.mem_flatMap.mp member
    exact (secondIH right middle next after).trans (firstIH left cursor middle before)
  | alt first second firstIH secondIH =>
    obtain ⟨left, right⟩ := Bool.and_eq_true_iff.mp plain
    intro cursor next member
    rcases List.mem_append.mp member with inFirst | inSecond
    · exact firstIH left cursor next inFirst
    · exact secondIH right cursor next inSecond
  | star body ih =>
    intro cursor next member
    refine @repeatEnds_induct body.ends (fun cursor next => next.captured = cursor.captured)
      (fun _ => True) (fun _ _ => rfl) ?_ cursor.ahead.length cursor trivial next member
    intro cursor next later _ inBody onward
    exact (onward trivial).trans (ih plain cursor next inBody)
  | group body => cases plain
  | backReference =>
    intro cursor next member
    unfold ends at member
    dsimp only at member
    split at member
    · rw [List.mem_singleton.mp member]
    · cases member

theorem scanFrom_hit {pattern : Pattern} (consumes : pattern.consumes = true) {text : Text}
    {behind matched ahead : Text} {captured : Option Text} {fuel : Nat} {cursor : Cursor}
    (within : cursor.behind.reverse ++ cursor.ahead = text) (fresh : cursor.captured = none)
    (member : .hit behind matched ahead captured ∈ pattern.scanFrom fuel cursor) :
    behind.reverse ++ matched ++ ahead = text ∧
      ∃ start next, next ∈ pattern.ends start ∧ start.captured = none ∧
        start.upTo next = matched ∧ next.captured = captured := by
  induction fuel generalizing cursor with
  | zero => simp [scanFrom] at member
  | succ fuel ih =>
    rcases pattern.scanFrom_turn fuel cursor with
      ⟨_, turn⟩ | ⟨next, inEnds, _, ⟨_, turn⟩ | ⟨more, _⟩⟩
    · rw [turn, passes] at member
      split at member
      · cases member
      · next c rest unread =>
          rcases List.mem_cons.mp member with isPlain | inRest
          · cases isPlain
          · apply ih _ rfl inRest
            rw [← within, unread]
            simp
    · have reaches := pattern.ends_reaches cursor next inEnds
      rw [turn] at member
      rcases List.mem_cons.mp member with isHit | inRest
      · cases isHit
        refine ⟨?_, cursor, next, inEnds, fresh, rfl, rfl⟩
        rw [List.append_assoc, ← reaches.ahead_eq, within]
      · apply ih _ rfl inRest
        obtain ⟨read, aheadEq, behindEq⟩ := reaches
        rw [← within, aheadEq, behindEq]
        simp
    · exact absurd (pattern.ends_consume consumes cursor next inEnds) more

end Pattern

end StoryEngine.Text
