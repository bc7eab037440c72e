import StoryEngine.Text.Reading

namespace StoryEngine.Text

/-! # Characters that stop a pattern

A character that a pattern does not read, not even to look ahead, and that is no word character
splits a text for the pattern: on each side of it the pattern reads what it reads in that side alone.
-/

def Cursor.within (left right : Text) (cursor : Cursor) : Cursor :=
  { cursor with behind := cursor.behind ++ left, ahead := cursor.ahead ++ right }

theorem Cursor.within_less (left right : Text) (cursor next : Cursor) :
    (next.within left right).ahead.length < (cursor.within left right).ahead.length ↔
      next.ahead.length < cursor.ahead.length := by
  simp only [Cursor.within, List.length_append]
  omega

theorem Cursor.within_upTo {left right : Text} {cursor next : Cursor}
    (reaches : cursor.Reaches next) :
    (cursor.within left right).upTo (next.within left right) = cursor.upTo next := by
  obtain ⟨read, ahead, _⟩ := reaches
  have shorter : cursor.ahead.length - next.ahead.length ≤ cursor.ahead.length := Nat.sub_le _ _
  simp only [Cursor.upTo, Cursor.within, List.length_append, Nat.add_sub_add_right]
  exact List.take_append_of_le_length shorter

theorem Cursor.within_atBoundary {left right : Text} (leftEdge : left.head?.any isWordChar = false)
    (rightEdge : right.head?.any isWordChar = false) (cursor : Cursor) :
    (cursor.within left right).atBoundary = cursor.atBoundary := by
  have edge {text beside : Text} (plain : beside.head?.any isWordChar = false) :
      (text ++ beside).head?.any isWordChar = text.head?.any isWordChar := by
    cases text with
    | nil => exact plain
    | cons c rest => rfl
  simp only [Cursor.atBoundary, Cursor.within, edge leftEdge, edge rightEdge]

theorem repeatEnds_enough {body : Cursor → List Cursor} {fuel more : Nat} :
    ∀ cursor : Cursor, cursor.ahead.length ≤ fuel → cursor.ahead.length ≤ more →
      repeatEnds body fuel cursor = repeatEnds body more cursor := by
  have none (fuel : Nat) {cursor : Cursor} (empty : cursor.ahead.length = 0) :
      repeatEnds body fuel cursor = [cursor] := by
    cases fuel with
    | zero => rfl
    | succ fuel =>
      have stuck : (body cursor).filter (fun next => next.ahead.length < cursor.ahead.length) =
          [] := by
        apply List.filter_eq_nil_iff.mpr
        intro next _ less
        have shorter := of_decide_eq_true less
        omega
      rw [repeatEnds, stuck]
      rfl
  induction fuel generalizing more with
  | zero =>
    intro cursor enough _
    rw [none 0 (Nat.le_zero.mp enough), none more (Nat.le_zero.mp enough)]
  | succ fuel ih =>
    intro cursor enough enoughMore
    cases more with
    | zero => rw [none 0 (Nat.le_zero.mp enoughMore), none _ (Nat.le_zero.mp enoughMore)]
    | succ more =>
      rw [repeatEnds, repeatEnds]
      congr 1
      apply List.flatMap_congr
      intro next member
      have less := of_decide_eq_true (List.mem_filter.mp member).2
      apply ih next
      · omega
      · omega

theorem repeatEnds_map {body : Cursor → List Cursor} {moved : Cursor → Cursor}
    {holds : Cursor → Prop}
    (same : ∀ cursor, holds cursor → body (moved cursor) = (body cursor).map moved)
    (keeps : ∀ cursor, holds cursor → ∀ next ∈ body cursor, holds next)
    (less : ∀ cursor next, (moved next).ahead.length < (moved cursor).ahead.length ↔
      next.ahead.length < cursor.ahead.length)
    (fuel : Nat) : ∀ cursor, holds cursor →
      repeatEnds body fuel (moved cursor) = (repeatEnds body fuel cursor).map moved := by
  induction fuel with
  | zero =>
    intro cursor _
    rfl
  | succ fuel ih =>
    intro cursor start
    have shorter : (body (moved cursor)).filter
          (fun next => next.ahead.length < (moved cursor).ahead.length) =
        ((body cursor).filter fun next => next.ahead.length < cursor.ahead.length).map moved := by
      rw [same cursor start, List.filter_map]
      congr 1
      apply List.filter_congr
      intro next _
      simp only [Function.comp_apply, less]
    rw [repeatEnds, repeatEnds, shorter, List.map_append, List.map_flatMap, List.flatMap_map]
    congr 1
    apply List.flatMap_congr
    intro next member
    exact ih next (keeps cursor start next (List.mem_of_mem_filter member))

namespace Pattern

def stopsAt (stop : Char) : Pattern → Bool
  | .accept accepts => !accepts stop
  | .seq first second | .alt first second => first.stopsAt stop && second.stopsAt stop
  | .star body | .group body | .notAhead body => body.stopsAt stop
  | .empty | .wordBoundary | .atStart | .atEnd | .backReference => true

def unanchored : Pattern → Bool
  | .atStart | .atEnd => false
  | .seq first second | .alt first second => first.unanchored && second.unanchored
  | .star body | .group body | .notAhead body => body.unanchored
  | .empty | .accept _ | .wordBoundary | .backReference => true

theorem avoids_of_stopsAt {stop : Char} (pattern : Pattern)
    (stops : pattern.stopsAt stop = true) : pattern.avoids stop = true := by
  induction pattern with
  | accept accepts => exact stops
  | seq first second firstIH secondIH =>
    obtain ⟨left, right⟩ := Bool.and_eq_true_iff.mp stops
    exact Bool.and_eq_true_iff.mpr ⟨firstIH left, secondIH right⟩
  | alt first second firstIH secondIH =>
    obtain ⟨left, right⟩ := Bool.and_eq_true_iff.mp stops
    exact Bool.and_eq_true_iff.mpr ⟨firstIH left, secondIH right⟩
  | star body ih => exact ih stops
  | group body ih => exact ih stops
  | empty => rfl
  | wordBoundary => rfl
  | atStart => rfl
  | atEnd => rfl
  | notAhead body => rfl
  | backReference => rfl

def Stopped (pattern : Pattern) (right : Text) : Prop :=
  ∀ stop ∈ right.head?, pattern.stopsAt stop = true

/-- What the cursor has captured does not have the character that stands behind the text. -/
def Clean (right : Text) (cursor : Cursor) : Prop :=
  ∀ stop ∈ right.head?, ∀ text ∈ cursor.captured, stop ∉ text

theorem Clean.ends {right : Text} {pattern : Pattern} (stopped : pattern.Stopped right)
    {cursor : Cursor} (clean : Clean right cursor) : ∀ next ∈ pattern.ends cursor,
      Clean right next := by
  intro next member stop isStop
  exact (ends_avoid pattern (pattern.avoids_of_stopsAt (stopped stop isStop)) cursor
    (clean stop isStop) next member).captured

theorem Stopped.and {first second : Pattern} {right : Text}
    (stopped : ∀ stop ∈ right.head?, (first.stopsAt stop && second.stopsAt stop) = true) :
    first.Stopped right ∧ second.Stopped right :=
  ⟨fun stop isStop => (Bool.and_eq_true_iff.mp (stopped stop isStop)).1,
    fun stop isStop => (Bool.and_eq_true_iff.mp (stopped stop isStop)).2⟩

theorem isPrefixOf_within {text ahead right : Text} (clean : ∀ stop ∈ right.head?, stop ∉ text) :
    text.isPrefixOf (ahead ++ right) = text.isPrefixOf ahead := by
  induction text generalizing ahead with
  | nil => rfl
  | cons c rest ih =>
    have cleanRest : ∀ stop ∈ right.head?, stop ∉ rest := fun stop isStop inside =>
      clean stop isStop (List.mem_cons_of_mem c inside)
    cases ahead with
    | nil =>
      cases right with
      | nil => rfl
      | cons stop others =>
        have differ : (c == stop) = false := by
          apply beq_eq_false_iff_ne.mpr
          rintro rfl
          exact clean c rfl List.mem_cons_self
        simp only [List.nil_append, List.isPrefixOf, differ, Bool.false_and]
    | cons d others => simp only [List.cons_append, List.isPrefixOf, ih cleanRest]

theorem ends_within {left right : Text} (leftEdge : left.head?.any isWordChar = false)
    (rightEdge : right.head?.any isWordChar = false) (pattern : Pattern)
    (unanchored : pattern.unanchored = true) (stopped : pattern.Stopped right) :
    ∀ cursor, Clean right cursor →
      pattern.ends (cursor.within left right) = (pattern.ends cursor).map (·.within left right) := by
  have kept {condition : Bool} (cursor : Cursor) :
      (if condition then [cursor.within left right] else []) =
        (if condition then [cursor] else []).map (·.within left right) := by
    cases condition
    · rfl
    · rfl
  induction pattern with
  | empty =>
    intro cursor _
    rfl
  | accept accepts =>
    intro cursor _
    cases read : cursor.ahead with
    | nil =>
      have none : (Pattern.accept accepts).ends cursor = [] := by simp only [ends, read]
      rw [none]
      cases right with
      | nil => simp only [ends, Cursor.within, read, List.append_nil, List.map_nil]
      | cons stop others =>
        have rejected : accepts stop = false := by simpa [stopsAt] using stopped stop rfl
        simp [ends, Cursor.within, read, rejected]
    | cons c rest =>
      cases accepted : accepts c
      · simp [ends, Cursor.within, read, accepted]
      · simp [ends, Cursor.within, read, accepted]
  | wordBoundary =>
    intro cursor _
    simp only [ends, Cursor.within_atBoundary leftEdge rightEdge]
    exact kept cursor
  | atStart => cases unanchored
  | atEnd => cases unanchored
  | seq first second firstIH secondIH =>
    obtain ⟨free, freeNext⟩ := Bool.and_eq_true_iff.mp unanchored
    obtain ⟨stops, stopsNext⟩ := Stopped.and stopped
    intro cursor clean
    simp only [ends, firstIH free stops cursor clean, List.flatMap_map, List.map_flatMap]
    apply List.flatMap_congr
    intro next member
    exact secondIH freeNext stopsNext next (clean.ends stops next member)
  | alt first second firstIH secondIH =>
    obtain ⟨free, freeNext⟩ := Bool.and_eq_true_iff.mp unanchored
    obtain ⟨stops, stopsNext⟩ := Stopped.and stopped
    intro cursor clean
    simp only [ends, firstIH free stops cursor clean, secondIH freeNext stopsNext cursor clean,
      List.map_append]
  | star body ih =>
    have stops : body.Stopped right := stopped
    intro cursor clean
    have alike := @repeatEnds_map body.ends (·.within left right) (Clean right)
      (ih unanchored stops) (fun cursor clean next member => clean.ends stops next member)
      (Cursor.within_less left right) (cursor.within left right).ahead.length cursor clean
    have longer : cursor.ahead.length ≤ (cursor.within left right).ahead.length := by
      simp only [Cursor.within, List.length_append]
      omega
    rw [ends, alike, repeatEnds_enough cursor longer le_rfl]
    rfl
  | group body ih =>
    intro cursor clean
    simp only [ends, ih unanchored stopped cursor clean, List.map_map]
    apply List.map_congr_left
    intro next member
    simp only [Function.comp_apply, Cursor.within_upTo (body.ends_reaches cursor next member)]
    rfl
  | notAhead body ih =>
    intro cursor clean
    simp only [ends, ih unanchored stopped cursor clean, List.isEmpty_map]
    exact kept cursor
  | backReference =>
    intro cursor clean
    have same := @isPrefixOf_within (cursor.captured.getD []) cursor.ahead right (by
      intro stop isStop
      cases captured : cursor.captured with
      | none => exact List.not_mem_nil
      | some text => exact clean stop isStop text captured)
    cases stands : (cursor.captured.getD []).isPrefixOf cursor.ahead with
    | false =>
      rw [stands] at same
      simp [ends, Cursor.within, same, stands]
    | true =>
      have long := (List.isPrefixOf_iff_prefix.mp stands).length_le
      rw [stands] at same
      simp [ends, Cursor.within, same, stands, List.drop_append_of_le_length long]

theorem mem_positions_iff {behind text : Text} {cursor : Cursor} :
    cursor ∈ positions behind text ↔ ∃ before after, text = before ++ after ∧
      cursor = { behind := before.reverse ++ behind, ahead := after } := by
  constructor
  · intro member
    induction text generalizing behind with
    | nil => exact ⟨[], [], rfl, List.mem_singleton.mp member⟩
    | cons c rest ih =>
      rcases List.mem_cons.mp member with rfl | later
      · exact ⟨[], c :: rest, rfl, rfl⟩
      · obtain ⟨before, after, rfl, rfl⟩ := ih later
        exact ⟨c :: before, after, rfl, by simp⟩
  · rintro ⟨before, after, rfl, rfl⟩
    exact mem_positions behind before after

theorem test_iff {pattern : Pattern} {text : Text} : pattern.test text = true ↔
    ∃ before after, text = before ++ after ∧
      pattern.ends { behind := before.reverse, ahead := after } ≠ [] := by
  simp only [test, List.any_eq_true, mem_positions_iff, List.append_nil, Bool.not_eq_true',
    List.isEmpty_eq_false_iff]
  constructor
  · rintro ⟨cursor, ⟨before, after, rfl, rfl⟩, some⟩
    exact ⟨before, after, rfl, some⟩
  · rintro ⟨before, after, rfl, some⟩
    exact ⟨_, ⟨before, after, rfl, rfl⟩, some⟩

theorem test_append_stop {pattern : Pattern} {stop : Char} (unanchored : pattern.unanchored = true)
    (stops : pattern.stopsAt stop = true) (noWord : isWordChar stop = false) (before after : Text) :
    pattern.test (before ++ stop :: after) = (pattern.test before || pattern.test after) := by
  have fresh (right behind ahead : Text) : Clean right { behind, ahead } := by
    intro stop _ text isText
    cases isText
  have first (left right : Text) : pattern.ends { behind := left, ahead := right ++ stop :: after } =
      (pattern.ends { behind := left, ahead := right }).map (·.within [] (stop :: after)) := by
    have alike := @ends_within [] (stop :: after) rfl noWord pattern unanchored
      (fun c isStop => Option.some.inj isStop ▸ stops) { behind := left, ahead := right }
      (fresh _ _ _)
    simpa [Cursor.within] using alike
  have second (left right : Text) : pattern.ends
        { behind := left ++ stop :: before.reverse, ahead := right } =
      (pattern.ends { behind := left, ahead := right }).map
        (·.within (stop :: before.reverse) []) := by
    have alike := @ends_within (stop :: before.reverse) [] noWord rfl pattern unanchored
      (fun c isStop => by cases isStop) { behind := left, ahead := right } (fresh _ _ _)
    simpa [Cursor.within] using alike
  rw [Bool.eq_iff_iff, Bool.or_eq_true]
  simp only [test_iff]
  constructor
  · rintro ⟨left, right, whole, some⟩
    rcases List.append_eq_append_iff.mp whole with ⟨read, rfl, rest⟩ | ⟨read, rfl, rfl⟩
    · cases read with
      | nil =>
        rw [List.nil_append] at rest
        rw [← rest, List.append_nil, ← List.nil_append (stop :: after), first] at some
        exact .inl ⟨before, [], by simp, fun none => some (by rw [none, List.map_nil])⟩
      | cons c read =>
        obtain ⟨rfl, rfl⟩ := List.cons.inj rest
        rw [List.reverse_append, List.reverse_cons, List.append_assoc, List.singleton_append,
          second] at some
        exact .inr ⟨read, right, rfl, fun none => some (by rw [none, List.map_nil])⟩
    · rw [first] at some
      exact .inl ⟨left, read, rfl, fun none => some (by rw [none, List.map_nil])⟩
  · rintro (⟨left, right, rfl, some⟩ | ⟨left, right, rfl, some⟩)
    · refine ⟨left, right ++ stop :: after, by simp, ?_⟩
      rw [first]
      exact fun none => some (List.map_eq_nil_iff.mp none)
    · refine ⟨before ++ stop :: left, right, by simp, ?_⟩
      rw [List.reverse_append, List.reverse_cons, List.append_assoc, List.singleton_append, second]
      exact fun none => some (List.map_eq_nil_iff.mp none)

theorem scanFrom_hits {pattern : Pattern} {fuel : Nat} {cursor : Cursor}
    (fresh : cursor.captured = none) (enough : cursor.ahead.length < fuel) :
    (∀ piece ∈ pattern.scanFrom fuel cursor, ∃ c, piece = .plain c) ↔
      ∀ read rest, cursor.ahead = read ++ rest →
        pattern.ends { behind := read.reverse ++ cursor.behind, ahead := rest } = [] := by
  induction fuel generalizing cursor with
  | zero => exact absurd enough (Nat.not_lt_zero _)
  | succ fuel ih =>
    obtain ⟨behind, ahead, captured⟩ := cursor
    obtain rfl : captured = none := fresh
    rcases pattern.scanFrom_turn fuel { behind, ahead } with
      ⟨none, turn⟩ | ⟨next, inEnds, _, ⟨_, turn⟩ | ⟨_, turn⟩⟩
    · rw [turn, passes]
      cases ahead with
      | nil =>
        constructor
        · intro _ read rest split
          obtain ⟨rfl, rfl⟩ := List.append_eq_nil_iff.mp split.symm
          exact none
        · intro _ piece member
          cases member
      | cons c rest =>
        simp only [List.forall_mem_cons]
        rw [ih rfl (Nat.lt_of_succ_lt_succ enough)]
        constructor
        · rintro ⟨_, later⟩ read others split
          cases read with
          | nil =>
            obtain rfl : c :: rest = others := split
            exact none
          | cons d read =>
            obtain ⟨rfl, whole⟩ := List.cons.inj split
            simpa using later read others whole
        · intro nowhere
          refine ⟨⟨c, rfl⟩, fun read others split => ?_⟩
          have later := nowhere (c :: read) others (by rw [List.cons_append, ← split])
          simpa using later
    · rw [turn, List.forall_mem_cons]
      constructor
      · rintro ⟨⟨c, isPlain⟩, _⟩
        cases isPlain
      · intro nowhere
        have none := nowhere [] ahead rfl
        rw [List.reverse_nil, List.nil_append] at none
        rw [none] at inEnds
        cases inEnds
    · rw [turn, List.forall_mem_cons]
      constructor
      · rintro ⟨⟨c, isPlain⟩, _⟩
        cases isPlain
      · intro nowhere
        have none := nowhere [] ahead rfl
        rw [List.reverse_nil, List.nil_append] at none
        rw [none] at inEnds
        cases inEnds

end Pattern

end StoryEngine.Text
