import StoryEngine.Text.Reading

namespace StoryEngine.Text

/-! # What a replacement leaves

The pieces of a scan are the text again, with the label in the place of each match: at a character
that was left no match of the pattern begins, and at a match the pattern reads just what it holds.
-/

namespace Pattern

def Piece.put (label : Text) : Piece → Text
  | .plain c => [c]
  | .hit _ _ _ _ => label

def source (pieces : List Piece) : Text := pieces.flatMap Piece.source

def rendered (label : Text) (pieces : List Piece) : Text := pieces.flatMap (Piece.put label)

def Turn (pattern : Pattern) (cursor : Cursor) : Piece → Prop
  | .plain _ => pattern.ends cursor = []
  | .hit behind matched ahead _ => behind = cursor.behind ∧ matched ++ ahead = cursor.ahead ∧
      ∃ next ∈ pattern.ends cursor, next.ahead = ahead ∧
        next.behind = matched.reverse ++ behind ∧ cursor.upTo next = matched

section

variable {pattern : Pattern} {label text left right wanted before after first rest : Text}
  {pieces : List Piece}

theorem source_append (earlier later : List Piece) :
    source (earlier ++ later) = source earlier ++ source later := List.flatMap_append

theorem rendered_append (label : Text) (earlier later : List Piece) :
    rendered label (earlier ++ later) = rendered label earlier ++ rendered label later :=
  List.flatMap_append

theorem rendered_cons (label : Text) (piece : Piece) (later : List Piece) :
    rendered label (piece :: later) = Piece.put label piece ++ rendered label later :=
  List.flatMap_cons

theorem rendered_hit {behind matched ahead : Text} {captured : Option Text} (label : Text)
    (later : List Piece) : rendered label (.hit behind matched ahead captured :: later) =
      label ++ rendered label later := List.flatMap_cons

theorem expand_plain {matched : Text} (plain : '$' ∉ label) :
    expand matched before after label = label := by
  induction label using expand.induct with
  | case1 => rfl
  | case2 c => rfl
  | case3 c rest => exact absurd List.mem_cons_self plain
  | case4 => exact absurd List.mem_cons_self plain
  | case5 => exact absurd List.mem_cons_self plain
  | case6 => exact absurd List.mem_cons_self plain
  | case7 => exact absurd List.mem_cons_self plain
  | case8 c rest _ _ ih =>
    rw [expand, ih fun inRest => plain (List.mem_cons_of_mem c inRest)]
    all_goals assumption

theorem replace_eq (plain : '$' ∉ label) (pattern : Pattern) (text : Text) :
    pattern.replace label text = rendered label (pattern.scan text) := by
  rw [replace, rendered]
  apply List.flatMap_congr
  intro piece _
  cases piece with
  | plain c => rfl
  | hit behind matched ahead captured => exact expand_plain plain

theorem scan_source (pattern : Pattern) (text : Text) : source (pattern.scan text) = text :=
  pattern.scanFrom_source (text.length + 1) (Cursor.ofText text)

theorem scanFrom_piece (consumes : pattern.consumes = true) {fuel : Nat} {cursor : Cursor}
    {earlier later : List Piece} {piece : Piece} (fresh : cursor.captured = none)
    (enough : cursor.ahead.length < fuel)
    (split : pattern.scanFrom fuel cursor = earlier ++ piece :: later) :
    pattern.Turn { behind := (source earlier).reverse ++ cursor.behind
                   ahead := piece.source ++ source later } piece := by
  induction fuel generalizing cursor earlier with
  | zero => exact absurd enough (Nat.not_lt_zero _)
  | succ fuel ih =>
    have whole := pattern.scanFrom_source (fuel + 1) cursor
    obtain ⟨behind, ahead, captured⟩ := cursor
    obtain rfl : captured = none := fresh
    rcases pattern.scanFrom_turn fuel { behind, ahead } with
      ⟨none, turn⟩ | ⟨next, inEnds, _, ⟨less, turn⟩ | ⟨more, _⟩⟩
    · rw [turn, passes] at split
      cases ahead with
      | nil => exact absurd split.symm (by simp)
      | cons c rest =>
        cases earlier with
        | nil =>
          obtain ⟨rfl, tail⟩ := List.cons.inj split
          have remains := pattern.scanFrom_source fuel { behind := c :: behind, ahead := rest }
          rw [tail] at remains
          simp only [Turn, source, remains, List.flatMap_nil, List.reverse_nil,
            List.nil_append, Piece.source, List.singleton_append]
          exact none
        | cons other earlier =>
          obtain ⟨rfl, tail⟩ := List.cons.inj split
          have later := ih rfl (Nat.lt_of_succ_lt_succ enough) tail
          simpa [source, Piece.source] using later
    · obtain ⟨read, aheadIs, behindIs⟩ := pattern.ends_reaches _ next inEnds
      replace aheadIs : ahead = read ++ next.ahead := aheadIs
      replace less : next.ahead.length < ahead.length := less
      replace enough : ahead.length < fuel + 1 := enough
      have reads := (pattern.ends_reaches _ next inEnds).ahead_eq
      replace reads : ahead = Cursor.upTo { behind, ahead } next ++ next.ahead := reads
      have isRead : Cursor.upTo { behind, ahead } next = read :=
        List.append_cancel_right (reads.symm.trans aheadIs)
      rw [turn] at split
      cases earlier with
      | nil =>
        obtain ⟨rfl, tail⟩ := List.cons.inj split
        have remains := pattern.scanFrom_source fuel { next with captured := none }
        rw [tail] at remains
        replace remains : source later = next.ahead := remains
        have here : ({ behind := (source []).reverse ++ behind
                       ahead := Cursor.upTo { behind, ahead } next ++ source later } : Cursor) =
            { behind, ahead } := by
          rw [remains, ← reads]
          rfl
        rw [Piece.source, here]
        refine ⟨rfl, reads.symm, next, inEnds, rfl, ?_, rfl⟩
        rw [isRead]
        exact behindIs
      | cons other earlier =>
        obtain ⟨rfl, tail⟩ := List.cons.inj split
        have enoughNext : ({ next with captured := none } : Cursor).ahead.length < fuel :=
          Nat.lt_of_lt_of_le less (Nat.le_of_lt_succ enough)
        have later := ih rfl enoughNext tail
        have joined : (source earlier).reverse ++ next.behind =
            (source (.hit behind (Cursor.upTo { behind, ahead } next) next.ahead next.captured ::
              earlier)).reverse ++ behind := by
          rw [isRead, behindIs, source, source, List.flatMap_cons, List.reverse_append,
            List.append_assoc, Piece.source]
        rw [← joined]
        exact later
    · exact absurd (pattern.ends_consume consumes _ next inEnds) more

theorem scan_piece (consumes : pattern.consumes = true) {earlier later : List Piece} {piece : Piece}
    (split : pattern.scan text = earlier ++ piece :: later) :
    pattern.Turn { behind := (source earlier).reverse, ahead := piece.source ++ source later }
      piece := by
  have turn := scanFrom_piece consumes rfl (Nat.lt_succ_self _) split
  rwa [Cursor.ofText, List.append_nil] at turn

theorem rendered_plain (label text : Text) : rendered label (text.map .plain) = text := by
  induction text with
  | nil => rfl
  | cons c rest ih =>
    rw [List.map_cons, rendered_cons, ih]
    rfl

theorem source_plain (text : Text) : source (text.map .plain) = text := by
  induction text with
  | nil => rfl
  | cons c rest ih =>
    rw [List.map_cons, source, List.flatMap_cons, ← source, ih]
    rfl

end

end Pattern

end StoryEngine.Text
