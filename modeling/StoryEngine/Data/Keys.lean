import StoryEngine.Data.Rows

namespace StoryEngine.Data

/-! # Unique keys, references and loops of statements -/

universe u v w

variable {ρ : Type u} {κ : Type v}

/-- No two rows have the same key; a row without one, as with a null column,
clashes with no other row. -/
def UniqueBy (key : ρ → Option κ) (rows : List ρ) : Prop := (rows.filterMap key).Nodup

instance [DecidableEq κ] (key : ρ → Option κ) (rows : List ρ) : Decidable (UniqueBy key rows) :=
  inferInstanceAs (Decidable (List.Nodup _))

theorem UniqueBy.eq {key : ρ → Option κ} {rows : List ρ} (unique : UniqueBy key rows)
    {left right : ρ} {value : κ} (inLeft : left ∈ rows) (inRight : right ∈ rows)
    (keyLeft : key left = some value) (keyRight : key right = some value) : left = right := by
  induction rows with
  | nil => cases inLeft
  | cons row rest ih =>
    have elsewhere {other : ρ} (inRest : other ∈ rest) (keyOther : key other = some value)
        (keyRow : key row = some value) : False := by
      unfold UniqueBy at unique
      rw [List.filterMap_cons_some keyRow] at unique
      exact (List.nodup_cons.mp unique).1 (List.mem_filterMap.mpr ⟨other, inRest, keyOther⟩)
    have uniqueRest : UniqueBy key rest :=
      unique.sublist (List.Sublist.filterMap key (List.sublist_cons_self row rest))
    rcases List.mem_cons.mp inLeft with rfl | leftInRest
    · rcases List.mem_cons.mp inRight with rfl | rightInRest
      · rfl
      · exact (elsewhere rightInRest keyRight keyLeft).elim
    · rcases List.mem_cons.mp inRight with rfl | rightInRest
      · exact (elsewhere leftInRest keyLeft keyRight).elim
      · exact ih uniqueRest leftInRest rightInRest

theorem uniqueBy_iff {key : ρ → Option κ} {rows : List ρ} (distinct : rows.Nodup) :
    UniqueBy key rows ↔ ∀ left ∈ rows, ∀ right ∈ rows, ∀ value,
      key left = some value → key right = some value → left = right := by
  refine ⟨fun unique left inLeft right inRight value => unique.eq inLeft inRight, fun unique => ?_⟩
  induction rows with
  | nil => exact List.nodup_nil
  | cons row rest ih =>
    obtain ⟨new, distinctRest⟩ := List.nodup_cons.mp distinct
    have tail : UniqueBy key rest := ih distinctRest fun left inLeft right inRight =>
      unique left (List.mem_cons_of_mem _ inLeft) right (List.mem_cons_of_mem _ inRight)
    unfold UniqueBy at tail ⊢
    cases own : key row with
    | none => rwa [List.filterMap_cons_none own]
    | some value =>
      rw [List.filterMap_cons_some own]
      refine List.nodup_cons.mpr ⟨fun member => ?_, tail⟩
      obtain ⟨other, inRest, same⟩ := List.mem_filterMap.mp member
      obtain rfl := unique row List.mem_cons_self other (List.mem_cons_of_mem _ inRest)
        value own same
      exact new inRest

theorem nodup_of_keys {key : ρ → κ} {rows : List ρ} (distinct : (rows.map key).Nodup) :
    rows.Nodup :=
  List.Nodup.of_map key distinct

theorem eq_of_key {key : ρ → κ} {rows : List ρ} (distinct : (rows.map key).Nodup) {left right : ρ}
    (inLeft : left ∈ rows) (inRight : right ∈ rows) (same : key left = key right) : left = right :=
  List.inj_on_of_nodup_map distinct inLeft inRight same

theorem contains_keys [BEq κ] [LawfulBEq κ] {key : ρ → κ} {rows : List ρ} {selects : ρ → Bool}
    {row : ρ} (distinct : (rows.map key).Nodup) (member : row ∈ rows) :
    ((rows.filter selects).map key).contains (key row) = selects row := by
  refine Bool.eq_iff_iff.mpr ?_
  simp only [List.contains_iff_mem, List.mem_map, List.mem_filter]
  constructor
  · rintro ⟨other, ⟨inRows, selected⟩, same⟩
    rwa [← eq_of_key distinct inRows member same]
  · intro selected
    exact ⟨row, ⟨member, selected⟩, rfl⟩

section

variable {key : ρ → κ} {rows : List ρ} {selects : ρ → Bool} {update : ρ → ρ}

theorem nodup_updateWhere (kept : ∀ row, key (update row) = key row)
    (distinct : (rows.map key).Nodup) : ((updateWhere rows selects update).map key).Nodup := by
  rwa [map_updateWhere kept]

theorem nodup_deleteWhere (distinct : (rows.map key).Nodup) :
    ((deleteWhere rows selects).map key).Nodup :=
  distinct.sublist (List.filter_sublist.map key)

end

section

variable {key : ρ → Option κ} {rows : List ρ} {selects : ρ → Bool} {update : ρ → ρ}

theorem filterMap_updateWhere (kept : ∀ row, key (update row) = key row) :
    (updateWhere rows selects update).filterMap key = rows.filterMap key := by
  simp only [updateWhere, List.filterMap_map]
  refine List.filterMap_congr fun row _ => ?_
  simp only [Function.comp_apply]
  split
  · exact kept row
  · rfl

theorem UniqueBy.updateWhere (unique : UniqueBy key rows)
    (kept : ∀ row, key (update row) = key row) : UniqueBy key (updateWhere rows selects update) := by
  rw [UniqueBy, filterMap_updateWhere kept]
  exact unique

theorem UniqueBy.deleteWhere (unique : UniqueBy key rows) :
    UniqueBy key (deleteWhere rows selects) :=
  unique.sublist (List.filter_sublist.filterMap key)

theorem UniqueBy.append {row : ρ} (unique : UniqueBy key rows)
    (free : ∀ old ∈ rows, ∀ value, key old = some value → key row ≠ some value) :
    UniqueBy key (rows ++ [row]) := by
  unfold UniqueBy at unique ⊢
  rw [List.filterMap_append, List.nodup_append]
  refine ⟨unique, ?_, ?_⟩
  · cases known : key row with
    | none => rw [List.filterMap_cons_none known]; exact List.nodup_nil
    | some value => rw [List.filterMap_cons_some known]; exact List.nodup_singleton value
  · intro value inOld other isNew same
    obtain ⟨old, member, atOld⟩ := List.mem_filterMap.mp inOld
    obtain ⟨found, isRow, atNew⟩ := List.mem_filterMap.mp isNew
    obtain rfl := List.mem_singleton.mp isRow
    exact free old member value atOld (same ▸ atNew)

end

/-- Every row that refers to a parent refers to one of the given keys. -/
def References (column : ρ → Option κ) (rows : List ρ) (keys : List κ) : Prop :=
  ∀ target ∈ rows.filterMap column, target ∈ keys

instance [DecidableEq κ] (column : ρ → Option κ) (rows : List ρ) (keys : List κ) :
    Decidable (References column rows keys) :=
  inferInstanceAs (Decidable (∀ target ∈ _, _))

theorem references_iff {column : ρ → Option κ} {rows : List ρ} {keys : List κ} :
    References column rows keys ↔
      ∀ row ∈ rows, ∀ target, column row = some target → target ∈ keys := by
  simp only [References, List.mem_filterMap]
  constructor
  · intro refers row member target known
    exact refers target ⟨row, member, known⟩
  · rintro refers target ⟨row, member, known⟩
    exact refers row member target known

section

variable {column : ρ → Option κ} {rows : List ρ} {keys : List κ} {selects : ρ → Bool}
  {update : ρ → ρ}

theorem References.updateWhere (refers : References column rows keys)
    (target : ∀ row, column (update row) = column row ∨
      ∀ value, column (update row) = some value → value ∈ keys) :
    References column (updateWhere rows selects update) keys := by
  rw [references_iff] at refers ⊢
  intro row member value known
  obtain ⟨old, inOld, ⟨_, rfl⟩ | ⟨_, rfl⟩⟩ := mem_updateWhere.mp member
  · rcases target old with same | present
    · exact refers old inOld value (same ▸ known)
    · exact present value known
  · exact refers row inOld value known

theorem References.deleteWhere (refers : References column rows keys) :
    References column (deleteWhere rows selects) keys := by
  rw [references_iff] at refers ⊢
  exact fun row member => refers row (mem_deleteWhere.mp member).1

theorem References.wider {more : List κ} (refers : References column rows keys)
    (stays : ∀ value ∈ keys, value ∈ more) : References column rows more :=
  fun target member => stays target (refers target member)

theorem References.fewer {remaining : List κ} {gone : κ} (refers : References column rows keys)
    (apart : ∀ row ∈ rows, column row ≠ some gone)
    (stays : ∀ value ∈ keys, value ≠ gone → value ∈ remaining) :
    References column rows remaining := by
  rw [references_iff] at refers ⊢
  intro row member target known
  refine stays target (refers row member target known) fun same => ?_
  exact apart row member (known.trans (congrArg some same))

end

/-- The table after every row of a list was changed or, where the change gives
nothing, deleted. -/
def passed [DecidableEq ρ] (change : ρ → Option ρ) (done rows : List ρ) : List ρ :=
  rows.filterMap fun row => if row ∈ done then change row else some row

section

variable [DecidableEq ρ] {change : ρ → Option ρ} {done rows : List ρ}
  {key : ρ → κ} {item : ρ}

@[simp] theorem passed_nil : passed change [] rows = rows := by
  simp [passed]

theorem mem_passed {row : ρ} :
    row ∈ passed change done rows ↔
      ∃ old ∈ rows, (old ∈ done ∧ change old = some row) ∨ (old ∉ done ∧ row = old) := by
  simp only [passed, List.mem_filterMap]
  constructor
  · rintro ⟨old, member, known⟩
    refine ⟨old, member, ?_⟩
    split at known
    · exact .inl ⟨‹_›, known⟩
    · exact .inr ⟨‹_›, (Option.some.inj known).symm⟩
  · rintro ⟨old, member, ⟨inDone, known⟩ | ⟨notDone, rfl⟩⟩
    · exact ⟨old, member, by rw [if_pos inDone, known]⟩
    · exact ⟨row, member, by rw [if_neg notDone]⟩

theorem passed_filter {selects : ρ → Bool} :
    passed change (rows.filter selects) rows =
      rows.filterMap fun row => if selects row then change row else some row := by
  refine List.filterMap_congr fun row member => ?_
  simp [List.mem_filter, member]

theorem mem_passed_filter {selects : ρ → Bool} {row : ρ} :
    row ∈ passed change (rows.filter selects) rows ↔
      (row ∈ rows ∧ selects row = false) ∨
        ∃ old ∈ rows, selects old = true ∧ change old = some row := by
  rw [mem_passed]
  constructor
  · rintro ⟨old, member, ⟨inDone, changed⟩ | ⟨notDone, rfl⟩⟩
    · exact .inr ⟨old, member, (List.mem_filter.mp inDone).2, changed⟩
    · exact .inl ⟨member, by simpa [member] using notDone⟩
  · rintro (⟨member, outside⟩ | ⟨old, member, selected, changed⟩)
    · exact ⟨row, member, .inr ⟨by simp [outside], rfl⟩⟩
    · exact ⟨old, member, .inl ⟨List.mem_filter.mpr ⟨member, selected⟩, changed⟩⟩

theorem passed_keys (kept : ∀ row new, change row = some new → key new = key row)
    (distinct : (rows.map key).Nodup) : ((passed change done rows).map key).Nodup := by
  refine distinct.sublist ?_
  unfold passed
  clear distinct
  induction rows with
  | nil => exact List.Sublist.refl _
  | cons row rest ih =>
    rw [List.filterMap_cons, List.map_cons]
    split
    · exact ih.cons _
    · rename_i new known
      have same : key new = key row := by
        split at known
        · exact kept row new known
        · rw [Option.some.inj known]
      rw [List.map_cons, same]
      exact ih.cons_cons _

variable [BEq κ] [LawfulBEq κ]

theorem passed_delete (kept : ∀ row new, change row = some new → key new = key row)
    (distinct : (rows.map key).Nodup) (member : item ∈ rows) (fresh : item ∉ done)
    (gone : change item = none) :
    deleteWhere (passed change done rows) (fun row => key row == key item) =
      passed change (done ++ [item]) rows := by
  unfold deleteWhere passed
  rw [List.filter_filterMap]
  refine List.filterMap_congr fun row inRows => ?_
  by_cases isItem : row = item
  · subst isItem
    simp [fresh, gone]
  · have other : key row ≠ key item := fun same => isItem (eq_of_key distinct inRows member same)
    by_cases inDone : row ∈ done
    · cases known : change row with
      | none => simp [inDone]
      | some new => simp [inDone, kept row new known, other]
    · simp [inDone, isItem, other]

theorem passed_update {update : ρ → ρ}
    (kept : ∀ row new, change row = some new → key new = key row)
    (distinct : (rows.map key).Nodup) (member : item ∈ rows) (fresh : item ∉ done)
    (changed : change item = some (update item)) :
    updateWhere (passed change done rows) (fun row => key row == key item) update =
      passed change (done ++ [item]) rows := by
  unfold updateWhere passed
  rw [List.map_filterMap]
  refine List.filterMap_congr fun row inRows => ?_
  by_cases isItem : row = item
  · subst isItem
    simp [fresh, changed]
  · have other : key row ≠ key item := fun same => isItem (eq_of_key distinct inRows member same)
    by_cases inDone : row ∈ done
    · cases known : change row with
      | none => simp [inDone]
      | some new => simp [inDone, kept row new known, other]
    · simp [inDone, isItem, other]

end

theorem selection_turn {rows done rest : List ρ} {item : ρ} {selects : ρ → Bool}
    (distinct : rows.Nodup) (whole : rows.filter selects = done ++ item :: rest) :
    item ∈ rows ∧ selects item = true ∧ item ∉ done ∧
      ∀ row ∈ done, row ∈ rows ∧ selects row = true := by
  have inSelection : item ∈ rows.filter selects := by simp [whole]
  have notDone : item ∉ done := by
    have split := whole ▸ distinct.filter selects
    intro inDone
    exact (List.nodup_append.mp split).2.2 item inDone item List.mem_cons_self rfl
  refine ⟨(List.mem_filter.mp inSelection).1, (List.mem_filter.mp inSelection).2, notDone, ?_⟩
  intro row inDone
  have member : row ∈ rows.filter selects := by simp [whole, inDone]
  exact List.mem_filter.mp member

/-- A change that gives rows to another owner, unless the owner already has a
row with the same label. -/
structure Reassigns {φ : Type w} (owner : ρ → κ) (label : ρ → φ) (target : κ) (rows : List ρ)
    (change : ρ → Option ρ) : Prop where
  given : ∀ row new, change row = some new → owner new = target
  labelled : ∀ row new, change row = some new → label new = label row
  free : ∀ row new, change row = some new → ∀ old ∈ rows, owner old = target →
    label old ≠ label row

theorem UniqueBy.passed {φ : Type w} [DecidableEq ρ] {owner : ρ → κ} {label : ρ → φ}
    {source target : κ} {rows done : List ρ} {change : ρ → Option ρ}
    (reassigns : Reassigns owner label target rows change)
    (unique : UniqueBy (fun row => some (owner row, label row)) rows) (distinct : rows.Nodup)
    (distinctAfter : (passed change done rows).Nodup)
    (owned : ∀ row ∈ done, owner row = source) :
    UniqueBy (fun row => some (owner row, label row)) (Data.passed change done rows) := by
  rw [uniqueBy_iff distinct] at unique
  rw [uniqueBy_iff distinctAfter]
  intro left inLeft right inRight value atLeft atRight
  have same := Option.some.inj (atLeft.trans atRight.symm)
  obtain ⟨sameOwner, sameLabel⟩ := Prod.mk.inj same
  -- A reassigned row cannot meet a row that has been there before.
  have apart {old new stays : ρ} (changed : change old = some new) (member : stays ∈ rows)
      (ownerSame : owner new = owner stays) (labelSame : label new = label stays) : False :=
    reassigns.free old new changed stays member (ownerSame.symm.trans (reassigns.given old new changed))
      (labelSame.symm.trans (reassigns.labelled old new changed))
  obtain ⟨oldLeft, memberLeft, ⟨doneLeft, knownLeft⟩ | ⟨_, rfl⟩⟩ := mem_passed.mp inLeft
  · obtain ⟨oldRight, memberRight, ⟨doneRight, knownRight⟩ | ⟨_, rfl⟩⟩ := mem_passed.mp inRight
    · have labels : label oldLeft = label oldRight := by
        rw [← reassigns.labelled oldLeft left knownLeft, ← reassigns.labelled oldRight right knownRight]
        exact sameLabel
      obtain rfl := unique oldLeft memberLeft oldRight memberRight (source, label oldLeft)
        (by rw [owned oldLeft doneLeft]) (by rw [owned oldRight doneRight, labels])
      exact Option.some.inj (knownLeft.symm.trans knownRight)
    · exact (apart knownLeft memberRight sameOwner sameLabel).elim
  · obtain ⟨oldRight, memberRight, ⟨_, knownRight⟩ | ⟨_, rfl⟩⟩ := mem_passed.mp inRight
    · exact (apart knownRight memberLeft sameOwner.symm sameLabel.symm).elim
    · exact unique left memberLeft right memberRight value atLeft atRight

section

variable {σ : Type w} {α : Type u} {ε : Type w} {body : σ → α → Except ε σ} {items : List α}

/-- What holds before a loop and is kept by each turn that succeeds holds after
a loop that succeeds. -/
theorem foldlM_invariant (invariant : List α → σ → Prop)
    (keeps : ∀ done item rest state next, items = done ++ item :: rest → invariant done state →
      body state item = .ok next → invariant (done ++ [item]) next)
    {start final : σ} (initial : invariant [] start) (ran : items.foldlM body start = .ok final) :
    invariant items final := by
  suffices general : ∀ rest done state, items = done ++ rest → invariant done state →
      rest.foldlM body state = .ok final → invariant items final from
    general items [] start rfl initial ran
  intro rest
  induction rest with
  | nil =>
    intro done state whole held ranRest
    rw [List.append_nil] at whole
    obtain rfl : state = final := by simpa [pure, Except.pure] using ranRest
    exact whole ▸ held
  | cons item rest ih =>
    intro done state whole held ranRest
    rw [List.foldlM_cons] at ranRest
    cases turned : body state item with
    | error failure =>
      rw [turned] at ranRest
      cases ranRest
    | ok next =>
      rw [turned] at ranRest
      exact ih (done ++ [item]) next (by simpa using whole)
        (keeps done item rest state next whole held turned) ranRest

/-- A loop whose turns lead from one state of a known sequence to the next
succeeds in the last one. -/
theorem foldlM_eq_ok (closed : List α → σ)
    (turn : ∀ done item rest, items = done ++ item :: rest →
      body (closed done) item = .ok (closed (done ++ [item]))) :
    items.foldlM body (closed []) = .ok (closed items) := by
  suffices general : ∀ rest done, items = done ++ rest →
      rest.foldlM body (closed done) = .ok (closed items) from general items [] rfl
  intro rest
  induction rest with
  | nil =>
    intro done whole
    rw [whole, List.append_nil]
    rfl
  | cons item rest ih =>
    intro done whole
    rw [List.foldlM_cons, turn done item rest whole]
    exact ih (done ++ [item]) (by simpa using whole)

end

end StoryEngine.Data
