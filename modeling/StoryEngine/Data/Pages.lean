import Mathlib.Data.List.Basic
import Mathlib.Data.List.Nodup
import Mathlib.Data.List.Perm.Subperm
import Mathlib.Data.List.Sort
import Mathlib.Order.Lattice

namespace StoryEngine.Data

/-! # Limited results

A query with an order and a limit answers with the first items in that order, ties in
any order.
-/

universe u v

section

variable {α : Type u} {κ : Type v} [LinearOrder κ]

def TopBy (key : α → κ) (limit : Nat) (items rows : List α) : Prop :=
  ∃ sorted : List α, sorted.Perm items ∧ sorted.Pairwise (key · ≤ key ·) ∧
    rows = sorted.take limit

theorem mem_take_of_lt {key : α → κ} {bound : κ} {sorted : List α} {limit : Nat} {item : α}
    (ascending : sorted.Pairwise (key · ≤ key ·))
    (few : (sorted.filter fun row => decide (key row < bound)).length ≤ limit)
    (member : item ∈ sorted) (below : key item < bound) : item ∈ sorted.take limit := by
  induction sorted generalizing limit with
  | nil => cases member
  | cons first rest ih =>
    obtain ⟨least, ascendingRest⟩ := List.pairwise_cons.mp ascending
    have firstBelow : key first < bound := by
      rcases List.mem_cons.mp member with rfl | inRest
      · exact below
      · exact (least item inRest).trans_lt below
    rw [List.filter_cons_of_pos (by simpa using firstBelow), List.length_cons] at few
    obtain ⟨remaining, rfl⟩ : ∃ remaining, limit = remaining + 1 :=
      ⟨limit - 1, (Nat.sub_add_cancel (Nat.le_trans (Nat.succ_le_succ (Nat.zero_le _)) few)).symm⟩
    rw [List.take_succ_cons]
    rcases List.mem_cons.mp member with rfl | inRest
    · exact List.mem_cons_self
    · exact List.mem_cons_of_mem _ (ih ascendingRest (Nat.le_of_succ_le_succ few) inRest)

namespace TopBy

variable {key : α → κ} {limit : Nat} {items rows : List α} {bound : κ}

theorem length_le (top : TopBy key limit items rows) : rows.length ≤ limit := by
  obtain ⟨sorted, _, _, rfl⟩ := top
  exact List.length_take_le limit sorted

theorem mem {row : α} (top : TopBy key limit items rows) (member : row ∈ rows) : row ∈ items := by
  obtain ⟨sorted, same, _, rfl⟩ := top
  exact same.mem_iff.mp (List.mem_of_mem_take member)

theorem covers_iff (top : TopBy key limit items rows) (distinct : items.Nodup) :
    (∀ item ∈ items, key item < bound → item ∈ rows) ↔
      (items.filter fun row => decide (key row < bound)).length ≤ limit := by
  constructor
  · intro covers
    have within : (items.filter fun row => decide (key row < bound)) ⊆ rows := by
      intro item member
      obtain ⟨inItems, below⟩ := List.mem_filter.mp member
      exact covers item inItems (by simpa using below)
    exact Nat.le_trans ((distinct.filter _).subperm within).length_le top.length_le
  · intro few item member below
    obtain ⟨sorted, same, ascending, rfl⟩ := top
    exact mem_take_of_lt ascending ((same.filter _).length_eq ▸ few) (same.mem_iff.mpr member) below

end TopBy

end

/-! ## Numbered pages

A list is shown by pages of one length, which are counted from 1.
-/

section

variable {α : Type u} {limit page : Nat}

/-- `items.slice((page - 1) * limit, page * limit)` -/
def pageAt (limit page : Nat) (items : List α) : List α :=
  (items.take (page * limit)).drop ((page - 1) * limit)

/-- `Math.ceil(total / limit)` -/
def pageCount (limit total : Nat) : Nat := (total + limit - 1) / limit

theorem pageAt_sublist (items : List α) : (pageAt limit page items).Sublist items :=
  (List.drop_sublist _ _).trans (List.take_sublist _ _)

theorem pageAt_succ (items : List α) :
    pageAt limit (page + 1) items = (items.drop (page * limit)).take limit := by
  rw [pageAt, Nat.add_sub_cancel, Nat.succ_mul, List.drop_take, Nat.add_sub_cancel_left]

theorem flatMap_pageAt (count : Nat) (items : List α) :
    ((List.range count).flatMap fun page => pageAt limit (page + 1) items) =
      items.take (count * limit) := by
  induction count with
  | zero => simp
  | succ count ih =>
    rw [List.range_succ, List.flatMap_append, ih, Nat.succ_mul, List.take_add,
      List.flatMap_singleton, pageAt_succ]

theorem le_pageCount_mul (positive : 0 < limit) (total : Nat) :
    total ≤ pageCount limit total * limit := by
  have rounded := Nat.div_add_mod (total + limit - 1) limit
  have rest := Nat.mod_lt (total + limit - 1) positive
  rw [pageCount, Nat.mul_comm]
  omega

theorem pages_partition (positive : 0 < limit) (items : List α) :
    ((List.range (pageCount limit items.length)).flatMap fun page =>
      pageAt limit (page + 1) items) = items := by
  rw [flatMap_pageAt]
  exact List.take_of_length_le (le_pageCount_mul positive items.length)

end

/-! ## Pages by a cursor on a key

Each page asks for the first rows beyond the key of the last row of the page before, one more
than it shows.  Rows that share the key of a page's last row are not beyond it.
-/

section

variable {κ : Type v}

def CleanCuts (limit : Nat) (keys : List κ) : Prop :=
  ∀ page, 0 < page → ∀ before after, keys[page * limit - 1]? = some before →
    keys[page * limit]? = some after → before ≠ after

theorem cleanCuts_of_short {limit : Nat} {keys : List κ} (short : keys.length ≤ limit) :
    CleanCuts limit keys := by
  intro page positive before after _ atAfter
  have bound := (List.getElem?_eq_some_iff.mp atAfter).1
  have pages := Nat.le_mul_of_pos_left limit positive
  omega

theorem cleanCuts_iff {limit : Nat} (positive : 0 < limit) {keys : List κ} {before after : κ}
    (atBefore : keys[limit - 1]? = some before) (atAfter : keys[limit]? = some after) :
    CleanCuts limit keys ↔ before ≠ after ∧ CleanCuts limit (keys.drop limit) := by
  constructor
  · intro clean
    refine ⟨clean 1 Nat.one_pos before after (by rwa [Nat.one_mul]) (by rwa [Nat.one_mul]), ?_⟩
    intro page more left right atLeft atRight
    rw [List.getElem?_drop] at atLeft atRight
    have place : limit + (page * limit - 1) = (page + 1) * limit - 1 := by
      have pages := Nat.le_mul_of_pos_left limit more
      rw [Nat.add_one_mul]
      omega
    have next : limit + page * limit = (page + 1) * limit := by
      rw [Nat.add_one_mul]
      omega
    rw [place] at atLeft
    rw [next] at atRight
    exact clean (page + 1) (Nat.succ_pos page) left right atLeft atRight
  · rintro ⟨apart, clean⟩ page more left right atLeft atRight
    obtain ⟨page, rfl⟩ : ∃ earlier, page = earlier + 1 := ⟨page - 1, by omega⟩
    rcases Nat.eq_zero_or_pos page with rfl | further
    · simp only [Nat.zero_add, Nat.one_mul] at atLeft atRight
      rw [atBefore] at atLeft
      rw [atAfter] at atRight
      cases atLeft
      cases atRight
      exact apart
    · refine clean page further left right ?_ ?_
      · rw [List.getElem?_drop, ← atLeft]
        have pages := Nat.le_mul_of_pos_left limit further
        congr 1
        rw [Nat.add_one_mul]
        omega
      · rw [List.getElem?_drop, ← atRight, Nat.add_one_mul, Nat.add_comm]

end

section

variable {α : Type u} {κ : Type v} [LinearOrder κ] (key : α → κ)

def beyond (items : List α) : Option κ → List α
  | none => items
  | some bound => items.filter fun item => decide (bound < key item)

/-- The pages from a cursor to the one after which there are no more rows. -/
inductive KeysetPages (limit : Nat) (items : List α) : Option κ → List (List α) → Prop where
  | last {cursor : Option κ} {rows : List α}
      (top : TopBy key (limit + 1) (beyond key items cursor) rows) (few : rows.length ≤ limit) :
      KeysetPages limit items cursor [rows]
  | next {cursor : Option κ} {rows : List α} {final : α} {pages : List (List α)}
      (top : TopBy key (limit + 1) (beyond key items cursor) rows) (more : limit < rows.length)
      (ends : (rows.take limit).getLast? = some final)
      (later : KeysetPages limit items (some (key final)) pages) :
      KeysetPages limit items cursor (rows.take limit :: pages)

def sortedKeys (items : List α) : List κ := (items.map key).insertionSort (· ≤ ·)

end

section

variable {α : Type u} {κ : Type v} [LinearOrder κ] {key : α → κ}

theorem sortedKeys_eq {items sorted : List α} (same : sorted.Perm items)
    (ascending : sorted.Pairwise (key · ≤ key ·)) : sortedKeys key items = sorted.map key := by
  have perm : (sortedKeys key items).Perm (sorted.map key) :=
    (List.perm_insertionSort (· ≤ ·) _).trans (same.map key).symm
  refine perm.eq_of_pairwise (fun _ _ _ _ below above => le_antisymm below above) ?_
    (List.pairwise_map.mpr ascending)
  exact List.pairwise_insertionSort (· ≤ ·) _

theorem beyond_further {items : List α} {cursor : Option κ} {final : α}
    (member : final ∈ beyond key items cursor) :
    beyond key items (some (key final)) =
      (beyond key items cursor).filter fun item => decide (key final < key item) := by
  cases cursor with
  | none => rfl
  | some bound =>
    have above : bound < key final := by simpa using (List.mem_filter.mp member).2
    simp only [beyond, List.filter_filter]
    refine List.filter_congr fun item _ => ?_
    by_cases further : key final < key item
    · simp [further, above.trans further]
    · simp [further]

theorem filter_beyond_page {sorted : List α} (ascending : sorted.Pairwise (key · ≤ key ·))
    {limit : Nat} {final : α} (ends : (sorted.take limit).getLast? = some final) :
    (sorted.filter fun item => decide (key final < key item)) =
      (sorted.drop limit).filter fun item => decide (key final < key item) := by
  obtain ⟨before, page⟩ := List.getLast?_eq_some_iff.mp ends
  have none : (sorted.take limit).filter (fun item => decide (key final < key item)) = [] := by
    refine List.filter_eq_nil_iff.mpr fun item member => ?_
    have ordered := ascending.sublist (List.take_sublist limit sorted)
    rw [page] at member ordered
    rcases List.mem_append.mp member with inBefore | last
    · have below := (List.pairwise_append.mp ordered).2.2 item inBefore final List.mem_cons_self
      simpa using below
    · simp [List.mem_singleton.mp last]
  conv_lhs => rw [← List.take_append_drop limit sorted]
  rw [List.filter_append, none, List.nil_append]

theorem beyond_page_perm {items sorted : List α} {cursor : Option κ}
    (same : sorted.Perm (beyond key items cursor)) (ascending : sorted.Pairwise (key · ≤ key ·))
    {limit : Nat} {final : α} (ends : (sorted.take limit).getLast? = some final) :
    (beyond key items (some (key final))).Perm
      ((sorted.drop limit).filter fun item => decide (key final < key item)) := by
  have inPage := List.mem_of_getLast? ends
  have member := same.mem_iff.mp (List.mem_of_mem_take inPage)
  rw [beyond_further member, ← filter_beyond_page ascending ends]
  exact (same.filter _).symm

omit [LinearOrder κ] in
theorem key_at_end {sorted : List α} {limit : Nat} {final : α} (positive : 0 < limit)
    (long : limit < sorted.length) (ends : (sorted.take limit).getLast? = some final) :
    (sorted.map key)[limit - 1]? = some (key final) := by
  have width : (sorted.take limit).length = limit := by
    rw [List.length_take]
    omega
  rw [List.getLast?_eq_getElem?, width, List.getElem?_take_of_lt (by omega)] at ends
  rw [List.getElem?_map, ends]
  rfl

theorem end_le_next {sorted : List α} (ascending : sorted.Pairwise (key · ≤ key ·)) {limit : Nat}
    (long : limit < sorted.length) {final : α} (inPage : final ∈ sorted.take limit) :
    key final ≤ key sorted[limit] := by
  rw [← List.take_append_drop limit sorted] at ascending
  refine (List.pairwise_append.mp ascending).2.2 final inPage _ ?_
  rw [List.drop_eq_getElem_cons long]
  exact List.mem_cons_self

theorem beyond_behind_iff {sorted : List α} (ascending : sorted.Pairwise (key · ≤ key ·))
    {limit : Nat} (long : limit < sorted.length) {final : α} :
    (∀ item ∈ sorted.drop limit, decide (key final < key item) = true) ↔
      key final < key sorted[limit] := by
  have behind := ascending.sublist (List.drop_sublist limit sorted)
  rw [List.drop_eq_getElem_cons long] at behind ⊢
  constructor
  · intro all
    exact of_decide_eq_true (all _ List.mem_cons_self)
  · intro above item member
    rcases List.mem_cons.mp member with rfl | further
    · exact decide_eq_true above
    · exact decide_eq_true (above.trans_le (List.rel_of_pairwise_cons behind further))

theorem KeysetPages.subperm {limit : Nat} {items : List α} {cursor : Option κ}
    {pages : List (List α)} (follows : KeysetPages key limit items cursor pages) :
    pages.flatten.Subperm (beyond key items cursor) := by
  induction follows with
  | last top few =>
    obtain ⟨sorted, same, _, rfl⟩ := top
    rw [List.flatten_singleton]
    exact ((List.take_sublist _ sorted).subperm).trans same.subperm
  | @next cursor rows final pages top more ends later ih =>
    obtain ⟨sorted, same, ascending, rfl⟩ := top
    rw [List.take_take, Nat.min_eq_left (Nat.le_succ limit)] at ends ⊢
    have rest := (beyond_page_perm same ascending ends).subperm
    have behind := ih.trans (rest.trans List.filter_sublist.subperm)
    have visited := (List.subperm_append_left (sorted.take limit)).mpr behind
    rw [List.take_append_drop] at visited
    exact visited.trans same.subperm

/-- Following the cursor visits each row exactly once if, and only if, no page ends between rows
of one key. -/
theorem KeysetPages.perm_iff {limit : Nat} (positive : 0 < limit) {items : List α}
    {cursor : Option κ} {pages : List (List α)} (follows : KeysetPages key limit items cursor pages) :
    pages.flatten.Perm (beyond key items cursor) ↔
      CleanCuts limit (sortedKeys key (beyond key items cursor)) := by
  induction follows with
  | last top few =>
    obtain ⟨sorted, same, ascending, rfl⟩ := top
    have short : sorted.length ≤ limit := by
      rw [List.length_take] at few
      omega
    rw [List.flatten_singleton, List.take_of_length_le (Nat.le_succ_of_le short)]
    refine iff_of_true same (cleanCuts_of_short ?_)
    rw [sortedKeys_eq same ascending, List.length_map]
    exact short
  | @next cursor rows final pages top more ends later ih =>
    have visited := later.subperm
    obtain ⟨sorted, same, ascending, rfl⟩ := top
    rw [List.take_take, Nat.min_eq_left (Nat.le_succ limit)] at ends ⊢
    have long : limit < sorted.length := by
      rw [List.length_take] at more
      omega
    have rest := beyond_page_perm same ascending ends
    have atNext : (sorted.map key)[limit]? = some (key sorted[limit]) := by
      rw [List.getElem?_map, List.getElem?_eq_getElem long]
      rfl
    have behind (above : key final < key sorted[limit]) :
        (beyond key items (some (key final))).Perm (sorted.drop limit) := by
      rwa [List.filter_eq_self.mpr ((beyond_behind_iff ascending long).mpr above)] at rest
    have keysBehind (above : key final < key sorted[limit]) :
        sortedKeys key (beyond key items (some (key final))) = (sorted.map key).drop limit := by
      have tailAscending := ascending.sublist (List.drop_sublist limit sorted)
      rw [sortedKeys_eq (behind above).symm tailAscending, List.map_drop]
    have whole : (sorted.take limit ++ pages.flatten).Perm (beyond key items cursor) ↔
        pages.flatten.Perm (sorted.drop limit) := by
      refine Iff.trans ?_ (List.perm_append_left_iff (sorted.take limit))
      rw [List.take_append_drop]
      exact ⟨fun perm => perm.trans same.symm, fun perm => perm.trans same⟩
    rw [List.flatten_cons, whole, sortedKeys_eq same ascending,
      cleanCuts_iff positive (key_at_end positive long ends) atNext]
    constructor
    · intro perm
      have full : ((sorted.drop limit).filter fun item => decide (key final < key item)).length =
          (sorted.drop limit).length := by
        refine le_antisymm (List.length_filter_le _ _) ?_
        rw [← perm.length_eq, ← rest.length_eq]
        exact visited.length_le
      have above : key final < key sorted[limit] :=
        (beyond_behind_iff ascending long).mp (List.length_filter_eq_length_iff.mp full)
      refine ⟨above.ne, ?_⟩
      rw [← keysBehind above]
      exact ih.mp (perm.trans (behind above).symm)
    · rintro ⟨apart, clean⟩
      have above := lt_of_le_of_ne (end_le_next ascending long (List.mem_of_getLast? ends)) apart
      rw [← keysBehind above] at clean
      exact (ih.mpr clean).trans (behind above)

end

/-! ## Filters behind pages

A page starts at an offset. A filter on the rows of a page is another query than the page of the
rows that pass the filter.
-/

section

variable {α : Type u} {offset limit before within : Nat}

theorem findIdx_key {β : Type} [BEq β] [LawfulBEq β] {key : α → β} {rows : List α}
    (distinct : (rows.map key).Nodup) {place : Nat} (inside : place < rows.length) :
    rows.findIdx (key · == key rows[place]) = place := by
  rw [List.findIdx_eq inside]
  refine ⟨beq_self_eq_true _, fun earlier less => beq_eq_false_iff_ne.mpr fun same => ?_⟩
  have before : earlier < (rows.map key).length := by
    rw [List.length_map]
    omega
  have here : place < (rows.map key).length := by
    rw [List.length_map]
    exact inside
  have keys : (rows.map key)[earlier] = (rows.map key)[place] := by simpa using same
  have places : earlier = place := distinct.getElem_inj_iff.mp keys
  omega

/-- A page holds the rows whose places are on it. -/
theorem page_eq_filter {β : Type} [BEq β] [LawfulBEq β] {key : α → β} {rows : List α}
    (distinct : (rows.map key).Nodup) (offset limit : Nat) :
    (rows.drop offset).take limit = rows.filter fun row =>
      decide (offset ≤ rows.findIdx (key · == key row)) &&
        decide (rows.findIdx (key · == key row) < offset + limit) := by
  generalize isWindow : (fun row => decide (offset ≤ rows.findIdx (key · == key row)) &&
    decide (rows.findIdx (key · == key row) < offset + limit)) = window
  have windowed {place : Nat} (inside : place < rows.length) :
      window rows[place] = true ↔ offset ≤ place ∧ place < offset + limit := by
    rw [← isWindow]
    simp only [findIdx_key distinct inside, Bool.and_eq_true, decide_eq_true_eq]
  have before : (rows.take offset).filter window = [] := by
    rw [List.filter_eq_nil_iff]
    intro row member
    obtain ⟨place, less, rfl⟩ := List.mem_take_iff_getElem.mp member
    rw [windowed]
    omega
  have onPage : ((rows.drop offset).take limit).filter window =
      (rows.drop offset).take limit := by
    rw [List.filter_eq_self]
    intro row member
    obtain ⟨place, less, rfl⟩ := List.mem_take_iff_getElem.mp member
    rw [List.length_drop] at less
    rw [List.getElem_drop, windowed]
    omega
  have behind : ((rows.drop offset).drop limit).filter window = [] := by
    rw [List.filter_eq_nil_iff]
    intro row member
    rw [List.drop_drop] at member
    obtain ⟨place, less, rfl⟩ := List.mem_drop_iff_getElem.mp member
    rw [windowed]
    omega
  have parts := congrArg (List.filter window) (List.take_append_drop offset rows)
  rw [List.filter_append, before, List.nil_append,
    ← List.take_append_drop limit (rows.drop offset), List.filter_append, onPage, behind,
    List.append_nil] at parts
  rw [parts]

theorem filter_page (accepts : α → Bool) (items : List α) :
    ((items.drop offset).take limit).filter accepts =
      ((items.filter accepts).drop ((items.take offset).countP accepts)).take
        (((items.drop offset).take limit).countP accepts) := by
  have cut : items.filter accepts = (items.take offset).filter accepts ++
      (((items.drop offset).take limit).filter accepts ++
        ((items.drop offset).drop limit).filter accepts) := by
    rw [← List.filter_append, List.take_append_drop, ← List.filter_append, List.take_append_drop]
  rw [cut, List.drop_left' List.countP_eq_length_filter.symm,
    List.take_left' List.countP_eq_length_filter.symm]

theorem countP_page_le (offset limit : Nat) (accepts : α → Bool) (items : List α) :
    (items.take offset).countP accepts + ((items.drop offset).take limit).countP accepts ≤
      items.countP accepts := by
  have parts : items.countP accepts =
      (items.take offset).countP accepts + (items.drop offset).countP accepts := by
    rw [← List.countP_append, List.take_append_drop]
  have page := (List.take_sublist limit (items.drop offset)).countP_le (p := accepts)
  omega

/-- Two pages that start in a list of distinct rows are the same if they are empty or start in
the same place. -/
theorem page_eq_iff {items : List α} (distinct : items.Nodup) (fits : before + within ≤ items.length) :
    (items.drop before).take within = (items.drop offset).take limit ↔
      within = min limit (items.length - offset) ∧ (within = 0 ∨ before = offset) := by
  have width : ((items.drop before).take within).length = within := by
    rw [List.length_take, List.length_drop]
    omega
  have wanted : ((items.drop offset).take limit).length = min limit (items.length - offset) := by
    rw [List.length_take, List.length_drop]
  constructor
  · intro same
    have length : within = min limit (items.length - offset) := by rw [← width, same, wanted]
    refine ⟨length, ?_⟩
    rcases Nat.eq_zero_or_pos within with empty | occupied
    · exact .inl empty
    · right
      have inBefore : before < items.length := by omega
      have inOffset : offset < items.length := by omega
      have first : items[before] = items[offset] := by
        have heads := congrArg (·[0]?) same
        simp only [List.getElem?_take_of_lt occupied,
          List.getElem?_take_of_lt (show 0 < limit by omega), List.getElem?_drop,
          Nat.add_zero] at heads
        rwa [List.getElem?_eq_getElem inBefore, List.getElem?_eq_getElem inOffset,
          Option.some_inj] at heads
      exact (distinct.getElem_inj_iff).mp first
  · rintro ⟨rfl, empty | rfl⟩
    · have nothing : ((items.drop offset).take limit).length = 0 := by rw [wanted, empty]
      rw [empty, List.take_zero, List.length_eq_zero_iff.mp nothing]
    · rw [List.take_eq_take_iff, List.length_drop, Nat.min_assoc, Nat.min_self]

end

end StoryEngine.Data
