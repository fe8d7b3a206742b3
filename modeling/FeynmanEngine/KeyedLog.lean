import Mathlib.Data.List.Sort
import Mathlib.Data.List.Nodup
import Mathlib.Data.List.Induction

/-! Logs with a key per entry. A new entry is dropped when its key is taken, and
reading sorts by key. With keys made of a group and a position, reading gives
everything that was added, group by group in the order of adding, exactly when
the positions of each group ascend in that order. -/
namespace FeynmanEngine.KeyedLog

section Adding
variable {Entry View Key : Type} [DecidableEq Key]

/-- Adding an entry whose key is taken changes nothing. -/
def addNew (key : Entry → Key) (log : List Entry) (entry : Entry) : List Entry :=
  if key entry ∈ log.map key then log else log ++ [entry]

theorem addNew_taken {key : Entry → Key} (taken : key entry ∈ log.map key) : addNew key log entry = log :=
  if_pos taken

theorem addNew_fresh {key : Entry → Key} (fresh : key entry ∉ log.map key) :
    addNew key log entry = log ++ [entry] :=
  if_neg fresh

/-- What is kept was there or was added, in order. -/
theorem foldl_addNew_sublist (key : Entry → Key) (log entries : List Entry) :
    (entries.foldl (addNew key) log).Sublist (log ++ entries) := by
  induction entries generalizing log with
  | nil => simp
  | cons entry rest ih =>
    rw [List.foldl_cons]
    refine (ih _).trans ?_
    by_cases taken : key entry ∈ log.map key
    · rw [addNew_taken taken]
      exact (List.Sublist.refl log).append (List.sublist_cons_self entry rest)
    · rw [addNew_fresh taken, List.append_assoc, List.singleton_append]

/-- No key is used twice. -/
theorem foldl_addNew_nodup (key : Entry → Key) (entries : List Entry) (unique : (log.map key).Nodup) :
    ((entries.foldl (addNew key) log).map key).Nodup := by
  induction entries generalizing log with
  | nil => exact unique
  | cons entry rest ih =>
    rw [List.foldl_cons]
    apply ih
    by_cases taken : key entry ∈ log.map key
    · rwa [addNew_taken taken]
    · rw [addNew_fresh taken, List.map_append]
      refine List.nodup_append'.mpr ⟨unique, List.nodup_singleton _, fun found here there => ?_⟩
      rw [List.mem_singleton.mp there] at here
      exact taken here

/-- Entries under new keys, each key used once, are all kept. -/
theorem foldl_addNew_fresh (key : Entry → Key) (log entries : List Entry)
    (fresh : ∀ entry ∈ entries, key entry ∉ log.map key) (distinct : (entries.map key).Nodup) :
    entries.foldl (addNew key) log = log ++ entries := by
  induction entries generalizing log with
  | nil => simp
  | cons entry rest ih =>
    obtain ⟨apart, distinct⟩ := List.nodup_cons.mp distinct
    rw [List.foldl_cons, addNew_fresh (fresh entry List.mem_cons_self), ih _ ?_ distinct, List.append_assoc,
      List.singleton_append]
    intro later member taken
    rw [List.map_append, List.map_singleton, List.mem_append, List.mem_singleton] at taken
    rcases taken with old | same
    · exact fresh later (List.mem_cons_of_mem entry member) old
    · exact apart (same ▸ List.mem_map_of_mem member)

/-- Everything is kept exactly when no key repeats. -/
theorem foldl_addNew_eq_iff (key : Entry → Key) (log entries : List Entry) (unique : (log.map key).Nodup) :
    entries.foldl (addNew key) log = log ++ entries ↔ ((log ++ entries).map key).Nodup := by
  constructor
  · intro all
    rw [← all]
    exact foldl_addNew_nodup key entries unique
  · intro apart
    rw [List.map_append] at apart
    obtain ⟨-, distinct, separate⟩ := List.nodup_append'.mp apart
    exact foldl_addNew_fresh key log entries (fun entry member taken => separate taken (List.mem_map_of_mem member))
      distinct

/-- Nothing is added exactly when every key is taken. -/
theorem foldl_addNew_same_iff (key : Entry → Key) (log entries : List Entry) :
    entries.foldl (addNew key) log = log ↔ ∀ entry ∈ entries, key entry ∈ log.map key := by
  have grows : ∀ (rest log : List Entry), log.length ≤ (rest.foldl (addNew key) log).length := by
    intro rest
    induction rest with
    | nil => exact fun log => le_refl _
    | cons entry rest ih =>
      intro log
      rw [List.foldl_cons]
      refine le_trans ?_ (ih _)
      unfold addNew
      split
      · exact le_refl _
      · simp
  induction entries with
  | nil => simp
  | cons entry rest ih =>
    rw [List.foldl_cons, List.forall_mem_cons]
    by_cases taken : key entry ∈ log.map key
    · rw [addNew_taken taken]
      exact ⟨fun same => ⟨taken, ih.mp same⟩, fun both => ih.mpr both.2⟩
    · rw [addNew_fresh taken]
      constructor
      · intro same
        have longer := grows rest (log ++ [entry])
        rw [same, List.length_append, List.length_singleton] at longer
        omega
      · exact fun both => absurd both.1 taken

/-- The keys of what is kept. -/
theorem mem_keys_foldl_addNew (key : Entry → Key) (log entries : List Entry) (probe : Key) :
    probe ∈ (entries.foldl (addNew key) log).map key ↔ probe ∈ log.map key ∨ probe ∈ entries.map key := by
  induction entries generalizing log with
  | nil => simp
  | cons entry rest ih =>
    rw [List.foldl_cons, ih, List.map_cons, List.mem_cons]
    by_cases taken : key entry ∈ log.map key
    · rw [addNew_taken taken]
      constructor
      · exact Or.imp_right Or.inr
      · rintro (old | rfl | later)
        · exact Or.inl old
        · exact Or.inl taken
        · exact Or.inr later
    · rw [addNew_fresh taken, List.map_append, List.mem_append, List.map_singleton, List.mem_singleton,
        or_assoc]

/-- The keys of what is kept come in the order of their first entries. -/
theorem foldl_addNew_firsts (key : Entry → Key) (entries : List Entry) :
    ((entries.foldl (addNew key) []).map key).Pairwise fun earlier later =>
      (entries.map key).idxOf earlier < (entries.map key).idxOf later := by
  induction entries using List.reverseRecOn with
  | nil => exact .nil
  | append_singleton entries entry ih =>
    have added : ∀ probe ∈ (entries.foldl (addNew key) []).map key, probe ∈ entries.map key := by
      intro probe kept
      exact ((mem_keys_foldl_addNew key [] entries probe).mp kept).resolve_left List.not_mem_nil
    have places : (entries ++ [entry]).map key = entries.map key ++ [key entry] := List.map_append
    rw [places, List.foldl_append, List.foldl_cons, List.foldl_nil]
    have before : ((entries.foldl (addNew key) []).map key).Pairwise fun earlier later =>
        (entries.map key ++ [key entry]).idxOf earlier < (entries.map key ++ [key entry]).idxOf later := by
      refine ih.imp_of_mem fun {earlier later} here there less => ?_
      rwa [List.idxOf_append_of_mem (added earlier here), List.idxOf_append_of_mem (added later there)]
    by_cases taken : key entry ∈ (entries.foldl (addNew key) []).map key
    · rwa [addNew_taken taken]
    · have fresh : key entry ∉ entries.map key := fun there =>
        taken ((mem_keys_foldl_addNew key [] entries _).mpr (Or.inr there))
      rw [addNew_fresh taken, List.map_append]
      refine List.pairwise_append.mpr ⟨before, List.pairwise_singleton _ _, fun earlier here later last => ?_⟩
      rw [List.mem_singleton.mp last, List.idxOf_append_of_mem (added earlier here), List.idxOf_append_of_notMem fresh]
      exact lt_of_lt_of_le (List.idxOf_lt_length_of_mem (added earlier here)) (Nat.le_add_right _ _)

/-- A view that tells the keys apart as they are commutes with adding. -/
theorem map_foldl_addNew {ViewKey : Type} [DecidableEq ViewKey] (view : Entry → View) {key : Entry → Key}
    {viewKey : View → ViewKey} (same : ∀ one other, viewKey (view one) = viewKey (view other) ↔ key one = key other)
    (log entries : List Entry) :
    (entries.foldl (addNew key) log).map view = (entries.map view).foldl (addNew viewKey) (log.map view) := by
  have taken : ∀ (log : List Entry) entry, viewKey (view entry) ∈ (log.map view).map viewKey ↔
      key entry ∈ log.map key := by
    intro log entry
    simp only [List.mem_map, exists_exists_and_eq_and]
    exact exists_congr fun stored => and_congr_right fun _ => same stored entry
  induction entries generalizing log with
  | nil => rfl
  | cons entry rest ih =>
    rw [List.foldl_cons, ih, List.map_cons, List.foldl_cons]
    congr 1
    by_cases used : key entry ∈ log.map key
    · rw [addNew_taken used, addNew_taken ((taken log entry).mpr used)]
    · rw [addNew_fresh used, addNew_fresh fun there => used ((taken log entry).mp there), List.map_append,
        List.map_singleton]

end Adding

section Reading
variable {α Group Place : Type} [LinearOrder Group] [LinearOrder Place] (group : α → Group)

/-- An entry's key: its group and its position there. -/
def placeKey (entry : α × Place) : Group × Place := (group entry.1, entry.2)

/-- The order of reading: by group, within a group by position. -/
def readOrder (left right : α × Place) : Prop :=
  group left.1 < group right.1 ∨ group left.1 = group right.1 ∧ left.2 ≤ right.2

instance : DecidableRel (@readOrder α Group Place _ _ group) := fun left right =>
  inferInstanceAs (Decidable (group left.1 < group right.1 ∨ group left.1 = group right.1 ∧ left.2 ≤ right.2))

instance : Std.Total (@readOrder α Group Place _ _ group) where
  total left right := by
    rcases lt_trichotomy (group left.1) (group right.1) with before | same | after
    · exact Or.inl (Or.inl before)
    · exact (le_total left.2 right.2).imp (fun le => Or.inr ⟨same, le⟩) fun le => Or.inr ⟨same.symm, le⟩
    · exact Or.inr (Or.inl after)

instance : IsTrans (α × Place) (readOrder group) where
  trans left middle right := by
    rintro (before | ⟨same, le⟩) (later | ⟨alike, further⟩)
    · exact Or.inl (before.trans later)
    · exact Or.inl (alike ▸ before)
    · exact Or.inl (same ▸ later)
    · exact Or.inr ⟨same.trans alike, le.trans further⟩

/-- In every group the positions ascend in the order of adding. -/
def Ascending (entries : List (α × Place)) : Prop :=
  entries.Pairwise fun earlier later => group earlier.1 = group later.1 → earlier.2 < later.2

/-- What was read is everything that was added: groups in their order, and each
group as it was added. -/
structure Faithful (read added : List α) : Prop where
  sorted : read.Pairwise fun left right => group left ≤ group right
  same : ∀ one, read.filter (group · = one) = added.filter (group · = one)

/-- Faithful reading finds everything. -/
theorem Faithful.mem {read added : List α} (faithful : Faithful group read added) (found : x ∈ added) :
    x ∈ read := by
  have kept : x ∈ added.filter (group · = group x) := List.mem_filter.mpr ⟨found, by simp⟩
  rw [← faithful.same] at kept
  exact (List.mem_filter.mp kept).1

/-- A log read in order. -/
def readAll (log : List (α × Place)) : List α :=
  (log.insertionSort (readOrder group)).map Prod.fst

theorem readAll_sorted (log : List (α × Place)) :
    (readAll group log).Pairwise fun left right => group left ≤ group right := by
  refine List.pairwise_map.mpr ((List.pairwise_insertionSort (readOrder group) log).imp ?_)
  rintro left right (before | ⟨same, _⟩)
  · exact before.le
  · exact same.le

omit [LinearOrder Place] in
private theorem filter_map_fst (log : List (α × Place)) (one : Group) :
    (log.map Prod.fst).filter (group · = one) = (log.filter (group ·.1 = one)).map Prod.fst := by
  rw [List.filter_map]
  rfl

omit [LinearOrder Group] in
theorem Ascending.keys_nodup {entries : List (α × Place)} (ascending : Ascending group entries) :
    (entries.map (placeKey group)).Nodup := by
  refine List.pairwise_map.mpr (ascending.imp fun {earlier later} below same => ?_)
  have alike := congrArg Prod.fst same
  have there := congrArg Prod.snd same
  exact (below alike).ne there

/-- With ascending positions the log reads as it was added. -/
theorem Ascending.faithful {entries : List (α × Place)} (ascending : Ascending group entries) :
    Faithful group (readAll group entries) (entries.map Prod.fst) where
  sorted := readAll_sorted group entries
  same one := by
    have apart := ascending.keys_nodup
    rw [readAll, filter_map_fst, filter_map_fst]
    congr 1
    have within : ∀ entry ∈ entries.filter (group ·.1 = one), group entry.1 = one := fun entry member => by
      simpa using (List.mem_filter.mp member).2
    have perm := (List.perm_insertionSort (readOrder group) entries).filter (group ·.1 = one)
    have sorted : ((entries.insertionSort (readOrder group)).filter (group ·.1 = one)).Pairwise
        fun left right => left.2 ≤ right.2 := by
      refine ((List.pairwise_insertionSort (readOrder group) entries).filter _).imp_of_mem ?_
      rintro left right here there (before | ⟨_, le⟩)
      · rw [within left (perm.subset here), within right (perm.subset there)] at before
        exact absurd before (lt_irrefl _)
      · exact le
    have added : (entries.filter (group ·.1 = one)).Pairwise fun left right => left.2 ≤ right.2 := by
      refine (List.Pairwise.filter _ ascending).imp_of_mem fun here there below => ?_
      exact (below ((within _ here).trans (within _ there).symm)).le
    refine List.Perm.eq_of_pairwise (fun left right here there le ge => ?_) sorted added perm
    have leftIn := perm.subset here
    have key : placeKey group left = placeKey group right :=
      Prod.ext ((within left leftIn).trans (within right there).symm) (le_antisymm le ge)
    exact List.inj_on_of_nodup_map apart (List.mem_of_mem_filter leftIn) (List.mem_of_mem_filter there) key

/-- A rearrangement that shows the same distinct values is none. -/
private theorem eq_of_perm_of_map_eq {β γ : Type} {left right : List β} {f : β → γ} (perm : left.Perm right)
    (alike : left.map f = right.map f) (distinct : (right.map f).Nodup) : left = right := by
  refine List.ext_getElem perm.length_eq fun index before after => ?_
  have shown : f left[index] = f right[index] := by
    rw [← List.getElem_map f, ← List.getElem_map f]
    · simp only [alike]
    · simpa using after
    · simpa using before
  exact List.inj_on_of_nodup_map distinct (perm.subset (List.getElem_mem before)) (List.getElem_mem after) shown

/-- A log of distinct values with keys of their own that reads as it was added has ascending positions. -/
theorem ascending_of_faithful {entries : List (α × Place)} (distinct : (entries.map Prod.fst).Nodup)
    (apart : (entries.map (placeKey group)).Nodup)
    (faithful : Faithful group (readAll group entries) (entries.map Prod.fst)) : Ascending group entries := by
  refine List.pairwise_of_forall_sublist fun {earlier later} inOrder together => ?_
  have perm := (List.perm_insertionSort (readOrder group) entries).filter (group ·.1 = group later.1)
  have alike := faithful.same (group later.1)
  rw [readAll, filter_map_fst, filter_map_fst] at alike
  have few : ((entries.filter (group ·.1 = group later.1)).map Prod.fst).Nodup :=
    distinct.sublist (List.filter_sublist.map _)
  have unmoved := eq_of_perm_of_map_eq perm alike few
  have pair : [earlier, later].Sublist (entries.filter (group ·.1 = group later.1)) := by
    have kept := inOrder.filter (group ·.1 = group later.1)
    simpa [together] using kept
  rw [← unmoved] at pair
  have ordered := (List.pairwise_insertionSort (readOrder group) entries).forall_sublist
    (pair.trans List.filter_sublist)
  have le : earlier.2 ≤ later.2 := by
    rcases ordered with before | ⟨_, le⟩
    · exact absurd (together ▸ before) (lt_irrefl _)
    · exact le
  refine lt_of_le_of_ne le fun same => ?_
  have keys := List.pairwise_map.mp apart
  exact keys.forall_sublist inOrder (Prod.ext together same)

/-- A log of distinct values reads as it was added exactly when its positions ascend. -/
theorem read_faithful_iff (entries : List (α × Place)) (distinct : (entries.map Prod.fst).Nodup) :
    Faithful group (readAll group (entries.foldl (addNew (placeKey group)) [])) (entries.map Prod.fst) ↔
      Ascending group entries := by
  have allKept : entries.foldl (addNew (placeKey group)) [] = entries ↔
      (entries.map (placeKey group)).Nodup := by
    simpa using foldl_addNew_eq_iff (placeKey group) [] entries List.nodup_nil
  constructor
  · intro faithful
    have short := foldl_addNew_sublist (placeKey group) [] entries
    have long : entries.length ≤ (entries.foldl (addNew (placeKey group)) []).length := by
      have found := (List.subperm_of_subset distinct fun _ => faithful.mem group).length_le
      simpa [readAll] using found
    have kept := short.eq_of_length_le long
    rw [List.nil_append] at kept
    rw [kept] at faithful
    exact ascending_of_faithful group distinct (allKept.mp kept) faithful
  · intro ascending
    rw [allKept.mpr ascending.keys_nodup]
    exact ascending.faithful

end Reading

end FeynmanEngine.KeyedLog
