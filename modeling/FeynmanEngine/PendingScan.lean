import FeynmanEngine.BusDelivery
import FeynmanEngine.PagedScans
import FeynmanEngine.TextFields

/-! The scan `pending_ids` of what is pending in a group. It asks for pages from
a start text, the smallest id at first and then behind the last id it was given,
and stops at a page that is not full. On a list that does not change meanwhile
it ends, and returns every matching id once and in order. -/
namespace FeynmanEngine.PendingScan
open Ids RedisStreams BusMessages BusDelivery PagedScans TextFields

/-- `PendingEntry`: id, consumer, idle milliseconds and deliveries. -/
structure PendingEntry where
  id : MessageId
  consumer : String
  idle : Nat
  deliveries : Nat
  deriving DecidableEq

/-- `XPENDING` of a topic's group: entries of at least some idle time, from a
start to an end, up to a count. -/
abbrev Xpending := (topic group : String) → (minIdle : Nat) → (start stop : String) → (count : Nat) →
  Except RedisError (List PendingEntry)

/-- `duration_millis`; durations are in nanoseconds. -/
def durationMillis (minIdle : Nat) (topic group : String) : Except BusError Nat :=
  let millis := minIdle / 1000000
  if millis < u64Limit then .ok millis
  else .error (.pendingFailed topic group "idle duration exceeds Redis millisecond range")

def mapGroupOrPendingError (topic group : String) (error : RedisError) : BusError :=
  if isNoGroupError error then .groupNotFound topic group else .pendingFailed topic group error.toText

def startBehind (id : MessageId) : String := "(" ++ id.toText

/-- The loop over a page: where the next page starts, and the ids so far. -/
def listPage (start : String) (ids : List MessageId) (page : List PendingEntry) : String × List MessageId :=
  page.foldl (fun (_, ids) entry => (startBehind entry.id, ids ++ [entry.id])) (start, ids)

/-- The loop of `pending_ids`, for at most so many pages. -/
def scanPages (page : String → Except RedisError (List PendingEntry)) (topic group : String) :
    Nat → String → List MessageId → Option (Except BusError (List MessageId))
  | 0, _, _ => none
  | pages + 1, start, ids =>
    match page start with
    | .error error => some (.error (mapGroupOrPendingError topic group error))
    | .ok [] => some (.ok ids)
    | .ok (entry :: entries) =>
      let (start, ids) := listPage start ids (entry :: entries)
      if (entry :: entries).length < pendingPageSize then some (.ok ids)
      else scanPages page topic group pages start ids

/-- `pending_ids`; nothing, if it asks for more than so many pages. -/
def pendingIds (xpending : Xpending) (pages : Nat) (topic group : String) (minIdle : Nat) :
    Option (Except BusError (List MessageId)) :=
  match durationMillis minIdle topic group with
  | .error error => some (.error error)
  | .ok minIdleMs =>
    scanPages (fun start => xpending topic group minIdleMs start "+" pendingPageSize) topic group pages "-" []

theorem listPage_ids (start : String) (ids : List MessageId) (page : List PendingEntry) :
    (listPage start ids page).2 = ids ++ page.map PendingEntry.id := by
  induction page generalizing start ids with
  | nil => simp [listPage]
  | cons entry rest ih =>
    have grown := ih (startBehind entry.id) (ids ++ [entry.id])
    unfold listPage at grown ⊢
    rw [List.foldl_cons, grown]
    simp

theorem listPage_start (start : String) (ids : List MessageId) {page : List PendingEntry}
    (last : page.getLast? = some final) : (listPage start ids page).1 = startBehind final.id := by
  obtain ⟨before, rfl⟩ := List.getLast?_eq_some_iff.mp last
  unfold listPage
  rw [List.foldl_append]
  rfl

/-- The delivery task lists by the same turns. -/
theorem takePage_listPage (start : String) (ids : List MessageId) {page : List PendingEntry} (more : page ≠ []) :
    (takePage ids (page.map fun entry => (entry.id, entry.consumer))).1 = (listPage start ids page).2 ∧
    (takePage ids (page.map fun entry => (entry.id, entry.consumer))).2.map startBehind =
      if page.length < pendingPageSize then none else some (listPage start ids page).1 := by
  obtain ⟨final, last⟩ : ∃ final, page.getLast? = some final := ⟨_, List.getLast?_eq_some_getLast more⟩
  have shown : (page.map fun entry => (entry.id, entry.consumer)).getLast? = some (final.id, final.consumer) := by
    rw [List.getLast?_map, last]
    rfl
  unfold takePage
  rw [shown, listPage_ids, listPage_start start ids last]
  dsimp only
  rw [List.map_map, List.length_map]
  refine ⟨rfl, ?_⟩
  split
  · rfl
  · rfl

def matching (minIdle : Nat) (pending : List PendingEntry) : List PendingEntry :=
  pending.filter fun entry => minIdle ≤ entry.idle

/-- `XPENDING` on a pending list that stays as it is: up to the count of the
matching entries in the order of ids, from the first on or behind an id of the list. -/
structure Answers (xpending : (minIdle : Nat) → (start stop : String) → (count : Nat) → Except RedisError (List PendingEntry))
    (pending : List PendingEntry) : Prop where
  ascending : pending.Pairwise fun earlier later => earlier.id < later.id
  fromFirst : ∀ minIdle count, xpending minIdle "-" "+" count = .ok ((matching minIdle pending).take count)
  behindId : ∀ minIdle count, ∀ entry ∈ pending, xpending minIdle (startBehind entry.id) "+" count =
    .ok (((matching minIdle pending).filter fun later => entry.id < later.id).take count)

/-- A start text stands for a cursor of the list. -/
def Starts (pending : List PendingEntry) (start : String) (cursor : WithBot MessageId) : Prop :=
  (start = "-" ∧ cursor = ⊥) ∨ ∃ entry ∈ pending, start = startBehind entry.id ∧ cursor = entry.id

/-- What is asked for from a start is the page behind its cursor. -/
theorem Answers.page (answers : Answers xpending pending) (starts : Starts pending start cursor) (minIdle : Nat) :
    xpending minIdle start "+" pendingPageSize =
      .ok (pageBehind PendingEntry.id (matching minIdle pending) cursor pendingPageSize) := by
  unfold pageBehind
  rcases starts with ⟨rfl, rfl⟩ | ⟨entry, listed, rfl, rfl⟩
  · rw [answers.fromFirst, behind_bot]
  · rw [answers.behindId _ _ entry listed]
    simp only [behind, WithBot.coe_lt_coe]

/-- From any cursor, the scan adds what is behind it. -/
theorem scanPages_from (answers : Answers xpending pending) (minIdle : Nat) (starts : Starts pending start cursor)
    (topic group : String) (ids : List MessageId)
    (enough : (behind PendingEntry.id (matching minIdle pending) cursor).length / pendingPageSize < pages) :
    scanPages (fun start => xpending minIdle start "+" pendingPageSize) topic group pages start ids =
      some (.ok (ids ++ (behind PendingEntry.id (matching minIdle pending) cursor).map PendingEntry.id)) := by
  have positive : 0 < pendingPageSize := by decide
  have sorted : (matching minIdle pending).Pairwise fun earlier later => earlier.id < later.id :=
    answers.ascending.sublist List.filter_sublist
  induction pages generalizing start cursor ids with
  | zero => exact absurd enough (Nat.not_lt_zero _)
  | succ pages ih =>
    unfold scanPages
    rw [answers.page starts minIdle]
    cases page : pageBehind PendingEntry.id (matching minIdle pending) cursor pendingPageSize with
    | nil =>
      rw [behind_of_empty_page positive page]
      simp
    | cons entry entries =>
      dsimp only
      rw [listPage_ids, ← page]
      split
      · next short => rw [behind_of_short_page short]
      · next full =>
        obtain ⟨final, last⟩ : ∃ final, (entry :: entries).getLast? = some final :=
          ⟨_, List.getLast?_eq_some_getLast (List.cons_ne_nil _ _)⟩
        rw [← page] at last
        have listed : final ∈ pending :=
          (List.mem_filter.mp (mem_behind_iff.mp (List.mem_of_mem_take (List.mem_of_getLast? last))).1).1
        have next : Starts pending (startBehind final.id) final.id := Or.inr ⟨final, listed, rfl, rfl⟩
        have rest := behind_last sorted last
        have size : pendingPageSize ≤ (behind PendingEntry.id (matching minIdle pending) cursor).length := by
          unfold pageBehind at full
          rw [List.length_take] at full
          omega
        have fewer : (behind PendingEntry.id (matching minIdle pending) final.id).length / pendingPageSize < pages := by
          rw [rest, List.length_drop]
          have one := Nat.sub_mul_div (behind PendingEntry.id (matching minIdle pending) cursor).length pendingPageSize 1
          have counted := Nat.div_pos size positive
          rw [Nat.mul_one] at one
          omega
        rw [listPage_start _ _ last, ih next _ fewer, rest, List.append_assoc, ← List.map_append]
        unfold pageBehind
        rw [List.take_append_drop]

/-- With enough pages the scan ends: over the range of Redis with an error, else
with every matching id once and in order. -/
theorem pendingIds_complete (answers : Answers (xpending topic group) pending) (minIdle : Nat) :
    (∀ error, durationMillis minIdle topic group = .error error → ∀ pages,
      pendingIds xpending pages topic group minIdle = some (.error error)) ∧
    ∀ minIdleMs, durationMillis minIdle topic group = .ok minIdleMs →
      ((matching minIdleMs pending).map PendingEntry.id).Pairwise (· < ·) ∧
      ∀ pages, (matching minIdleMs pending).length / pendingPageSize < pages →
        pendingIds xpending pages topic group minIdle =
          some (.ok ((matching minIdleMs pending).map PendingEntry.id)) := by
  refine ⟨fun error long pages => ?_, fun minIdleMs fits => ⟨?_, fun pages enough => ?_⟩⟩
  · rw [pendingIds, long]
  · exact List.pairwise_map.mpr (answers.ascending.sublist List.filter_sublist)
  · rw [pendingIds, fits]
    dsimp only
    have whole : behind PendingEntry.id (matching minIdleMs pending) ⊥ = matching minIdleMs pending := behind_bot _
    rw [← whole] at enough
    rw [scanPages_from answers minIdleMs (Or.inl ⟨rfl, rfl⟩) topic group [] enough, whole, List.nil_append]

/-- A server that looks the id of a start up in its list. -/
def answering (pending : List PendingEntry) (minIdle : Nat) (start _stop : String) (count : Nat) :
    Except RedisError (List PendingEntry) :=
  if start = "-" then .ok ((matching minIdle pending).take count)
  else
    match pending.find? fun entry => startBehind entry.id = start with
    | some entry => .ok (((matching minIdle pending).filter fun later => entry.id < later.id).take count)
    | none => .error (.failed "ERR Invalid stream ID specified as stream command argument")

theorem startBehind_injective {one other : MessageId} (same : startBehind one = startBehind other) : one = other := by
  have plain : ∀ n : Nat, '-' ∉ Nat.toDigits 10 n := by
    intro n member
    have digit : ('-' : Char).isDigit = true := Nat.isDigit_of_mem_toDigits (by omega) (by omega) member
    exact absurd digit (by decide)
  have parts : ∀ id : MessageId, rsplitOnce '-' (startBehind id).toList =
      some ('(' :: Nat.toDigits 10 id.millis, Nat.toDigits 10 id.sequence) := by
    intro id
    have shape : (startBehind id).toList = ('(' :: Nat.toDigits 10 id.millis) ++ '-' :: Nat.toDigits 10 id.sequence := by
      simp [startBehind, MessageId.toText]
    rw [shape, rsplitOnce_append _ (plain id.sequence)]
  have pieces := (parts one).symm.trans ((congrArg (fun text => rsplitOnce '-' text.toList) same).trans (parts other))
  obtain ⟨front, sequence⟩ := Prod.mk.inj (Option.some.inj pieces)
  have number : ∀ {m n : Nat}, Nat.toDigits 10 m = Nat.toDigits 10 n → m = n := by
    intro m n digits
    have values := congrArg (fun text => Nat.ofDigitChars 10 text 0) digits
    simpa only [Nat.ofDigitChars_ten_toDigits] using values
  rw [MessageId.mk.injEq]
  exact ⟨number (List.cons.inj front).2, number sequence⟩

theorem answers_answering (ascending : pending.Pairwise fun earlier later => earlier.id < later.id) :
    Answers (answering pending) pending where
  ascending := ascending
  fromFirst minIdle count := if_pos rfl
  behindId minIdle count entry listed := by
    have text : startBehind entry.id ≠ "-" := by
      intro same
      have letters := congrArg String.toList same
      simp [startBehind] at letters
    unfold answering
    rw [if_neg text]
    cases found : pending.find? fun other => startBehind other.id = startBehind entry.id with
    | none =>
      have missed := List.find?_eq_none.mp found entry listed
      exact absurd (decide_eq_true rfl) missed
    | some other =>
      have text := List.find?_some found
      have same := startBehind_injective (of_decide_eq_true text)
      dsimp only
      rw [same]

/-- A page of entries and one more, all of one millisecond. -/
def onePageAndOne : List PendingEntry :=
  (List.range (pendingPageSize + 1)).map fun sequence => ⟨⟨1740000000000, sequence⟩, "venue", 0, 1⟩

theorem pendingIds_complete_one_more :
    pendingIds (fun _ _ => answering onePageAndOne) 2 "fills" "risk_gate" 0 =
      some (.ok (onePageAndOne.map PendingEntry.id)) := by
  have ascending : onePageAndOne.Pairwise fun earlier later => earlier.id < later.id := by
    refine List.pairwise_map.mpr (List.pairwise_lt_range.imp fun {earlier later} less => ?_)
    exact Prod.Lex.toLex_lt_toLex.mpr (Or.inr ⟨rfl, less⟩)
  have all : matching 0 onePageAndOne = onePageAndOne :=
    List.filter_eq_self.mpr fun entry _ => decide_eq_true (Nat.zero_le _)
  obtain ⟨-, complete⟩ := @pendingIds_complete (fun _ _ => answering onePageAndOne) onePageAndOne "fills" "risk_gate"
    (answers_answering ascending) 0
  have listed := (complete 0 rfl).2 2
  rw [all] at listed
  apply listed
  rw [onePageAndOne, List.length_map, List.length_range]
  decide

end FeynmanEngine.PendingScan
