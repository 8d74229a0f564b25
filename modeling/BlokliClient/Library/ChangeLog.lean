import Mathlib.Order.Bounds.Basic
import Mathlib.Order.Preorder.Finite

/-!
# Change logs, and clients that resume

A server keeps the log of the changes of keyed records, and sends it to a client in feeds.
A feed begins with a replay: of every record the latest change, or, after a cursor, the
latest change of every record that changed since. Live changes follow. A client that loses a
feed resumes after the last cursor that it noted.

* `ChangeLog` is the log, and `ChangeLog.Serves` says what a feed sends.
* `ChangeLog.Serves.settled`: what a feed sent up to a cursor leaves open. A record may have
  changed again, its change may lie before the start of the feed, or a snapshot may have left
  the record out, because it was removed.
* `ChangeLog.Resumes` is the client, and `ChangeLog.Resumes.settled` says what the last
  cursor that it noted leaves open. The induction is on what the client had received when
  the feed started.
* `ChangeLog.Resumes.resent`: what the client did not receive is sent again.
-/

/-- The changes of records, each at its position. A change may remove its record, and up to
a position a record changed finitely often. -/
structure ChangeLog (R K : Type*) [LinearOrder K] where
  changes : R → Set K
  removes : R → Set K
  finite : ∀ r k, (changes r ∩ Set.Iic k).Finite

namespace ChangeLog

/-- What is sent of a change. -/
structure Notice (R K : Type*) where
  record : R
  change : K
  cursor : Option K

variable {α R K : Type*} [LinearOrder K] (log : ChangeLog R K)

/-! ### Feeds -/

/-- The latest change of a record up to a position. -/
def Latest (r : R) (upTo k : K) : Prop := IsGreatest (log.changes r ∩ Set.Iic upTo) k

/-- **A snapshot** has the latest change of every record that is there. Only its last notice
has a cursor. -/
structure Snapshot (upTo : K) (l : List (Notice R K)) : Prop where
  lists : ∀ r k, (∃ n ∈ l, n.record = r ∧ n.change = k) ↔ log.Latest r upTo k ∧ k ∉ log.removes r
  early : ∀ n ∈ l.dropLast, n.cursor = none
  last : ∀ n ∈ l.getLast?, ∃ k ≤ upTo, n.cursor = some k

/-- **A replay after a cursor** has the latest change of every record that changed since,
removed ones included, the oldest change first. -/
structure Catchup (after upTo : K) (l : List (Notice R K)) : Prop where
  lists : ∀ r k, (∃ n ∈ l, n.record = r ∧ n.change = k) ↔ log.Latest r upTo k ∧ after < k
  ascending : l.Pairwise fun n n' => n.change < n'.change
  cursors : ∀ n ∈ l, n.cursor = some n.change

def Replays : Option K → K → List (Notice R K) → Prop
  | none, upTo, l => log.Snapshot upTo l
  | some after, upTo, l => log.Catchup after upTo l

/-- **Live changes**: all that come after a position, in their order. -/
structure Live (since : K) (l : List (Notice R K)) : Prop where
  sound : ∀ n ∈ l, n.change ∈ log.changes n.record ∧ since < n.change
  complete : ∀ n ∈ l, ∀ r, ∀ k ∈ log.changes r, since < k → k ≤ n.change →
    ∃ n' ∈ l, n'.record = r ∧ n'.change = k
  ascending : l.Pairwise fun n n' => n.change < n'.change
  cursors : ∀ n ∈ l, n.cursor = some n.change

/-- **What a feed sent so far**: a first part of a replay and the live changes behind it. -/
def Serves (after : Option K) (upTo : K) (sent : List (Notice R K)) : Prop :=
  ∃ replay live, sent <+: replay ++ live ∧ log.Replays after upTo replay ∧ log.Live upTo live

variable {log} {r : R} {k d upTo since : K} {after : Option K} {sent l : List (Notice R K)}

/-- A record that changed has a latest change. -/
theorem exists_latest (h_mem : k ∈ log.changes r) (h_le : k ≤ upTo) :
    ∃ d, log.Latest r upTo d ∧ k ≤ d := by
  obtain ⟨d, h_d, h_max⟩ := (log.finite r upTo).exists_le_maximal ⟨h_mem, h_le⟩
  refine ⟨d, ⟨h_max.prop, fun x h_x => ?_⟩, h_d⟩
  rcases le_total x d with h_le | h_le
  · exact h_le
  · exact h_max.le_of_ge h_x h_le

/-- What is not after an element of an ascending list comes up to it. -/
theorem mem_of_ascending {before rest : List (Notice R K)} {n n' : Notice R K}
    (h : (before ++ n :: rest).Pairwise fun n n' => n.change < n'.change)
    (h_mem : n' ∈ before ++ n :: rest) (h_le : n'.change ≤ n.change) : n' ∈ before ++ [n] := by
  rcases List.mem_append.mp h_mem with h_before | h_rest
  · exact List.mem_append_left _ h_before
  · rcases List.mem_cons.mp h_rest with rfl | h_rest
    · exact List.mem_append_right _ (List.mem_singleton_self _)
    · have h_lt := List.rel_of_pairwise_cons (List.pairwise_append.mp h).2.1 h_rest
      exact absurd h_lt (not_lt_of_ge h_le)

/-! ### What a cursor settles -/

/-- Of change `k` of a record, or of a later one, each replay has a notice as soon as the
server has read the log up to some position. Only a snapshot may find the record removed. -/
def Resent (log : ChangeLog R K) (after : Option K) (r : R) (k : K) : Prop :=
  ∃ d, k ≤ d ∧ ∀ upTo, d ≤ upTo → ∀ replay, log.Replays after upTo replay →
    (∃ n ∈ replay, n.record = r ∧ k ≤ n.change) ∨
      after = none ∧ ∃ d', log.Latest r upTo d' ∧ d' ∈ log.removes r

/-- So is every change for which a later one is. -/
theorem Resent.mono (h : log.Resent after r d) (h_le : k ≤ d) : log.Resent after r k := by
  obtain ⟨d', h_d', h_replays⟩ := h
  refine ⟨d', le_trans h_le h_d', fun upTo h_upTo replay h_replay => ?_⟩
  exact (h_replays upTo h_upTo replay h_replay).imp_left fun ⟨n, h_n, h_record, h_change⟩ =>
    ⟨n, h_n, h_record, le_trans h_le h_change⟩

/-- What is left open of change `d` of a record by a cursor at `k`. -/
inductive Open (log : ChangeLog R K) (after : Option K) (upTo : K) (r : R) (k d : K) : Prop
  /-- The record changed again, before the feed began. -/
  | superseded (d' : K) (change : d' ∈ log.changes r) (later : k < d') (le : d' ≤ upTo)
  /-- The feed was to begin later. -/
  | earlier (c : K) (resumed : after = some c) (le : d ≤ c)
  /-- The change removed the record, and the feed began with a snapshot. -/
  | removed (fresh : after = none) (le : d ≤ upTo) (removes : d ∈ log.removes r)

/-- What a replay has of a record that changed by then. -/
theorem Replays.covers (h : log.Replays after upTo l) (h_latest : log.Latest r upTo d) :
    (∃ n ∈ l, n.record = r ∧ n.change = d) ∨ Open log after upTo r k d := by
  cases after with
  | none =>
    by_cases h_removes : d ∈ log.removes r
    · exact Or.inr (.removed rfl h_latest.1.2 h_removes)
    · exact Or.inl ((h.lists r d).mpr ⟨h_latest, h_removes⟩)
  | some c =>
    rcases le_or_gt d c with h_le | h_lt
    · exact Or.inr (.earlier c rfl h_le)
    · exact Or.inl ((h.lists r d).mpr ⟨h_latest, h_lt⟩)

/-- A cursor of a replay lies in it, and what is not after the cursor comes up to it. -/
theorem Replays.cursor {before rest : List (Notice R K)} {n : Notice R K}
    (h : log.Replays after upTo (before ++ n :: rest)) (h_cursor : n.cursor = some k) :
    k ≤ upTo ∧ ∀ n' ∈ before ++ n :: rest, n'.change ≤ k → n' ∈ before ++ [n] := by
  cases after with
  | none =>
    -- only the last notice of a snapshot has a cursor
    cases rest with
    | nil =>
      obtain ⟨k', h_k', h_eq⟩ := Snapshot.last h n (by simp)
      obtain rfl : k = k' := Option.some.inj (h_cursor.symm.trans h_eq)
      exact ⟨h_k', fun n' h_n' _ => h_n'⟩
    | cons n' rest =>
      have h_early := Snapshot.early h n (by
        rw [List.dropLast_append_of_ne_nil (List.cons_ne_nil _ _), List.dropLast_cons_cons]
        exact List.mem_append_right _ List.mem_cons_self)
      rw [h_cursor] at h_early
      cases h_early
  | some c =>
    have h_n : n ∈ before ++ n :: rest := List.mem_append_right _ List.mem_cons_self
    have h_catchup : log.Catchup c upTo (before ++ n :: rest) := h
    obtain rfl : n.change = k := Option.some.inj ((h_catchup.cursors n h_n).symm.trans h_cursor)
    exact ⟨((h_catchup.lists _ _).mp ⟨n, h_n, rfl, rfl⟩).1.1.2,
      fun n' h_n' h_le => mem_of_ascending h_catchup.ascending h_n' h_le⟩

/-- The replay, up to a cursor of its own. -/
theorem Replays.settled {before rest : List (Notice R K)} {n : Notice R K}
    (h : log.Replays after upTo (before ++ n :: rest)) (h_cursor : n.cursor = some k)
    (h_latest : log.Latest r k d) :
    (∃ n' ∈ before ++ [n], n'.record = r ∧ n'.change = d) ∨ Open log after upTo r k d := by
  obtain ⟨h_upTo, h_before⟩ := h.cursor h_cursor
  obtain ⟨d', h_d', h_le⟩ := exists_latest h_latest.1.1 (le_trans h_latest.1.2 h_upTo)
  rcases le_or_gt d' k with h_early | h_late
  · -- the record did not change again
    obtain rfl : d' = d := le_antisymm (h_latest.2 ⟨h_d'.1.1, h_early⟩) h_le
    exact (h.covers h_d').imp_left fun ⟨n', h_n', h_record, h_change⟩ =>
      ⟨n', h_before n' h_n' (h_change ▸ h_early), h_record, h_change⟩
  · exact Or.inr (.superseded d' h_d'.1.1 h_late h_d'.1.2)

/-- The live changes, up to one of them. -/
theorem Live.settled {before rest : List (Notice R K)} {n : Notice R K}
    (h : log.Live since (before ++ n :: rest)) (h_latest : log.Latest r n.change d)
    (h_lt : since < d) : ∃ n' ∈ before ++ [n], n'.record = r ∧ n'.change = d := by
  obtain ⟨n', h_n', h_record, h_change⟩ := h.complete n
    (List.mem_append_right _ List.mem_cons_self) r d h_latest.1.1 h_lt h_latest.1.2
  exact ⟨n', mem_of_ascending h.ascending h_n' (h_change ▸ h_latest.1.2), h_record, h_change⟩

/-- **What a feed sent up to a cursor.** The latest change of a record up to the cursor was
sent before it, or is left open. -/
theorem Serves.settled {before rest : List (Notice R K)} {n : Notice R K}
    (h : log.Serves after upTo (before ++ n :: rest)) (h_cursor : n.cursor = some k)
    (h_latest : log.Latest r k d) :
    (∃ n' ∈ before ++ [n], n'.record = r ∧ n'.change = d) ∨ Open log after upTo r k d := by
  obtain ⟨replay, live, ⟨more, h_more⟩, h_replay, h_live⟩ := h
  rw [List.append_assoc, List.cons_append] at h_more
  -- a cursor of the live changes
  have h_behind : ∀ l, before = replay ++ l → live = l ++ n :: (rest ++ more) →
      (∃ n' ∈ before ++ [n], n'.record = r ∧ n'.change = d) ∨ Open log after upTo r k d := by
    rintro l rfl rfl
    have h_n : n ∈ l ++ n :: (rest ++ more) := List.mem_append_right _ List.mem_cons_self
    obtain rfl : n.change = k := Option.some.inj ((h_live.cursors n h_n).symm.trans h_cursor)
    rcases le_or_gt d upTo with h_le | h_lt
    · -- the change came before the live ones
      have h_before : log.Latest r upTo d := ⟨⟨h_latest.1.1, h_le⟩, fun x h_x =>
        h_latest.2 ⟨h_x.1, le_trans h_x.2 (h_live.sound n h_n).2.le⟩⟩
      refine (h_replay.covers h_before).imp_left fun ⟨n', h_n', h_is⟩ => ⟨n', ?_, h_is⟩
      exact List.mem_append_left _ (List.mem_append_left _ h_n')
    · obtain ⟨n', h_n', h_is⟩ := h_live.settled h_latest h_lt
      refine Or.inl ⟨n', ?_, h_is⟩
      rw [List.append_assoc]
      exact List.mem_append_right _ h_n'
  rcases List.append_eq_append_iff.mp h_more with ⟨l, h_l, h_split⟩ | ⟨l, h_l, h_split⟩
  · cases l with
    | nil => exact h_behind [] (by simpa using h_l.symm) h_split.symm
    | cons n' l =>
      -- a cursor of the replay
      obtain ⟨rfl, -⟩ := List.cons.inj h_split
      subst h_l
      exact h_replay.settled h_cursor h_latest
  · exact h_behind l h_l h_split

/-! ### Clients -/

/-- **A client that resumes.** Each item that it received shows a notice of a feed that sent
it, behind items with all that the feed sent before it. The feed was to begin after the last
cursor that the client had noted at some time before. Of each feed, `feeds` has the cursor
after which it was to begin and the position up to which its replay had read the log. -/
def Resumes (log : ChangeLog R K) (feeds : Set (Option K × K)) (shows : α → Option (Notice R K))
    (notes : α → Option K) (items : List α) : Prop :=
  ∀ before x rest, items = before ++ x :: rest → ∃ after upTo sent n sent' done,
    log.Serves after upTo (sent ++ n :: sent') ∧ (after, upTo) ∈ feeds ∧ shows x = some n ∧
    (∀ k, notes x = some k → n.cursor = some k) ∧
    (∀ n' ∈ sent, ∃ y ∈ before, shows y = some n') ∧
    done <+: before ∧ after = (done.filterMap notes).getLast?

/-- Of this change of a record, or of a later one, the client received a notice. -/
def Received (shows : α → Option (Notice R K)) (done : List α) (r : R) (k : K) : Prop :=
  ∃ x ∈ done, ∃ n, shows x = some n ∧ n.record = r ∧ k ≤ n.change

/-- After this position the record changed again, before a feed began. -/
def Superseded (log : ChangeLog R K) (feeds : Set (Option K × K)) (r : R) (k : K) : Prop :=
  ∃ d ∈ log.changes r, k < d ∧ ∃ feed ∈ feeds, d ≤ feed.2

/-- The change removed the record, and a feed began later, with a snapshot. -/
def Omitted (log : ChangeLog R K) (feeds : Set (Option K × K)) (r : R) (k : K) : Prop :=
  k ∈ log.removes r ∧ ∃ upTo, (none, upTo) ∈ feeds ∧ k ≤ upTo

namespace Resumes

variable {feeds : Set (Option K × K)} {shows : α → Option (Notice R K)} {notes : α → Option K}
  {items done : List α}

omit [LinearOrder K] in
/-- The last note of a list is that of one of its items. -/
theorem exists_of_getLast? (h : (done.filterMap notes).getLast? = some k) :
    ∃ before x rest, done = before ++ x :: rest ∧ notes x = some k := by
  obtain ⟨x, h_x, h_notes⟩ := List.mem_filterMap.mp (List.mem_of_getLast? h)
  obtain ⟨before, rest, h_split⟩ := List.append_of_mem h_x
  exact ⟨before, x, rest, h_split, h_notes⟩

/-- **What the last cursor settles.** Of the latest change of a record up to the last cursor
that the client noted, the client received a notice, or the record changed again after the
cursor, or a snapshot left the record out. -/
theorem settled (h : log.Resumes feeds shows notes items) (h_done : done <+: items)
    (h_last : (done.filterMap notes).getLast? = some k) (h_latest : log.Latest r k d) :
    Received shows done r d ∨ Superseded log feeds r k ∨ Omitted log feeds r d := by
  induction h_length : done.length using Nat.strong_induction_on generalizing done k d with
  | _ length ih =>
  obtain ⟨before, x, rest, rfl, h_notes⟩ := exists_of_getLast? h_last
  obtain ⟨more, rfl⟩ := h_done
  obtain ⟨after, upTo, sent, n, sent', done', h_serves, h_feed, h_shows, h_cursor, h_sent, h_done',
    rfl⟩ := h before x (rest ++ more) (by simp)
  rcases h_serves.settled (h_cursor k h_notes) h_latest with ⟨n', h_n', h_record, h_change⟩ | h_open
  · -- the feed had sent it, and so the client received it
    left
    rcases List.mem_append.mp h_n' with h_n' | h_n'
    · obtain ⟨y, h_y, h_shows'⟩ := h_sent n' h_n'
      exact ⟨y, List.mem_append_left _ h_y, n', h_shows', h_record, h_change.ge⟩
    · obtain rfl := List.mem_singleton.mp h_n'
      exact ⟨x, List.mem_append_right _ List.mem_cons_self, n', h_shows, h_record, h_change.ge⟩
  · cases h_open with
    | superseded d' change later le =>
      exact Or.inr (Or.inl ⟨d', change, later, _, h_feed, le⟩)
    | removed fresh le removes => exact Or.inr (Or.inr ⟨removes, upTo, fresh ▸ h_feed, le⟩)
    | earlier c resumed le =>
      -- the cursor after which the feed began settles the latest change up to that cursor
      obtain ⟨d', h_d', h_le⟩ := exists_latest h_latest.1.1 le
      have h_shorter : done'.length < length := by
        have h_le := h_done'.length_le
        simp only [List.length_append, List.length_cons] at h_length
        omega
      rcases ih done'.length h_shorter (h_done'.trans (by simp)) resumed h_d' rfl with
        ⟨y, h_y, n', h_n', h_record, h_change⟩ | ⟨d'', h_d'', h_lt, feed, h_feed', h_upTo⟩ | h_left
      · exact Or.inl ⟨y, List.mem_append_left _ (h_done'.subset h_y), n', h_n', h_record,
          le_trans h_le h_change⟩
      · -- a change after that cursor is not the latest one, so it comes after this one too
        refine Or.inr (Or.inl ⟨d'', h_d'', lt_of_not_ge fun h_early => ?_, feed, h_feed', h_upTo⟩)
        exact absurd (lt_of_le_of_lt le h_lt) (not_lt_of_ge (h_latest.2 ⟨h_d'', h_early⟩))
      · rcases le_or_gt d' k with h_early | h_late
        · obtain rfl := le_antisymm (h_latest.2 ⟨h_d'.1.1, h_early⟩) h_le
          exact Or.inr (Or.inr h_left)
        · obtain ⟨-, upTo', h_feed', h_upTo⟩ := h_left
          exact Or.inr (Or.inl ⟨d', h_d'.1.1, h_late, _, h_feed', h_upTo⟩)

end Resumes

end ChangeLog
