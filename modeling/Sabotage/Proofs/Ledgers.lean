import Mathlib.Data.Finset.Card
import Mathlib.Data.List.Dedup
import Sabotage.Proofs.Recording
import Sabotage.Proofs.Records
import Sabotage.Proofs.Splices

/-!
# The ledger as a map

Recording an entry puts it at the end of the rows, in place of one of its identifier
(`Ledger.rows?_record`). So after any run of recordings the rows are the entries that no later one
has taken the place of (`Ledger.Recorded.rows?_eq`), and what the ledger answers is told by them
(`Ledger.refines_map`). A ledger that can take entries takes any number of them
(`Ledger.Ready.exists_recorded`).
-/

namespace Sabotage

open Text

/-! ## Entries that are left -/

namespace HistoryEntry
variable {e : HistoryEntry}

/-- The row of an entry. -/
def row (e : HistoryEntry) : Row :=
  ⟨e.id, e.time, e.record⟩

/-- An entry of which nothing is lost is read back from its row. -/
theorem read?_row (h : e.Lasting) : read? e.row.payload = some e :=
  read?_record h

/-- The entries that no later one has taken the place of, in the order of their recording. -/
def survivors : List HistoryEntry → List HistoryEntry
  | [] => []
  | e :: es => if es.any (·.id == e.id) then survivors es else e :: survivors es

/-- An entry that is recorded takes the place of one of its identifier. -/
theorem survivors_append (es : List HistoryEntry) (e : HistoryEntry) :
    survivors (es ++ [e]) = (survivors es).filter (·.id != e.id) ++ [e] := by
  induction es with
  | nil => simp [survivors]
  | cons e' es ih =>
    rw [List.cons_append, survivors, survivors, ih]
    by_cases hlater : es.any (·.id == e'.id)
    · simp [hlater]
    · by_cases hsame : e.id = e'.id
      · simp [hlater, hsame]
      · simp [hlater, hsame, Ne.symm hsame]

end HistoryEntry

namespace Ledger
variable {l : Ledger} {d d₀ d₁ d' : Disk} {e : HistoryEntry} {es : List HistoryEntry}
  {rows : List Row}

/-! ## Recording -/

/-- A ledger that keeps its store and its log at two places. -/
structure Apart (l : Ledger) : Prop where
  store : l.store.Normal
  log : l.log.Normal
  places : l.storePlace ≠ l.logPlace

/-- The rows are those of a store that stands in its place. -/
theorem rows?_eq_some (hstore : l.store.Normal) : l.rows? d = some rows ↔
    d.locate l.here l.store.toString = .ok l.storePlace
      ∧ d.occupant? l.storePlace = some (.store ⟨some rows⟩) := by
  constructor
  · intro h
    obtain ⟨⟨table?⟩, hheld, rfl⟩ := Option.bind_eq_some_iff.1 h
    rw [storeAt?, Disk.find] at hheld
    cases hlocate : d.locate l.here l.store.toString with
    | error e =>
      rw [hlocate] at hheld
      cases e <;> cases hheld
    | ok place =>
      obtain rfl : place = l.storePlace := Disk.locate_toString_eq hstore hlocate
      rw [hlocate] at hheld
      refine ⟨rfl, ?_⟩
      cases hthere : d.occupant? l.storePlace with
      | none =>
        simp only [hthere] at hheld
        cases hheld
      | some entry =>
        simp only [hthere] at hheld
        split at hheld
        · next hentry =>
          cases hentry
          cases hheld
          rfl
        all_goals cases hheld
  · rintro ⟨hlocate, hthere⟩
    simp [rows?, storeAt?, Disk.find, hlocate, hthere]

/-- The rows are the same on a disk that spares the store. -/
theorem rows?_of_spares (hstore : l.store.Normal) (hrows : l.rows? d = some rows)
    (h : d.Spares d' l.storePlace) : l.rows? d' = some rows := by
  obtain ⟨hlocate, hthere⟩ := (rows?_eq_some hstore).1 hrows
  exact (rows?_eq_some hstore).2
    ⟨Disk.locate_mono (fun _ => h.directory) hlocate, h.kept hthere⟩

/-- No row is entered where no rows can be read. -/
theorem enterRow_of_rows?_eq_none (h : l.rows? d = none) (e : HistoryEntry) :
    l.enterRow e d = (false, d) := by
  rw [rows?] at h
  rw [enterRow]
  cases hheld : l.storeAt? d with
  | none => rfl
  | some held =>
    rw [hheld, Option.bind_some] at h
    simp only [Option.bind_some, Store.put?, h]

/-- An entry whose time is a number is entered at the end, in place of one of its identifier. -/
theorem enterRow_eq (hstore : l.store.Normal) (hrows : l.rows? d = some rows) :
    l.enterRow e d =
      if e.time.isNaN then (false, d)
      else (true, d.set l.storePlace (.store ⟨some (Store.putRow e.row rows)⟩)) := by
  obtain ⟨hlocate, hthere⟩ := (rows?_eq_some hstore).1 hrows
  have hheld : l.storeAt? d = some ⟨some rows⟩ := by
    simp [storeAt?, Disk.find, hlocate, hthere]
  rw [enterRow, hheld, Option.bind_some, Store.put?]
  by_cases htime : e.time.isNaN
  · simp only [htime, if_true]
  · simp only [htime, putStore, hlocate, HistoryEntry.row, Bool.false_eq_true, if_false]

/-- Putting a store in place of one leaves the directories where they are. -/
theorem occupant?_set_store (hrows : l.rows? d = some rows) (hstore : l.store.Normal) (s : Store) :
    (d.set l.storePlace (.store s)).occupant? l.storePlace = some (.store s)
      ∧ ∀ place, d.occupant? place = some .directory →
        (d.set l.storePlace (.store s)).occupant? place = some .directory := by
  obtain ⟨-, hthere⟩ := (rows?_eq_some hstore).1 hrows
  refine ⟨Disk.occupant?_set ?_ d _, fun place hdir => ?_⟩
  · intro hroot
    rw [hroot] at hthere
    cases hthere
  · rwa [Disk.occupant?_set_of_ne]
    rintro rfl
    cases hthere.symm.trans hdir

/-- A row that is entered is put at the end, in place of one of its identifier. -/
theorem rows?_enterRow (hstore : l.store.Normal) (hrows : l.rows? d = some rows)
    (h : l.enterRow e d = (true, d₁)) : l.rows? d₁ = some (Store.putRow e.row rows) := by
  rw [enterRow_eq hstore hrows] at h
  split at h
  · cases h
  · cases h
    obtain ⟨hthere, hdirs⟩ := occupant?_set_store hrows hstore ⟨some (Store.putRow e.row rows)⟩
    exact (rows?_eq_some hstore).2
      ⟨Disk.locate_mono hdirs ((rows?_eq_some hstore).1 hrows).1, hthere⟩

/-- Recording an entry puts its row at the end, in place of one of its identifier. -/
theorem rows?_record (hl : l.Apart) (hrows : l.rows? d = some rows)
    (h : l.record e d = (true, d')) : l.rows? d' = some (Store.putRow e.row rows) := by
  obtain ⟨stored, d₁, henter⟩ : ∃ stored d₁, l.enterRow e d = (stored, d₁) := ⟨_, _, rfl⟩
  simp only [record, henter, Prod.mk.injEq, Bool.and_eq_true] at h
  obtain ⟨⟨rfl, -⟩, rfl⟩ := h
  exact rows?_of_spares hl.store (rows?_enterRow hl.store hrows henter)
    (enterLine_spares hl.log hl.places e d₁)

/-- Entries are recorded one after the other, with success. -/
inductive Recorded (l : Ledger) (d₀ : Disk) : List HistoryEntry → Disk → Prop
  | start : Recorded l d₀ [] d₀
  | next {es : List HistoryEntry} {e : HistoryEntry} {d d' : Disk} (h : Recorded l d₀ es d)
    (hrecord : l.record e d = (true, d')) : Recorded l d₀ (es ++ [e]) d'

/-- A ledger that can take entries: its store has a table, and its log is a file or missing, in a
directory. -/
structure Ready (l : Ledger) (d : Disk) : Prop where
  rows : ∃ rows, l.rows? d = some rows
  directory : d.makePath l.here l.log.parent = .ok d
  log : d.locate l.here l.log.toString = .ok l.logPlace
  content : d.occupant? l.logPlace = none ∨ ∃ bytes, d.occupant? l.logPlace = some (.file bytes)

/-- A file is added to, or made, where the log is. -/
theorem Ready.exists_append (h : l.Ready d) (bytes : Bytes) :
    ∃ d' more, d.append l.here l.log.toString bytes = .ok d' ∧ d.Puts d' l.logPlace more := by
  rcases h.content with hnone | ⟨old, hfile⟩
  · obtain ⟨d', happend, hputs⟩ := Disk.exists_append h.log (.inl ⟨hnone, rfl⟩) bytes
    exact ⟨d', _, happend, hputs⟩
  · obtain ⟨d', happend, hputs⟩ := Disk.exists_append h.log (.inr hfile) bytes
    exact ⟨d', _, happend, hputs⟩

/-- A ledger that can take entries takes every entry whose time is a number, and more after it. -/
theorem Ready.exists_record (hl : l.Apart) (h : l.Ready d) (htime : e.time.isNaN = false) :
    ∃ d', l.record e d = (true, d') ∧ l.Ready d' := by
  obtain ⟨rows, hrows⟩ := h.rows
  obtain ⟨d₁, henter, hdirs, hlog⟩ : ∃ d₁, l.enterRow e d = (true, d₁)
      ∧ (∀ place, d.occupant? place = some .directory → d₁.occupant? place = some .directory)
      ∧ d₁.occupant? l.logPlace = d.occupant? l.logPlace := by
    rw [enterRow_eq hl.store hrows, htime]
    exact ⟨_, rfl, (occupant?_set_store hrows hl.store _).2,
      Disk.occupant?_set_of_ne (Ne.symm hl.places) d _⟩
  have hready : l.Ready d₁ := by
    refine ⟨⟨_, rows?_enterRow hl.store hrows henter⟩, ?_, Disk.locate_mono hdirs h.log,
      hlog ▸ h.content⟩
    exact Disk.makePath_again h.directory fun hdir => hdirs _ hdir
  obtain ⟨d', more, happend, hputs⟩ := hready.exists_append (Bytes.ofString (e.record ++ "\n"))
  have hrecord : l.record e d = (true, d') := by
    simp only [record, henter, enterLine, hready.directory, happend, Bool.and_self]
  have hdirs' := hputs.directory_iff
  refine ⟨d', hrecord, ⟨_, rows?_record hl hrows hrecord⟩, ?_, ?_, .inr ⟨more, hputs.there⟩⟩
  · exact Disk.makePath_again hready.directory fun hdir => (hdirs' _).2 hdir
  · exact Disk.locate_mono (fun l => (hdirs' l).2) hready.log

/-- So it takes any number of them. -/
theorem Ready.exists_recorded (hl : l.Apart) (h : l.Ready d₀) (es : List HistoryEntry)
    (htimes : ∀ e ∈ es, e.time.isNaN = false) : ∃ d, l.Recorded d₀ es d ∧ l.Ready d := by
  induction es using List.reverseRecOn with
  | nil => exact ⟨d₀, .start, h⟩
  | append_singleton es e ih =>
    obtain ⟨d, hrecorded, hready⟩ := ih fun e he => htimes e (List.mem_append_left _ he)
    obtain ⟨d', hrecord, hready'⟩ := hready.exists_record hl (htimes e (by simp))
    exact ⟨d', .next hrecorded hrecord, hready'⟩

/-- After a run of recordings the rows are those of the entries that no later one has taken the
place of. -/
theorem Recorded.rows?_eq (h : l.Recorded d₀ es d) (hl : l.Apart) (hempty : l.rows? d₀ = some []) :
    l.rows? d = some ((HistoryEntry.survivors es).map HistoryEntry.row) := by
  induction h with
  | start => exact hempty
  | next _ hrecord ih =>
    rw [rows?_record hl ih hrecord, HistoryEntry.survivors_append, Store.putRow, List.filter_map,
      List.map_append]
    rfl

/-! ## What is read -/

/-- Entries are read back from their rows. -/
theorem filterMap_read?_row {es : List HistoryEntry} (h : ∀ e ∈ es, e.Lasting) :
    (es.map HistoryEntry.row).filterMap (fun r => HistoryEntry.read? r.payload) = es := by
  have hread : ∀ e ∈ es, HistoryEntry.read? e.row.payload = some e :=
    fun e he => HistoryEntry.read?_row (h e he)
  simp only [List.filterMap_map, Function.comp_def]
  rw [List.filterMap_congr hread, List.filterMap_some]

/-- The entry that is left under an identifier is the last one. -/
theorem find?_survivors (id : String) (es : List HistoryEntry) :
    (HistoryEntry.survivors es).find? (·.id == id) = es.reverse.find? (·.id == id) := by
  induction es using List.reverseRecOn with
  | nil => rfl
  | append_singleton es e ih =>
    rw [HistoryEntry.survivors_append, List.reverse_concat, List.find?_append, List.find?_cons,
      List.find?_filter]
    by_cases hid : e.id = id
    · have hnone : (HistoryEntry.survivors es).find? (fun a => decide ((a.id != e.id) = true
          ∧ (a.id == id) = true)) = none := by
        simp [List.find?_eq_none, hid]
      rw [hnone, hid, beq_self_eq_true]
      simp [hid]
    · have hkept : (HistoryEntry.survivors es).find? (fun a => decide ((a.id != e.id) = true
          ∧ (a.id == id) = true)) = (HistoryEntry.survivors es).find? (·.id == id) := by
        congr 1
        funext a
        by_cases ha : a.id = id
        · simp [ha, Ne.symm hid]
        · simp [ha]
      rw [hkept, ih, beq_eq_false_iff_ne.2 hid]
      simp [hid]

/-- What is left was recorded. -/
theorem mem_of_mem_survivors (h : e ∈ HistoryEntry.survivors es) : e ∈ es := by
  induction es with
  | nil => cases h
  | cons e' es ih =>
    rw [HistoryEntry.survivors] at h
    split at h
    · exact List.mem_cons_of_mem _ (ih h)
    · rcases List.mem_cons.1 h with rfl | h
      · exact List.mem_cons_self
      · exact List.mem_cons_of_mem _ (ih h)

/-- Under every identifier that was recorded something is left. -/
theorem mem_ids_survivors {id : String} :
    id ∈ (HistoryEntry.survivors es).map (·.id) ↔ id ∈ es.map (·.id) := by
  induction es with
  | nil => rfl
  | cons e es ih =>
    rw [HistoryEntry.survivors, List.map_cons, List.mem_cons]
    split
    · next hlater =>
      obtain ⟨e', he', hsame⟩ := List.any_eq_true.1 hlater
      rw [ih, iff_or_self]
      rintro rfl
      exact List.mem_map.2 ⟨e', he', eq_of_beq hsame⟩
    · rw [List.map_cons, List.mem_cons, ih]

/-- No two that are left have one identifier. -/
theorem nodup_ids_survivors (es : List HistoryEntry) :
    ((HistoryEntry.survivors es).map (·.id)).Nodup := by
  induction es with
  | nil => exact .nil
  | cons e es ih =>
    rw [HistoryEntry.survivors]
    split
    · exact ih
    · next hlater =>
      refine List.nodup_cons.2 ⟨fun hmem => hlater ?_, ih⟩
      obtain ⟨e', he', hsame⟩ := List.mem_map.1 (mem_ids_survivors.1 hmem)
      exact List.any_eq_true.2 ⟨e', he', beq_iff_eq.2 hsame⟩

/-- There are as many left as identifiers were recorded. -/
theorem length_survivors (es : List HistoryEntry) :
    (HistoryEntry.survivors es).length = (es.map (·.id)).toFinset.card := by
  have hids : (es.map (·.id)).toFinset = ((HistoryEntry.survivors es).map (·.id)).toFinset := by
    ext id
    rw [List.mem_toFinset, List.mem_toFinset, mem_ids_survivors]
  rw [hids, List.toFinset_card_of_nodup (nodup_ids_survivors es), List.length_map]

/-- Entries by falling time; of entries of one time the later one comes first. -/
def latestFirst (es : List HistoryEntry) : List HistoryEntry :=
  arrange (fun a b => b.time < a.time) es.reverse

/-- Entries at different times, by falling time. -/
theorem pairwise_latestFirst {es : List HistoryEntry} (hfinite : ∀ e ∈ es, e.time.isFinite)
    (htimes : es.Pairwise fun a b => (a.time == b.time) = false) :
    (latestFirst es).Pairwise fun a b => b.time < a.time := by
  -- Times that are finite compare as integers do, and integers are in order.
  let rankOf (e : HistoryEntry) : Int := Binary64.rank (Binary64.parts e.time)
  have hrank : latestFirst es = arrange (fun a b => decide (rankOf b < rankOf a)) es.reverse := by
    refine arrange_congr fun a ha b hb => ?_
    rw [decide_eq_decide]
    exact Binary64.lt_iff_rank (hfinite b (List.mem_reverse.1 hb))
      (hfinite a (List.mem_reverse.1 ha))
  have hperm : (latestFirst es).Perm es := (arrange_perm _ _).trans (List.reverse_perm _)
  have hsorted : (latestFirst es).Pairwise fun a b => rankOf b ≤ rankOf a := by
    rw [hrank]
    refine (arrange_sorted (fun a b c => ?_) (fun a => ?_) _).imp fun {a b} h => ?_
    · simp only [decide_eq_true_eq]
      omega
    · simp
    · simpa using h
  have hapart : (latestFirst es).Pairwise fun a b => rankOf a ≠ rankOf b := by
    refine (hperm.pairwise_iff fun {a b} h => Ne.symm h).2 ?_
    refine htimes.imp_of_mem fun {a b} ha hb h => ?_
    rw [Ne, ← Binary64.beq_iff_rank (hfinite a ha) (hfinite b hb), h]
    exact Bool.false_ne_true
  refine (hsorted.and hapart).imp_of_mem fun {a b} ha hb h => ?_
  rw [Binary64.lt_iff_rank (hfinite b (hperm.mem_iff.1 hb)) (hfinite a (hperm.mem_iff.1 ha))]
  exact lt_of_le_of_ne h.1 (Ne.symm h.2)

section
variable (hrows : l.rows? d = some ((HistoryEntry.survivors es).map HistoryEntry.row))
  (hlasting : ∀ e ∈ es, e.Lasting)
include hrows hlasting

/-- The entry of an identifier is the last one that was recorded under it. -/
theorem get?_eq_find? (id : String) : l.get? id d = es.reverse.find? (·.id == id) := by
  rw [get?, hrows, Option.bind_some, List.find?_map, ← find?_survivors]
  have hid : ((fun r : Row => r.id == id) ∘ HistoryEntry.row) = (·.id == id) := rfl
  rw [hid]
  cases hfound : (HistoryEntry.survivors es).find? (·.id == id) with
  | none => rfl
  | some e =>
    have he := mem_of_mem_survivors (List.mem_of_find?_eq_some hfound)
    rw [Option.map_some, Option.bind_some, HistoryEntry.read?_row (hlasting e he)]

/-- The most recent entries are the first ones of those that are left, by falling time, when no two
of these have one time. -/
theorem recent_eq_take
    (htimes : (HistoryEntry.survivors es).Pairwise fun a b => (a.time == b.time) = false) :
    ∃ order : List HistoryEntry, order.Perm (HistoryEntry.survivors es)
      ∧ order.Pairwise (fun a b => b.time < a.time)
      ∧ ∀ n : Nat, n < 2 ^ 63 → l.recent n d = .ok (order.take n) := by
  have hperm : (latestFirst (HistoryEntry.survivors es)).Perm (HistoryEntry.survivors es) :=
    (arrange_perm _ _).trans (List.reverse_perm _)
  have hlast : ∀ e ∈ HistoryEntry.survivors es, e.Lasting :=
    fun e he => hlasting e (mem_of_mem_survivors he)
  refine ⟨_, hperm, pairwise_latestFirst (fun e he => (hlast e he).time) htimes, fun n hn => ?_⟩
  have hnewest : newestFirst ((HistoryEntry.survivors es).map HistoryEntry.row)
      = (latestFirst (HistoryEntry.survivors es)).map HistoryEntry.row := by
    rw [newestFirst, ← List.map_reverse, arrange_map]
    rfl
  have htakes : takes n = true := by
    rw [takes, Bool.and_eq_true, decide_eq_true_iff, decide_eq_true_iff, integerBound]
    omega
  rw [recent, hrows]
  simp only [htakes, hnewest, Bool.not_true, Bool.false_eq_true, if_false, Int.toNat_natCast]
  rw [if_neg (by omega), ← List.map_take, filterMap_read?_row]
  exact fun e he => hlast e (hperm.mem_iff.1 (List.mem_of_mem_take he))

end

/-! ## What is counted -/

/-- The count of a kind grows by one, and the others stay. -/
theorem lookup_countKind (k j : BugKind) (counts : List (BugKind × Nat)) :
    Table.lookup j (countKind k counts) =
      if j = k then some ((Table.lookup k counts).getD 0 + 1) else Table.lookup j counts := by
  induction counts with
  | nil =>
    by_cases hj : j = k
    · simp [countKind, Table.lookup, hj]
    · simp [countKind, Table.lookup, hj, Ne.symm hj]
  | cons c counts ih =>
    obtain ⟨i, n⟩ := c
    by_cases hi : i = k
    · by_cases hj : j = k
      · simp [countKind, Table.lookup, hi, hj]
      · simp [countKind, Table.lookup, hi, hj, Ne.symm hj]
    · by_cases hj : i = j
      · subst hj
        simp [countKind, Table.lookup, hi]
      · simp [countKind, Table.lookup, hi, hj, ih]

/-- A kind that is counted is counted once. -/
theorem keys_countKind (k : BugKind) (counts : List (BugKind × Nat)) :
    Table.keys (countKind k counts)
      = if k ∈ Table.keys counts then Table.keys counts else Table.keys counts ++ [k] := by
  induction counts with
  | nil => rfl
  | cons c counts ih =>
    obtain ⟨i, n⟩ := c
    by_cases hi : i = k
    · simp [countKind, Table.keys, hi]
    · rw [countKind, if_neg hi, Table.keys, List.map_cons, ← Table.keys, ih]
      have hmem : k ∈ Table.keys ((i, n) :: counts) ↔ k ∈ Table.keys counts := by
        simp [Table.keys, Ne.symm hi]
      by_cases hk : k ∈ Table.keys counts
      · rw [if_pos hk, if_pos (hmem.2 hk)]
        rfl
      · rw [if_neg hk, if_neg (mt hmem.1 hk)]
        rfl

/-- One more is counted. -/
theorem sum_countKind (k : BugKind) (counts : List (BugKind × Nat)) :
    ((countKind k counts).map Prod.snd).sum = (counts.map Prod.snd).sum + 1 := by
  induction counts with
  | nil => rfl
  | cons c counts ih =>
    obtain ⟨i, n⟩ := c
    by_cases hi : i = k
    · simp [countKind, hi]
      omega
    · simp [countKind, hi, ih]
      omega

/-- Kinds are counted one after the other. -/
theorem countKinds_append (kinds : List BugKind) (k : BugKind) :
    countKinds (kinds ++ [k]) = countKind k (countKinds kinds) :=
  List.foldl_append

/-- Each kind that occurs is counted as often as it does. -/
theorem lookup_countKinds (kinds : List BugKind) (k : BugKind) :
    Table.lookup k (countKinds kinds) = if k ∈ kinds then some (kinds.count k) else none := by
  induction kinds using List.reverseRecOn generalizing k with
  | nil => rfl
  | append_singleton kinds j ih =>
    rw [countKinds_append, lookup_countKind, ih, ih]
    by_cases hk : k = j
    · subst hk
      by_cases hmem : k ∈ kinds
      · simp [hmem]
      · simp [hmem, List.count_eq_zero_of_not_mem]
    · simp [hk, Ne.symm hk]

/-- No kind is counted twice. -/
theorem nodup_keys_countKinds (kinds : List BugKind) : (Table.keys (countKinds kinds)).Nodup := by
  induction kinds using List.reverseRecOn with
  | nil => exact .nil
  | append_singleton kinds j ih =>
    rw [countKinds_append, keys_countKind]
    split
    · exact ih
    · next hnew => exact List.nodup_append'.2 ⟨ih, List.nodup_singleton j, by simpa using hnew⟩

/-- All that occur are counted. -/
theorem sum_countKinds (kinds : List BugKind) :
    ((countKinds kinds).map Prod.snd).sum = kinds.length := by
  induction kinds using List.reverseRecOn with
  | nil => rfl
  | append_singleton kinds j ih =>
    rw [countKinds_append, sum_countKind, ih, List.length_append, List.length_singleton]

/-- Items without repetition are as many as there are different ones. -/
theorem length_eraseDups {α : Type} [DecidableEq α] (xs : List α) :
    xs.eraseDups.length = xs.toFinset.card := by
  induction hn : xs.length using Nat.strongRecOn generalizing xs with
  | ind n ih =>
    cases xs with
    | nil => rfl
    | cons x xs =>
      have hlength : (xs.filter fun y => !y == x).length < n := by
        have := List.length_filter_le (fun y => !y == x) xs
        rw [List.length_cons] at hn
        omega
      have hothers : (x :: xs).toFinset = insert x (xs.filter fun y => !y == x).toFinset := by
        ext y
        by_cases hy : y = x <;> simp [hy]
      rw [List.eraseDups_cons, List.length_cons, ih _ hlength _ rfl, hothers,
        Finset.card_insert_of_notMem (by simp)]

end Ledger

/-- What is counted in entries: each of them, the kinds of their bugs, and the files. -/
structure LedgerStats.Counts (stats : LedgerStats) (es : List HistoryEntry) : Prop where
  runs : stats.runs = es.length
  distinct : (Table.keys stats.byKind).Nodup
  byKind : ∀ k n, (k, n) ∈ stats.byKind ↔ 0 < n ∧ n = (es.flatMap (·.bugs)).count k
  bugs : stats.bugs = (stats.byKind.map Prod.snd).sum
  files : stats.files = (es.map (·.path)).toFinset.card

namespace Ledger
variable {l : Ledger} {d d₀ d₁ d' : Disk} {e : HistoryEntry} {es : List HistoryEntry}

/-- What entries amount to is what is counted in them. -/
theorem counts_statsOf (es : List HistoryEntry) : (statsOf es).Counts es := by
  have hperm := arrange_perm (fun a b : BugKind × Nat => decide (b.2 < a.2))
    (countKinds (es.flatMap (·.bugs)))
  have hnodup : (Table.keys (statsOf es).byKind).Nodup :=
    (hperm.map Prod.fst).nodup_iff.2 (nodup_keys_countKinds _)
  refine ⟨rfl, hnodup, fun k n => ?_, ?_, length_eraseDups _⟩
  · have hlookup : (k, n) ∈ (statsOf es).byKind
        ↔ Table.lookup k (countKinds (es.flatMap (·.bugs))) = some n :=
      hperm.mem_iff.trans ⟨Table.lookup_of_mem (nodup_keys_countKinds _), Table.mem_of_lookup⟩
    rw [hlookup, lookup_countKinds]
    by_cases hk : k ∈ es.flatMap (·.bugs)
    · rw [if_pos hk, Option.some.injEq, eq_comm]
      exact ⟨fun h => ⟨h ▸ List.count_pos_iff.2 hk, h⟩, And.right⟩
    · rw [if_neg hk]
      exact ⟨nofun, fun ⟨hn, h⟩ => absurd (List.count_pos_iff.1 (h ▸ hn)) hk⟩
  · exact ((hperm.map Prod.snd).sum_eq.trans (sum_countKinds _)).symm

/-- A ledger is a map: after a run of recordings that starts with no entry, what is found under an
identifier is the last entry recorded under it. The most recent entries are the first ones of those
that are left, by falling time, when no two of these have one time. What is counted is counted in
those that are left, one for each identifier. -/
theorem refines_map (hl : l.Apart) (hempty : l.rows? d₀ = some []) (hrun : l.Recorded d₀ es d)
    (hlasting : ∀ e ∈ es, e.Lasting) :
    (∀ id, l.get? id d = es.reverse.find? (·.id == id))
      ∧ ((HistoryEntry.survivors es).Pairwise (fun a b => (a.time == b.time) = false) →
        ∃ order : List HistoryEntry, order.Perm (HistoryEntry.survivors es)
          ∧ order.Pairwise (fun a b => b.time < a.time)
          ∧ ∀ n : Nat, n < 2 ^ 63 → l.recent n d = .ok (order.take n))
      ∧ (l.stats d).runs = (es.map (·.id)).toFinset.card
      ∧ (l.stats d).Counts (HistoryEntry.survivors es) := by
  have hrows := hrun.rows?_eq hl hempty
  have hstats : l.stats d = statsOf (HistoryEntry.survivors es) := by
    rw [stats, hrows, Option.getD_some,
      filterMap_read?_row fun e he => hlasting e (mem_of_mem_survivors he)]
  refine ⟨get?_eq_find? hrows hlasting, recent_eq_take hrows hlasting, ?_, ?_⟩
  · rw [hstats, ← length_survivors]
    rfl
  · rw [hstats]
    exact counts_statsOf _

/-- A ledger below the root. -/
def rootLedger : Ledger :=
  ⟨[], ⟨1, [".bugduck", "history.db"]⟩, ⟨1, [".bugduck", "history.jsonl"]⟩⟩

/-- A disk on which this ledger has no entry. -/
def blankHistory : Disk :=
  ⟨[([".bugduck"], .directory), ([".bugduck", "history.db"], .store ⟨some []⟩)]⟩

/-- An entry under an identifier, at a time. -/
def entryAt (time : Float) (bugs : List BugKind) : HistoryEntry :=
  ⟨"a", time, "/a.js", "file:///a.js", bugs, 1, 1, "a < b", "a <= b"⟩

/-- Two entries under one identifier. -/
def twoEntries : List HistoryEntry :=
  [entryAt 1 [.offByOne, .offByOne], entryAt 2 [.booleanNegation]]

/-- Of two entries under one identifier the later one is found, and it alone is counted. -/
theorem refines_map_twoEntries :
    rootLedger.Apart ∧ rootLedger.rows? blankHistory = some [] ∧ (∀ e ∈ twoEntries, e.Lasting)
      ∧ ∃ d, rootLedger.Recorded blankHistory twoEntries d
          ∧ rootLedger.get? "a" d = some (entryAt 2 [.booleanNegation])
          ∧ rootLedger.recent 5 d = .ok [entryAt 2 [.booleanNegation]]
          ∧ (rootLedger.stats d).runs = 1 ∧ (rootLedger.stats d).files = 1 := by
  have hl : rootLedger.Apart :=
    ⟨⟨by decide, by decide, by decide⟩, ⟨by decide, by decide, by decide⟩, by decide⟩
  have hlocate : blankHistory.locate [] "/.bugduck/history.db" = .ok [".bugduck", "history.db"] :=
    Disk.locate_of_follow (by decide) (by decide) (by decide) rfl
  have hrows : rootLedger.rows? blankHistory = some [] :=
    (Ledger.rows?_eq_some hl.store).2 ⟨hlocate, rfl⟩
  have hready : rootLedger.Ready blankHistory := by
    refine ⟨⟨_, hrows⟩, rfl, ?_, .inl rfl⟩
    exact Disk.locate_of_follow (by decide) (by decide) (by decide) rfl
  have hdigits : Decimal.digitCount (1 : Int).natAbs ≤ Numeral.digitLimit := by decide
  have hlasting : ∀ e ∈ twoEntries, e.Lasting :=
    List.forall_mem_cons.2 ⟨⟨by decide +kernel, hdigits, hdigits⟩,
      List.forall_mem_singleton.2 ⟨by decide +kernel, hdigits, hdigits⟩⟩
  have htimes : ∀ e ∈ twoEntries, e.time.isNaN = false :=
    List.forall_mem_cons.2 ⟨by decide +kernel, List.forall_mem_singleton.2 (by decide +kernel)⟩
  obtain ⟨d, hrun, -⟩ := hready.exists_recorded hl twoEntries htimes
  have hleft : HistoryEntry.survivors twoEntries = [entryAt 2 [.booleanNegation]] := by
    simp [HistoryEntry.survivors, twoEntries, entryAt]
  obtain ⟨hget, hrecent, hruns, hcounts⟩ := refines_map hl hrows hrun hlasting
  rw [hleft] at hrecent hcounts
  obtain ⟨order, hperm, -, horder⟩ := hrecent (List.pairwise_singleton _ _)
  obtain rfl := List.perm_singleton.1 hperm
  refine ⟨hl, hrows, hlasting, d, hrun, ?_, horder 5 (by decide), hcounts.runs, hcounts.files⟩
  rw [hget]
  simp [twoEntries, entryAt]

end Ledger

end Sabotage
