import Sabotage.Proofs.Ledgers
import Sabotage.Proofs.LogLines

/-!
# The log as a stream

The log only ever grows: an entry that is recorded adds its line at the end, whatever becomes of its
row (`Ledger.Keeps.record`), and so does a line that comes from elsewhere. Lines are split where
they were joined (`Text.split_streamOf`), a record is read as its entry, and a line from elsewhere
that is no JSON is passed over. So what is read of a log is what was recorded
(`Ledger.log_of_logged`).
-/

namespace Sabotage

/-! ## Lines -/

namespace Text

/-- The text of lines, each with a line feed after it. -/
def streamOf (ls : List String) : String :=
  String.join (ls.map (· ++ "\n"))

/-- The characters of a line stand before those of the lines after it. -/
theorem toList_streamOf_cons (line : String) (ls : List String) :
    (streamOf (line :: ls)).toList = line.toList ++ '\n' :: (streamOf ls).toList := by
  simp [streamOf, String.toList_join]

/-- A line more stands at the end of the text. -/
theorem streamOf_concat (ls : List String) (line : String) :
    streamOf (ls ++ [line]) = streamOf ls ++ (line ++ "\n") := by
  simp [streamOf, String.join_append]

/-- A text without carriage returns has one kind of line breaks. -/
theorem unifyBreaks_eq {cs : List Char} (h : '\r' ∉ cs) : unifyBreaks cs = cs := by
  induction cs with
  | nil => rfl
  | cons c cs ih =>
    obtain ⟨hc, hcs⟩ := not_or.1 (mt List.mem_cons.2 h)
    rw [unifyBreaks.eq_def]
    split
    · next heq => exact absurd (List.cons.inj heq).1.symm hc
    · next heq => exact absurd (List.cons.inj heq).1.symm hc
    · next heq =>
      cases heq
      rw [ih hcs]
    · next heq => cases heq

/-- A line that is one to every reader: it holds no line break. -/
def IsLine (line : String) : Prop :=
  '\n' ∉ line.toList ∧ '\r' ∉ line.toList

/-- Joined lines hold no carriage return. -/
theorem not_mem_streamOf {ls : List String} (h : ∀ line ∈ ls, IsLine line) :
    '\r' ∉ (streamOf ls).toList := by
  induction ls with
  | nil => exact List.not_mem_nil
  | cons line ls ih =>
    obtain ⟨hline, hls⟩ := List.forall_mem_cons.1 h
    rw [toList_streamOf_cons]
    simp [hline.2, ih hls]

/-- Joined lines fall into pieces at the line feeds, with nothing after the last one. -/
theorem pieces_streamOf {ls : List String} (h : ∀ line ∈ ls, IsLine line) :
    pieces '\n' (streamOf ls).toList = ls.map String.toList ++ [[]] := by
  induction ls with
  | nil => rfl
  | cons line ls ih =>
    obtain ⟨hline, hls⟩ := List.forall_mem_cons.1 h
    rw [toList_streamOf_cons, pieces_append_cons hline.1, ih hls]
    rfl

/-- Lines are split where they were joined. -/
theorem split_streamOf {ls : List String} (h : ∀ line ∈ ls, IsLine line) :
    split '\n' (String.ofList (unifyBreaks (streamOf ls).toList)) = ls ++ [""] := by
  rw [unifyBreaks_eq (not_mem_streamOf h), String.ofList_toList, split, pieces_streamOf h]
  simp

end Text

/-! ## Directories on the way -/

namespace Disk
variable {d d' d₁ : Disk} {here loc place : Location} {text : String} {old : Bytes}

/-- Directories are made in the same way on a disk that differs where no directory is made. -/
theorem makeFrom_congr {parts : List String}
    (hagree : ∀ l, l ≠ place → d'.occupant? l = d.occupant? l)
    (h : d.makeFrom loc parts = .ok d₁) (hplace : d₁.occupant? place ≠ some .directory) :
    ∃ d₂, d'.makeFrom loc parts = .ok d₂ ∧ ∀ l, l ≠ place → d₂.occupant? l = d₁.occupant? l := by
  induction parts generalizing d d' loc with
  | nil =>
    cases h
    exact ⟨d', rfl, hagree⟩
  | cons part rest ih =>
    simp only [makeFrom] at h ⊢
    split at h
    · cases h
    · next hshort =>
      rw [if_neg hshort]
      split at h
      -- What is made or passed through stays a directory, so it is not at the place.
      · next hdir =>
        have hne : Path.step loc part ≠ place := by
          rintro rfl
          exact hplace ((makeFrom_grows h).kept hdir)
        simp only [hagree _ hne, hdir]
        exact ih hagree h
      · cases h
      · next hnone =>
        have hroot : Path.step loc part ≠ [] := by
          intro hroot
          rw [hroot] at hnone
          cases hnone
        have hne : Path.step loc part ≠ place := by
          rintro rfl
          exact hplace ((makeFrom_grows h).kept (occupant?_set hroot d .directory))
        simp only [hagree _ hne, hnone]
        refine ih (fun l hl => ?_) h
        by_cases hstep : l = Path.step loc part
        · rw [hstep, occupant?_set hroot, occupant?_set hroot]
        · rw [occupant?_set_of_ne hstep, occupant?_set_of_ne hstep, hagree l hl]

end Disk

/-! ## What a log holds -/

namespace Ledger
variable {l : Ledger} {d d₀ d' : Disk} {e : HistoryEntry} {bytes more : Bytes}

/-- A disk on which the log of a ledger can be added to, with the bytes it holds: none if it is
missing. -/
structure Keeps (l : Ledger) (d : Disk) (bytes : Bytes) : Prop where
  made : ∃ d₁, d.makePath l.here l.log.parent = .ok d₁
    ∧ d₁.locate l.here l.log.toString = .ok l.logPlace
    ∧ d₁.occupant? l.logPlace ≠ some .directory
  held : d.occupant? l.logPlace = none ∧ bytes = []
    ∨ d.locate l.here l.log.toString = .ok l.logPlace
      ∧ d.occupant? l.logPlace = some (.file bytes)

/-- The log can be added to when something other than a directory is put at a place, its own or
another. -/
theorem Keeps.made_congr {place : Location} {thing : Entry} (h : l.Keeps d bytes)
    (hagree : ∀ l, l ≠ place → d'.occupant? l = d.occupant? l)
    (hbefore : ∀ {d₁}, d.makePath l.here l.log.parent = .ok d₁ →
      d₁.occupant? place ≠ some .directory)
    (hafter : d'.occupant? place = some thing) (hthing : thing ≠ .directory) :
    ∃ d₂, d'.makePath l.here l.log.parent = .ok d₂
      ∧ d₂.locate l.here l.log.toString = .ok l.logPlace
      ∧ d₂.occupant? l.logPlace ≠ some .directory := by
  obtain ⟨d₁, hmake, hlocate, hvacant⟩ := h.made
  obtain ⟨d₂, hmake₂, hagree₂⟩ := Disk.makeFrom_congr hagree hmake (hbefore hmake)
  refine ⟨d₂, hmake₂, Disk.locate_mono (fun m hdir => ?_) hlocate, ?_⟩
  · have hne : m ≠ place := by
      rintro rfl
      exact hbefore hmake hdir
    rw [hagree₂ m hne, hdir]
  · by_cases hplace : l.logPlace = place
    · rw [hplace, (Disk.makePath_grows hmake₂).kept hafter]
      simpa using hthing
    · rwa [hagree₂ _ hplace]

/-- What is added to a log stands after what it held. -/
theorem Keeps.enterLine (h : l.Keeps d bytes) (e : HistoryEntry) :
    l.Keeps (l.enterLine e d).2 (bytes ++ Bytes.ofString (e.record ++ "\n")) := by
  obtain ⟨⟨d₁, hmake, hlocate, hvacant⟩, hheld⟩ := h
  have hgrows := Disk.makePath_grows hmake
  have hheld₁ : d₁.occupant? l.logPlace = none ∧ bytes = []
      ∨ d₁.occupant? l.logPlace = some (.file bytes) := by
    rcases hheld with ⟨hnone, hbytes⟩ | ⟨-, hfile⟩
    · refine .inl ⟨Option.eq_none_iff_forall_ne_some.2 fun thing hthing => ?_, hbytes⟩
      rcases hgrows.added hthing with rfl | hthere
      · exact hvacant hthing
      · cases hnone.symm.trans hthere
    · exact .inr (hgrows.kept hfile)
  obtain ⟨d', happend, hputs⟩ :=
    Disk.exists_append hlocate hheld₁ (Bytes.ofString (e.record ++ "\n"))
  have henter : l.enterLine e d = (true, d') := by
    simp only [Ledger.enterLine, hmake, happend]
  have hlocate' := hputs.locate_iff.2 hlocate
  rw [henter]
  refine ⟨⟨d', ?_, hlocate', by simp [hputs.there]⟩, .inr ⟨hlocate', hputs.there⟩⟩
  exact Disk.makePath_again hmake fun hdir => (hputs.directory_iff _).2 hdir

/-- What is added to a log from elsewhere stands after what it held. -/
theorem Keeps.append (hlog : l.log.Normal) (h : l.Keeps d bytes)
    (happend : d.append l.here l.log.toString more = .ok d') : l.Keeps d' (bytes ++ more) := by
  have hlocate : d.locate l.here l.log.toString = .ok l.logPlace := by
    cases hplace : d.locate l.here l.log.toString with
    | error err =>
      rw [Disk.append, hplace] at happend
      cases happend
    | ok place => rw [Disk.locate_toString_eq hlog hplace, logPlace]
  obtain ⟨d₂, happend₂, hputs⟩ :=
    Disk.exists_append hlocate (h.held.imp_right And.right) more
  obtain rfl := Except.ok.inj (happend.symm.trans happend₂)
  refine ⟨h.made_congr hputs.elsewhere ?_ hputs.there ?_,
    .inr ⟨hputs.locate_iff.2 hlocate, hputs.there⟩⟩
  · intro d₂ hmake
    obtain ⟨d₁, hmake₁, -, hvacant⟩ := h.made
    rwa [Except.ok.inj (hmake.symm.trans hmake₁)]
  · intro hdirectory
    cases hdirectory

/-- Entering a row leaves the log alone. -/
theorem Keeps.enterRow (hl : l.Apart) (h : l.Keeps d bytes) (e : HistoryEntry) :
    l.Keeps (l.enterRow e d).2 bytes := by
  cases hrows : l.rows? d with
  | none => rwa [enterRow_of_rows?_eq_none hrows]
  | some rows =>
    rw [enterRow_eq hl.store hrows]
    split
    · exact h
    · obtain ⟨hthere, hdirs⟩ :=
        occupant?_set_store hrows hl.store ⟨some (Store.putRow e.row rows)⟩
      refine ⟨h.made_congr (fun m hm => Disk.occupant?_set_of_ne hm d _) (fun hmake => ?_) hthere
        nofun, ?_⟩
      · rw [(Disk.makePath_grows hmake).kept ((rows?_eq_some hl.store).1 hrows).2]
        nofun
      · rw [Disk.occupant?_set_of_ne (Ne.symm hl.places)]
        exact h.held.imp_right fun ⟨hlocate, hfile⟩ => ⟨Disk.locate_mono hdirs hlocate, hfile⟩

/-- Recording an entry adds its line to the log, and leaves what it held. -/
theorem Keeps.record (hl : l.Apart) (h : l.Keeps d bytes) (e : HistoryEntry) :
    l.Keeps (l.record e d).2 (bytes ++ Bytes.ofString (e.record ++ "\n")) :=
  (h.enterRow hl e).enterLine e

/-- The bytes of the log; none if it cannot be read. -/
def logBytes (l : Ledger) (d : Disk) : Bytes :=
  (d.read l.here l.log.toString).toOption.getD []

/-- A log either cannot be found and holds nothing, or is read as what it holds. -/
theorem Keeps.find_or_read (hlog : l.log.Normal) (h : l.Keeps d bytes) :
    (∃ err, d.find l.here l.log.toString = .error err) ∧ bytes = []
      ∨ d.find l.here l.log.toString = .ok (.file bytes) := by
  rcases h.held with ⟨hnone, hbytes⟩ | ⟨hlocate, hfile⟩
  · refine .inl ⟨?_, hbytes⟩
    rw [Disk.find]
    cases hlocate : d.locate l.here l.log.toString with
    | error err => exact ⟨err, rfl⟩
    | ok place =>
      obtain rfl : place = l.logPlace := Disk.locate_toString_eq hlog hlocate
      simp only [hnone]
      exact ⟨_, rfl⟩
  · exact .inr (by simp only [Disk.find, hlocate, hfile])

/-- The bytes of a log are those it holds. -/
theorem Keeps.logBytes_eq (hlog : l.log.Normal) (h : l.Keeps d bytes) : l.logBytes d = bytes := by
  rcases h.find_or_read hlog with ⟨⟨err, hfind⟩, rfl⟩ | hfind
  · rw [logBytes, Disk.read, hfind]
    rfl
  · rw [logBytes, Disk.read, hfind]
    rfl

/-! ## What is read of a log -/

/-- What is added to a log: an entry that is recorded, or a line from elsewhere. -/
inductive LogItem where
  | entry (e : HistoryEntry)
  | foreign (line : String)

namespace LogItem

/-- The line of an item. -/
def line : LogItem → String
  | entry e => e.record
  | foreign line => line

/-- The entry that an item is, if it is one. -/
def entry? : LogItem → Option HistoryEntry
  | entry e => some e
  | foreign _ => none

/-- An item that can be told from others: an entry of which nothing is lost, or a line that is no
JSON when it is stripped. -/
def Sound : LogItem → Prop
  | entry e => e.Lasting
  | foreign line => Text.IsLine line ∧ Json.read (Text.strip line) = .error .malformed

/-- Such an item is a line. -/
theorem Sound.isLine {item : LogItem} (h : item.Sound) : Text.IsLine item.line := by
  cases item with
  | entry e => exact ⟨fun hc => absurd (e.isInline_record h _ hc) (by decide),
      fun hc => absurd (e.isInline_record h _ hc) (by decide)⟩
  | foreign line => exact h.1

end LogItem

/-- Entries and lines from elsewhere are added to a log one after the other, with the disks that
come of it. Of a recording nothing is said but that it is tried. -/
inductive Logged (l : Ledger) (d₀ : Disk) : List LogItem → Disk → Prop
  | start : Logged l d₀ [] d₀
  | entry {items : List LogItem} {d : Disk} (h : Logged l d₀ items d) (e : HistoryEntry) :
    Logged l d₀ (items ++ [.entry e]) (l.record e d).2
  | foreign {items : List LogItem} {d d' : Disk} (h : Logged l d₀ items d) (line : String)
    (happend : d.append l.here l.log.toString (Bytes.ofString (line ++ "\n")) = .ok d') :
    Logged l d₀ (items ++ [.foreign line]) d'

variable {items : List LogItem}

/-- After all that was added the log holds the lines of it. -/
theorem Logged.keeps (h : l.Logged d₀ items d) (hl : l.Apart) (hstart : l.Keeps d₀ []) :
    l.Keeps d (Bytes.ofString (Text.streamOf (items.map LogItem.line))) := by
  induction h with
  | start => exact hstart
  | entry _ e ih =>
    rw [List.map_append, List.map_singleton, Text.streamOf_concat, Bytes.ofString_append]
    exact ih.record hl e
  | foreign _ line happend ih =>
    rw [List.map_append, List.map_singleton, Text.streamOf_concat, Bytes.ofString_append]
    exact ih.append hl.log happend

/-- The values of lines are those of the entries among them. -/
theorem readLines_items (h : ∀ item ∈ items, item.Sound) :
    readLines (items.map LogItem.line ++ [""])
      = .ok ((items.filterMap LogItem.entry?).map HistoryEntry.toJson) := by
  induction items with
  | nil => rfl
  | cons item items ih =>
    obtain ⟨hitem, hitems⟩ := List.forall_mem_cons.1 h
    rw [List.map_cons, List.cons_append, readLines]
    cases item with
    | entry e =>
      have hne : e.record ≠ "" := by
        obtain ⟨inner, htext⟩ := e.exists_braces
        rw [← String.toList_inj.ne, htext]
        exact List.cons_ne_nil _ _
      simp only [LogItem.line, e.strip_record, hne, if_false, HistoryEntry.read_record hitem,
        ih hitems, List.filterMap_cons, LogItem.entry?]
      rfl
    | foreign line =>
      simp only [LogItem.line, hitem.2, ih hitems, List.filterMap_cons, LogItem.entry?, ite_self]

/-- What is read of a log is the values of the entries that were added to it. -/
theorem Logged.readLog_eq (h : l.Logged d₀ items d) (hl : l.Apart) (hstart : l.Keeps d₀ [])
    (hsound : ∀ item ∈ items, item.Sound) :
    l.readLog d = .ok ((items.filterMap LogItem.entry?).map HistoryEntry.toJson) := by
  rw [readLog]
  rcases (h.keeps hl hstart).find_or_read hl.log with ⟨⟨err, hfind⟩, hbytes⟩ | hfind
  · have hitems : items = [] := by
      cases items with
      | nil => rfl
      | cons item items =>
        have hempty : Text.streamOf ((item :: items).map LogItem.line) = "" := by
          have htext := congrArg Bytes.toString? hbytes
          rw [Bytes.toString?_ofString] at htext
          exact Option.some.inj (htext.trans (Bytes.toString?_ofString ""))
        have hchars := congrArg String.toList hempty
        rw [List.map_cons, Text.toList_streamOf_cons] at hchars
        simp at hchars
    rw [hfind, hitems]
    rfl
  · have hlines : ∀ line ∈ items.map LogItem.line, Text.IsLine line :=
      List.forall_mem_map.2 fun item hitem => (hsound item hitem).isLine
    have htext : d.readText l.here l.log.toString
        = .ok (Text.streamOf (items.map LogItem.line)) :=
      Disk.readText_eq_ok.2 ⟨_, by rw [Disk.read, hfind]; rfl, Bytes.toString?_ofString _⟩
    simp only [hfind, htext, Text.split_streamOf hlines]
    exact readLines_items hsound

/-- A log is a stream: after entries were recorded and lines that are no JSON were added from
elsewhere, in any order, what is read of it is the values of the entries, the first one first. One
more recording leaves what the log holds and adds one line, whether the store takes the entry or
not. -/
theorem log_of_logged (hl : l.Apart) (hstart : l.Keeps d₀ []) (hrun : l.Logged d₀ items d)
    (hsound : ∀ item ∈ items, item.Sound) :
    l.readLog d = .ok ((items.filterMap LogItem.entry?).map HistoryEntry.toJson)
      ∧ ∀ e : HistoryEntry, e.Lasting → Text.IsLine e.record
        ∧ l.logBytes (l.record e d).2 = l.logBytes d ++ Bytes.ofString (e.record ++ "\n") := by
  have hkeeps := hrun.keeps hl hstart
  refine ⟨?_, fun e he => ⟨?_, ?_⟩⟩
  · exact hrun.readLog_eq hl hstart hsound
  · have hitem : (LogItem.entry e).Sound := he
    exact hitem.isLine
  · rw [hkeeps.logBytes_eq hl.log, (hkeeps.record hl e).logBytes_eq hl.log]

/-- An entry with a path in which quotes, backslashes and line breaks of all sorts stand. -/
def crookedEntry : HistoryEntry :=
  { entryAt 1 [.offByOne] with path := "/a\\\"b\"\r\n\u2028.js" }

/-- A line that is no JSON, and two entries after it. -/
def crookedItems : List LogItem :=
  [.foreign "\x7b no JSON", .entry crookedEntry, .entry (entryAt 2 [])]

/-- Two entries are read of a log that begins with a line that is no JSON. -/
theorem log_of_logged_crookedItems :
    rootLedger.Apart ∧ rootLedger.Keeps blankHistory [] ∧ (∀ item ∈ crookedItems, item.Sound)
      ∧ ∃ d, rootLedger.Logged blankHistory crookedItems d
          ∧ rootLedger.readLog d = .ok [crookedEntry.toJson, (entryAt 2 []).toJson]
          ∧ rootLedger.logBytes (rootLedger.record (entryAt 3 []) d).2
            = rootLedger.logBytes d ++ Bytes.ofString ((entryAt 3 []).record ++ "\n") := by
  have hl : rootLedger.Apart :=
    ⟨⟨by decide, by decide, by decide⟩, ⟨by decide, by decide, by decide⟩, by decide⟩
  have hlocate : blankHistory.locate [] rootLedger.log.toString = .ok rootLedger.logPlace :=
    Disk.locate_of_follow (by decide) (by decide) (by decide) rfl
  have hstart : rootLedger.Keeps blankHistory [] :=
    ⟨⟨blankHistory, rfl, hlocate, nofun⟩, .inl ⟨rfl, rfl⟩⟩
  have hdigits : Decimal.digitCount (1 : Int).natAbs ≤ Numeral.digitLimit := by decide
  have hsound : ∀ item ∈ crookedItems, item.Sound := by
    refine List.forall_mem_cons.2 ⟨⟨⟨by decide, by decide⟩, rfl⟩, ?_⟩
    exact List.forall_mem_cons.2 ⟨⟨by decide +kernel, hdigits, hdigits⟩,
      List.forall_mem_singleton.2 ⟨by decide +kernel, hdigits, hdigits⟩⟩
  obtain ⟨d, happend, -⟩ :=
    Disk.exists_append hlocate (.inl ⟨rfl, rfl⟩) (Bytes.ofString ("\x7b no JSON" ++ "\n"))
  have hrun : rootLedger.Logged blankHistory crookedItems _ :=
    ((Logged.start.foreign _ happend).entry crookedEntry).entry (entryAt 2 [])
  obtain ⟨hread, hadds⟩ := log_of_logged hl hstart hrun hsound
  exact ⟨hl, hstart, hsound, _, hrun, hread, (hadds _ ⟨by decide +kernel, hdigits, hdigits⟩).2⟩

end Ledger

end Sabotage
