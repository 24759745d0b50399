import Sabotage.History.Entry
import Sabotage.Proofs.Binary64
import Sabotage.Proofs.JsonTexts

/-!
# Entries and their records

An entry is read back from its record (`HistoryEntry.read?_record`) if its time is finite and its
line numbers have few enough digits to be read. All entries that are read from a value have
(`HistoryEntry.lasting_of_ofJson?`).
-/

namespace Sabotage

open Text

namespace HistoryEntry
variable {e : HistoryEntry}

/-- An entry of which nothing is lost in its record: its time is finite, and its line numbers have
few enough digits to be read. -/
structure Lasting (e : HistoryEntry) : Prop where
  time : e.time.isFinite
  firstLine : Decimal.digitCount e.firstLine.natAbs ≤ Numeral.digitLimit
  lastLine : Decimal.digitCount e.lastLine.natAbs ≤ Numeral.digitLimit

/-- Such an entry is sound as a value. -/
theorem Lasting.sound (h : e.Lasting) : e.toJson.Sound true true Json.Rules.record.levels := by
  have hbugs : ∀ x ∈ e.bugs.map fun k => Json.str k.name, x.Sound true true 198 := by
    intro x hx
    obtain ⟨k, -, rfl⟩ := List.mem_map.1 hx
    exact .str (readable_ofString _ _)
  have hdistinct : (["id", "timestamp", "file_path", "file_uri", "bugs", "start_line", "end_line",
      "before_snippet", "after_snippet"].map Spelling.ofString).Nodup :=
    List.Nodup.map Spelling.ofString_injective (by decide)
  refine .obj hdistinct (by simp [Table.keys]) ?_
  simp only [List.forall_mem_cons, List.not_mem_nil, false_imp_iff, implies_true, and_true]
  exact ⟨.str (readable_ofString _ _), .float fun _ => h.time, .str (readable_ofString _ _),
    .str (readable_ofString _ _), .arr hbugs, .int h.firstLine, .int h.lastLine,
    .str (readable_ofString _ _), .str (readable_ofString _ _)⟩

/-- Bugs are read back from their names. -/
theorem bugs?_names (bugs : List BugKind) :
    bugs? (.arr (bugs.map fun k => .str k.name)) = some bugs := by
  rw [bugs?]
  induction bugs with
  | nil => rfl
  | cons k ks ih =>
    rw [List.map_cons, List.mapM_cons, ih]
    simp [Json.text?]

/-- An entry is what its value stands for. -/
theorem ofJson?_toJson (e : HistoryEntry) : ofJson? true e.toJson = some e := by
  simp only [ofJson?, toJson, Json.get?, Json.fields, Table.lookup,
    Spelling.ofString_injective.eq_iff]
  simp [Json.text?, float?, integer?, bugs?_names]

/-- An entry of which nothing is lost is read back from its record. -/
theorem read?_record (h : e.Lasting) : read? e.record = some e := by
  have hback : Json.readBy .record e.record = .ok e.toJson :=
    Json.readBy_renderText Json.Style.faithful_record h.sound
  rw [read?, hback]
  exact ofJson?_toJson e

end HistoryEntry

/-! ## Entries that are read -/

/-- The value of a digit is a digit. -/
theorem Text.lt_of_digitValue? {c : Char} {d : Nat} (h : digitValue? c = some d) : d < 10 := by
  rw [digitValue?, Option.map_eq_some_iff] at h
  obtain ⟨z, hz, rfl⟩ := h
  have hrange := List.find?_some hz
  simp only [Bool.and_eq_true, decide_eq_true_eq] at hrange
  omega

/-- A figure that is read has few enough digits. -/
theorem Figure.digitCount_le {s : String} {n : Int} (h : readInt? s = some n) :
    Decimal.digitCount n.natAbs ≤ Numeral.digitLimit := by
  have hmagnitude {cs : List Char} {n : Nat} (h : magnitude? cs = some n) :
      Decimal.digitCount n ≤ Numeral.digitLimit := by
    rw [magnitude?] at h
    split at h
    · cases h
    · next hbad =>
      cases h
      have hlength : cs.length ≤ Numeral.digitLimit := by
        simp only [not_or, Nat.not_lt] at hbad
        exact hbad.2.2.2
      have hsmall : ∀ d ∈ cs.filterMap digitValue?, d < 10 := by
        intro d hd
        obtain ⟨c, -, hc⟩ := List.mem_filterMap.1 hd
        exact lt_of_digitValue? hc
      rw [Decimal.digitCount, Nat.length_toDigits_le_iff (by decide) (by decide)]
      calc ofDigits 10 (cs.filterMap digitValue?) < 10 ^ (cs.filterMap digitValue?).length :=
            ofDigits_lt hsmall
        _ ≤ 10 ^ Numeral.digitLimit :=
            Nat.pow_le_pow_right (by decide) ((List.length_filterMap_le _ _).trans hlength)
  have hsigned {cs : List Char} (h : signed? cs = some n) :
      Decimal.digitCount n.natAbs ≤ Numeral.digitLimit := by
    rw [signed?.eq_def] at h
    split at h
    all_goals
      obtain ⟨i, hi, rfl⟩ := Option.map_eq_some_iff.1 h
      obtain ⟨m, hm, hcast⟩ := Option.bind_eq_some_iff.1 hi
      cases hcast
      simpa using hmagnitude hm
  rw [readInt?] at h
  simp only [Option.bind_eq_bind] at h
  split at h
  all_goals
    obtain ⟨numeral, -, h⟩ := Option.bind_eq_some_iff.1 h
    obtain ⟨cs, -, hcs⟩ := Option.bind_eq_some_iff.1 h
    exact hsigned hcs

namespace Decimal

/-- The integer and the power of two of a float are bounded. -/
theorem mantissaAndExponent_bounds (x : Float) :
    (mantissaAndExponent x).1 < 2 ^ 53 ∧ (mantissaAndExponent x).2 ≤ 972 := by
  have hfraction := (Binary64.fraction x).isLt
  have hexponent := (Binary64.exponentField x).isLt
  rw [mantissaAndExponent, Binary64.toNat_exponentField, Binary64.toNat_fraction]
  split
  · exact ⟨by omega, by simp only; omega⟩
  · exact ⟨by omega, by omega⟩

/-- The numerator of a float is bounded. -/
theorem quotientOf_lt {x : Float} {bound : Nat} (h : (mantissaAndExponent x).2 ≤ bound) :
    (quotientOf x).1 < 2 ^ (53 + bound) := by
  have hmantissa := (mantissaAndExponent_bounds x).1
  rcases hparts : mantissaAndExponent x with ⟨m, q⟩
  rw [hparts] at h hmantissa
  rw [Nat.pow_add]
  simp only [quotientOf, hparts]
  split
  · exact hmantissa.trans_le (Nat.le_mul_of_pos_right _ (Nat.two_pow_pos _))
  · rw [Nat.shiftLeft_eq]
    refine Nat.mul_lt_mul_of_lt_of_le hmantissa ?_ (Nat.two_pow_pos _)
    exact Nat.pow_le_pow_right (by decide) (by omega)

/-- The integer part of a float is no greater than its numerator. -/
theorem natAbs_truncate_le (x : Float) : (truncate x).natAbs ≤ (quotientOf x).1 := by
  rcases hquotient : quotientOf x with ⟨num, den⟩
  simp only [truncate, hquotient]
  split
  · rw [Int.natAbs_neg, Int.natAbs_natCast]
    exact Nat.div_le_self num den
  · rw [Int.natAbs_natCast]
    exact Nat.div_le_self num den

/-- The integer part of a float has few enough digits. -/
theorem digitCount_truncate (x : Float) :
    digitCount (truncate x).natAbs ≤ Numeral.digitLimit := by
  obtain ⟨bound, hlimit, hbound⟩ : ∃ bound : Nat, 53 + bound ≤ Numeral.digitLimit
      ∧ (mantissaAndExponent x).2 ≤ bound := ⟨972, by decide, (mantissaAndExponent_bounds x).2⟩
  rw [digitCount, Nat.length_toDigits_le_iff (by decide) (by decide)]
  calc (truncate x).natAbs ≤ (quotientOf x).1 := natAbs_truncate_le x
    _ < 2 ^ (53 + bound) := quotientOf_lt hbound
    _ ≤ 10 ^ (53 + bound) := Nat.pow_le_pow_left (by decide) _
    _ ≤ 10 ^ Numeral.digitLimit := Nat.pow_le_pow_right (by decide) hlimit

end Decimal

namespace HistoryEntry

/-- An integer that is read from a sound value has few enough digits. -/
theorem digitCount_integer? {strict : Bool} {levels : Nat} {j : Json} {n : Int}
    (hj : j.Sound strict false levels) (h : integer? j = some n) :
    Decimal.digitCount n.natAbs ≤ Numeral.digitLimit := by
  cases hj with
  | int hn =>
    cases h
    exact hn
  | bool b =>
    cases h
    cases b <;> decide
  | float =>
    rw [integer?] at h
    split at h
    · cases h
      exact Decimal.digitCount_truncate _
    · cases h
  | str => exact Figure.digitCount_le h
  | _ => cases h

/-- The line numbers of an entry that is read are those of two fields. -/
theorem lines_of_ofJson? {inRecord : Bool} {j : Json} {e : HistoryEntry}
    (h : ofJson? inRecord j = some e) :
    ∃ first last, j.get? "start_line" = some first ∧ integer? first = some e.firstLine
      ∧ j.get? "end_line" = some last ∧ integer? last = some e.lastLine := by
  rw [ofJson?] at h
  -- The identifier, the time, the path, the address and the bugs come before the line numbers.
  iterate 10 replace ⟨_, _, h⟩ := Option.bind_eq_some_iff.1 h
  obtain ⟨first, hfirst, h⟩ := Option.bind_eq_some_iff.1 h
  obtain ⟨n, hn, h⟩ := Option.bind_eq_some_iff.1 h
  obtain ⟨last, hlast, h⟩ := Option.bind_eq_some_iff.1 h
  obtain ⟨m, hm, h⟩ := Option.bind_eq_some_iff.1 h
  iterate 4 replace ⟨_, _, h⟩ := Option.bind_eq_some_iff.1 h
  cases h
  exact ⟨first, last, hfirst, hn, hlast, hm⟩

/-- An entry that is read from a sound value is lasting if its time is finite. -/
theorem lasting_of_ofJson? {strict inRecord : Bool} {levels : Nat} {j : Json} {e : HistoryEntry}
    (hj : j.Sound strict false levels) (h : ofJson? inRecord j = some e) (htime : e.time.isFinite) :
    e.Lasting := by
  have hfield {key : String} {v : Json} (hv : j.get? key = some v) :
      ∃ n, v.Sound strict false n := by
    cases j with
    | obj fs =>
      obtain ⟨n, -, hsound⟩ := hj.lookup hv
      exact ⟨n, hsound⟩
    | _ => cases hv
  obtain ⟨first, last, hfirst, hn, hlast, hm⟩ := lines_of_ofJson? h
  obtain ⟨_, hfirst'⟩ := hfield hfirst
  obtain ⟨_, hlast'⟩ := hfield hlast
  exact ⟨htime, digitCount_integer? hfirst' hn, digitCount_integer? hlast' hm⟩

end HistoryEntry

end Sabotage
