import Mathlib
import Sabotage.Proofs.PathTexts
import Sabotage.Proofs.Patterns
import Sabotage.Watch.Ignored

/-!
# What a watcher takes notice of

The patterns of what is ignored are texts between stars, and stars take slashes too. As the name in
such a text has a slash on both sides, the pattern takes just the paths with a directory of this
name on the way to the file (`Watch.accepts_rooted_iff`): a name that only begins or ends like it
does not count, and neither does the file itself. So a watcher takes notice of the source files in a
project that lie in none of the directories to be ignored, and of no others
(`Watch.isIgnored_eq_false_iff`).
-/

namespace Sabotage

/-! ## Pieces between separators -/

namespace Text

/-- Pieces in front of others, with a separator between the two. -/
theorem joinPieces_append {sep : Char} {ps qs : List (List Char)} (hps : ps ≠ []) (hqs : qs ≠ []) :
    joinPieces sep (ps ++ qs) = joinPieces sep ps ++ sep :: joinPieces sep qs := by
  induction ps with
  | nil => exact absurd rfl hps
  | cons p ps ih =>
    cases ps with
    | nil =>
      obtain ⟨q, qs, rfl⟩ := List.exists_cons_of_ne_nil hqs
      rfl
    | cons p' ps =>
      have ih := ih (List.cons_ne_nil p' ps)
      simp only [List.cons_append, joinPieces_cons_cons] at ih ⊢
      rw [ih, List.append_assoc, List.cons_append]

/-- A piece stands between two separators, when there is one in front of the first piece, unless it
is the last. -/
theorem infix_joinPieces_iff {sep : Char} {piece : List Char} {ps : List (List Char)}
    (hpiece : sep ∉ piece) (hps : ∀ p ∈ ps, sep ∉ p) :
    sep :: (piece ++ [sep]) <:+: joinPieces sep ([] :: ps) ↔ piece ∈ ps.dropLast := by
  have hpieces : pieces sep (joinPieces sep ([] :: ps)) = [] :: ps :=
    pieces_joinPieces (List.cons_ne_nil _ _) (List.forall_mem_cons.2 ⟨List.not_mem_nil, hps⟩)
  constructor
  · rintro ⟨before, after, htext⟩
    rw [← htext, show before ++ sep :: (piece ++ [sep]) ++ after =
      before ++ sep :: (piece ++ sep :: after) by simp, pieces_append,
      pieces_append_cons hpiece] at hpieces
    -- The first of the pieces before it is the empty one in front.
    obtain ⟨first, firsts, hfirst⟩ : ∃ first firsts, pieces sep before = first :: firsts :=
      ⟨_, _, rfl⟩
    obtain ⟨next, nexts, hnext⟩ : ∃ next nexts, pieces sep after = next :: nexts := ⟨_, _, rfl⟩
    rw [hfirst, hnext, List.cons_append, List.cons.injEq] at hpieces
    rw [← hpieces.2, List.dropLast_append_of_ne_nil (List.cons_ne_nil _ _),
      List.dropLast_cons_of_ne_nil (List.cons_ne_nil _ _)]
    exact List.mem_append_right _ List.mem_cons_self
  · intro hmem
    obtain ⟨before, after, hinner⟩ := List.append_of_mem hmem
    obtain ⟨last, rfl⟩ : ∃ last, ps = before ++ piece :: (after ++ [last]) := by
      have hne : ps ≠ [] := by
        rintro rfl
        cases hmem
      refine ⟨ps.getLast hne, ?_⟩
      rw [← List.cons_append, ← List.append_assoc, ← hinner, List.dropLast_append_getLast hne]
    obtain ⟨q, qs, hrest⟩ := List.exists_cons_of_ne_nil (show after ++ [last] ≠ [] by simp)
    refine ⟨joinPieces sep ([] :: before), joinPieces sep (q :: qs), ?_⟩
    rw [hrest,
      show [] :: (before ++ piece :: q :: qs) = ([] :: before) ++ piece :: q :: qs from rfl,
      joinPieces_append (List.cons_ne_nil _ _) (List.cons_ne_nil _ _), joinPieces_cons_cons]
    simp

end Text

/-! ## Small letters -/

namespace Text

/-- A small letter comes from itself and from its capital. -/
theorem toLower_eq_iff {c small : Char} (h : small.toLower = small) :
    c.toLower = small ↔ c = small ∨ c = small.toUpper := by
  constructor
  · rintro rfl
    by_cases hcapital : c.isUpper
    · have hsmall : ¬c.isLower := Char.not_isLower_of_isUpper hcapital
      rw [Char.toUpper_toLower_eq_toUpper, Char.toUpper_eq_of_not_isLower hsmall]
      exact .inr rfl
    · rw [Char.toLower_eq_of_not_isUpper hcapital]
      exact .inl rfl
  · rintro (rfl | rfl)
    · exact h
    · rw [Char.toLower_toUpper_eq_toLower, h]

/-- A text is another one, of small letters, with capitals for some of them. -/
def CapitalsIn (s small : String) : Prop :=
  List.Forall₂ (fun c letter => c = letter ∨ c = letter.toUpper) s.toList small.toList

/-- A text becomes one of small letters when it is that one with capitals for some of them. -/
theorem toLower_eq_iff_capitalsIn {s small : String}
    (h : ∀ c ∈ small.toList, c.toLower = c) : s.toLower = small ↔ CapitalsIn s small := by
  rw [← String.toList_inj, String.toLower, String.toList_map, CapitalsIn]
  generalize s.toList = cs
  generalize small.toList = letters at h
  induction letters generalizing cs with
  | nil => rw [List.map_eq_nil_iff, List.forall₂_nil_right_iff]
  | cons letter letters ih =>
    obtain ⟨hletter, hletters⟩ := List.forall_mem_cons.1 h
    cases cs with
    | nil => simp
    | cons c cs =>
      rw [List.map_cons, List.cons.injEq, List.forall₂_cons, toLower_eq_iff hletter, ih cs hletters]

end Text

namespace Language

/-- The suffixes of source files, in small letters. -/
def suffixes : List String :=
  [".js", ".jsx", ".mjs", ".cjs", ".ts", ".mts", ".cts", ".tsx"]

/-- Just the suffixes of source files name a language. -/
theorem isSome_ofSuffix?_iff {s : String} : (ofSuffix? s).isSome = true ↔ s ∈ suffixes := by
  constructor
  · intro h
    unfold ofSuffix? at h
    split at h
    all_goals first | decide | cases h
  · intro h
    simp only [suffixes, List.mem_cons, List.not_mem_nil, or_false] at h
    rcases h with rfl | rfl | rfl | rfl | rfl | rfl | rfl | rfl <;> rfl

/-- A path has a language when its suffix is one of those of source files, with capitals or
without. -/
theorem isSome_ofPath?_iff {path : String} : (ofPath? path).isSome = true ↔
    ∃ small ∈ suffixes, Text.CapitalsIn (Path.ofString path).suffix small := by
  have hsmall (small : String) (h : small ∈ suffixes) : ∀ c ∈ small.toList, c.toLower = c := by
    have hall : ∀ small ∈ suffixes, small.toList.all fun c => c.toLower == c := by decide
    simpa using hall small h
  rw [ofPath?, isSome_ofSuffix?_iff]
  constructor
  · exact fun h => ⟨_, h, (Text.toLower_eq_iff_capitalsIn (hsmall _ h)).1 rfl⟩
  · rintro ⟨small, h, hcapitals⟩
    rwa [(Text.toLower_eq_iff_capitalsIn (hsmall _ h)).2 hcapitals]

end Language

/-! ## Locations -/

namespace Path

/-- The names of a location that an absolute path leads to are components of the path. -/
theorem mem_parts_of_mem_locate {p : Path} (h : p.isAbsolute) {here : List String} {name : String}
    (hname : name ∈ p.locate here) : name ∈ p.parts := by
  rw [locate, if_pos h] at hname
  suffices hfold : ∀ (parts location : List String), name ∈ parts.foldl step location →
      name ∈ location ∨ name ∈ parts from (hfold _ _ hname).resolve_left List.not_mem_nil
  intro parts
  induction parts with
  | nil => exact fun location => .inl
  | cons part parts ih =>
    intro location hmem
    rcases ih _ hmem with hmem | hmem
    · rw [step] at hmem
      split at hmem
      · exact .inl (List.mem_of_mem_dropLast hmem)
      · rcases List.mem_append.1 hmem with hmem | hmem
        · exact .inl hmem
        · exact .inr (List.mem_cons.2 (.inl (List.mem_singleton.1 hmem)))
    · exact .inr (List.mem_cons_of_mem part hmem)

end Path

/-! ## What is ignored -/

/-- Stars on both sides of characters that stand for themselves take the texts in which these stand
somewhere. -/
theorem Glob.accepts_stars {middle : String} (h : ∀ c ∈ middle.toList, isLiteral c)
    {text : String} : accepts ("**" ++ middle ++ "**") text ↔ middle.toList <:+: text.toList := by
  have hparse : parse ("**" ++ middle ++ "**").toList =
      .run :: .run :: (middle.toList.map .char ++ [.run, .run]) := by
    have hstars : ("**" ++ middle ++ "**").toList =
        '*' :: '*' :: (middle.toList ++ ['*', '*']) := by
      simp
    rw [hstars, parse_cons_star, parse_cons_star, parse_append_literal h]
    rfl
  rw [accepts, hparse]
  simp only [matchesPieces_run, matchesPieces_literal, matchesPieces_nil]
  constructor
  · rintro ⟨a, _, htext, b, _, rfl, after, rfl, -⟩
    exact ⟨a ++ b, after, by rw [htext, List.append_assoc, List.append_assoc]⟩
  · rintro ⟨before, after, htext⟩
    refine ⟨before, middle.toList ++ after, ?_, [], _, rfl, after, rfl, after, [], ?_, [], [], rfl,
      rfl⟩
    · rw [← htext, List.append_assoc]
    · rw [List.append_nil]

namespace Watch

/-- The names of the directories to be ignored. -/
def ignoredDirectories : List String :=
  ["node_modules", ".git", ".bugduck", "build", "dist", ".next", "coverage", ".idea", ".vscode"]

/-- There is a pattern for each directory to be ignored. -/
theorem ignoredPatterns_eq :
    ignoredPatterns = ignoredDirectories.map fun name => "**" ++ ("/" ++ name ++ "/") ++ "**" := by
  decide

/-- The pattern of a directory takes the paths that lead through one of its name. -/
theorem accepts_rooted_iff {directory : String} {names : List String}
    (hliteral : ∀ c ∈ directory.toList, Glob.isLiteral c) (hslash : '/' ∉ directory.toList)
    (hnames : ∀ name ∈ names, '/' ∉ name.toList) :
    Glob.accepts ("**" ++ ("/" ++ directory ++ "/") ++ "**") (rooted names) ↔
      directory ∈ names.dropLast := by
  have hmiddle : ("/" ++ directory ++ "/").toList = '/' :: (directory.toList ++ ['/']) := by
    simp
  have hliterals : ∀ c ∈ ("/" ++ directory ++ "/").toList, Glob.isLiteral c := by
    rw [hmiddle]
    exact List.forall_mem_cons.2 ⟨rfl, List.forall_mem_append.2
      ⟨hliteral, List.forall_mem_singleton.2 rfl⟩⟩
  rw [Glob.accepts_stars hliterals, hmiddle]
  by_cases hempty : names = []
  · -- The path of the project itself is a dot.
    subst hempty
    have hdot : (rooted []).toList = Text.joinPieces '/' [[], ['.']] := by decide
    rw [hdot, Text.infix_joinPieces_iff hslash (by decide)]
    simp
  · have htext : (rooted names).toList = Text.joinPieces '/' ([] :: names.map String.toList) := by
      obtain ⟨name, rest, rfl⟩ := List.exists_cons_of_ne_nil hempty
      rw [rooted, String.toList_append, Path.toList_toString fun hdot => hempty hdot.2]
      rfl
    rw [htext, Text.infix_joinPieces_iff hslash (List.forall_mem_map.2 hnames), ← List.map_dropLast,
      List.mem_map]
    exact ⟨fun ⟨_, hname, heq⟩ => String.toList_inj.1 heq ▸ hname, fun hname => ⟨_, hname, rfl⟩⟩

/-- No pattern takes a path below the project that leads through none of the directories to be
ignored. -/
theorem any_ignoredPatterns_eq_false_iff {names : List String}
    (hnames : ∀ name ∈ names, '/' ∉ name.toList) :
    (ignoredPatterns.any fun pattern => Glob.accepts pattern (rooted names)) = false ↔
      ∀ name ∈ names.dropLast, name ∉ ignoredDirectories := by
  have hliteral : ∀ name ∈ ignoredDirectories, name.toList.all Glob.isLiteral := by decide
  have hslash : ∀ name ∈ ignoredDirectories, '/' ∉ name.toList := by decide
  have haccepts (name : String) (h : name ∈ ignoredDirectories) :
      Glob.accepts ("**" ++ ("/" ++ name ++ "/") ++ "**") (rooted names) ↔ name ∈ names.dropLast :=
    accepts_rooted_iff (List.all_eq_true.1 (hliteral name h)) (hslash name h) hnames
  rw [ignoredPatterns_eq, List.any_map, List.any_eq_false]
  constructor
  · exact fun hnone name hname h => hnone name h ((haccepts name h).2 hname)
  · exact fun hnone name h htaken => hnone name ((haccepts name h).1 htaken) h

/-- A watcher takes notice of an absolute path exactly when it has no NUL character and the suffix
of a source file, in capitals or not, and leads to the project or below it, through none of the
directories to be ignored. -/
theorem isIgnored_eq_false_iff {here project : List String} {path : String}
    (h : (Path.ofString path).isAbsolute) : isIgnored here project path = false ↔
      '\x00' ∉ path.toList ∧
      (∃ small ∈ Language.suffixes, Text.CapitalsIn (Path.ofString path).suffix small) ∧
      ∃ names, (Path.ofString path).locate here = project ++ names ∧
        ∀ name ∈ names.dropLast, name ∉ ignoredDirectories := by
  have hnames : ∀ names, (Path.ofString path).locate here = project ++ names →
      ∀ name ∈ names, '/' ∉ name.toList := by
    intro names hlocate name hname
    have hmem : name ∈ (Path.ofString path).locate here :=
      hlocate ▸ List.mem_append_right project hname
    exact (Path.normal_ofString path).noSlash name (Path.mem_parts_of_mem_locate h hmem)
  have hsource : (Language.ofPath? path).isNone = false ↔
      ∃ small ∈ Language.suffixes, Text.CapitalsIn (Path.ofString path).suffix small := by
    rw [← Language.isSome_ofPath?_iff, Option.isNone_eq_false_iff]
  have hnul : path.contains '\x00' = false ↔ '\x00' ∉ path.toList := by
    rw [String.contains_char_eq, decide_eq_false_iff_not]
  rw [isIgnored, Bool.or_eq_false_iff, Bool.or_eq_false_iff, hsource, hnul,
    and_comm (a := Exists _), and_assoc]
  refine and_congr_right fun _ => and_congr_right fun _ => ?_
  cases hwithin : within? project ((Path.ofString path).locate here) with
  | none =>
    refine iff_of_false (by simp) ?_
    rintro ⟨names, hlocate, -⟩
    rw [within?_eq_some_iff.2 hlocate] at hwithin
    cases hwithin
  | some names =>
    have hlocate := within?_eq_some_iff.1 hwithin
    have hany := any_ignoredPatterns_eq_false_iff (hnames names hlocate)
    constructor
    · exact fun hnone => ⟨names, hlocate, hany.1 hnone⟩
    · rintro ⟨names', hlocate', hnone⟩
      obtain rfl : names = names' := List.append_cancel_left (hlocate.symm.trans hlocate')
      exact hany.2 hnone

/-- Neither a file `dist.JS` nor a directory `rebuild` is ignored. -/
theorem isIgnored_rebuild :
    (Path.ofString "/p/src/../rebuild/dist.JS").isAbsolute ∧
      isIgnored [] ["p"] "/p/src/../rebuild/dist.JS" = false := by
  have habsolute : (Path.ofString "/p/src/../rebuild/dist.JS").isAbsolute := by decide
  refine ⟨habsolute, (isIgnored_eq_false_iff habsolute).2 ⟨by decide, ⟨".js", by decide, ?_⟩,
    ["rebuild", "dist.JS"], by decide, by decide⟩⟩
  rw [show (Path.ofString "/p/src/../rebuild/dist.JS").suffix = ".JS" by decide]
  exact .cons (.inl rfl) (.cons (.inr rfl) (.cons (.inr rfl) .nil))

end Watch

end Sabotage
