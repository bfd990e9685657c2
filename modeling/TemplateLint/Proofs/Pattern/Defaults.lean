import TemplateLint.Proofs.Discovery.Selection
import TemplateLint.Proofs.Path.Text
import TemplateLint.Proofs.Pattern.Below

namespace TemplateLint

open Text

namespace Path

theorem dot_isSuffix {cs : List Char}
    (inside : (cs.reverse.takeWhile (· ≠ '.')).length < cs.length) :
    '.' :: (cs.reverse.takeWhile (· ≠ '.')).reverse <:+ cs := by
  have cut := List.takeWhile_append_dropWhile (p := (· ≠ '.')) (l := cs.reverse)
  have dot := List.head?_dropWhile_not (· ≠ '.') cs.reverse
  cases before : cs.reverse.dropWhile (· ≠ '.') with
  | nil =>
    rw [before, List.append_nil] at cut
    rw [cut, List.length_reverse] at inside
    omega
  | cons c back =>
    rw [before] at cut dot
    obtain rfl : c = '.' := by simpa using dot
    exact ⟨back.reverse, by simpa using congrArg List.reverse cut⟩

theorem suffix_isSuffix_name (p : Path) : p.suffix.toList <:+ p.name.toList := by
  simp only [suffix]
  split
  · exact List.nil_suffix
  · next long =>
    rw [String.toList_ofList]
    apply dot_isSuffix
    rw [not_or, List.length_reverse] at long
    omega

def pieces (names : List String) : List (List Char) :=
  names.flatMap fun name => splitOn '\\' name.toList

theorem relativeTo?_append (base : Path) (names : List String) :
    (base.append ⟨.relative, names⟩).relativeTo? base = some ⟨.relative, names⟩ := by
  have under : (base.append ⟨.relative, names⟩).isUnder base = true := by
    simp [append, isUnder]
  rw [relativeTo?, if_pos under]
  simp [append]

end Path

namespace Pattern

variable {name path : List Char} {parts : List (List Char)}

theorem glob_around_name_iff (plain : Plain name) :
    glob ("**/".toList ++ name ++ "/**".toList) path = true ↔
      name ∈ (splitOn '/' path).dropLast := by
  rw [glob_around, List.any_eq_true]
  simp only [wildcard_plain_iff plain, exists_eq_right]

theorem wildcard_hidden_iff {text : List Char} :
    wildcard ".*".toList text = true ↔ text.head? = some '.' := by
  have dot : Plain ['.'] := by decide
  have step : wildcard (['.'] ++ ['*']) text = true ↔ _ := wildcard_append_iff dot
  rw [List.head?_eq_some_iff]
  simpa [wildcard_star] using step

theorem head?_join {part : List Char} {c : Char} (other : c ≠ '/') :
    (join ['/'] (part :: parts)).head? = some c ↔ part.head? = some c := by
  cases parts with
  | nil => rfl
  | cons next parts => cases part <;> simp [join, Ne.symm other]

theorem glob_hidden_iff :
    glob "**/.*".toList path = true ↔ ∃ part ∈ splitOn '/' path, part.head? = some '.' := by
  have front : "**/.*".toList = "**/".toList ++ ".*".toList := rfl
  rw [front, glob_front (by decide), any_tails_iff]
  simp only [wildcard_hidden_iff]
  constructor
  · rintro ⟨skipped, rest, same, hr, hidden⟩
    obtain ⟨part, later, rfl⟩ := List.exists_cons_of_ne_nil hr
    rw [head?_join (by decide)] at hidden
    exact ⟨part, by simp [same], hidden⟩
  · rintro ⟨part, hp, hidden⟩
    obtain ⟨skipped, later, same⟩ := List.append_of_mem hp
    exact ⟨skipped, part :: later, same, List.cons_ne_nil _ _, (head?_join (by decide)).mpr hidden⟩

theorem glob_of_suffix {ending : List Char} (plain : Plain ending)
    (ends : endsWith "/**".toList ("**/".toList ++ '*' :: ending) = false) (h : ending <:+ path) :
    glob ("**/".toList ++ '*' :: ending) path = true := by
  have first : ending.head? ≠ some '*' := by
    intro star
    exact (plain _ (List.mem_of_head? star)).1 rfl
  obtain ⟨before, rfl⟩ := h
  rw [glob_front ends, any_tails_iff]
  refine ⟨[], _, rfl, splitOn_ne_nil _ _, ?_⟩
  rw [join_splitOn, wildcard_star_iff first]
  exact ⟨before, ending, rfl, (wildcard_plain_iff plain).mpr rfl⟩

def skippedNames : List (List Char) :=
  ["__pycache__".toList, "venv".toList, "env".toList, "node_modules".toList]

def builtNames : List (List Char) := ["build".toList, "dist".toList]

inductive LeftOut (parts : List (List Char)) : Prop
  | hidden {part : List Char} (here : part ∈ parts) (dot : part.head? = some '.')
  | skipped {part : List Char} (on_way : part ∈ parts.dropLast) (named : part ∈ skippedNames)
  | built {part : List Char} (top : parts.head? = some part) (named : part ∈ builtNames)

theorem leftOut_iff :
    LeftOut parts ↔ (∃ part ∈ parts, part.head? = some '.') ∨
      (∃ part ∈ parts.dropLast, part ∈ skippedNames) ∨ ∃ part ∈ parts.head?, part ∈ builtNames := by
  constructor
  · intro left
    cases left with
    | hidden here dot => exact .inl ⟨_, here, dot⟩
    | skipped on_way named => exact .inr (.inl ⟨_, on_way, named⟩)
    | built top named => exact .inr (.inr ⟨_, top, named⟩)
  · rintro (⟨_, here, dot⟩ | ⟨_, on_way, named⟩ | ⟨_, top, named⟩)
    · exact .hidden here dot
    · exact .skipped on_way named
    · exact .built top named

instance : Decidable (LeftOut parts) := decidable_of_iff _ leftOut_iff.symm

theorem perm_defaultExcluded :
    (defaultExcluded.map String.toList).Perm (["**/.*".toList] ++
      ((".git".toList :: ".venv".toList :: skippedNames).map fun name =>
        "**/".toList ++ name ++ "/**".toList) ++ builtNames.map (· ++ "/**".toList)) := by
  decide +kernel

theorem exists_excluded (P : List Char → Prop) :
    (∃ s ∈ defaultExcluded, P s.toList) ↔
      P "**/.*".toList ∨
        (∃ name ∈ ".git".toList :: ".venv".toList :: skippedNames,
          P ("**/".toList ++ name ++ "/**".toList)) ∨
        ∃ name ∈ builtNames, P (name ++ "/**".toList) := by
  have texts : (∃ s ∈ defaultExcluded, P s.toList) ↔
      ∃ cs ∈ defaultExcluded.map String.toList, P cs := by
    simp only [List.mem_map, exists_exists_and_eq_and]
  rw [texts]
  simp only [perm_defaultExcluded.mem_iff, List.mem_append, or_and_right, exists_or,
    List.mem_singleton, exists_eq_left, List.mem_map, exists_exists_and_eq_and, or_assoc]

theorem plain_skipped : ∀ name ∈ ".git".toList :: ".venv".toList :: skippedNames, Plain name := by
  simp [skippedNames, Plain]

theorem glob_built_iff (h : name ∈ builtNames) :
    glob (name ++ "/**".toList) path = true ↔ (splitOn '/' path).head? = some name := by
  have own : ∀ name ∈ builtNames, name ≠ [] ∧ '/' ∉ name ∧ ¬ ['*', '*'] <:+: name := by decide
  obtain ⟨written, slashless, single⟩ := own name h
  exact glob_below_name_iff written slashless single

theorem exists_excluded_iff :
    (∃ s ∈ defaultExcluded, glob s.toList path = true) ↔ LeftOut (splitOn '/' path) := by
  rw [exists_excluded fun pattern => glob pattern path = true, glob_hidden_iff]
  constructor
  · rintro (⟨part, here, dot⟩ | ⟨name, named, matched⟩ | ⟨name, named, matched⟩)
    · exact .hidden here dot
    · have on_way := (glob_around_name_iff (plain_skipped name named)).mp matched
      rcases List.mem_cons.mp named with rfl | named
      · exact .hidden (List.dropLast_subset _ on_way) rfl
      · rcases List.mem_cons.mp named with rfl | named
        · exact .hidden (List.dropLast_subset _ on_way) rfl
        · exact .skipped on_way named
    · exact .built ((glob_built_iff named).mp matched) named
  · intro left
    cases left with
    | hidden here dot => exact .inl ⟨_, here, dot⟩
    | skipped on_way named =>
      have among := List.mem_cons_of_mem ".git".toList (List.mem_cons_of_mem ".venv".toList named)
      exact .inr (.inl ⟨_, among, (glob_around_name_iff (plain_skipped _ among)).mpr on_way⟩)
    | built top named => exact .inr (.inr ⟨_, named, (glob_built_iff named).mpr top⟩)

theorem exists_included {path : List Char} (h : ".mako".toList <:+ path ∨ ".mak".toList <:+ path) :
    ∃ s ∈ defaultIncluded, glob s.toList path = true := by
  have plain : Plain ".mako".toList ∧ Plain ".mak".toList := by decide
  rcases h with h | h
  · exact ⟨"**/*.mako", by decide, glob_of_suffix plain.1 (by decide) h⟩
  · exact ⟨"**/*.mak", by decide, glob_of_suffix plain.2 (by decide) h⟩

def slashed (c : Char) : Char := if c = '\\' then '/' else c

theorem splitOn_slashed {cs : List Char} (slashless : '/' ∉ cs) :
    splitOn '/' (cs.map slashed) = splitOn '\\' cs := by
  induction cs with
  | nil => rfl
  | cons c cs ih =>
    obtain ⟨hc, hcs⟩ := not_or.mp (mt List.mem_cons.mpr slashless)
    by_cases back : c = '\\'
    · simp [splitOn, slashed, back, ih hcs]
    · simp [splitOn, slashed, back, ih hcs, Ne.symm hc]

theorem seen_eq {names : List String} (some_name : names ≠ []) :
    seen ⟨.relative, names⟩ = join ['/'] (names.map fun name => name.toList.map slashed) := by
  rw [seen, Path.toList_toText, if_neg (by simpa using some_name), Path.body, List.map_append,
    map_join, List.map_map]
  rfl

theorem splitOn_seen {names : List String} (some_name : names ≠ [])
    (slashless : ∀ name ∈ names, '/' ∉ name.toList) :
    splitOn '/' (seen ⟨.relative, names⟩) = Path.pieces names := by
  rw [seen_eq some_name, splitOn_join (by simpa using some_name), List.flatMap_map, Path.pieces]
  apply List.flatMap_congr
  intro name hn
  exact splitOn_slashed (slashless name hn)

theorem isSuffix_seen {front : List String} {last : String} {ending : List Char}
    (same : ending.map slashed = ending) (h : ending <:+ last.toList) :
    ending <:+ seen ⟨.relative, front ++ [last]⟩ := by
  have inside : ending <:+ last.toList.map slashed := same ▸ h.map slashed
  rw [seen_eq (by simp), List.map_append]
  exact inside.trans (isSuffix_join_concat _ _ _)

theorem endings_of_template {front : List String} {last : String}
    (template : Discovery.isTemplateName (front ++ [last]) = true) :
    ".mako".toList <:+ last.toList ∨ ".mak".toList <:+ last.toList := by
  have own : (Path.absolute (front ++ [last])).name = last := List.getLastD_concat
  have ending := Path.suffix_isSuffix_name (.absolute (front ++ [last]))
  rw [own] at ending
  rcases Discovery.isTemplateName_iff.mp template with same | same
  · exact .inl (same ▸ ending)
  · exact .inr (same ▸ ending)

theorem anyMatch_strings (path : List Char) (patterns : List String) :
    ∃ found, anyMatch path (patterns.map .str) = .ok found ∧
      (found = true ↔ ∃ s ∈ patterns, glob s.toList path = true) := by
  have texts : ∀ v ∈ patterns.map Value.str, ∃ s, v = .str s := by simp
  simpa using anyMatch_iff path texts

/-- Below any base the default patterns include every template, and they exclude those that are left
out by the names between the base and the template. -/
theorem matchesAny_defaults (base : Path) {names : List String}
    (slashless : ∀ name ∈ names, '/' ∉ name.toList)
    (template : Discovery.isTemplateName names = true) :
    let file := base.append ⟨.relative, names⟩
    matchesAny file base ({} : Config).included = .ok true ∧
      ∃ out, matchesAny file base ({} : Config).excluded = .ok out ∧
        (out = true ↔ LeftOut (Path.pieces names)) := by
  intro file
  have some_name : names ≠ [] := by
    rintro rfl
    exact absurd template (by decide)
  have text : relativeText file base = seen ⟨.relative, names⟩ :=
    relativeText_of_relativeTo? (Path.relativeTo?_append base names)
  obtain ⟨into, hinto, included⟩ := anyMatch_strings (seen ⟨.relative, names⟩) defaultIncluded
  obtain ⟨out, hout, excluded⟩ := anyMatch_strings (seen ⟨.relative, names⟩) defaultExcluded
  rw [exists_excluded_iff, splitOn_seen some_name slashless] at excluded
  rw [matchesAny, matchesAny, text]
  refine ⟨?_, out, hout, excluded⟩
  obtain ⟨front, last, rfl⟩ := (List.eq_nil_or_concat' names).resolve_left some_name
  have found : into = true := by
    rw [included]
    have mako : ".mako".toList.map slashed = ".mako".toList := by decide
    have mak : ".mak".toList.map slashed = ".mak".toList := by decide
    exact exists_included
      ((endings_of_template template).imp (isSuffix_seen mako) (isSuffix_seen mak))
  rw [← found]
  exact hinto

example : ¬ LeftOut (Path.pieces ["build-tools", "x.git", "env.mako"]) := by decide

theorem matchesAny_defaults_of_cache :
    let names := ["shop", "a\\.cache", "page.mako"]
    let base := Path.absolute ["srv", "site"]
    let file := base.append ⟨.relative, names⟩
    (∀ name ∈ names, '/' ∉ name.toList) ∧ Discovery.isTemplateName names = true ∧
      matchesAny file base ({} : Config).included = .ok true ∧
      matchesAny file base ({} : Config).excluded = .ok true := by
  intro names base file
  have slashless : ∀ name ∈ names, '/' ∉ name.toList := by decide
  have template : Discovery.isTemplateName names = true := by decide
  obtain ⟨included, out, hout, excluded⟩ := matchesAny_defaults base slashless template
  have found : out = true := excluded.mpr (by decide)
  exact ⟨slashless, template, included, found ▸ hout⟩

end Pattern

end TemplateLint
