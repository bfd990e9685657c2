import TemplateLint.FileTree.Walk

namespace TemplateLint

def ProperName (name : String) : Prop := name ≠ "." ∧ name ≠ ".."

instance (name : String) : Decidable (ProperName name) := inferInstanceAs (Decidable (_ ∧ _))

inductive Entry.Plain : Entry → Prop
  | file (bytes : List UInt8) : Plain (.file bytes)
  | directory {children : List (String × Entry)} (distinct : (children.map Prod.fst).Nodup)
      (proper : ∀ c ∈ children, ProperName c.1) (below : ∀ c ∈ children, Plain c.2) :
      Plain (.directory children)

namespace Entry

theorem mem_of_lookup {children : List (String × Entry)} {name : String} {e : Entry}
    (h : children.lookup name = some e) : (name, e) ∈ children := by
  obtain ⟨before, after, rfl, -⟩ := List.lookup_eq_some_iff.mp h
  simp

theorem lookup_of_mem {children : List (String × Entry)}
    (distinct : (children.map Prod.fst).Nodup) {name : String} {e : Entry}
    (h : (name, e) ∈ children) : children.lookup name = some e := by
  obtain ⟨before, after, rfl⟩ := List.append_of_mem h
  refine List.lookup_eq_some_iff.mpr ⟨before, after, rfl, ?_⟩
  intro c hc
  rw [List.map_append, List.map_cons, List.nodup_append] at distinct
  have other := distinct.2.2 c.1 (List.mem_map_of_mem hc) name List.mem_cons_self
  simpa using Ne.symm other

theorem at?_append (e : Entry) (names more : List String) :
    e.at? (names ++ more) = (e.at? names).bind (·.at? more) := by
  induction names generalizing e with
  | nil => rfl
  | cons name names ih =>
    rw [List.cons_append, at?_cons, at?_cons, Option.bind_assoc]
    simp only [ih]

theorem at?_snoc {e : Entry} {names : List String} {children : List (String × Entry)}
    (h : e.at? names = some (.directory children)) (name : String) :
    e.at? (names ++ [name]) = children.lookup name := by
  simp [at?_append, h]

theorem plain_at? {e f : Entry} (plain : e.Plain) {names : List String}
    (h : e.at? names = some f) : f.Plain := by
  induction names generalizing e with
  | nil => cases h; exact plain
  | cons name names ih =>
    cases plain with
    | file bytes => cases h
    | @directory children distinct proper below =>
      rw [at?_directory_cons] at h
      obtain ⟨next, hc, h⟩ := Option.bind_eq_some_iff.mp h
      exact ih (below _ (mem_of_lookup hc)) h

theorem not_link_at? {e : Entry} (plain : e.Plain) {names : List String} {target : String} :
    e.at? names ≠ some (.link target) := by
  intro h
  cases plain_at? plain h

theorem not_link_lookup {e : Entry} (plain : e.Plain) {names : List String}
    {children : List (String × Entry)} (h : e.at? names = some (.directory children))
    {name target : String} : children.lookup name ≠ some (.link target) := by
  rw [← at?_snoc h]
  exact not_link_at? plain

theorem eq_nil_of_at?_append {e f : Entry} {names more : List String} {bytes : List UInt8}
    (file : e.at? names = some (.file bytes)) (h : e.at? (names ++ more) = some f) :
    more = [] := by
  rw [at?_append, file] at h
  cases more with
  | nil => rfl
  | cons name more => cases h

end Entry

namespace FileTree

def stride (here : List String) (name : String) : List String :=
  if name = "." then here else if name = ".." then here.dropLast else here ++ [name]

theorem stride_of_proper {name : String} (h : ProperName name) (here : List String) :
    stride here name = here ++ [name] := by
  rw [stride, if_neg h.1, if_neg h.2]

theorem normalized_eq_foldl (names : List String) : normalized names = names.foldl stride [] := by
  have same (done : List String) :
      (names.foldl (fun done name =>
        if name = "." then done else if name = ".." then done.tail else name :: done) done).reverse =
        names.foldl stride done.reverse := by
    induction names generalizing done with
    | nil => rfl
    | cons name names ih =>
      rw [List.foldl_cons, List.foldl_cons, ih, stride]
      by_cases itself : name = "."
      · simp [itself]
      · by_cases up : name = ".."
        · simp [up, List.dropLast_reverse]
        · simp [itself, up]
  exact same []

theorem foldl_stride_of_proper {names : List String} (h : ∀ name ∈ names, ProperName name)
    (here : List String) : names.foldl stride here = here ++ names := by
  induction names generalizing here with
  | nil => simp
  | cons name names ih =>
    obtain ⟨proper, later⟩ := List.forall_mem_cons.mp h
    rw [List.foldl_cons, stride_of_proper proper, ih later, List.append_assoc, List.singleton_append]

theorem proper_foldl_stride (names : List String) {here : List String}
    (h : ∀ name ∈ here, ProperName name) : ∀ name ∈ names.foldl stride here, ProperName name := by
  induction names generalizing here with
  | nil => exact h
  | cons next names ih =>
    rw [List.foldl_cons]
    apply ih
    by_cases itself : next = "."
    · rwa [stride, if_pos itself]
    · by_cases up : next = ".."
      · rw [stride, if_neg itself, if_pos up]
        exact fun name hname => h name (List.dropLast_subset here hname)
      · rw [stride_of_proper ⟨itself, up⟩]
        intro name hname
        rcases List.mem_append.mp hname with hname | hname
        · exact h name hname
        · rw [List.mem_singleton.mp hname]
          exact ⟨itself, up⟩

theorem proper_normalized (names : List String) :
    ∀ name ∈ normalized names, ProperName name := by
  rw [normalized_eq_foldl]
  exact proper_foldl_stride names (by simp)

theorem normalized_of_proper {names : List String} (h : ∀ name ∈ names, ProperName name) :
    normalized names = names := by
  rw [normalized_eq_foldl, foldl_stride_of_proper h, List.nil_append]

section

variable {root : Entry} (plain : root.Plain)

include plain

theorem resolveFrom_plain (depth : Nat) (opened : List (List String)) (here names : List String) :
    resolveFrom root depth opened here names = (names.foldl stride here, true) := by
  induction names generalizing here with
  | nil => rw [resolveFrom, List.foldl_nil]
  | cons name names ih =>
    rw [resolveFrom, List.foldl_cons, stride]
    by_cases itself : name = "."
    · rw [if_pos itself, if_pos itself, ih]
    · by_cases up : name = ".."
      · rw [if_neg itself, if_neg itself, if_pos up, if_pos up, ih]
      · rw [if_neg itself, if_neg itself, if_neg up, if_neg up]
        dsimp only
        split
        · exact absurd (by assumption) (Entry.not_link_at? plain)
        · exact absurd (by assumption) (Entry.not_link_at? plain)
        · exact ih _

theorem follow_ne_tooManyLinks (links : Nat) (here names : List String) :
    follow root links here names ≠ .error .tooManyLinks := by
  induction names generalizing here with
  | nil => simp
  | cons name names ih =>
    rw [follow]
    split
    · next children hdir =>
      split
      · exact ih here
      · split
        · exact ih _
        · split
          · simp
          · exact absurd (by assumption) (Entry.not_link_lookup plain hdir)
          · exact absurd (by assumption) (Entry.not_link_lookup plain hdir)
          · exact ih _
    · simp

theorem follow_of_at? (links : Nat) {here names : List String} {e : Entry}
    (h : root.at? (here ++ names) = some e) :
    follow root links here names = .ok (here ++ names, links) := by
  induction names generalizing here with
  | nil => rw [follow, List.append_nil]
  | cons name names ih =>
    have step : here ++ name :: names = here ++ [name] ++ names := by simp
    have found := h
    rw [Entry.at?_append] at found
    obtain ⟨holder, hholder, hnext⟩ := Option.bind_eq_some_iff.mp found
    cases hp : Entry.plain_at? plain hholder with
    | file bytes => cases hnext
    | @directory children distinct proper below =>
      rw [Entry.at?_directory_cons] at hnext
      obtain ⟨next, hl, -⟩ := Option.bind_eq_some_iff.mp hnext
      have hname := proper _ (Entry.mem_of_lookup hl)
      rw [step] at h ⊢
      rw [follow]
      simp only [hholder, if_neg hname.1, if_neg hname.2, hl]
      cases hb : below _ (Entry.mem_of_lookup hl) with
      | file bytes => exact ih h
      | directory => exact ih h

theorem at?_of_follow {links left : Nat} {here names place : List String}
    (proper : ∀ name ∈ names, ProperName name) (hhere : ∃ e, root.at? here = some e)
    (h : follow root links here names = .ok (place, left)) :
    place = here ++ names ∧ ∃ e, root.at? place = some e := by
  induction names generalizing here with
  | nil =>
    rw [follow] at h
    cases h
    exact ⟨(List.append_nil _).symm, hhere⟩
  | cons name names ih =>
    obtain ⟨hname, later⟩ := List.forall_mem_cons.mp proper
    rw [follow] at h
    split at h
    · next children hdir =>
      rw [if_neg hname.1, if_neg hname.2] at h
      split at h
      · cases h
      · cases h
      · exact absurd (by assumption) (Entry.not_link_lookup plain hdir)
      · next e hl _ _ =>
        obtain ⟨rfl, found⟩ := ih later ⟨e, (Entry.at?_snoc hdir name).trans hl⟩ h
        exact ⟨by simp, found⟩
    · cases h

theorem entry?_absolute {names : List String} (proper : ∀ name ∈ names, ProperName name)
    (e : Entry) : entry? root [] (.absolute names) = .ok e ↔ root.at? names = some e := by
  unfold entry?
  rw [namesFrom_absolute]
  constructor
  · intro h
    cases hf : follow root linkLimit [] names with
    | error fault => simp [hf] at h
    | ok found =>
      obtain ⟨hplace, -⟩ := at?_of_follow plain proper ⟨root, rfl⟩ hf
      simp only [hf, hplace, List.nil_append] at h
      cases ha : root.at? names with
      | none => simp [ha] at h
      | some other => simpa [ha] using h
  · intro h
    have whole : root.at? ([] ++ names) = some e := h
    have hf := follow_of_at? plain linkLimit whole
    simp [hf, h]

theorem isFile_absolute {names : List String} (proper : ∀ name ∈ names, ProperName name) :
    isFile root [] (.absolute names) = true ↔ ∃ bytes, root.at? names = some (.file bytes) := by
  have hiff := entry?_absolute plain proper
  rw [isFile]
  constructor
  · intro h
    split at h
    · next bytes hentry => exact ⟨bytes, (hiff _).mp hentry⟩
    · cases h
  · rintro ⟨bytes, h⟩
    rw [(hiff _).mpr h]

theorem resolve_plain (cwd : List String) (p : Path) :
    resolve root cwd p = .ok (normalized (namesFrom cwd p)) := by
  have place : normalized (resolveFrom root (root.linkCount + 1) [] [] (namesFrom cwd p)).1 =
      normalized (namesFrom cwd p) := by
    rw [resolveFrom_plain plain, ← normalized_eq_foldl]
    exact normalized_of_proper (proper_normalized _)
  rw [resolve, place]
  split
  · next hf => exact absurd hf (follow_ne_tooManyLinks plain _ _ _)
  · rfl

end

end FileTree

end TemplateLint
