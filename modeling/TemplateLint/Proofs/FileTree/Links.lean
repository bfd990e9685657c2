import TemplateLint.Proofs.FileTree.Plain

namespace TemplateLint

namespace Entry

inductive Named : Entry → Prop
  | file (bytes : List UInt8) : Named (.file bytes)
  | link (target : String) : Named (.link target)
  | directory {children : List (String × Entry)} (distinct : (children.map Prod.fst).Nodup)
      (proper : ∀ c ∈ children, ProperName c.1) (below : ∀ c ∈ children, Named c.2) :
      Named (.directory children)

theorem Plain.named {e : Entry} (plain : e.Plain) : e.Named := by
  induction plain with
  | file bytes => exact .file bytes
  | directory distinct proper below ih => exact .directory distinct proper ih

structure Rooted (root : Entry) : Prop where
  unlinked : ∀ target, root ≠ .link target
  named : root.Named

theorem Plain.rooted {root : Entry} (plain : root.Plain) : root.Rooted := by
  refine ⟨?_, plain.named⟩
  rintro target rfl
  cases plain

theorem named_of_cons {e f : Entry} (named : e.Named) {name : String} {names : List String}
    (h : e.at? (name :: names) = some f) :
    ProperName name ∧ ∃ next : Entry, next.Named ∧ next.at? names = some f := by
  cases named with
  | file bytes => cases h
  | link target => cases h
  | @directory children distinct proper below =>
    rw [at?_directory_cons] at h
    obtain ⟨next, found, inside⟩ := Option.bind_eq_some_iff.mp h
    have entry := mem_of_lookup found
    exact ⟨proper _ entry, next, below _ entry, inside⟩

theorem named_at? {e f : Entry} (named : e.Named) {names : List String}
    (h : e.at? names = some f) : f.Named := by
  induction names generalizing e with
  | nil => cases h; exact named
  | cons name names ih =>
    obtain ⟨-, next, named, inside⟩ := named_of_cons named h
    exact ih named inside

theorem proper_of_at? {e f : Entry} (named : e.Named) {names : List String}
    (h : e.at? names = some f) : ∀ name ∈ names, ProperName name := by
  induction names generalizing e with
  | nil => exact List.forall_mem_nil _
  | cons name names ih =>
    obtain ⟨proper, next, named, inside⟩ := named_of_cons named h
    exact List.forall_mem_cons.mpr ⟨proper, ih named inside⟩

theorem directory_ne_link (children : List (String × Entry)) (target : String) :
    Entry.directory children ≠ .link target := by
  intro same
  cases same

def Settled (root : Entry) (here : List String) : Prop :=
  ∃ e, root.at? here = some e ∧ ∀ target, e ≠ .link target

theorem settled_nil {root : Entry} (rooted : root.Rooted) : root.Settled [] :=
  ⟨root, rfl, rooted.unlinked⟩

theorem settled_of_append {root e : Entry} {here more : List String} (some_more : more ≠ [])
    (h : root.at? (here ++ more) = some e) :
    ∃ children, root.at? here = some (.directory children) := by
  obtain ⟨name, more, rfl⟩ := List.exists_cons_of_ne_nil some_more
  rw [at?_append] at h
  obtain ⟨holder, hholder, inside⟩ := Option.bind_eq_some_iff.mp h
  cases holder with
  | file bytes => cases inside
  | link target => cases inside
  | directory children => exact ⟨children, hholder⟩

theorem settled_dropLast {root : Entry} {here : List String} (h : root.Settled here) :
    root.Settled here.dropLast := by
  by_cases top : here = []
  · rwa [top, List.dropLast_nil, ← top]
  · obtain ⟨e, he, -⟩ := h
    rw [← List.dropLast_concat_getLast top] at he
    obtain ⟨children, holder⟩ := settled_of_append (List.cons_ne_nil _ []) he
    exact ⟨_, holder, directory_ne_link children⟩

/-- Names that lead to a place one by one, without a link on the way. -/
structure Straight (root : Entry) (names : List String) : Prop where
  proper : ∀ name ∈ names, ProperName name
  unlinked : ∀ front, front <+: names → ∀ target, root.at? front ≠ some (.link target)

theorem straight_nil {root : Entry} (rooted : root.Rooted) : root.Straight [] := by
  refine ⟨List.forall_mem_nil _, ?_⟩
  intro front hfront target linked
  obtain ⟨e, here, unlinked⟩ := settled_nil rooted
  rw [List.prefix_nil.mp hfront, here] at linked
  exact unlinked target (Option.some.inj linked)

theorem Straight.dropLast {root : Entry} {names : List String} (h : root.Straight names) :
    root.Straight names.dropLast :=
  ⟨fun name hname => h.proper name (List.dropLast_subset names hname),
    fun front hfront => h.unlinked front (hfront.trans (List.dropLast_prefix names))⟩

theorem Straight.concat {root : Entry} {names : List String} {name : String}
    (h : root.Straight names) (proper : ProperName name)
    (unlinked : ∀ target, root.at? (names ++ [name]) ≠ some (.link target)) :
    root.Straight (names ++ [name]) := by
  constructor
  · rw [List.forall_mem_append]
    exact ⟨h.proper, by simpa using proper⟩
  · intro front hfront
    rcases List.prefix_concat_iff.mp hfront with rfl | before
    · exact unlinked
    · exact h.unlinked front before

end Entry

namespace FileTree

/-- Resolving the path does not come to a link that is being replaced already. -/
def Loopless (root : Entry) (cwd : List String) (p : Path) : Prop :=
  (resolveFrom root (root.linkCount + 1) [] [] (namesFrom cwd p)).2 = true

section

variable {root : Entry} {here names place : List String} {name target : String} {links left : Nat}
  {children : List (String × Entry)}

theorem follow_outside (h : ∀ children, root.at? here ≠ some (.directory children)) :
    follow root links here (name :: names) = .error .notDirectory := by
  rw [follow]
  split
  · exact absurd (by assumption) (h _)
  · rfl

section

variable (holder : root.at? here = some (.directory children))

include holder

theorem follow_itself : follow root links here ("." :: names) = follow root links here names := by
  rw [follow]
  simp only [holder, if_pos]

theorem follow_up :
    follow root links here (".." :: names) = follow root links here.dropLast names := by
  have other : ¬".." = "." := by decide
  rw [follow]
  simp only [holder, if_neg other, if_pos]

variable (proper : ProperName name)

include proper

theorem follow_missing (h : children.lookup name = none) :
    follow root links here (name :: names) = .error .missing := by
  rw [follow]
  simp only [holder, if_neg proper.1, if_neg proper.2, h]

theorem follow_spent (h : children.lookup name = some (.link target)) :
    follow root 0 here (name :: names) = .error .tooManyLinks := by
  rw [follow]
  simp only [holder, if_neg proper.1, if_neg proper.2, h]

theorem follow_link (h : children.lookup name = some (.link target)) :
    follow root (links + 1) here (name :: names) =
      follow root links (if isAbsolute target then [] else here) (targetNames target ++ names) := by
  rw [follow]
  simp only [holder, if_neg proper.1, if_neg proper.2, h]

theorem follow_entry {e : Entry} (h : children.lookup name = some e)
    (unlinked : ∀ target, e ≠ .link target) :
    follow root links here (name :: names) = follow root links (here ++ [name]) names := by
  rw [follow]
  simp only [holder, if_neg proper.1, if_neg proper.2, h]
  cases e with
  | file bytes => rfl
  | directory children => rfl
  | link target => exact absurd rfl (unlinked target)

end

theorem unlinked_of_cases {e : Entry} (none_left : ∀ target, links = 0 → e = .link target → False)
    (some_left : ∀ target more, links = more + 1 → e = .link target → False) (target : String) :
    e ≠ .link target := by
  intro same
  cases links with
  | zero => exact none_left target rfl same
  | succ links => exact some_left target links rfl same

theorem settled_of_follow (rooted : root.Rooted) (settled : root.Settled here)
    (h : follow root links here names = .ok (place, left)) : root.Settled place := by
  fun_induction follow root links here names with
  | case1 links here => cases h; exact settled
  | case2 links here names children holder ih => exact ih settled h
  | case3 links here names children holder other ih => exact ih (Entry.settled_dropLast settled) h
  | case4 | case5 | case8 => cases h
  | case6 here name names children holder itself up target links linked ih =>
    have start : root.Settled (if isAbsolute target then [] else here) := by
      split
      · exact Entry.settled_nil rooted
      · exact settled
    exact ih start h
  | case7 here name names children holder itself up e links none_left some_left found ih =>
    exact ih ⟨e, (Entry.at?_snoc holder name).trans found, unlinked_of_cases none_left some_left⟩ h

theorem follow_append (links : Nat) (here names more : List String) :
    follow root links here (names ++ more) =
      (follow root links here names).bind fun r => follow root r.2 r.1 more := by
  fun_induction follow root links here names with
  | case1 links here => rfl
  | case2 links here names children holder ih =>
    rw [← ih]
    exact follow_itself holder
  | case3 links here names children holder other ih =>
    rw [← ih]
    exact follow_up holder
  | case4 links here name names children holder itself up missing =>
    exact follow_missing holder ⟨itself, up⟩ missing
  | case5 here name names children holder itself up target linked =>
    exact follow_spent holder ⟨itself, up⟩ linked
  | case6 here name names children holder itself up target links linked ih =>
    rw [dite_eq_ite] at ih
    rw [← ih, List.append_assoc]
    exact follow_link holder ⟨itself, up⟩ linked
  | case7 here name names children holder itself up e links none_left some_left found ih =>
    rw [← ih]
    exact follow_entry holder ⟨itself, up⟩ found (unlinked_of_cases none_left some_left)
  | case8 links here name names outside =>
    exact follow_outside fun children holder => outside children holder

theorem follow_of_straight (links : Nat) (straight : root.Straight (here ++ names)) :
    follow root links here names = .ok (here ++ names, links) ∨
      follow root links here names = .error .missing ∨
      follow root links here names = .error .notDirectory := by
  induction names generalizing here with
  | nil => exact .inl (by rw [follow, List.append_nil])
  | cons name names ih =>
    have step : here ++ name :: names = here ++ [name] ++ names := by simp
    have proper := straight.proper name (by simp)
    by_cases holder : ∃ children, root.at? here = some (.directory children)
    · obtain ⟨children, holder⟩ := holder
      cases found : children.lookup name with
      | none => exact .inr (.inl (follow_missing holder proper found))
      | some e =>
        have unlinked : ∀ target, e ≠ .link target := by
          rintro target rfl
          apply straight.unlinked (here ++ [name]) _ target
          · rw [Entry.at?_snoc holder, found]
          · rw [step]
            exact List.prefix_append _ _
        rw [follow_entry holder proper found unlinked]
        rw [step] at straight ⊢
        exact ih straight
    · exact .inr (.inr (follow_outside (not_exists.mp holder)))

theorem straight_of_resolveFrom (rooted : root.Rooted) {depth : Nat} {opened : List (List String)}
    (straight : root.Straight here) (h : resolveFrom root depth opened here names = (place, true)) :
    root.Straight place := by
  fun_induction resolveFrom root depth opened here names generalizing place with
  | case1 depth opened here => cases h; exact straight
  | case2 depth opened here names ih => exact ih straight h
  | case3 depth opened here names other ih => exact ih straight.dropLast h
  | case4 | case6 | case7 => cases h
  | case5 opened here name names itself up next target depth linked fresh inner led first =>
    rename_i rest
    have start : root.Straight (if isAbsolute target then [] else here) := by
      split
      · exact Entry.straight_nil rooted
      · exact straight
    exact rest (first start led) h
  | case8 opened here name names itself up next depth some_left none_left =>
    rename_i ih
    refine ih (straight.concat ⟨itself, up⟩ ?_) h
    intro target linked
    cases depth with
    | zero => exact none_left target linked rfl
    | succ depth => exact some_left target depth linked rfl

theorem straight_of_resolve (rooted : root.Rooted) {cwd : List String} {p : Path}
    (loopless : Loopless root cwd p) (h : resolve root cwd p = .ok place) :
    root.Straight place := by
  have straight : root.Straight
      (resolveFrom root (root.linkCount + 1) [] [] (namesFrom cwd p)).1 :=
    straight_of_resolveFrom rooted (Entry.straight_nil rooted) (Prod.ext rfl loopless)
  rw [resolve, normalized_of_proper straight.proper] at h
  split at h
  · cases h
  · cases h
    exact straight

end

end FileTree

end TemplateLint
